import Criteria.Unicode.Derived

/-!
# Letters and numbers in names

Which characters a name may consist of.  Names follow version 17 of the standard, which adds the letters and numbers
below to those of the tables.
-/

namespace Criteria.Unicode

/-- The characters that names take for letters. -/
def nameLetters : CodeSet :=
  .unions [alphabetic,
    .ofText ["88F C5C CDC A7CE-A7CF A7D2 A7D4 A7F1 10940-10959 10EC5-10EC7 10EFA-10EFB 11B60-11B67 11DB0-11DDB",
    "16EA0-16EB8 16EBB-16ED3 16FF2-16FF6 187F8-187FF 18D09-18D1E 18D80-18DF2 1E6C0-1E6DE 1E6E0-1E6F5",
    "1E6FE-1E6FF 2B73A-2B73F 2CEA2-2CEAD 323B0-33479"]]

/-- The characters that names take for numbers. -/
def nameNumbers : CodeSet :=
  .unions [inCategories [.nd, .nl, .no], .ofText ["11DE0-11DE9 16FF4-16FF6"]]

/-- Decides whether a character is a letter. -/
def isLetter (c : Char) : Bool :=
  c.isAlpha || (128 ≤ c.toNat && nameLetters.contains c.toNat)

/-- Decides whether a character is a letter or a number. -/
def isLetterOrNumber (c : Char) : Bool :=
  c.isAlphanum || (128 ≤ c.toNat && (nameLetters.contains c.toNat || nameNumbers.contains c.toNat))

end Criteria.Unicode
