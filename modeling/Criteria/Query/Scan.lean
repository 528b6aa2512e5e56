import Criteria.Query.Scalar

/-!
# Scanning

A scan reads the text of a query from a place onwards.  It finds something and the place behind it, or fails;
in both cases it tells how far it got: the last place at which a part with a name was looked for and not
found.  Where the grammar has a choice the first alternative that is found is taken for good.
-/

namespace Criteria.Query

/-- A place in a text: what follows, and the number of characters in front. -/
structure Cursor where
  rest : List Char
  offset : Nat

/-- The beginning of a text. -/
def Cursor.start (text : List Char) : Cursor :=
  ⟨text, 0⟩

/-- A stretch of a text, by the numbers of characters in front of its ends. -/
structure Span where
  start : Nat
  stop : Nat
  deriving DecidableEq

/-- What a scan comes to: how far it got, and what it found. -/
structure Outcome (α : Type) where
  reach : Nat
  found : Option (α × Cursor)

/-- A way to read a text from a place onwards. -/
def Scan (α : Type) : Type :=
  Cursor → Outcome α

namespace Scan

variable {α β : Type}

/-- Finds a given thing without reading. -/
def pure (a : α) : Scan α :=
  fun c => ⟨0, some (a, c)⟩

/-- Reads one thing after another. -/
def bind (scan : Scan α) (next : α → Scan β) : Scan β :=
  fun c =>
    match scan c with
    | ⟨reach, none⟩ => ⟨reach, none⟩
    | ⟨reach, some (a, c)⟩ =>
        let outcome := next a c
        ⟨max reach outcome.reach, outcome.found⟩

instance : Monad Scan where
  pure := pure
  bind := bind

/-- Finds nothing. -/
def fail : Scan α :=
  fun _ => ⟨0, none⟩

/-- The first of two scans that finds something. -/
def orElse (first second : Scan α) : Scan α :=
  fun c =>
    match first c with
    | ⟨reach, none⟩ =>
        let outcome := second c
        ⟨max reach outcome.reach, outcome.found⟩
    | outcome => outcome

/-- The first of several scans that finds something. -/
def oneOf : List (Scan α) → Scan α
  | [] => fail
  | [scan] => scan
  | scan :: scans => orElse scan (oneOf scans)

/-- What a scan finds, or nothing. -/
def optional (scan : Scan α) : Scan (Option α) :=
  fun c =>
    match scan c with
    | ⟨reach, none⟩ => ⟨reach, some (none, c)⟩
    | ⟨reach, some (a, c)⟩ => ⟨reach, some (some a, c)⟩

/-- Looks whether a scan would find something here, and stays here. -/
def ahead (scan : Scan α) : Scan Unit :=
  fun c =>
    match scan c with
    | ⟨reach, none⟩ => ⟨reach, none⟩
    | ⟨reach, some _⟩ => ⟨reach, some ((), c)⟩

/-- A part with a name: gives its stretch too, and notes the place where it was not found. -/
def node (scan : Scan α) : Scan (Span × α) :=
  fun c =>
    match scan c with
    | ⟨reach, none⟩ => ⟨max reach c.offset, none⟩
    | ⟨reach, some (a, d)⟩ => ⟨reach, some ((⟨c.offset, d.offset⟩, a), d)⟩

/-- A part with a name of which only the stretch matters. -/
def mark (scan : Scan Unit) : Scan Span :=
  bind (node scan) fun found => pure found.1

/-- One character that passes a test. -/
def one (test : Char → Bool) : Scan Unit :=
  fun c =>
    match c.rest with
    | d :: rest => if test d then ⟨0, some ((), ⟨rest, c.offset + 1⟩)⟩ else ⟨0, none⟩
    | [] => ⟨0, none⟩

/-- A given character. -/
def char (expected : Char) : Scan Unit :=
  one (· == expected)

/-- The characters of a text one after another. -/
def chars : List Char → Scan Unit
  | [] => pure ()
  | c :: rest => bind (char c) fun _ => chars rest

/-- Anything but a given character, which is not read. -/
def notAhead (unexpected : Char) : Scan Unit :=
  fun c => if c.rest.head? = some unexpected then ⟨0, none⟩ else ⟨0, some ((), c)⟩

/-- The end of the text. -/
def ending : Scan Unit :=
  fun c => if c.rest.isEmpty then ⟨0, some ((), c)⟩ else ⟨0, none⟩

/-- All characters that may stand between parts. -/
def gap : Scan Unit :=
  fun c =>
    let (taken, rest) := readWhile isGap c.rest
    ⟨0, some ((), ⟨rest, c.offset + taken.length⟩)⟩

/-- One or more characters that pass a test. -/
def run (test : Char → Bool) : Scan (List Char) :=
  fun c =>
    match readWhile test c.rest with
    | ([], _) => ⟨0, none⟩
    | (taken, rest) => ⟨0, some (taken, ⟨rest, c.offset + taken.length⟩)⟩

/-- A quoted text. -/
def quotedText : Scan (List Char) :=
  fun c =>
    match c.rest with
    | '"' :: rest =>
        match readQuoted rest with
        | none => ⟨0, none⟩
        | some (text, taken, rest) => ⟨0, some (text, ⟨rest, c.offset + 1 + taken⟩)⟩
    | _ => ⟨0, none⟩

/-- As many further finds as there are, with gaps in front; the first argument bounds their number. -/
def further (scan : Scan α) : Nat → Scan (List α)
  | 0 => pure []
  | fuel + 1 => fun c =>
      match bind gap (fun _ => scan) c with
      | ⟨reach, none⟩ => ⟨reach, some ([], c)⟩
      | ⟨reach, some (a, c)⟩ =>
          let outcome := further scan fuel c
          ⟨max reach outcome.reach, outcome.found.map fun (as, c) => (a :: as, c)⟩

/-- As many finds as there are, with gaps between them; the first argument bounds their number. -/
def many (fuel : Nat) (scan : Scan α) : Scan (List α) :=
  fun c =>
    match scan c with
    | ⟨reach, none⟩ => ⟨reach, some ([], c)⟩
    | ⟨reach, some (a, c)⟩ =>
        let outcome := further scan fuel c
        ⟨max reach outcome.reach, outcome.found.map fun (as, c) => (a :: as, c)⟩

end Scan

end Criteria.Query
