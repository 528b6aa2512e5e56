import Criteria.Proofs.Sql.Reading
import Mathlib.Data.List.Basic

/-!
# Texts and their tokens

The tokens of a text are those of its parts one after another, if the parts are runs, literals, or such texts with
a separator between them.
-/

namespace Criteria.Sql

/-- A text has given tokens, wherever it stands between separators. -/
def Lexes (text : List Char) (tokens : List Token) : Prop :=
  ∀ before, ∃ l, text.foldl Lexer.read ⟨before, .nothing⟩ = l ∧ (∀ t, l.pending ≠ .literal t) ∧
    l.close = before ++ tokens

/-- A character that belongs to no run and begins no literal. -/
def IsSeparator (c : Char) : Prop :=
  kindOf? c = none ∧ c ≠ '\''

theorem lexes_nil : Lexes [] [] := by
  intro before
  refine ⟨⟨before, .nothing⟩, rfl, ?_, (List.append_nil before).symm⟩
  rintro t ⟨⟩

theorem Lexer.read_separator {l : Lexer} (outside : ∀ t, l.pending ≠ .literal t) {c : Char}
    (separator : IsSeparator c) : l.read c = ⟨l.close ++ separatorTokens c, .nothing⟩ := by
  rcases separator with ⟨noRun, noQuote⟩
  rcases l with ⟨tokens, pending⟩
  cases pending with
  | literal t => exact absurd rfl (outside t)
  | nothing => simp only [read, noRun, if_neg noQuote]
  | run kind text => simp only [read, noRun, if_neg noQuote]

/-- Two texts with a separator between them. -/
theorem Lexes.append {text other : List Char} {tokens others : List Token} (first : Lexes text tokens)
    (second : Lexes other others) {c : Char} (separator : IsSeparator c) :
    Lexes (text ++ c :: other) (tokens ++ (separatorTokens c ++ others)) := by
  intro before
  obtain ⟨l, read, outside, closed⟩ := first before
  have between := Lexer.read_separator outside separator
  rw [closed] at between
  obtain ⟨k, readOther, outsideOther, closedOther⟩ := second (before ++ tokens ++ separatorTokens c)
  refine ⟨k, ?_, outsideOther, ?_⟩
  · rw [List.foldl_append, List.foldl_cons, read, between]
    exact readOther
  · rw [closedOther, List.append_assoc, List.append_assoc]

/-! ## Runs and literals -/

/-- A text that is one run of a kind. -/
structure IsRun (kind : RunKind) (text : List Char) : Prop where
  nonempty : text ≠ []
  same : ∀ c ∈ text, kindOf? c = some kind

instance (kind : RunKind) (text : List Char) : Decidable (IsRun kind text) :=
  decidable_of_iff ((!text.isEmpty && text.all fun c => kindOf? c == some kind) = true) (by
    rw [Bool.and_eq_true, Bool.not_eq_true', List.isEmpty_eq_false_iff, List.all_eq_true]
    simp only [beq_iff_eq]
    exact ⟨fun h => ⟨h.1, h.2⟩, fun h => ⟨h.nonempty, h.same⟩⟩)

theorem foldl_run {kind : RunKind} {text : List Char} (run : ∀ c ∈ text, kindOf? c = some kind)
    (tokens : List Token) (begun : List Char) :
    text.foldl Lexer.read ⟨tokens, .run kind begun⟩ = ⟨tokens, .run kind (begun ++ text)⟩ := by
  induction text generalizing begun with
  | nil => rw [List.append_nil]; rfl
  | cons c text ih =>
      obtain ⟨here, later⟩ := List.forall_mem_cons.mp run
      have next : Lexer.read ⟨tokens, .run kind begun⟩ c = ⟨tokens, .run kind (begun ++ [c])⟩ := by
        simp only [Lexer.read, here, Lexer.readRun, if_true]
      rw [List.foldl_cons, next, ih later, List.append_assoc, List.singleton_append]

/-- A run is one token. -/
theorem lexes_run {kind : RunKind} {text : List Char} (run : IsRun kind text) :
    Lexes text [.run kind text] := by
  intro before
  rcases run with ⟨nonempty, run⟩
  cases text with
  | nil => exact absurd rfl nonempty
  | cons c text =>
      obtain ⟨here, later⟩ := List.forall_mem_cons.mp run
      have begun : Lexer.read ⟨before, .nothing⟩ c = ⟨before, .run kind [c]⟩ := by
        simp only [Lexer.read, here, Lexer.readRun, Lexer.close]
      refine ⟨⟨before, .run kind (c :: text)⟩, ?_, ?_, rfl⟩
      · rw [List.foldl_cons, begun]
        exact foldl_run later before [c]
      · rintro t ⟨⟩

theorem foldl_literal {text : List Char} (noQuote : '\'' ∉ text) (tokens : List Token) (begun : List Char) :
    text.foldl Lexer.read ⟨tokens, .literal begun⟩ = ⟨tokens, .literal (begun ++ text)⟩ := by
  induction text generalizing begun with
  | nil => rw [List.append_nil]; rfl
  | cons c text ih =>
      rw [List.mem_cons, not_or] at noQuote
      have next : Lexer.read ⟨tokens, .literal begun⟩ c = ⟨tokens, .literal (begun ++ [c])⟩ := by
        simp only [Lexer.read, if_neg (Ne.symm noQuote.1)]
      rw [List.foldl_cons, next, ih noQuote.2, List.append_assoc, List.singleton_append]

/-- A literal is one token. -/
theorem lexes_literal {text : List Char} (noQuote : '\'' ∉ text) :
    Lexes ('\'' :: (text ++ ['\''])) [.literal text] := by
  intro before
  refine ⟨⟨before ++ [.literal text], .nothing⟩, ?_, ?_, rfl⟩
  · have begun : Lexer.read ⟨before, .nothing⟩ '\'' = ⟨before, .literal []⟩ := rfl
    rw [List.foldl_cons, begun, List.foldl_append, foldl_literal noQuote]
    rfl
  · rintro t ⟨⟩

theorem lex_eq {text : List Char} {tokens : List Token} (h : Lexes text tokens) : lex text = tokens := by
  obtain ⟨l, read, -, closed⟩ := h []
  rw [lex, Lexer.start, read]
  exact closed

end Criteria.Sql
