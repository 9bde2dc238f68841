import ComponentSpec.Proofs.Text.Padding
import ComponentSpec.Text.Caseless
import ComponentSpec.Text.Word

/-!
# Patterns

A pattern is a row of pieces: characters, which stand for themselves in any letter case, and runs of
characters of a class.  A text is spelled by a pattern when it can be divided among the pieces, in
whatever way.

A scanner does not try all divisions: it gives each run all it can take.  Nothing is lost by that
where what follows the run cannot begin with a character of its class.

Main statements: a pattern that occurs in a text occurs in every text around it
(`Pattern.Occurs.mono`), and a run may be given all it can take (`Pattern.stands_any_iff`,
`Pattern.stands_many_iff`).
-/

namespace ComponentSpec
namespace Text

/-- A class of characters. -/
inductive CharClass
  | word
  | blank
  | other (mark : Char)

namespace CharClass

/-- Whether the class has the character. -/
def has : CharClass → Char → Bool
  | word, c => isWord c
  | blank, c => isBlank c
  | other mark, c => c != mark

/-- How the class is written. -/
def shown : CharClass → String
  | word => "\\w"
  | blank => "\\s"
  | other mark => "[^" ++ mark.toString ++ "]"

end CharClass

/-- A piece of a pattern: a character given in small letters, or a run of characters of a class,
which has at least one character if it is a run of many. -/
inductive Piece
  | letter (small : Char)
  | any (kind : CharClass)
  | many (kind : CharClass)

/-- The marks that stand for themselves only after a backslash. -/
def escaped : List Char := ['(', '.']

/-- How the piece is written. -/
def Piece.shown : Piece → String
  | letter small => if escaped.contains small then "\\" ++ small.toString else small.toString
  | any kind => kind.shown ++ "*"
  | many kind => kind.shown ++ "+"

/-- A row of pieces. -/
abbrev Pattern := List Piece

/-- A text spelled by a pattern. -/
inductive Spells : Pattern → List Char → Prop
  | nil : Spells [] []
  | letter {small c : Char} {p : Pattern} {m : List Char} (hc : letterOf c = small)
      (h : Spells p m) : Spells (.letter small :: p) (c :: m)
  | any {kind : CharClass} {run : List Char} {p : Pattern} {m : List Char}
      (hrun : ∀ c ∈ run, kind.has c = true) (h : Spells p m) : Spells (.any kind :: p) (run ++ m)
  | many {kind : CharClass} {run : List Char} {p : Pattern} {m : List Char} (hne : run ≠ [])
      (hrun : ∀ c ∈ run, kind.has c = true) (h : Spells p m) : Spells (.many kind :: p) (run ++ m)

namespace Pattern

variable {p : Pattern} {kind : CharClass} {s t : List Char} {c : Char}

/-- How the pattern is written. -/
def shown (p : Pattern) : String :=
  String.join (p.map Piece.shown)

/-- The characters of a word, given in small letters. -/
def letters (word : List Char) : Pattern :=
  word.map .letter

/-- A text begins with something that the pattern spells. -/
def Stands (p : Pattern) (s : List Char) : Prop :=
  ∃ m, m <+: s ∧ Spells p m

/-- Something that the pattern spells is a piece of the text. -/
def Occurs (p : Pattern) (s : List Char) : Prop :=
  ∃ m, m <:+: s ∧ Spells p m

/-- What occurs in a text occurs in every text around it. -/
theorem Occurs.mono (h : p.Occurs s) (hst : s <:+: t) : p.Occurs t := by
  rcases h with ⟨m, hm, hspells⟩
  exact ⟨m, hm.trans hst, hspells⟩

theorem occurs_iff_stands : p.Occurs s ↔ ∃ place, place <:+ s ∧ p.Stands place := by
  constructor
  · rintro ⟨m, hm, hspells⟩
    rcases List.infix_iff_prefix_suffix.1 hm with ⟨place, hplace, hs⟩
    exact ⟨place, hs, m, hplace, hspells⟩
  · rintro ⟨place, hs, m, hplace, hspells⟩
    exact ⟨m, List.infix_iff_prefix_suffix.2 ⟨place, hplace, hs⟩, hspells⟩

/-! ## Characters -/

@[simp] theorem stands_nil : Stands [] s :=
  ⟨[], List.nil_prefix, .nil⟩

theorem stands_letter_iff {small : Char} :
    Stands (.letter small :: p) s ↔ ∃ c rest, s = c :: rest ∧ letterOf c = small ∧ p.Stands rest := by
  constructor
  · rintro ⟨m, ⟨rest, rfl⟩, hspells⟩
    cases hspells with
    | letter hc h => exact ⟨_, _, rfl, hc, _, List.prefix_append _ _, h⟩
  · rintro ⟨c, rest, rfl, hc, m, hm, h⟩
    exact ⟨c :: m, List.cons_prefix_cons.2 ⟨rfl, hm⟩, .letter hc h⟩

/-- A mark is found as it is. -/
theorem stands_mark_iff {mark : Char} (hlow : mark.toNat < 'A'.toNat)
    (hsame : letterOf mark = mark) : Stands [.letter mark] s ↔ s.head? = some mark := by
  rw [stands_letter_iff]
  constructor
  · rintro ⟨c, rest, rfl, hc, -⟩
    exact congrArg some (eq_of_letterOf hlow hc)
  · intro h
    rcases List.head?_eq_some_iff.1 h with ⟨rest, rfl⟩
    exact ⟨mark, rest, rfl, hsame, stands_nil⟩

/-- A word is found by dropping it. -/
theorem stands_letters_iff {word : List Char} :
    Stands (letters word ++ p) s ↔ ∃ rest, dropKeyword? word s = some rest ∧ p.Stands rest := by
  induction word generalizing s with
  | nil =>
      constructor
      · intro h
        exact ⟨s, rfl, h⟩
      · rintro ⟨_, ⟨⟩, h⟩
        exact h
  | cons small word ih =>
      apply stands_letter_iff.trans
      cases s with
      | nil =>
          apply iff_of_false
          · rintro ⟨_, _, hs, -⟩
            cases hs
          · rintro ⟨_, hrest, -⟩
            cases hrest
      | cons c s =>
          rw [dropKeyword?]
          constructor
          · rintro ⟨_, _, ⟨⟩, hc, h⟩
            rw [if_pos (beq_iff_eq.2 hc)]
            exact ih.1 h
          · rintro ⟨rest, hrest, h⟩
            rcases Option.ite_none_right_eq_some.1 hrest with ⟨hc, hrest⟩
            exact ⟨c, s, rfl, beq_iff_eq.1 hc, ih.2 ⟨rest, hrest, h⟩⟩

/-! ## Runs -/

/-- The characters with which something that the pattern spells can begin. -/
def Begins : Pattern → Char → Prop
  | [], _ => False
  | .letter small :: _, c => letterOf c = small
  | .any kind :: p, c => kind.has c = true ∨ Begins p c
  | .many kind :: _, c => kind.has c = true

theorem begins_of_spells {m : List Char} (h : Spells p m) (hc : m.head? = some c) :
    p.Begins c := by
  induction h with
  | nil => cases hc
  | letter hletter _ _ =>
      cases hc
      exact hletter
  | @any _ run _ _ hrun _ ih =>
      -- An empty run leaves the beginning to what follows it.
      cases run with
      | nil => exact .inr (ih hc)
      | cons d run =>
          cases hc
          exact .inl (hrun c (List.mem_cons_self ..))
  | @many _ run _ _ hne hrun _ _ =>
      cases run with
      | nil => exact absurd rfl hne
      | cons d run =>
          cases hc
          exact hrun c (List.mem_cons_self ..)

/-- A run ends where what follows it begins. -/
theorem stands_dropWhile (hnot : ∀ c, kind.has c = true → ¬ p.Begins c) {run m rest : List Char}
    (hrun : ∀ c ∈ run, kind.has c = true) (h : Spells p m) :
    p.Stands ((run ++ m ++ rest).dropWhile kind.has) := by
  cases m with
  | nil => exact ⟨[], List.nil_prefix, h⟩
  | cons d m =>
      -- The run was all that could be taken, as the next character is not of the class.
      have hd : kind.has d = false :=
        Bool.eq_false_iff.2 fun hd => hnot d hd (begins_of_spells h rfl)
      have hhead : ∀ c, (d :: m ++ rest).head? = some c → kind.has c = false := by
        rintro c ⟨⟩
        exact hd
      rw [List.append_assoc, dropWhile_append_of_head? hrun hhead]
      exact ⟨d :: m, List.prefix_append _ _, h⟩

theorem takeWhile_append_isPrefix {q : Char → Bool} {m : List Char} (hm : m <+: s.dropWhile q) :
    s.takeWhile q ++ m <+: s := by
  have hsplit := (List.prefix_append_right_inj (s.takeWhile q)).2 hm
  rwa [List.takeWhile_append_dropWhile] at hsplit

/-- A run may be given all it can take. -/
theorem stands_any_iff (hnot : ∀ c, kind.has c = true → ¬ p.Begins c) :
    Stands (.any kind :: p) s ↔ p.Stands (s.dropWhile kind.has) := by
  constructor
  · rintro ⟨_, ⟨rest, rfl⟩, hspells⟩
    cases hspells with
    | any hrun h => exact stands_dropWhile hnot hrun h
  · rintro ⟨m, hm, h⟩
    have hrun := List.all_eq_true.1 (List.all_takeWhile (l := s) (p := kind.has))
    exact ⟨s.takeWhile kind.has ++ m, takeWhile_append_isPrefix hm, .any hrun h⟩

/-- A run of at least one character may be given all it can take. -/
theorem stands_many_iff (hnot : ∀ c, kind.has c = true → ¬ p.Begins c) :
    Stands (.many kind :: p) s ↔
      s.takeWhile kind.has ≠ [] ∧ p.Stands (s.dropWhile kind.has) := by
  constructor
  · rintro ⟨_, ⟨rest, rfl⟩, hspells⟩
    cases hspells with
    | @many _ run _ m hne hrun h =>
        refine ⟨?_, stands_dropWhile hnot hrun h⟩
        rw [List.append_assoc, List.takeWhile_append_of_pos hrun]
        exact List.append_ne_nil_of_left_ne_nil hne _
  · rintro ⟨hne, m, hm, h⟩
    have hrun := List.all_eq_true.1 (List.all_takeWhile (l := s) (p := kind.has))
    exact ⟨s.takeWhile kind.has ++ m, takeWhile_append_isPrefix hm, .many hne hrun h⟩

end Pattern

end Text
end ComponentSpec
