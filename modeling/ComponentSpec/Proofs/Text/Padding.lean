import ComponentSpec.Text.Blank
import ComponentSpec.Text.Scan

/-!
# Padded and joined texts

A text is written with blanks around it, and several texts are joined by a mark with a gap after
it.  Trimming finds the text between the blanks, and splitting finds the texts between the marks.

Main statements: what trimming finds (`trim_pad`), also on the two sides of a character that is no
blank (`trim_append_cons`), and what splitting finds (`pieces_intercalate`).
-/

namespace ComponentSpec
namespace Text

/-! ## Where a run of characters ends -/

theorem dropWhile_of_head? {p : Char → Bool} {s : List Char}
    (h : ∀ c, s.head? = some c → p c = false) : s.dropWhile p = s := by
  cases s with
  | nil => rfl
  | cons c s => exact List.dropWhile_cons_of_neg (Bool.eq_false_iff.1 (h c rfl))

theorem takeWhile_append_of_head? {p : Char → Bool} {s rest : List Char} (hs : ∀ c ∈ s, p c = true)
    (hrest : ∀ c, rest.head? = some c → p c = false) : (s ++ rest).takeWhile p = s := by
  rw [List.takeWhile_append_of_pos hs]
  cases rest with
  | nil => simp
  | cons c rest => simp [hrest c rfl]

theorem dropWhile_append_of_head? {p : Char → Bool} {s rest : List Char} (hs : ∀ c ∈ s, p c = true)
    (hrest : ∀ c, rest.head? = some c → p c = false) : (s ++ rest).dropWhile p = rest := by
  rw [List.dropWhile_append_of_pos hs, dropWhile_of_head? hrest]

/-! ## Blanks around a text -/

theorem trimLeft_append {before : List Char} (hbefore : ∀ c ∈ before, isBlank c = true)
    (s : List Char) : trimLeft (before ++ s) = trimLeft s :=
  List.dropWhile_append_of_pos hbefore

theorem trimLeft_of_forall {s : List Char} (h : ∀ c ∈ s, isBlank c = true) : trimLeft s = [] := by
  have happend := trimLeft_append h []
  rwa [List.append_nil] at happend

theorem trimRight_append {after : List Char} (hafter : ∀ c ∈ after, isBlank c = true)
    (s : List Char) : trimRight (s ++ after) = trimRight s := by
  rw [trimRight, List.reverse_append,
    List.dropWhile_append_of_pos fun c hc => hafter c (List.mem_reverse.1 hc), trimRight]

theorem trim_append_left {before : List Char} (hbefore : ∀ c ∈ before, isBlank c = true)
    (s : List Char) : trim (before ++ s) = trim s :=
  congrArg trimRight (trimLeft_append hbefore s)

theorem trim_append_right {after : List Char} (hafter : ∀ c ∈ after, isBlank c = true)
    (s : List Char) : trim (s ++ after) = trim s := by
  rw [trim, trim, trimLeft, trimLeft, List.dropWhile_append]
  split
  · rename_i hnil
    have hempty : after.dropWhile isBlank = [] := trimLeft_of_forall hafter
    rw [List.isEmpty_iff.1 hnil, hempty]
  · exact trimRight_append hafter _

/-- Trimming removes what blanks were put around a text. -/
theorem trim_pad {before core after : List Char} (hbefore : ∀ c ∈ before, isBlank c = true)
    (hafter : ∀ c ∈ after, isBlank c = true) : trim (before ++ (core ++ after)) = trim core := by
  rw [trim_append_left hbefore, trim_append_right hafter]

theorem trim_eq_self {s : List Char} (hhead : ∀ c, s.head? = some c → isBlank c = false)
    (hlast : ∀ c, s.getLast? = some c → isBlank c = false) : trim s = s := by
  have hreverse : ∀ c, s.reverse.head? = some c → isBlank c = false := by
    intro c hc
    rw [List.head?_reverse] at hc
    exact hlast c hc
  rw [trim, trimLeft, dropWhile_of_head? hhead, trimRight, dropWhile_of_head? hreverse,
    List.reverse_reverse]

theorem trim_eq_self_of_forall {s : List Char} (h : ∀ c ∈ s, isBlank c = false) : trim s = s :=
  trim_eq_self (fun c hc => h c (List.mem_of_head? hc)) fun c hc => h c (List.mem_of_getLast? hc)

theorem trim_trim (s : List Char) : trim (trim s) = trim s :=
  trim_eq_self (fun _ hc => head_trim hc) fun _ hc => getLast_trim hc

/-- Nothing is trimmed of a text between a character that is no blank and a trimmed text. -/
theorem trim_cons_append {c : Char} (hc : isBlank c = false) (between : List Char)
    {last : List Char} (hlast : trim last = last) (hne : last ≠ []) :
    trim (c :: (between ++ last)) = c :: (between ++ last) := by
  refine trim_eq_self (fun d hd => ?_) fun d hd => getLast_trim (s := last) ?_
  · cases hd
    exact hc
  · rw [hlast, ← hd, ← List.cons_append, List.getLast?_append,
      List.getLast?_eq_some_getLast hne, Option.some_or]

theorem trimRight_append_cons {c : Char} (hc : isBlank c = false) (before after : List Char) :
    trimRight (before ++ c :: after) = before ++ c :: trimRight after := by
  rw [trimRight, trimRight, List.reverse_append, List.reverse_cons, List.append_assoc,
    List.dropWhile_append]
  split
  · rename_i hnil
    rw [List.isEmpty_iff.1 hnil, List.singleton_append,
      List.dropWhile_cons_of_neg (Bool.eq_false_iff.1 hc)]
    simp
  · simp

/-- Trimming does not reach over a character that is no blank. -/
theorem trim_append_cons {c : Char} (hc : isBlank c = false) (before after : List Char) :
    trim (before ++ c :: after) = trimLeft before ++ c :: trimRight after := by
  have hleft : trimLeft (before ++ c :: after) = trimLeft before ++ c :: after := by
    rw [trimLeft, trimLeft, List.dropWhile_append]
    split
    · rename_i hnil
      rw [List.isEmpty_iff.1 hnil, List.dropWhile_cons_of_neg (Bool.eq_false_iff.1 hc),
        List.nil_append]
    · rfl
  rw [trim, hleft, trimRight_append_cons hc]

theorem trim_trimLeft_append (s t : List Char) : trim (trimLeft s ++ t) = trim (s ++ t) := by
  have hsplit : s.takeWhile isBlank ++ trimLeft s = s := List.takeWhile_append_dropWhile
  have hblank : ∀ c ∈ s.takeWhile isBlank, isBlank c = true := List.all_eq_true.1 List.all_takeWhile
  rw [← trim_append_left hblank (trimLeft s ++ t), ← List.append_assoc, hsplit]

theorem trim_append_trimRight (s t : List Char) : trim (s ++ trimRight t) = trim (s ++ t) := by
  have hsplit : trimRight t ++ (t.reverse.takeWhile isBlank).reverse = t := by
    rw [trimRight, ← List.reverse_append, List.takeWhile_append_dropWhile, List.reverse_reverse]
  have hblank : ∀ c ∈ (t.reverse.takeWhile isBlank).reverse, isBlank c = true :=
    fun c hc => List.all_eq_true.1 List.all_takeWhile c (List.mem_reverse.1 hc)
  rw [← trim_append_right hblank (s ++ trimRight t), List.append_assoc, hsplit]

theorem trim_trimLeft (s : List Char) : trim (trimLeft s) = trim s := by
  simpa using trim_trimLeft_append s []

theorem trim_trimRight (s : List Char) : trim (trimRight s) = trim s :=
  trim_append_trimRight [] s

/-! ## Marks between texts -/

theorem pieces_append (mark : Char) (s t : List Char) :
    pieces mark (s ++ mark :: t) = pieces mark s ++ pieces mark t := by
  induction s with
  | nil => simp [pieces]
  | cons c rest ih =>
      rw [List.cons_append, pieces, pieces, ih]
      split
      · rfl
      · cases hpieces : pieces mark rest with
        | nil => exact absurd hpieces (pieces_ne_nil mark rest)
        | cons first others => rfl

theorem pieces_append_of_not_mem {mark : Char} {s : List Char} (h : mark ∉ s)
    {rest first : List Char} {others : List (List Char)} (hrest : pieces mark rest = first :: others) :
    pieces mark (s ++ rest) = (s ++ first) :: others := by
  induction s with
  | nil => exact hrest
  | cons c s ih =>
      have hc : ¬ (c == mark) = true := by
        intro hc
        exact h (beq_iff_eq.1 hc ▸ List.mem_cons_self ..)
      rw [List.cons_append, pieces, if_neg hc, ih fun hmem => h (List.mem_cons_of_mem _ hmem)]
      rfl

theorem pieces_of_not_mem {mark : Char} {s : List Char} (h : mark ∉ s) : pieces mark s = [s] := by
  have hnil : pieces mark [] = [] :: [] := rfl
  simpa using pieces_append_of_not_mem h hnil

/-- The pieces of a joined text are the texts, all but the first of them after a gap. -/
theorem pieces_intercalate {mark : Char} {gap first : List Char} {others : List (List Char)}
    (hgap : mark ∉ gap) (h : ∀ s ∈ first :: others, mark ∉ s) :
    pieces mark ((mark :: gap).intercalate (first :: others)) =
      first :: others.map (gap ++ ·) := by
  induction others generalizing first with
  | nil => simpa using pieces_of_not_mem (h first (List.mem_cons_self ..))
  | cons next others ih =>
      have hrest := ih fun s hs => h s (List.mem_cons_of_mem _ hs)
      rw [List.intercalate_cons_cons, List.append_assoc, List.cons_append,
        pieces_append, pieces_of_not_mem (h first (List.mem_cons_self ..)),
        pieces_append_of_not_mem hgap hrest]
      rfl

/-! ## Marks around a text -/

theorem enclosed?_of_ne {opening closing c : Char} (h : c ≠ opening) (rest : List Char) :
    enclosed? opening closing (c :: rest) = none := by
  simp [enclosed?, h]

theorem enclosed?_text (opening closing : Char) (inner : List Char) :
    enclosed? opening closing (opening :: (inner ++ [closing])) = some inner := by
  have hlast : (opening :: (inner ++ [closing])).getLast? = some closing := by
    rw [← List.cons_append, List.getLast?_concat]
  simp [enclosed?, hlast]

/-! ## Names and values around a colon -/

/-- The trimmed sides of the first colon. -/
def sides? (s : List Char) : Option (List Char × List Char) :=
  (cut? ':' s).map fun (name, raw) => (trim name, trim raw)

theorem sides?_append {name : List Char} (h : ':' ∉ name) (raw : List Char) :
    sides? (name ++ ':' :: raw) = some (trim name, trim raw) := by
  rw [sides?, cut?_append h]
  rfl

theorem sides?_eq_some_iff {s name raw : List Char} :
    sides? s = some (name, raw) ↔ ∃ before after, s = before ++ ':' :: after ∧ ':' ∉ before ∧
      trim before = name ∧ trim after = raw := by
  constructor
  · intro h
    rcases Option.map_eq_some_iff.1 h with ⟨⟨before, after⟩, hcut, hsides⟩
    cases hsides
    exact ⟨before, after, eq_of_cut? hcut, not_mem_of_cut? hcut, rfl, rfl⟩
  · rintro ⟨before, after, rfl, hbefore, rfl, rfl⟩
    exact sides?_append hbefore after

theorem colon_not_mem_of_isBlank {s : List Char} (h : ∀ c ∈ s, isBlank c = true) : ':' ∉ s :=
  fun hmem => absurd (h _ hmem) (by decide)

/-- A text may be trimmed before its sides are looked for. -/
theorem sides?_trim (s : List Char) : sides? (trim s) = sides? s := by
  cases hcut : cut? ':' s with
  | none =>
      have hnot : ':' ∉ s := cut?_eq_none_iff.1 hcut
      have hnone : cut? ':' (trim s) = none := cut?_eq_none_iff.2 fun h => hnot (trim_subset h)
      rw [sides?, sides?, hcut, hnone]
  | some parts =>
      rcases parts with ⟨name, raw⟩
      have hname := not_mem_of_cut? hcut
      rw [eq_of_cut? hcut, trim_append_cons (by decide), sides?_append hname,
        sides?_append fun h => hname (trimLeft_subset h), trim_trimLeft, trim_trimRight]

end Text
end ComponentSpec
