/-!
# Scanning text

Small scanners over lists of characters from which the readers of documents and of markup are
built.  A reader that looks at one place is a function from the text that begins there to an
optional result; `search` finds the first place where such a reader succeeds.

Main statements: a cut text can be put together again (`eq_of_cut?`), and what was put together at a
mark is cut there (`cut?_append`); a search splits the text where its reader succeeded
(`search_eq_some`), and a search without result has none anywhere (`search_eq_none_iff`).
-/

namespace ComponentSpec
namespace Text

/-! ## Cutting at a mark -/

/-- The parts of the text before and after the first `mark`. -/
def cut? (mark : Char) : List Char → Option (List Char × List Char)
  | [] => none
  | c :: rest =>
      if c == mark then some ([], rest)
      else (cut? mark rest).map fun (before, after) => (c :: before, after)

theorem eq_of_cut? {mark : Char} {s before after : List Char}
    (h : cut? mark s = some (before, after)) : s = before ++ mark :: after := by
  induction s generalizing before with
  | nil => simp [cut?] at h
  | cons c rest ih =>
      rw [cut?] at h
      split at h
      · rename_i hc
        have hc : c = mark := by simpa using hc
        simp only [Option.some.injEq, Prod.mk.injEq] at h
        simp [← h.1, ← h.2, hc]
      · simp only [Option.map_eq_some_iff, Prod.exists, Prod.mk.injEq] at h
        obtain ⟨b, a, hba, rfl, rfl⟩ := h
        simp [ih hba]

theorem cut?_append {mark : Char} {before : List Char} (h : mark ∉ before) (after : List Char) :
    cut? mark (before ++ mark :: after) = some (before, after) := by
  induction before with
  | nil => simp [cut?]
  | cons c rest ih =>
      have hc : c ≠ mark := fun e => h (by simp [e])
      have hrest : mark ∉ rest := fun hmem => h (List.mem_cons_of_mem _ hmem)
      simp [cut?, hc, ih hrest]

theorem not_mem_of_cut? {mark : Char} {s before after : List Char}
    (h : cut? mark s = some (before, after)) : mark ∉ before := by
  induction s generalizing before with
  | nil => simp [cut?] at h
  | cons c rest ih =>
      rw [cut?] at h
      split at h
      · simp only [Option.some.injEq, Prod.mk.injEq] at h
        simp [← h.1]
      · rename_i hc
        simp only [Option.map_eq_some_iff, Prod.exists, Prod.mk.injEq] at h
        obtain ⟨b, a, hba, rfl, rfl⟩ := h
        have hc : mark ≠ c := fun e => hc (by simp [e])
        simp [ih hba, hc]

theorem length_of_cut? {mark : Char} {s before after : List Char}
    (h : cut? mark s = some (before, after)) : s.length = before.length + after.length + 1 := by
  rw [eq_of_cut? h, List.length_append, List.length_cons]
  omega

theorem cut?_eq_none_iff {mark : Char} {s : List Char} : cut? mark s = none ↔ mark ∉ s := by
  induction s with
  | nil => simp [cut?]
  | cons c rest ih =>
      by_cases hc : c = mark
      · simp [cut?, hc]
      · simp [cut?, hc, ih, Ne.symm hc]

/-! ## Splitting at every mark -/

/-- The pieces of the text between the marks; a text without a mark is one piece. -/
def pieces (mark : Char) : List Char → List (List Char)
  | [] => [[]]
  | c :: rest =>
      if c == mark then [] :: pieces mark rest
      else
        match pieces mark rest with
        | [] => [[c]]
        | piece :: others => (c :: piece) :: others

/-- The lines of a text. -/
def lines (s : List Char) : List (List Char) :=
  pieces '\n' s

theorem pieces_ne_nil (mark : Char) (s : List Char) : pieces mark s ≠ [] := by
  cases s with
  | nil => simp [pieces]
  | cons c rest =>
      rw [pieces]
      split
      · simp
      · split <;> simp

theorem length_le_of_mem_pieces {mark : Char} {s piece : List Char} (h : piece ∈ pieces mark s) :
    piece.length ≤ s.length := by
  induction s generalizing piece with
  | nil => simp_all [pieces]
  | cons c rest ih =>
      rw [pieces] at h
      split at h
      · rcases List.mem_cons.1 h with rfl | h
        · simp
        · exact Nat.le_succ_of_le (ih h)
      · split at h
        · rename_i hnil
          exact absurd hnil (pieces_ne_nil mark rest)
        · rename_i first others hcons
          rcases List.mem_cons.1 h with rfl | h
          · simpa using ih (hcons ▸ List.mem_cons_self ..)
          · exact Nat.le_succ_of_le (ih (hcons ▸ List.mem_cons_of_mem _ h))

theorem not_mem_of_mem_pieces {mark : Char} {s piece : List Char} (h : piece ∈ pieces mark s) :
    mark ∉ piece := by
  induction s generalizing piece with
  | nil => simp_all [pieces]
  | cons c rest ih =>
      rw [pieces] at h
      split at h
      · rcases List.mem_cons.1 h with rfl | h
        · simp
        · exact ih h
      · rename_i hc
        have hc : mark ≠ c := fun e => hc (by simp [e])
        split at h
        · rename_i hnil
          exact absurd hnil (pieces_ne_nil mark rest)
        · rename_i first others hcons
          rcases List.mem_cons.1 h with rfl | h
          · simp [hc, ih (hcons ▸ List.mem_cons_self ..)]
          · exact ih (hcons ▸ List.mem_cons_of_mem _ h)

/-- The text between an opening mark at its beginning and a closing mark at its end.  When the two
marks are equal, one character may be both. -/
def enclosed? (opening closing : Char) : List Char → Option (List Char)
  | [] => none
  | c :: rest =>
      if c == opening && (c :: rest).getLast? == some closing then some rest.dropLast else none

theorem length_lt_of_enclosed? {opening closing : Char} {s inner : List Char}
    (h : enclosed? opening closing s = some inner) : inner.length < s.length := by
  cases s with
  | nil => simp [enclosed?] at h
  | cons c rest =>
      simp only [enclosed?, Option.ite_none_right_eq_some, Option.some.injEq] at h
      rw [← h.2, List.length_dropLast, List.length_cons]
      omega

/-! ## Searching -/

/-- The first place where the reader succeeds: the text before it and the reader's result. -/
def search {α : Type} (read? : List Char → Option α) : List Char → Option (List Char × α)
  | [] => (read? []).map ([], ·)
  | c :: rest =>
      match read? (c :: rest) with
      | some result => some ([], result)
      | none => (search read? rest).map fun (before, result) => (c :: before, result)

theorem search_eq_some {α : Type} {read? : List Char → Option α} {s before : List Char} {a : α}
    (h : search read? s = some (before, a)) :
    ∃ place, s = before ++ place ∧ read? place = some a := by
  induction s generalizing before with
  | nil =>
      simp only [search, Option.map_eq_some_iff, Prod.mk.injEq] at h
      obtain ⟨_, hr, rfl, rfl⟩ := h
      exact ⟨[], rfl, hr⟩
  | cons c rest ih =>
      rw [search] at h
      split at h
      · rename_i result hr
        simp only [Option.some.injEq, Prod.mk.injEq] at h
        obtain ⟨rfl, rfl⟩ := h
        exact ⟨c :: rest, rfl, hr⟩
      · simp only [Option.map_eq_some_iff, Prod.exists, Prod.mk.injEq] at h
        obtain ⟨b, a', hba, rfl, rfl⟩ := h
        obtain ⟨place, rfl, hp⟩ := ih hba
        exact ⟨place, rfl, hp⟩

theorem search_eq_none_iff {α : Type} {read? : List Char → Option α} {s : List Char} :
    search read? s = none ↔ ∀ place, place <:+ s → read? place = none := by
  induction s with
  | nil => simp [search]
  | cons c rest ih =>
      rw [search]
      constructor
      · intro h place hp
        split at h
        · simp at h
        · rename_i hr
          rcases List.suffix_cons_iff.1 hp with rfl | hp
          · exact hr
          · exact ih.1 (by simpa using h) place hp
      · intro h
        rw [h _ (List.suffix_refl _)]
        simpa using ih.2 fun place hp => h place (hp.trans (List.suffix_cons c rest))

/-- Whether the reader succeeds at some place of the text. -/
def matchesSomewhere {α : Type} (read? : List Char → Option α) (s : List Char) : Bool :=
  (search read? s).isSome

/-- Whether the fragment occurs in the text. -/
def occurs (fragment s : List Char) : Bool :=
  matchesSomewhere (List.isPrefixOf? fragment) s

/-- The text without a line feed at its end. -/
def dropFinalNewline (s : List Char) : List Char :=
  if s.getLast? == some '\n' then s.dropLast else s

theorem length_dropFinalNewline_le (s : List Char) : (dropFinalNewline s).length ≤ s.length := by
  unfold dropFinalNewline
  split <;> simp

/-- The text with every carriage return, alone or before a line feed, read as a line feed. -/
def unifyLineEnds : List Char → List Char
  | '\r' :: '\n' :: rest => '\n' :: unifyLineEnds rest
  | c :: rest => (if c == '\r' then '\n' else c) :: unifyLineEnds rest
  | [] => []

end Text
end ComponentSpec
