import ComponentSpec.Text.Scan
import ComponentSpec.Text.Word
import Mathlib.Data.List.Forall2
import Mathlib.Data.List.Induction

/-!
# Line ends of two characters

On some systems a line ends with a carriage return and a line feed.  A text gets such line ends by
a carriage return before each line feed.  Both characters are blank, and neither stands in a keyword
or is a mark that a scanner looks for, except that the line feed parts lines.  So the scanners find
in the new text what they find in the old one.

Main statements: trimming, cutting and searching commute with the change of line ends
(`trim_withReturns`, `cut?_withReturns`, `search_withReturns`), and the lines of the new text have
the content of the old ones (`lines_withReturns`).
-/

namespace ComponentSpec
namespace Text

/-! ## Changing line ends -/

/-- The text with a carriage return before each line feed. -/
def withReturns (s : List Char) : List Char :=
  s.flatMap fun c => if c = '\n' then ['\r', '\n'] else [c]

theorem withReturns_newline (s : List Char) :
    withReturns ('\n' :: s) = '\r' :: '\n' :: withReturns s :=
  rfl

theorem withReturns_cons {c : Char} (hc : c ≠ '\n') (s : List Char) :
    withReturns (c :: s) = c :: withReturns s := by
  simp [withReturns, hc]

theorem withReturns_append (s t : List Char) :
    withReturns (s ++ t) = withReturns s ++ withReturns t :=
  List.flatMap_append

theorem withReturns_of_not_mem {s : List Char} (h : '\n' ∉ s) : withReturns s = s := by
  induction s with
  | nil => rfl
  | cons c s ih =>
      have hc : c ≠ '\n' := fun heq => h (heq ▸ List.mem_cons_self ..)
      rw [withReturns_cons hc, ih fun hmem => h (List.mem_cons_of_mem _ hmem)]

theorem isEmpty_withReturns (s : List Char) : (withReturns s).isEmpty = s.isEmpty := by
  cases s with
  | nil => rfl
  | cons c s =>
      by_cases hc : c = '\n'
      · rw [hc, withReturns_newline]
        rfl
      · rw [withReturns_cons hc]
        rfl

/-! ## Classes of characters -/

section

variable {p : Char → Bool}

/-- A class that does not tell the two characters of a line end apart keeps or drops both. -/
theorem dropWhile_withReturns (hp : p '\r' = p '\n') (s : List Char) :
    (withReturns s).dropWhile p = withReturns (s.dropWhile p) := by
  induction s with
  | nil => rfl
  | cons c s ih =>
      by_cases hc : c = '\n'
      · subst hc
        rw [withReturns_newline, List.dropWhile_cons, List.dropWhile_cons, List.dropWhile_cons, hp]
        split
        · exact ih
        · rfl
      · rw [withReturns_cons hc, List.dropWhile_cons, List.dropWhile_cons]
        split
        · exact ih
        · exact (withReturns_cons hc s).symm

theorem takeWhile_withReturns (hreturn : p '\r' = false) (hnewline : p '\n' = false)
    (s : List Char) : (withReturns s).takeWhile p = s.takeWhile p := by
  induction s with
  | nil => rfl
  | cons c s ih =>
      by_cases hc : c = '\n'
      · subst hc
        rw [withReturns_newline, List.takeWhile_cons_of_neg (by simp [hreturn]),
          List.takeWhile_cons_of_neg (by simp [hnewline])]
      · rw [withReturns_cons hc, List.takeWhile_cons, List.takeWhile_cons, ih]

end

theorem takeWhile_isWord_withReturns (s : List Char) :
    (withReturns s).takeWhile isWord = s.takeWhile isWord :=
  takeWhile_withReturns (isWord_delimiter (by decide)) (isWord_delimiter (by decide)) s

theorem dropWhile_isWord_withReturns (s : List Char) :
    (withReturns s).dropWhile isWord = withReturns (s.dropWhile isWord) := by
  have hreturn : isWord '\r' = false := isWord_delimiter (by decide)
  have hnewline : isWord '\n' = false := isWord_delimiter (by decide)
  exact dropWhile_withReturns (hreturn.trans hnewline.symm) s

/-! ## Trimming -/

theorem trimLeft_withReturns (s : List Char) :
    trimLeft (withReturns s) = withReturns (trimLeft s) :=
  dropWhile_withReturns (by decide) s

theorem trimRight_concat (s : List Char) (c : Char) :
    trimRight (s ++ [c]) = if isBlank c then trimRight s else s ++ [c] := by
  rw [trimRight, List.reverse_concat, List.dropWhile_cons]
  split
  · rfl
  · rw [List.reverse_cons, List.reverse_reverse]

theorem trimRight_withReturns (s : List Char) :
    trimRight (withReturns s) = withReturns (trimRight s) := by
  -- The last character goes first, so the induction is from the right.
  induction s using List.reverseRecOn with
  | nil => rfl
  | append_singleton s c ih =>
      have hreturn : isBlank '\r' = true := by decide
      have hnewline : isBlank '\n' = true := by decide
      rw [withReturns_append]
      by_cases hc : c = '\n'
      · have hend : withReturns s ++ withReturns ['\n'] = withReturns s ++ ['\r'] ++ ['\n'] := by
          simp [withReturns]
        rw [hc, hend, trimRight_concat, trimRight_concat, trimRight_concat, hreturn, hnewline]
        exact ih
      · rw [withReturns_of_not_mem (s := [c]) (by simpa using Ne.symm hc), trimRight_concat,
          trimRight_concat]
        split
        · exact ih
        · rw [withReturns_append, withReturns_of_not_mem (s := [c]) (by simpa using Ne.symm hc)]

theorem trim_withReturns (s : List Char) : trim (withReturns s) = withReturns (trim s) := by
  rw [trim, trim, trimLeft_withReturns, trimRight_withReturns]

/-! ## Scanning -/

theorem cut?_withReturns {mark : Char} (hreturn : mark ≠ '\r') (hnewline : mark ≠ '\n')
    (s : List Char) :
    cut? mark (withReturns s) =
      (cut? mark s).map fun (before, after) => (withReturns before, withReturns after) := by
  induction s with
  | nil => rfl
  | cons c s ih =>
      by_cases hc : c = '\n'
      · subst hc
        simp only [withReturns_newline, cut?, beq_iff_eq, hreturn.symm, hnewline.symm, if_false, ih,
          Option.map_map]
        rfl
      · rw [withReturns_cons hc, cut?, cut?]
        split
        · rfl
        · rw [ih, Option.map_map, Option.map_map]
          congr 1
          funext parts
          exact Prod.ext (withReturns_cons hc parts.1).symm rfl

theorem isPrefixOf?_withReturns {keyword : List Char} (hreturn : '\r' ∉ keyword)
    (hnewline : '\n' ∉ keyword) (s : List Char) :
    List.isPrefixOf? keyword (withReturns s) = (List.isPrefixOf? keyword s).map withReturns := by
  induction keyword generalizing s with
  | nil => rfl
  | cons k keyword ih =>
      rw [List.mem_cons, not_or] at hreturn hnewline
      cases s with
      | nil => rfl
      | cons c s =>
          by_cases hc : c = '\n'
          · subst hc
            simp [withReturns_newline, List.isPrefixOf?, Ne.symm hreturn.1, Ne.symm hnewline.1]
          · rw [withReturns_cons hc, List.isPrefixOf?, List.isPrefixOf?]
            split
            · exact ih hreturn.2 hnewline.2 s
            · rfl

theorem isPrefixOf?_mark_cons (mark : Char) (s : List Char) :
    List.isPrefixOf? [mark] (mark :: s) = some s := by
  simp [List.isPrefixOf?]

theorem isPrefixOf?_mark_eq_none {mark : Char} {s : List Char} (h : ∀ rest, s ≠ mark :: rest) :
    List.isPrefixOf? [mark] s = none := by
  cases s with
  | nil => rfl
  | cons c s =>
      have hc : mark ≠ c := fun heq => h s (heq ▸ rfl)
      simp [List.isPrefixOf?, hc]

/-- A reader that finds nothing at a line feed finds the same places. -/
theorem search_withReturns {α : Type} {read? : List Char → Option α} {g : α → α}
    (hread : ∀ s, read? (withReturns s) = (read? s).map g)
    (hnewline : ∀ s, read? ('\n' :: s) = none) (s : List Char) :
    search read? (withReturns s) =
      (search read? s).map fun (before, a) => (withReturns before, g a) := by
  induction s with
  | nil =>
      have hnil : read? [] = (read? []).map g := hread []
      rw [withReturns, List.flatMap_nil, search]
      cases hfound : read? [] with
      | none => rfl
      | some a =>
          rw [hfound] at hnil
          have ha : a = g a := Option.some.inj hnil
          exact congrArg (fun b => some ([], b)) ha
  | cons c s ih =>
      have hhere := hread (c :: s)
      by_cases hc : c = '\n'
      · subst hc
        -- Nothing begins at the carriage return, because nothing began at the old line feed.
        rw [hnewline, withReturns_newline] at hhere
        simp only [withReturns_newline, search, hhere, hnewline, ih, Option.map_none,
          Option.map_map]
        rfl
      · rw [withReturns_cons hc] at hhere
        rw [withReturns_cons hc, search, search, hhere]
        cases read? (c :: s) with
        | some a => rfl
        | none =>
            simp only [Option.map_none, ih, Option.map_map]
            congr 1
            funext found
            exact Prod.ext (withReturns_cons hc found.1).symm rfl

/-! ## Lines -/

/-- Two lines differ in blanks at their ends only. -/
structure SameContent (line other : List Char) : Prop where
  trim_eq : trim line = trim other
  indentation_eq : trim other ≠ [] → indentation line = indentation other

/-- A blank after a line is one more blank at its end. -/
theorem sameContent_concat {c : Char} (hc : isBlank c = true) (line : List Char) :
    SameContent (line ++ [c]) line where
  trim_eq := by
    rw [trim, trim, trimLeft, List.dropWhile_append]
    split
    · rename_i hnil
      rw [trimLeft, List.isEmpty_iff.1 hnil, List.dropWhile_cons_of_pos hc, List.dropWhile_nil]
    · rw [trimRight_concat, if_pos hc, trimLeft]
  indentation_eq := by
    intro hsome
    rw [indentation, indentation, List.takeWhile_append]
    split
    · rename_i hall
      -- The line would be all indentation, so nothing of it would remain.
      have htake : line.takeWhile isBlank = line :=
        (List.takeWhile_prefix isBlank).eq_of_length hall
      have hdrop : trimLeft line = [] := by
        have happend := List.takeWhile_append_dropWhile (p := isBlank) (l := line)
        rw [htake] at happend
        exact List.append_right_eq_self.1 happend
      refine absurd ?_ hsome
      rw [trim, hdrop]
      rfl
    · rfl

/-- The lines of the new text end with the carriage returns, except the last one. -/
theorem pieces_withReturns (s : List Char) :
    List.Forall₂ (fun line other => line = other ∨ line = other ++ ['\r'])
      (pieces '\n' (withReturns s)) (pieces '\n' s) := by
  induction s with
  | nil => exact .cons (.inl rfl) .nil
  | cons c s ih =>
      by_cases hc : c = '\n'
      · subst hc
        -- The carriage return comes before the line feed, so it ends the line.
        exact .cons (.inr rfl) ih
      · have hmark : ¬ (c == '\n') = true := fun h => hc (beq_iff_eq.1 h)
        rw [withReturns_cons hc, pieces, pieces, if_neg hmark, if_neg hmark]
        generalize pieces '\n' (withReturns s) = changed at ih ⊢
        generalize pieces '\n' s = kept at ih ⊢
        cases ih with
        | nil => exact .cons (.inl rfl) .nil
        | cons hfirst hothers =>
            refine .cons ?_ hothers
            rcases hfirst with rfl | rfl
            · exact .inl rfl
            · exact .inr rfl

theorem lines_withReturns (s : List Char) :
    List.Forall₂ SameContent (lines (withReturns s)) (lines s) := by
  refine (pieces_withReturns s).imp ?_
  rintro line other (rfl | rfl)
  · exact ⟨rfl, fun _ => rfl⟩
  · exact sameContent_concat (by decide) other

end Text
end ComponentSpec
