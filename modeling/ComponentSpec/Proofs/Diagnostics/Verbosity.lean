import ComponentSpec.Diagnostics
import Mathlib.Data.List.Basic

/-!
# What verbosity adds to the log

The lines of a report come in sections.  Verbosity concerns two of them: a failure is followed by
its details if it has any, and the findings that passed have a section of their own.  All other
sections are the same at both verbosities.  Only failures and warnings have lines above the level of
information, so what is added is information.

Main statements: the failures with their details (`exists_detailing`), the lines of one level above
information (`filter_lines`), and the laws of verbosity (`verbosityLaws`).
-/

namespace ComponentSpec
namespace Diagnostics

/-! ## Lines of findings -/

/-- The line of a finding at a level. -/
def findingLine (level : LogLevel) (finding : Finding) : LogLine :=
  ⟨level, findingText finding⟩

/-- The line that shows details. -/
def detailsLine (fields : Fields Datum) : LogLine :=
  ⟨.info, "Details: " ++ (Datum.object fields).display⟩

/-- A finding has these details to show. -/
def Shows (finding : Finding) (fields : Fields Datum) : Prop :=
  finding.details = some fields ∧ fields ≠ []

/-- Failures, the lines of their details in order, and the lines of both, in which the details of a
failure stand directly after it. -/
inductive Detailing : List Finding → List LogLine → List LogLine → Prop
  | nil : Detailing [] [] []
  | plain {finding : Finding} {failed : List Finding} {details full : List LogLine}
      (hnone : ∀ fields, ¬ Shows finding fields) (hrest : Detailing failed details full) :
      Detailing (finding :: failed) details (findingLine .error finding :: full)
  | detailed {finding : Finding} {fields : Fields Datum} {failed : List Finding}
      {details full : List LogLine} (hshows : Shows finding fields)
      (hrest : Detailing failed details full) :
      Detailing (finding :: failed) (detailsLine fields :: details)
        (findingLine .error finding :: detailsLine fields :: full)

variable {finding : Finding} {fields : Fields Datum} {failed : List Finding}
  {details full : List LogLine}

theorem detailLines_of_shows (h : Shows finding fields) :
    detailLines finding = [detailsLine fields] := by
  rcases h with ⟨hfields, hne⟩
  unfold detailLines
  rw [hfields]
  exact if_neg (by simpa using hne)

theorem detailLines_of_not_shows (h : ∀ fields, ¬ Shows finding fields) :
    detailLines finding = [] := by
  unfold detailLines
  cases hfields : finding.details with
  | none => rfl
  | some fields =>
      have hempty : fields = [] := by
        by_contra hne
        exact h fields ⟨hfields, hne⟩
      simp [hempty]

theorem exists_detailing (failed : List Finding) :
    ∃ details, Detailing failed details (failed.flatMap (failureLines true)) := by
  induction failed with
  | nil => exact ⟨[], .nil⟩
  | cons finding failed ih =>
      rcases ih with ⟨details, hrest⟩
      rw [List.flatMap_cons]
      by_cases hshows : ∃ fields, Shows finding fields
      · rcases hshows with ⟨fields, hfields⟩
        refine ⟨detailsLine fields :: details, ?_⟩
        rw [failureLines, if_pos rfl, detailLines_of_shows hfields]
        exact .detailed hfields hrest
      · have hnone : ∀ fields, ¬ Shows finding fields := not_exists.1 hshows
        refine ⟨details, ?_⟩
        rw [failureLines, if_pos rfl, detailLines_of_not_shows hnone]
        exact .plain hnone hrest

namespace Detailing

theorem sublist (h : Detailing failed details full) :
    (failed.map (findingLine .error)).Sublist full := by
  induction h with
  | nil => exact .slnil
  | plain _ _ ih => exact ih.cons_cons _
  | detailed _ _ ih => exact (ih.cons _).cons_cons _

theorem perm (h : Detailing failed details full) :
    full.Perm (failed.map (findingLine .error) ++ details) := by
  induction h with
  | nil => exact .nil
  | plain _ _ ih => exact ih.cons _
  | detailed _ _ ih => exact ((ih.cons _).trans List.perm_middle.symm).cons _

theorem level_eq (h : Detailing failed details full) : ∀ line ∈ details, line.level = .info := by
  induction h with
  | nil => exact nofun
  | plain _ _ ih => exact ih
  | detailed _ _ ih => exact List.forall_mem_cons.2 ⟨rfl, ih⟩

theorem filter_eq (h : Detailing failed details full) {keep : LogLine → Bool}
    (hkeep : ∀ line, line.level = .info → keep line = false) :
    full.filter keep = (failed.map (findingLine .error)).filter keep := by
  induction h with
  | nil => rfl
  | plain _ _ ih => rw [List.map_cons, List.filter_cons, List.filter_cons, ih]
  | @detailed _ fields _ _ _ _ _ ih =>
      rw [List.map_cons, List.filter_cons, List.filter_cons, List.filter_cons,
        hkeep (detailsLine fields) rfl, if_neg Bool.false_ne_true, ih]

end Detailing

/-! ## Sections -/

/-- The lines after the findings. -/
def closingLines (report : Report) : List LogLine :=
  manualLines report.manual ++ (report.suggestions.getD []).flatMap suggestionLines ++
    [coverageLine report.coverage]

theorem lines_false (report : Report) :
    lines report false = headingLines report ++ report.failed.map (findingLine .error) ++
      report.warnings.map (findingLine .warning) ++ closingLines report := by
  have hfailed : report.failed.flatMap (failureLines false) =
      report.failed.map (findingLine .error) := List.map_eq_flatMap.symm
  rw [lines, hfailed, if_neg Bool.false_ne_true, List.append_nil, closingLines]
  simp only [List.append_assoc]
  rfl

theorem lines_true (report : Report) :
    lines report true = headingLines report ++ report.failed.flatMap (failureLines true) ++
      report.warnings.map (findingLine .warning) ++ report.passed.map (findingLine .info) ++
        closingLines report := by
  rw [lines, if_pos rfl, closingLines]
  simp only [List.append_assoc]
  rfl

/-! ## Lines above the level of information -/

theorem level_headingLines (report : Report) :
    ∀ line ∈ headingLines report, line.level = .info := by
  simp [headingLines]

theorem level_manualLines (texts : List String) :
    ∀ line ∈ manualLines texts, line.level = .info := by
  unfold manualLines
  split
  · exact nofun
  · refine List.forall_mem_cons.2 ⟨rfl, ?_⟩
    rintro line hline
    rcases List.mem_map.1 hline with ⟨text, -, rfl⟩
    rfl

theorem level_suggestionLines (suggestion : Suggestion) :
    ∀ line ∈ suggestionLines suggestion, line.level = .info := by
  refine List.forall_mem_cons.2 ⟨rfl, ?_⟩
  cases suggestion.example? with
  | none => exact nofun
  | some text =>
      dsimp only
      split
      · exact nofun
      · exact List.forall_mem_singleton.2 rfl

theorem level_closingLines (report : Report) :
    ∀ line ∈ closingLines report, line.level = .info := by
  intro line hline
  simp only [closingLines, List.mem_append, List.mem_flatMap, List.mem_singleton] at hline
  rcases hline with (hmanual | ⟨suggestion, -, hsuggestion⟩) | rfl
  · exact level_manualLines _ line hmanual
  · exact level_suggestionLines suggestion line hsuggestion
  · rfl

/-- Whatever the verbosity, the lines of a kind that no information is of come from the failures and
the warnings. -/
theorem filter_lines {keep : LogLine → Bool}
    (hkeep : ∀ line, line.level = .info → keep line = false) (report : Report) (verbose : Bool) :
    (lines report verbose).filter keep =
      (report.failed.map (findingLine .error)).filter keep ++
        (report.warnings.map (findingLine .warning)).filter keep := by
  have hnone : ∀ block : List LogLine, (∀ line ∈ block, line.level = .info) →
      block.filter keep = [] := by
    intro block hblock
    refine List.filter_eq_nil_iff.2 fun line hline => ?_
    rw [hkeep line (hblock line hline)]
    exact Bool.false_ne_true
  -- The sections of information leave nothing, and so do the details within the failures.
  have hheading := hnone _ (level_headingLines report)
  have hclosing := hnone _ (level_closingLines report)
  cases verbose with
  | false =>
      simp only [lines_false, List.filter_append, hheading, hclosing, List.nil_append,
        List.append_nil]
  | true =>
      have hpassed := hnone (report.passed.map (findingLine .info)) (by simp [findingLine])
      rcases exists_detailing report.failed with ⟨details, hdetailing⟩
      have hfailed := hdetailing.filter_eq hkeep
      simp only [lines_true, List.filter_append, hheading, hclosing, hpassed, hfailed,
        List.nil_append, List.append_nil]

theorem filter_level_map (level kept : LogLevel) (findings : List Finding) :
    (findings.map (findingLine level)).filter (fun line => line.level = kept) =
      if level = kept then findings.map (findingLine level) else [] := by
  split
  case isTrue heq =>
      refine List.filter_eq_self.2 fun line hline => ?_
      rcases List.mem_map.1 hline with ⟨finding, -, rfl⟩
      exact decide_eq_true heq
  case isFalse hne =>
      refine List.filter_eq_nil_iff.2 fun line hline => ?_
      rcases List.mem_map.1 hline with ⟨finding, -, rfl⟩
      exact fun heq => hne (of_decide_eq_true heq)

/-! ## The laws of verbosity -/

/-- The lines of a report at the two verbosities. -/
structure VerbosityLaws (report : Report) : Prop where
  /-- What is written in brief is written at length too, in the same order. -/
  sublist : (lines report false).Sublist (lines report true)
  /-- What is added stands where it belongs: the details directly after their failure, and what
  passed after the warnings. -/
  added : ∃ heading details full closing, Detailing report.failed details full ∧
    lines report false = heading ++ report.failed.map (findingLine .error) ++
      report.warnings.map (findingLine .warning) ++ closing ∧
    lines report true = heading ++ full ++ report.warnings.map (findingLine .warning) ++
      report.passed.map (findingLine .info) ++ closing ∧
    -- Nothing else is added, and all of it is information.
    (lines report true).Perm
      (lines report false ++ (details ++ report.passed.map (findingLine .info))) ∧
    ∀ line ∈ details ++ report.passed.map (findingLine .info), line.level = .info
  errors : ∀ verbose, (lines report verbose).filter (fun line => line.level = .error) =
    report.failed.map (findingLine .error)
  warnings : ∀ verbose, (lines report verbose).filter (fun line => line.level = .warning) =
    report.warnings.map (findingLine .warning)
  /-- The first line names the component, with a mark that tells whether anything failed. -/
  first : ∀ verbose, ∃ mark,
    (lines report verbose).head? =
      some ⟨.info, mark ++ " Rubric Validation: " ++ report.component⟩ ∧
    (mark = "❌" ∧ report.failed ≠ [] ∨ mark = "✅" ∧ report.failed = [])
  last : ∀ verbose, (lines report verbose).getLast? = some (coverageLine report.coverage)

theorem verbosityLaws (report : Report) : VerbosityLaws report := by
  rcases exists_detailing report.failed with ⟨details, hdetailing⟩
  exact {
    sublist := by
      rw [lines_false, lines_true]
      refine .append_right ?_ _
      refine .trans ?_ (List.sublist_append_left _ _)
      exact (hdetailing.sublist.append_left _).append_right _
    added := by
      refine ⟨headingLines report, details, _, closingLines report, hdetailing,
        lines_false report, lines_true report, ?_, ?_⟩
      · -- The sections are the same up to their order, so it is enough to count lines.
        refine List.perm_iff_count.2 fun line => ?_
        have hcount := hdetailing.perm.count_eq line
        simp only [lines_false, lines_true, List.count_append] at hcount ⊢
        omega
      · intro line hline
        rcases List.mem_append.1 hline with hdetails | hpassed
        · exact hdetailing.level_eq line hdetails
        · rcases List.mem_map.1 hpassed with ⟨finding, -, rfl⟩
          rfl
    errors := by
      intro verbose
      have hkeep : ∀ line : LogLine, line.level = .info → decide (line.level = .error) = false :=
        fun line hline => by simp [hline]
      rw [filter_lines hkeep, filter_level_map, filter_level_map, if_pos rfl, if_neg nofun,
        List.append_nil]
    warnings := by
      intro verbose
      have hkeep : ∀ line : LogLine, line.level = .info → decide (line.level = .warning) = false :=
        fun line hline => by simp [hline]
      rw [filter_lines hkeep, filter_level_map, filter_level_map, if_neg nofun, if_pos rfl,
        List.nil_append]
    first := by
      intro verbose
      refine ⟨if report.failed.isEmpty then "✅" else "❌", rfl, ?_⟩
      cases report.failed with
      | nil => exact .inr ⟨rfl, rfl⟩
      | cons finding failed => exact .inl ⟨rfl, List.cons_ne_nil _ _⟩
    last := fun verbose => List.getLast?_concat }

end Diagnostics
end ComponentSpec
