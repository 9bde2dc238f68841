import ComponentSpec.Proofs.Inspection.Run
import Mathlib.Logic.Basic

/-!
# The verdict of a report

The list in which an item stands, the mark of its finding and the severity of the finding tell the
same story: what stands among the passed has passed, what stands among the failed or the warnings
has not, and a report without issues means that every check that could be run did run and passed.

Main statements: an entry of each kind goes back to one kind of step (`entry_eq_passed`,
`entry_eq_failed`, `entry_eq_warning`), a step makes an issue of anything but a passed check and a
requirement that names nothing (`Takes.not_isIssue_iff`), and hence the report of an inspection is
sound (`inspect_isSound`).
-/

namespace ComponentSpec
namespace Inspection

/-! ## Where the entries come from -/

theorem entry_eq_passed {step : Step} {finding : Finding} (h : step.entry = .passed finding) :
    ∃ outcome, step.result = some (.ok outcome) ∧ outcome.passed = true ∧
      finding = findingOf step.item.label (step.item.severity true) outcome := by
  have henters := step.enters_entry
  rw [h] at henters
  cases henters with
  | passed hresult hpassed => exact ⟨_, hresult, hpassed, rfl⟩

theorem entry_eq_failed {step : Step} {finding : Finding} (h : step.entry = .failed finding) :
    ∃ outcome, step.result = some (.ok outcome) ∧ outcome.passed = false ∧
      step.item.isLenient = false ∧
      finding = findingOf step.item.label (step.item.severity false) outcome := by
  have henters := step.enters_entry
  rw [h] at henters
  cases henters with
  | failed hresult hpassed hlenient => exact ⟨_, hresult, hpassed, hlenient, rfl⟩

theorem severity_of_isLenient {item : Item} (h : item.isLenient = true) (passed : Bool) :
    item.severity passed = .warning := by
  cases item with
  | rule name given => cases h
  | requirement r =>
      simp only [Item.isLenient] at h
      split at h
      · simpa [Item.severity] using h
      · cases h

theorem entry_eq_warning {step : Step} {finding : Finding} (h : step.entry = .warning finding) :
    finding.passed = false ∧ finding.severity = .warning := by
  have henters := step.enters_entry
  rw [h] at henters
  cases henters with
  | unknown hitem hresult => exact ⟨rfl, rfl⟩
  | faulted hresult => exact ⟨rfl, rfl⟩
  | lenient hresult hpassed hlenient => exact ⟨hpassed, severity_of_isLenient hlenient false⟩

/-! ## Where the findings of a list come from -/

variable {plan : Plan} {steps : List Step} {finding : Finding}

theorem Entry.passed?_eq_some_iff {entry : Entry} :
    entry.passed? = some finding ↔ entry = .passed finding := by
  cases entry <;> simp [Entry.passed?]

theorem Entry.failed?_eq_some_iff {entry : Entry} :
    entry.failed? = some finding ↔ entry = .failed finding := by
  cases entry <;> simp [Entry.failed?]

theorem Entry.warning?_eq_some_iff {entry : Entry} :
    entry.warning? = some finding ↔ entry = .warning finding := by
  cases entry <;> simp [Entry.warning?]

theorem exists_step_of_mem {kind? : Entry → Option Finding}
    (h : finding ∈ (steps.map Step.entry).filterMap kind?) :
    ∃ step ∈ steps, kind? step.entry = some finding := by
  rcases List.mem_filterMap.1 h with ⟨entry, hentry, hfinding⟩
  rcases List.mem_map.1 hentry with ⟨step, hstep, rfl⟩
  exact ⟨step, hstep, hfinding⟩

/-! ## Issues -/

/-- Whether an entry shows that something is wrong. -/
def Entry.IsIssue : Entry → Prop
  | passed _ => False
  | failed _ => True
  | warning _ => True
  | manual _ => False

theorem Entry.not_isIssue_iff {entry : Entry} :
    ¬ entry.IsIssue ↔ entry.failed? = none ∧ entry.warning? = none := by
  cases entry <;> simp [Entry.IsIssue, Entry.failed?, Entry.warning?]

theorem hasIssues_reportOf (plan : Plan) (entries : List Entry) :
    (reportOf plan entries).hasIssues = false ↔ ∀ entry ∈ entries, ¬ entry.IsIssue := by
  simp only [Report.hasIssues, reportOf, Bool.or_eq_false_iff, Bool.not_eq_eq_eq_not,
    Bool.not_false, List.isEmpty_iff, List.filterMap_eq_nil_iff, Entry.not_isIssue_iff]
  exact forall₂_and.symm

/-- The check of the step ended with the outcome that the item passes. -/
def Step.HasPassed (step : Step) : Prop :=
  ∃ outcome, step.result = some (.ok outcome) ∧ outcome.passed = true

def Item.IsRule : Item → Prop
  | rule _ _ => True
  | requirement _ => False

variable {table : CheckTable} {e : Element} {clock after : Clock}

theorem Takes.not_isIssue_iff {step : Step} (h : Takes table e clock step after) :
    ¬ step.entry.IsIssue ↔
      (step.item.IsRule → step.item.Resolves table) ∧
        (step.item.Resolves table → step.HasPassed) := by
  rw [h.resolves_iff]
  have henters := step.enters_entry
  generalize step.entry = entry at henters
  cases henters with
  | unknown hitem hresult => simp [Entry.IsIssue, Item.IsRule, hitem, hresult]
  | manual hitem hresult => simp [Entry.IsIssue, Item.IsRule, hitem, hresult]
  | faulted hresult => simp [Entry.IsIssue, Step.HasPassed, hresult]
  | passed hresult hpassed => simp [Entry.IsIssue, Step.HasPassed, hresult, hpassed]
  | failed hresult hpassed hlenient => simp [Entry.IsIssue, Step.HasPassed, hresult, hpassed]
  | lenient hresult hpassed hlenient => simp [Entry.IsIssue, Step.HasPassed, hresult, hpassed]

/-! ## Sound reports -/

/-- The report tells the truth about the steps that it was made from. -/
structure IsSound (table : CheckTable) (plan : Plan) (steps : List Step) (report : Report) :
    Prop where
  passed : ∀ finding ∈ report.passed, finding.passed = true
  failed : ∀ finding ∈ report.failed, finding.passed = false
  warnings : ∀ finding ∈ report.warnings, finding.passed = false ∧ finding.severity = .warning
  /-- The severity of a rule is that of its list. -/
  rules : ∀ step ∈ steps, step.item.IsRule → ∀ finding,
    (step.entry = .passed finding → finding.severity = .info) ∧
      (step.entry = .failed finding → finding.severity = .error)
  /-- A requirement keeps the severity that it declares. -/
  requirements : ∀ step ∈ steps, ∀ r, step.item = .requirement r → ∀ finding,
    step.entry = .passed finding ∨ step.entry = .failed finding → finding.severity = r.severity
  /-- A requirement that is only a warning does not fail by a check that its hint names. -/
  lenient : ∀ step ∈ steps, ∀ r, step.item = .requirement r → r.severity = .warning →
    ∀ name, step.item.slot? = some (.check name) → ∀ finding, step.entry ≠ .failed finding
  /-- Nothing is wrong exactly if every rule has its check and every check ran and passed. -/
  clean_iff : report.hasIssues = false ↔
    (∀ rule ∈ plan.rules, isNull rule.2 = false → (table.checks.get? rule.1).isSome) ∧
      ∀ step ∈ steps, step.item.Resolves table → step.HasPassed

theorem resolves_rule_iff {name : String} {given : Datum} :
    (Item.rule name given).Resolves table ↔ (table.checks.get? name).isSome := by
  constructor
  · rintro ⟨slot, hslot, hfilled⟩
    cases hslot
    exact hfilled
  · intro hfilled
    exact ⟨.check name, rfl, hfilled⟩

/-- The rules of a plan are the items that are rules, apart from those that are null. -/
theorem forall_rules_iff (plan : Plan) :
    (∀ item ∈ items plan, item.IsRule → item.Resolves table) ↔
      ∀ rule ∈ plan.rules, isNull rule.2 = false → (table.checks.get? rule.1).isSome := by
  constructor
  · intro h rule hrule hnull
    have hmem : Item.rule rule.1 rule.2 ∈ items plan := by
      refine List.mem_append_left _ (List.mem_map.2 ⟨rule, ?_, rfl⟩)
      simp [hrule, hnull]
    exact resolves_rule_iff.1 (h _ hmem trivial)
  · intro h item hitem hrule
    rcases List.mem_append.1 hitem with hitem | hitem
    · rcases List.mem_map.1 hitem with ⟨rule, hmem, rfl⟩
      have hrule : rule ∈ plan.rules ∧ isNull rule.2 = false := by
        simpa using hmem
      exact resolves_rule_iff.2 (h rule hrule.1 hrule.2)
    · rcases List.mem_map.1 hitem with ⟨r, -, rfl⟩
      cases hrule

theorem Runs.clean_iff (h : Runs table e clock steps after)
    (hitems : steps.map Step.item = items plan) :
    (reportOf plan (steps.map Step.entry)).hasIssues = false ↔
      (∀ rule ∈ plan.rules, isNull rule.2 = false → (table.checks.get? rule.1).isSome) ∧
        ∀ step ∈ steps, step.item.Resolves table → step.HasPassed := by
  have hstep : ∀ step ∈ steps, ¬ step.entry.IsIssue ↔
      (step.item.IsRule → step.item.Resolves table) ∧
        (step.item.Resolves table → step.HasPassed) := by
    intro step hmem
    rcases h.exists_takes hmem with ⟨before, between, htakes⟩
    exact htakes.not_isIssue_iff
  calc
    (reportOf plan (steps.map Step.entry)).hasIssues = false
        ↔ ∀ step ∈ steps, ¬ step.entry.IsIssue := by
          rw [hasIssues_reportOf, List.forall_mem_map]
    _ ↔ (∀ step ∈ steps, step.item.IsRule → step.item.Resolves table) ∧
          ∀ step ∈ steps, step.item.Resolves table → step.HasPassed := by
          rw [← forall₂_and]
          exact forall₂_congr hstep
    _ ↔ (∀ rule ∈ plan.rules, isNull rule.2 = false → (table.checks.get? rule.1).isSome) ∧
          ∀ step ∈ steps, step.item.Resolves table → step.HasPassed := by
          rw [← forall_rules_iff, ← hitems, List.forall_mem_map]

theorem Runs.isSound (h : Runs table e clock steps after)
    (hitems : steps.map Step.item = items plan) :
    IsSound table plan steps (reportOf plan (steps.map Step.entry)) where
  passed := by
    intro finding hfinding
    rcases exists_step_of_mem hfinding with ⟨step, -, hkind⟩
    have hentry := Entry.passed?_eq_some_iff.1 hkind
    rcases entry_eq_passed hentry with ⟨outcome, -, hpassed, rfl⟩
    exact hpassed
  failed := by
    intro finding hfinding
    rcases exists_step_of_mem hfinding with ⟨step, -, hkind⟩
    have hentry := Entry.failed?_eq_some_iff.1 hkind
    rcases entry_eq_failed hentry with ⟨outcome, -, hpassed, -, rfl⟩
    exact hpassed
  warnings := by
    intro finding hfinding
    rcases exists_step_of_mem hfinding with ⟨step, -, hkind⟩
    have hentry := Entry.warning?_eq_some_iff.1 hkind
    exact entry_eq_warning hentry
  rules := by
    rintro ⟨item, result⟩ - hrule finding
    cases item with
    | requirement r => cases hrule
    | rule name given =>
        constructor
        · intro hentry
          rcases entry_eq_passed hentry with ⟨outcome, -, -, rfl⟩
          rfl
        · intro hentry
          rcases entry_eq_failed hentry with ⟨outcome, -, -, -, rfl⟩
          rfl
  requirements := by
    rintro ⟨item, result⟩ - r rfl finding (hentry | hentry)
    · rcases entry_eq_passed hentry with ⟨outcome, -, -, rfl⟩
      rfl
    · rcases entry_eq_failed hentry with ⟨outcome, -, -, -, rfl⟩
      rfl
  lenient := by
    rintro ⟨item, result⟩ - r rfl hseverity name hslot finding hentry
    rcases entry_eq_failed hentry with ⟨outcome, -, -, hlenient, -⟩
    simp [Item.isLenient, hslot, hseverity] at hlenient
  clean_iff := h.clean_iff hitems

theorem inspect_isSound (hbuilds : Builds table plan) (e : Element) (clock : Clock) :
    ∃ report steps after, (inspect table e plan).run.run clock = (.ok report, after) ∧
      Runs table e clock steps after ∧ steps.map Step.item = items plan ∧
      report = reportOf plan (steps.map Step.entry) ∧ IsSound table plan steps report := by
  rcases exists_runs hbuilds e clock with ⟨steps, after, hruns, hitems⟩
  have hreport := inspect_eq_ok_iff.2 ⟨steps, hruns, hitems, rfl⟩
  exact ⟨_, steps, after, hreport, hruns, hitems, rfl, hruns.isSound hitems⟩

theorem inspect_isSound_mixedPlan :
    Builds brokenContrast mixedPlan ∧
      ∃ report steps after,
        (inspect brokenContrast (.node {} []) mixedPlan).run.run {} = (.ok report, after) ∧
        Runs brokenContrast (.node {} []) {} steps after ∧
        steps.map Step.item = items mixedPlan ∧
        report = reportOf mixedPlan (steps.map Step.entry) ∧
        IsSound brokenContrast mixedPlan steps report := by
  have hbuilds : Builds brokenContrast mixedPlan := builds_of_usual mixedPlan rfl
  exact ⟨hbuilds, inspect_isSound hbuilds _ _⟩

end Inspection
end ComponentSpec
