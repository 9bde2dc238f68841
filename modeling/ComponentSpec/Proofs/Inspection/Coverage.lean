import ComponentSpec.Proofs.Inspection.Accounting

/-!
# Coverage and what was run

Two counts tell the requirements apart.  The coverage of a report goes by their hints alone, and
the lists of the report go by what was run.  A requirement that was run has a hint, so the two
counts differ exactly by the hints that name nothing, and those requirements are left to a person.

Main statements: a requirement is left to a person exactly if nothing was run for it
(`Step.place_eq_manual_iff`), what is run has a hint (`hasHint_of_resolves`), every list of the
report has the entries of rules before those of requirements (`labels_eq_append`), and the report of
an inspection agrees with its coverage (`inspect_covers`).
-/

namespace ComponentSpec
namespace Inspection

/-! ## Hints -/

namespace Item

def isRequirement : Item → Bool
  | rule _ _ => false
  | requirement _ => true

/-- Whether the item is a requirement with a hint. -/
def isHinted : Item → Bool
  | rule _ _ => false
  | requirement r => r.hasHint

end Item

theorem hasHint_eq_false_iff {r : Requirement} :
    r.hasHint = false ↔ r.hint = none ∨ r.hint = some "" := by
  cases hhint : r.hint with
  | none => simp [Requirement.hasHint, hhint]
  | some hint => simp [Requirement.hasHint, hhint]

variable {table : CheckTable} {e : Element} {clock after : Clock} {plan : Plan} {steps : List Step}

theorem hasHint_of_resolves {r : Requirement} (h : (Item.requirement r).Resolves table) :
    r.hasHint = true := by
  rcases h with ⟨slot, hslot, -⟩
  refine Bool.not_eq_false _ ▸ ?_
  intro hnone
  rcases hasHint_eq_false_iff.1 hnone with hhint | hhint <;> simp [Item.slot?, hhint] at hslot

/-! ## Steps of requirements -/

theorem Step.place_eq_manual_iff {step : Step} :
    step.entry.place = .manual ↔ step.item.isRequirement = true ∧ step.result = none := by
  have henters := step.enters_entry
  generalize step.entry = entry at henters
  cases henters with
  | unknown hitem hresult => simp [Entry.place, Item.isRequirement, hitem]
  | manual hitem hresult => simp [Entry.place, Item.isRequirement, hitem, hresult]
  | faulted hresult => simp [Entry.place, hresult]
  | passed hresult hpassed => simp [Entry.place, hresult]
  | failed hresult hpassed hlenient => simp [Entry.place, hresult]
  | lenient hresult hpassed hlenient => simp [Entry.place, hresult]

/-- The requirements whose entries stand in one list of the report. -/
def requirementsIn (place : Place) (steps : List Step) : List Step :=
  steps.filter fun step => step.item.isRequirement && step.entry.place = place

/-- The rules whose entries stand in one list of the report. -/
def rulesIn (place : Place) (steps : List Step) : List Step :=
  steps.filter fun step => !step.item.isRequirement && step.entry.place = place

theorem rulesIn_manual (steps : List Step) : rulesIn .manual steps = [] := by
  refine List.filter_eq_nil_iff.2 fun step _ hstep => ?_
  simp only [Bool.and_eq_true, Bool.not_eq_true', decide_eq_true_eq] at hstep
  rcases hstep with ⟨hrule, hplace⟩
  rw [(Step.place_eq_manual_iff.1 hplace).1] at hrule
  cases hrule

/-- Whether something was run for a requirement. -/
def Step.isDecided (step : Step) : Bool :=
  step.item.isRequirement && step.result.isSome

theorem Step.isDecided_eq (step : Step) :
    step.isDecided = (step.item.isRequirement && step.entry.place ≠ .manual) := by
  rw [Bool.eq_iff_iff]
  simp only [isDecided, Bool.and_eq_true, decide_eq_true_eq, ne_eq, step.place_eq_manual_iff,
    Option.isSome_iff_ne_none]
  by_cases hrequirement : step.item.isRequirement = true <;> simp [hrequirement]

/-- Each requirement stands in one list, and it is decided unless it is left to a person. -/
theorem length_requirementsIn (steps : List Step) :
    (requirementsIn .passed steps).length + (requirementsIn .failed steps).length +
        (requirementsIn .warnings steps).length = steps.countP Step.isDecided ∧
      steps.countP Step.isDecided + (requirementsIn .manual steps).length =
        steps.countP fun step => step.item.isRequirement := by
  simp only [requirementsIn, ← List.countP_eq_length_filter]
  induction steps with
  | nil => exact ⟨rfl, rfl⟩
  | cons step rest ih =>
      rcases ih with ⟨hdecided, hall⟩
      simp only [List.countP_cons, step.isDecided_eq]
      by_cases hrequirement : step.item.isRequirement = true
      · cases step.entry.place <;> simp [hrequirement] <;> omega
      · simpa [hrequirement] using ⟨hdecided, hall⟩

/-! ## The lists of the report -/

/-- Of steps of the kind, those that are placed in a list stand there; of other steps, none does. -/
theorem filter_kind {kind : Step → Bool} {steps : List Step} {b : Bool}
    (h : ∀ step ∈ steps, kind step = b) (place : Place) :
    (steps.filter fun step => kind step && step.entry.place = place) =
      if b then steps.filter fun step => step.entry.place = place else [] := by
  cases b with
  | true =>
      refine List.filter_congr fun step hstep => ?_
      rw [h step hstep, Bool.true_and]
  | false =>
      refine List.filter_eq_nil_iff.2 fun step hstep => ?_
      rw [h step hstep, Bool.false_and]
      exact Bool.false_ne_true

/-- The rules come before the requirements, and so do their entries in every list. -/
theorem labels_eq_append {plan : Plan} {steps : List Step}
    (hitems : steps.map Step.item = items plan) (place : Place) :
    labels (reportOf plan (steps.map Step.entry)) place =
      (rulesIn place steps).map (fun step => step.item.label) ++
        (requirementsIn place steps).map fun step => step.item.label := by
  -- The steps are cut where the requirements begin.
  rcases List.map_eq_append_iff.1 hitems with ⟨first, second, rfl, hfirst, hsecond⟩
  have hrules : ∀ step ∈ first, step.item.isRequirement = false := by
    have hitem : ∀ item ∈ first.map Step.item, item.isRequirement = false := by
      rw [hfirst]
      exact List.forall_mem_map.2 fun _ _ => rfl
    exact List.forall_mem_map.1 hitem
  have hrequirements : ∀ step ∈ second, step.item.isRequirement = true := by
    have hitem : ∀ item ∈ second.map Step.item, item.isRequirement = true := by
      rw [hsecond]
      exact List.forall_mem_map.2 fun _ _ => rfl
    exact List.forall_mem_map.1 hitem
  have hrules' : ∀ step ∈ first, (!step.item.isRequirement) = true := fun step hstep =>
    congrArg not (hrules step hstep)
  have hrequirements' : ∀ step ∈ second, (!step.item.isRequirement) = false := fun step hstep =>
    congrArg not (hrequirements step hstep)
  rw [labels_reportOf_steps, rulesIn, requirementsIn]
  simp only [List.filter_append, filter_kind hrules, filter_kind hrules', filter_kind hrequirements,
    filter_kind hrequirements', if_true, Bool.false_eq_true, if_false, List.append_nil,
    List.nil_append, List.map_append]

theorem length_manual {plan : Plan} {steps : List Step}
    (hitems : steps.map Step.item = items plan) :
    (reportOf plan (steps.map Step.entry)).manual.length = (requirementsIn .manual steps).length := by
  have hlabels := labels_eq_append hitems .manual
  rw [rulesIn_manual, List.map_nil, List.nil_append] at hlabels
  exact (congrArg List.length hlabels).trans (List.length_map _)

/-- The report has an entry for every rule that is not null and for every requirement. -/
theorem length_report {plan : Plan} {steps : List Step}
    (hitems : steps.map Step.item = items plan) :
    (reportOf plan (steps.map Step.entry)).passed.length +
        (reportOf plan (steps.map Step.entry)).failed.length +
        (reportOf plan (steps.map Step.entry)).warnings.length +
        (reportOf plan (steps.map Step.entry)).manual.length =
      plan.rules.countP (fun rule => !isNull rule.2) + plan.requirements.length := by
  rw [length_lists, List.length_map, ← List.length_map (f := Step.item), hitems, items,
    List.length_append, List.length_map, List.length_map, List.countP_eq_length_filter]

/-! ## The two counts -/

theorem countP_items (plan : Plan) {p : Item → Bool}
    (hrule : ∀ name parameter, p (.rule name parameter) = false) :
    (items plan).countP p = plan.requirements.countP fun r => p (.requirement r) := by
  rw [items, List.countP_append, List.countP_map, List.countP_map]
  simp [Function.comp_def, hrule]

theorem countP_isHinted (plan : Plan) :
    (items plan).countP Item.isHinted = plan.requirements.countP (·.hasHint) :=
  countP_items plan fun _ _ => rfl

theorem countP_isRequirement (plan : Plan) :
    (items plan).countP Item.isRequirement = plan.requirements.length := by
  rw [countP_items plan fun _ _ => rfl]
  exact List.countP_eq_length.2 fun _ _ => rfl

/-- Something is run for a requirement exactly if it has a hint and the hint names something. -/
theorem Takes.isDecided_iff {step : Step} (h : Takes table e clock step after) :
    step.isDecided = true ↔ step.item.isHinted = true ∧ step.item.Resolves table := by
  rw [h.resolves_iff]
  cases hitem : step.item with
  | rule name parameter => simp [Step.isDecided, Item.isRequirement, Item.isHinted, hitem]
  | requirement r =>
      have hhint : step.result ≠ none → r.hasHint = true := by
        intro hresult
        exact hasHint_of_resolves (hitem ▸ h.resolves_iff.2 hresult)
      simpa [Step.isDecided, Item.isRequirement, Item.isHinted, hitem, Option.isSome_iff_ne_none]
        using hhint

theorem forall_isHinted_iff (plan : Plan) :
    (∀ item ∈ items plan, item.isHinted = true → item.Resolves table) ↔
      ∀ r ∈ plan.requirements, r.hasHint = true → (Item.requirement r).Resolves table := by
  constructor
  · intro h r hr hhint
    exact h (.requirement r) (List.mem_append_right _ (List.mem_map_of_mem hr)) hhint
  · intro h item hitem hhint
    rcases List.mem_append.1 hitem with hitem | hitem
    · rcases List.mem_map.1 hitem with ⟨rule, -, rfl⟩
      cases hhint
    · rcases List.mem_map.1 hitem with ⟨r, hr, rfl⟩
      exact h r hr hhint

/-- What is run is a part of what has a hint, and all of it only if every hint names something. -/
theorem Runs.countP_isDecided (h : Runs table e clock steps after)
    (hitems : steps.map Step.item = items plan) :
    steps.countP Step.isDecided ≤ plan.requirements.countP (·.hasHint) ∧
      (steps.countP Step.isDecided = plan.requirements.countP (·.hasHint) ↔
        ∀ r ∈ plan.requirements, r.hasHint = true → (Item.requirement r).Resolves table) := by
  have hdecided : ∀ step ∈ steps, step.isDecided = true ↔
      step.item.isHinted = true ∧ step.item.Resolves table := by
    intro step hmem
    rcases h.exists_takes hmem with ⟨before, between, htakes⟩
    exact htakes.isDecided_iff
  -- Both counts are taken among the steps whose item has a hint.
  have hhinted : plan.requirements.countP (·.hasHint) =
      (steps.filter fun step => step.item.isHinted).length := by
    rw [← countP_isHinted, ← hitems, List.countP_map, List.countP_eq_length_filter]
    rfl
  have hcount : steps.countP Step.isDecided =
      (steps.filter fun step => step.item.isHinted).countP Step.isDecided := by
    rw [List.countP_filter]
    refine List.countP_congr ?_
    intro step hmem
    simp only [Bool.and_eq_true, iff_self_and]
    intro hstep
    exact ((hdecided step hmem).1 hstep).1
  rw [hhinted, hcount]
  refine ⟨List.countP_le_length, ?_⟩
  calc
    (steps.filter fun step => step.item.isHinted).countP Step.isDecided =
          (steps.filter fun step => step.item.isHinted).length
        ↔ ∀ step ∈ steps, step.item.isHinted = true → step.item.Resolves table := by
          rw [List.countP_eq_length]
          simp only [List.mem_filter, and_imp]
          refine forall₂_congr fun step hmem => ?_
          rw [hdecided step hmem]
          exact forall_congr' fun hhint => and_iff_right hhint
    _ ↔ ∀ item ∈ items plan, item.isHinted = true → item.Resolves table := by
          rw [← hitems, List.forall_mem_map]
    _ ↔ ∀ r ∈ plan.requirements, r.hasHint = true → (Item.requirement r).Resolves table :=
          forall_isHinted_iff plan

/-- The coverage of a report agrees with its lists. -/
structure Covers (table : CheckTable) (plan : Plan) (steps : List Step) (report : Report) :
    Prop where
  total : report.coverage.total = plan.requirements.length
  /-- An empty hint counts as none. -/
  automated : report.coverage.automated =
    plan.requirements.countP fun r => r.hint ≠ none ∧ r.hint ≠ some ""
  unhinted : ∀ step ∈ steps, ∀ r, step.item = .requirement r →
    r.hint = none ∨ r.hint = some "" → step.entry = .manual r.text
  le_manual : report.coverage.total - report.coverage.automated ≤ report.manual.length
  manual_le : report.manual.length ≤ report.coverage.total
  /-- Every list has the entries of rules first and then those of requirements. -/
  lists : ∀ place, labels report place =
    (rulesIn place steps).map (fun step => step.item.label) ++
      (requirementsIn place steps).map fun step => step.item.label
  rules_manual : rulesIn .manual steps = []
  /-- What the first three lists hold besides the entries of the rules. -/
  listed : (report.passed.length + report.failed.length + report.warnings.length : Int) -
    plan.rules.countP (fun rule => !isNull rule.2) = report.coverage.total - report.manual.length
  listed_le : (report.passed.length + report.failed.length + report.warnings.length : Int) -
    plan.rules.countP (fun rule => !isNull rule.2) ≤ report.coverage.automated
  /-- The entries of requirements in the first three lists. -/
  decided : ((requirementsIn .passed steps).length + (requirementsIn .failed steps).length +
    (requirementsIn .warnings steps).length : Int) =
      report.coverage.total - report.manual.length
  decided_le : ((requirementsIn .passed steps).length + (requirementsIn .failed steps).length +
    (requirementsIn .warnings steps).length : Int) ≤ report.coverage.automated
  manual_eq_iff : (report.manual.length : Int) =
      report.coverage.total - report.coverage.automated ↔
    ∀ r ∈ plan.requirements, r.hasHint = true → (Item.requirement r).Resolves table

theorem Runs.entry_of_no_hint (h : Runs table e clock steps after) {step : Step}
    (hmem : step ∈ steps) {r : Requirement} (hitem : step.item = .requirement r)
    (hhint : r.hasHint = false) : step.entry = .manual r.text := by
  rcases h.exists_takes hmem with ⟨before, between, htakes⟩
  have hresult : step.result = none := by
    refine Classical.byContradiction fun hresult => ?_
    have hresolves := htakes.resolves_iff.2 hresult
    rw [hitem] at hresolves
    rw [hasHint_of_resolves hresolves] at hhint
    cases hhint
  rw [Step.entry, hitem, hresult]
  rfl

theorem countP_hasHint (rs : List Requirement) :
    rs.countP (·.hasHint) = rs.countP fun r => r.hint ≠ none ∧ r.hint ≠ some "" := by
  refine List.countP_congr ?_
  intro r _
  rw [decide_eq_true_iff, ← not_or, ← hasHint_eq_false_iff, Bool.not_eq_false]

theorem Runs.covers (h : Runs table e clock steps after)
    (hitems : steps.map Step.item = items plan) :
    Covers table plan steps (reportOf plan (steps.map Step.entry)) := by
  rcases length_requirementsIn steps with ⟨hdecided, hall⟩
  rcases h.countP_isDecided hitems with ⟨hle, heq⟩
  have hmanual := length_manual hitems
  have hreport := length_report hitems
  have htotal : (steps.countP fun step => step.item.isRequirement) = plan.requirements.length := by
    rw [← countP_isRequirement, ← hitems, List.countP_map]
    rfl
  have hcoverage : (reportOf plan (steps.map Step.entry)).coverage =
      Coverage.ofRequirements plan.requirements := rfl
  simp only [Coverage.ofRequirements] at hcoverage
  constructor
  case total => rw [hcoverage]
  case automated => rw [hcoverage, countP_hasHint]
  case unhinted =>
    intro step hmem r hitem hhint
    exact h.entry_of_no_hint hmem hitem (hasHint_eq_false_iff.2 hhint)
  case lists => exact labels_eq_append hitems
  case rules_manual => exact rulesIn_manual steps
  case manual_eq_iff =>
    rw [hcoverage, ← heq]
    dsimp only
    omega
  -- What is left are inequalities between the counts.
  all_goals
    rw [hcoverage]
    dsimp only
    omega

theorem inspect_covers (hbuilds : Builds table plan) (e : Element) (clock : Clock) :
    ∃ report steps after, (inspect table e plan).run.run clock = (.ok report, after) ∧
      Runs table e clock steps after ∧ steps.map Step.item = items plan ∧
      report = reportOf plan (steps.map Step.entry) ∧ Covers table plan steps report := by
  rcases exists_runs hbuilds e clock with ⟨steps, after, hruns, hitems⟩
  have hreport := inspect_eq_ok_iff.2 ⟨steps, hruns, hitems, rfl⟩
  exact ⟨_, steps, after, hreport, hruns, hitems, rfl, hruns.covers hitems⟩

theorem inspect_covers_mixedPlan :
    Builds brokenContrast mixedPlan ∧
      ∃ report steps after,
        (inspect brokenContrast (.node {} []) mixedPlan).run.run {} = (.ok report, after) ∧
        Runs brokenContrast (.node {} []) {} steps after ∧
        steps.map Step.item = items mixedPlan ∧
        report = reportOf mixedPlan (steps.map Step.entry) ∧
        Covers brokenContrast mixedPlan steps report := by
  have hbuilds : Builds brokenContrast mixedPlan := builds_of_usual mixedPlan rfl
  exact ⟨hbuilds, inspect_covers hbuilds _ _⟩

end Inspection
end ComponentSpec
