import ComponentSpec.Proofs.Inspection.Run

/-!
# Isolation of the items of an inspection

Two tables that differ in one slot give reports that differ only in the entries of the items which
are looked up there.  A step can reach a later one through the clock alone, so the statement needs
that no check but one reads the clock: where the tables differ in that check, no other step depends
on the clock; where they share it, both runs have the same clock between any two steps.

Main statements: what one step does does not depend on what the other slots hold
(`Takes.isolated`), and so neither does the rest of a whole run (`Runs.isolated`,
`inspect_isolated`).
-/

namespace ComponentSpec

/-- The check neither reads the clock nor moves it on. -/
def Check.IsTimeless (check : Check) : Prop :=
  ∀ e parameter, ∃ result, check e parameter = timeless result

namespace Inspection

/-- The slot of the one check that may read the clock. -/
def clockSlot : Slot := .check "renderTime"

/-- No other check reads the clock, and no check that a factory builds. -/
structure ReadsClockOnce (table : CheckTable) : Prop where
  checks : ∀ name check, table.checks.get? name = some check → Slot.check name ≠ clockSlot →
    check.IsTimeless
  built : ∀ name factory argument check, table.factories.get? name = some factory →
    factory argument = .ok check → check.IsTimeless

/-- The tables have the same in every slot but this one. -/
def AgreeExcept (slot : Slot) (table other : CheckTable) : Prop :=
  ∀ shared, shared ≠ slot → shared.IsShared table other

/-- The report of a run without the entries of the items that are looked up in a slot. -/
def reportWithout (slot : Slot) (plan : Plan) (steps : List Step) : Report :=
  reportOf plan ((steps.filter fun step => step.item.slot? ≠ some slot).map Step.entry)

variable {table other : CheckTable} {e : Element} {clock after : Clock}

/-! ## Steps and the clock -/

theorem Takes.unique {step step' : Step} {after' : Clock} (h : Takes table e clock step after)
    (h' : Takes table e clock step' after') (hitem : step.item = step'.item) :
    step = step' ∧ after = after' := by
  cases h with
  | idle htask =>
      cases h' with
      | idle htask' =>
          cases hitem
          exact ⟨rfl, rfl⟩
      | checked htask' hrun' =>
          cases hitem
          rw [htask] at htask'
          cases htask'
  | checked htask hrun =>
      cases h' with
      | idle htask' =>
          cases hitem
          rw [htask] at htask'
          cases htask'
      | checked htask' hrun' =>
          cases hitem
          rw [htask] at htask'
          cases htask'
          rw [hrun] at hrun'
          cases hrun'
          exact ⟨rfl, rfl⟩

theorem Takes.congr {step : Step} (h : Takes table e clock step after)
    (htasks : step.item.task table = step.item.task other) : Takes other e clock step after := by
  cases h with
  | idle htask => exact .idle (htasks ▸ htask)
  | checked htask hrun => exact .checked (htasks ▸ htask) hrun

theorem isTimeless_of_task (hclock : ReadsClockOnce table) {item : Item} {check : Check}
    {parameter : Datum} (hslot : item.slot? ≠ some clockSlot)
    (htask : item.task table = .ok (some (check, parameter))) : check.IsTimeless := by
  rcases slot?_of_task htask with ⟨name, hname, hfound, -⟩ | ⟨name, factory, -, hfound, hbuild, -⟩
  · refine hclock.checks name check hfound ?_
    intro heq
    exact hslot (heq ▸ hname)
  · exact hclock.built name factory item.argument check hfound hbuild

/-- A step that does not look at the clock leaves it and could begin at any other. -/
theorem Takes.of_timeless (hclock : ReadsClockOnce table) {step : Step}
    (h : Takes table e clock step after) (hslot : step.item.slot? ≠ some clockSlot) :
    after = clock ∧ ∀ later, Takes table e later step later := by
  cases h with
  | idle htask => exact ⟨rfl, fun later => .idle htask⟩
  | checked htask hrun =>
      rename_i item check parameter result
      rcases isTimeless_of_task hclock hslot htask e parameter with ⟨fixed, hfixed⟩
      have hall : ∀ later, (check e parameter).run.run later = (fixed, later) := by
        intro later
        rw [hfixed]
        rfl
      rw [hall] at hrun
      cases hrun
      exact ⟨rfl, fun later => .checked htask (hall later)⟩

/-! ## Two runs -/

/-- The clocks of two runs at the same item: equal, unless the tables differ in the check that
reads them. -/
def Synchronous (slot : Slot) (clock clock' : Clock) : Prop :=
  slot = clockSlot ∨ clock = clock'

variable {slot : Slot} {clock' after' : Clock}

theorem Takes.isolated (hagree : AgreeExcept slot table other) (hclock : ReadsClockOnce table)
    (hclock' : ReadsClockOnce other) {step step' : Step} (h : Takes table e clock step after)
    (h' : Takes other e clock' step' after') (hitem : step.item = step'.item)
    (hsync : Synchronous slot clock clock') :
    Synchronous slot after after' ∧ (step.item.slot? ≠ some slot → step = step') := by
  by_cases hslot : step.item.slot? = some clockSlot
  · -- The step may move the clock on, so the two must have begun at the same one.
    rcases hsync with rfl | rfl
    · exact ⟨Or.inl rfl, fun hne => absurd hslot hne⟩
    · by_cases hsame : slot = clockSlot
      · exact ⟨Or.inl hsame, fun hne => absurd (hsame ▸ hslot) hne⟩
      · have htasks : step'.item.task other = step'.item.task table := by
          rw [← hitem]
          refine (task_congr ?_).symm
          intro found hfound
          refine hagree found ?_
          rintro rfl
          exact hsame (Option.some.inj (hfound.symm.trans hslot))
        rcases h.unique (h'.congr htasks) hitem with ⟨rfl, rfl⟩
        exact ⟨Or.inr rfl, fun _ => rfl⟩
  · -- Neither step looks at its clock, so both may be taken at the same one.
    rcases h.of_timeless hclock hslot with ⟨rfl, hany⟩
    rcases h'.of_timeless hclock' (hitem ▸ hslot) with ⟨rfl, hany'⟩
    refine ⟨hsync, ?_⟩
    intro hne
    have htasks : step.item.task table = step.item.task other := by
      refine task_congr ?_
      intro found hfound
      refine hagree found ?_
      rintro rfl
      exact hne hfound
    exact (((hany after).congr htasks).unique (hany' after) hitem).1

theorem Runs.isolated (hagree : AgreeExcept slot table other) (hclock : ReadsClockOnce table)
    (hclock' : ReadsClockOnce other) {steps steps' : List Step}
    (h : Runs table e clock steps after) (h' : Runs other e clock' steps' after')
    (hitems : steps.map Step.item = steps'.map Step.item)
    (hsync : Synchronous slot clock clock') :
    (steps.filter fun step => step.item.slot? ≠ some slot) =
      steps'.filter fun step => step.item.slot? ≠ some slot := by
  induction h generalizing clock' steps' with
  | nil =>
      cases h' with
      | nil => rfl
      | cons hstep' hrest' => cases hitems
  | @cons _ _ _ step _ hstep hrest ih =>
      cases h' with
      | nil => cases hitems
      | @cons _ _ _ step' _ hstep' hrest' =>
          rcases List.cons.inj hitems with ⟨hitem, hitems⟩
          rcases hstep.isolated hagree hclock hclock' hstep' hitem hsync with ⟨hsync, hequal⟩
          have hrests := ih hrest' hitems hsync
          by_cases hslot : step.item.slot? = some slot
          · have hslot' : step'.item.slot? = some slot := hitem ▸ hslot
            simpa [List.filter_cons, hslot, hslot'] using hrests
          · rcases hequal hslot with rfl
            simpa [List.filter_cons, hslot] using hrests

/-! ## The usual tables -/

theorem isTimeless_ofExcept (f : Element → Datum → Except Fault Outcome) :
    (Check.ofExcept f).IsTimeless :=
  fun e parameter => ⟨f e parameter, rfl⟩

theorem isTimeless_ofFunction (f : Element → Datum → Outcome) :
    (Check.ofFunction f).IsTimeless :=
  fun e parameter => ⟨.ok (f e parameter), rfl⟩

theorem readsClockOnce_usual : ReadsClockOnce CheckTable.usual where
  checks := by
    intro name check hfound hslot
    have hmem := Fields.mem_of_get?_eq_some hfound
    simp only [CheckTable.usual, CheckTable.usualEntries, List.map_cons, List.map_nil,
      List.mem_cons, Prod.mk.injEq, List.not_mem_nil, or_false] at hmem
    rcases hmem with ⟨rfl, rfl⟩ | ⟨rfl, rfl⟩ | ⟨rfl, rfl⟩ | ⟨rfl, rfl⟩ | ⟨rfl, rfl⟩ | ⟨rfl, rfl⟩ |
      ⟨rfl, rfl⟩ | ⟨rfl, rfl⟩ | ⟨rfl, rfl⟩ | ⟨rfl, rfl⟩ | ⟨rfl, rfl⟩ | ⟨rfl, rfl⟩
    -- The last alternative is the one entry that is not a function of the element alone.
    all_goals
      first
      | exact isTimeless_ofExcept _
      | exact isTimeless_ofFunction _
      | exact absurd rfl hslot
  built := by
    intro name factory argument check hfound hbuild
    have hmem := Fields.mem_of_get?_eq_some hfound
    simp only [CheckTable.usual, List.mem_cons, Prod.mk.injEq, List.not_mem_nil, or_false] at hmem
    rcases hmem with ⟨-, rfl⟩
    cases hbuild
    exact isTimeless_ofExcept _

/-- A check of one name may be replaced by any other that does not read the clock. -/
theorem ReadsClockOnce.set {table : CheckTable} (h : ReadsClockOnce table) (name : String)
    {check : Check} (hcheck : check.IsTimeless) :
    ReadsClockOnce { table with checks := table.checks.set name check } where
  checks := by
    intro found check' hfound hslot
    rw [Fields.get?_set] at hfound
    split at hfound
    · cases hfound
      exact hcheck
    · exact h.checks found check' hfound hslot
  built := h.built

theorem agreeExcept_set (table : CheckTable) (name : String) (check : Check) :
    AgreeExcept (.check name) table { table with checks := table.checks.set name check } := by
  intro shared hne
  cases shared with
  | check found =>
      have hname : name ≠ found := fun h => hne (h ▸ rfl)
      simp [Slot.IsShared, Fields.get?_set, hname]
  | factory found => rfl

/-! ## Two inspections -/

theorem inspect_isolated {plan : Plan} (hagree : AgreeExcept slot table other)
    (hclock : ReadsClockOnce table) (hclock' : ReadsClockOnce other)
    (hbuilds : Builds table plan) (hbuilds' : Builds other plan) (e : Element) (clock : Clock) :
    ∃ report report' steps steps' after after',
      (inspect table e plan).run.run clock = (.ok report, after) ∧
      (inspect other e plan).run.run clock = (.ok report', after') ∧
      (Runs table e clock steps after ∧ steps.map Step.item = items plan ∧
        report = reportOf plan (steps.map Step.entry)) ∧
      (Runs other e clock steps' after' ∧ steps'.map Step.item = items plan ∧
        report' = reportOf plan (steps'.map Step.entry)) ∧
      reportWithout slot plan steps = reportWithout slot plan steps' ∧
      report.component = report'.component ∧ report.coverage = report'.coverage ∧
      report.suggestions = report'.suggestions := by
  rcases exists_runs hbuilds e clock with ⟨steps, after, hruns, hitems⟩
  rcases exists_runs hbuilds' e clock with ⟨steps', after', hruns', hitems'⟩
  have hreport := inspect_eq_ok_iff.2 ⟨steps, hruns, hitems, rfl⟩
  have hreport' := inspect_eq_ok_iff.2 ⟨steps', hruns', hitems', rfl⟩
  have hothers : reportWithout slot plan steps = reportWithout slot plan steps' := by
    unfold reportWithout
    rw [hruns.isolated hagree hclock hclock' hruns' (hitems.trans hitems'.symm) (Or.inr rfl)]
  exact ⟨_, _, steps, steps', after, after', hreport, hreport', ⟨hruns, hitems, rfl⟩,
    ⟨hruns', hitems', rfl⟩, hothers, rfl, rfl, rfl⟩

theorem inspect_isolated_brokenContrast :
    (AgreeExcept (.check "contrast") CheckTable.usual brokenContrast ∧
      ReadsClockOnce CheckTable.usual ∧ ReadsClockOnce brokenContrast ∧
      Builds CheckTable.usual mixedPlan ∧ Builds brokenContrast mixedPlan) ∧
    ∃ report report' steps steps' after after',
      (inspect CheckTable.usual (.node {} []) mixedPlan).run.run {} = (.ok report, after) ∧
      (inspect brokenContrast (.node {} []) mixedPlan).run.run {} = (.ok report', after') ∧
      (Runs CheckTable.usual (.node {} []) {} steps after ∧
        steps.map Step.item = items mixedPlan ∧
        report = reportOf mixedPlan (steps.map Step.entry)) ∧
      (Runs brokenContrast (.node {} []) {} steps' after' ∧
        steps'.map Step.item = items mixedPlan ∧
        report' = reportOf mixedPlan (steps'.map Step.entry)) ∧
      reportWithout (.check "contrast") mixedPlan steps =
        reportWithout (.check "contrast") mixedPlan steps' ∧
      report.component = report'.component ∧ report.coverage = report'.coverage ∧
      report.suggestions = report'.suggestions := by
  have hagree := agreeExcept_set CheckTable.usual "contrast" fun _ _ =>
    timeless (.error (.failed "no colors"))
  have hclock := readsClockOnce_usual
  have hclock' : ReadsClockOnce brokenContrast := hclock.set "contrast" fun _ _ => ⟨_, rfl⟩
  have hbuilds : Builds CheckTable.usual mixedPlan := builds_of_usual mixedPlan rfl
  have hbuilds' : Builds brokenContrast mixedPlan := builds_of_usual mixedPlan rfl
  exact ⟨⟨hagree, hclock, hclock', hbuilds, hbuilds'⟩,
    inspect_isolated hagree hclock hclock' hbuilds hbuilds' _ _⟩

end Inspection
end ComponentSpec
