import ComponentSpec.Proofs.Inspection.Item

/-!
# Runs of an inspection

One step of an inspection takes an item and either runs its check or finds that it has none.  A run
is a sequence of steps, each of which begins with the clock that the one before has left.

Main statements: the report of an inspection lists the entries of a run over the items of its plan,
and every such run is an inspection (`inspect_eq_ok_iff`); there is a run whenever the factories
that the plan names build their checks (`exists_runs`).
-/

namespace ComponentSpec
namespace Inspection

/-! ## Steps -/

/-- An item with the result of its check, if it has one. -/
structure Step where
  item : Item
  result : Option (Except Fault Outcome)

def Step.entry (step : Step) : Entry :=
  step.item.entry step.result

/-- The ways in which a step comes to its entry. -/
inductive Step.Enters (step : Step) : Entry → Prop
  | unknown {name : String} {given : Datum} (hitem : step.item = .rule name given)
      (hresult : step.result = none) :
      Enters step (.warning {
        rule := name, passed := false, message := "Unknown validation rule: " ++ name
        severity := .warning })
  | manual {r : Requirement} (hitem : step.item = .requirement r) (hresult : step.result = none) :
      Enters step (.manual r.text)
  | faulted {fault : Fault} (hresult : step.result = some (.error fault)) :
      Enters step (.warning {
        rule := step.item.label, passed := false
        message := "Error running validation: " ++ fault.message, severity := .warning })
  | passed {outcome : Outcome} (hresult : step.result = some (.ok outcome))
      (hpassed : outcome.passed = true) :
      Enters step (.passed (findingOf step.item.label (step.item.severity true) outcome))
  | failed {outcome : Outcome} (hresult : step.result = some (.ok outcome))
      (hpassed : outcome.passed = false) (hlenient : step.item.isLenient = false) :
      Enters step (.failed (findingOf step.item.label (step.item.severity false) outcome))
  | lenient {outcome : Outcome} (hresult : step.result = some (.ok outcome))
      (hpassed : outcome.passed = false) (hlenient : step.item.isLenient = true) :
      Enters step (.warning (findingOf step.item.label (step.item.severity false) outcome))

theorem Step.enters_entry (step : Step) : step.Enters step.entry := by
  rcases step with ⟨item, result⟩
  cases result with
  | none =>
      cases item with
      | rule name given => exact .unknown rfl rfl
      | requirement r => exact .manual rfl rfl
  | some result =>
      cases result with
      | error fault => exact .faulted rfl
      | ok outcome =>
          cases hpassed : outcome.passed with
          | true =>
              simp only [entry, Item.entry, Item.outcomeEntry, hpassed, if_true]
              exact .passed rfl hpassed
          | false =>
              simp only [entry, Item.entry, Item.outcomeEntry, hpassed, Bool.false_eq_true,
                if_false]
              split
              · exact .lenient rfl hpassed ‹_›
              · exact .failed rfl hpassed (Bool.eq_false_iff.2 ‹_›)

/-- A step from one clock to another. -/
inductive Takes (table : CheckTable) (e : Element) : Clock → Step → Clock → Prop
  | idle {item : Item} {clock : Clock} (htask : item.task table = .ok none) :
      Takes table e clock ⟨item, none⟩ clock
  | checked {item : Item} {check : Check} {parameter : Datum} {clock after : Clock}
      {result : Except Fault Outcome} (htask : item.task table = .ok (some (check, parameter)))
      (hrun : (check e parameter).run.run clock = (result, after)) :
      Takes table e clock ⟨item, some result⟩ after

/-- Steps one after another. -/
inductive Runs (table : CheckTable) (e : Element) : Clock → List Step → Clock → Prop
  | nil {clock : Clock} : Runs table e clock [] clock
  | cons {clock between after : Clock} {step : Step} {steps : List Step}
      (hstep : Takes table e clock step between) (hrest : Runs table e between steps after) :
      Runs table e clock (step :: steps) after

variable {table : CheckTable} {e : Element} {clock after : Clock}

theorem Runs.exists_takes {steps : List Step} (h : Runs table e clock steps after) {step : Step}
    (hmem : step ∈ steps) : ∃ before between, Takes table e before step between := by
  induction h with
  | nil => cases hmem
  | cons hstep hrest ih =>
      rcases List.mem_cons.1 hmem with rfl | hmem
      · exact ⟨_, _, hstep⟩
      · exact ih hmem

theorem Takes.resolves_iff {step : Step} (h : Takes table e clock step after) :
    step.item.Resolves table ↔ step.result ≠ none := by
  cases h with
  | idle htask => simp [not_resolves_of_task htask]
  | checked htask hrun => simp [resolves_of_task htask]

/-! ## The entry of one item -/

def examineItem (table : CheckTable) (e : Element) : Item → Checking Entry
  | .rule name parameter => examineRule table e name parameter
  | .requirement r => examineRequirement table e r

/-- The entry of an item follows from its task. -/
theorem examineItem_eq (item : Item) :
    examineItem table e item =
      match item.task table with
      | .error fault => throw fault
      | .ok none => return item.idleEntry
      | .ok (some (check, parameter)) =>
          run check e parameter item.label item.outcomeEntry := by
  cases item with
  | rule name given =>
      simp only [examineItem, examineRule, Item.task, Item.slot?, Item.outcomeEntry_rule]
      cases table.checks.get? name <;> rfl
  | requirement r =>
      simp only [examineItem, examineRequirement, method_eq, Item.task]
      cases hslot : (Item.requirement r).slot? with
      | none => rfl
      | some slot =>
          cases slot with
          | check name =>
              rw [Item.outcomeEntry_of_check hslot]
              dsimp only
              cases table.checks.get? name <;> rfl
          | factory name =>
              rw [Item.outcomeEntry_of_factory hslot]
              dsimp only
              cases table.factories.get? name with
              | none => rfl
              | some factory =>
                  -- The check is built before it is run, so a refusal reads no clock.
                  dsimp only
                  cases factory (Item.requirement r).argument <;> rfl

theorem run_run (check : Check) (parameter : Datum) (item : Item)
    {result : Except Fault Outcome} (h : (check e parameter).run.run clock = (result, after)) :
    (liftM (run check e parameter item.label item.outcomeEntry) : Checking Entry).run.run clock =
      (.ok (item.entry (some result)), after) := by
  have hlift : (liftM (run check e parameter item.label item.outcomeEntry) : Checking Entry).run =
      Except.ok <$> run check e parameter item.label item.outcomeEntry := rfl
  rw [hlift, StateT.run_map]
  simp only [run, StateT.run_bind, h]
  cases result <;> rfl

theorem examineItem_of_takes {step : Step} (h : Takes table e clock step after) :
    (examineItem table e step.item).run.run clock = (.ok step.entry, after) := by
  rw [examineItem_eq]
  cases h with
  | idle htask =>
      simp only [htask]
      rfl
  | checked htask hrun =>
      simp only [htask]
      exact run_run _ _ _ hrun

theorem exists_takes_of_examineItem {item : Item} {entry : Entry}
    (h : (examineItem table e item).run.run clock = (.ok entry, after)) :
    ∃ step, Takes table e clock step after ∧ step.item = item ∧ step.entry = entry := by
  rw [examineItem_eq] at h
  cases htask : item.task table with
  | error fault =>
      rw [htask] at h
      cases h
  | ok task =>
      cases task with
      | none =>
          rw [htask] at h
          cases h
          exact ⟨⟨item, none⟩, .idle htask, rfl, rfl⟩
      | some named =>
          rcases named with ⟨check, parameter⟩
          -- A check that ends in a fault still makes an entry, so the run goes on in both cases.
          simp only [htask, run_run check parameter item rfl] at h
          cases h
          exact ⟨⟨item, some _⟩, .checked htask rfl, rfl, rfl⟩

/-! ## The entries of all items -/

def examineItems (table : CheckTable) (e : Element) : List Item → Checking (List Entry)
  | [] => return []
  | item :: rest => do
      let entry ← examineItem table e item
      let entries ← examineItems table e rest
      return entry :: entries

theorem examineItems_append (first second : List Item) :
    examineItems table e (first ++ second) = (do
      let entries ← examineItems table e first
      let others ← examineItems table e second
      return entries ++ others) := by
  induction first with
  | nil => simp [examineItems]
  | cons item rest ih => simp [examineItems, ih]

theorem examineItems_rules (rules : Fields Datum) :
    examineItems table e
        ((rules.filter fun rule => !isNull rule.2).map fun rule => .rule rule.1 rule.2) =
      examineRules table e rules := by
  induction rules with
  | nil => simp [examineItems, examineRules]
  | cons rule rest ih =>
      rcases rule with ⟨name, parameter⟩
      cases h : isNull parameter with
      | true => simpa [examineRules, h] using ih
      | false => simp [examineItems, examineRules, examineItem, h, ih]

theorem examineItems_requirements (rs : List Requirement) :
    examineItems table e (rs.map .requirement) = examineRequirements table e rs := by
  induction rs with
  | nil => rfl
  | cons r rest ih =>
      rw [List.map_cons, examineItems, ih]
      rfl

theorem inspect_eq (plan : Plan) :
    inspect table e plan = (do
      let entries ← examineItems table e (items plan)
      return reportOf plan entries) := by
  simp [inspect, items, examineItems_append, examineItems_rules, examineItems_requirements]

/-! ## Runs and inspections -/

theorem examineItems_of_runs {steps : List Step} (h : Runs table e clock steps after) :
    (examineItems table e (steps.map Step.item)).run.run clock =
      (.ok (steps.map Step.entry), after) := by
  induction h with
  | nil => rfl
  | cons hstep hrest ih =>
      rw [List.map_cons, examineItems, Checking.run_bind_of_ok _ (examineItem_of_takes hstep),
        Checking.run_bind_of_ok _ ih]
      rfl

theorem exists_runs_of_examineItems {given : List Item} {entries : List Entry}
    (h : (examineItems table e given).run.run clock = (.ok entries, after)) :
    ∃ steps, Runs table e clock steps after ∧ steps.map Step.item = given ∧
      steps.map Step.entry = entries := by
  induction given generalizing clock entries with
  | nil =>
      cases h
      exact ⟨[], .nil, rfl, rfl⟩
  | cons item rest ih =>
      rcases Checking.run_bind_eq_ok h with ⟨entry, between, hitem, h⟩
      rcases Checking.run_bind_eq_ok h with ⟨others, last, hrest, h⟩
      cases h
      rcases exists_takes_of_examineItem hitem with ⟨step, hstep, rfl, rfl⟩
      rcases ih hrest with ⟨steps, hsteps, rfl, rfl⟩
      exact ⟨step :: steps, .cons hstep hsteps, rfl, rfl⟩

theorem inspect_eq_ok_iff {plan : Plan} {report : Report} :
    (inspect table e plan).run.run clock = (.ok report, after) ↔
      ∃ steps, Runs table e clock steps after ∧ steps.map Step.item = items plan ∧
        report = reportOf plan (steps.map Step.entry) := by
  rw [inspect_eq]
  constructor
  · intro h
    rcases Checking.run_bind_eq_ok h with ⟨entries, between, hitems, h⟩
    cases h
    rcases exists_runs_of_examineItems hitems with ⟨steps, hsteps, hgiven, rfl⟩
    exact ⟨steps, hsteps, hgiven, rfl⟩
  · rintro ⟨steps, hsteps, hgiven, rfl⟩
    have h := examineItems_of_runs hsteps
    rw [hgiven] at h
    exact Checking.run_bind_of_ok _ h

/-! ## Runs exist -/

/-- Every factory that the plan names builds its check. -/
def Builds (table : CheckTable) (plan : Plan) : Prop :=
  ∀ item ∈ items plan, ∀ name factory, item.slot? = some (.factory name) →
    table.factories.get? name = some factory → ∃ check, factory item.argument = .ok check

theorem exists_task {plan : Plan} (h : Builds table plan) {item : Item}
    (hitem : item ∈ items plan) : ∃ task, item.task table = .ok task := by
  unfold Item.task
  split
  · exact ⟨none, rfl⟩
  · exact ⟨_, rfl⟩
  · rename_i name hslot
    split
    · exact ⟨none, rfl⟩
    · rename_i factory hfactory
      rcases h item hitem name factory hslot hfactory with ⟨check, hbuild⟩
      exact ⟨some (check, .null), by rw [hbuild]; rfl⟩

theorem exists_takes_of_task {item : Item} {task : Option (Check × Datum)}
    (h : item.task table = .ok task) (clock : Clock) :
    ∃ step after, Takes table e clock step after ∧ step.item = item := by
  cases task with
  | none => exact ⟨⟨item, none⟩, clock, .idle h, rfl⟩
  | some named => exact ⟨⟨item, some _⟩, _, .checked h rfl, rfl⟩

theorem exists_runs_of_tasks {given : List Item}
    (h : ∀ item ∈ given, ∃ task, item.task table = .ok task) (clock : Clock) :
    ∃ steps after, Runs table e clock steps after ∧ steps.map Step.item = given := by
  induction given generalizing clock with
  | nil => exact ⟨[], clock, .nil, rfl⟩
  | cons item rest ih =>
      rcases h item (List.mem_cons_self ..) with ⟨task, htask⟩
      rcases exists_takes_of_task (e := e) htask clock with ⟨step, between, hstep, rfl⟩
      have hrest : ∀ other ∈ rest, ∃ task, other.task table = .ok task :=
        fun other hother => h other (List.mem_cons_of_mem _ hother)
      rcases ih hrest between with ⟨steps, after, hsteps, rfl⟩
      exact ⟨step :: steps, after, .cons hstep hsteps, rfl⟩

theorem exists_runs {plan : Plan} (h : Builds table plan) (e : Element) (clock : Clock) :
    ∃ steps after, Runs table e clock steps after ∧ steps.map Step.item = items plan :=
  exists_runs_of_tasks (fun _ hitem => exists_task h hitem) clock

/-- A table in which no factory ever refuses builds for every plan. -/
theorem builds_of_total (plan : Plan)
    (h : ∀ name factory, table.factories.get? name = some factory →
      ∀ x, ∃ check, factory x = .ok check) : Builds table plan :=
  fun _ _ name factory _ hfactory => h name factory hfactory _

theorem builds_of_usual (plan : Plan) (h : table.factories = CheckTable.usual.factories) :
    Builds table plan := by
  refine builds_of_total plan ?_
  intro name factory hfactory x
  simp only [h, CheckTable.usual, Fields.get?, Option.ite_none_right_eq_some,
    Option.some.injEq] at hfactory
  rcases hfactory with ⟨-, rfl⟩
  exact ⟨_, rfl⟩

/-! ## A plan with items of every kind -/

/-- The usual tables, but every check of contrast ends in a fault. -/
def brokenContrast : CheckTable :=
  { CheckTable.usual with
    checks := CheckTable.usual.checks.set "contrast" fun _ _ =>
      timeless (.error (.failed "no colors")) }

def mixedPlan : Plan where
  component := "Button"
  rules := [("contrast", .real (.ofInt 4)), ("keyboard", .null), ("sparkle", .flag true),
    ("motion", .flag true)]
  requirements := [
    { text := "is pleasant" },
    { text := "can be hit", hint := some "minSize(44)" },
    { text := "is readable", hint := some "contrast" },
    { text := "is quick", hint := some "speed(3)" },
    { text := "has an outline", hint := some "focusVisible", severity := .warning }]

end Inspection
end ComponentSpec
