import ComponentSpec.Proofs.Inspection.Run

/-!
# Accounting for the items of an inspection

A report has four lists.  Each item of the plan stands in exactly one of them, under its own label,
and the items of one list stand in the order of the plan.  Which list an item goes to is up to the
checks; that nothing is lost, doubled or moved does not depend on them.

Main statement: the report of an inspection accounts for the items of its plan
(`inspect_accounts`).
-/

namespace ComponentSpec
namespace Inspection

/-! ## Places -/

/-- The lists of a report. -/
inductive Place
  | passed
  | failed
  | warnings
  | manual
  deriving DecidableEq

/-- What the entries in one list of a report are about, in order. -/
def labels (report : Report) : Place → List String
  | .passed => report.passed.map Finding.rule
  | .failed => report.failed.map Finding.rule
  | .warnings => report.warnings.map Finding.rule
  | .manual => report.manual

namespace Entry

def place : Entry → Place
  | passed _ => .passed
  | failed _ => .failed
  | warning _ => .warnings
  | manual _ => .manual

def label : Entry → String
  | passed finding => finding.rule
  | failed finding => finding.rule
  | warning finding => finding.rule
  | manual text => text

end Entry

/-- A list of the report holds the entries that are placed there, in the order in which they were
made. -/
theorem labels_reportOf (plan : Plan) (entries : List Entry) (place : Place) :
    labels (reportOf plan entries) place =
      (entries.filter fun entry => entry.place = place).map Entry.label := by
  induction entries with
  | nil => cases place <;> rfl
  | cons entry rest ih =>
      cases place <;> cases entry <;>
        simpa [labels, reportOf, List.filterMap_cons, Entry.place, Entry.label, Entry.passed?,
          Entry.failed?, Entry.warning?, Entry.manual?] using ih

/-! ## The entry of a step -/

theorem Step.Enters.label {step : Step} {entry : Entry} (h : step.Enters entry) :
    entry.label = step.item.label := by
  cases h with
  | unknown hitem hresult =>
      rw [hitem]
      rfl
  | manual hitem hresult =>
      rw [hitem]
      rfl
  | faulted hresult => rfl
  | passed hresult hpassed => rfl
  | failed hresult hpassed hlenient => rfl
  | lenient hresult hpassed hlenient => rfl

/-- A list of the report names the items of the steps whose entries are placed there. -/
theorem labels_reportOf_steps (plan : Plan) (steps : List Step) (place : Place) :
    labels (reportOf plan (steps.map Step.entry)) place =
      (steps.filter fun step => step.entry.place = place).map fun step => step.item.label := by
  rw [labels_reportOf, List.filter_map, List.map_map]
  exact List.map_congr_left fun step _ => step.enters_entry.label

/-- Only a requirement can be left to a person. -/
theorem Step.Enters.exists_requirement {step : Step} {entry : Entry} (h : step.Enters entry)
    (hplace : entry.place = .manual) : ∃ r, step.item = .requirement r := by
  cases h with
  | manual hitem hresult => exact ⟨_, hitem⟩
  | _ => cases hplace

/-! ## Accounts -/

/-- The report accounts for the items: nothing is lost, nothing is doubled, and nothing changes its
order. -/
structure Accounts (given : List Item) (report : Report) : Prop where
  /-- There are as many entries as items. -/
  count : report.passed.length + report.failed.length + report.warnings.length +
    report.manual.length = given.length
  /-- Every list goes through the items in their order. -/
  ordered : ∀ place, (labels report place).Sublist (given.map Item.label)
  /-- Every item has one place, and a list holds exactly the items that are placed there. -/
  placed : ∃ placed : List (Item × Place), placed.map Prod.fst = given ∧
    (∀ place, labels report place =
      (placed.filter fun entry => entry.2 = place).map fun entry => entry.1.label) ∧
    ∀ name parameter, (Item.rule name parameter, Place.manual) ∉ placed

theorem accounts_reportOf (plan : Plan) (steps : List Step) :
    Accounts (steps.map Step.item) (reportOf plan (steps.map Step.entry)) := by
  refine ⟨?_, ?_, steps.map fun step => (step.item, step.entry.place), ?_, ?_, ?_⟩
  · rw [length_lists, List.length_map, List.length_map]
  · intro place
    rw [labels_reportOf_steps, List.map_map]
    exact (List.filter_sublist ..).map _
  · rw [List.map_map]
    rfl
  · intro place
    rw [labels_reportOf_steps, List.filter_map, List.map_map]
    rfl
  · intro name parameter hmem
    rcases List.mem_map.1 hmem with ⟨step, -, heq⟩
    rcases Prod.mk.inj heq with ⟨hitem, hmanual⟩
    rcases step.enters_entry.exists_requirement hmanual with ⟨r, hr⟩
    cases hitem.symm.trans hr

theorem inspect_accounts {table : CheckTable} {plan : Plan} (hbuilds : Builds table plan)
    (e : Element) (clock : Clock) :
    ∃ report after, (inspect table e plan).run.run clock = (.ok report, after) ∧
      Accounts (items plan) report := by
  rcases exists_runs hbuilds e clock with ⟨steps, after, hruns, hitems⟩
  refine ⟨_, after, inspect_eq_ok_iff.2 ⟨steps, hruns, hitems, rfl⟩, ?_⟩
  rw [← hitems]
  exact accounts_reportOf plan steps

theorem inspect_accounts_mixedPlan :
    Builds brokenContrast mixedPlan ∧
      ∃ report after,
        (inspect brokenContrast (.node {} []) mixedPlan).run.run {} = (.ok report, after) ∧
        Accounts (items mixedPlan) report := by
  have hbuilds : Builds brokenContrast mixedPlan := builds_of_usual mixedPlan rfl
  exact ⟨hbuilds, inspect_accounts hbuilds _ _⟩

example : ((inspect brokenContrast (.node {} []) mixedPlan).run.run {}).1.toOption.map
    (fun report => [Place.passed, .failed, .warnings, .manual].map (labels report)) =
    some [["motion"], ["can be hit"], ["contrast", "sparkle", "is readable", "has an outline"],
      ["is pleasant", "is quick"]] := by
  decide +kernel

end Inspection
end ComponentSpec
