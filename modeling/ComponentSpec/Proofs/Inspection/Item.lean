import ComponentSpec.Inspection

/-!
# The items of an inspection

The items of a plan are its rules that are not null and then its requirements.  Each item is looked
up in at most one slot of the tables, and what is found there is its task: a check with the
parameter that it is given.  The report has one entry for an item, which depends only on the item
and on what has become of its check.

Main statements: the method by which a requirement is decided is read off its slot (`method_eq`), an
item has a task exactly if its slot is filled (`resolves_of_task`, `not_resolves_of_task`), and two
tables that agree about the slot of an item give it the same task (`task_congr`).
-/

namespace ComponentSpec
namespace Inspection

open Text

/-! ## Items and slots -/

/-- What an inspection decides one after another. -/
inductive Item
  | rule (name : String) (parameter : Datum)
  | requirement (r : Requirement)

/-- A name in one of the two tables. -/
inductive Slot
  | check (name : String)
  | factory (name : String)
  deriving DecidableEq

def items (plan : Plan) : List Item :=
  (plan.rules.filter fun rule => !isNull rule.2).map (fun rule => .rule rule.1 rule.2) ++
    plan.requirements.map .requirement

namespace Item

/-- The text by which the report names an item. -/
def label : Item → String
  | rule name _ => name
  | requirement r => r.text

/-- The slot in which an item is looked up; a requirement without a hint has none. -/
def slot? : Item → Option Slot
  | rule name _ => some (.check name)
  | requirement r =>
      match r.hint with
      | none => none
      | some hint =>
          if hint.isEmpty then none
          else
            match parameterized? hint with
            | some (name, _) => some (.factory name)
            | none => some (.check hint)

/-- What a check from the table of checks is given; a hint without an argument sets no limit. -/
def parameter : Item → Datum
  | rule _ parameter => parameter
  | requirement _ => .flag true

/-- The number that a factory is given, not-a-number if the hint has none that can be read. -/
def argument : Item → Binary64
  | rule _ _ => .nan
  | requirement r =>
      ((r.hint.bind parameterized?).bind fun parts => leadingReal? parts.2).getD .nan

/-- The check that is run for an item and its parameter, if any; a factory may refuse to build. -/
def task (table : CheckTable) (item : Item) : Except Fault (Option (Check × Datum)) :=
  match item.slot? with
  | none => .ok none
  | some (.check name) => .ok ((table.checks.get? name).map (·, item.parameter))
  | some (.factory name) =>
      match table.factories.get? name with
      | none => .ok none
      | some factory => (factory item.argument).map fun check => some (check, .null)

end Item

/-! ## What is in a slot -/

/-- Whether the tables have something in a slot. -/
def Slot.IsFilled (table : CheckTable) : Slot → Prop
  | check name => (table.checks.get? name).isSome
  | factory name => (table.factories.get? name).isSome

/-- Whether two tables have the same in a slot. -/
def Slot.IsShared (table other : CheckTable) : Slot → Prop
  | check name => table.checks.get? name = other.checks.get? name
  | factory name => table.factories.get? name = other.factories.get? name

/-- Whether the tables have what an item names. -/
def Item.Resolves (table : CheckTable) (item : Item) : Prop :=
  ∃ slot, item.slot? = some slot ∧ slot.IsFilled table

variable {table other : CheckTable} {item : Item} {check : Check} {parameter : Datum}

/-- Where the check of a task was found, or the factory that has built it. -/
theorem slot?_of_task (h : item.task table = .ok (some (check, parameter))) :
    (∃ name, item.slot? = some (.check name) ∧ table.checks.get? name = some check ∧
        parameter = item.parameter) ∨
      ∃ name factory, item.slot? = some (.factory name) ∧
        table.factories.get? name = some factory ∧ factory item.argument = .ok check ∧
        parameter = .null := by
  unfold Item.task at h
  split at h
  · cases h
  · rename_i name hslot
    have hfound : ∃ found, table.checks.get? name = some found ∧ found = check ∧
        item.parameter = parameter := by
      simpa using h
    rcases hfound with ⟨found, hfound, rfl, rfl⟩
    exact Or.inl ⟨name, hslot, hfound, rfl⟩
  · rename_i name hslot
    split at h
    · cases h
    · rename_i factory hfactory
      cases hbuild : factory item.argument with
      | error fault =>
          rw [hbuild] at h
          cases h
      | ok built =>
          rw [hbuild] at h
          cases h
          exact Or.inr ⟨name, factory, hslot, hfactory, hbuild, rfl⟩

theorem resolves_of_task (h : item.task table = .ok (some (check, parameter))) :
    item.Resolves table := by
  rcases slot?_of_task h with ⟨name, hslot, hfound, -⟩ | ⟨name, factory, hslot, hfound, -⟩
  · exact ⟨.check name, hslot, by simp [Slot.IsFilled, hfound]⟩
  · exact ⟨.factory name, hslot, by simp [Slot.IsFilled, hfound]⟩

theorem not_resolves_of_task (h : item.task table = .ok none) : ¬ item.Resolves table := by
  rintro ⟨slot, hslot, hfilled⟩
  cases slot with
  | check name =>
      rcases Option.isSome_iff_exists.1 hfilled with ⟨found, hfound⟩
      simp [Item.task, hslot, hfound] at h
  | factory name =>
      rcases Option.isSome_iff_exists.1 hfilled with ⟨factory, hfactory⟩
      simp only [Item.task, hslot, hfactory] at h
      cases hbuild : factory item.argument with
      | error fault =>
          rw [hbuild] at h
          cases h
      | ok built =>
          rw [hbuild] at h
          cases h

theorem task_congr (h : ∀ slot, item.slot? = some slot → slot.IsShared table other) :
    item.task table = item.task other := by
  unfold Item.task
  split
  · rfl
  · rename_i name hslot
    have hname : table.checks.get? name = other.checks.get? name := h _ hslot
    rw [hname]
  · rename_i name hslot
    have hname : table.factories.get? name = other.factories.get? name := h _ hslot
    rw [hname]

/-- The method of a requirement read off its slot. -/
theorem method_eq (r : Requirement) :
    method table r =
      match (Item.requirement r).slot? with
      | none => .manual
      | some (.check name) =>
          match table.checks.get? name with
          | some check => .named check
          | none => .manual
      | some (.factory name) =>
          match table.factories.get? name with
          | some factory => .built factory (Item.requirement r).argument
          | none => .manual := by
  cases hhint : r.hint with
  | none => simp [method, Item.slot?, hhint]
  | some hint =>
      cases hempty : hint.isEmpty with
      | true => simp [method, Item.slot?, hhint, hempty]
      | false =>
          cases hparts : parameterized? hint with
          | none =>
              cases hfound : table.checks.get? hint <;>
                simp [method, Item.slot?, hhint, hempty, hparts, hfound]
          | some parts =>
              cases hfound : table.factories.get? parts.1 <;>
                simp [method, Item.slot?, Item.argument, hhint, hempty, hparts, hfound]

/-! ## Entries -/

namespace Item

/-- The severity of an item whose check has an outcome. -/
def severity (passed : Bool) : Item → Severity
  | rule _ _ => if passed then .info else .error
  | requirement r => r.severity

/-- Whether the failure of an item is only a warning. -/
def isLenient : Item → Bool
  | rule _ _ => false
  | requirement r =>
      match (requirement r).slot? with
      | some (.check _) => r.severity == .warning
      | _ => false

/-- The entry of an item for which nothing is run. -/
def idleEntry : Item → Entry
  | rule name _ =>
      .warning {
        rule := name, passed := false, message := "Unknown validation rule: " ++ name
        severity := .warning }
  | requirement r => .manual r.text

def outcomeEntry (item : Item) (outcome : Outcome) : Entry :=
  let finding := findingOf item.label (item.severity outcome.passed) outcome
  if outcome.passed then .passed finding
  else if item.isLenient then .warning finding
  else .failed finding

/-- The entry of an item with what has become of its check. -/
def entry (item : Item) : Option (Except Fault Outcome) → Entry
  | none => item.idleEntry
  | some (.error fault) => faultEntry item.label fault
  | some (.ok outcome) => item.outcomeEntry outcome

theorem outcomeEntry_rule (name : String) (given : Datum) :
    (rule name given).outcomeEntry = fun outcome =>
      if outcome.passed then .passed (findingOf name .info outcome)
      else .failed (findingOf name .error outcome) := by
  funext outcome
  cases h : outcome.passed <;> simp [outcomeEntry, isLenient, label, severity, h]

theorem outcomeEntry_of_check {r : Requirement} {name : String}
    (h : (requirement r).slot? = some (.check name)) :
    (requirement r).outcomeEntry = namedEntry r := by
  funext outcome
  simp [outcomeEntry, namedEntry, isLenient, h, label, severity]

theorem outcomeEntry_of_factory {r : Requirement} {name : String}
    (h : (requirement r).slot? = some (.factory name)) :
    (requirement r).outcomeEntry = builtEntry r := by
  funext outcome
  simp [outcomeEntry, builtEntry, isLenient, h, label, severity]

end Item
end Inspection
end ComponentSpec
