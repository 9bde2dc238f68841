import ComponentSpec.Diagnostics.Journal
import ComponentSpec.Proofs.Inspection.Run

/-!
# The two exits of an inspection

A check that ends in a fault makes an entry, so the running of checks never ends an inspection.
The building of a check is not guarded: the first requirement whose factory refuses ends the
inspection with the fault of its factory.  The journal takes a report only after every item has its
entry, so an inspection that ends in a fault leaves it as it was.

Main statements: an item stops an inspection exactly if the factory that it names refuses
(`task_eq_error_iff`), going through items ends at the first that does so
(`examineItems_of_error`), and an inspection with a journal has these two exits and no other
(`inspectInto_exits`).
-/

namespace ComponentSpec
namespace Inspection

open Diagnostics

/-! ## Refusals -/

/-- The factory that the hint of a requirement names does not build a check for its argument. -/
def Refuses (table : CheckTable) (r : Requirement) (fault : Fault) : Prop :=
  ∃ hint name argument factory, r.hint = some hint ∧
    parameterized? hint = some (name, argument) ∧ table.factories.get? name = some factory ∧
    factory ((leadingReal? argument).getD .nan) = .error fault

/-- The first requirement whose factory refuses, and its fault. -/
def FirstRefusal (table : CheckTable) (rs : List Requirement) (fault : Fault) : Prop :=
  ∃ before r rest, rs = before ++ r :: rest ∧ Refuses table r fault ∧
    ∀ earlier ∈ before, ∀ other, ¬ Refuses table earlier other

variable {table : CheckTable} {e : Element} {clock after : Clock} {fault : Fault}

theorem slot?_of_parameterized? {r : Requirement} {hint name : String} {argument : List Char}
    (hhint : r.hint = some hint) (hparts : parameterized? hint = some (name, argument)) :
    (Item.requirement r).slot? = some (.factory name) ∧
      (Item.requirement r).argument = (leadingReal? argument).getD .nan := by
  have hempty : hint.isEmpty = false := by
    refine Bool.eq_false_iff.2 fun hempty => ?_
    rw [String.isEmpty_iff.1 hempty] at hparts
    cases hparts
  constructor
  · simp [Item.slot?, hhint, hparts, hempty]
  · simp [Item.argument, hhint, hparts]

theorem exists_parameterized?_of_slot? {r : Requirement} {name : String}
    (h : (Item.requirement r).slot? = some (.factory name)) :
    ∃ hint argument, r.hint = some hint ∧ parameterized? hint = some (name, argument) := by
  unfold Item.slot? at h
  dsimp only at h
  split at h
  · cases h
  · rename_i hint hhint
    split at h
    · cases h
    · split at h
      · rename_i found argument hparts
        cases h
        exact ⟨hint, argument, hhint, hparts⟩
      · cases h

theorem task_eq_error_iff {item : Item} :
    item.task table = .error fault ↔ ∃ r, item = .requirement r ∧ Refuses table r fault := by
  constructor
  · intro h
    cases item with
    | rule name parameter => cases h
    | requirement r =>
        unfold Item.task at h
        split at h
        · cases h
        · cases h
        · rename_i name hslot
          rcases exists_parameterized?_of_slot? hslot with ⟨hint, argument, hhint, hparts⟩
          have hargument := (slot?_of_parameterized? hhint hparts).2
          split at h
          · cases h
          · rename_i factory hfactory
            cases hbuild : factory (Item.requirement r).argument with
            | ok check =>
                rw [hbuild] at h
                cases h
            | error fault' =>
                rw [hbuild] at h
                cases h
                exact ⟨r, rfl, hint, name, argument, factory, hhint, hparts, hfactory,
                  hargument ▸ hbuild⟩
  · rintro ⟨r, rfl, hint, name, argument, factory, hhint, hparts, hfactory, hbuild⟩
    rcases slot?_of_parameterized? hhint hparts with ⟨hslot, hargument⟩
    simp only [Item.task, hslot, hfactory, hargument, hbuild]
    rfl

theorem exists_task_iff {item : Item} :
    (∃ task, item.task table = .ok task) ↔
      ∀ r, item = .requirement r → ∀ fault, ¬ Refuses table r fault := by
  constructor
  · rintro ⟨task, htask⟩ r hitem fault hrefuses
    rw [task_eq_error_iff.2 ⟨r, hitem, hrefuses⟩] at htask
    cases htask
  · intro h
    cases htask : item.task table with
    | ok task => exact ⟨task, rfl⟩
    | error fault =>
        rcases task_eq_error_iff.1 htask with ⟨r, hitem, hrefuses⟩
        exact absurd hrefuses (h r hitem fault)

theorem FirstRefusal.exists_refuses {rs : List Requirement} (h : FirstRefusal table rs fault) :
    ∃ r ∈ rs, ∃ fault, Refuses table r fault := by
  rcases h with ⟨before, r, rest, rfl, hrefuses, -⟩
  exact ⟨r, List.mem_append_right _ (List.mem_cons_self ..), fault, hrefuses⟩

theorem firstRefusal_or (table : CheckTable) (rs : List Requirement) :
    (∀ r ∈ rs, ∀ fault, ¬ Refuses table r fault) ∨ ∃ fault, FirstRefusal table rs fault := by
  induction rs with
  | nil => exact Or.inl fun r hr => absurd hr List.not_mem_nil
  | cons r rest ih =>
      by_cases hrefuses : ∃ fault, Refuses table r fault
      · rcases hrefuses with ⟨fault, hrefuses⟩
        exact Or.inr ⟨fault, [], r, rest, rfl, hrefuses, fun _ h => absurd h List.not_mem_nil⟩
      · have hr : ∀ fault, ¬ Refuses table r fault := fun fault h => hrefuses ⟨fault, h⟩
        rcases ih with hall | ⟨fault, before, later, rest', rfl, hlater, hbefore⟩
        · exact Or.inl (List.forall_mem_cons.2 ⟨hr, hall⟩)
        · exact Or.inr ⟨fault, r :: before, later, rest', rfl, hlater,
            List.forall_mem_cons.2 ⟨hr, hbefore⟩⟩

/-! ## Runs that end -/

theorem examineItems_of_error {given before rest : List Item} {item : Item}
    (hgiven : given = before ++ item :: rest) (hitem : item.task table = .error fault)
    (hbefore : ∀ earlier ∈ before, ∃ task, earlier.task table = .ok task) (clock : Clock) :
    ∃ after, (examineItems table e given).run.run clock = (.error fault, after) := by
  rcases exists_runs_of_tasks (e := e) hbefore clock with ⟨steps, after, hruns, rfl⟩
  refine ⟨after, ?_⟩
  rw [hgiven, examineItems_append, Checking.run_bind_of_ok _ (examineItems_of_runs hruns),
    examineItems, examineItem_eq, hitem]
  rfl

theorem inspect_of_firstRefusal {plan : Plan} (h : FirstRefusal table plan.requirements fault)
    (e : Element) (clock : Clock) :
    ∃ after, (inspect table e plan).run.run clock = (.error fault, after) := by
  rcases h with ⟨before, r, rest, hrs, hrefuses, hbefore⟩
  have hgiven : items plan =
      ((plan.rules.filter fun rule => !isNull rule.2).map (fun rule => .rule rule.1 rule.2) ++
        before.map .requirement) ++ .requirement r :: rest.map .requirement := by
    simp [items, hrs]
  -- The rules come first, and no rule can end the inspection.
  have htasks : ∀ earlier ∈ (plan.rules.filter fun rule => !isNull rule.2).map
      (fun rule => Item.rule rule.1 rule.2) ++ before.map .requirement,
      ∃ task, earlier.task table = .ok task := by
    intro earlier hearlier
    refine exists_task_iff.2 fun r' hr' => ?_
    subst hr'
    refine hbefore r' ?_
    simpa using hearlier
  rcases examineItems_of_error hgiven (task_eq_error_iff.2 ⟨r, rfl, hrefuses⟩) htasks clock with
    ⟨after, hafter⟩
  refine ⟨after, ?_⟩
  rw [inspect_eq, ExceptT.run_bind, StateT.run_bind, hafter]
  rfl

theorem exists_runs_of_no_refusal {plan : Plan}
    (h : ∀ r ∈ plan.requirements, ∀ fault, ¬ Refuses table r fault) (e : Element) (clock : Clock) :
    ∃ steps after, Runs table e clock steps after ∧ steps.map Step.item = items plan := by
  refine exists_runs_of_tasks (fun item hitem => exists_task_iff.2 fun r hr => ?_) clock
  subst hr
  exact h r (by simpa [items] using hitem)

/-! ## Inspections with a journal -/

theorem inspectInto_of_error {plan : Plan} (journal : Journal)
    (h : (inspect table e plan).run.run clock = (.error fault, after)) :
    (inspectInto table e plan journal).run clock = ((.error fault, journal), after) := by
  rw [inspectInto, StateT.run_bind, h]
  rfl

theorem inspectInto_of_ok {plan : Plan} {report : Report} (journal : Journal)
    (h : (inspect table e plan).run.run clock = (.ok report, after)) :
    (inspectInto table e plan journal).run clock = ((.ok report, journal.record report), after) := by
  rw [inspectInto, StateT.run_bind, h]
  rfl

/-- The inspection ends with the report of a run over all items, which the journal has taken once
and keeps as its last. -/
def IsRecorded (table : CheckTable) (e : Element) (plan : Plan) (journal : Journal) (clock : Clock)
    (outcome : Except Fault Report × Journal) : Prop :=
  ∃ report steps after, outcome = (.ok report, journal.record report) ∧
    (journal.record report).sink.last = some report ∧
    Runs table e clock steps after ∧ steps.map Step.item = items plan ∧
    report = reportOf plan (steps.map Step.entry)

theorem inspectInto_of_firstRefusal {plan : Plan}
    (h : FirstRefusal table plan.requirements fault) (e : Element) (journal : Journal)
    (clock : Clock) : ((inspectInto table e plan journal).run clock).1 = (.error fault, journal) := by
  rcases inspect_of_firstRefusal h e clock with ⟨after, hafter⟩
  rw [inspectInto_of_error journal hafter]

theorem inspectInto_of_no_refusal {plan : Plan}
    (h : ∀ r ∈ plan.requirements, ∀ fault, ¬ Refuses table r fault) (e : Element)
    (journal : Journal) (clock : Clock) :
    IsRecorded table e plan journal clock ((inspectInto table e plan journal).run clock).1 := by
  rcases exists_runs_of_no_refusal h e clock with ⟨steps, after, hruns, hitems⟩
  have hreport := inspect_eq_ok_iff.2 ⟨steps, hruns, hitems, rfl⟩
  rw [inspectInto_of_ok journal hreport]
  exact ⟨_, steps, after, rfl, journal.last_record _, hruns, hitems, rfl⟩

theorem inspectInto_exits (table : CheckTable) (e : Element) (plan : Plan) (journal : Journal)
    (clock : Clock) :
    ((∃ fault journal', ((inspectInto table e plan journal).run clock).1 = (.error fault, journal')) ↔
      ∃ r ∈ plan.requirements, ∃ fault, Refuses table r fault) ∧
    (∀ fault, ((inspectInto table e plan journal).run clock).1 = (.error fault, journal) ↔
      FirstRefusal table plan.requirements fault) ∧
    (IsRecorded table e plan journal clock ((inspectInto table e plan journal).run clock).1 ↔
      ¬ ∃ r ∈ plan.requirements, ∃ fault, Refuses table r fault) := by
  rcases firstRefusal_or table plan.requirements with hnone | ⟨fault, hfirst⟩
  -- Each of the two exits has its own form, so either of them rules the other out.
  · have hnot : ¬ ∃ r ∈ plan.requirements, ∃ fault, Refuses table r fault :=
      fun ⟨r, hr, fault, hrefuses⟩ => hnone r hr fault hrefuses
    have hrecorded := inspectInto_of_no_refusal hnone e journal clock
    have hcopy := hrecorded
    rcases hcopy with ⟨report, steps, after, houtcome, -⟩
    refine ⟨iff_of_false ?_ hnot, fun fault => iff_of_false ?_ ?_, iff_of_true hrecorded hnot⟩
    · rintro ⟨fault, journal', herror⟩
      cases houtcome.symm.trans herror
    · intro herror
      cases houtcome.symm.trans herror
    · intro hfirst
      exact hnot hfirst.exists_refuses
  · have hexit := inspectInto_of_firstRefusal hfirst e journal clock
    have hsome := hfirst.exists_refuses
    refine ⟨iff_of_true ⟨fault, journal, hexit⟩ hsome, fun other => ⟨?_, ?_⟩,
      iff_of_false ?_ (not_not_intro hsome)⟩
    · intro herror
      cases hexit.symm.trans herror
      exact hfirst
    · intro hother
      exact inspectInto_of_firstRefusal hother e journal clock
    · rintro ⟨report, steps, after, houtcome, -⟩
      cases hexit.symm.trans houtcome

end Inspection
end ComponentSpec
