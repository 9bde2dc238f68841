import ComponentSpec.Proofs.Check.LimitField
import ComponentSpec.Proofs.Inspection.Run
import ComponentSpec.Proofs.Spec.SingleRule

/-!
# Limits written in a document

A limit that is written in a document goes through two hands: the reader brings it to the form of an
object, and a check takes the number out of the object again.  For contrast, touch targets and
motion both agree on the field, so that the rule is decided as if the check had been given the
number itself.  The size of a bundle is different: the reader takes a plain number for a minimum,
and the check asks for a maximum, so a plain number sets no limit.

Main statements: the entry of a single rule in the report (`enters_of_rules`), and the laws of
written limits (`limitLaws`).
-/

namespace ComponentSpec

open Check

/-! ## Checks with the regular form of a limit -/

namespace Check

variable (e : Element) (x : Binary64)

theorem motion_respectsPreference :
    motion e (Value.object [("respectsPreference", .flag true)]).toDatum =
      motion e (.flag true) :=
  rfl

/-- A minimum is no limit on the size of a bundle. -/
theorem bundleSize_min :
    bundleSize e (Value.object [("min", .number x)]).toDatum = bundleSize e (.number unlimited) :=
  rfl

end Check

namespace Inspection

/-! ## The entry of a single rule -/

/-- The entry of a rule whose check has a result. -/
def ruleEntry (name : String) : Except Fault Outcome → Entry
  | .ok outcome =>
      if outcome.passed then .passed (findingOf name .info outcome)
      else .failed (findingOf name .error outcome)
  | .error fault => faultEntry name fault

/-- The report on an element with the usual tables has the entry of a rule, from a result of its
check, and no other entries but those of the requirements. -/
def Enters (e : Element) (document name : String) (result : Except Fault Outcome) : Prop :=
  ∀ clock, ∃ (steps : List Step) (after : Clock),
    (inspect CheckTable.usual e (Spec.ofDocument document).plan).run.run clock =
        (.ok (reportOf (Spec.ofDocument document).plan
          (ruleEntry name result :: steps.map Step.entry)), after) ∧
      steps.map Step.item = (Spec.ofDocument document).requirements.map .requirement

theorem entry_rule (name : String) (given : Datum) (result : Except Fault Outcome) :
    (Item.rule name given).entry (some result) = ruleEntry name result := by
  cases result with
  | ok outcome => rw [Item.entry, Item.outcomeEntry_rule, ruleEntry]
  | error fault => rfl

theorem items_of_rules {spec : Spec} {name : String} {v : Value}
    (hrules : spec.rules = some [(name, v)]) :
    items spec.plan = .rule name v.toDatum :: spec.requirements.map .requirement := by
  have hnull : isNull v.toDatum = false := by
    cases v <;> rfl
  simp [items, Spec.plan, hrules, Value.fieldsToData, hnull]

theorem entry_of_takes {e : Element} {clock after : Clock} {step : Step} {name : String} {v : Value}
    {check : Check} {result : Except Fault Outcome}
    (htakes : Takes CheckTable.usual e clock step after)
    (hitem : step.item = .rule name v.toDatum)
    (hcheck : CheckTable.usual.checks.get? name = some check)
    (hresult : check e v.toDatum = timeless result) : step.entry = ruleEntry name result := by
  have htask : step.item.task CheckTable.usual = .ok (some (check, v.toDatum)) := by
    rw [hitem]
    simp only [Item.task, Item.slot?, Item.parameter, hcheck, Option.map_some]
  cases htakes with
  | idle hnone => cases hnone.symm.trans htask
  | @checked item found parameter _ _ outcome hsome hrun =>
      cases hsome.symm.trans htask
      have hgiven : (check e v.toDatum).run.run clock = (result, clock) := by
        rw [hresult]
        rfl
      cases hrun.symm.trans hgiven
      have hitem : item = .rule name v.toDatum := hitem
      rw [Step.entry, hitem, entry_rule]

theorem enters_of_rules {e : Element} {document name : String} {v : Value} {check : Check}
    {result : Except Fault Outcome} (hrules : (Spec.ofDocument document).rules = some [(name, v)])
    (hcheck : CheckTable.usual.checks.get? name = some check)
    (hresult : check e v.toDatum = timeless result) : Enters e document name result := by
  intro clock
  have hbuilds : Builds CheckTable.usual (Spec.ofDocument document).plan := builds_of_usual _ rfl
  rcases exists_runs hbuilds e clock with ⟨steps, after, hruns, hitems⟩
  have hreport := inspect_eq_ok_iff.2 ⟨steps, hruns, hitems, rfl⟩
  -- The first step is that of the rule, and the other steps are those of the requirements.
  rw [items_of_rules hrules] at hitems
  cases hruns with
  | nil => cases hitems
  | @cons _ between _ step steps hstep hrest =>
      rcases List.cons.inj hitems with ⟨hitem, hothers⟩
      refine ⟨steps, after, ?_, hothers⟩
      rw [hreport, List.map_cons, entry_of_takes hstep hitem hcheck hresult]

/-! ## Written limits -/

section

variable {document : String} {limit : WrittenNumeral}

theorem enters_contrast (h : Spec.IsSingleRule document "contrast" limit.text) (e : Element) :
    Enters e document "contrast" (contrast e (.real limit.value)) := by
  have hvalue : Spec.normalizeRule "contrast" (Value.read limit.text) =
      some (.object [("ratio", .number limit.value)]) := by
    rw [Value.read_numeral]
    rfl
  exact enters_of_rules (Spec.rules_of_isSingleRule h hvalue) rfl
    (congrArg timeless (contrast_limitIn e (.real limit.value) []))

theorem enters_touchTarget (h : Spec.IsSingleRule document "touchTarget" limit.text) (e : Element) :
    Enters e document "touchTarget" (touchTarget e (.real limit.value)) := by
  have hvalue : Spec.normalizeRule "touchTarget" (Value.read limit.text) =
      some (.object [("min", .number limit.value)]) := by
    rw [Value.read_numeral]
    rfl
  exact enters_of_rules (Spec.rules_of_isSingleRule h hvalue) rfl
    (congrArg timeless (touchTarget_limitIn e (.real limit.value) []))

theorem enters_motion (h : Spec.IsSingleRule document "motion" "true".toList) (e : Element) :
    Enters e document "motion" (.ok (motion e (.flag true))) := by
  have hvalue : Spec.normalizeRule "motion" (Value.read "true".toList) =
      some (.object [("respectsPreference", .flag true)]) := by
    rw [Value.read_eq]
    rfl
  exact enters_of_rules (Spec.rules_of_isSingleRule h hvalue) rfl
    (congrArg (timeless ∘ .ok) (motion_respectsPreference e))

theorem enters_bundleSize (h : Spec.IsSingleRule document "bundleSize" limit.text) (e : Element) :
    Enters e document "bundleSize" (bundleSize e (.number unlimited)) := by
  have hvalue : Spec.normalizeRule "bundleSize" (Value.read limit.text) =
      some (.object [("min", .number limit.value)]) := by
    rw [Value.read_numeral]
    rfl
  exact enters_of_rules (Spec.rules_of_isSingleRule h hvalue) rfl
    (congrArg timeless (bundleSize_min e limit.value))

end

/-- The laws of limits that are written in a document. -/
structure LimitLaws : Prop where
  contrast : ∀ (document : String) (limit : WrittenNumeral),
    Spec.IsSingleRule document "contrast" limit.text →
      ∀ e, Enters e document "contrast" (contrast e (.real limit.value))
  touchTarget : ∀ (document : String) (limit : WrittenNumeral),
    Spec.IsSingleRule document "touchTarget" limit.text →
      ∀ e, Enters e document "touchTarget" (touchTarget e (.real limit.value))
  motion : ∀ document : String, Spec.IsSingleRule document "motion" "true".toList →
    ∀ e, Enters e document "motion" (.ok (motion e (.flag true)))
  /-- A plain number is no limit on the size of a bundle. -/
  bundleSize : ∀ (document : String) (limit : WrittenNumeral),
    Spec.IsSingleRule document "bundleSize" limit.text →
      ∀ e, Enters e document "bundleSize" (bundleSize e (.number unlimited))
  /-- Without a limit every size passes; with a limit only the sizes up to it pass. -/
  passed_bundleSize : ∀ (e : Element) (outcome : Outcome),
    (Check.bundleSize e (.number unlimited) = .ok outcome → outcome.passed = true) ∧
      ∀ x, Check.bundleSize e (.real x) = .ok outcome →
        outcome.passed = (Number.whole (estimatedSize e)).le (.real x)
  /-- For the snapshot of an element all these checks have an outcome. -/
  exists_outcome : ∀ e : Element, e.IsSnapshot → ∀ x,
    (∃ outcome, Check.contrast e (.real x) = .ok outcome) ∧
      (∃ outcome, Check.touchTarget e (.real x) = .ok outcome) ∧
      (∃ outcome, Check.bundleSize e (.number unlimited) = .ok outcome) ∧
      ∃ outcome, Check.bundleSize e (.real x) = .ok outcome

theorem limitLaws : LimitLaws where
  contrast := fun _ _ hrule e => enters_contrast hrule e
  touchTarget := fun _ _ hrule e => enters_touchTarget hrule e
  motion := fun _ hrule e => enters_motion hrule e
  bundleSize := fun _ _ hrule e => enters_bundleSize hrule e
  passed_bundleSize := by
    intro e outcome
    refine ⟨?_, ?_⟩
    · intro hunlimited
      rw [passed_of_bundleSize hunlimited]
      exact Number.whole_le_unlimited (estimatedSize e)
    · intro x hlimited
      exact passed_of_bundleSize hlimited
  exists_outcome := by
    intro e he x
    have hcontrast := isAnswer_contrast e (.number x)
    have hsize : touchSize (.real x) = .ok (.real x) := rfl
    have htouch := isAnswer_touchTarget_of_size he hsize (Number.brief_real x)
    have hunlimited := isAnswer_bundleSize he (.number (.infinite false))
    have hlimited := isAnswer_bundleSize he (.number x)
    exact ⟨hcontrast.imp fun _ h => h.1, htouch.imp fun _ h => h.1,
      hunlimited.imp fun _ h => h.1, hlimited.imp fun _ h => h.1⟩

/-! ## A budget without effect -/

/-- A document with a budget of a hundred bytes. -/
def smallBudget : String :=
  "@Validation \x7b\n  bundleSize: 100\n\x7d"

/-- The number of the budget. -/
def hundred : WrittenNumeral where
  whole := "100".toList
  whole_ne_nil := by decide
  isDigit_whole := List.all_eq_true.1 (by decide)
  isDigit_fraction := fun _ h => absurd h List.not_mem_nil

/-- An element that is estimated at a hundred and fifty bytes. -/
def threeChildren : Element :=
  .node {} [.node {} [], .node {} [], .node {} []]

theorem isSingleRule_smallBudget : Spec.IsSingleRule smallBudget "bundleSize" hundred.text := by
  let rule : Spec.WrittenRule := {
    name := "bundleSize".toList
    token := hundred.text
    before := "\n  ".toList
    afterName := []
    beforeToken := [' ']
    after := ['\n']
    name_ne_nil := by decide
    isWord_name := List.all_eq_true.1 (by decide)
    token_ne_nil := by decide
    isBlank_token := hundred.isBlank_text
    isBlank_before := List.all_eq_true.1 (by decide)
    isBlank_afterName := fun _ h => absurd h List.not_mem_nil
    isBlank_beforeToken := List.forall_mem_singleton.2 ⟨by decide, by decide⟩
    isBlank_after := List.forall_mem_singleton.2 (by decide) }
  refine ⟨⟨"Validation".toList, rule.body⟩, rule, ?_, ?_, rfl, rfl, rfl⟩
  · decide +kernel
  · decide +kernel

/-- The element is above the budget, and yet the rule passes. -/
theorem enters_smallBudget :
    Spec.IsSingleRule smallBudget "bundleSize" hundred.text ∧ threeChildren.IsSnapshot ∧
      (∃ outcome, bundleSize threeChildren (.real hundred.value) = .ok outcome ∧
        outcome.passed = false) ∧
      (∃ report after,
        (inspect CheckTable.usual threeChildren (Spec.ofDocument smallBudget).plan).run.run {} =
            (.ok report, after) ∧
          report.passed.map Finding.rule = ["bundleSize"] ∧ report.failed = []) ∧
      ¬ Enters threeChildren smallBudget "bundleSize"
        (bundleSize threeChildren (.real hundred.value)) := by
  have he : threeChildren.IsSnapshot :=
    ⟨rfl, rfl, by decide +kernel, fun _ h => absurd h List.not_mem_nil⟩
  rcases isAnswer_bundleSize he (.number hundred.value) with ⟨direct, hdirect, -⟩
  have hfails : direct.passed = false := by
    rw [passed_of_bundleSize hdirect]
    decide +kernel
  rcases isAnswer_bundleSize he (.number (.infinite false)) with ⟨outcome, houtcome, -⟩
  have hpasses : outcome.passed = true := by
    rw [passed_of_bundleSize houtcome]
    rfl
  have hrequirements : (Spec.ofDocument smallBudget).requirements = [] := by decide +kernel
  rcases enters_bundleSize isSingleRule_smallBudget threeChildren {} with
    ⟨steps, after, hreport, hitems⟩
  rw [hrequirements, List.map_nil, List.map_eq_nil_iff] at hitems
  have hentry : ruleEntry "bundleSize" (bundleSize threeChildren (.number unlimited)) =
      .passed (findingOf "bundleSize" .info outcome) := by
    have hunlimited : bundleSize threeChildren (.number unlimited) = .ok outcome := houtcome
    rw [hunlimited, ruleEntry, if_pos hpasses]
  rw [hitems, hentry] at hreport
  refine ⟨isSingleRule_smallBudget, he, ⟨direct, hdirect, hfails⟩,
    ⟨_, after, hreport, rfl, rfl⟩, ?_⟩
  intro henters
  rcases henters {} with ⟨others, last, hother, -⟩
  -- With the limit the report would have the rule among the failures, and it has none there.
  have hwrong : ruleEntry "bundleSize" (bundleSize threeChildren (.real hundred.value)) =
      .failed (findingOf "bundleSize" .error direct) := by
    have hlimited : bundleSize threeChildren (.real hundred.value) = .ok direct := hdirect
    rw [hlimited, ruleEntry, if_neg (by simp [hfails])]
  have hreports := Except.ok.inj (Prod.mk.inj (hreport.symm.trans hother)).1
  rw [hwrong] at hreports
  have hfailed := congrArg Report.failed hreports
  cases hfailed

end Inspection
end ComponentSpec
