import ComponentSpec.Proofs.Check.Answers
import ComponentSpec.Proofs.Inspection.Verdict

/-!
# Faults in the inspection of a document

The usual checks answer for what a document can hold, with one exception: a document may ask for a
touch target of a size that no binary number can stand for, by writing an integer of some hundred
digits as a text.  The check cannot show this size and ends in a fault, which makes a warning like
any other fault.

Main statements: what becomes of the check of an item (`settles_of_runs`), and which warnings of an
inspection report a fault (`inspect_faults`).
-/

namespace ComponentSpec
namespace Inspection

open Text Check

/-! ## Parameters of items -/

theorem mem_fieldsToData {fields : List (String × Value)} {name : String} {d : Datum} :
    (name, d) ∈ Value.fieldsToData fields ↔ ∃ v, (name, v) ∈ fields ∧ d = v.toDatum := by
  induction fields with
  | nil => simp [Value.fieldsToData]
  | cons field rest ih =>
      rcases field with ⟨n, v⟩
      simp only [Value.fieldsToData, List.mem_cons, Prod.mk.injEq, ih]
      constructor
      · rintro (⟨rfl, rfl⟩ | ⟨w, hw, rfl⟩)
        · exact ⟨v, .inl ⟨rfl, rfl⟩, rfl⟩
        · exact ⟨w, .inr hw, rfl⟩
      · rintro ⟨w, ⟨rfl, rfl⟩ | hw, rfl⟩
        · exact .inl ⟨rfl, rfl⟩
        · exact .inr ⟨w, hw, rfl⟩

theorem isNull_toDatum (v : Value) : isNull v.toDatum = false := by
  cases v <;> rfl

/-- The rules of a specification, one after another, are items of its plan. -/
theorem rule_mem_items_iff {spec : Spec} {name : String} {parameter : Datum} :
    Item.rule name parameter ∈ items spec.plan ↔
      ∃ v, (name, v) ∈ spec.rules.getD [] ∧ parameter = v.toDatum := by
  have hmem : Item.rule name parameter ∈ items spec.plan ↔
      (name, parameter) ∈ Value.fieldsToData (spec.rules.getD []) ∧ isNull parameter = false := by
    simp [items, Spec.plan]
  rw [hmem, mem_fieldsToData]
  constructor
  · exact fun h => h.1
  · rintro ⟨v, hv, rfl⟩
    exact ⟨⟨v, hv, rfl⟩, isNull_toDatum v⟩

/-- The parameter of an item is a value, and its texts stand in the document. -/
theorem exists_parameter {document : String} {item : Item}
    (hitem : item ∈ items (Spec.ofDocument document).plan) :
    ∃ v : Value, item.parameter = v.toDatum ∧ ∀ t, v.HasText t → t.toList <:+: document.toList := by
  cases item with
  | rule name parameter =>
      rcases rule_mem_items_iff.1 hitem with ⟨v, hv, rfl⟩
      exact ⟨v, rfl, fun t ht => Spec.infix_of_mem_rules hv ht⟩
  | requirement r => exact ⟨.flag true, rfl, nofun⟩

/-! ## Steps -/

/-- The item asks for a touch target of an oversized size. -/
def Item.IsOversized (item : Item) : Prop :=
  ∃ rule, item = .rule "touchTarget" rule ∧ rule.IsOversized

/-- What becomes of the check of an item with the usual tables. -/
inductive Settles (item : Item) : Option (Except Fault Outcome) → Prop
  | idle (hitem : ¬ item.IsOversized) : Settles item none
  | answered {outcome : Outcome} (hitem : ¬ item.IsOversized)
      (hmessage : ¬ ReportsFault outcome.message) : Settles item (some (.ok outcome))
  | faulted (hitem : item.IsOversized) : Settles item (some (.error .integerTooLarge))

variable {e : Element} {clock after : Clock} {step : Step}

theorem settles_of_isOversized (htakes : Takes CheckTable.usual e clock step after)
    (hitem : step.item.IsOversized) : Settles step.item step.result := by
  have hcopy := hitem
  rcases hcopy with ⟨rule, hrule, hlarge⟩
  have htask : step.item.task CheckTable.usual = .ok (some (Check.ofExcept touchTarget, rule)) := by
    rw [hrule]
    rfl
  cases htakes with
  | idle hnone => cases hnone.symm.trans htask
  | checked hsome hrun =>
      cases hsome.symm.trans htask
      have hfault : (Check.ofExcept touchTarget e rule).run.run clock =
          (.error .integerTooLarge, clock) := by
        rw [Check.ofExcept, touchTarget_of_isOversized e hlarge]
        rfl
      cases hrun.symm.trans hfault
      exact .faulted hitem

theorem settles_of_not_isOversized (he : e.IsSnapshot) (hshort : e.HasShortNumerals)
    (htakes : Takes CheckTable.usual e clock step after) {v : Value}
    (hparameter : step.item.parameter = v.toDatum)
    (htexts : ∀ t, v.HasText t → Text.HasShortNumerals t.toList)
    (hitem : ¬ step.item.IsOversized) : Settles step.item step.result := by
  cases htakes with
  | idle htask => exact .idle hitem
  | @checked item check parameter _ _ _ htask hrun =>
      have hanswers : Answers check e parameter := by
        rcases slot?_of_task htask with
          ⟨name, hslot, hcheck, rfl⟩ | ⟨name, factory, -, hfactory, hcheck, rfl⟩
        · rw [hparameter]
          refine answers_of_usual he hshort htexts hcheck ?_
          rintro rfl hlarge
          -- A requirement has the flag for its parameter, so the item is a rule.
          cases item with
          | rule n rule =>
              cases hslot
              have hrule : rule = v.toDatum := hparameter
              exact hitem ⟨rule, rfl, hrule ▸ hlarge⟩
          | requirement r =>
              rw [← hparameter] at hlarge
              rcases hlarge with ⟨n, hn, -⟩
              cases hn
        · exact answers_of_usual_factory he hfactory hcheck .null
      rcases hanswers _ with ⟨outcome, last, hanswer, hmessage⟩
      cases hrun.symm.trans hanswer
      exact .answered hitem hmessage

/-- Every step of an inspection of a document settles its item. -/
theorem settles_of_runs {document : String} (hdocument : Text.HasShortNumerals document.toList)
    (he : e.IsSnapshot) (hshort : e.HasShortNumerals) {steps : List Step}
    (hruns : Runs CheckTable.usual e clock steps after)
    (hitems : steps.map Step.item = items (Spec.ofDocument document).plan)
    (hstep : step ∈ steps) : Settles step.item step.result := by
  rcases hruns.exists_takes hstep with ⟨before, between, htakes⟩
  have hmem : step.item ∈ items (Spec.ofDocument document).plan :=
    hitems ▸ List.mem_map_of_mem hstep
  rcases exists_parameter hmem with ⟨v, hparameter, htexts⟩
  by_cases hitem : step.item.IsOversized
  · exact settles_of_isOversized htakes hitem
  · exact settles_of_not_isOversized he hshort htakes hparameter
      (fun t ht => hdocument.of_isInfix (htexts t ht)) hitem

theorem Settles.eq_error_iff {item : Item} {result : Option (Except Fault Outcome)}
    (h : Settles item result) {fault : Fault} :
    result = some (.error fault) ↔ fault = .integerTooLarge ∧ item.IsOversized := by
  cases h with
  | idle hitem => simp [hitem]
  | answered hitem => simp [hitem]
  | faulted hitem => simp [hitem, eq_comm]

/-! ## Warnings -/

/-- The warning about an oversized size. -/
def sizeWarning : Finding where
  rule := "touchTarget"
  passed := false
  message := "Error running validation: int too large to convert to float"
  severity := .warning

theorem entry_of_isOversized (h : Settles step.item step.result) (hitem : step.item.IsOversized) :
    step.entry = .warning sizeWarning := by
  rw [Step.entry, h.eq_error_iff.2 ⟨rfl, hitem⟩]
  rcases hitem with ⟨rule, hrule, -⟩
  rw [hrule]
  rfl

/-- No step but that of an oversized size makes a warning that reports a fault. -/
theorem isOversized_of_reportsFault {finding : Finding} (h : Settles step.item step.result)
    (hentry : step.entry = .warning finding) (hmessage : ReportsFault finding.message) :
    step.item.IsOversized := by
  have henters := step.enters_entry
  rw [hentry] at henters
  cases henters with
  | unknown => exact absurd hmessage (not_reportsFault_ofList_append (by decide) _)
  | faulted hresult => exact (h.eq_error_iff.1 hresult).2
  | lenient hresult =>
      rw [hresult] at h
      cases h with
      | answered _ hown => exact absurd hmessage hown

theorem mem_warnings_iff {plan : Plan} {steps : List Step} {finding : Finding} :
    finding ∈ (reportOf plan (steps.map Step.entry)).warnings ↔
      ∃ step ∈ steps, step.entry = .warning finding := by
  constructor
  · intro h
    rcases exists_step_of_mem h with ⟨step, hstep, hentry⟩
    exact ⟨step, hstep, Entry.warning?_eq_some_iff.1 hentry⟩
  · rintro ⟨step, hstep, hentry⟩
    exact List.mem_filterMap.2
      ⟨step.entry, List.mem_map_of_mem hstep, Entry.warning?_eq_some_iff.2 hentry⟩

/-- A specification asks for a touch target of an oversized size. -/
def AsksForOversized (spec : Spec) : Prop :=
  ∃ rule ∈ spec.rules.getD [], rule.1 = "touchTarget" ∧ rule.2.toDatum.IsOversized

theorem exists_isOversized_iff {spec : Spec} :
    (∃ item ∈ items spec.plan, item.IsOversized) ↔ AsksForOversized spec := by
  constructor
  · rintro ⟨item, hitem, rule, rfl, hlarge⟩
    rcases rule_mem_items_iff.1 hitem with ⟨v, hv, rfl⟩
    exact ⟨_, hv, rfl, hlarge⟩
  · rintro ⟨⟨name, v⟩, hv, rfl, hlarge⟩
    exact ⟨_, rule_mem_items_iff.2 ⟨v, hv, rfl⟩, v.toDatum, rfl, hlarge⟩

/-- In an inspection of a specification the only check that faults is that of an oversized size, and
the report says so in a warning. -/
structure FaultsOnlyInSizes (spec : Spec) (steps : List Step) (report : Report) : Prop where
  fault_iff : ∀ step ∈ steps, ∀ fault, step.result = some (.error fault) ↔
    fault = .integerTooLarge ∧ step.item.IsOversized
  warning_eq : ∀ finding ∈ report.warnings, ReportsFault finding.message → finding = sizeWarning
  warning_iff : (∃ finding ∈ report.warnings, ReportsFault finding.message) ↔
    AsksForOversized spec

theorem faultsOnlyInSizes_of_settles {spec : Spec} {steps : List Step}
    (hsettles : ∀ step ∈ steps, Settles step.item step.result)
    (hitems : steps.map Step.item = items spec.plan) :
    FaultsOnlyInSizes spec steps (reportOf spec.plan (steps.map Step.entry)) where
  fault_iff := fun step hstep _ => (hsettles step hstep).eq_error_iff
  warning_eq := by
    intro finding hfinding hmessage
    rcases mem_warnings_iff.1 hfinding with ⟨step, hstep, hentry⟩
    have hitem := isOversized_of_reportsFault (hsettles step hstep) hentry hmessage
    cases hentry.symm.trans (entry_of_isOversized (hsettles step hstep) hitem)
    rfl
  warning_iff := by
    rw [← exists_isOversized_iff, ← hitems]
    constructor
    · rintro ⟨finding, hfinding, hmessage⟩
      rcases mem_warnings_iff.1 hfinding with ⟨step, hstep, hentry⟩
      exact ⟨step.item, List.mem_map_of_mem hstep,
        isOversized_of_reportsFault (hsettles step hstep) hentry hmessage⟩
    · rintro ⟨item, hitem, hlarge⟩
      rcases List.mem_map.1 hitem with ⟨step, hstep, rfl⟩
      exact ⟨sizeWarning,
        mem_warnings_iff.2 ⟨step, hstep, entry_of_isOversized (hsettles step hstep) hlarge⟩,
        reportsFault_append "int too large to convert to float"⟩

theorem exists_settled_runs {document : String} {e : Element}
    (hdocument : Text.HasShortNumerals document.toList) (he : e.IsSnapshot)
    (hshort : e.HasShortNumerals) (clock : Clock) :
    ∃ steps after, Runs CheckTable.usual e clock steps after ∧
      steps.map Step.item = items (Spec.ofDocument document).plan ∧
      ∀ step ∈ steps, Settles step.item step.result := by
  have hbuilds : Builds CheckTable.usual (Spec.ofDocument document).plan := builds_of_usual _ rfl
  rcases exists_runs hbuilds e clock with ⟨steps, after, hruns, hitems⟩
  exact ⟨steps, after, hruns, hitems,
    fun step hstep => settles_of_runs hdocument he hshort hruns hitems hstep⟩

theorem inspect_faults {document : String} {e : Element}
    (hdocument : Text.HasShortNumerals document.toList) (he : e.IsSnapshot)
    (hshort : e.HasShortNumerals) (clock : Clock) :
    ∃ report steps after,
      (inspect CheckTable.usual e (Spec.ofDocument document).plan).run.run clock =
        (.ok report, after) ∧
      Runs CheckTable.usual e clock steps after ∧
      steps.map Step.item = items (Spec.ofDocument document).plan ∧
      report = reportOf (Spec.ofDocument document).plan (steps.map Step.entry) ∧
      FaultsOnlyInSizes (Spec.ofDocument document) steps report := by
  rcases exists_settled_runs hdocument he hshort clock with
    ⟨steps, after, hruns, hitems, hsettles⟩
  have hreport := inspect_eq_ok_iff.2 ⟨steps, hruns, hitems, rfl⟩
  exact ⟨_, steps, after, hreport, hruns, hitems, rfl,
    faultsOnlyInSizes_of_settles hsettles hitems⟩

/-- A document with limits for a button. -/
def buttonLimits : String :=
  "@Validation \x7b\n  touchTarget: \"48px\"\n  bundleSize: \x7b max: \"2kb\" \x7d\n  renderTime: 50\n\x7d"

/-- A button of which no height was measured. -/
def smallButton : Element :=
  .node { tag := "button", attributes := [("tabindex", "0")], width := .real (.ofInt 30) }
    [.node { text := "Send" } []]

theorem inspect_faults_buttonLimits :
    Text.HasShortNumerals buttonLimits.toList ∧ smallButton.IsSnapshot ∧
      smallButton.HasShortNumerals ∧
      ∃ report steps after,
        (inspect CheckTable.usual smallButton (Spec.ofDocument buttonLimits).plan).run.run {} =
          (.ok report, after) ∧
        Runs CheckTable.usual smallButton {} steps after ∧
        steps.map Step.item = items (Spec.ofDocument buttonLimits).plan ∧
        report = reportOf (Spec.ofDocument buttonLimits).plan (steps.map Step.entry) ∧
        FaultsOnlyInSizes (Spec.ofDocument buttonLimits) steps report := by
  have hdocument : Text.HasShortNumerals buttonLimits.toList :=
    Text.hasShortNumerals_of_length_le (by decide +kernel)
  have he : smallButton.IsSnapshot := ⟨trivial, rfl, by decide +kernel, by decide +kernel⟩
  have hshort : smallButton.HasShortNumerals :=
    ⟨List.forall_mem_singleton.2 (Text.hasShortNumerals_of_length_le (by decide +kernel)),
      fun _ h => absurd h List.not_mem_nil⟩
  exact ⟨hdocument, he, hshort, inspect_faults hdocument he hshort {}⟩

/-- A size of four hundred digits. -/
def hugeSize : List Char :=
  List.replicate 400 '9' ++ "px".toList

/-- The line that asks for a touch target of this size. -/
def hugeLine : List Char :=
  "touchTarget: ".toList ++ hugeSize

/-- A document with this line. -/
def hugeTarget : List Char :=
  "@Validation \x7b".toList ++ hugeLine ++ ['\x7d']

theorem read_hugeSize : Value.read hugeSize = .text (String.ofList hugeSize) := by
  have hunquoted : Value.unquoted? hugeSize = none := by decide +kernel
  have hflag : Value.flag? hugeSize = none := by decide +kernel
  have hnumber : Value.numeral? hugeSize = none := by decide +kernel
  have hitems : Value.listItems? hugeSize = none := by decide +kernel
  have hpairs : Value.objectPairs? hugeSize = none := by decide +kernel
  have hcomparison : Value.comparison? hugeSize = none := by decide +kernel
  simp only [Value.read_eq, hunquoted, hflag, hnumber, hitems, hpairs, hcomparison]

theorem rules_hugeTarget : (Spec.read hugeTarget).rules =
    some [("touchTarget", .object [("min", .text (String.ofList hugeSize))])] := by
  have hbody : Spec.lastBody? "validation" (Spec.blocksOf hugeTarget) = some hugeLine := by
    decide +kernel
  have hlines : Spec.significantLines hugeLine = [hugeLine] := by decide +kernel
  have hnamed : Spec.namedValue? hugeLine = some ("touchTarget".toList, hugeSize) := by
    decide +kernel
  simp only [(Spec.collects_read hugeTarget).rules, hbody, Option.map_some, Spec.readRules, hlines,
    List.foldl_cons, List.foldl_nil, Spec.readRule, hnamed, read_hugeSize]
  rfl

theorem sizeInText?_hugeTarget :
    (Value.object [("min", .text (String.ofList hugeSize))]).toDatum.sizeInText? =
      some (10 ^ 400 - 1 : Nat) := by
  have hinteger : (leadingInt hugeSize).toOption.join = some (10 ^ 400 - 1 : Nat) := by decide +kernel
  have hfield : (Value.object [("min", .text (String.ofList hugeSize))]).toDatum.field? "min" =
      some (.text (String.ofList hugeSize)) := rfl
  simp only [Datum.sizeInText?, hfield, String.toList_ofList, hinteger]

/-- The numerals of this document are short enough, but its size is oversized. -/
theorem inspect_faults_hugeTarget :
    Text.HasShortNumerals (String.ofList hugeTarget).toList ∧ (Element.node {} []).IsSnapshot ∧
      (Element.node {} []).HasShortNumerals ∧
      ∃ report after,
        (inspect CheckTable.usual (.node {} []) (Spec.ofDocument (String.ofList hugeTarget)).plan).run.run
          {} = (.ok report, after) ∧
        ∃ finding ∈ report.warnings, ReportsFault finding.message := by
  have hdocument : Text.HasShortNumerals (String.ofList hugeTarget).toList := by
    have hlength : hugeTarget.length ≤ Fault.digitLimit := by decide +kernel
    exact Text.hasShortNumerals_of_length_le (by simpa only [String.toList_ofList] using hlength)
  have he : (Element.node {} []).IsSnapshot :=
    ⟨rfl, rfl, by decide +kernel, fun _ h => absurd h List.not_mem_nil⟩
  have hshort : (Element.node {} []).HasShortNumerals :=
    ⟨fun _ h => absurd h List.not_mem_nil, fun _ h => absurd h List.not_mem_nil⟩
  have hasks : AsksForOversized (Spec.ofDocument (String.ofList hugeTarget)) := by
    refine ⟨("touchTarget", .object [("min", .text (String.ofList hugeSize))]), ?_, rfl, _,
      sizeInText?_hugeTarget, by decide +kernel⟩
    simp only [Spec.ofDocument, String.toList_ofList, rules_hugeTarget, Option.getD_some,
      List.mem_singleton]
  rcases exists_settled_runs hdocument he hshort {} with
    ⟨steps, after, hruns, hitems, hsettles⟩
  have hreport := inspect_eq_ok_iff.2 ⟨steps, hruns, hitems, rfl⟩
  have hfaults := faultsOnlyInSizes_of_settles hsettles hitems
  exact ⟨hdocument, he, hshort, _, after, hreport, hfaults.warning_iff.2 hasks⟩

end Inspection
end ComponentSpec
