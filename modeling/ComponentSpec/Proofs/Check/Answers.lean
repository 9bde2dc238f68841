import ComponentSpec.Check.Table
import ComponentSpec.Proofs.Element.Snapshot
import ComponentSpec.Proofs.Spec.Fragment

/-!
# Checks that answer

A usual check that is given a parameter from a document and the snapshot of an element comes to an
answer.  Documents hold binary numbers only, which can all be shown; what is counted on an element
is far below the range of the format; and integers are read from texts without long numerals.  There
is one way around all this: the least size of a touch target may be given as a text, and then it is
an integer of any size.

Main statements: the check of touch targets ends in a fault if its size is oversized
(`touchTarget_of_isOversized`); any other usual check answers (`answers_of_usual`), and so does a
check that a usual factory builds (`answers_of_usual_factory`).
-/

namespace ComponentSpec

open Text

/-! ## Parameters from documents -/

namespace Value

theorem get?_fieldsToData (fields : List (String × Value)) (name : String) :
    Fields.get? (fieldsToData fields) name = (Fields.get? fields name).map toDatum := by
  induction fields with
  | nil => rfl
  | cons field rest ih =>
      rcases field with ⟨n, v⟩
      simp only [fieldsToData, Fields.get?]
      split
      · rfl
      · exact ih

theorem exists_of_field? {v : Value} {name : String} {d : Datum}
    (h : v.toDatum.field? name = some d) :
    ∃ fields w, v = .object fields ∧ Fields.get? fields name = some w ∧ d = w.toDatum := by
  cases v with
  | object fields =>
      rw [toDatum, Datum.field?, get?_fieldsToData] at h
      rcases Option.map_eq_some_iff.1 h with ⟨w, hw, rfl⟩
      exact ⟨fields, w, rfl, hw, rfl⟩
  | text => cases h
  | flag => cases h
  | number => cases h
  | list => cases h
  | comparison => cases h

theorem hasText_of_field? {v : Value} {name s : String}
    (h : v.toDatum.field? name = some (.text s)) : v.HasText s := by
  rcases exists_of_field? h with ⟨fields, w, rfl, hw, hs⟩
  have hw' : w = .text s := by
    cases w <;> cases hs
    rfl
  rw [hw'] at hw
  exact .field (Fields.mem_of_get?_eq_some hw) .text

/-- The numbers of documents are binary. -/
theorem exists_real_of_number? {v : Value} {a : Number} (h : v.toDatum.number? = some a) :
    ∃ x, a = .real x := by
  cases v with
  | number x =>
      cases h
      exact ⟨x, rfl⟩
  | text => cases h
  | flag => cases h
  | list => cases h
  | object => cases h
  | comparison => cases h

theorem exists_real_of_limit? {v : Value} {field : String} {a : Number}
    (h : Check.limit? v.toDatum field = some a) : ∃ x, a = .real x := by
  rcases Option.or_eq_some_iff.1 h with h | ⟨-, h⟩
  · exact exists_real_of_number? h
  · rcases Option.bind_eq_some_iff.1 h with ⟨d, hd, ha⟩
    rcases exists_of_field? hd with ⟨-, w, -, -, rfl⟩
    exact exists_real_of_number? ha

end Value

/-! ## Oversized parameters -/

namespace Datum

/-- The integer in the text that gives the least size of a touch target. -/
def sizeInText? (rule : Datum) : Option Int :=
  match rule.field? "min" with
  | some (.text s) => (leadingInt s.toList).toOption.join
  | _ => none

/-- The parameter gives the least size of a touch target as a text, and the integer in this text is
beyond the range of binary numbers. -/
def IsOversized (rule : Datum) : Prop :=
  ∃ n, rule.sizeInText? = some n ∧ 2 ^ 1024 - 2 ^ 970 ≤ n.natAbs

instance (rule : Datum) : Decidable rule.IsOversized :=
  decidable_of_iff (rule.sizeInText?.any fun n => decide (2 ^ 1024 - 2 ^ 970 ≤ n.natAbs))
    ((Option.any_eq_true _ _).trans
      (exists_congr fun _ => and_congr_right fun _ => decide_eq_true_iff))

theorem sizeInText?_eq_some_iff {rule : Datum} {n : Int} :
    rule.sizeInText? = some n ↔
      ∃ s, rule.field? "min" = some (.text s) ∧ leadingInt s.toList = .ok (some n) := by
  constructor
  · intro h
    unfold sizeInText? at h
    split at h
    · rename_i s hmin
      cases hn : leadingInt s.toList with
      | error fault =>
          rw [hn] at h
          cases h
      | ok n? =>
          rw [hn] at h
          cases h
          exact ⟨s, hmin, hn⟩
    · cases h
  · rintro ⟨s, hmin, hn⟩
    simp only [sizeInText?, hmin, hn]
    rfl

end Datum

/-! ## Messages -/

/-- The message is that of a fault. -/
def ReportsFault (message : String) : Prop :=
  "Error running validation: ".toList <+: message.toList

theorem reportsFault_append (s : String) : ReportsFault ("Error running validation: " ++ s) := by
  rw [ReportsFault, String.toList_append]
  exact List.prefix_append _ _

/-- A message that opens with other letters is not that of a fault. -/
theorem not_reportsFault_ofList {a b : Char} {rest : List Char} (h : ¬ (a = 'E' ∧ b = 'r')) :
    ¬ ReportsFault (String.ofList (a :: b :: rest)) := by
  intro hfault
  have hstart : ['E', 'r'] <+: (String.ofList (a :: b :: rest)).toList := by
    refine List.IsPrefix.trans ?_ hfault
    decide
  rw [String.toList_ofList, List.cons_prefix_cons, List.cons_prefix_cons] at hstart
  exact h ⟨hstart.1.symm, hstart.2.1.symm⟩

/-- So it is however it goes on. -/
theorem not_reportsFault_ofList_append {a b : Char} {opening : List Char}
    (h : ¬ (a = 'E' ∧ b = 'r')) (rest : String) :
    ¬ ReportsFault (String.ofList (a :: b :: opening) ++ rest) := by
  rw [← String.ofList_toList (s := rest), ← String.ofList_append]
  exact not_reportsFault_ofList h

theorem not_reportsFault_of_nat (n : Nat) (rest : String) : ¬ ReportsFault (toString n ++ rest) := by
  intro h
  have hdigits : (toString n).toList = Nat.toDigits 10 n := by
    rw [Nat.toString_eq_ofList_toDigits, String.toList_ofList]
  rw [ReportsFault, String.toList_append, hdigits] at h
  -- A numeral opens with a digit, and the message of a fault with a letter.
  cases hn : Nat.toDigits 10 n with
  | nil => exact Nat.toDigits_ne_nil hn
  | cons c digits =>
      have hc : c.isDigit = true :=
        Nat.isDigit_of_mem_toDigits (by decide) (by decide) (hn ▸ List.mem_cons_self ..)
      rw [hn, List.cons_append] at h
      have hE : 'E' = c := (List.cons_prefix_cons.1 h).1
      rw [← hE] at hc
      cases hc

theorem not_reportsFault_ite {c : Prop} [Decidable c] {s t : String} (hs : ¬ ReportsFault s)
    (ht : ¬ ReportsFault t) : ¬ ReportsFault (if c then s else t) := by
  split
  · exact hs
  · exact ht

/-! ## The checks one by one -/

/-- What an outcome tells in one of its details. -/
def Outcome.detail? (outcome : Outcome) (name : String) : Option Datum :=
  outcome.details.bind (Fields.get? · name)

namespace Check

variable {e : Element}

/-- The outcome is there, and its message is its own. -/
def IsAnswer (result : Except Fault Outcome) : Prop :=
  ∃ outcome, result = .ok outcome ∧ ¬ ReportsFault outcome.message

theorem isAnswer_contrast (e : Element) (v : Value) : IsAnswer (contrast e v.toDatum) := by
  have hratio : ∃ x, (limit? v.toDatum "ratio").getD usualContrast = .real x := by
    cases hlimit : limit? v.toDatum "ratio" with
    | none => exact ⟨_, rfl⟩
    | some a => exact Value.exists_real_of_limit? hlimit
  rcases hratio with ⟨x, hx⟩
  unfold contrast
  rw [hx]
  refine ⟨_, rfl, ?_⟩
  dsimp only
  rw [String.append_assoc]
  exact not_reportsFault_ofList_append (by decide) _

theorem isAnswer_keyboard (hshort : e.HasShortNumerals) (parameter : Datum) :
    IsAnswer (keyboard e parameter) := by
  unfold keyboard
  dsimp only
  cases htab : e.attribute? "tabindex" with
  | none => exact ⟨_, rfl, not_reportsFault_ite (not_reportsFault_ofList (by decide))
        (not_reportsFault_ofList (by decide))⟩
  | some s =>
      have hs := hshort.attributes _ (Fields.mem_of_get?_eq_some htab)
      rcases exists_leadingInt hs with ⟨order, horder⟩
      dsimp only
      rw [horder]
      exact ⟨_, rfl, not_reportsFault_ite (not_reportsFault_ofList (by decide))
        (not_reportsFault_ofList (by decide))⟩

theorem not_reportsFault_focusVisible (e : Element) (parameter : Datum) :
    ¬ ReportsFault (focusVisible e parameter).message :=
  not_reportsFault_ite (not_reportsFault_ofList (by decide))
    (not_reportsFault_ofList (by decide))

theorem not_reportsFault_motion (e : Element) (parameter : Datum) :
    ¬ ReportsFault (motion e parameter).message := by
  unfold motion
  split
  · dsimp only
    rw [apply_ite Outcome.message]
    refine not_reportsFault_ite (not_reportsFault_ofList (by decide)) ?_
    dsimp only
    exact not_reportsFault_ofList (by decide)
  · exact not_reportsFault_ofList (by decide)

theorem not_reportsFault_screenReader (e : Element) (parameter : Datum) :
    ¬ ReportsFault (screenReader e parameter).message :=
  not_reportsFault_ite (not_reportsFault_ofList (by decide))
    (not_reportsFault_ofList (by decide))

theorem not_reportsFault_xss (e : Element) (parameter : Datum) :
    ¬ ReportsFault (xss e parameter).message :=
  not_reportsFault_ite (not_reportsFault_ofList (by decide))
    (not_reportsFault_ofList (by decide))

theorem isAnswer_clickjacking (hshort : e.HasShortNumerals) (parameter : Datum) :
    IsAnswer (clickjacking e parameter) := by
  have hdefault : Text.HasShortNumerals ((Fields.get? defaultStyle "z-index").getD "").toList :=
    hasShortNumerals_of_length_le (by decide)
  rcases exists_leadingInt (hshort.computedStyle hdefault) with ⟨layer, hlayer⟩
  unfold clickjacking
  dsimp only
  split
  · exact ⟨_, rfl, not_reportsFault_ofList (by decide)⟩
  · rw [hlayer]
    exact ⟨_, rfl, not_reportsFault_ite (not_reportsFault_ofList (by decide))
      (not_reportsFault_ofList (by decide))⟩

theorem not_reportsFault_externalLinks (e : Element) (parameter : Datum) :
    ¬ ReportsFault (externalLinks e parameter).message := by
  unfold externalLinks
  dsimp only
  split
  · exact not_reportsFault_ofList (by decide)
  · split
    · exact not_reportsFault_ofList (by decide)
    · split
      · exact not_reportsFault_ofList (by decide)
      · exact not_reportsFault_ite (not_reportsFault_ofList (by decide))
          (not_reportsFault_ofList_append (by decide) _)

theorem not_reportsFault_imageOptimization (e : Element) (parameter : Datum) :
    ¬ ReportsFault (imageOptimization e parameter).message := by
  unfold imageOptimization
  dsimp only
  split
  · exact not_reportsFault_ofList (by decide)
  · refine not_reportsFault_ite ?_ (not_reportsFault_of_nat _ _)
    rw [String.append_assoc]
    exact not_reportsFault_ofList_append (by decide) _

theorem log2_estimatedSize_le (he : e.IsSnapshot) : (estimatedSize e).log2 ≤ 100 := by
  have hattribute : ∀ name, attributeLength e name < 2 ^ 63 := by
    intro name
    unfold attributeLength
    cases hvalue : e.attribute? name with
    | none => decide
    | some s => exact he.length_attributes _ (Fields.mem_of_get?_eq_some hvalue)
  have hstyle := hattribute "style"
  have hclass := hattribute "class"
  have hnodes := he.length_descendants
  have hsize : estimatedSize e < 2 ^ 100 := by
    unfold estimatedSize nodeWeight
    omega
  by_cases hzero : estimatedSize e = 0
  · rw [hzero]
    decide
  · exact Nat.le_of_lt ((Nat.log2_lt hzero).2 hsize)

/-- A limit on the size of a bundle is a binary number, or a bit if a flag stands for it. -/
theorem bundleLimit_toDatum (v : Value) :
    (∃ x, bundleLimit v.toDatum = .real x) ∨
      ∃ b : Bool, bundleLimit v.toDatum = .whole (if b then 1 else 0) := by
  cases v with
  | text => exact .inl ⟨_, rfl⟩
  | flag b => exact .inr ⟨b, rfl⟩
  | number x => exact .inl ⟨x, rfl⟩
  | list => exact .inl ⟨_, rfl⟩
  | comparison => exact .inl ⟨_, rfl⟩
  | object fields =>
      refine .inl ?_
      simp only [Value.toDatum, bundleLimit, Value.get?_fieldsToData]
      cases hmax : Fields.get? fields "max" with
      | none => exact ⟨_, rfl⟩
      | some w =>
          cases w with
          | text s =>
              simp only [Option.map_some, Value.toDatum, kilobytes?]
              cases wholeReal? (s.toList.filter fun c => isDigit c || c == '.') with
              | none => exact ⟨_, rfl⟩
              | some x => exact ⟨_, rfl⟩
          | number x =>
              simp only [Option.map_some, Value.toDatum, Datum.real]
              split <;> exact ⟨_, rfl⟩
          | flag => exact ⟨_, rfl⟩
          | list => exact ⟨_, rfl⟩
          | object => exact ⟨_, rfl⟩
          | comparison => exact ⟨_, rfl⟩

theorem exists_divNat_bundleLimit (v : Value) :
    ∃ most, (bundleLimit v.toDatum).divNat kilobyte = .ok most := by
  rcases bundleLimit_toDatum v with ⟨x, hx⟩ | ⟨b, hb⟩
  · exact ⟨_, by rw [hx, Number.divNat_real]⟩
  · rw [hb]
    exact Number.exists_divNat_whole (by cases b <;> decide)

/-- The check of bundle sizes answers if the estimate and the limit can be given in kilobytes. -/
theorem isAnswer_bundleSize_of_divNat {rule : Datum} {size most : Binary64}
    (hsize : (Number.whole (estimatedSize e)).divNat kilobyte = .ok size)
    (hmost : (bundleLimit rule).divNat kilobyte = .ok most) : IsAnswer (bundleSize e rule) := by
  unfold bundleSize
  dsimp only
  rw [hsize, hmost]
  cases (Number.whole (estimatedSize e)).le (bundleLimit rule) with
  | true =>
      refine ⟨_, rfl, ?_⟩
      dsimp only
      rw [String.append_assoc]
      exact not_reportsFault_ofList_append (by decide) _
  | false =>
      refine ⟨_, rfl, ?_⟩
      dsimp only
      simp only [String.append_assoc]
      exact not_reportsFault_ofList_append (by decide) _

theorem isAnswer_bundleSize (he : e.IsSnapshot) (v : Value) :
    IsAnswer (bundleSize e v.toDatum) := by
  have hsize : ∃ size, (Number.whole (estimatedSize e)).divNat kilobyte = .ok size :=
    Number.exists_divNat_whole (Nat.le_trans (log2_estimatedSize_le he) (by decide))
  rcases hsize with ⟨size, hsize⟩
  rcases exists_divNat_bundleLimit v with ⟨most, hmost⟩
  exact isAnswer_bundleSize_of_divNat hsize hmost

theorem isAnswer_minSize (he : e.IsSnapshot) (x : Binary64) (parameter : Datum) :
    IsAnswer (minSize (.real x) e parameter) := by
  rcases he.exists_brief_shorterSide with ⟨current, hcurrent⟩
  unfold minSize
  rw [Number.brief_real, hcurrent]
  refine ⟨_, rfl, ?_⟩
  dsimp only
  simp only [String.append_assoc]
  exact not_reportsFault_ofList_append (by decide) _

/-! ## Touch targets -/

theorem isAnswer_touchTarget_of_size (he : e.IsSnapshot) {rule : Datum} {size : Number}
    {shown : String} (hsize : touchSize rule = .ok size) (hshown : size.brief = .ok shown) :
    IsAnswer (touchTarget e rule) := by
  rcases he.exists_brief_shorterSide with ⟨current, hcurrent⟩
  simp only [touchTarget, hsize, hshown, hcurrent, bind, Except.bind, pure, Except.pure]
  cases size.le e.own.width && size.le e.own.height with
  | true =>
      refine ⟨_, rfl, ?_⟩
      dsimp only
      rw [String.append_assoc]
      exact not_reportsFault_ofList_append (by decide) _
  | false =>
      refine ⟨_, rfl, ?_⟩
      dsimp only
      simp only [String.append_assoc]
      exact not_reportsFault_ofList_append (by decide) _

theorem touchTarget_of_size_error {rule : Datum} {size : Number} {fault : Fault}
    (hsize : touchSize rule = .ok size) (hshown : size.brief = .error fault) :
    touchTarget e rule = .error fault := by
  simp only [touchTarget, hsize, hshown, bind, Except.bind]

theorem exists_brief_usualTouchSize : ∃ shown, usualTouchSize.brief = .ok shown :=
  ⟨_, rfl⟩

/-- The size that a text gives, if the integer in it can be read. -/
theorem touchSize_of_text {rule : Datum} {s : String} {n? : Option Int}
    (hmin : rule.field? "min" = some (.text s)) (hn : leadingInt s.toList = .ok n?) :
    touchSize rule = .ok ((n?.map .whole).getD usualTouchSize) := by
  have hnumber : rule.number? = none := by
    cases rule <;> first | rfl | cases hmin
  have hlimit : limit? rule "min" = none := by
    rw [limit?, hnumber, hmin]
    rfl
  simp only [touchSize, hlimit, hmin, hn, bind, Except.bind]
  cases n? <;> rfl

/-- The size of a parameter that gives none as a text. -/
theorem exists_touchSize {v : Value}
    (h : ∀ s, v.toDatum.field? "min" ≠ some (.text s)) :
    ∃ size shown, touchSize v.toDatum = .ok size ∧ size.brief = .ok shown := by
  rcases exists_brief_usualTouchSize with ⟨usual, husual⟩
  unfold touchSize
  cases hlimit : limit? v.toDatum "min" with
  | some size =>
      rcases Value.exists_real_of_limit? hlimit with ⟨x, rfl⟩
      exact ⟨_, _, rfl, Number.brief_real x⟩
  | none =>
      dsimp only
      split
      · rename_i s hs
        exact absurd hs (h s)
      · exact ⟨_, _, rfl, husual⟩

theorem touchTarget_of_isOversized (e : Element) {rule : Datum} (h : rule.IsOversized) :
    touchTarget e rule = .error .integerTooLarge := by
  rcases h with ⟨n, hn, hlarge⟩
  rcases Datum.sizeInText?_eq_some_iff.1 hn with ⟨s, hmin, hn⟩
  exact touchTarget_of_size_error (touchSize_of_text hmin hn)
    (Number.brief_whole_eq_error_iff.2 ⟨hlarge, rfl⟩)

theorem isAnswer_touchTarget (he : e.IsSnapshot) {v : Value}
    (hshort : ∀ t, v.HasText t → Text.HasShortNumerals t.toList)
    (h : ¬ v.toDatum.IsOversized) : IsAnswer (touchTarget e v.toDatum) := by
  -- Only a size that is given as a text can be an integer.
  by_cases htext : ∃ s, v.toDatum.field? "min" = some (.text s)
  · rcases htext with ⟨s, hmin⟩
    rcases exists_leadingInt (hshort s (Value.hasText_of_field? hmin)) with ⟨n?, hn⟩
    have hsize := touchSize_of_text hmin hn
    cases n? with
    | none =>
        rcases exists_brief_usualTouchSize with ⟨usual, husual⟩
        exact isAnswer_touchTarget_of_size he hsize husual
    | some n =>
        have hfinite : ¬ (Binary64.ofInt n).IsInfinite := fun hinfinite =>
          h ⟨n, Datum.sizeInText?_eq_some_iff.2 ⟨s, hmin, hn⟩,
            (Binary64.isInfinite_ofInt_iff n).1 hinfinite⟩
        exact isAnswer_touchTarget_of_size he hsize (Number.brief_whole_of_not_isInfinite hfinite)
  · rcases exists_touchSize fun s hs => htext ⟨s, hs⟩ with ⟨size, shown, hsize, hshown⟩
    exact isAnswer_touchTarget_of_size he hsize hshown

/-! ## Render time -/

/-- A check with a result for every clock whose message is its own. -/
def Answers (check : Check) (e : Element) (parameter : Datum) : Prop :=
  ∀ clock, ∃ outcome after, (check e parameter).run.run clock = (.ok outcome, after) ∧
    ¬ ReportsFault outcome.message

theorem answers_ofExcept {f : Element → Datum → Except Fault Outcome} {parameter : Datum}
    (h : IsAnswer (f e parameter)) : Answers (ofExcept f) e parameter := by
  intro clock
  rcases h with ⟨outcome, hf, hmessage⟩
  refine ⟨outcome, clock, ?_, hmessage⟩
  rw [ofExcept, hf]
  rfl

theorem answers_ofFunction {f : Element → Datum → Outcome} {parameter : Datum}
    (h : ¬ ReportsFault (f e parameter).message) : Answers (ofFunction f) e parameter :=
  fun clock => ⟨f e parameter, clock, rfl, h⟩

theorem answers_renderTime (e : Element) (v : Value) : Answers renderTime e v.toDatum := by
  intro clock
  have hlimit : ∃ x, (limit? v.toDatum "maxMs").getD (.real .nan) = .real x := by
    cases hlimit : limit? v.toDatum "maxMs" with
    | none => exact ⟨_, rfl⟩
    | some a => exact Value.exists_real_of_limit? hlimit
  rcases hlimit with ⟨x, hx⟩
  unfold renderTime
  rw [hx]
  dsimp only
  -- The clock is read twice, and reading it cannot fail.
  have hread : ∀ clock : Clock, readClock.run.run clock = (.ok clock.next.1, clock.next.2) :=
    fun _ => rfl
  rw [Checking.run_bind_of_ok _ (hread clock), Checking.run_bind_of_ok _ (hread _)]
  split
  · refine ⟨_, _, rfl, ?_⟩
    dsimp only
    rw [String.append_assoc]
    exact not_reportsFault_ofList_append (by decide) _
  · refine ⟨_, _, rfl, ?_⟩
    dsimp only
    simp only [String.append_assoc]
    exact not_reportsFault_ofList_append (by decide) _

/-! ## The usual tables -/

/-- A usual check answers for every parameter from a document, unless it is the check of touch
targets and its size is oversized. -/
theorem answers_of_usual (he : e.IsSnapshot) (hshort : e.HasShortNumerals) {v : Value}
    (htexts : ∀ t, v.HasText t → Text.HasShortNumerals t.toList) {name : String} {check : Check}
    (hcheck : CheckTable.usual.checks.get? name = some check)
    (hsize : name = "touchTarget" → ¬ v.toDatum.IsOversized) : Answers check e v.toDatum := by
  have hmem := Fields.mem_of_get?_eq_some hcheck
  simp only [CheckTable.usual, CheckTable.usualEntries, List.map_cons, List.map_nil, List.mem_cons,
    List.not_mem_nil, or_false, Prod.mk.injEq] at hmem
  rcases hmem with ⟨-, rfl⟩ | ⟨-, rfl⟩ | ⟨-, rfl⟩ | ⟨rfl, rfl⟩ | ⟨-, rfl⟩ | ⟨-, rfl⟩ | ⟨-, rfl⟩ |
    ⟨-, rfl⟩ | ⟨-, rfl⟩ | ⟨-, rfl⟩ | ⟨-, rfl⟩ | ⟨-, rfl⟩
  · exact answers_ofExcept (isAnswer_contrast e v)
  · exact answers_ofExcept (isAnswer_keyboard hshort _)
  · exact answers_ofFunction (not_reportsFault_focusVisible e _)
  · exact answers_ofExcept (isAnswer_touchTarget he htexts (hsize rfl))
  · exact answers_ofFunction (not_reportsFault_motion e _)
  · exact answers_ofFunction (not_reportsFault_screenReader e _)
  · exact answers_ofFunction (not_reportsFault_xss e _)
  · exact answers_ofExcept (isAnswer_clickjacking hshort _)
  · exact answers_ofFunction (not_reportsFault_externalLinks e _)
  · exact answers_ofExcept (isAnswer_bundleSize he v)
  · exact answers_renderTime e v
  · exact answers_ofFunction (not_reportsFault_imageOptimization e _)

/-- A check that a usual factory builds answers. -/
theorem answers_of_usual_factory (he : e.IsSnapshot) {name : String} {factory : Factory}
    (hfactory : CheckTable.usual.factories.get? name = some factory) {x : Binary64} {check : Check}
    (hcheck : factory x = .ok check) (parameter : Datum) : Answers check e parameter := by
  rcases List.mem_singleton.1 (Fields.mem_of_get?_eq_some hfactory) with ⟨rfl, rfl⟩
  cases hcheck
  exact answers_ofExcept (isAnswer_minSize he x parameter)

end Check
end ComponentSpec
