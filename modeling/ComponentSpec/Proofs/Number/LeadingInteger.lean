import ComponentSpec.Proofs.Number.IntegerNumeral
import ComponentSpec.Proofs.Text.Fragment
import ComponentSpec.Proofs.Text.Padding

/-!
# Integers at the beginning of a text

An integer is read from the beginning of a text.  Blanks may stand before it and one sign before its
digits, and the reading ends where the digits end.  So a text either begins with such a numeral, in
one way only, or it has no digit in that place; what is read depends on the numeral alone.

Main statements: what is read from a numeral (`leadingInt_text`), when there is none
(`exists_text_eq_iff`), and the laws of reading (`leadingIntLaws`).
-/

namespace ComponentSpec

open Text

/-! ## Signs -/

/-- How the sign of an integer is written. -/
inductive WrittenSign
  | none
  | plus
  | minus

namespace WrittenSign

def text : WrittenSign → List Char
  | none => []
  | plus => ['+']
  | minus => ['-']

def isNegative : WrittenSign → Bool
  | none => false
  | plus => false
  | minus => true

/-- The integer of this sign and magnitude. -/
def integer (sign : WrittenSign) (magnitude : Nat) : Int :=
  if sign.isNegative then -(magnitude : Int) else magnitude

theorem integer_none (magnitude : Nat) : none.integer magnitude = magnitude := rfl

theorem integer_plus (magnitude : Nat) : plus.integer magnitude = magnitude := rfl

theorem integer_minus (magnitude : Nat) : minus.integer magnitude = -(magnitude : Int) := rfl

theorem isBlank_text (sign : WrittenSign) : ∀ c ∈ sign.text, isBlank c = false := by
  cases sign with
  | none => exact nofun
  | plus => exact List.forall_mem_singleton.2 rfl
  | minus => exact List.forall_mem_singleton.2 rfl

/-- A sign is found before anything that does not begin with one. -/
theorem spanSign_text (sign : WrittenSign) {rest : List Char}
    (hrest : ∀ c, rest.head? = some c → c ≠ '-' ∧ c ≠ '+') :
    spanSign (sign.text ++ rest) = (sign.isNegative, rest) := by
  cases sign with
  | plus => rfl
  | minus => rfl
  | none =>
      rw [text, List.nil_append, isNegative]
      unfold spanSign
      split
      · exact absurd rfl (hrest _ rfl).1
      · exact absurd rfl (hrest _ rfl).2
      · rfl

theorem exists_of_spanSign (s : List Char) :
    ∃ sign : WrittenSign, s = sign.text ++ (spanSign s).2 := by
  unfold spanSign
  split
  · exact ⟨minus, rfl⟩
  · exact ⟨plus, rfl⟩
  · exact ⟨none, rfl⟩

end WrittenSign

/-! ## Numerals -/

theorem Binary64.pack_ne_nan (negative : Bool) (significand : Nat) (e : Int) :
    pack negative significand e ≠ nan := by
  unfold pack
  generalize (if significand == Nat.pow 2 53 then (Nat.pow 2 52, e + 1) else (significand, e)) = p
  dsimp only
  split <;> exact nofun

theorem Binary64.ofRatio_ne_nan (negative : Bool) (num den : Nat) :
    ofRatio negative num den ≠ nan := by
  unfold ofRatio
  split
  · exact nofun
  · exact pack_ne_nan _ _ _

theorem decimal_ne_nan (negative : Bool) (whole fraction : List Nat) :
    decimal negative whole fraction ≠ .nan := by
  unfold decimal Binary64.ofDecimal
  dsimp only
  split
  · exact nofun
  · split
    · exact nofun
    · split <;> exact Binary64.ofRatio_ne_nan _ _ _

/-- A text that begins with the numeral of an integer, in the digits of any script. -/
structure LeadingNumeral where
  blanks : List Char
  sign : WrittenSign
  digits : List Char
  rest : List Char
  isBlank_blanks : ∀ c ∈ blanks, isBlank c = true
  digits_ne_nil : digits ≠ []
  isDigit_digits : ∀ c ∈ digits, isDigit c = true
  not_isDigit_rest : ∀ c, rest.head? = some c → isDigit c = false

theorem length_digitValues {s : List Char} (h : ∀ c ∈ s, isDigit c = true) :
    (s.filterMap digitValue?).length = s.length := by
  rw [List.length_filterMap_eq_countP]
  exact List.countP_eq_length.2 h

theorem isDigit_sign : isDigit '-' = false ∧ isDigit '+' = false := by
  decide

namespace LeadingNumeral

variable (n : LeadingNumeral)

def text : List Char :=
  n.blanks ++ (n.sign.text ++ (n.digits ++ n.rest))

/-- The integer that the numeral denotes. -/
def value : Int :=
  n.sign.integer (natOfDigits (n.digits.filterMap digitValue?))

theorem isDigit_of_head? {c : Char} (h : (n.digits ++ n.rest).head? = some c) :
    isDigit c = true := by
  rw [List.head?_append, Option.or_of_isSome (List.isSome_head?.2 n.digits_ne_nil)] at h
  exact n.isDigit_digits c (List.mem_of_head? h)

theorem trimLeft_text : trimLeft n.text = n.sign.text ++ (n.digits ++ n.rest) := by
  rw [text, trimLeft_append n.isBlank_blanks]
  refine dropWhile_of_head? fun c hc => ?_
  rw [List.head?_append, Option.or_eq_some_iff] at hc
  rcases hc with hsign | ⟨-, hdigit⟩
  · exact n.sign.isBlank_text c (List.mem_of_head? hsign)
  · exact isBlank_of_isDigit (n.isDigit_of_head? hdigit)

theorem spanSign_trimLeft_text :
    spanSign (trimLeft n.text) = (n.sign.isNegative, n.digits ++ n.rest) := by
  rw [n.trimLeft_text]
  refine n.sign.spanSign_text fun c hc => ?_
  have hdigit := n.isDigit_of_head? hc
  constructor
  · rintro rfl
    exact absurd (isDigit_sign.1.symm.trans hdigit) Bool.false_ne_true
  · rintro rfl
    exact absurd (isDigit_sign.2.symm.trans hdigit) Bool.false_ne_true

theorem spanDigits_digits_append :
    spanDigits (n.digits ++ n.rest) = (n.digits.filterMap digitValue?, n.rest) :=
  spanDigits_append n.isDigit_digits n.not_isDigit_rest

theorem digitValues_ne_nil : n.digits.filterMap digitValue? ≠ [] := by
  rw [← List.length_pos_iff, length_digitValues n.isDigit_digits]
  exact List.length_pos_iff.2 n.digits_ne_nil

/-- What is read from a numeral: its value, unless it has too many digits. -/
theorem leadingInt_text : leadingInt n.text =
    if Fault.digitLimit < n.digits.length then .error (.numeralTooLong n.digits.length)
    else .ok (some n.value) := by
  unfold leadingInt
  rw [n.spanSign_trimLeft_text]
  dsimp only
  rw [n.spanDigits_digits_append, if_neg (by simpa using n.digitValues_ne_nil),
    length_digitValues n.isDigit_digits]
  rfl

theorem leadingInt_text_of_le (h : n.digits.length ≤ Fault.digitLimit) :
    leadingInt n.text = .ok (some n.value) := by
  rw [n.leadingInt_text, if_neg (Nat.not_lt.2 h)]

theorem leadingInt_text_of_lt (h : Fault.digitLimit < n.digits.length) :
    leadingInt n.text = .error (.numeralTooLong n.digits.length) := by
  rw [n.leadingInt_text, if_pos h]

/-- A numeral is a decimal number too, whatever follows it. -/
theorem exists_leadingReal?_text : ∃ fraction : List Nat, leadingReal? n.text =
    some (decimal n.sign.isNegative (n.digits.filterMap digitValue?) fraction) := by
  unfold leadingReal?
  rw [n.spanSign_trimLeft_text]
  dsimp only
  rw [n.spanDigits_digits_append]
  cases hdigits : n.digits.filterMap digitValue? with
  | nil => exact absurd hdigits n.digitValues_ne_nil
  | cons d ds =>
      -- Of the four forms of a decimal number, the first two have no digit before the point.
      split
      case h_1 heq => cases heq
      case h_2 heq => cases heq
      case h_3 rest _ heq =>
        rw [← (Prod.mk.inj heq).1]
        exact ⟨(spanDigits rest).1, rfl⟩
      case h_4 heq =>
        rw [← (Prod.mk.inj heq).1]
        exact ⟨[], rfl⟩

end LeadingNumeral

/-! ## Texts without a numeral -/

/-- The text has a digit after blanks and one sign at most. -/
def HasLeadingDigit (s : List Char) : Prop :=
  ∃ blanks, ∃ sign : WrittenSign, ∃ c rest, (∀ b ∈ blanks, isBlank b = true) ∧ isDigit c = true ∧
    s = blanks ++ (sign.text ++ c :: rest)

/-- A digit in the right place begins a numeral. -/
theorem exists_text_eq_iff {s : List Char} :
    (∃ n : LeadingNumeral, n.text = s) ↔ HasLeadingDigit s := by
  constructor
  · rintro ⟨n, rfl⟩
    cases hdigits : n.digits with
    | nil => exact absurd hdigits n.digits_ne_nil
    | cons c digits =>
        refine ⟨n.blanks, n.sign, c, digits ++ n.rest, n.isBlank_blanks,
          n.isDigit_digits c (hdigits ▸ List.mem_cons_self ..), ?_⟩
        rw [LeadingNumeral.text, hdigits, List.cons_append]
  · rintro ⟨blanks, sign, c, rest, hblanks, hc, rfl⟩
    refine ⟨⟨blanks, sign, (c :: rest).takeWhile isDigit, (c :: rest).dropWhile isDigit, hblanks,
      ?_, ?_, ?_⟩, ?_⟩
    · rw [List.takeWhile_cons_of_pos hc]
      exact List.cons_ne_nil _ _
    · exact fun d hd => List.all_eq_true.1 List.all_takeWhile d hd
    · intro d hd
      have := List.head?_dropWhile_not isDigit (c :: rest)
      simpa [hd] using this
    · rw [LeadingNumeral.text, List.takeWhile_append_dropWhile]

theorem leadingInt_of_not_hasLeadingDigit {s : List Char} (h : ¬ HasLeadingDigit s) :
    leadingInt s = .ok none := by
  have hnone : (spanDigits (spanSign (trimLeft s)).2).1 = [] := by
    rcases WrittenSign.exists_of_spanSign (trimLeft s) with ⟨sign, hsign⟩
    cases hrest : (spanSign (trimLeft s)).2 with
    | nil => rfl
    | cons c rest =>
        cases hc : digitValue? c with
        | none => simp [spanDigits, hc]
        | some d =>
            -- Here the text has a digit after the blanks and the sign that were taken off.
            refine absurd ⟨s.takeWhile isBlank, sign, c, rest, ?_, ?_, ?_⟩ h
            · exact fun b hb => List.all_eq_true.1 List.all_takeWhile b hb
            · rw [isDigit, hc]
              rfl
            · rw [← hrest, ← hsign, trimLeft, List.takeWhile_append_dropWhile]
  unfold leadingInt
  dsimp only
  rw [hnone]
  rfl

/-! ## Integers as they are written -/

namespace LeadingNumeral

variable {blanks rest : List Char}

/-- The numeral of a natural number after a sign. -/
def ofNat (sign : WrittenSign) (m : Nat) (hblanks : ∀ c ∈ blanks, isBlank c = true)
    (hrest : ∀ c, rest.head? = some c → isDigit c = false) : LeadingNumeral where
  blanks := blanks
  sign := sign
  digits := decimalDigits m
  rest := rest
  isBlank_blanks := hblanks
  digits_ne_nil := decimalDigits_ne_nil m
  isDigit_digits := by
    intro c hc
    rw [isDigit, digitValue?_of_isDigit (isDigit_decimalDigits m c hc)]
    rfl
  not_isDigit_rest := hrest

theorem value_ofNat (sign : WrittenSign) (m : Nat) (hblanks : ∀ c ∈ blanks, isBlank c = true)
    (hrest : ∀ c, rest.head? = some c → isDigit c = false) :
    (ofNat sign m hblanks hrest).value = sign.integer m := by
  rw [value, ofNat, natOfDigits_decimalDigits]

theorem leadingInt_ofNat (sign : WrittenSign) {m : Nat}
    (hlimit : (decimalDigits m).length ≤ Fault.digitLimit)
    (hblanks : ∀ c ∈ blanks, isBlank c = true)
    (hrest : ∀ c, rest.head? = some c → isDigit c = false) :
    leadingInt (blanks ++ (sign.text ++ (decimalDigits m ++ rest))) =
      .ok (some (sign.integer m)) := by
  rw [← value_ofNat sign m hblanks hrest]
  exact (ofNat sign m hblanks hrest).leadingInt_text_of_le hlimit

end LeadingNumeral

/-! ## The laws of reading -/

/-- The laws of reading an integer at the beginning of a text. -/
structure LeadingIntLaws : Prop where
  /-- An integer is read back from its numeral, which may have a plus sign if it is not negative,
  after any blanks and before anything but a digit. -/
  numeral : ∀ (n : Int) (blanks rest : List Char),
    (decimalDigits n.natAbs).length ≤ Fault.digitLimit → (∀ c ∈ blanks, isBlank c = true) →
      (∀ c, rest.head? = some c → isDigit c = false) →
        leadingInt (blanks ++ ((toString n).toList ++ rest)) = .ok (some n) ∧
        (0 ≤ n → leadingInt (blanks ++ '+' :: ((toString n).toList ++ rest)) = .ok (some n))
  /-- Nothing is read exactly if there is no digit where the numeral would be. -/
  nothing_iff : ∀ s, leadingInt s = .ok none ↔ ¬ HasLeadingDigit s
  /-- A fault is due to the number of digits. -/
  fault_iff : ∀ s fault, leadingInt s = .error fault ↔ ∃ n : LeadingNumeral, n.text = s ∧
    Fault.digitLimit < n.digits.length ∧ fault = .numeralTooLong n.digits.length
  /-- Where an integer is read, a decimal number is read too. -/
  real : ∀ s n, leadingInt s = .ok (some n) → ∃ x, leadingReal? s = some x ∧ x ≠ .nan

theorem leadingIntLaws : LeadingIntLaws where
  numeral := by
    intro n blanks rest hlimit hblanks hrest
    have hread := fun sign => LeadingNumeral.leadingInt_ofNat sign hlimit hblanks hrest
    rw [toList_toString]
    -- A negative numeral brings its minus sign, any other one may have a plus sign before it.
    by_cases hn : n < 0
    · have hvalue : -(n.natAbs : Int) = n := by omega
      have hminus := hread .minus
      rw [WrittenSign.integer_minus, hvalue] at hminus
      rw [if_pos hn]
      exact ⟨hminus, fun hnonneg => absurd hn (Int.not_lt.2 hnonneg)⟩
    · have hvalue : (n.natAbs : Int) = n := Int.natAbs_of_nonneg (Int.not_lt.1 hn)
      have hnone := hread .none
      have hplus := hread .plus
      rw [WrittenSign.integer_none, hvalue] at hnone
      rw [WrittenSign.integer_plus, hvalue] at hplus
      rw [if_neg hn]
      exact ⟨hnone, fun _ => hplus⟩
  nothing_iff := by
    intro s
    refine ⟨fun hnone hdigit => ?_, leadingInt_of_not_hasLeadingDigit⟩
    rcases exists_text_eq_iff.2 hdigit with ⟨n, rfl⟩
    rw [n.leadingInt_text] at hnone
    split at hnone <;> cases hnone
  fault_iff := by
    intro s fault
    constructor
    · intro hfault
      by_cases hdigit : HasLeadingDigit s
      · rcases exists_text_eq_iff.2 hdigit with ⟨n, rfl⟩
        rcases Nat.lt_or_ge Fault.digitLimit n.digits.length with hlong | hshort
        · rw [n.leadingInt_text_of_lt hlong] at hfault
          exact ⟨n, rfl, hlong, (Except.error.inj hfault).symm⟩
        · rw [n.leadingInt_text_of_le hshort] at hfault
          cases hfault
      · rw [leadingInt_of_not_hasLeadingDigit hdigit] at hfault
        cases hfault
    · rintro ⟨n, rfl, hlong, rfl⟩
      exact n.leadingInt_text_of_lt hlong
  real := by
    intro s k hread
    have hdigit : HasLeadingDigit s := by
      refine Classical.byContradiction fun hnot => ?_
      rw [leadingInt_of_not_hasLeadingDigit hnot] at hread
      cases hread
    rcases exists_text_eq_iff.2 hdigit with ⟨n, rfl⟩
    rcases n.exists_leadingReal?_text with ⟨fraction, hreal⟩
    exact ⟨_, hreal, decimal_ne_nan _ _ _⟩

end ComponentSpec
