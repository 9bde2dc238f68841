import Mathlib.Tactic.FieldSimp
import ComponentSpec.Coverage
import ComponentSpec.Proofs.Number.Nearest

/-!
# How the percentage of a coverage is rounded

A percentage should be the share in percent rounded to the nearest integer, with halves going up.
It is computed in three roundings, of the quotient, of the product with one hundred and of the sum
with one half, so what is rounded down is off the exact number by `2 ^ (-45)` at most.  A share that
is no half is farther than this from every half, unless the total is enormous, so only the halves
themselves can be missed.  Whatever the total is there are a hundred of them, since equal shares
have equal percentages, and four go down.

Main statements: what is rounded down is near the share in percent plus one half
(`exists_floor_eq_percent`), and the percentage is the nearest one, save for the four halves that
are lost (`ofRequirements_rounds`).  That no half is lost is refuted by twenty-three of forty
(`not_forall_percentage_eq_nearestPercent`).
-/

namespace ComponentSpec
namespace Coverage

open Binary64

/-- The share of `part` in `total` in percent, rounded to the nearest integer; halves go up. -/
def nearestPercent (part total : Nat) : Nat :=
  (200 * part + total) / (2 * total)

/-- Halves of a percent that are rounded down: 14.5, 28.5, 56.5 and 57.5, in two-hundredths. -/
def lostHalves : List Nat := [29, 57, 113, 115]

/-- Whether a share is one of the halves that go down. -/
def LosesHalf (part total : Nat) : Prop :=
  ∃ h ∈ lostHalves, 200 * part = h * total

instance (part total : Nat) : Decidable (LosesHalf part total) :=
  inferInstanceAs (Decidable (∃ h ∈ lostHalves, 200 * part = h * total))

variable {part total : Nat}

/-! ## The error of the three roundings -/

theorem isNear_hundred : (Binary64.ofInt 100).IsNear 100 0 :=
  ⟨7036874417766400, -46, by decide +kernel, by rw [finiteValue_false]; norm_num⟩

theorem isNear_half : half.IsNear (1 / 2) 0 :=
  ⟨4503599627370496, -53, by decide +kernel, by rw [finiteValue_false]; norm_num⟩

/-- The error of the quotient counts a hundredfold, and two more roundings are added. -/
theorem isNear_sum (htotal : 0 < total) (hle : part ≤ total) :
    (((ofRatio false part total).mul (.ofInt 100)).add half).IsNear
      (part / total * 100 + 1 / 2) (1 / 2 ^ 45) := by
  have hshare : (part / total : Rat) ≤ 1 :=
    div_le_one_of_le₀ (Nat.cast_le.2 hle) (Nat.cast_nonneg _)
  have hquotient : (ofRatio false part total).IsNear (part / total) (1 / 2 ^ 53) :=
    (isNear_ofRatio part htotal (m := 1) (by linarith) (by decide) (by decide)).mono (by norm_num)
  have hproduct : ((ofRatio false part total).mul (.ofInt 100)).IsNear (part / total * 100)
      (3 / 2 ^ 47) :=
    (hquotient.mul isNear_hundred (m := 7) (by norm_num) (by linarith) (by decide)
      (by decide)).mono (by norm_num)
  exact (hproduct.add isNear_half (m := 7) (by linarith) (by decide) (by decide)).mono
    (by norm_num)

/-- What is rounded down is near the share in percent plus one half. -/
theorem exists_floor_eq_percent (htotal : 0 < total) (hle : part ≤ total) :
    ∃ v : Rat, percent part total = v.floor ∧
      |v - (part / total * 100 + 1 / 2)| ≤ 1 / 2 ^ 45 := by
  rcases isNear_sum htotal hle with ⟨s, e, hsum, herror⟩
  refine ⟨finiteValue false s e, ?_, herror⟩
  rw [percent, if_neg (by simpa using htotal.ne')]
  dsimp only
  rw [hsum]
  rfl

/-! ## Away from the halves -/

theorem abs_percent_sub_le (htotal : 0 < total) (hle : part ≤ total) :
    |(percent part total : Rat) - part / total * 100| ≤ 1 / 2 + 1 / 2 ^ 45 := by
  rcases exists_floor_eq_percent htotal hle with ⟨v, hfloor, herror⟩
  have hlower := Rat.lt_floor_add_one v
  have hupper := Rat.floor_le v
  rw [hfloor]
  push_cast at hlower
  rw [abs_le] at herror ⊢
  constructor <;> linarith

/-- A quotient with a remainder is one unit at least from the whole numbers around it. -/
theorem div_bounds_of_not_dvd {num den : Nat} (hden : 0 < den) (h : ¬ den ∣ num) :
    ((num / den : Nat) : Rat) + 1 / den ≤ num / den ∧
      (num / den : Rat) + 1 / den ≤ (num / den : Nat) + 1 := by
  have hden' : (0 : Rat) < den := by exact_mod_cast hden
  have hunit : (1 / den : Rat) * den = 1 := div_mul_cancel₀ _ hden'.ne'
  have hsplit : num / den * den + num % den = num := Nat.div_add_mod' num den
  have hremainder : 0 < num % den :=
    Nat.pos_of_ne_zero fun hzero => h (Nat.dvd_of_mod_eq_zero hzero)
  have hless : num % den < den := Nat.mod_lt num hden
  constructor
  · have hlower : ((num / den : Nat) * den + 1 : Rat) ≤ num := by
      exact_mod_cast (by omega : num / den * den + 1 ≤ num)
    rwa [le_div_iff₀ hden', add_mul, hunit]
  · have hupper : (num + 1 : Rat) ≤ (num / den : Nat) * den + den := by
      exact_mod_cast (by omega : num + 1 ≤ num / den * den + den)
    rwa [← add_div, div_le_iff₀ hden', add_mul, one_mul]

/-- A share that is no half is far enough from the halves, unless the total is enormous. -/
theorem percent_eq_of_not_dvd (htotal : 0 < total) (hle : part ≤ total) (hbound : total < 2 ^ 44)
    (hhalf : ¬ 2 * total ∣ 200 * part + total) :
    percent part total = nearestPercent part total := by
  rcases exists_floor_eq_percent htotal hle with ⟨v, hfloor, herror⟩
  have htotal' : (0 : Rat) < total := by exact_mod_cast htotal
  have hexact : (part / total * 100 + 1 / 2 : Rat) =
      (200 * part + total : Nat) / (2 * total : Nat) := by
    push_cast
    field_simp
    ring
  have hunit : (1 / 2 ^ 45 : Rat) < 1 / (2 * total : Nat) := by
    have hbound' : (total : Rat) < 2 ^ 44 := by exact_mod_cast hbound
    push_cast
    refine one_div_lt_one_div_of_lt (by positivity) ?_
    linarith
  rcases div_bounds_of_not_dvd (Nat.mul_pos Nat.zero_lt_two htotal) hhalf with ⟨hlower, hupper⟩
  rw [← nearestPercent] at hlower hupper
  rw [hexact, abs_le] at herror
  rw [hfloor]
  refine le_antisymm (Int.le_of_lt_add_one (Rat.floor_lt_iff.2 ?_)) (Rat.le_floor_iff.2 ?_)
  · rw [Int.cast_add, Int.cast_natCast, Int.cast_one]
    linarith
  · rw [Int.cast_natCast]
    linarith

/-! ## At the halves -/

theorem percent_eq_of_mul_eq {h : Nat} (htotal : 0 < total) (hhalf : 200 * part = h * total) :
    percent part total = percent h 200 := by
  have hshare : ofRatio false part total = ofRatio false h 200 :=
    ofRatio_eq_of_mul_eq false htotal (by decide) (by rwa [Nat.mul_comm])
  rw [percent, percent, if_neg (by simpa using htotal.ne'), if_neg (by decide), hshare]

theorem nearestPercent_eq_of_mul_eq {k : Nat} (htotal : 0 < total)
    (hhalf : 200 * part = (2 * k + 1) * total) : nearestPercent part total = k + 1 := by
  have hsum : (2 * k + 1) * total + total = (k + 1) * (2 * total) := by ring
  rw [nearestPercent, hhalf, hsum, Nat.mul_div_cancel _ (by omega)]

theorem losesHalf_iff_of_mul_eq {h : Nat} (htotal : 0 < total) (hhalf : 200 * part = h * total) :
    LosesHalf part total ↔ h ∈ lostHalves := by
  constructor
  · rintro ⟨k, hk, hlost⟩
    have heq : k = h := Nat.eq_of_mul_eq_mul_right htotal (hlost.symm.trans hhalf)
    exact heq ▸ hk
  · intro hmem
    exact ⟨h, hmem, hhalf⟩

/-- The hundred halves, one by one. -/
theorem percent_half : ∀ k < 100,
    percent (2 * k + 1) 200 = if 2 * k + 1 ∈ lostHalves then (k : Int) else k + 1 := by
  decide +kernel

theorem exists_half_of_dvd (htotal : 0 < total) (hle : part ≤ total)
    (hdvd : 2 * total ∣ 200 * part + total) :
    ∃ k < 100, 200 * part = (2 * k + 1) * total := by
  rcases hdvd with ⟨n, hn⟩
  rcases n with - | k
  · omega
  have hhalf : 200 * part = (2 * k + 1) * total := by
    have : 2 * total * (k + 1) = (2 * k + 1) * total + total := by ring
    omega
  refine ⟨k, ?_, hhalf⟩
  have hbound : (2 * k + 1) * total ≤ 200 * total := by
    rw [← hhalf]
    exact Nat.mul_le_mul_left 200 hle
  have := Nat.le_of_mul_le_mul_right hbound htotal
  omega

theorem percent_eq_of_dvd (htotal : 0 < total) (hle : part ≤ total)
    (hdvd : 2 * total ∣ 200 * part + total) :
    percent part total =
      if LosesHalf part total then (nearestPercent part total : Int) - 1
      else nearestPercent part total := by
  rcases exists_half_of_dvd htotal hle hdvd with ⟨k, hk, hhalf⟩
  rw [percent_eq_of_mul_eq htotal hhalf, percent_half k hk,
    nearestPercent_eq_of_mul_eq htotal hhalf]
  simp only [losesHalf_iff_of_mul_eq htotal hhalf]
  split <;> omega

/-- A lost half is a half. -/
theorem LosesHalf.dvd (h : LosesHalf part total) : 2 * total ∣ 200 * part + total := by
  rcases h with ⟨n, hn, hhalf⟩
  have hodd : ∀ n ∈ lostHalves, n + 1 = 2 * ((n + 1) / 2) := by decide
  refine ⟨(n + 1) / 2, ?_⟩
  calc
    200 * part + total = (n + 1) * total := by rw [hhalf, Nat.succ_mul]
    _ = 2 * ((n + 1) / 2) * total := by rw [← hodd n hn]
    _ = 2 * total * ((n + 1) / 2) := by ring

/-! ## Reports -/

/-- How the percentage of a part of a total is rounded. -/
structure Rounds (part total : Nat) (percentage : Int) : Prop where
  near : |(percentage : Rat) - part / total * 100| ≤ 1 / 2 + 1 / 2 ^ 45
  nearest : total < 2 ^ 44 → ¬ LosesHalf part total → percentage = nearestPercent part total
  /-- Whatever the total is, a half goes up unless it is one of the lost ones. -/
  half : 2 * total ∣ 200 * part + total → ¬ LosesHalf part total →
    percentage = nearestPercent part total
  lost : LosesHalf part total → percentage = (nearestPercent part total : Int) - 1

theorem rounds_percent (htotal : 0 < total) (hle : part ≤ total) :
    Rounds part total (percent part total) := by
  constructor
  case near => exact abs_percent_sub_le htotal hle
  case nearest =>
    intro hbound hkept
    by_cases hdvd : 2 * total ∣ 200 * part + total
    · rw [percent_eq_of_dvd htotal hle hdvd, if_neg hkept]
    · exact percent_eq_of_not_dvd htotal hle hbound hdvd
  case half =>
    intro hdvd hkept
    rw [percent_eq_of_dvd htotal hle hdvd, if_neg hkept]
  case lost =>
    intro hlost
    rw [percent_eq_of_dvd htotal hle hlost.dvd, if_pos hlost]

/-- The percentage of some requirements is the share of those with a hint, rounded to the nearest
integer, and one less at four of the halves. -/
theorem ofRequirements_rounds {requirements : List Requirement} (h : requirements ≠ []) :
    Rounds (requirements.countP (·.hasHint)) requirements.length
      (ofRequirements requirements).percentage :=
  rounds_percent (List.length_pos_of_ne_nil h) List.countP_le_length

/-- Requirements of which the first ones have a hint. -/
def sampleRequirements (hinted plain : Nat) : List Requirement :=
  List.replicate hinted { text := "Hinted", hint := some "ratio" } ++
    List.replicate plain { text := "Plain" }

theorem ofRequirements_rounds_sample :
    sampleRequirements 23 17 ≠ [] ∧ Rounds 23 40 57 := by
  have hne : sampleRequirements 23 17 ≠ [] := by decide
  have hcount : (sampleRequirements 23 17).countP (·.hasHint) = 23 := by decide
  have hlength : (sampleRequirements 23 17).length = 40 := by decide
  have hpercentage : (ofRequirements (sampleRequirements 23 17)).percentage = 57 := by
    decide +kernel
  have h := ofRequirements_rounds hne
  rw [hcount, hlength, hpercentage] at h
  exact ⟨hne, h⟩

/-- Halves do not all go up: twenty-three of forty are 57.5 percent, and 57 is reported. -/
theorem not_forall_percentage_eq_nearestPercent :
    ¬ ∀ requirements : List Requirement, requirements ≠ [] →
      (ofRequirements requirements).percentage =
        nearestPercent (requirements.countP (·.hasHint)) requirements.length := by
  intro h
  have hpercentage := h (sampleRequirements 23 17) (by decide)
  revert hpercentage
  decide +kernel

end Coverage
end ComponentSpec
