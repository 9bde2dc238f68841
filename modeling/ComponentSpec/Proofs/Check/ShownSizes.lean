import ComponentSpec.Proofs.Check.Sides
import ComponentSpec.Proofs.Number.BriefText

/-!
# Sizes and ratios in messages

The checks of contrast and of sizes show numbers in their messages.  A whole number below a million
is shown as its numeral; from a million on, the message shows the number with six leading digits and
an exponent, so that whole numbers with the same leading digits look alike.  A message tells which
numbers it shows, because no character of a shown number occurs where the wording goes on.

Main statements: which numbers are shown as numerals (`brief_eq_toString_iff`), when messages are
the same (`message_contrast_eq_iff`, `message_minSize_eq_iff`, `message_touchTarget_eq_iff`), and the
laws of shown numbers (`shownNumberLaws`).
-/

namespace ComponentSpec

namespace Number

variable {a : Number} {n : Int}

/-- A message shows this integer for the number. -/
def Shows (a : Number) (n : Int) : Prop :=
  a.brief = .ok (integerText n)

/-- The integer that a message shows for a number that is another integer. -/
def shown : Number → Int → Int
  | real _, n => shownInteger n
  | whole _, n => shownInteger (binaryInteger n)

theorem shown_of_lt (h : n.natAbs < 10 ^ 6) : a.shown n = n := by
  have hbits : n.natAbs < 2 ^ 53 := Nat.lt_trans h (by decide)
  cases a with
  | real x => exact shownInteger_of_lt h
  | whole m => rw [shown, binaryInteger_of_lt hbits, shownInteger_of_lt h]

theorem shows_shown (h : a.IsInteger n) (ha : a.IsShowable) : a.Shows (a.shown n) := by
  cases a with
  | real x => exact brief_real_of_isInteger h
  | whole m =>
      rcases isInteger_whole_iff.1 h with rfl
      exact brief_whole ha

theorem le_shown (h : 10 ^ 6 ≤ n.natAbs) : 10 ^ 6 ≤ (a.shown n).natAbs := by
  cases a with
  | real x => exact le_shownInteger h
  | whole m => exact le_shownInteger (le_binaryInteger h)

theorem isShowable_of_lt (h : a.IsInteger n) (hn : n.natAbs < 10 ^ 6) : a.IsShowable := by
  cases a with
  | real x => trivial
  | whole m =>
      rcases isInteger_whole_iff.1 h with rfl
      exact Nat.lt_trans hn (by decide +kernel)

theorem brief_of_lt (h : a.IsInteger n) (hn : n.natAbs < 10 ^ 6) : a.brief = .ok (toString n) := by
  have hshows := shows_shown h (isShowable_of_lt h hn)
  rwa [shown_of_lt hn, Shows, integerText_of_lt hn] at hshows

theorem mem_of_brief_of_le {text : String} (h : a.IsInteger n) (hn : 10 ^ 6 ≤ n.natAbs)
    (htext : a.brief = .ok text) : 'e' ∈ text.toList := by
  have hshows := shows_shown h (exists_brief_iff.1 ⟨text, htext⟩)
  rw [Shows, htext] at hshows
  rw [Except.ok.inj hshows, mem_integerText_iff]
  exact le_shown hn

/-- A numeral has no exponent, so only a number below a million is shown as its numeral. -/
theorem brief_eq_toString_iff (h : a.IsInteger n) :
    a.brief = .ok (toString n) ↔ n.natAbs < 10 ^ 6 := by
  refine ⟨fun htext => Nat.lt_of_not_le fun hn => ?_, brief_of_lt h⟩
  have hmem := mem_of_brief_of_le h hn htext
  exact absurd (mem_toString hmem) (by decide)

theorem brief_eq_error_iff {fault : Fault} :
    a.brief = .error fault ↔ ¬ a.IsShowable ∧ fault = .integerTooLarge := by
  cases a with
  | real x =>
      rw [brief_real]
      exact iff_of_false nofun fun h => h.1 trivial
  | whole m => rw [brief_whole_eq_error_iff, IsShowable, Nat.not_lt]

end Number

/-- The text of an integer can be told from a character that no integer has and what follows. -/
theorem integerText_append_cons_inj {c : Char} (hdigit : c.isDigit = false)
    (hmark : c ∉ ['-', '.', 'e', '+']) {m n : Int} {s t : List Char}
    (h : (integerText m).toList ++ c :: s = (integerText n).toList ++ c :: t) : m = n ∧ s = t := by
  -- The number ends at the first such character.
  have hcut : ∀ (k : Int) (rest : List Char),
      Text.cut? c ((integerText k).toList ++ c :: rest) = some ((integerText k).toList, rest) := by
    intro k rest
    refine Text.cut?_append (fun hmem => ?_) rest
    rcases mem_integerText hmem with hc | hc
    · exact absurd (hdigit.symm.trans hc) Bool.false_ne_true
    · exact hmark hc
  have hparts := hcut m s
  rw [h, hcut n t, Option.some.injEq, Prod.mk.injEq] at hparts
  exact ⟨(integerText_injective (String.toList_injective hparts.1)).symm, hparts.2.symm⟩

/-- The wording after a shown number begins with a character that no integer has. -/
def GoesOn (wording : String) : Prop :=
  ∃ c rest, wording.toList = c :: rest ∧ c.isDigit = false ∧ c ∉ ['-', '.', 'e', '+']

/-- A shown number can be told from a message. -/
theorem integerText_inj {before after : String} {m n : Int} (hafter : GoesOn after)
    (h : before ++ integerText m ++ after = before ++ integerText n ++ after) : m = n := by
  rcases hafter with ⟨c, rest, hc, hdigit, hmark⟩
  have htext := congrArg String.toList h
  simp only [String.toList_append, List.append_assoc, List.append_cancel_left_eq, hc] at htext
  exact (integerText_append_cons_inj hdigit hmark htext).1

/-- Two shown numbers can both be told from a message. -/
theorem integerTexts_inj {before between after : String} {m n j k : Int}
    (hbetween : GoesOn between) (hafter : GoesOn after)
    (h : before ++ integerText m ++ between ++ integerText j ++ after =
      before ++ integerText n ++ between ++ integerText k ++ after) : m = n ∧ j = k := by
  rcases hbetween with ⟨c, rest, hc, hdigit, hmark⟩
  rcases hafter with ⟨c', rest', hc', hdigit', hmark'⟩
  have htext := congrArg String.toList h
  simp only [String.toList_append, List.append_assoc, List.append_cancel_left_eq, hc, hc',
    List.cons_append] at htext
  rcases integerText_append_cons_inj hdigit hmark htext with ⟨hmn, hrest⟩
  rw [List.append_cancel_left_eq] at hrest
  exact ⟨hmn, (integerText_append_cons_inj hdigit' hmark' hrest).1⟩

namespace Check

variable {e e' : Element} {a b : Number} {m n j k : Int} {parameter parameter' : Datum}

/-! ## The wording of messages -/

/-- The message of an outcome, if there is one. -/
def messageOf (result : Except Fault Outcome) : Option String :=
  result.toOption.map Outcome.message

def contrastMessage (n : Int) : String :=
  "Color contrast ratio should be at least " ++ integerText n ++ ":1"

def fittingMessage (n : Int) : String :=
  "Touch target meets minimum size (" ++ integerText n ++ "px)"

def missingMessage (n k : Int) : String :=
  "Touch target must be at least " ++ integerText n ++ "px (currently " ++ integerText k ++ "px)"

def sizeMessage (n k : Int) : String :=
  "Element must be at least " ++ integerText n ++ "px (currently " ++ integerText k ++ "px)"

theorem message_contrast (ha : a.Shows n) :
    messageOf (contrast e (.number a)) = some (contrastMessage n) := by
  have hbrief : a.brief = .ok (integerText n) := ha
  have hratio : (limit? (.number a) "ratio").getD usualContrast = a := rfl
  unfold contrast
  dsimp only
  rw [hratio, hbrief]
  rfl

theorem message_minSize (ha : a.Shows n) (hside : e.shorterSide.Shows k) :
    messageOf (minSize a e parameter) = some (sizeMessage n k) := by
  have hbrief : a.brief = .ok (integerText n) := ha
  have hcurrent : e.shorterSide.brief = .ok (integerText k) := hside
  unfold minSize
  rw [hbrief, hcurrent]
  rfl

theorem message_touchTarget_of_passes (ha : a.Shows n)
    (hpasses : Passes (touchTarget e (.number a))) :
    messageOf (touchTarget e (.number a)) = some (fittingMessage n) := by
  have hbrief : a.brief = .ok (integerText n) := ha
  have hsize : touchSize (.number a) = .ok a := rfl
  have hverdict : (a.le e.own.width && a.le e.own.height) = true :=
    Bool.and_eq_true_iff.2 (passes_touchTarget_iff.1 hpasses).2
  simp only [touchTarget, hsize, hbrief, hverdict, bind, Except.bind, pure, Except.pure, if_true]
  rfl

theorem message_touchTarget_of_not_passes (ha : a.Shows n) (hside : e.shorterSide.Shows k)
    (hfails : ¬ Passes (touchTarget e (.number a))) :
    messageOf (touchTarget e (.number a)) = some (missingMessage n k) := by
  have hbrief : a.brief = .ok (integerText n) := ha
  have hcurrent : e.shorterSide.brief = .ok (integerText k) := hside
  have hsize : touchSize (.number a) = .ok a := rfl
  have hverdict : (a.le e.own.width && a.le e.own.height) = false := by
    refine Bool.eq_false_iff.2 fun hle => hfails ?_
    exact passes_touchTarget_iff.2
      ⟨Number.exists_brief_iff.1 ⟨_, hbrief⟩, Bool.and_eq_true_iff.1 hle⟩
  simp only [touchTarget, hsize, hbrief, hcurrent, hverdict, bind, Except.bind, pure, Except.pure,
    Bool.false_eq_true, if_false]
  rfl

/-! ## What a message tells -/

theorem fittingMessage_ne_missingMessage : fittingMessage m ≠ missingMessage n k := by
  intro h
  unfold fittingMessage missingMessage at h
  have htext := congrArg String.toList h
  simp only [String.toList_append, List.append_assoc] at htext
  -- One of them begins "Touch target meets", the other one "Touch target must".
  have hcharacter : some 'e' = some 'u' := congrArg (fun s => s[14]?) htext
  exact absurd hcharacter (by decide)

/-! ## The laws of shown numbers -/

/-- How checks show a number that is this integer. -/
structure ShownNumberLaws (a : Number) (n : Int) : Prop where
  /-- It is shown as its numeral exactly if it is below a million. -/
  numeral_iff : a.brief = .ok (toString n) ↔ n.natAbs < 10 ^ 6
  /-- From a million on, it is shown with an exponent or not at all. -/
  exponent : ∀ text, 10 ^ 6 ≤ n.natAbs → a.brief = .ok text → 'e' ∈ text.toList
  /-- What a message shows is the integer itself if it is below a million. -/
  below : n.natAbs < 10 ^ 6 → a.IsShowable ∧ a.shown n = n
  /-- In general it is the integer with six leading digits, of a number in the binary format. -/
  shows : a.IsShowable → a.Shows (a.shown n)
  /-- Integers beyond the binary format are not shown. -/
  fault_iff : ∀ fault, a.brief = .error fault ↔ ¬ a.IsShowable ∧ fault = .integerTooLarge
  /-- Ratios look alike in messages only if the same integer is shown for them. -/
  contrast : a.IsShowable → ∀ (e e' : Element) (b : Number) (m : Int), b.Shows m →
    (messageOf (contrast e (.number a)) = messageOf (contrast e' (.number b)) ↔ a.shown n = m)
  /-- So do required and actual sizes. -/
  minSize : a.IsShowable → ∀ (e e' : Element) (b : Number) (m j k : Int)
    (parameter parameter' : Datum),
      b.Shows m → e.shorterSide.Shows j → e'.shorterSide.Shows k →
        (messageOf (minSize a e parameter) = messageOf (minSize b e' parameter') ↔
          a.shown n = m ∧ j = k)
  /-- A touch target that is large enough is reported without its actual size. -/
  touchTarget : a.IsShowable → ∀ (e e' : Element) (b : Number) (m j k : Int),
    b.Shows m → e.shorterSide.Shows j → e'.shorterSide.Shows k →
      (messageOf (touchTarget e (.number a)) = messageOf (touchTarget e' (.number b)) ↔
        a.shown n = m ∧
          (Passes (touchTarget e (.number a)) ∧ Passes (touchTarget e' (.number b)) ∨
            ¬ Passes (touchTarget e (.number a)) ∧ ¬ Passes (touchTarget e' (.number b)) ∧ j = k))

theorem message_contrast_eq_iff (ha : a.Shows m) (hb : b.Shows n) :
    messageOf (contrast e (.number a)) = messageOf (contrast e' (.number b)) ↔ m = n := by
  rw [message_contrast ha, message_contrast hb, Option.some.injEq]
  constructor
  · exact integerText_inj ⟨':', _, rfl, by decide⟩
  · rintro rfl
    rfl

theorem message_minSize_eq_iff (ha : a.Shows m) (hb : b.Shows n) (hj : e.shorterSide.Shows j)
    (hk : e'.shorterSide.Shows k) :
    messageOf (minSize a e parameter) = messageOf (minSize b e' parameter') ↔
      m = n ∧ j = k := by
  rw [message_minSize ha hj, message_minSize hb hk, Option.some.injEq]
  constructor
  · exact integerTexts_inj ⟨'p', _, rfl, by decide⟩ ⟨'p', _, rfl, by decide⟩
  · rintro ⟨rfl, rfl⟩
    rfl

theorem message_touchTarget_eq_iff (ha : a.Shows m) (hb : b.Shows n) (hj : e.shorterSide.Shows j)
    (hk : e'.shorterSide.Shows k) :
    messageOf (touchTarget e (.number a)) = messageOf (touchTarget e' (.number b)) ↔
      m = n ∧ (Passes (touchTarget e (.number a)) ∧ Passes (touchTarget e' (.number b)) ∨
        ¬ Passes (touchTarget e (.number a)) ∧ ¬ Passes (touchTarget e' (.number b)) ∧ j = k) := by
  -- The wording depends on the verdict, so an equal wording needs equal verdicts.
  by_cases hpasses : Passes (touchTarget e (.number a)) <;>
    by_cases hpasses' : Passes (touchTarget e' (.number b))
  · rw [message_touchTarget_of_passes ha hpasses, message_touchTarget_of_passes hb hpasses',
      Option.some.injEq]
    refine ⟨fun h => ⟨integerText_inj ⟨'p', _, rfl, by decide⟩ h, .inl ⟨hpasses, hpasses'⟩⟩, ?_⟩
    rintro ⟨rfl, -⟩
    rfl
  · rw [message_touchTarget_of_passes ha hpasses,
      message_touchTarget_of_not_passes hb hk hpasses', Option.some.injEq]
    refine iff_of_false fittingMessage_ne_missingMessage ?_
    tauto
  · rw [message_touchTarget_of_not_passes ha hj hpasses,
      message_touchTarget_of_passes hb hpasses', Option.some.injEq]
    refine iff_of_false fittingMessage_ne_missingMessage.symm ?_
    tauto
  · rw [message_touchTarget_of_not_passes ha hj hpasses,
      message_touchTarget_of_not_passes hb hk hpasses', Option.some.injEq]
    constructor
    · intro h
      rcases integerTexts_inj ⟨'p', _, rfl, by decide⟩ ⟨'p', _, rfl, by decide⟩ h with ⟨hmn, hjk⟩
      exact ⟨hmn, .inr ⟨hpasses, hpasses', hjk⟩⟩
    · rintro ⟨rfl, ⟨hcontra, -⟩ | ⟨-, -, rfl⟩⟩
      · exact absurd hcontra hpasses
      · rfl

theorem shownNumberLaws (h : a.IsInteger n) : ShownNumberLaws a n where
  numeral_iff := Number.brief_eq_toString_iff h
  exponent := fun _ hn htext => Number.mem_of_brief_of_le h hn htext
  below := fun hn => ⟨Number.isShowable_of_lt h hn, Number.shown_of_lt hn⟩
  shows := Number.shows_shown h
  fault_iff := fun _ => Number.brief_eq_error_iff
  contrast := by
    intro ha e e' b m hb
    exact message_contrast_eq_iff (Number.shows_shown h ha) hb
  minSize := by
    intro ha e e' b m j k parameter parameter' hb hj hk
    exact message_minSize_eq_iff (Number.shows_shown h ha) hb hj hk
  touchTarget := by
    intro ha e e' b m j k hb hj hk
    exact message_touchTarget_eq_iff (Number.shows_shown h ha) hb hj hk

theorem shownNumberLaws_sevenDigits :
    (Number.whole 1234567).IsInteger 1234567 ∧ ShownNumberLaws (.whole 1234567) 1234567 :=
  ⟨⟨rfl, nofun⟩, shownNumberLaws ⟨rfl, nofun⟩⟩

/-- Not every whole number is shown as its numeral: two sizes that differ in the seventh digit look
alike. -/
theorem brief_sevenDigits :
    (Number.whole 1234567).brief = .ok "1.23457e+06" ∧
      (Number.whole 1234568).brief = .ok "1.23457e+06" ∧
        ¬ ∀ (a : Number) (n : Int), a.IsInteger n → n.natAbs < 2 ^ 1024 →
          a.brief = .ok (toString n) := by
  have hbrief : ((Number.whole 1234567).brief = .ok "1.23457e+06") := by rfl
  have hbrief' : ((Number.whole 1234568).brief = .ok "1.23457e+06") := by rfl
  refine ⟨hbrief, hbrief', fun hall => ?_⟩
  have hnumeral := hall (.whole 1234567) 1234567 (Number.isInteger_whole_iff.2 rfl)
    (by decide +kernel)
  rw [hbrief] at hnumeral
  exact absurd (Except.ok.inj hnumeral) (by decide)

end Check
end ComponentSpec
