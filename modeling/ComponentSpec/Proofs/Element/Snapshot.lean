import ComponentSpec.Proofs.Number.Range
import ComponentSpec.Proofs.Text.Fragment
import ComponentSpec.Reading.Element

/-!
# Snapshots of elements

The sides of an element that was captured are binary numbers, or the integer zero where none was
measured, and such sides can always be shown.

Main statements: the shorter side of a snapshot can be shown (`exists_brief_shorterSide`), and an
element that was read has such sides (`isMeasure_of_element`).
-/

namespace ComponentSpec

/-- A side of an element is a binary number, or zero if none was measured. -/
def Number.IsMeasure : Number → Prop
  | whole n => n = 0
  | real _ => True

/-- An element as it can be captured: measured sides, and no more parts than can be counted. -/
structure Element.IsSnapshot (e : Element) : Prop where
  width : e.own.width.IsMeasure
  height : e.own.height.IsMeasure
  length_descendants : e.descendants.length < 2 ^ 63
  length_attributes : ∀ field ∈ e.own.attributes, field.2.length < 2 ^ 63

/-- The attributes and the style of an element have no long numerals. -/
structure Element.HasShortNumerals (e : Element) : Prop where
  attributes : ∀ field ∈ e.own.attributes, Text.HasShortNumerals field.2.toList
  style : ∀ field ∈ e.own.style, Text.HasShortNumerals field.2.toList

theorem Number.exists_brief {a : Number} (h : a.IsMeasure) : ∃ shown, a.brief = .ok shown := by
  cases a with
  | whole n =>
      cases h
      exact ⟨_, rfl⟩
  | real x => exact ⟨_, brief_real x⟩

variable {e : Element}

theorem Element.IsSnapshot.exists_brief_shorterSide (h : e.IsSnapshot) :
    ∃ shown, e.shorterSide.brief = .ok shown := by
  refine Number.exists_brief ?_
  unfold Element.shorterSide Number.min
  split
  · exact h.height
  · exact h.width

theorem Element.HasShortNumerals.computedStyle (h : e.HasShortNumerals) {name : String}
    (hdefault : Text.HasShortNumerals ((Fields.get? defaultStyle name).getD "").toList) :
    Text.HasShortNumerals (e.computedStyle name).toList := by
  unfold Element.computedStyle
  cases hstyle : e.own.style.get? name with
  | none => exact hdefault
  | some s => exact h.style _ (Fields.mem_of_get?_eq_some hstyle)

/-! ## Elements that were read -/

namespace Reading

variable {α β : Type}

theorem seq_eq_accepted {f : Reading (α → β)} {x : Reading α} {b : β}
    (h : f <*> x = accepted b) : ∃ g a, f = accepted g ∧ x = accepted a ∧ b = g a := by
  cases f with
  | refused => cases x <;> cases h
  | accepted g =>
      cases x with
      | refused => cases h
      | accepted a =>
          cases h
          exact ⟨g, a, rfl, rfl, rfl⟩

theorem map_eq_accepted {f : α → β} {x : Reading α} {b : β} (h : f <$> x = accepted b) :
    ∃ a, x = accepted a ∧ b = f a := by
  cases x with
  | refused => cases h
  | accepted a =>
      cases h
      exact ⟨a, rfl, rfl⟩

theorem within_eq_accepted {step : PathStep} {x : Reading α} {a : α}
    (h : within step x = accepted a) : x = accepted a := by
  cases x with
  | refused => cases h
  | accepted b =>
      cases h
      rfl

/-- A side that is read is a binary number, and a side that is not there is zero. -/
theorem isMeasure_of_optional {fields : Fields Datum} {name : String} {a : Number}
    (h : optional fields name (.whole 0) (Number.real <$> real ·) = accepted a) : a.IsMeasure := by
  unfold optional at h
  split at h
  · rcases map_eq_accepted (within_eq_accepted h) with ⟨x, -, rfl⟩
    trivial
  · cases h
    rfl

theorem isMeasure_of_element {d : Datum} {e : Element} (h : element d = accepted e) :
    e.own.width.IsMeasure ∧ e.own.height.IsMeasure := by
  unfold element at h
  split at h
  · rcases seq_eq_accepted h with ⟨_, page, hpage, -, rfl⟩
    rcases seq_eq_accepted hpage with ⟨_, props, hprops, -, rfl⟩
    rcases seq_eq_accepted hprops with ⟨_, children, hchildren, -, rfl⟩
    rcases seq_eq_accepted hchildren with ⟨_, html, hhtml, -, rfl⟩
    rcases seq_eq_accepted hhtml with ⟨_, text, htext, -, rfl⟩
    rcases seq_eq_accepted htext with ⟨_, height, hrest, hheight, rfl⟩
    rcases seq_eq_accepted hrest with ⟨_, width, hstyle, hwidth, rfl⟩
    rcases seq_eq_accepted hstyle with ⟨_, style, hattributes, -, rfl⟩
    rcases seq_eq_accepted hattributes with ⟨_, attributes, htag, -, rfl⟩
    rcases map_eq_accepted htag with ⟨tag, -, rfl⟩
    exact ⟨isMeasure_of_optional hwidth, isMeasure_of_optional hheight⟩
  · cases h

end Reading
end ComponentSpec
