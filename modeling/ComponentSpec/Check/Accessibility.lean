import ComponentSpec.Check.Basic

/-!
# Checks of accessibility

Contrast, keyboard access, visible focus, the size of touch targets, motion, and the name that a
screen reader announces.  Contrast is not measured: the check asks only that both colours are given.
Motion cannot be watched: the check collects what it can and always passes.
-/

namespace ComponentSpec
namespace Check

open Text

/-- The number that a parameter gives, by itself or in a field. -/
def limit? (rule : Datum) (field : String) : Option Number :=
  rule.number?.or ((rule.field? field).bind Datum.number?)

/-! ## Contrast -/

/-- The colour of what is not painted. -/
def transparent : String := "rgba(0, 0, 0, 0)"

/-- The least contrast of normal text: four and a half. -/
def usualContrast : Number := .real (Binary64.ofRatio false 9 2)

/-- Whether foreground and background are both painted. -/
def contrast (e : Element) (rule : Datum) : Except Fault Outcome := do
  let ratio := (limit? rule "ratio").getD usualContrast
  let background := e.computedStyle "background-color"
  let foreground := e.computedStyle "color"
  let shown ← ratio.brief
  return {
    passed := background != transparent && foreground != transparent
    message := "Color contrast ratio should be at least " ++ shown ++ ":1"
    details := some [
      ("required", .number ratio), ("background", .text background),
      ("foreground", .text foreground)] }

/-! ## Keyboard -/

/-- The elements that take the focus by themselves. -/
def focusableTags : List String := ["BUTTON", "A", "INPUT", "SELECT", "TEXTAREA"]

/-- Whether the element can be reached with the keyboard and is not disabled. -/
def keyboard (e : Element) (_ : Datum) : Except Fault Outcome := do
  let focusable := focusableTags.contains e.tagName
  let tabIndex := e.attribute? "tabindex"
  -- The attribute disables by its presence, its value notwithstanding.
  let disabled := e.hasAttribute "disabled" || e.attribute? "aria-disabled" == some "true"
  let tabOrder ←
    match tabIndex with
    | some s => leadingInt s.toList
    | none => pure none
  let ordered :=
    match tabOrder with
    | some n => decide (0 ≤ n)
    | none => false
  let passed := !disabled && (focusable || ordered)
  return {
    passed
    message :=
      if passed then "Element is keyboard accessible"
      else "Element must be keyboard accessible (native element or tabindex >= 0)"
    details := some [
      ("tagName", .text e.tagName), ("tabindex", .text? tabIndex), ("isDisabled", .flag disabled),
      ("isNativelyFocusable", .flag focusable)] }

/-! ## Focus -/

/-- Whether the focus shows: by a rule of the page, an outline or a shadow. -/
def focusVisible (e : Element) (_ : Datum) : Outcome :=
  let outline := e.computedStyle "outline"
  let boxShadow := e.computedStyle "box-shadow"
  let styled := e.own.page.hasSelectorContaining ":focus"
  let shadowless := ["none", ""].contains boxShadow
  let passed := styled || outline != "none" || !shadowless
  { passed
    message :=
      if passed then "Element has focus indication"
      else "Element must have visible focus indication (:focus-visible styles)"
    details := some [
      ("outline", .text outline), ("boxShadow", .text boxShadow),
      ("hasFocusStylesheet", .flag styled)] }

/-! ## Touch targets -/

/-- The least side of a touch target. -/
def usualTouchSize : Number := .whole 44

/-- The least side that a parameter asks for: a number by itself, or a number or a text that begins
with an integer in the field for the minimum. -/
def touchSize (rule : Datum) : Except Fault Number := do
  match limit? rule "min" with
  | some size => return size
  | none =>
      match rule.field? "min" with
      | some (.text s) =>
          match ← leadingInt s.toList with
          | some n => return .whole n
          | none => return usualTouchSize
      | _ => return usualTouchSize

/-- Whether both sides of the element have the least size. -/
def touchTarget (e : Element) (rule : Datum) : Except Fault Outcome := do
  let size ← touchSize rule
  let width := e.own.width
  let height := e.own.height
  let passed := size.le width && size.le height
  let shown ← size.brief
  let message ←
    if passed then pure ("Touch target meets minimum size (" ++ shown ++ "px)")
    else do
      let current ← e.shorterSide.brief
      pure ("Touch target must be at least " ++ shown ++ "px (currently " ++ current ++ "px)")
  return {
    passed
    message
    details := some [
      ("required", .number size),
      ("actual", .object [("width", .number width), ("height", .number height)]),
      ("smallest", .number e.shorterSide)] }

/-! ## Motion -/

/-- Whether the parameter asks to respect the preference for reduced motion. -/
def respectsPreference : Datum → Bool
  | .object fields =>
      match Fields.get? fields "respectsPreference" with
      | some d => d.holds
      | none => false
  | rule => rule.holds

/-- What is known about the motion of the element. -/
def motion (e : Element) (rule : Datum) : Outcome :=
  if respectsPreference rule then
    let transition := e.computedStyle "transition"
    let animation := e.computedStyle "animation"
    let still := ["none", ""]
    if still.contains transition && still.contains animation then
      { passed := true, message := "Element has no motion" }
    else
      { passed := true
        message := "Animations should respect prefers-reduced-motion"
        details := some [
          ("hasMotion", .flag true), ("transition", .text transition),
          ("animation", .text animation),
          ("prefersReducedMotion", .flag e.own.page.reducedMotion)] }
  else
    { passed := true, message := "Motion preference respect not required" }

/-! ## Screen readers -/

/-- Whether an attribute is given and not empty. -/
def isGiven (value : Option String) : Bool :=
  match value with
  | some s => !s.isEmpty
  | none => false

/-- Whether the element has a name: by a label or by text that is not blank. -/
def screenReader (e : Element) (_ : Datum) : Outcome :=
  let label := e.attribute? "aria-label"
  let labelledBy := e.attribute? "aria-labelledby"
  let hasText := !(trim e.textContent.toList).isEmpty
  let passed := isGiven label || isGiven labelledBy || hasText
  { passed
    message :=
      if passed then "Element has accessible name"
      else "Element must have accessible name (aria-label, aria-labelledby, or text content)"
    details := some [
      ("role", .text? (e.attribute? "role")), ("ariaLabel", .text? label),
      ("ariaLabelledBy", .text? labelledBy),
      ("ariaDescribedBy", .text? (e.attribute? "aria-describedby")),
      ("hasTextContent", .flag hasText)] }

end Check
end ComponentSpec
