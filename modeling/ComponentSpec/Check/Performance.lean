import ComponentSpec.Check.Accessibility

/-!
# Checks of performance

The weight of an element in a bundle, the time that its layout takes, and the care taken of its
images.
-/

namespace ComponentSpec
namespace Check

open Text

/-! ## Bundle size -/

/-- The weight of one element in bytes. -/
def nodeWeight : Nat := 50

/-- The bytes of a kilobyte. -/
def kilobyte : Nat := 1024

/-- The size of a text such as two kilobytes: its digits and points, taken for kilobytes. -/
def kilobytes? (s : String) : Option Number :=
  (wholeReal? (s.toList.filter fun c => isDigit c || c == '.')).map fun x =>
    .real (x.mul (.ofInt kilobyte))

/-- No limit. -/
def unlimited : Number := .real (.infinite false)

/-- The greatest size that a parameter allows: a number by itself, a flag as one byte or none, or
the field for the maximum, where the number zero sets no limit. -/
def bundleLimit : Datum → Number
  | .number a => a
  | .flag b => .whole (if b then 1 else 0)
  | .object fields =>
      match Fields.get? fields "max" with
      | some (.text s) => (kilobytes? s).getD unlimited
      | some (.number a) => if a.isZero then unlimited else a
      | _ => unlimited
  | _ => unlimited

/-- The length of an attribute, nothing if it is absent. -/
def attributeLength (e : Element) (name : String) : Nat :=
  ((e.attribute? name).getD "").length

/-- The estimated size of an element in bytes. -/
def estimatedSize (e : Element) : Nat :=
  e.descendants.length * nodeWeight + attributeLength e "style" + attributeLength e "class"

/-- Whether the estimated size of the element is within the limit. -/
def bundleSize (e : Element) (rule : Datum) : Except Fault Outcome := do
  let limit := bundleLimit rule
  let size : Number := .whole (estimatedSize e)
  let passed := size.le limit
  let shown := (← size.divNat kilobyte).toPlaces 1
  let message ←
    if passed then pure ("Estimated bundle impact: " ++ shown ++ "kb")
    else do
      let most := (← limit.divNat kilobyte).toPlaces 1
      pure ("Bundle impact too large: " ++ shown ++ "kb (max: " ++ most ++ "kb)")
  return {
    passed
    message
    details := some [
      ("estimatedSize", .number size), ("maxSize", .number limit),
      ("nodeCount", .int e.descendants.length),
      ("inlineStyles", .int (attributeLength e "style")),
      ("classNames", .int (attributeLength e "class"))] }

/-! ## Render time -/

/-- The time between two readings of the clock in milliseconds. -/
def milliseconds (start finish : Binary64) : Binary64 :=
  (finish.sub start).mul (.ofInt 1000)

/-- Whether the layout of the element and its descendants takes no longer than the limit.  Without
a limit the check fails. -/
def renderTime : Check := fun e rule => do
  let limit := (limit? rule "maxMs").getD (.real .nan)
  -- Two readings are taken whatever the element is, so the clock goes on evenly.
  let start ← readClock
  let finish ← readClock
  let time := milliseconds start finish
  let passed := (Number.real time).le limit
  let shown := time.toPlaces 2
  let message ←
    if passed then pure ("Render time: " ++ shown ++ "ms")
    else do
      let most ← timeless limit.brief
      pure ("Render time too slow: " ++ shown ++ "ms (max: " ++ most ++ "ms)")
  return {
    passed
    message
    details := some [
      ("renderTime", .real time), ("maxMs", .number limit),
      ("nodeCount", .int e.descendants.length)] }

/-! ## Images -/

/-- The image formats that need no advice. -/
def modernFormats : List String := ["webp", "avif"]

/-- The images inside an element in document order. -/
def imagesOf (e : Element) : List Element :=
  e.descendants.filter fun d => d.tagName == "IMG"

/-- What is missing from the image with this number. -/
def imageIssues (index : Nat) (image : Element) : List String :=
  let label := "Image " ++ toString index ++ ": "
  let missing := fun name => !isGiven (image.attribute? name)
  let src := (image.attribute? "src").getD ""
  let outdated :=
    !src.isEmpty && !modernFormats.any fun format => occurs format.toList src.toList
  (if (image.attribute? "alt").isNone then [label ++ "Missing alt attribute"] else []) ++
  (if missing "loading" then [label ++ "Missing loading=\"lazy\""] else []) ++
  (if missing "width" || missing "height" then [label ++ "Missing width/height attributes"]
    else []) ++
  (if outdated then [label ++ "Consider modern formats (WebP/AVIF)"] else [])

/-- The issues of several images, the first of which has the number `index`. -/
def issuesFrom : Nat → List Element → List String
  | _, [] => []
  | index, image :: rest => imageIssues index image ++ issuesFrom (index + 1) rest

/-- Whether nothing is missing from the images inside the element. -/
def imageOptimization (e : Element) (_ : Datum) : Outcome :=
  let images := imagesOf e
  if images.isEmpty then { passed := true, message := "No images found" }
  else
    let issues := issuesFrom 0 images
    let passed := issues.isEmpty
    { passed
      message :=
        if passed then "All " ++ toString images.length ++ " images optimized"
        else toString issues.length ++ " image optimization issues"
      details := some [
        ("issues", .list (issues.map .text)), ("imageCount", .int images.length)] }

end Check
end ComponentSpec
