import ComponentSpec.Check.Basic
import ComponentSpec.Text.Caseless
import ComponentSpec.Text.Word

/-!
# Checks of security

Dangerous markup in the content of an element, styling that hides what a user clicks on, and links
to other hosts.
-/

namespace ComponentSpec
namespace Check

open Text

/-! ## Dangerous markup -/

/-- Whether a tag with this keyword begins here and is closed somewhere. -/
def tagAt (keyword : String) (s : List Char) : Bool :=
  match dropKeyword? keyword.toList s with
  | some rest => rest.contains '>'
  | none => false

/-- Whether an event handler is set here. -/
def handlerAt (s : List Char) : Bool :=
  match dropKeyword? "on".toList s with
  | none => false
  | some rest =>
      !(rest.takeWhile isWord).isEmpty &&
        (trimLeft (rest.dropWhile isWord)).head? == some '='

/-- Whether an evaluation of code is called here. -/
def evaluationAt (s : List Char) : Bool :=
  match dropKeyword? "eval".toList s with
  | some rest => (trimLeft rest).head? == some '('
  | none => false

/-- A form of dangerous markup: how it is shown, and whether it stands at a place. -/
structure Danger where
  shown : String
  standsAt : List Char → Bool

/-- The forms of dangerous markup. -/
def dangers : List Danger := [
  ⟨"<script[^>]*>", tagAt "<script"⟩,
  ⟨"javascript:", fun s => (dropKeyword? "javascript:".toList s).isSome⟩,
  ⟨"on\\w+\\s*=", handlerAt⟩,
  ⟨"<iframe[^>]*>", tagAt "<iframe"⟩,
  ⟨"eval\\s*\\(", evaluationAt⟩,
  ⟨"document\\.write", fun s => (dropKeyword? "document.write".toList s).isSome⟩]

/-- Whether the form occurs in a text. -/
def Danger.occursIn (danger : Danger) (s : String) : Bool :=
  matchesSomewhere (fun place => if danger.standsAt place then some () else none) s.toList

/-- How much of the markup is reported. -/
def excerptLength : Nat := 100

/-- Whether neither the markup nor the text of the element is dangerous, and no markup is injected
unescaped. -/
def xss (e : Element) (_ : Datum) : Outcome :=
  let markup := e.innerMarkup
  let text := e.textContent
  let dangerous := dangers.any fun danger => danger.occursIn markup || danger.occursIn text
  let unescaped :=
    match e.own.props.get? "dangerouslySetInnerHTML" with
    | some d => d.holds
    | none => false
  let passed := !dangerous && !unescaped
  { passed
    message :=
      if passed then "No XSS vulnerabilities detected"
      else "Potential XSS vulnerability: unsafe content or dangerouslySetInnerHTML usage"
    details := some [
      ("dangerousPatterns",
        .list ((dangers.filter (·.occursIn markup)).map fun danger => .text danger.shown)),
      ("usesDangerouslySetInnerHTML", .flag unescaped),
      ("innerHTML", .text (String.ofList (markup.toList.take excerptLength)))] }

/-! ## Clickjacking -/

/-- The least opacity of what can be seen: one tenth. -/
def leastOpacity : Number := .real (Binary64.ofRatio false 1 10)

/-- The greatest usual position in the stack of layers. -/
def greatestLayer : Int := 9999

/-- Whether what can be clicked is not hidden by its style. -/
def clickjacking (e : Element) (_ : Datum) : Except Fault Outcome := do
  let clickable := ["BUTTON", "A"].contains e.tagName || e.attribute? "role" == some "button"
  if !clickable then
    return { passed := true, message := "Element not clickable" }
  let opacity := leadingReal? (e.computedStyle "opacity").toList
  let visibility := e.computedStyle "visibility"
  let display := e.computedStyle "display"
  let position := e.computedStyle "position"
  let layer := (← leadingInt (e.computedStyle "z-index").toList).getD 0
  let faint :=
    match opacity with
    | some x => (Number.real x).lt leastOpacity
    | none => false
  let suspicious :=
    faint || visibility == "hidden" || display == "none" ||
      (position == "absolute" && decide (greatestLayer < layer))
  return {
    passed := !suspicious
    message :=
      if suspicious then "Suspicious styling detected - potential clickjacking vector"
      else "No clickjacking vulnerabilities detected"
    details := some [
      ("opacity", match opacity with | some x => .real x | none => .null),
      ("visibility", .text visibility), ("display", .text display), ("position", .text position),
      ("zIndex", .int layer)] }

/-! ## External links -/

/-- Whether the text begins with a fragment. -/
def beginsWith (fragment s : String) : Bool :=
  fragment.toList.isPrefixOf s.toList

/-- Whether the text contains a fragment. -/
def contains (fragment s : String) : Bool :=
  occurs fragment.toList s.toList

/-- Whether a link to another host is encrypted and, in a new tab, gives nothing away. -/
def externalLinks (e : Element) (_ : Datum) : Outcome :=
  if e.tagName != "A" then { passed := true, message := "Not a link element" }
  else
    let href := (e.attribute? "href").getD ""
    let rel := (e.attribute? "rel").getD ""
    -- A reference within the page or the site needs no host.
    if href.isEmpty || beginsWith "#" href || beginsWith "/" href then
      { passed := true, message := "Internal link" }
    else if !(beginsWith "http" href && !contains e.own.page.hostname href) then
      { passed := true, message := "Not an external link" }
    else
      let noOpener := contains "noopener" rel
      let noReferrer := contains "noreferrer" rel
      let newTab := e.attribute? "target" == some "_blank"
      let secure := beginsWith "https://" href
      let passed := secure && (!newTab || (noOpener && noReferrer))
      { passed
        message :=
          if passed then "External link is secure"
          else "External link security issues: use HTTPS and rel=\"noopener noreferrer\" for " ++
            "target=\"_blank\""
        details := some [
          ("href", .text href), ("isSecure", .flag secure), ("hasNoopener", .flag noOpener),
          ("hasNoreferrer", .flag noReferrer), ("opensInNewTab", .flag newTab)] }

end Check
end ComponentSpec
