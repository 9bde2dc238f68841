import ComponentSpec.Files.Store

/-!
# The presets that come with the library

Specifications of a button, a form input and a link, and the catalog that lists them, as the lines
of their files.
-/

namespace ComponentSpec
namespace Preset

/-- The catalog of the presets. -/
def catalogLines : List String := [
  "# Presets",
  "presets:",
  "  - name: button",
  "    file: button.rux",
  "    component: Button",
  "    category: Interactive",
  "    description: Accessible, performant, and secure button component",
  "  - name: form-input",
  "    file: form-input.rux",
  "    component: FormInput",
  "    category: Form",
  "    description: Secure and accessible form input field",
  "  - name: link",
  "    file: link.rux",
  "    component: Link",
  "    category: Navigation",
  "    description: Secure link component with proper attributes"]

/-- The specification of a button. -/
def buttonLines : List String := [
  "Component: Button",
  "Description: \"Accessible, performant, and secure button component\"",
  "Category: \"Interactive\"",
  "",
  "@Structure \x7b",
  "  element: button",
  "  role: button",
  "  interactive: true",
  "\x7d",
  "",
  "@Validation \x7b",
  "  contrast: 4.5",
  "  keyboard: required",
  "  focusVisible: required",
  "  touchTarget: 44",
  "  motion: \x7b respectsPreference: true \x7d",
  "  xss: required",
  "  clickjacking: required",
  "  bundleSize: \x7b max: \"2kb\" \x7d",
  "  renderTime: \x7b maxMs: 50 \x7d",
  "\x7d",
  "",
  "@Props \x7b",
  "  onClick?: function",
  "  disabled?: boolean",
  "  type?: \"button\" | \"submit\" | \"reset\" = \"button\"",
  "  ariaLabel?: string",
  "  children: ReactNode",
  "\x7d",
  "",
  "@Style \x7b",
  "  guidelines: [",
  "    \"Use semantic button element, not div with onClick\",",
  "    \"Ensure minimum 44x44px touch target\",",
  "    \"Provide clear focus indicators (3px outline)\",",
  "    \"Support keyboard navigation (Enter/Space)\",",
  "    \"Include hover and active states\",",
  "    \"Use design system color tokens\"",
  "  ]",
  "  ",
  "  tokens: \x7b",
  "    colors: [\"primary\", \"secondary\", \"disabled\"]",
  "    spacing: [\"compact\", \"normal\", \"spacious\"]",
  "  \x7d",
  "\x7d",
  "",
  "!Requirements:",
  "! Must be keyboard accessible [@validate: keyboard]",
  "! Must have sufficient color contrast (WCAG AA) [@validate: contrast]",
  "! Must have visible focus indicator [@validate: focusVisible]",
  "! Must have minimum touch target size [@validate: touchTarget]",
  "! Must respect prefers-reduced-motion [@validate: motion]",
  "! Must prevent XSS vulnerabilities [@validate: xss]",
  "! Must avoid clickjacking risks [@validate: clickjacking]",
  "",
  "?Recommendations:",
  "? Use semantic HTML button element",
  "? Include ARIA labels for icon-only buttons",
  "? Provide loading and disabled states",
  "? Follow consistent naming conventions",
  "? Test with screen readers"]

/-- The specification of a form input. -/
def formInputLines : List String := [
  "Component: FormInput",
  "Description: \"Secure and accessible form input field\"",
  "Category: \"Form\"",
  "",
  "@Structure \x7b",
  "  element: input",
  "  labelRequired: true",
  "  errorHandling: true",
  "\x7d",
  "",
  "@Validation \x7b",
  "  contrast: 4.5",
  "  keyboard: required",
  "  focusVisible: required",
  "  touchTarget: 44",
  "  screenReader: required",
  "  xss: required",
  "  bundleSize: \x7b max: \"1.5kb\" \x7d",
  "\x7d",
  "",
  "@Props \x7b",
  "  type: \"text\" | \"email\" | \"password\" | \"number\" | \"tel\" | \"url\"",
  "  label: string",
  "  name: string",
  "  value?: string",
  "  placeholder?: string",
  "  required?: boolean",
  "  disabled?: boolean",
  "  error?: string",
  "  ariaDescribedBy?: string",
  "\x7d",
  "",
  "@Style \x7b",
  "  guidelines: [",
  "    \"Always pair inputs with visible labels\",",
  "    \"Use proper input types for better mobile UX\",",
  "    \"Provide clear error messages below the field\",",
  "    \"Include proper autocomplete attributes\",",
  "    \"Ensure 44px minimum height for touch\",",
  "    \"Use border color changes for focus states\"",
  "  ]",
  "  ",
  "  tokens: \x7b",
  "    colors: [\"input-border\", \"input-focus\", \"input-error\", \"label-text\"]",
  "    spacing: [\"input-padding\", \"label-margin\"]",
  "  \x7d",
  "\x7d",
  "",
  "!Requirements:",
  "! Must have associated label element [@validate: screenReader]",
  "! Must be keyboard navigable [@validate: keyboard]",
  "! Must have visible focus state [@validate: focusVisible]",
  "! Must meet touch target size [@validate: touchTarget]",
  "! Must prevent XSS in value handling [@validate: xss]",
  "! Must have sufficient contrast [@validate: contrast]",
  "",
  "?Recommendations:",
  "? Use semantic HTML5 input types",
  "? Include helpful placeholder text",
  "? Provide inline validation feedback",
  "? Support autocomplete attributes",
  "? Test with password managers"]

/-- The specification of a link. -/
def linkLines : List String := [
  "Component: Link",
  "Description: \"Secure link component with proper attributes\"",
  "Category: \"Navigation\"",
  "",
  "@Structure \x7b",
  "  element: a",
  "  href: required",
  "  semanticHTML: true",
  "\x7d",
  "",
  "@Validation \x7b",
  "  contrast: 4.5",
  "  keyboard: required",
  "  focusVisible: required",
  "  externalLinks: required",
  "  xss: required",
  "  clickjacking: required",
  "  screenReader: required",
  "\x7d",
  "",
  "@Props \x7b",
  "  href: string",
  "  children: ReactNode",
  "  target?: \"_blank\" | \"_self\" | \"_parent\" | \"_top\"",
  "  rel?: string",
  "  ariaLabel?: string",
  "  external?: boolean",
  "\x7d",
  "",
  "@Style \x7b",
  "  guidelines: [",
  "    \"Use underline or other clear visual indicator\",",
  "    \"Ensure links are distinguishable from text\",",
  "    \"Provide hover and focus states\",",
  "    \"Include external link icon for new windows\",",
  "    \"Use consistent link colors across the site\",",
  "    \"Avoid generic 'click here' text\"",
  "  ]",
  "  ",
  "  tokens: \x7b",
  "    colors: [\"link-default\", \"link-hover\", \"link-visited\", \"link-focus\"]",
  "  \x7d",
  "\x7d",
  "",
  "!Requirements:",
  "! Must use HTTPS for external links [@validate: externalLinks]",
  "! Must include rel=\"noopener noreferrer\" for target=\"_blank\" [@validate: externalLinks]",
  "! Must be keyboard accessible [@validate: keyboard]",
  "! Must have sufficient color contrast [@validate: contrast]",
  "! Must have visible focus indicator [@validate: focusVisible]",
  "! Must prevent clickjacking [@validate: clickjacking]",
  "! Must have descriptive link text [@validate: screenReader]",
  "",
  "?Recommendations:",
  "? Use descriptive link text that makes sense out of context",
  "? Include aria-label for icon-only links",
  "? Indicate external links visually",
  "? Avoid opening too many new windows",
  "? Test with screen readers"]

/-- The directory of the presets that come with the library. -/
def builtinDirectory : Path := ⟨"/", ["usr", "share", "component-spec"]⟩

/-- The text of some lines. -/
def textOfLines (lines : List String) : String :=
  "\n".intercalate lines ++ "\n"

/-- A store with the presets that come with the library beside its own files. -/
def withBuiltins (store : FileStore) : FileStore :=
  let place := fun (name : String) => "/" :: builtinDirectory.parts ++ ["presets", name]
  [("catalog.yaml", catalogLines), ("button.rux", buttonLines), ("form-input.rux", formInputLines),
    ("link.rux", linkLines)].foldl (fun store (name, lines) =>
      store.write (place name) (.file (textOfLines lines).toUTF8.toList)) store

end Preset
end ComponentSpec
