import ComponentSpec.Spec.Body

/-!
# The validation block

Each line of the block names a rule and its parameter.  The parameters of the rules that take a
limit or a preference are brought to the form of an object; a parameter of another shape is dropped.

Main statement: of the rules with a fixed form only values of that form are kept
(`normalizeRule_contrast`, `normalizeRule_motion`).
-/

namespace ComponentSpec
namespace Spec

open Text

/-- The rules whose parameter is a size. -/
def sizeRules : List String := ["touchTarget", "bundleSize"]

/-- The parameter of a rule in its regular form, or nothing if it has no recognised shape. -/
def normalizeRule (name : String) (v : Value) : Option Value :=
  if name == "contrast" then
    match v with
    | .number x => some (.object [("ratio", .number x)])
    | _ => if v.hasField "ratio" then some v else none
  else if sizeRules.contains name then
    match v with
    | .number x => some (.object [("min", .number x)])
    | .text s => some (.object [("min", .text s)])
    | _ => if v.hasField "min" || v.hasField "max" then some v else none
  else if name == "motion" then
    let required : Value := .object [("respectsPreference", .flag true)]
    match v with
    | .flag true => some required
    | .text s => if s == "required" then some required else none
    | _ => if v.hasField "respectsPreference" then some v else none
  else
    some v

/-- Reads one line of a validation block. -/
def readRule (rules : Fields Value) (line : List Char) : Fields Value :=
  match namedValue? line with
  | none => rules
  | some (key, raw) =>
      let name := String.ofList key
      match normalizeRule name (Value.read raw) with
      | some v => rules.set name v
      | none => rules

/-- The rules of a validation block. -/
def readRules (body : List Char) : Fields Value :=
  (significantLines body).foldl readRule []

theorem normalizeRule_contrast {v w : Value} (h : normalizeRule "contrast" v = some w) :
    w.hasField "ratio" = true := by
  unfold normalizeRule at h
  simp only [beq_self_eq_true, if_true] at h
  split at h
  · simp only [Option.some.injEq] at h
    subst h
    simp [Value.hasField, Fields.get?]
  · split at h
    · simp_all
    · simp at h

theorem normalizeRule_motion {v w : Value} (h : normalizeRule "motion" v = some w) :
    w.hasField "respectsPreference" = true := by
  have hc : ("motion" == "contrast") = false := by decide
  have hs : sizeRules.contains "motion" = false := by decide
  unfold normalizeRule at h
  simp only [hc, hs, beq_self_eq_true, if_true, Bool.false_eq_true, if_false] at h
  split at h
  · simp only [Option.some.injEq] at h
    subst h
    simp [Value.hasField, Fields.get?]
  · split at h
    · simp only [Option.some.injEq] at h
      subst h
      simp [Value.hasField, Fields.get?]
    · simp at h
  · split at h
    · simp_all
    · simp at h

end Spec
end ComponentSpec
