import ComponentSpec.Datum
import ComponentSpec.Yaml.Binary
import ComponentSpec.Yaml.Date

/-!
# Contents

The things of which a YAML document consists.  A collection names what it contains by numbers in the
document.  As keys, numbers are equal by their values, and flags count as zero and one.

Main statement: a key is the same as a text exactly if it is this text (`isSame_text`).
-/

namespace ComponentSpec
namespace Yaml

/-- A thing in a document; a list of pairs keeps all of them, also those of equal keys. -/
inductive Content
  | null
  | flag (b : Bool)
  | number (a : Number)
  /-- What is spelled as no number; it is the same as itself, unlike other results that are none. -/
  | notANumber
  | text (s : String)
  | binary (bytes : List UInt8)
  | date (d : Date)
  | sequence (items : List Nat)
  | entries (pairs : List (Nat × Nat))
  | mapping (pairs : List (Nat × Nat))
  | set (keys : List Nat)
  deriving Inhabited, Repr

namespace Content

/-- The number that the content counts as among keys; flags are zero and one. -/
def keyNumber? : Content → Option Number
  | flag b => some (.whole (if b then 1 else 0))
  | number a => some a
  | _ => none

/-- Whether two contents are equal as keys. -/
def isSame : Content → Content → Bool
  | null, null => true
  | notANumber, notANumber => true
  | text s, text t => s == t
  | binary s, binary t => s == t
  | date d, date e => d.isSame e
  | a, b =>
      match a.keyNumber?, b.keyNumber? with
      | some a, some b => a.le b && b.le a
      | _, _ => false

theorem isSame_text {a : Content} {s : String} : a.isSame (.text s) = true ↔ a = .text s := by
  cases a <;> simp [isSame, keyNumber?]

/-- Whether the content may be a key. -/
def isKey : Content → Bool
  | sequence _ => false
  | entries _ => false
  | mapping _ => false
  | set _ => false
  | _ => true

/-- Whether the content counts as true: not null, not false, not zero and not empty. -/
def holds : Content → Bool
  | null => false
  | flag b => b
  | number a => !a.isZero
  | notANumber => true
  | text s => !s.isEmpty
  | binary bytes => !bytes.isEmpty
  | date _ => true
  | sequence items => !items.isEmpty
  | entries pairs => !pairs.isEmpty
  | mapping pairs => !pairs.isEmpty
  | set keys => !keys.isEmpty

/-! ## Order of keys -/

/-- The kind of a key; only keys of one kind are compared. -/
def keyKind : Content → Nat
  | null => 0
  | flag _ => 1
  | number _ => 1
  | notANumber => 1
  | text _ => 2
  | binary _ => 3
  | date d => 4 + d.kind
  | _ => 7

/-- Whether the first key may stand before the second of its kind. -/
def keyLe : Content → Content → Bool
  | text s, text t => s ≤ t
  | binary s, binary t => s ≤ t
  | date d, date e => d.instant ≤ e.instant
  | a, b =>
      match a.keyNumber?, b.keyNumber? with
      | some a, some b => !b.lt a
      | _, _ => true

/-! ## Display -/

/-- An offset of a time zone as it is displayed. -/
def displayOffset (offset : Int) : String :=
  if offset == 0 then "datetime.timezone.utc"
  else
    let seconds := 60 * offset
    let days := if seconds < 0 then "days=-1, " else ""
    "datetime.timezone(datetime.timedelta(" ++ days ++ "seconds=" ++ toString (seconds % 86400) ++
      "))"

/-- A date as it is displayed inside something else. -/
def displayDate : Date → String
  | .day d => "datetime.date(" ++ ", ".intercalate ([d.year, d.month, d.day].map toString) ++ ")"
  | .moment d clock offset =>
      let second := clock / 1000000
      let fraction := clock % 1000000
      -- The last parts are left out if they are zero.
      let tail :=
        if fraction != 0 then [second % 60, fraction]
        else if second % 60 != 0 then [second % 60]
        else []
      let parts := [d.year, d.month, d.day, second / 3600, second / 60 % 60] ++ tail
      let zone := (offset.map fun n => ", tzinfo=" ++ displayOffset n).getD ""
      "datetime.datetime(" ++ ", ".intercalate (parts.map toString) ++ zone ++ ")"

/-- A key as it is displayed inside something else. -/
def displayKey : Content → String
  | flag b => if b then "True" else "False"
  | number a => a.toText
  | notANumber => Binary64.nan.toText
  | text s => Datum.quoteText s
  | binary bytes => String.ofList (Binary.display bytes)
  | date d => displayDate d
  | _ => "None"

/-- The name by which a key is shown among fields. -/
def keyName : Content → String
  | null => "null"
  | flag b => if b then "true" else "false"
  | text s => s
  | date d => String.ofList d.toText
  | key => key.displayKey

end Content

end Yaml
end ComponentSpec
