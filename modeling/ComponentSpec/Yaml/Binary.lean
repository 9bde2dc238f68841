import ComponentSpec.Text.Quoted
import ComponentSpec.Yaml.Error

/-!
# Bytes as text

Bytes are written with sixty-four characters, each of which stands for six bits; four of them are
three bytes.  Characters outside the alphabet count for nothing, and equality signs fill up the last
group of four and end the text.
-/

namespace ComponentSpec
namespace Yaml
namespace Binary

/-- The characters for the values of six bits. -/
def alphabet : List Char :=
  "ABCDEFGHIJKLMNOPQRSTUVWXYZabcdefghijklmnopqrstuvwxyz0123456789+/".toList

/-! ## Reading -/

/-- How far a text was read: the bytes so far from the last to the first, the number of characters
of the present group, their bits that belong to no byte yet, and the equality signs after them. -/
structure Group where
  bytes : List UInt8 := []
  count : Nat := 0
  bits : Nat := 0
  signs : Nat := 0

namespace Group

/-- The group with the value of one more character. -/
def push (group : Group) (value : Nat) : Group :=
  let bits := 64 * group.bits + value
  match group.count with
  | 0 => { group with count := 1, bits, signs := 0 }
  | 1 => ⟨UInt8.ofNat (bits / 16) :: group.bytes, 2, bits % 16, 0⟩
  | 2 => ⟨UInt8.ofNat (bits / 4) :: group.bytes, 3, bits % 4, 0⟩
  | _ => ⟨UInt8.ofNat bits :: group.bytes, 0, 0, 0⟩

/-- The bytes of a text after a group. -/
def read (group : Group) : List Char → Except Error (List UInt8)
  | [] => if group.count == 0 then return group.bytes.reverse else throw .malformed
  | c :: rest =>
      if c == '=' then
        if group.count < 2 then group.read rest
        else if group.count + group.signs < 3 then
          { group with signs := group.signs + 1 }.read rest
        else return group.bytes.reverse
      else
        match alphabet.idxOf? c with
        | some value => (group.push value).read rest
        | none => group.read rest

end Group

/-- The bytes that a text stands for. -/
def ofText (s : List Char) : Except Error (List UInt8) :=
  if s.all fun c => c.toNat < 128 then Group.read {} s else throw .malformed

/-! ## Writing -/

/-- The character for a value of six bits. -/
def charOf (value : Nat) : Char :=
  alphabet.getD value '='

/-- The characters for some bytes. -/
def charsOf : List UInt8 → List Char
  | [] => []
  | [a] =>
      let n := a.toNat * 16
      [charOf (n / 64), charOf (n % 64), '=', '=']
  | [a, b] =>
      let n := (a.toNat * 256 + b.toNat) * 4
      [charOf (n / 4096), charOf (n / 64 % 64), charOf (n % 64), '=']
  | a :: b :: c :: rest =>
      let n := (a.toNat * 256 + b.toNat) * 256 + c.toNat
      charOf (n / 262144) :: charOf (n / 4096 % 64) :: charOf (n / 64 % 64) :: charOf (n % 64) ::
        charsOf rest

/-- The number of characters on a line. -/
def lineWidth : Nat := 76

/-- The text without more than a number of characters on a line; each line is ended. -/
def inLines : Nat → List Char → List Char
  | 0, _ => []
  | _, [] => []
  | fuel + 1, c :: rest =>
      let s := c :: rest
      s.take lineWidth ++ '\n' :: inLines fuel (s.drop lineWidth)

/-- The text for some bytes. -/
def toText (bytes : List UInt8) : List Char :=
  let chars := charsOf bytes
  inLines chars.length chars

/-- Bytes as they are displayed: characters between quotes, the others by their numbers. -/
def display (bytes : List UInt8) : List Char :=
  let chars := bytes.map fun b => Char.ofNat b.toNat
  let quote := Text.quoteFor chars
  let shown := fun (c : Char) =>
    if c.toNat < 128 then Text.quotedChar quote c else Text.escapedByNumber c
  'b' :: quote :: chars.flatMap shown ++ [quote]

end Binary
end Yaml
end ComponentSpec
