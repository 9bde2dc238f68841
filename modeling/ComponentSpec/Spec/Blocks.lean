import ComponentSpec.Text.Blank
import ComponentSpec.Text.Scan
import ComponentSpec.Text.Word

/-!
# Blocks of a document

A block is an at sign, a name, blanks at will, and a body in braces.  It ends at the first closing
brace, so bodies do not nest, and an empty body makes no block.

Main statement: the text after a block is shorter than the text that begins with it
(`length_of_blockAt?`), so a document has finitely many.
-/

namespace ComponentSpec
namespace Spec

open Text

/-- The name and the body of a block. -/
structure Block where
  name : List Char
  body : List Char
  deriving DecidableEq, Repr

/-- The block at the beginning of a text, and the text after it. -/
def blockAt? : List Char → Option (Block × List Char)
  | '@' :: s =>
      let name := s.takeWhile isWord
      match trimLeft (s.dropWhile isWord) with
      | '\x7b' :: rest =>
          match cut? '\x7d' rest with
          | some (body, after) =>
              if name.isEmpty || body.isEmpty then none else some (⟨name, body⟩, after)
          | none => none
      | _ => none
  | _ => none

theorem length_of_blockAt? {s after : List Char} {block : Block}
    (h : blockAt? s = some (block, after)) : after.length < s.length := by
  unfold blockAt? at h
  split at h
  · rename_i t
    simp only [] at h
    split at h
    · rename_i rest hrest
      split at h
      · rename_i body tail hcut
        split at h
        · simp at h
        · simp only [Option.some.injEq, Prod.mk.injEq] at h
          have h1 := length_of_cut? hcut
          have h2 := length_trimLeft_le (t.dropWhile isWord)
          have h3 := (List.dropWhile_sublist (l := t) isWord).length_le
          rw [hrest] at h2
          simp only [List.length_cons] at h2 ⊢
          rw [← h.2]
          omega
      · simp at h
    · simp at h
  · simp at h

/-- The blocks of a document in order. -/
def blocksOf : List Char → List Block
  | [] => []
  | c :: s =>
      match _ : blockAt? (c :: s) with
      | some (block, after) => block :: blocksOf after
      | none => blocksOf s
termination_by s => s.length
decreasing_by
  · exact length_of_blockAt? ‹_›
  · simp

end Spec
end ComponentSpec
