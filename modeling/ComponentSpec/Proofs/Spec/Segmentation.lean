import ComponentSpec.Spec.Read
import Mathlib.Tactic.SplitIfs

/-!
# The blocks of a document

A document is written as a sequence of parts: blocks, and texts between them in which there is no
opening brace.  The reader finds exactly the blocks that were written.  It cannot begin one in a
text between blocks, because every opening brace of a document comes after the at sign of its own
block and no at sign stands in a name or among blanks; and it cannot begin one inside a body,
because it goes on after the closing brace.

Main statements: a text begins with a block exactly if one was written there
(`blockAt?_eq_some_iff`), the blocks of a document are the written ones (`blocksOf_textOf`), and the
specification has of every name the last block (`read_textOf`).
-/

namespace ComponentSpec
namespace Spec

open Text

/-! ## Blocks as they are written -/

/-- A block with the blanks between its name and its body. -/
structure WrittenBlock where
  block : Block
  blanks : List Char
  name_ne_nil : block.name ≠ []
  isWord_name : ∀ c ∈ block.name, isWord c = true
  isBlank_blanks : ∀ c ∈ blanks, isBlank c = true
  body_ne_nil : block.body ≠ []
  brace_not_mem_body : '\x7d' ∉ block.body

def WrittenBlock.text (b : WrittenBlock) : List Char :=
  '@' :: (b.block.name ++ (b.blanks ++ '\x7b' :: (b.block.body ++ ['\x7d'])))

theorem takeWhile_isWord_name {name blanks : List Char} (hname : ∀ c ∈ name, isWord c = true)
    (hblanks : ∀ c ∈ blanks, isBlank c = true) (rest : List Char) :
    (name ++ (blanks ++ '\x7b' :: rest)).takeWhile isWord = name ∧
      (name ++ (blanks ++ '\x7b' :: rest)).dropWhile isWord = blanks ++ '\x7b' :: rest := by
  rw [List.takeWhile_append_of_pos hname, List.dropWhile_append_of_pos hname]
  cases blanks with
  | nil =>
      have hbrace : isWord '\x7b' = false := isWord_delimiter (by decide)
      simp [hbrace]
  | cons c blanks =>
      have hc : isWord c = false := isWord_of_isBlank (hblanks c (List.mem_cons_self ..))
      simp [hc]

theorem trimLeft_blanks {blanks : List Char} (hblanks : ∀ c ∈ blanks, isBlank c = true)
    (rest : List Char) : trimLeft (blanks ++ '\x7b' :: rest) = '\x7b' :: rest := by
  have hbrace : isBlank '\x7b' = false := by decide
  rw [trimLeft, List.dropWhile_append_of_pos hblanks, List.dropWhile_cons_of_neg (by simp [hbrace])]

theorem blockAt?_text (b : WrittenBlock) (rest : List Char) :
    blockAt? (b.text ++ rest) = some (b.block, rest) := by
  rcases b with ⟨⟨name, body⟩, blanks, hname, hword, hblank, hbody, hbrace⟩
  have htext :
      WrittenBlock.text ⟨⟨name, body⟩, blanks, hname, hword, hblank, hbody, hbrace⟩ ++ rest =
        '@' :: (name ++ (blanks ++ '\x7b' :: (body ++ '\x7d' :: rest))) := by
    simp [WrittenBlock.text]
  rcases takeWhile_isWord_name hword hblank (body ++ '\x7d' :: rest) with ⟨htake, hdrop⟩
  rw [htext]
  simp only [blockAt?, htake, hdrop, trimLeft_blanks hblank, cut?_append hbrace]
  simp [hname, hbody]

theorem exists_written_of_blockAt? {s after : List Char} {block : Block}
    (h : blockAt? s = some (block, after)) :
    ∃ b : WrittenBlock, b.block = block ∧ s = b.text ++ after := by
  unfold blockAt? at h
  split at h
  · rename_i t
    dsimp only at h
    split at h
    · rename_i rest hrest'
      split at h
      · rename_i body tail hcut
        split at h
        · cases h
        · rename_i hempty
          cases h
          simp only [Bool.or_eq_true, List.isEmpty_iff, not_or] at hempty
          have hrest := eq_of_cut? hcut
          -- What has been read is put together again, the blanks first and then the name.
          have hblanks : t.dropWhile isWord =
              (t.dropWhile isWord).takeWhile isBlank ++ '\x7b' :: rest := by
            rw [← hrest', trimLeft, List.takeWhile_append_dropWhile]
          have ht : t = t.takeWhile isWord ++
              ((t.dropWhile isWord).takeWhile isBlank ++ '\x7b' :: (body ++ '\x7d' :: after)) := by
            rw [← hrest, ← hblanks, List.takeWhile_append_dropWhile]
          refine ⟨⟨⟨t.takeWhile isWord, body⟩, (t.dropWhile isWord).takeWhile isBlank, hempty.1,
            List.all_eq_true.1 List.all_takeWhile, List.all_eq_true.1 List.all_takeWhile, hempty.2,
            not_mem_of_cut? hcut⟩, rfl, ?_⟩
          simpa [WrittenBlock.text] using ht
      · cases h
    · cases h
  · cases h

theorem blockAt?_eq_some_iff {s after : List Char} {block : Block} :
    blockAt? s = some (block, after) ↔
      ∃ b : WrittenBlock, b.block = block ∧ s = b.text ++ after := by
  constructor
  · exact exists_written_of_blockAt?
  · rintro ⟨b, rfl, rfl⟩
    exact blockAt?_text b after

/-! ## Documents as they are written -/

/-- A part of a document. -/
inductive Part
  | outside (text : List Char) (h : '\x7b' ∉ text)
  | block (b : WrittenBlock)

def Part.text : Part → List Char
  | outside text _ => text
  | block b => b.text

def Part.block? : Part → Option Block
  | outside _ _ => none
  | block b => some b.block

def textOf (parts : List Part) : List Char :=
  parts.flatMap Part.text

/-- Every opening brace comes after an at sign. -/
def IsGuarded (s : List Char) : Prop :=
  ∀ before after, s = before ++ '\x7b' :: after → '@' ∈ before

theorem IsGuarded.append {text s : List Char} (htext : '\x7b' ∉ text) (h : IsGuarded s) :
    IsGuarded (text ++ s) := by
  intro before after heq
  -- The brace stands in the second text, since there is none in the first.
  rcases List.append_eq_append_iff.1 heq with ⟨inner, rfl, hs⟩ | ⟨inner, rfl, hs⟩
  · exact List.mem_append_right _ (h inner after hs)
  · cases inner with
    | nil => exact absurd (h [] after hs.symm) List.not_mem_nil
    | cons c inner =>
        rcases List.cons.inj hs with ⟨rfl, -⟩
        simp at htext

theorem isGuarded_textOf (parts : List Part) : IsGuarded (textOf parts) := by
  induction parts with
  | nil =>
      intro before after h
      simp [textOf] at h
  | cons part rest ih =>
      cases part with
      | outside text htext => exact ih.append htext
      | block b =>
          -- A block begins with the at sign that all its braces come after.
          intro before after h
          cases before with
          | nil => cases h
          | cons c before =>
              rcases List.cons.inj h with ⟨rfl, -⟩
              exact List.mem_cons_self ..

theorem blockAt?_of_isGuarded {s : List Char} (h : IsGuarded s) (c : Char) :
    blockAt? (c :: s) = none := by
  refine Option.eq_none_iff_forall_ne_some.2 ?_
  rintro ⟨block, after⟩ hblock
  rcases exists_written_of_blockAt? hblock with ⟨b, -, heq⟩
  have hs : s = (b.block.name ++ b.blanks) ++ '\x7b' :: (b.block.body ++ '\x7d' :: after) := by
    simpa [WrittenBlock.text] using (List.cons.inj heq).2
  -- The at sign that the brace needs would have to stand in the name or among the blanks.
  rcases List.mem_append.1 (h _ _ hs) with hat | hat
  · have := b.isWord_name _ hat
    rw [isWord_delimiter (by decide)] at this
    cases this
  · have := b.isBlank_blanks _ hat
    exact absurd this (by decide)

/-! ## The blocks that are found -/

theorem blocksOf_of_some {s after : List Char} {block : Block}
    (h : blockAt? s = some (block, after)) : blocksOf s = block :: blocksOf after := by
  cases s with
  | nil => cases h
  | cons c s =>
      rw [blocksOf]
      split
      · rename_i heq
        rw [h] at heq
        cases heq
        rfl
      · rename_i heq
        rw [h] at heq
        cases heq

theorem blocksOf_of_none {c : Char} {s : List Char} (h : blockAt? (c :: s) = none) :
    blocksOf (c :: s) = blocksOf s := by
  rw [blocksOf]
  split
  · rename_i heq
    rw [h] at heq
    cases heq
  · rfl

theorem blocksOf_append_of_isGuarded {text s : List Char} (htext : '\x7b' ∉ text)
    (h : IsGuarded s) : blocksOf (text ++ s) = blocksOf s := by
  induction text with
  | nil => rfl
  | cons c text ih =>
      have hrest : '\x7b' ∉ text := fun hmem => htext (List.mem_cons_of_mem _ hmem)
      rw [List.cons_append, blocksOf_of_none (blockAt?_of_isGuarded (h.append hrest) c)]
      exact ih hrest

theorem blocksOf_textOf (parts : List Part) :
    blocksOf (textOf parts) = parts.filterMap Part.block? := by
  induction parts with
  | nil => rw [textOf, List.flatMap_nil, blocksOf, List.filterMap_nil]
  | cons part rest ih =>
      cases part with
      | outside text htext =>
          calc
            blocksOf (text ++ textOf rest) = blocksOf (textOf rest) :=
              blocksOf_append_of_isGuarded htext (isGuarded_textOf rest)
            _ = rest.filterMap Part.block? := ih
      | block b =>
          calc
            blocksOf (b.text ++ textOf rest) = b.block :: blocksOf (textOf rest) :=
              blocksOf_of_some (blockAt?_text b (textOf rest))
            _ = b.block :: rest.filterMap Part.block? := by rw [ih]

/-! ## What the blocks give -/

/-- The labels of the blocks that have a reader of their own. -/
def ownLabels : List String := ["structure", "validation", "props", "style"]

/-- The body of the last block with a label. -/
def lastBody? (label : String) (blocks : List Block) : Option (List Char) :=
  (blocks.reverse.find? fun block => block.label = label).map Block.body

/-- The labels of the blocks that have no reader of their own, each where it first appears. -/
def otherLabels (blocks : List Block) : List String :=
  ((blocks.map Block.label).filter fun label => label ∉ ownLabels).eraseDups

/-- The specification has read the last block of every label and no other. -/
structure Collects (blocks : List Block) (spec : Spec) : Prop where
  structureBlock : spec.structureBlock = (lastBody? "structure" blocks).map readBody
  rules : spec.rules = (lastBody? "validation" blocks).map readRules
  properties : spec.properties = (lastBody? "props" blocks).map readProperties
  style : spec.style = (lastBody? "style" blocks).map readStyle
  names_otherBlocks : spec.otherBlocks.names = otherLabels blocks
  get?_otherBlocks : ∀ label ∉ ownLabels,
    spec.otherBlocks.get? label = (lastBody? label blocks).map readBody

theorem lastBody?_concat (label : String) (blocks : List Block) (block : Block) :
    lastBody? label (blocks ++ [block]) =
      if block.label = label then some block.body else lastBody? label blocks := by
  by_cases h : block.label = label <;> simp [lastBody?, h]

theorem eraseDups_concat (labels : List String) (label : String) :
    (labels ++ [label]).eraseDups =
      if label ∈ labels.eraseDups then labels.eraseDups else labels.eraseDups ++ [label] := by
  rw [List.eraseDups_append]
  by_cases h : label ∈ labels <;> simp [List.removeAll, List.mem_eraseDups, h, List.eraseDups_cons]

theorem otherLabels_concat (blocks : List Block) (block : Block) :
    otherLabels (blocks ++ [block]) =
      if block.label ∈ ownLabels then otherLabels blocks
      else if block.label ∈ otherLabels blocks then otherLabels blocks
      else otherLabels blocks ++ [block.label] := by
  by_cases hown : block.label ∈ ownLabels
  · simp [otherLabels, hown]
  · have hlast : ([block].map Block.label).filter (fun label => label ∉ ownLabels) =
        [block.label] := by
      simp [hown]
    rw [if_neg hown, otherLabels, List.map_append, List.filter_append, hlast]
    exact eraseDups_concat _ _

section

variable (spec : Spec) (block : Block)

theorem structureBlock_addBlock : (addBlock spec block).structureBlock =
    if block.label = "structure" then some (readBody block.body) else spec.structureBlock := by
  simp only [addBlock, beq_iff_eq]
  split_ifs <;> simp_all

theorem rules_addBlock : (addBlock spec block).rules =
    if block.label = "validation" then some (readRules block.body) else spec.rules := by
  simp only [addBlock, beq_iff_eq]
  split_ifs <;> simp_all

theorem properties_addBlock : (addBlock spec block).properties =
    if block.label = "props" then some (readProperties block.body) else spec.properties := by
  simp only [addBlock, beq_iff_eq]
  split_ifs <;> simp_all

theorem style_addBlock : (addBlock spec block).style =
    if block.label = "style" then some (readStyle block.body) else spec.style := by
  simp only [addBlock, beq_iff_eq]
  split_ifs <;> simp_all

theorem otherBlocks_addBlock : (addBlock spec block).otherBlocks =
    if block.label ∈ ownLabels then spec.otherBlocks
    else spec.otherBlocks.set block.label (readBody block.body) := by
  simp only [addBlock, beq_iff_eq, ownLabels, List.mem_cons, List.not_mem_nil, or_false]
  split_ifs <;> simp_all

theorem metadata_addBlock : (addBlock spec block).metadata = spec.metadata := by
  simp only [addBlock]
  split_ifs <;> rfl

theorem requirements_addBlock : (addBlock spec block).requirements = spec.requirements := by
  simp only [addBlock]
  split_ifs <;> rfl

theorem recommendations_addBlock :
    (addBlock spec block).recommendations = spec.recommendations := by
  simp only [addBlock]
  split_ifs <;> rfl

end

/-- What no block changes is as it was before the first. -/
theorem foldl_addBlock_of_kept {α : Type} {part : Spec → α}
    (h : ∀ spec block, part (addBlock spec block) = part spec) (blocks : List Block) (spec : Spec) :
    part (blocks.foldl addBlock spec) = part spec := by
  induction blocks generalizing spec with
  | nil => rfl
  | cons block rest ih =>
      rw [List.foldl_cons, ih]
      exact h spec block

theorem metadata_read (document : List Char) : (read document).metadata = readMetadata document :=
  foldl_addBlock_of_kept metadata_addBlock _ _

theorem requirements_read (document : List Char) :
    (read document).requirements = (readSections document).requirements :=
  foldl_addBlock_of_kept requirements_addBlock _ _

theorem recommendations_read (document : List Char) :
    (read document).recommendations = (readSections document).recommendations :=
  foldl_addBlock_of_kept recommendations_addBlock _ _

theorem Collects.concat {blocks : List Block} {spec : Spec} (h : Collects blocks spec)
    (block : Block) : Collects (blocks ++ [block]) (addBlock spec block) where
  structureBlock := by
    rw [structureBlock_addBlock, lastBody?_concat, h.structureBlock]
    split <;> rfl
  rules := by
    rw [rules_addBlock, lastBody?_concat, h.rules]
    split <;> rfl
  properties := by
    rw [properties_addBlock, lastBody?_concat, h.properties]
    split <;> rfl
  style := by
    rw [style_addBlock, lastBody?_concat, h.style]
    split <;> rfl
  names_otherBlocks := by
    rw [otherBlocks_addBlock, otherLabels_concat]
    split
    · exact h.names_otherBlocks
    · rw [Fields.names_set, h.names_otherBlocks]
  get?_otherBlocks := by
    intro label hlabel
    rw [otherBlocks_addBlock, lastBody?_concat]
    split
    · rename_i hown
      have hne : block.label ≠ label := by
        rintro rfl
        exact hlabel hown
      rw [if_neg hne]
      exact h.get?_otherBlocks label hlabel
    · rw [Fields.get?_set, h.get?_otherBlocks label hlabel]
      split <;> rfl

theorem Collects.foldl {blocks : List Block} {spec : Spec} (h : Collects blocks spec)
    (others : List Block) : Collects (blocks ++ others) (others.foldl addBlock spec) := by
  induction others generalizing blocks spec with
  | nil => simpa using h
  | cons block others ih => simpa using ih (h.concat block)

theorem collects_read (document : List Char) :
    Collects (blocksOf document) (read document) := by
  have hstart : Collects [] {
      metadata := readMetadata document
      requirements := (readSections document).requirements
      recommendations := (readSections document).recommendations } := by
    constructor <;> simp [lastBody?, otherLabels, Fields.names, Fields.get?]
  exact hstart.foldl (blocksOf document)

theorem read_textOf (parts : List Part) :
    blocksOf (textOf parts) = parts.filterMap Part.block? ∧
      Collects (parts.filterMap Part.block?) (Spec.ofDocument (String.ofList (textOf parts))) := by
  have hblocks := blocksOf_textOf parts
  refine ⟨hblocks, ?_⟩
  rw [Spec.ofDocument, String.toList_ofList, ← hblocks]
  exact collects_read (textOf parts)

end Spec
end ComponentSpec
