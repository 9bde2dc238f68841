import ComponentSpec.Proofs.Spec.Segmentation
import ComponentSpec.Proofs.Text.LineEnds

/-!
# Line ends of documents

A document may end its lines with a line feed or with a carriage return and a line feed.  The reader
takes the same blocks from it, and from each block the same entries, because it looks at trimmed
lines and at their indentation only.  The only texts that keep the line ends of the document are the
quoted ones of the metadata.

Main statements: the blocks of a document (`blocksOf_withReturns`), the entries of a block
(`foldl_significantLines_withReturns`), and the whole specification (`ofDocument_withReturns`).
-/

namespace ComponentSpec

/-- The text with a carriage return before each line feed. -/
def textWithReturns (s : String) : String :=
  String.ofList (Text.withReturns s.toList)

example : textWithReturns "props:\n\nname\n" = "props:\r\n\r\nname\r\n" := by decide

/-- The metadata with new line ends in the quoted texts. -/
def Metadata.withReturns (metadata : Metadata) : Metadata where
  name := metadata.name
  description := metadata.description.map textWithReturns
  category := metadata.category.map textWithReturns

namespace Spec

open Text

/-! ## Metadata -/

section

variable {keyword : List Char}

theorem wordAt?_withReturns (hreturn : '\r' ∉ keyword) (hnewline : '\n' ∉ keyword)
    (s : List Char) : wordAt? keyword (withReturns s) = wordAt? keyword s := by
  rw [wordAt?, wordAt?, isPrefixOf?_withReturns hreturn hnewline]
  cases List.isPrefixOf? keyword s with
  | none => rfl
  | some rest =>
      dsimp only [Option.map_some]
      rw [trimLeft_withReturns, takeWhile_isWord_withReturns]

/-- The reader of quotations as a chain of scanners. -/
theorem quotationAt?_eq (s : List Char) :
    quotationAt? keyword s =
      (List.isPrefixOf? keyword s).bind fun rest =>
        (List.isPrefixOf? ['"'] (trimLeft rest)).bind fun rest =>
          (cut? '"' rest).bind fun (text, _) => if text.isEmpty then none else some text := by
  unfold quotationAt?
  cases List.isPrefixOf? keyword s with
  | none => rfl
  | some rest =>
      dsimp only [Option.bind_some]
      split
      · rename_i text hquote
        rw [hquote, isPrefixOf?_mark_cons, Option.bind_some]
        cases cut? '"' text <;> rfl
      · rename_i hquote
        rw [isPrefixOf?_mark_eq_none hquote]
        rfl

theorem quotationAt?_withReturns (hreturn : '\r' ∉ keyword) (hnewline : '\n' ∉ keyword)
    (s : List Char) :
    quotationAt? keyword (withReturns s) = (quotationAt? keyword s).map withReturns := by
  rw [quotationAt?_eq, quotationAt?_eq, isPrefixOf?_withReturns hreturn hnewline]
  cases List.isPrefixOf? keyword s with
  | none => rfl
  | some rest =>
      dsimp only [Option.map_some, Option.bind_some]
      rw [trimLeft_withReturns, isPrefixOf?_withReturns (by decide) (by decide)]
      cases List.isPrefixOf? ['"'] (trimLeft rest) with
      | none => rfl
      | some rest =>
          dsimp only [Option.map_some, Option.bind_some]
          rw [cut?_withReturns (by decide) (by decide)]
          cases cut? '"' rest with
          | none => rfl
          | some parts =>
              dsimp only [Option.map_some, Option.bind_some]
              rw [isEmpty_withReturns]
              split <;> rfl

end

theorem firstText_withReturns {read? : List Char → Option (List Char)}
    {g : List Char → List Char} (hread : ∀ s, read? (withReturns s) = (read? s).map g)
    (hnewline : ∀ s, read? ('\n' :: s) = none) (document : List Char) :
    firstText read? (withReturns document) =
      (firstText read? document).map fun text => String.ofList (g text.toList) := by
  simp [firstText, search_withReturns hread hnewline, Function.comp_def]

theorem readMetadata_withReturns (document : List Char) :
    readMetadata (withReturns document) = (readMetadata document).withReturns := by
  have hword : ∀ s, wordAt? "Component:".toList (withReturns s) =
      (wordAt? "Component:".toList s).map id := by
    intro s
    rw [Option.map_id_fun, id, wordAt?_withReturns (by decide) (by decide)]
  have hdescription : ∀ s, quotationAt? "Description:".toList (withReturns s) =
      (quotationAt? "Description:".toList s).map withReturns :=
    quotationAt?_withReturns (by decide) (by decide)
  have hcategory : ∀ s, quotationAt? "Category:".toList (withReturns s) =
      (quotationAt? "Category:".toList s).map withReturns :=
    quotationAt?_withReturns (by decide) (by decide)
  rw [readMetadata, firstText_withReturns hword (fun _ => rfl),
    firstText_withReturns hdescription (fun _ => rfl),
    firstText_withReturns hcategory (fun _ => rfl)]
  simp only [id, String.ofList_toList, Option.map_id']
  rfl

/-! ## Blocks -/

def Block.withReturns (block : Block) : Block :=
  { block with body := Text.withReturns block.body }

/-- The reader of blocks as a chain of scanners. -/
theorem blockAt?_eq (s : List Char) :
    blockAt? s =
      (List.isPrefixOf? ['@'] s).bind fun s =>
        (List.isPrefixOf? ['\x7b'] (trimLeft (s.dropWhile isWord))).bind fun rest =>
          (cut? '\x7d' rest).bind fun (body, after) =>
            if (s.takeWhile isWord).isEmpty || body.isEmpty then none
            else some (⟨s.takeWhile isWord, body⟩, after) := by
  unfold blockAt?
  split
  · rename_i s
    rw [isPrefixOf?_mark_cons, Option.bind_some]
    dsimp only
    split
    · rename_i rest hbrace
      rw [hbrace, isPrefixOf?_mark_cons, Option.bind_some]
      cases cut? '\x7d' rest <;> rfl
    · rename_i hbrace
      rw [isPrefixOf?_mark_eq_none hbrace]
      rfl
  · rename_i hat
    rw [isPrefixOf?_mark_eq_none hat]
    rfl

theorem blockAt?_withReturns (s : List Char) :
    blockAt? (withReturns s) =
      (blockAt? s).map fun (block, after) => (block.withReturns, Text.withReturns after) := by
  rw [blockAt?_eq, blockAt?_eq, isPrefixOf?_withReturns (by decide) (by decide)]
  cases List.isPrefixOf? ['@'] s with
  | none => rfl
  | some s =>
      dsimp only [Option.map_some, Option.bind_some]
      rw [takeWhile_isWord_withReturns, dropWhile_isWord_withReturns, trimLeft_withReturns,
        isPrefixOf?_withReturns (by decide) (by decide)]
      cases List.isPrefixOf? ['\x7b'] (trimLeft (s.dropWhile isWord)) with
      | none => rfl
      | some rest =>
          dsimp only [Option.map_some, Option.bind_some]
          rw [cut?_withReturns (by decide) (by decide)]
          cases cut? '\x7d' rest with
          | none => rfl
          | some parts =>
              dsimp only [Option.map_some, Option.bind_some]
              rw [isEmpty_withReturns]
              split <;> rfl

theorem blocksOf_withReturns (document : List Char) :
    blocksOf (withReturns document) = (blocksOf document).map Block.withReturns := by
  induction document using blocksOf.induct with
  | case1 => rw [withReturns, List.flatMap_nil, blocksOf, List.map_nil]
  | case2 c s block after hfound ih =>
      have hnew := blockAt?_withReturns (c :: s)
      rw [hfound, Option.map_some] at hnew
      rw [blocksOf_of_some hnew, blocksOf_of_some hfound, List.map_cons, ih]
  | case3 c s hnone ih =>
      have hnew := blockAt?_withReturns (c :: s)
      rw [hnone, Option.map_none] at hnew
      rw [blocksOf_of_none hnone, ← ih]
      by_cases hc : c = '\n'
      · subst hc
        -- There are two characters to go past, and no block begins at either.
        rw [withReturns_newline] at hnew ⊢
        rw [blocksOf_of_none hnew, blocksOf_of_none rfl]
      · rw [withReturns_cons hc] at hnew ⊢
        exact blocksOf_of_none hnew

/-! ## Entries of blocks -/

/-- A reader of lines that looks at their content only. -/
def ReadsContent {σ : Type} (readLine : σ → List Char → σ) : Prop :=
  ∀ st line other, trim line = trim other → indentation line = indentation other →
    readLine st line = readLine st other

/-- Whether a line is neither blank nor a comment. -/
def isSignificant (line : List Char) : Bool :=
  match trim line with
  | [] => false
  | c :: _ => c != '#'

theorem significantLines_eq (body : List Char) :
    significantLines body = (lines (trim body)).filter isSignificant :=
  rfl

theorem trim_ne_nil_of_isSignificant {line : List Char} (h : isSignificant line = true) :
    trim line ≠ [] := by
  intro hnil
  rw [isSignificant, hnil] at h
  cases h

/-- Lines of the same content are read alike: a significant line keeps its indentation too, because
something comes after it. -/
theorem foldl_isSignificant_congr {σ : Type} {readLine : σ → List Char → σ}
    (h : ReadsContent readLine) {given others : List (List Char)}
    (hlines : List.Forall₂ SameContent given others) (st : σ) :
    (given.filter isSignificant).foldl readLine st =
      (others.filter isSignificant).foldl readLine st := by
  induction hlines generalizing st with
  | nil => rfl
  | @cons line other _ _ hline _ ih =>
      have hboth : isSignificant line = isSignificant other := by
        rw [isSignificant, isSignificant, hline.trim_eq]
      rw [List.filter_cons, List.filter_cons, hboth]
      split
      · rename_i hother
        have hindent := hline.indentation_eq (trim_ne_nil_of_isSignificant hother)
        rw [List.foldl_cons, List.foldl_cons, h st line other hline.trim_eq hindent]
        exact ih _
      · exact ih st

theorem foldl_significantLines_withReturns {σ : Type} {readLine : σ → List Char → σ}
    (h : ReadsContent readLine) (body : List Char) (st : σ) :
    (significantLines (withReturns body)).foldl readLine st =
      (significantLines body).foldl readLine st := by
  rw [significantLines_eq, significantLines_eq, trim_withReturns]
  exact foldl_isSignificant_congr h (lines_withReturns (trim body)) st

theorem readsContent_bodyLine : ReadsContent BodyState.readLine := by
  intro st line other htrim hindent
  have hnamed : namedValue? line = namedValue? other := by
    rw [namedValue?, namedValue?, htrim]
  unfold BodyState.readLine BodyState.readNested BodyState.readOuter
  rw [hnamed, hindent]

theorem readsContent_readRule : ReadsContent readRule := by
  intro rules line other htrim _
  rw [readRule, readRule, namedValue?, namedValue?, htrim]

theorem readBody_withReturns (body : List Char) : readBody (withReturns body) = readBody body :=
  congrArg BodyState.entries (foldl_significantLines_withReturns readsContent_bodyLine body {})

theorem readRules_withReturns (body : List Char) : readRules (withReturns body) = readRules body :=
  foldl_significantLines_withReturns readsContent_readRule body []

theorem readProperties_withReturns (body : List Char) :
    readProperties (withReturns body) = readProperties body := by
  refine foldl_significantLines_withReturns ?_ body []
  intro properties line other htrim _
  dsimp only
  rw [htrim]

theorem readStyle_withReturns (body : List Char) :
    readStyle (withReturns body) = readStyle body := by
  rw [readStyle, readStyle, readBody_withReturns]

theorem addBlock_withReturns (spec : Spec) (block : Block) :
    addBlock spec block.withReturns = addBlock spec block := by
  have hlabel : block.withReturns.label = block.label := rfl
  have hbody : block.withReturns.body = withReturns block.body := rfl
  simp only [addBlock, hlabel, hbody, readBody_withReturns, readRules_withReturns,
    readProperties_withReturns, readStyle_withReturns]

/-! ## Sections -/

theorem readSections_withReturns (document : List Char) :
    readSections (withReturns document) = readSections document := by
  have hlines := lines_withReturns document
  unfold readSections
  generalize lines (withReturns document) = changed at hlines ⊢
  generalize lines document = kept at hlines ⊢
  generalize ({} : SectionState) = st
  induction hlines generalizing st with
  | nil => rfl
  | cons hline _ ih =>
      have hread : ∀ line other, SameContent line other → st.readLine line = st.readLine other := by
        intro line other h
        rw [SectionState.readLine, SectionState.readLine, h.trim_eq]
      rw [List.foldl_cons, List.foldl_cons, hread _ _ hline]
      exact ih _

/-! ## Documents -/

theorem foldl_addBlock_withReturns (blocks : List Block) (spec : Spec) (metadata : Metadata) :
    (blocks.map Block.withReturns).foldl addBlock { spec with metadata } =
      { blocks.foldl addBlock spec with metadata } := by
  induction blocks generalizing spec with
  | nil => rfl
  | cons block blocks ih =>
      have hblock : addBlock { spec with metadata } block =
          { addBlock spec block with metadata } := by
        unfold addBlock
        dsimp only
        split_ifs <;> rfl
      rw [List.map_cons, List.foldl_cons, addBlock_withReturns, hblock]
      exact ih _

theorem read_withReturns (document : List Char) :
    read (withReturns document) =
      { read document with metadata := readMetadata (withReturns document) } := by
  have hblocks := foldl_addBlock_withReturns (blocksOf document) {
      metadata := readMetadata document
      requirements := (readSections document).requirements
      recommendations := (readSections document).recommendations }
    (readMetadata (withReturns document))
  unfold read
  rw [blocksOf_withReturns, readSections_withReturns]
  exact hblocks

theorem textWithReturns_of_not_mem {s : String} (h : '\n' ∉ s.toList) : textWithReturns s = s := by
  rw [textWithReturns, withReturns_of_not_mem h, String.ofList_toList]

/-- The specification does not depend on the line ends of the document, except for the line ends in
quoted texts. -/
theorem ofDocument_withReturns (document : String) :
    ofDocument (textWithReturns document) =
        { ofDocument document with metadata := (ofDocument document).metadata.withReturns } ∧
      ∀ quoted : String, '\n' ∉ quoted.toList →
        ((ofDocument document).metadata.description = some quoted →
          (ofDocument (textWithReturns document)).metadata.description = some quoted) ∧
        ((ofDocument document).metadata.category = some quoted →
          (ofDocument (textWithReturns document)).metadata.category = some quoted) := by
  have hread : ofDocument (textWithReturns document) =
      { ofDocument document with metadata := (ofDocument document).metadata.withReturns } := by
    unfold ofDocument
    rw [textWithReturns, String.toList_ofList, read_withReturns, readMetadata_withReturns,
      metadata_read]
  refine ⟨hread, ?_⟩
  intro quoted hquoted
  rw [hread]
  refine ⟨?_, ?_⟩
  · intro hdescription
    rw [Metadata.withReturns, hdescription, Option.map_some, textWithReturns_of_not_mem hquoted]
  · intro hcategory
    rw [Metadata.withReturns, hcategory, Option.map_some, textWithReturns_of_not_mem hquoted]

end Spec
end ComponentSpec
