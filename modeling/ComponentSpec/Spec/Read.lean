import ComponentSpec.Spec.Blocks
import ComponentSpec.Spec.Properties
import ComponentSpec.Spec.Rules
import ComponentSpec.Spec.Sections
import ComponentSpec.Spec.Style

/-!
# Reading a specification

A document is read three times over: for its metadata, for its blocks, and line by line for its
requirements and recommendations.  Every text is a document; what has no meaning is passed over.
-/

namespace ComponentSpec
namespace Spec

open Text

/-! ## Metadata -/

/-- The word after a keyword. -/
def wordAt? (keyword : List Char) (s : List Char) : Option (List Char) :=
  match List.isPrefixOf? keyword s with
  | none => none
  | some rest =>
      let word := (trimLeft rest).takeWhile isWord
      if word.isEmpty then none else some word

/-- The text between double quotes after a keyword. -/
def quotationAt? (keyword : List Char) (s : List Char) : Option (List Char) :=
  match List.isPrefixOf? keyword s with
  | none => none
  | some rest =>
      match trimLeft rest with
      | '"' :: rest =>
          match cut? '"' rest with
          | some (text, _) => if text.isEmpty then none else some text
          | none => none
      | _ => none

/-- The first result of a reader in a document. -/
def firstText (read? : List Char → Option (List Char)) (document : List Char) : Option String :=
  (search read? document).map fun (_, text) => String.ofList text

/-- The metadata of a document. -/
def readMetadata (document : List Char) : Metadata :=
  { name := (firstText (wordAt? "Component:".toList) document).getD "Component"
    description := firstText (quotationAt? "Description:".toList) document
    category := firstText (quotationAt? "Category:".toList) document }

/-! ## Blocks -/

/-- The name of a block in small letters. -/
def Block.label (block : Block) : String :=
  String.ofList (smalls block.name)

/-- Adds a block to a specification.  A block of the same name that came before is replaced. -/
def addBlock (spec : Spec) (block : Block) : Spec :=
  let label := block.label
  if label == "structure" then { spec with structureBlock := some (readBody block.body) }
  else if label == "validation" then { spec with rules := some (readRules block.body) }
  else if label == "props" then { spec with properties := some (readProperties block.body) }
  else if label == "style" then { spec with style := some (readStyle block.body) }
  else { spec with otherBlocks := spec.otherBlocks.set label (readBody block.body) }

/-- The specification in a document. -/
def read (document : List Char) : Spec :=
  let sections := readSections document
  (blocksOf document).foldl addBlock
    { metadata := readMetadata document
      requirements := sections.requirements
      recommendations := sections.recommendations }

end Spec

/-- The specification in a document. -/
def Spec.ofDocument (document : String) : Spec :=
  Spec.read document.toList

end ComponentSpec
