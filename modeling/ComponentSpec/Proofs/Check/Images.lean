import ComponentSpec.Proofs.Check.Answers
import ComponentSpec.Proofs.Element.Descendants
import ComponentSpec.Proofs.Element.Insertion
import ComponentSpec.Proofs.Text.Occurrence
import Mathlib.Data.List.Nodup

/-!
# The defects of images

The check of images numbers the images below an element in document order and reports what is wrong
with each of them.  A defect is a property of one image, and what the check reports is a list of
numbered defects, each written as a text that begins with the number.

The list is ordered by the number and then by the defect, so it has no repetitions, and neither has
the list of texts, because a text determines both.  An element that is appended to the tree has its
images after all others, so that what was reported stays as it was.

Main statements: the issues of one image are its defects (`imageIssues_eq`), a defect is
numbered where it is (`mem_numberedDefects_iff`), and the laws of what is reported (`imageLaws`).
-/

namespace ComponentSpec
namespace Check

open Text Element

/-! ## Defects -/

/-- A defect of an image. -/
inductive ImageDefect
  | undescribed
  | eager
  | unsized
  | outdated
  deriving DecidableEq, Repr

/-- An attribute is missing if it is absent or empty. -/
def Misses (image : Element) (name : String) : Prop :=
  image.attribute? name = none ∨ image.attribute? name = some ""

namespace ImageDefect

/-- What it is for an image to have the defect. -/
def IsIn (image : Element) : ImageDefect → Prop
  | undescribed => image.attribute? "alt" = none
  | eager => Misses image "loading"
  | unsized => Misses image "width" ∨ Misses image "height"
  | outdated => ∃ src, image.attribute? "src" = some src ∧ src ≠ "" ∧
      ∀ format ∈ ["webp", "avif"], ¬ format.toList <:+: src.toList

/-- How the defect is called. -/
def wording : ImageDefect → String
  | undescribed => "Missing alt attribute"
  | eager => "Missing loading=\"lazy\""
  | unsized => "Missing width/height attributes"
  | outdated => "Consider modern formats (WebP/AVIF)"

/-- The place of the defect in the order of the defects of one image. -/
def rank : ImageDefect → Nat
  | undescribed => 0
  | eager => 1
  | unsized => 2
  | outdated => 3

/-- All defects in order. -/
def all : List ImageDefect :=
  [undescribed, eager, unsized, outdated]

theorem mem_all (defect : ImageDefect) : defect ∈ all := by
  cases defect <;> decide

theorem pairwise_all : all.Pairwise fun a b => a.rank < b.rank := by
  decide

theorem wording_injective {a b : ImageDefect} (h : a.wording = b.wording) : a = b := by
  have hdistinct : (all.map wording).Nodup := by decide
  exact List.inj_on_of_nodup_map hdistinct a.mem_all b.mem_all h

end ImageDefect

/-- A defect of the image with a certain number. -/
abbrev NumberedDefect := Nat × ImageDefect

namespace NumberedDefect

/-- The text that reports the defect. -/
def note (found : NumberedDefect) : String :=
  "Image " ++ toString found.1 ++ ": " ++ found.2.wording

/-- The order in which defects are reported: by image, and for one image by defect. -/
def Precedes (a b : NumberedDefect) : Prop :=
  a.1 < b.1 ∨ a.1 = b.1 ∧ a.2.rank < b.2.rank

theorem Precedes.ne {a b : NumberedDefect} (h : Precedes a b) : a ≠ b := by
  rintro rfl
  unfold Precedes at h
  omega

/-- A text reports one defect of one image. -/
theorem note_injective {a b : NumberedDefect} (h : a.note = b.note) : a = b := by
  -- The number is what stands before the colon.
  have hcut : ∀ found : NumberedDefect, cut? ':' found.note.toList =
      some ("Image ".toList ++ Nat.toDigits 10 found.1, ' ' :: found.2.wording.toList) := by
    intro found
    have htext : found.note.toList =
        ("Image ".toList ++ Nat.toDigits 10 found.1) ++ ':' :: ' ' :: found.2.wording.toList := by
      simp [note]
    rw [htext]
    refine cut?_append ?_ _
    rw [List.mem_append, not_or]
    refine ⟨by decide, fun hcolon => ?_⟩
    exact absurd (Nat.isDigit_of_mem_toDigits (by decide) (by decide) hcolon) (by decide)
  have hparts := hcut b
  rw [← h, hcut a] at hparts
  simp only [Option.some.injEq, Prod.mk.injEq, List.append_cancel_left_eq, List.cons.injEq,
    true_and] at hparts
  have hnumber : a.1 = b.1 := by
    rw [← Nat.ofDigitChars_toDigits (b := 10) (n := a.1) (by decide) (by decide), hparts.1,
      Nat.ofDigitChars_toDigits (by decide) (by decide)]
  have hdefect : a.2 = b.2 := ImageDefect.wording_injective (String.toList_injective hparts.2)
  exact Prod.ext hnumber hdefect

end NumberedDefect

/-! ## The issues of one image -/

theorem isGiven_eq_false_iff (image : Element) (name : String) :
    isGiven (image.attribute? name) = false ↔ Misses image name := by
  unfold Misses
  cases image.attribute? name with
  | none => exact iff_of_true rfl (.inl rfl)
  | some s => simp [isGiven]

/-- Whether an image has a source in no modern format, as the check finds out. -/
theorem outdated_iff {image : Element} :
    (!((image.attribute? "src").getD "").isEmpty && !modernFormats.any fun format =>
      occurs format.toList ((image.attribute? "src").getD "").toList) = true ↔
        ImageDefect.outdated.IsIn image := by
  unfold ImageDefect.IsIn
  cases image.attribute? "src" with
  | none => exact iff_of_false Bool.false_ne_true nofun
  | some src =>
      simp [modernFormats, ← occurs_iff]

instance (image : Element) : (defect : ImageDefect) → Decidable (defect.IsIn image)
  | .undescribed => decidable_of_iff _ Option.isNone_iff_eq_none
  | .eager => decidable_of_iff _ (isGiven_eq_false_iff image "loading")
  | .unsized =>
      decidable_of_iff _ (or_congr (isGiven_eq_false_iff image "width")
        (isGiven_eq_false_iff image "height"))
  | .outdated => decidable_of_iff _ outdated_iff

/-- The defects of an image in order. -/
def defectsOf (image : Element) : List ImageDefect :=
  ImageDefect.all.filter fun defect => decide (defect.IsIn image)

theorem mem_defectsOf_iff {image : Element} {defect : ImageDefect} :
    defect ∈ defectsOf image ↔ defect.IsIn image := by
  rw [defectsOf, List.mem_filter, decide_eq_true_iff]
  exact and_iff_right defect.mem_all

/-- A defect that was looked for is reported if it is there. -/
theorem ite_note_eq {image : Element} {defect : ImageDefect} {seen : Bool}
    (h : seen = true ↔ defect.IsIn image) (index : Nat) :
    (if seen then [NumberedDefect.note (index, defect)] else []) =
      ([defect].filter fun defect => decide (defect.IsIn image)).map fun defect =>
        NumberedDefect.note (index, defect) := by
  by_cases hdefect : defect.IsIn image
  · simp [h.2 hdefect, hdefect]
  · simp [mt h.1 hdefect, hdefect]

theorem imageIssues_eq (index : Nat) (image : Element) :
    imageIssues index image =
      (defectsOf image).map fun defect => NumberedDefect.note (index, defect) := by
  have hall : ImageDefect.all = [ImageDefect.undescribed] ++ [ImageDefect.eager] ++
      [ImageDefect.unsized] ++ [ImageDefect.outdated] := rfl
  have hundescribed : (image.attribute? "alt").isNone = true ↔
      ImageDefect.undescribed.IsIn image := Option.isNone_iff_eq_none
  have heager : (!isGiven (image.attribute? "loading")) = true ↔ ImageDefect.eager.IsIn image := by
    rw [Bool.not_eq_true', isGiven_eq_false_iff]
    rfl
  have hunsized : (!isGiven (image.attribute? "width") || !isGiven (image.attribute? "height")) =
      true ↔ ImageDefect.unsized.IsIn image := by
    rw [Bool.or_eq_true, Bool.not_eq_true', Bool.not_eq_true', isGiven_eq_false_iff,
      isGiven_eq_false_iff]
    rfl
  rw [defectsOf, hall]
  simp only [List.filter_append, List.map_append]
  rw [← ite_note_eq hundescribed index, ← ite_note_eq heager index,
    ← ite_note_eq hunsized index, ← ite_note_eq outdated_iff index]
  rfl

/-! ## The issues of all images -/

/-- The defects of several images in order, the first of which has the number `index`. -/
def numberedDefects (index : Nat) (images : List Element) : List NumberedDefect :=
  (images.zipIdx index).flatMap fun (image, i) => (defectsOf image).map fun defect => (i, defect)

theorem numberedDefects_cons (index : Nat) (image : Element) (images : List Element) :
    numberedDefects index (image :: images) =
      ((defectsOf image).map fun defect => (index, defect)) ++
        numberedDefects (index + 1) images := by
  rw [numberedDefects, List.zipIdx_cons, List.flatMap_cons]
  rfl

theorem numberedDefects_append (index : Nat) (images more : List Element) :
    numberedDefects index (images ++ more) =
      numberedDefects index images ++ numberedDefects (index + images.length) more := by
  simp only [numberedDefects, List.zipIdx_append, List.flatMap_append]

theorem issuesFrom_eq (index : Nat) (images : List Element) :
    issuesFrom index images = (numberedDefects index images).map NumberedDefect.note := by
  induction images generalizing index with
  | nil => rfl
  | cons image images ih =>
      rw [issuesFrom, ih, imageIssues_eq, numberedDefects_cons, List.map_append, List.map_map]
      rfl

theorem mem_numberedDefects_iff {images : List Element} {i : Nat} {defect : ImageDefect} :
    (i, defect) ∈ numberedDefects 0 images ↔
      ∃ image, images[i]? = some image ∧ defect.IsIn image := by
  simp only [numberedDefects, List.mem_flatMap, List.mem_map, Prod.mk.injEq, Prod.exists]
  constructor
  · rintro ⟨image, i', himage, defect', hdefect, rfl, rfl⟩
    exact ⟨image, List.mem_zipIdx_iff_getElem?.1 himage, mem_defectsOf_iff.1 hdefect⟩
  · rintro ⟨image, himage, hdefect⟩
    exact ⟨image, i, List.mem_zipIdx_iff_getElem?.2 himage, defect, mem_defectsOf_iff.2 hdefect,
      rfl, rfl⟩

theorem pairwise_numberedDefects (index : Nat) (images : List Element) :
    (numberedDefects index images).Pairwise NumberedDefect.Precedes := by
  have hnumbers : (images.zipIdx index).Pairwise fun a b => a.2 < b.2 := by
    rw [← List.pairwise_map, List.zipIdx_map_snd]
    exact List.pairwise_lt_range' 1
  rw [numberedDefects, List.pairwise_flatMap]
  constructor
  · rintro ⟨image, i⟩ -
    rw [List.pairwise_map]
    exact (ImageDefect.pairwise_all.filter _).imp fun hrank => .inr ⟨rfl, hrank⟩
  · refine hnumbers.imp fun {a b} hlt x hx y hy => .inl ?_
    rcases List.mem_map.1 hx with ⟨_, -, rfl⟩
    rcases List.mem_map.1 hy with ⟨_, -, rfl⟩
    exact hlt

/-! ## What is reported -/

/-- The issues that an outcome reports, none if it does not speak of issues. -/
def reportedIssues (outcome : Outcome) : List Datum :=
  match outcome.detail? "issues" with
  | some (.list issues) => issues
  | _ => []

variable {e : Element} {rule : Datum}

theorem reportedIssues_imageOptimization :
    reportedIssues (imageOptimization e rule) =
      (numberedDefects 0 (imagesOf e)).map fun found => .text found.note := by
  unfold imageOptimization
  dsimp only
  cases imagesOf e with
  | nil => rfl
  | cons image images =>
      rw [issuesFrom_eq]
      exact List.map_map

theorem passed_imageOptimization :
    (imageOptimization e rule).passed = (numberedDefects 0 (imagesOf e)).isEmpty := by
  unfold imageOptimization
  dsimp only
  cases imagesOf e with
  | nil => rfl
  | cons image images =>
      rw [issuesFrom_eq]
      exact List.isEmpty_map

theorem imagesOf_withLastChild (e s : Element) :
    ∃ more, imagesOf (e.withLastChild s) = imagesOf e ++ more := by
  rw [imagesOf, imagesOf, descendants_withLastChild, List.filter_append]
  exact ⟨_, rfl⟩

/-- What the check of images reports. -/
structure ImageLaws (e : Element) (rule : Datum) : Prop where
  /-- Every image below the element has a number, however deep it is. -/
  images : ∀ image, image ∈ imagesOf e ↔ Below (fun _ => True) image e ∧ image.tagName = "IMG"
  /-- The issues are the defects of the images, each once, in order. -/
  issues : ∃ defects : List NumberedDefect,
    (∀ i defect, (i, defect) ∈ defects ↔
      ∃ image, (imagesOf e)[i]? = some image ∧ defect.IsIn image) ∧
        defects.Pairwise NumberedDefect.Precedes ∧
          reportedIssues (imageOptimization e rule) =
            defects.map fun found => .text found.note
  nodup : (reportedIssues (imageOptimization e rule)).Nodup
  passed : (imageOptimization e rule).passed = true ↔
    ∀ image ∈ imagesOf e, ∀ defect : ImageDefect, ¬ defect.IsIn image
  /-- A child that is appended adds its issues at the end. -/
  appended : ∀ s, reportedIssues (imageOptimization e rule) <+:
    reportedIssues (imageOptimization (e.withLastChild s) rule)

theorem imageLaws (e : Element) (rule : Datum) : ImageLaws e rule where
  images := by
    intro image
    rw [below_iff_mem_descendants, imagesOf, List.mem_filter, beq_iff_eq]
  issues := ⟨numberedDefects 0 (imagesOf e), fun _ _ => mem_numberedDefects_iff,
    pairwise_numberedDefects 0 _, reportedIssues_imageOptimization⟩
  nodup := by
    have hdistinct : (numberedDefects 0 (imagesOf e)).Nodup :=
      (pairwise_numberedDefects 0 _).imp NumberedDefect.Precedes.ne
    rw [reportedIssues_imageOptimization]
    refine hdistinct.map fun a b hab => ?_
    exact NumberedDefect.note_injective (Datum.text.inj hab)
  passed := by
    rw [passed_imageOptimization, List.isEmpty_iff, List.eq_nil_iff_forall_not_mem]
    constructor
    · intro hnone image himage defect hdefect
      rcases List.mem_iff_getElem?.1 himage with ⟨i, hi⟩
      exact hnone (i, defect) (mem_numberedDefects_iff.2 ⟨image, hi, hdefect⟩)
    · rintro hsound ⟨i, defect⟩ hfound
      rcases mem_numberedDefects_iff.1 hfound with ⟨image, himage, hdefect⟩
      exact hsound image (List.mem_of_getElem? himage) defect hdefect
  appended := by
    intro s
    rcases imagesOf_withLastChild e s with ⟨more, hmore⟩
    rw [reportedIssues_imageOptimization, reportedIssues_imageOptimization, hmore,
      numberedDefects_append, List.map_append]
    exact List.prefix_append _ _

end Check
end ComponentSpec
