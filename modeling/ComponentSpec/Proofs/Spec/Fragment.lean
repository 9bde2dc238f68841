import ComponentSpec.Proofs.Spec.Segmentation
import ComponentSpec.Proofs.Value.Form

/-!
# What is read stands in the document

Reading cuts a document into pieces and trims them; it never joins pieces or adds characters.  So a
text that a value holds is a fragment of the token that was read, and a text in the parameter of a
rule is a fragment of the document.

Main statements: the texts of a value stand in its token (`infix_of_read`), and the texts of the
rules stand in the document (`infix_of_mem_rules`).
-/

namespace ComponentSpec

/-! ## Texts of values -/

namespace Value

open Text

/-- A value has a text if it is the text or holds it somewhere inside, as a value. -/
inductive HasText (t : String) : Value → Prop
  | text : HasText t (.text t)
  | item {items : List Value} {v : Value} (hmem : v ∈ items) (h : HasText t v) :
      HasText t (.list items)
  | field {fields : List (String × Value)} {name : String} {v : Value}
      (hmem : (name, v) ∈ fields) (h : HasText t v) : HasText t (.object fields)
  | operand {relation : Relation} {v : Value} (h : HasText t v) :
      HasText t (.comparison relation v)

theorem HasText.inside {t : String} {v : Value} (h : v.HasText t) : Inside (.text t) v := by
  induction h with
  | text => exact .self
  | item hmem _ ih => exact .item hmem ih
  | field hmem _ ih => exact .field hmem ih
  | operand _ ih => exact .operand ih

/-- A text that a value has stands in the token that was read. -/
theorem infix_of_read {s : List Char} {t : String} (h : (read s).HasText t) :
    t.toList <:+: s := by
  rcases exists_read_of_inside h.inside with ⟨fragment, hfragment, hread⟩
  exact (isInfix_of_read_eq_text hread).trans hfragment

end Value

/-! ## Texts of rules -/

namespace Spec

open Text

/-- The regular form of a parameter has no text that the parameter has not. -/
theorem hasText_of_normalizeRule {name : String} {v w : Value} {t : String}
    (h : normalizeRule name v = some w) (ht : w.HasText t) : v.HasText t := by
  -- The form of an object with one field holds the parameter itself.
  have hsize : ∀ {n : String} {u : Value}, (Value.object [(n, u)]).HasText t → u.HasText t := by
    intro n u h
    cases h with
    | field hmem h =>
        cases List.mem_singleton.1 hmem
        exact h
  have hflag : ∀ {b : Bool}, ¬ (Value.flag b).HasText t := nofun
  unfold normalizeRule at h
  split at h
  · split at h
    · cases h
      exact hsize ht
    · split at h <;> cases h
      exact ht
  · split at h
    · split at h
      · cases h
        exact hsize ht
      · cases h
        exact hsize ht
      · split at h <;> cases h
        exact ht
    · split at h
      · dsimp only at h
        split at h
        · cases h
          exact absurd (hsize ht) hflag
        · split at h <;> cases h
          exact absurd (hsize ht) hflag
        · split at h <;> cases h
          exact ht
      · cases h
        exact ht

theorem isInfix_of_mem_significantLines {body line : List Char}
    (h : line ∈ significantLines body) : line <:+: body :=
  (isInfix_of_mem_pieces (List.mem_filter.1 h).1).trans (trim_isInfix body)

theorem isInfix_of_namedValue? {line key raw : List Char}
    (h : namedValue? line = some (key, raw)) : raw <:+: line := by
  rcases Option.map_eq_some_iff.1 h with ⟨⟨k, r⟩, hparts, heq⟩
  cases heq
  exact (trim_isInfix r).trans ((after_isInfix_of_cut? hparts).trans (trim_isInfix line))

theorem hasText_of_mem_readRule {rules : Fields Value} {line : List Char} {name : String}
    {v : Value} {t : String} (hmem : (name, v) ∈ readRule rules line) (ht : v.HasText t) :
    (name, v) ∈ rules ∨ t.toList <:+: line := by
  unfold readRule at hmem
  split at hmem
  · exact .inl hmem
  · rename_i key raw hnamed
    dsimp only at hmem
    split at hmem
    · rename_i w hw
      rcases Fields.mem_of_mem_set hmem with ⟨rfl, rfl⟩ | hmem
      · exact .inr ((Value.infix_of_read (hasText_of_normalizeRule hw ht)).trans
          (isInfix_of_namedValue? hnamed))
      · exact .inl hmem
    · exact .inl hmem

theorem infix_of_mem_readRules {body : List Char} {name : String} {v : Value} {t : String}
    (hmem : (name, v) ∈ readRules body) (ht : v.HasText t) : t.toList <:+: body := by
  have hlines : ∀ lines : List (List Char), (∀ line ∈ lines, line <:+: body) →
      ∀ rules : Fields Value, (name, v) ∈ lines.foldl readRule rules →
        (name, v) ∈ rules ∨ t.toList <:+: body := by
    intro lines hlines
    induction lines with
    | nil => exact fun rules h => .inl h
    | cons line rest ih =>
        intro rules h
        have hrest := fun other hother => hlines other (List.mem_cons_of_mem _ hother)
        rcases ih hrest _ h with hline | hbody
        · exact (hasText_of_mem_readRule hline ht).imp_right
            fun h => h.trans (hlines line (List.mem_cons_self ..))
        · exact .inr hbody
  have hall := hlines _ (fun _ h => isInfix_of_mem_significantLines h) [] hmem
  exact hall.resolve_left List.not_mem_nil

theorem WrittenBlock.body_isInfix (b : WrittenBlock) : b.block.body <:+: b.text :=
  ⟨'@' :: (b.block.name ++ (b.blanks ++ ['\x7b'])), ['\x7d'], by simp [WrittenBlock.text]⟩

theorem body_isInfix_of_mem_blocksOf {document : List Char} {block : Block}
    (h : block ∈ blocksOf document) : block.body <:+: document := by
  induction document using blocksOf.induct with
  | case1 =>
      rw [blocksOf] at h
      cases h
  | case2 c s found after hfound ih =>
      rcases exists_written_of_blockAt? hfound with ⟨written, rfl, htext⟩
      rw [blocksOf_of_some hfound] at h
      rw [htext]
      rcases List.mem_cons.1 h with rfl | h
      · exact written.body_isInfix.trans (List.prefix_append _ _).isInfix
      · exact (ih h).trans (List.suffix_append _ _).isInfix
  | case3 c s hnone ih =>
      rw [blocksOf_of_none hnone] at h
      exact List.infix_cons (ih h)

/-- A text in the parameter of a rule stands in the document. -/
theorem infix_of_mem_rules {document : String} {name : String} {v : Value} {t : String}
    (hmem : (name, v) ∈ (Spec.ofDocument document).rules.getD []) (ht : v.HasText t) :
    t.toList <:+: document.toList := by
  rw [Spec.ofDocument, (collects_read document.toList).rules, lastBody?, Option.map_map] at hmem
  cases hfound : (blocksOf document.toList).reverse.find? (·.label = "validation") with
  | none =>
      rw [hfound] at hmem
      exact absurd hmem List.not_mem_nil
  | some block =>
      rw [hfound] at hmem
      have hblock := List.mem_reverse.1 (List.mem_of_find?_eq_some hfound)
      exact (infix_of_mem_readRules hmem ht).trans (body_isInfix_of_mem_blocksOf hblock)

end Spec
end ComponentSpec
