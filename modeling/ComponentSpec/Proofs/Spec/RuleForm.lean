import ComponentSpec.Proofs.Spec.Content
import ComponentSpec.Proofs.Spec.LastLine

/-!
# The form of rules

Four rules have a parameter of a regular form, an object with a certain field.  A line that gives
such a rule a parameter in a shape that is recognised stores its regular form; a line with any other
shape stores nothing, and leaves what an earlier line has stored.  The other rules keep every
parameter as it was read.

Main statements: the regular form is what the reader makes of a parameter
(`normalizeRule_eq_some_iff`), a rule has what the last line has stored under its name
(`get?_foldl_readRule_eq_some_iff`), the rules stand in the order of the first such lines
(`names_foldl_readRule`), and the laws of the rules of a body (`ruleLaws`).
-/

namespace ComponentSpec
namespace Spec

open Text

/-! ## Regular forms -/

/-- The rules whose parameter has a regular form. -/
def shapedRules : List String := "contrast" :: "motion" :: sizeRules

/-- The parameter of a rule and its regular form. -/
inductive Regular (name : String) : Value → Value → Prop
  | ratio (hname : name = "contrast") (x : Binary64) :
      Regular name (.number x) (.object [("ratio", .number x)])
  | withRatio (hname : name = "contrast") {v : Value} (hfield : v.hasField "ratio" = true) :
      Regular name v v
  | least (hname : name ∈ sizeRules) (x : Binary64) :
      Regular name (.number x) (.object [("min", .number x)])
  | leastText (hname : name ∈ sizeRules) (s : String) :
      Regular name (.text s) (.object [("min", .text s)])
  | withLimit (hname : name ∈ sizeRules) {v : Value}
      (hfield : v.hasField "min" = true ∨ v.hasField "max" = true) : Regular name v v
  | respected (hname : name = "motion") :
      Regular name (.flag true) (.object [("respectsPreference", .flag true)])
  | required (hname : name = "motion") :
      Regular name (.text "required") (.object [("respectsPreference", .flag true)])
  | withPreference (hname : name = "motion") {v : Value}
      (hfield : v.hasField "respectsPreference" = true) : Regular name v v
  | free (hname : name ∉ shapedRules) (v : Value) : Regular name v v

section

variable {name : String} {v w : Value}

theorem exists_of_hasField (h : v.hasField name = true) : ∃ fields, v = .object fields := by
  cases v with
  | object fields => exact ⟨fields, rfl⟩
  | _ => cases h

theorem regular_of_normalizeRule (h : normalizeRule name v = some w) : Regular name v w := by
  unfold normalizeRule at h
  -- The rules are told apart by their names first, and the shapes of a parameter after that.
  split at h
  · rename_i hcontrast
    have hcontrast : name = "contrast" := beq_iff_eq.1 hcontrast
    split at h
    · cases h
      exact .ratio hcontrast _
    · split at h
      · cases h
        exact .withRatio hcontrast ‹_›
      · cases h
  · rename_i hcontrast
    split at h
    · rename_i hsize
      have hsize : name ∈ sizeRules := List.contains_iff_mem.1 hsize
      split at h
      · cases h
        exact .least hsize _
      · cases h
        exact .leastText hsize _
      · split at h
        · rename_i hfield
          cases h
          exact .withLimit hsize (Bool.or_eq_true_iff.1 hfield)
        · cases h
    · rename_i hsize
      split at h
      · rename_i hmotion
        have hmotion : name = "motion" := beq_iff_eq.1 hmotion
        dsimp only at h
        split at h
        · cases h
          exact .respected hmotion
        · split at h
          · rename_i s hs
            cases h
            cases beq_iff_eq.1 hs
            exact .required hmotion
          · cases h
        · split at h
          · cases h
            exact .withPreference hmotion ‹_›
          · cases h
      · rename_i hmotion
        cases h
        refine .free ?_ v
        simp only [shapedRules, List.mem_cons, not_or]
        exact ⟨mt beq_iff_eq.2 hcontrast, mt beq_iff_eq.2 hmotion,
          mt List.contains_iff_mem.2 hsize⟩

theorem normalizeRule_of_regular (h : Regular name v w) : normalizeRule name v = some w := by
  cases h with
  | ratio hname x => subst hname; rfl
  | withRatio hname hfield =>
      subst hname
      rcases exists_of_hasField hfield with ⟨fields, rfl⟩
      exact if_pos hfield
  | least hname x =>
      rcases List.mem_pair.1 hname with rfl | rfl <;> rfl
  | leastText hname s =>
      rcases List.mem_pair.1 hname with rfl | rfl <;> rfl
  | withLimit hname hfield =>
      have hobject : ∃ fields, v = .object fields :=
        hfield.elim exists_of_hasField exists_of_hasField
      rcases hobject with ⟨fields, rfl⟩
      rcases List.mem_pair.1 hname with rfl | rfl <;> exact if_pos (Bool.or_eq_true_iff.2 hfield)
  | respected hname => subst hname; rfl
  | required hname => subst hname; rfl
  | withPreference hname hfield =>
      subst hname
      rcases exists_of_hasField hfield with ⟨fields, rfl⟩
      exact if_pos hfield
  | free hname =>
      simp only [shapedRules, List.mem_cons, not_or] at hname
      simp [normalizeRule, hname.1, hname.2.1, hname.2.2]

/-- The reader brings a parameter to its regular form, if it has one. -/
theorem normalizeRule_eq_some_iff : normalizeRule name v = some w ↔ Regular name v w :=
  ⟨regular_of_normalizeRule, normalizeRule_of_regular⟩

theorem Regular.limit_of (h : Regular name v w) (hname : name ∈ sizeRules) :
    w.hasField "min" = true ∨ w.hasField "max" = true := by
  cases h with
  | least _ x => exact .inl rfl
  | leastText _ s => exact .inl rfl
  | withLimit _ hfield => exact hfield
  | ratio hcontrast | withRatio hcontrast =>
      subst hcontrast
      exact absurd hname (by decide)
  | respected hmotion | required hmotion | withPreference hmotion =>
      subst hmotion
      exact absurd hname (by decide)
  | free hfree =>
      exact absurd (List.mem_cons_of_mem _ (List.mem_cons_of_mem _ hname)) hfree

theorem regular_iff_eq_of_free (hname : name ∉ shapedRules) : Regular name v w ↔ w = v := by
  rw [← normalizeRule_eq_some_iff, normalizeRule_of_regular (.free hname v), Option.some.injEq,
    eq_comm]

end

/-! ## Lines that store a rule -/

/-- The rule that a line stores. -/
def storedRule? (line : List Char) : Option (String × Value) :=
  (lineField? line).bind fun (name, v) => (normalizeRule name v).map (name, ·)

/-- The line gives the rule a parameter with this regular form. -/
def Stores (line : List Char) (name : String) (w : Value) : Prop :=
  ∃ v, Gives line name v ∧ Regular name v w

theorem storedRule?_eq_some_iff {line : List Char} {name : String} {w : Value} :
    storedRule? line = some (name, w) ↔ Stores line name w := by
  simp only [storedRule?, Option.bind_eq_some_iff, Option.map_eq_some_iff, Prod.exists,
    Prod.mk.injEq, Stores, normalizeRule_eq_some_iff, lineField?_eq_some_iff]
  constructor
  · rintro ⟨other, v, hline, u, hregular, rfl, rfl⟩
    exact ⟨v, hline, hregular⟩
  · rintro ⟨v, hline, hregular⟩
    exact ⟨name, v, hline, w, hregular, rfl, rfl⟩

/-- The name of the rule that a line stores. -/
def storedName? (line : List Char) : Option String :=
  (storedRule? line).map Prod.fst

theorem storedName?_eq_some_iff {line : List Char} {name : String} :
    storedName? line = some name ↔ ∃ w, Stores line name w := by
  simp only [storedName?, Option.map_eq_some_iff, Prod.exists, storedRule?_eq_some_iff]
  constructor
  · rintro ⟨other, w, hstores, rfl⟩
    exact ⟨w, hstores⟩
  · rintro ⟨w, hstores⟩
    exact ⟨name, w, hstores, rfl⟩

theorem readRule_eq (rules : Fields Value) (line : List Char) :
    readRule rules line =
      match storedRule? line with
      | some (name, w) => rules.set name w
      | none => rules := by
  unfold readRule storedRule? lineField?
  cases namedValue? line with
  | none => rfl
  | some parts =>
      dsimp only [Option.map_some, Option.bind_some]
      cases normalizeRule (String.ofList parts.1) (Value.read parts.2) <;> rfl

/-! ## What the lines store -/

theorem get?_foldl_readRule_eq_some_iff (given : List (List Char)) (name : String) (w : Value) :
    Fields.get? (given.foldl readRule []) name = some w ↔
      GivesLast (Stores · name) given w := by
  -- The last line has the last word, so the induction is from the right.
  induction given using List.reverseRecOn with
  | nil => exact iff_of_false nofun not_givesLast_nil
  | append_singleton given line ih =>
      rw [List.foldl_append, List.foldl_cons, List.foldl_nil, readRule_eq, givesLast_concat_iff]
      simp only [← storedRule?_eq_some_iff] at ih ⊢
      cases hline : storedRule? line with
      | none => simpa using ih
      | some rule =>
          rcases rule with ⟨other, u⟩
          by_cases hother : other = name
          · subst hother
            simp [Fields.get?_set]
          · simpa [Fields.get?_set, hother] using ih

theorem names_foldl_readRule (given : List (List Char)) :
    Fields.names (given.foldl readRule []) = (given.filterMap storedName?).eraseDups := by
  induction given using List.reverseRecOn with
  | nil => rfl
  | append_singleton given line ih =>
      rw [List.foldl_append, List.foldl_cons, List.foldl_nil, readRule_eq, List.filterMap_append]
      cases hline : storedRule? line with
      | none => simpa [storedName?, hline] using ih
      | some rule =>
          rcases rule with ⟨name, w⟩
          have hname : storedName? line = some name := congrArg (Option.map Prod.fst) hline
          simp only [Fields.names_set, ih, List.filterMap_cons_some hname, List.filterMap_nil,
            eraseDups_concat]

/-! ## The rules of a body -/

/-- The laws of the rules that are read from lines. -/
structure RuleLaws (given : List (List Char)) (rules : Fields Value) : Prop where
  ratio : ∀ w, rules.get? "contrast" = some w → w.hasField "ratio" = true
  limit : ∀ name ∈ sizeRules, ∀ w, rules.get? name = some w →
    w.hasField "min" = true ∨ w.hasField "max" = true
  preference : ∀ w, rules.get? "motion" = some w → w.hasField "respectsPreference" = true
  /-- A rule has the regular form of the last parameter that was recognised. -/
  last : ∀ name w, rules.get? name = some w ↔ GivesLast (Stores · name) given w
  absent : ∀ name, rules.get? name = none ↔ ∀ line ∈ given, ∀ w, ¬ Stores line name w
  /-- A rule without a regular form has its last parameter as it was read. -/
  free : ∀ name ∉ shapedRules, ∀ v, rules.get? name = some v ↔ GivesLast (Gives · name) given v
  /-- The rules stand in the order of the first lines that store them; `stored` has the rule of every
  line, if it stores one. -/
  names_eq : ∃ stored : List (Option String),
    List.Forall₂ (fun line name? => ∀ name, name? = some name ↔ ∃ w, Stores line name w)
      given stored ∧
    rules.names = (stored.filterMap id).eraseDups

theorem regular_of_givesLast {given : List (List Char)} {name : String} {w : Value}
    (h : GivesLast (Stores · name) given w) : ∃ v, Regular name v w := by
  rcases h with ⟨_, _, _, -, ⟨v, -, hregular⟩, -⟩
  exact ⟨v, hregular⟩

theorem stores_iff_of_free {line : List Char} {name : String} {w : Value}
    (hname : name ∉ shapedRules) : Stores line name w ↔ Gives line name w := by
  simp only [Stores, regular_iff_eq_of_free hname]
  constructor
  · rintro ⟨v, hline, rfl⟩
    exact hline
  · exact fun hline => ⟨w, hline, rfl⟩

theorem mem_names_foldl_readRule {given : List (List Char)} {name : String} :
    name ∈ Fields.names (given.foldl readRule []) ↔ ∃ line ∈ given, ∃ w, Stores line name w := by
  simp only [names_foldl_readRule, List.mem_eraseDups, List.mem_filterMap, storedName?_eq_some_iff]

/-- The laws hold of the rules of every body, for the lines that it says. -/
theorem ruleLaws (body : List Char) : RuleLaws (content body) (readRules body) := by
  have hlast : ∀ name w, (readRules body).get? name = some w ↔
      GivesLast (Stores · name) (content body) w := by
    intro name w
    rw [readRules_eq_foldl]
    exact get?_foldl_readRule_eq_some_iff (content body) name w
  have hregular : ∀ name w, (readRules body).get? name = some w → ∃ v, Regular name v w :=
    fun name w h => regular_of_givesLast ((hlast name w).1 h)
  constructor
  case ratio =>
    intro w h
    rcases hregular _ w h with ⟨v, hv⟩
    exact normalizeRule_contrast (normalizeRule_of_regular hv)
  case limit =>
    intro name hname w h
    rcases hregular name w h with ⟨v, hv⟩
    exact hv.limit_of hname
  case preference =>
    intro w h
    rcases hregular _ w h with ⟨v, hv⟩
    exact normalizeRule_motion (normalizeRule_of_regular hv)
  case last => exact hlast
  case absent =>
    intro name
    rw [readRules_eq_foldl, Fields.get?_eq_none_iff, mem_names_foldl_readRule]
    push Not
    rfl
  case free =>
    intro name hname v
    rw [hlast]
    simp only [GivesLast, stores_iff_of_free hname]
  case names_eq =>
    refine ⟨(content body).map storedName?, ?_, ?_⟩
    · rw [List.forall₂_map_right_iff, List.forall₂_same]
      exact fun line _ name => storedName?_eq_some_iff
    · rw [readRules_eq_foldl, names_foldl_readRule, List.filterMap_map]
      rfl

end Spec
end ComponentSpec
