import ComponentSpec.Proofs.Spec.Fragment
import ComponentSpec.Proofs.Spec.Layout

/-!
# Documents with a single rule

A rule is written as a name, a colon and a token on one line, with blanks at will around each of
them.  When this is the only line in the only block of a document, and the block is one of
validation, the specification has the rule with the regular form of the token's value, and no other
rule.

Main statements: a decimal numeral denotes its number (`read_numeral`), and the rules of a document
with a single rule (`rules_of_isSingleRule`).
-/

namespace ComponentSpec

open Text

namespace Text

/-! ## Classes of characters -/

theorem isBlank_of_isWord {c : Char} (h : isWord c = true) : isBlank c = false := by
  refine Bool.eq_false_iff.2 ?_
  intro hblank
  have hnot := isWord_of_isBlank hblank
  rw [h] at hnot
  cases hnot

end Text

/-! ## Numerals -/

/-- A decimal numeral with the digits of any script; without digits after the point it has no
point. -/
structure WrittenNumeral where
  whole : List Char
  fraction : List Char := []
  whole_ne_nil : whole ≠ []
  isDigit_whole : ∀ c ∈ whole, isDigit c = true
  isDigit_fraction : ∀ c ∈ fraction, isDigit c = true

namespace WrittenNumeral

def text (n : WrittenNumeral) : List Char :=
  n.whole ++ if n.fraction = [] then [] else '.' :: n.fraction

/-- The binary number nearest to the numeral. -/
def value (n : WrittenNumeral) : Binary64 :=
  decimal false (n.whole.filterMap digitValue?) (n.fraction.filterMap digitValue?)

variable (n : WrittenNumeral)

theorem isBlank_text : ∀ c ∈ n.text, isBlank c = false := by
  intro c hc
  rcases List.mem_append.1 hc with hwhole | hfraction
  · exact isBlank_of_isDigit (n.isDigit_whole c hwhole)
  · split at hfraction
    · cases hfraction
    · rcases List.mem_cons.1 hfraction with rfl | hfraction
      · decide
      · exact isBlank_of_isDigit (n.isDigit_fraction c hfraction)

theorem exists_head_text : ∃ c rest, n.text = c :: rest ∧ isDigit c = true := by
  cases hwhole : n.whole with
  | nil => exact absurd hwhole n.whole_ne_nil
  | cons c rest =>
      refine ⟨c, rest ++ (if n.fraction = [] then [] else '.' :: n.fraction), ?_, ?_⟩
      · rw [text, hwhole, List.cons_append]
      · exact n.isDigit_whole c (hwhole ▸ List.mem_cons_self ..)

theorem exists_digits {s : List Char} (hs : s ≠ []) (hdigits : ∀ c ∈ s, isDigit c = true) :
    ∃ d ds, s.filterMap digitValue? = d :: ds := by
  cases s with
  | nil => exact absurd rfl hs
  | cons c s =>
      rcases Option.isSome_iff_exists.1 (hdigits c (List.mem_cons_self ..)) with ⟨d, hd⟩
      exact ⟨d, _, List.filterMap_cons_some hd⟩

theorem strictReal?_text : strictReal? n.text = some n.value := by
  rcases exists_digits n.whole_ne_nil n.isDigit_whole with ⟨d, ds, hwhole⟩
  unfold strictReal? text value
  by_cases hfraction : n.fraction = []
  · have hspan : spanDigits (n.whole ++ []) = (n.whole.filterMap digitValue?, []) :=
      spanDigits_append n.isDigit_whole nofun
    rw [if_pos hfraction, hspan, hwhole, hfraction]
    rfl
  · have hpoint : ∀ c, ('.' :: n.fraction).head? = some c → isDigit c = false := by
      intro c hc
      cases hc
      decide
    have hspan := spanDigits_append n.isDigit_whole hpoint
    have hrest : spanDigits (n.fraction ++ []) = (n.fraction.filterMap digitValue?, []) :=
      spanDigits_append n.isDigit_fraction nofun
    rcases exists_digits hfraction n.isDigit_fraction with ⟨f, fs, hdigits⟩
    rw [List.append_nil, hdigits] at hrest
    rw [if_neg hfraction, hspan, hwhole, hdigits]
    simp only [hrest]

end WrittenNumeral

theorem Value.read_numeral (n : WrittenNumeral) : Value.read n.text = .number n.value := by
  rcases n.exists_head_text with ⟨c, rest, htext, hc⟩
  have hne : ∀ d, isDigit d = false → c ≠ d := by
    rintro d hd rfl
    rw [hc] at hd
    cases hd
  -- The first character is a digit, which begins neither a quotation nor a flag.
  have hunquoted : unquoted? n.text = none := by
    have hdouble := hne '"' (by decide)
    have hsingle := hne '\'' (by decide)
    simp [unquoted?, htext, enclosed?, hdouble, hsingle]
  have hflag : flag? n.text = none := by
    have htrue := hne 't' (by decide)
    have hfalse := hne 'f' (by decide)
    simp [flag?, htext, htrue, hfalse]
  have hnumeral : numeral? n.text = some n.value := by
    have hlast : ¬ (n.text.getLast? == some '\n') = true := by
      intro hlast
      have hmem := List.mem_of_getLast? (beq_iff_eq.1 hlast)
      exact absurd (n.isBlank_text _ hmem) (by decide)
    rw [numeral?, dropFinalNewline, if_neg hlast, n.strictReal?_text]
  rw [read_eq, hunquoted, hflag, hnumeral]

/-! ## Rules as they are written -/

namespace Spec

/-- A rule with the blanks around it; the blanks about the colon stay on its line. -/
structure WrittenRule where
  name : List Char
  token : List Char
  before : List Char
  afterName : List Char
  beforeToken : List Char
  after : List Char
  name_ne_nil : name ≠ []
  isWord_name : ∀ c ∈ name, isWord c = true
  token_ne_nil : token ≠ []
  isBlank_token : ∀ c ∈ token, isBlank c = false
  isBlank_before : ∀ c ∈ before, isBlank c = true
  isBlank_afterName : ∀ c ∈ afterName, isBlank c = true ∧ c ≠ '\n'
  isBlank_beforeToken : ∀ c ∈ beforeToken, isBlank c = true ∧ c ≠ '\n'
  isBlank_after : ∀ c ∈ after, isBlank c = true

namespace WrittenRule

variable (r : WrittenRule)

def line : List Char :=
  (r.name ++ r.afterName) ++ ':' :: (r.beforeToken ++ r.token)

/-- The body of a block that has the rule alone. -/
def body : List Char :=
  r.before ++ (r.line ++ r.after)

theorem isBlank_name : ∀ c ∈ r.name, isBlank c = false :=
  fun c hc => isBlank_of_isWord (r.isWord_name c hc)

theorem exists_line : ∃ c rest, r.line = c :: rest ∧ isWord c = true := by
  rcases List.exists_cons_of_ne_nil r.name_ne_nil with ⟨c, rest, hname⟩
  refine ⟨c, (rest ++ r.afterName) ++ ':' :: (r.beforeToken ++ r.token), ?_, ?_⟩
  · rw [line, hname]
    rfl
  · exact r.isWord_name c (hname ▸ List.mem_cons_self ..)

theorem mem_token_of_getLast?_line {c : Char} (h : r.line.getLast? = some c) : c ∈ r.token := by
  have hline : r.line = ((r.name ++ r.afterName) ++ ':' :: r.beforeToken) ++ r.token := by
    simp [line]
  rw [hline, List.getLast?_append, List.getLast?_eq_some_getLast r.token_ne_nil] at h
  cases h
  exact List.getLast_mem r.token_ne_nil

theorem trim_line_self : trim r.line = r.line := by
  rcases r.exists_line with ⟨c, rest, hline, hc⟩
  refine trim_eq_self ?_ fun d hd => r.isBlank_token d (r.mem_token_of_getLast?_line hd)
  intro d hd
  rw [hline] at hd
  cases hd
  exact isBlank_of_isWord hc

/-- The line is what trimming finds between blanks. -/
theorem trim_line {before after : List Char} (hbefore : ∀ c ∈ before, isBlank c = true)
    (hafter : ∀ c ∈ after, isBlank c = true) : trim (before ++ (r.line ++ after)) = r.line := by
  rw [trim_pad hbefore hafter, r.trim_line_self]

theorem newline_not_mem_line : '\n' ∉ r.line := by
  have hblank : isBlank '\n' = true := by decide
  intro h
  simp only [line, List.mem_append, List.mem_cons] at h
  rcases h with (hname | hafter) | heq | hbefore | htoken
  · rw [r.isBlank_name _ hname] at hblank
    cases hblank
  · exact (r.isBlank_afterName _ hafter).2 rfl
  · cases heq
  · exact (r.isBlank_beforeToken _ hbefore).2 rfl
  · rw [r.isBlank_token _ htoken] at hblank
    cases hblank

theorem significantLines_body : significantLines r.body = [r.line] := by
  have hlines : lines (trim r.body) = [r.line] := by
    rw [body, r.trim_line r.isBlank_before r.isBlank_after]
    exact pieces_of_not_mem r.newline_not_mem_line
  have htrim := r.trim_line_self
  -- The line begins with a word character, so it is neither blank nor a comment.
  rcases r.exists_line with ⟨c, rest, hline, hc⟩
  have hcomment : c ≠ '#' := by
    rintro rfl
    cases hc
  rw [significantLines, hlines]
  rw [hline] at htrim ⊢
  simp [htrim, hcomment]

theorem namedValue?_line : namedValue? r.line = some (r.name, r.token) := by
  have hcolon : ':' ∉ r.name ++ r.afterName := by
    intro h
    rcases List.mem_append.1 h with hname | hafter
    · exact absurd (r.isWord_name _ hname) (by decide)
    · exact absurd (r.isBlank_afterName _ hafter).1 (by decide)
  have hname : trim (r.name ++ r.afterName) = r.name :=
    (trim_append_right (fun c hc => (r.isBlank_afterName c hc).1) r.name).trans
      (trim_eq_self_of_forall r.isBlank_name)
  have htoken : trim (r.beforeToken ++ r.token) = r.token :=
    (trim_append_left (fun c hc => (r.isBlank_beforeToken c hc).1) r.token).trans
      (trim_eq_self_of_forall r.isBlank_token)
  rw [namedValue?_eq, line, sides?_append hcolon, hname, htoken]

end WrittenRule

/-- The only block of the document is one of validation, and its only line is that of the rule. -/
def IsSingleRule (document name : String) (token : List Char) : Prop :=
  ∃ (block : Block) (r : WrittenRule), blocksOf document.toList = [block] ∧
    block.label = "validation" ∧ block.body = r.body ∧ r.name = name.toList ∧ r.token = token

theorem rules_of_isSingleRule {document name : String} {token : List Char} {v : Value}
    (h : IsSingleRule document name token)
    (hvalue : normalizeRule name (Value.read token) = some v) :
    (ofDocument document).rules = some [(name, v)] := by
  rcases h with ⟨block, r, hblocks, hlabel, hbody, hname, rfl⟩
  have hlast : lastBody? "validation" [block] = some r.body := by
    simp [lastBody?, hlabel, hbody]
  have hread : readRules r.body = [(name, v)] := by
    rw [readRules, r.significantLines_body]
    simp only [List.foldl_cons, List.foldl_nil, readRule, r.namedValue?_line, hname,
      String.ofList_toList, hvalue]
    rfl
  rw [ofDocument, (collects_read document.toList).rules, hblocks, hlast, Option.map_some, hread]

end Spec
end ComponentSpec
