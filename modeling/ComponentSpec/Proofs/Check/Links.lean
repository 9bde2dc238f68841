import ComponentSpec.Check.Security
import ComponentSpec.Proofs.Check.Answers
import ComponentSpec.Proofs.Text.Occurrence

/-!
# Unencrypted links to other hosts

The check of links takes a link as one to another host unless the host name of the page occurs in
its address.  It looks for the name in the whole address and not only in the host, so an unencrypted
link to another host passes when the name of the page's host stands somewhere in it.

A host name has none of the characters that divide an address into its parts.  It therefore cannot
stand across two parts, and there are three places for it: the scheme, the host of the link, and
what follows the host.

Main statements: the places of a host name in an address (`isInfix_insecureAddress_iff`), what the
check makes of an unencrypted link (`externalLinks_of_insecureLink`), and when such a link fails
(`insecureLinkLaws`).
-/

namespace ComponentSpec
namespace Check

open Text

/-! ## Addresses -/

/-- Letters and digits, the hyphen and the dot; the low line is admitted too. -/
def isHostChar (c : Char) : Bool :=
  isWord c || c == '-' || c == '.'

/-- A host name. -/
structure IsHostName (name : String) : Prop where
  nonempty : name ≠ ""
  hostChars : name.toList.all isHostChar = true

/-- The characters that can follow the host in an address. -/
def hostEnds : List Char :=
  ['/', '?', '#', ':']

theorem not_isHostChar_of_mem_hostEnds {c : Char} (h : c ∈ hostEnds) : isHostChar c = false := by
  simp only [hostEnds, List.mem_cons, List.not_mem_nil, or_false] at h
  rcases h with rfl | rfl | rfl | rfl <;> rfl

theorem IsHostName.not_mem {name : String} (h : IsHostName name) {c : Char} (hc : c ∈ hostEnds) :
    c ∉ name.toList := by
  intro hmem
  have hhost := List.all_eq_true.1 h.hostChars c hmem
  rw [not_isHostChar_of_mem_hostEnds hc] at hhost
  cases hhost

/-- A host is below a domain if it ends in a dot and the domain. -/
def IsSubdomain (host domain : String) : Prop :=
  '.' :: domain.toList <:+ host.toList

/-- The address of an unencrypted link. -/
def insecureAddress (host rest : String) : String :=
  "http://" ++ host ++ rest

theorem toList_insecureAddress (host rest : String) :
    (insecureAddress host rest).toList =
      "http".toList ++ ':' :: '/' :: '/' :: (host.toList ++ rest.toList) := by
  simp [insecureAddress, String.toList_append]

theorem beginsWith_insecureAddress (fragment host rest : String) :
    beginsWith fragment (insecureAddress host rest) =
      fragment.toList.isPrefixOf
        ("http".toList ++ ':' :: '/' :: '/' :: (host.toList ++ rest.toList)) := by
  rw [beginsWith, toList_insecureAddress]

theorem isInfix_insecureAddress (host rest : String) :
    host.toList <:+: (insecureAddress host rest).toList :=
  ⟨"http://".toList, rest.toList, by simp [insecureAddress, String.toList_append]⟩

/-- A host name stands in an address within one of its parts. -/
theorem isInfix_insecureAddress_iff {name host rest : String} (hname : IsHostName name)
    (hends : rest.toList.head?.all hostEnds.contains = true) :
    name.toList <:+: (insecureAddress host rest).toList ↔
      name.toList <:+: "http".toList ∨ name.toList <:+: host.toList ∨
        name.toList <:+: rest.toList := by
  have hcolon : ':' ∉ name.toList := hname.not_mem (by decide)
  have hslash : '/' ∉ name.toList := hname.not_mem (by decide)
  constructor
  · intro h
    by_contra hnone
    simp only [not_or] at hnone
    rcases hnone with ⟨hscheme, hhost, hrest⟩
    have hnil : ¬ name.toList <:+: [] := fun hempty => hhost (hempty.trans List.nil_infix)
    have htail : ¬ name.toList <:+: host.toList ++ rest.toList := by
      cases hparts : rest.toList with
      | nil => rwa [List.append_nil]
      | cons c after =>
          rw [hparts] at hends hrest
          have hc : c ∉ name.toList := hname.not_mem (List.contains_iff_mem.1 hends)
          have hafter : ¬ name.toList <:+: after :=
            fun hinside => hrest (hinside.trans (List.suffix_cons c after).isInfix)
          exact not_isInfix_append_cons hhost hc hafter
    have hslashes : ¬ name.toList <:+: '/' :: '/' :: (host.toList ++ rest.toList) :=
      not_isInfix_append_cons hnil hslash (not_isInfix_append_cons hnil hslash htail)
    rw [toList_insecureAddress] at h
    exact not_isInfix_append_cons hscheme hcolon hslashes h
  · rintro (h | h | h)
    · rw [toList_insecureAddress]
      exact h.trans (List.prefix_append _ _).isInfix
    · exact h.trans (isInfix_insecureAddress host rest)
    · rw [insecureAddress, String.toList_append]
      exact h.trans (List.suffix_append _ _).isInfix

/-! ## The verdict -/

/-- An unencrypted link: its address has a host, and something may follow the host. -/
structure InsecureLink (e : Element) (host rest : String) : Prop where
  link : e.tagName = "A"
  address : e.attribute? "href" = some (insecureAddress host rest)
  hostName : IsHostName host
  ends : rest.toList.head?.all hostEnds.contains = true

variable {e : Element} {host rest : String}

/-- An outcome refuses an unencrypted address if it fails and says why. -/
structure Refuses (address : String) (outcome : Outcome) : Prop where
  passed : outcome.passed = false
  address : outcome.detail? "href" = some (.text address)
  secure : outcome.detail? "isSecure" = some (.flag false)

/-- What the check makes of an unencrypted link, by whether its address has the host name of the
page. -/
theorem externalLinks_of_insecureLink (h : InsecureLink e host rest) (rule : Datum) :
    externalLinks e rule = { passed := true, message := "Not an external link" } ∧
        contains e.own.page.hostname (insecureAddress host rest) = true ∨
      Refuses (insecureAddress host rest) (externalLinks e rule) ∧
        contains e.own.page.hostname (insecureAddress host rest) = false := by
  have hnonempty : (insecureAddress host rest).isEmpty = false := by
    rw [Bool.eq_false_iff, Ne, String.isEmpty_iff, ← String.toList_eq_nil_iff,
      toList_insecureAddress]
    exact List.cons_ne_nil _ _
  have hanchor : beginsWith "#" (insecureAddress host rest) = false :=
    beginsWith_insecureAddress "#" host rest
  have hpath : beginsWith "/" (insecureAddress host rest) = false :=
    beginsWith_insecureAddress "/" host rest
  have hhttp : beginsWith "http" (insecureAddress host rest) = true :=
    beginsWith_insecureAddress "http" host rest
  have hsecure : beginsWith "https://" (insecureAddress host rest) = false :=
    beginsWith_insecureAddress "https://" host rest
  cases hname : contains e.own.page.hostname (insecureAddress host rest) with
  | true =>
      refine .inl ⟨?_, rfl⟩
      simp [externalLinks, h.link, h.address, hnonempty, hanchor, hpath, hname]
  | false =>
      refine .inr ⟨?_, rfl⟩
      constructor <;>
        simp [externalLinks, h.link, h.address, hnonempty, hanchor, hpath, hhttp, hname, hsecure,
          Outcome.detail?, Fields.get?]

/-- A link fails if the host name of the page stands nowhere in its address. -/
theorem passed_externalLinks_eq_false_iff (h : InsecureLink e host rest) {rule : Datum} :
    (externalLinks e rule).passed = false ↔
      ¬ e.own.page.hostname.toList <:+: (insecureAddress host rest).toList := by
  rw [← occurs_iff, ← contains, Bool.not_eq_true]
  rcases externalLinks_of_insecureLink h rule with ⟨heq, hname⟩ | ⟨hrefused, hname⟩
  · simp [heq, hname]
  · simp [hrefused.passed, hname]

/-- What the check makes of unencrypted links. -/
structure InsecureLinkLaws (e : Element) (host rest : String) (rule : Datum) : Prop where
  /-- Neither the target of the link nor its relation has any influence. -/
  failed : (externalLinks e rule).passed = false ↔
    ¬ e.own.page.hostname.toList <:+: (insecureAddress host rest).toList
  /-- A host name has three places in an address. -/
  placed : IsHostName e.own.page.hostname →
    ((externalLinks e rule).passed = false ↔
      ¬ e.own.page.hostname.toList <:+: "http".toList ∧
        ¬ e.own.page.hostname.toList <:+: host.toList ∧
          ¬ e.own.page.hostname.toList <:+: rest.toList)
  refused : (externalLinks e rule).passed = false →
    Refuses (insecureAddress host rest) (externalLinks e rule)
  /-- What passes is not taken as a link to another host. -/
  excused : (externalLinks e rule).passed = true →
    externalLinks e rule = { passed := true, message := "Not an external link" }
  /-- Only links to other hosts fail. -/
  foreign : (externalLinks e rule).passed = false →
    host ≠ e.own.page.hostname ∧ ¬ IsSubdomain host e.own.page.hostname

theorem insecureLinkLaws (h : InsecureLink e host rest) (rule : Datum) :
    InsecureLinkLaws e host rest rule where
  failed := passed_externalLinks_eq_false_iff h
  placed := by
    intro hname
    rw [passed_externalLinks_eq_false_iff h, isInfix_insecureAddress_iff hname h.ends, not_or,
      not_or]
  refused := by
    intro hfailed
    rcases externalLinks_of_insecureLink h rule with ⟨heq, -⟩ | ⟨hrefused, -⟩
    · rw [heq] at hfailed
      cases hfailed
    · exact hrefused
  excused := by
    intro hpassed
    rcases externalLinks_of_insecureLink h rule with ⟨heq, -⟩ | ⟨hrefused, -⟩
    · exact heq
    · rw [hrefused.passed] at hpassed
      cases hpassed
  foreign := by
    intro hfailed
    rw [passed_externalLinks_eq_false_iff h] at hfailed
    have hhost : host.toList <:+: (insecureAddress host rest).toList :=
      isInfix_insecureAddress host rest
    constructor
    · rintro rfl
      exact hfailed hhost
    · intro hsubdomain
      have hdomain : e.own.page.hostname.toList <:+: host.toList :=
        ((List.suffix_cons '.' _).trans hsubdomain).isInfix
      exact hfailed (hdomain.trans hhost)

/-- A link on a page of `app.example.com`. -/
def linkTo (address : String) : Element :=
  .node { tag := "a", attributes := [("href", address)],
          page := { hostname := "app.example.com" } } []

theorem insecureLinkLaws_otherHost :
    InsecureLink (linkTo "http://other.example.org") "other.example.org" "" ∧
      IsHostName (linkTo "http://other.example.org").own.page.hostname ∧
        (externalLinks (linkTo "http://other.example.org") .null).passed = false := by
  have hlink : InsecureLink (linkTo "http://other.example.org") "other.example.org" "" :=
    ⟨by decide +kernel, by decide +kernel, ⟨by decide +kernel, by decide +kernel⟩,
      by decide +kernel⟩
  have hname : IsHostName (linkTo "http://other.example.org").own.page.hostname :=
    ⟨by decide +kernel, by decide +kernel⟩
  exact ⟨hlink, hname, ((insecureLinkLaws hlink .null).placed hname).2 (by decide +kernel)⟩

/-- A link to another host passes if the query of its address has the host name of the page. -/
theorem externalLinks_passes_query :
    InsecureLink (linkTo "http://evil.example/?app.example.com") "evil.example"
        "/?app.example.com" ∧
      (linkTo "http://evil.example/?app.example.com").own.page.hostname = "app.example.com" ∧
        "evil.example" ≠ "app.example.com" ∧ ¬ IsSubdomain "evil.example" "app.example.com" ∧
          (externalLinks (linkTo "http://evil.example/?app.example.com") .null).passed = true := by
  have hlink : InsecureLink (linkTo "http://evil.example/?app.example.com") "evil.example"
      "/?app.example.com" :=
    ⟨by decide +kernel, by decide +kernel, ⟨by decide +kernel, by decide +kernel⟩,
      by decide +kernel⟩
  have hforeign : ¬ IsSubdomain "evil.example" "app.example.com" := by
    rw [IsSubdomain]
    decide +kernel
  exact ⟨hlink, rfl, by decide +kernel, hforeign, by decide +kernel⟩

end Check
end ComponentSpec
