import Mathlib.Data.List.Induction
import RpcReference.Proofs.Steps
/-!
# No declaration is lost silently

Every line with a keyword leaves a trace: a declaration in the schema or a diagnostic that names the
line. So for each kind of declaration, the lines of that kind are as many as what was found and what
was reported together. Diagnostics come in the order of their lines, at most one for each line, and
none is about a service line or a line without a keyword.
-/

namespace RpcReference.Source

open Text

/-! ### Counting -/

/-- How many declarations of a kind were found. -/
def Findings.count (f : Findings) : Keyword → Nat
  | .service => f.schema.services.length
  | .rpc => f.schema.numCalls
  | .message => f.schema.messages.size
  | .enum => f.schema.enums.size

/-- How many lines have the keyword. -/
def declared (keyword : Keyword) (ls : List Text) : Nat :=
  ls.countP fun line => keyword? line == some keyword

/-- The keyword of the line with the number, counted from one. -/
def keywordAt (ls : List Text) : Nat → Option Keyword
  | 0 => none
  | index + 1 => ls[index]?.bind keyword?

/-- How many diagnostics name a line with the keyword. -/
def reported (keyword : Keyword) (ls : List Text) (diagnostics : List Diagnostic) : Nat :=
  diagnostics.countP fun d => keywordAt ls d.line == some keyword

/-! ### One line -/

/-- What reading a line does to the numbers: nothing, or one more declaration of its kind, or a
report of the line. -/
inductive Tally (f : Findings) (site : Site) (g : Findings) : Prop
  | undeclared (hline : keyword? site.line = none) (hsame : g = f)
  | found {keyword : Keyword} (hline : keyword? site.line = some keyword)
      (hdiagnostics : g.diagnostics = f.diagnostics)
      (hcount : ∀ k, g.count k = f.count k + if keyword = k then 1 else 0)
  | reported {keyword : Keyword} {concern : Concern} (hline : keyword? site.line = some keyword)
      (hservice : keyword ≠ .service)
      (hdiagnostics : g.diagnostics = f.diagnostics ++ [⟨site.number, concern⟩])
      (hcount : ∀ k, g.count k = f.count k)

theorem tally_readLine (f : Findings) (site : Site) : Tally f site (f.readLine site) := by
  have hstep := f.step_readLine site
  generalize f.readLine site = g at hstep
  cases hstep with
  | undeclared hline => exact .undeclared (keyword?_eq_none_iff.mpr hline) rfl
  | service hline =>
    refine .found (keyword?_of_declaration? hline) rfl fun k => ?_
    cases k with
    | service => exact List.length_append
    | rpc => simp [Findings.count, Findings.addService, Schema.numCalls, Schema.calls, readService]
    | message | enum => rfl
  | call hline hsignature hservices =>
    refine .found (keyword?_of_declaration? hline) rfl fun k => ?_
    cases k with
    | service => simp [Findings.count, hservices]
    | rpc =>
      simp only [Findings.count, Schema.numCalls, Schema.calls, hservices, List.flatMap_append,
        List.flatMap_singleton, List.length_append, List.length_singleton, if_true]
      omega
    | message | enum => rfl
  | newMessage hline hname hne hnew =>
    refine .found (keyword?_of_declaration? hline) rfl fun k => ?_
    cases k with
    | message => simp [Findings.count, Table.size_insert, hnew]
    | service | rpc | enum => rfl
  | newEnum hline hname hne hnew =>
    refine .found (keyword?_of_declaration? hline) rfl fun k => ?_
    cases k with
    | enum => simp [Findings.count, Table.size_insert, hnew]
    | service | rpc | message => rfl
  | malformedCall hline _ | orphanCall hline _ _ | namelessMessage hline _ | namelessEnum hline _ =>
    exact .reported (keyword?_of_declaration? hline) (by decide) rfl fun k => by cases k <;> rfl
  | replacedMessage hline hname hne hold =>
    refine .reported (keyword?_of_declaration? hline) (by decide) rfl fun k => ?_
    cases k with
    | message => simp [Findings.count, Findings.report, Table.size_insert, hold]
    | service | rpc | enum => rfl
  | replacedEnum hline hname hne hold =>
    refine .reported (keyword?_of_declaration? hline) (by decide) rfl fun k => ?_
    cases k with
    | enum => simp [Findings.count, Findings.report, Table.size_insert, hold]
    | service | rpc | message => rfl

/-! ### All lines -/

/-- The lines `noted`, some of the lines `xs` that were read, are those that the diagnostics name,
and together with what was found they make up all declarations. -/
structure Accounts (xs : List Site) (f : Findings) (noted : List Site) : Prop where
  sublist : noted.Sublist xs
  lines : f.diagnostics.map Diagnostic.line = noted.map Site.number
  keywords : ∀ site ∈ noted, ∃ keyword, keyword? site.line = some keyword ∧ keyword ≠ .service
  balance : ∀ k, xs.countP (Site.isOf k) = f.count k + noted.countP (Site.isOf k)

theorem countP_isOf_concat {keyword : Keyword} {site : Site}
    (h : keyword? site.line = some keyword) (k : Keyword) (xs : List Site) :
    (xs ++ [site]).countP (Site.isOf k)
      = xs.countP (Site.isOf k) + if keyword = k then 1 else 0 := by
  rw [List.countP_append, List.countP_singleton, Site.isOf, h]
  simp

theorem Accounts.readLine {xs noted : List Site} {f : Findings} (h : Accounts xs f noted)
    (site : Site) : ∃ noted', Accounts (xs ++ [site]) (f.readLine site) noted' := by
  have hskip : noted.Sublist (xs ++ [site]) := h.sublist.trans (List.sublist_append_left _ _)
  cases tally_readLine f site with
  | undeclared hline hsame =>
    rw [hsame]
    refine ⟨noted, hskip, h.lines, h.keywords, fun k => ?_⟩
    rw [List.countP_append, List.countP_singleton, Site.isOf, hline, h.balance]
    rfl
  | found hline hdiagnostics hcount =>
    refine ⟨noted, hskip, ?_, h.keywords, fun k => ?_⟩
    · rw [hdiagnostics, h.lines]
    · rw [countP_isOf_concat hline, h.balance, hcount]
      omega
  | reported hline hservice hdiagnostics hcount =>
    refine ⟨noted ++ [site], h.sublist.append (List.Sublist.refl _), ?_, ?_, fun k => ?_⟩
    · rw [hdiagnostics, List.map_append, List.map_append, h.lines]
      rfl
    · intro s hs
      rcases List.mem_append.mp hs with hs | hs
      · exact h.keywords s hs
      · rw [List.mem_singleton.mp hs]
        exact ⟨_, hline, hservice⟩
    · rw [countP_isOf_concat hline, countP_isOf_concat hline, h.balance, hcount]
      omega

theorem exists_accounts (xs : List Site) :
    ∃ noted, Accounts xs (xs.foldl Findings.readLine .empty) noted := by
  induction xs using List.reverseRecOn with
  | nil => exact ⟨[], .refl _, rfl, by simp, fun k => by cases k <;> rfl⟩
  | append_singleton xs site ih =>
    obtain ⟨noted, hnoted⟩ := ih
    rw [List.foldl_append]
    exact hnoted.readLine site

/-! ### Numbers of lines -/

theorem keywordAt_number {ls : List Text} {site : Site} (h : site ∈ sites ls) :
    keywordAt ls site.number = keyword? site.line := by
  rw [Site.number, keywordAt, getElem?_of_mem_sites h]
  rfl

theorem countP_isOf_sites (k : Keyword) (ls : List Text) :
    (sites ls).countP (Site.isOf k) = declared k ls := by
  have hlines : declared k ls = declared k ((sites ls).map Site.line) := by
    rw [sites, map_line_sitesFrom]
  rw [hlines, declared, List.countP_map]
  rfl

namespace Accounts

variable {ls : List Text} {f : Findings} {noted : List Site}

theorem reported_eq (h : Accounts (sites ls) f noted) (k : Keyword) :
    reported k ls f.diagnostics = noted.countP (Site.isOf k) := by
  have hlines : reported k ls f.diagnostics =
      (f.diagnostics.map Diagnostic.line).countP (keywordAt ls · == some k) := by
    rw [List.countP_map]
    rfl
  rw [hlines, h.lines, List.countP_map]
  refine List.countP_congr fun site hsite => ?_
  rw [Function.comp_apply, keywordAt_number (h.sublist.subset hsite), Site.isOf]

theorem declared_eq (h : Accounts (sites ls) f noted) (k : Keyword) :
    declared k ls = f.count k + reported k ls f.diagnostics := by
  rw [← countP_isOf_sites, h.balance, h.reported_eq]

theorem reported_service (h : Accounts (sites ls) f noted) :
    reported .service ls f.diagnostics = 0 := by
  rw [h.reported_eq, List.countP_eq_zero]
  intro site hsite hservice
  obtain ⟨keyword, hline, hne⟩ := h.keywords site hsite
  rw [Site.isOf, hline, beq_iff_eq] at hservice
  exact hne (Option.some.inj hservice)

theorem pairwise_line (h : Accounts (sites ls) f noted) :
    (f.diagnostics.map Diagnostic.line).Pairwise (· < ·) := by
  rw [h.lines, List.pairwise_map]
  exact (pairwise_number_sites ls).sublist h.sublist

theorem of_mem_diagnostics (h : Accounts (sites ls) f noted) {d : Diagnostic}
    (hd : d ∈ f.diagnostics) :
    1 ≤ d.line ∧ d.line ≤ ls.length ∧
      ∃ keyword, keywordAt ls d.line = some keyword ∧ keyword ≠ .service := by
  have hline : d.line ∈ noted.map Site.number := h.lines ▸ List.mem_map_of_mem hd
  obtain ⟨site, hsite, hnumber⟩ := List.mem_map.mp hline
  have hmem : site ∈ sites ls := h.sublist.subset hsite
  obtain ⟨hindex, -⟩ := List.getElem?_eq_some_iff.mp (getElem?_of_mem_sites hmem)
  rw [← hnumber, keywordAt_number hmem, Site.number]
  exact ⟨by omega, by omega, h.keywords site hsite⟩

end Accounts

/-- Lines of each kind are accounted for by what was found and what was reported, and diagnostics
name lines that declare a call, a message or an enumeration, each line at most once and in order. -/
theorem declared_eq_found_add_reported (source : Text) :
    declared .service (lines source) = (findings source).schema.services.length ∧
    declared .rpc (lines source) = (findings source).schema.numCalls
      + reported .rpc (lines source) (findings source).diagnostics ∧
    declared .message (lines source) = (findings source).schema.messages.size
      + reported .message (lines source) (findings source).diagnostics ∧
    declared .enum (lines source) = (findings source).schema.enums.size
      + reported .enum (lines source) (findings source).diagnostics ∧
    ((findings source).diagnostics.map Diagnostic.line).Pairwise (· < ·) ∧
    ∀ d ∈ (findings source).diagnostics, 1 ≤ d.line ∧ d.line ≤ (split '\n' source).length ∧
      ∃ keyword ∈ [Keyword.rpc, Keyword.message, Keyword.enum],
        keywordAt (lines source) d.line = some keyword := by
  obtain ⟨noted, hnoted⟩ := exists_accounts (sites (lines source))
  rw [← findings_eq_foldl] at hnoted
  refine ⟨?_, hnoted.declared_eq .rpc, hnoted.declared_eq .message, hnoted.declared_eq .enum,
    hnoted.pairwise_line, fun d hd => ?_⟩
  · rw [hnoted.declared_eq .service, hnoted.reported_service]
    rfl
  · obtain ⟨hfirst, hlast, keyword, hkeyword, hne⟩ := hnoted.of_mem_diagnostics hd
    refine ⟨hfirst, length_lines source ▸ hlast, keyword, ?_, hkeyword⟩
    cases keyword with
    | service => exact absurd rfl hne
    | rpc | message | enum => decide

/-- A call before any service, and a message that is declared twice. -/
def carelessSource : Text :=
  "rpc Get (A) returns (B);\nmessage A \x7b\x7d\n message A \x7b\x7d".toList

theorem carelessSource_reported :
    ⟨3, .replacedMessage ['A']⟩ ∈ (findings carelessSource).diagnostics ∧
      1 ≤ 3 ∧ 3 ≤ (split '\n' carelessSource).length ∧
      ∃ keyword ∈ [Keyword.rpc, Keyword.message, Keyword.enum],
        keywordAt (lines carelessSource) 3 = some keyword := by
  have hmem : ⟨3, .replacedMessage ['A']⟩ ∈ (findings carelessSource).diagnostics := by
    decide +kernel
  obtain ⟨-, -, -, -, -, hlines⟩ := declared_eq_found_add_reported carelessSource
  exact ⟨hmem, hlines _ hmem⟩

end RpcReference.Source
