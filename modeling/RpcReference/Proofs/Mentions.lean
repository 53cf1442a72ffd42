import RpcReference.Proofs.LineForms
import RpcReference.Proofs.Steps
/-!
# Names are taken from the file

The names of services and calls, the types of requests and responses, and what a diagnostic quotes
are all cut out of a line of the file. So they have no characters that the file does not have. This
is what can be said about a text that is shown to a user without a look at the file.
-/

namespace RpcReference.Source

open Text

/-- The text that a concern quotes from the file. -/
def Concern.quotation : Concern → Text
  | .malformedCall line => line
  | .orphanCall name => name
  | .namelessMessage => []
  | .replacedMessage name => name
  | .namelessEnum => []
  | .replacedEnum name => name

/-- The texts of a call that name it or a type. -/
def callMentions (c : Call) : List Text :=
  [c.name, c.request, c.response]

def serviceMentions (s : Service) : List Text :=
  s.name :: s.calls.flatMap callMentions

/-- The findings mention nothing but what is made of characters of `source`. -/
structure Findings.TakenFrom (f : Findings) (source : Text) : Prop where
  services : ∀ s ∈ f.schema.services, ∀ m ∈ serviceMentions s, m ⊆ source
  diagnostics : ∀ d ∈ f.diagnostics, d.concern.quotation ⊆ source

/-! ### Cuts -/

theorem trim_subset (t : Text) : trim t ⊆ t :=
  (isInfix_trimWhile isBlank t).subset

theorem nameBeforeBrace_subset {line rest : Text} {keyword : Keyword}
    (hline : declaration? line = some (keyword, rest)) : nameBeforeBrace rest ⊆ line := by
  rw [declaration?_eq_some_iff.mp hline]
  intro c hc
  have hrest : c ∈ rest := (List.takeWhile_prefix _).subset (trim_subset _ hc)
  exact List.mem_append_right _ hrest

theorem messageName_subset {line rest : Text} {keyword : Keyword}
    (hline : declaration? line = some (keyword, rest)) : messageName rest ⊆ line := by
  intro c hc
  exact nameBeforeBrace_subset hline (List.mem_of_mem_filter hc)

theorem signature?_subset {line : Text} {s : Signature} (h : signature? line = some s) :
    s.name ⊆ line ∧ s.request ⊆ line ∧ s.response ⊆ line := by
  obtain ⟨name, request, response, hgroups, hs⟩ := exists_groups_of_signature? h
  obtain ⟨between, tail, rfl, -⟩ := groups?_eq_some_iff.mp hgroups
  have hresponse : s.response ⊆ response := by
    rcases hs.response_eq with ⟨-, heq⟩ | ⟨-, streamed, hstreamed, heq⟩
    · rw [heq]
      exact trim_subset response
    · intro c hc
      apply trim_subset response
      rw [hstreamed]
      rw [heq] at hc
      exact List.mem_append_right _ (trim_subset streamed hc)
  rw [hs.name_eq, hs.request_eq]
  refine ⟨fun c hc => ?_, fun c hc => ?_, fun c hc => ?_⟩
  · simp [callText, trim_subset name hc]
  · simp [callText, trim_subset request hc]
  · simp [callText, hresponse hc]

/-! ### Lines -/

variable {f next : Findings} {site : Site} {source : Text}

theorem Findings.TakenFrom.report (hf : f.TakenFrom source) {concern : Concern}
    (hconcern : concern.quotation ⊆ source) : (f.report site concern).TakenFrom source := by
  refine ⟨hf.services, fun d hd => ?_⟩
  rcases List.mem_append.mp hd with hd | hd
  · exact hf.diagnostics d hd
  · rw [List.mem_singleton.mp hd]
    exact hconcern

theorem Findings.TakenFrom.step (hf : f.TakenFrom source) (hsite : site.line ⊆ source)
    (hstep : f.Step site next) : next.TakenFrom source := by
  cases hstep with
  | undeclared => exact hf
  | @service rest hline =>
    refine ⟨fun s hs => ?_, hf.diagnostics⟩
    rcases List.mem_append.mp hs with hs | hs
    · exact hf.services s hs
    · intro m hm
      rw [List.mem_singleton.mp hs] at hm
      cases hm with
      | head => exact List.Subset.trans (nameBeforeBrace_subset hline) hsite
      | tail _ hnone => cases hnone
  | malformedCall =>
    exact hf.report (List.Subset.trans (List.rdropWhile_prefix _ _).subset hsite)
  | orphanCall _ hsignature _ =>
    exact hf.report (List.Subset.trans (signature?_subset hsignature).1 hsite)
  | @call rest signature earlier latest hline hsignature hservices =>
    obtain ⟨hname, hrequest, hresponse⟩ := signature?_subset hsignature
    have hcall : ∀ m ∈ callMentions (readCall site signature), m ⊆ source := by
      intro m hm
      simp only [callMentions, readCall, List.mem_cons, List.not_mem_nil, or_false] at hm
      obtain rfl | rfl | rfl := hm
      · exact List.Subset.trans hname hsite
      · exact List.Subset.trans hrequest hsite
      · exact List.Subset.trans hresponse hsite
    refine ⟨fun s hs => ?_, hf.diagnostics⟩
    rcases List.mem_append.mp hs with hs | hs
    · exact hf.services s (by simp [hservices, hs])
    · intro m hm
      rw [List.mem_singleton.mp hs, serviceMentions, List.flatMap_append, ← List.cons_append,
        List.mem_append, List.flatMap_singleton] at hm
      rcases hm with hold | hnew
      · exact hf.services latest (by simp [hservices]) m hold
      · exact hcall m hnew
  | namelessMessage | namelessEnum => exact hf.report (List.nil_subset _)
  | newMessage | newEnum => exact ⟨hf.services, hf.diagnostics⟩
  | replacedMessage hline hname _ _ =>
    subst hname
    apply Findings.TakenFrom.report
    · exact ⟨hf.services, hf.diagnostics⟩
    · exact List.Subset.trans (messageName_subset hline) hsite
  | replacedEnum hline hname _ _ =>
    subst hname
    apply Findings.TakenFrom.report
    · exact ⟨hf.services, hf.diagnostics⟩
    · exact List.Subset.trans (nameBeforeBrace_subset hline) hsite

/-! ### The whole file -/

theorem takenFrom_foldl_readLine {xs : List Site} (hxs : ∀ site ∈ xs, site.line ⊆ source)
    (hf : f.TakenFrom source) : (xs.foldl Findings.readLine f).TakenFrom source := by
  induction xs generalizing f with
  | nil => exact hf
  | cons site xs ih =>
    obtain ⟨hsite, hxs⟩ := List.forall_mem_cons.mp hxs
    exact ih hxs (hf.step hsite (f.step_readLine site))

theorem subset_of_mem_lines {line : Text} (h : line ∈ lines source) : line ⊆ source := by
  obtain ⟨piece, hpiece, rfl⟩ := List.mem_map.mp h
  intro c hc
  apply subset_of_mem_splitWhere hpiece
  have hreturn : c ∈ dropReturn piece := (List.dropWhile_suffix isBlank).subset hc
  unfold dropReturn at hreturn
  split at hreturn
  · exact (List.dropLast_prefix piece).subset hreturn
  · exact hreturn

theorem takenFrom_findings (source : Text) : (findings source).TakenFrom source := by
  have hempty : Findings.empty.TakenFrom source := ⟨List.forall_mem_nil _, List.forall_mem_nil _⟩
  rw [findings_eq_foldl]
  refine takenFrom_foldl_readLine (fun site hsite => subset_of_mem_lines ?_) hempty
  exact List.mem_of_getElem? (getElem?_of_mem_sites hsite)

end RpcReference.Source
