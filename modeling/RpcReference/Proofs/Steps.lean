import RpcReference.Proofs.Sites
/-!
# What reading a line can do

A line without a keyword does nothing. Any other line either adds one declaration to the findings or
reports a concern, and a declaration that takes the place of an earlier one does both. The relation
`Step` lists these outcomes with the condition of each, so that a law about reading is one case for
every constructor.
-/

namespace RpcReference.Source

open Text

theorem addCall_concat (call : Call) (earlier : List Service) (service : Service) :
    addCall call (earlier ++ [service]) =
      some (earlier ++ [{ service with calls := service.calls ++ [call] }]) := by
  induction earlier with
  | nil => rfl
  | cons first earlier ih =>
    obtain ⟨next, rest, hrest⟩ := List.exists_cons_of_ne_nil
      (show earlier ++ [service] ≠ [] by simp)
    rw [List.cons_append, hrest, addCall, ← hrest, ih]
    · rfl
    · simp

namespace Findings

variable {f : Findings} {site : Site} {rest : Text}

/-- The outcomes of reading the line at `site` after `f`. -/
inductive Step (f : Findings) (site : Site) : Findings → Prop
  | undeclared (hline : declaration? site.line = none) : Step f site f
  | service {rest : Text} (hline : declaration? site.line = some (.service, rest)) :
      Step f site (f.addService site rest)
  | malformedCall {rest : Text} (hline : declaration? site.line = some (.rpc, rest))
      (hsignature : signature? site.line = none) :
      Step f site (f.report site (.malformedCall (trimEnd site.line)))
  | orphanCall {rest : Text} {signature : Signature}
      (hline : declaration? site.line = some (.rpc, rest))
      (hsignature : signature? site.line = some signature) (hservices : f.schema.services = []) :
      Step f site (f.report site (.orphanCall signature.name))
  | call {rest : Text} {signature : Signature} {earlier : List Service} {latest : Service}
      (hline : declaration? site.line = some (.rpc, rest))
      (hsignature : signature? site.line = some signature)
      (hservices : f.schema.services = earlier ++ [latest]) :
      Step f site
        { f with schema := { f.schema with services :=
          earlier ++ [{ latest with calls := latest.calls ++ [readCall site signature] }] } }
  | namelessMessage {rest : Text} (hline : declaration? site.line = some (.message, rest))
      (hname : messageName rest = []) : Step f site (f.report site .namelessMessage)
  | newMessage {rest name : Text} (hline : declaration? site.line = some (.message, rest))
      (hname : messageName rest = name) (hne : name ≠ []) (hnew : name ∉ f.schema.messages.keys) :
      Step f site
        { f with schema := { f.schema with
          messages := f.schema.messages.insert name (readMessage site name) } }
  | replacedMessage {rest name : Text} (hline : declaration? site.line = some (.message, rest))
      (hname : messageName rest = name) (hne : name ≠ []) (hold : name ∈ f.schema.messages.keys) :
      Step f site
        (report { f with schema := { f.schema with
          messages := f.schema.messages.insert name (readMessage site name) } }
          site (.replacedMessage name))
  | namelessEnum {rest : Text} (hline : declaration? site.line = some (.enum, rest))
      (hname : nameBeforeBrace rest = []) : Step f site (f.report site .namelessEnum)
  | newEnum {rest name : Text} (hline : declaration? site.line = some (.enum, rest))
      (hname : nameBeforeBrace rest = name) (hne : name ≠ []) (hnew : name ∉ f.schema.enums.keys) :
      Step f site
        { f with schema := { f.schema with
          enums := f.schema.enums.insert name (readEnum site name) } }
  | replacedEnum {rest name : Text} (hline : declaration? site.line = some (.enum, rest))
      (hname : nameBeforeBrace rest = name) (hne : name ≠ []) (hold : name ∈ f.schema.enums.keys) :
      Step f site
        (report { f with schema := { f.schema with
          enums := f.schema.enums.insert name (readEnum site name) } }
          site (.replacedEnum name))

theorem step_addRpc (hline : declaration? site.line = some (.rpc, rest)) :
    Step f site (f.addRpc site) := by
  cases hsignature : signature? site.line with
  | none =>
    rw [addRpc, hsignature]
    exact .malformedCall hline hsignature
  | some signature =>
    rcases List.eq_nil_or_concat' f.schema.services with hservices | ⟨earlier, latest, hservices⟩
    · simp only [addRpc, hsignature, hservices, addCall]
      exact .orphanCall hline hsignature hservices
    · simp only [addRpc, hsignature, hservices, addCall_concat]
      exact .call hline hsignature hservices

theorem step_addMessage (hline : declaration? site.line = some (.message, rest)) :
    Step f site (f.addMessage site rest) := by
  simp only [addMessage]
  split
  · next hname => exact .namelessMessage hline (List.isEmpty_iff.mp hname)
  · next hname =>
    have hne : messageName rest ≠ [] := fun heq => hname (List.isEmpty_iff.mpr heq)
    split
    · next hold => exact .replacedMessage hline rfl hne ((Table.contains_iff_mem_keys _ _).mp hold)
    · next hnew =>
      exact .newMessage hline rfl hne fun hmem => hnew ((Table.contains_iff_mem_keys _ _).mpr hmem)

theorem step_addEnum (hline : declaration? site.line = some (.enum, rest)) :
    Step f site (f.addEnum site rest) := by
  simp only [addEnum]
  split
  · next hname => exact .namelessEnum hline (List.isEmpty_iff.mp hname)
  · next hname =>
    have hne : nameBeforeBrace rest ≠ [] := fun heq => hname (List.isEmpty_iff.mpr heq)
    split
    · next hold => exact .replacedEnum hline rfl hne ((Table.contains_iff_mem_keys _ _).mp hold)
    · next hnew =>
      exact .newEnum hline rfl hne fun hmem => hnew ((Table.contains_iff_mem_keys _ _).mpr hmem)

theorem step_readLine (f : Findings) (site : Site) : Step f site (f.readLine site) := by
  unfold readLine
  split
  · next hline => exact .undeclared hline
  · next hline => exact .service hline
  · next hline => exact step_addRpc hline
  · next hline => exact step_addMessage hline
  · next hline => exact step_addEnum hline

end Findings

end RpcReference.Source
