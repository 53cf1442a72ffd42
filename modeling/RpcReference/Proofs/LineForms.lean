import Mathlib.Data.Option.Basic
import RpcReference.Proofs.WrittenLines
/-!
# Forms of lines

The readers of a line make several cuts and compare what these leave. What they accept in the end is
one way to write the line: a call line is a name, a request in parentheses, anything, a response in
parentheses and a tail; a map field is a key type, a value type, a name and a rest. The laws about
calls and fields use these forms and do not go back to the cuts.
-/

namespace RpcReference.Source

open Text

/-! ### Calls -/

/-- The text of a call line with the given parts. -/
def callText (name request between response tail : Text) : Text :=
  Keyword.rpc.text ++ (name ++ '(' :: (request ++ ')' ::
    ((between ++ '(' :: response) ++ ')' :: tail)))

theorem groups?_eq_some_iff {line name request response : Text} :
    groups? line = some (name, request, response) ↔
      ∃ between tail, line = callText name request between response tail ∧
        name.any isParenthesis = false ∧ ')' ∉ request ∧ '(' ∉ response ∧
        tail.any isParenthesis = false := by
  constructor
  · intro h
    simp only [groups?, Option.bind_eq_bind, Option.bind_eq_some_iff] at h
    obtain ⟨rest, hrest, ⟨n, opened⟩, hopen, ⟨q, closed⟩, hclose, ⟨front, tail⟩, hlast,
      ⟨between, r⟩, hfirst, _, hguard, hresult⟩ := h
    cases hresult
    have hquiet := of_guard_eq_some hguard
    rw [Bool.and_eq_true, Bool.not_eq_true', Bool.not_eq_true'] at hquiet
    obtain ⟨rfl, -⟩ := cut?_eq_some_iff.mp hopen
    obtain ⟨rfl, hrequest⟩ := cut?_eq_some_iff.mp hclose
    obtain ⟨rfl, -⟩ := cutLast?_eq_some_iff.mp hlast
    obtain ⟨rfl, hresponse⟩ := cutLast?_eq_some_iff.mp hfirst
    exact ⟨between, tail, stripStart?_eq_some_iff.mp hrest, hquiet.1, hrequest, hresponse, hquiet.2⟩
  · rintro ⟨between, tail, rfl, hname, hrequest, hresponse, htail⟩
    exact groups?_append hname hrequest hresponse htail

theorem any_isParenthesis_eq_false_iff {t : Text} :
    t.any isParenthesis = false ↔ '(' ∉ t ∧ ')' ∉ t := by
  rw [List.any_eq_false]
  constructor
  · intro h
    exact ⟨fun hmem => h '(' hmem rfl, fun hmem => h ')' hmem rfl⟩
  · rintro ⟨hopen, hclose⟩ c hmem hc
    rw [isParenthesis, Bool.or_eq_true, beq_iff_eq, beq_iff_eq] at hc
    rcases hc with rfl | rfl
    · exact hopen hmem
    · exact hclose hmem

/-- What a readable call line says, in terms of its groups. -/
structure Signature.Of (s : Signature) (name request response : Text) : Prop where
  name_eq : s.name = trim name
  name_ne_nil : s.name ≠ []
  request_eq : s.request = trim request
  request_ne_nil : s.request ≠ []
  response_ne_nil : trim response ≠ []
  response_eq : s.stream = false ∧ s.response = trim response ∨
    s.stream = true ∧ ∃ streamed, trim response = "stream ".toList ++ streamed ∧
      s.response = trim streamed

theorem exists_groups_of_signature? {line : Text} {s : Signature} (h : signature? line = some s) :
    ∃ name request response, groups? line = some (name, request, response) ∧
      s.Of name request response := by
  simp only [signature?, Option.bind_eq_bind, Option.bind_eq_some_iff] at h
  obtain ⟨⟨name, request, response⟩, hgroups, _, hguard, hresult⟩ := h
  refine ⟨name, request, response, hgroups, ?_⟩
  have hparts := of_guard_eq_some hguard
  simp only [Bool.and_eq_true, Bool.not_eq_true', List.isEmpty_eq_false_iff] at hparts
  obtain ⟨⟨hname, hrequest⟩, hresponse⟩ := hparts
  dsimp only at hresult
  cases hstream : stripStart? "stream ".toList (trim response) with
  | none =>
    rw [hstream] at hresult
    cases hresult
    exact ⟨rfl, hname, rfl, hrequest, hresponse, .inl ⟨rfl, rfl⟩⟩
  | some streamed =>
    rw [hstream] at hresult
    cases hresult
    exact ⟨rfl, hname, rfl, hrequest, hresponse,
      .inr ⟨rfl, streamed, stripStart?_eq_some_iff.mp hstream, rfl⟩⟩

theorem declaration?_of_signature? {line : Text} {signature : Signature}
    (h : signature? line = some signature) : ∃ rest, declaration? line = some (.rpc, rest) := by
  obtain ⟨name, request, response, hgroups, -⟩ := exists_groups_of_signature? h
  obtain ⟨between, tail, hline, -⟩ := groups?_eq_some_iff.mp hgroups
  exact ⟨_, declaration?_eq_some_iff.mpr hline⟩

/-! ### Fields -/

/-- The text behind the opening bracket of a map field with the given parts. -/
def mapText (key value name tail : Text) : Text :=
  (key ++ ',' :: value) ++ '>' :: (name ++ '=' :: tail)

theorem mapField?_eq_some_iff {rest : Text} {head : FieldHead} :
    mapField? rest = some head ↔
      ∃ key value name tail, rest = mapText key value name tail ∧
        '>' ∉ key ++ ',' :: value ∧ '=' ∉ key ++ ',' :: value ∧ ',' ∉ key ∧ '=' ∉ name ∧
        trim name ≠ [] ∧ head = ⟨trim name, trim value, false, some (trim key)⟩ := by
  constructor
  · intro h
    simp only [mapField?, Option.bind_eq_bind, Option.bind_eq_some_iff] at h
    obtain ⟨⟨types, behind⟩, hbracket, _, hequals, ⟨key, value⟩, htypes, ⟨name, tail⟩, hbehind, _,
      hne, hresult⟩ := h
    cases hresult
    obtain ⟨rfl, hclose⟩ := cut?_eq_some_iff.mp hbracket
    obtain ⟨rfl, hcomma⟩ := cut?_eq_some_iff.mp htypes
    obtain ⟨rfl, hname⟩ := cut?_eq_some_iff.mp hbehind
    refine ⟨key, value, name, tail, rfl, hclose, ?_, hcomma, hname, ?_, rfl⟩
    · simpa using of_guard_eq_some hequals
    · simpa using of_guard_eq_some hne
  · rintro ⟨key, value, name, tail, rfl, hclose, hequals, hcomma, hname, hne, rfl⟩
    exact mapField?_append hclose hequals hcomma hname hne

/-- A plain field takes its type and its name from the first three words of the line. -/
theorem exists_of_plainField? {ws : List Text} {head : FieldHead} (h : plainField? ws = some head) :
    head.name ∈ ws ∧ head.type ∈ ws ∧ head.key = none := by
  match ws, h with
  | first :: second :: third :: fourth :: rest, h =>
    rw [plainField?_cons] at h
    split at h
    · cases h
      exact ⟨by simp, by simp, rfl⟩
    · cases h
      exact ⟨by simp, by simp, rfl⟩

/-! ### Enumerations -/

theorem bodyOnLine?_eq_some_iff {line body : Text} :
    bodyOnLine? line = some body ↔
      ∃ front tail, line = front ++ '{' :: (body ++ '}' :: tail) ∧ '{' ∉ front ∧ '}' ∉ tail := by
  simp only [bodyOnLine?, Option.bind_eq_bind, Option.bind_eq_some_iff]
  constructor
  · rintro ⟨⟨front, opened⟩, hcut, ⟨inner, tail⟩, hlast, hresult⟩
    cases hresult
    obtain ⟨rfl, hopen⟩ := cut?_eq_some_iff.mp hcut
    obtain ⟨rfl, hclose⟩ := cutLast?_eq_some_iff.mp hlast
    exact ⟨front, tail, rfl, hopen, hclose⟩
  · rintro ⟨front, tail, rfl, hopen, hclose⟩
    exact ⟨(front, body ++ '}' :: tail), cut?_eq_some_iff.mpr ⟨rfl, hopen⟩, (body, tail),
      cutLast?_eq_some_iff.mpr ⟨rfl, hclose⟩, rfl⟩

end RpcReference.Source
