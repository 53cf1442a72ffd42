import RpcReference.Proofs.WellFormed
/-!
# The grammar of call lines

A call line is read by looking for its first and its last parentheses, and these searches know
nothing of each other. What they accept together is a grammar with one rule: the keyword, a name, a
request in parentheses, anything, a response in parentheses, a tail. No line can be written by this
rule in two ways, so the parts of a readable line are its own, and the signature says what the parts
say.
-/

namespace RpcReference.Source

open Text

structure CallParts where
  name : Text
  request : Text
  between : Text
  response : Text
  tail : Text

namespace CallParts

/-- The line that is written with the parts. -/
def text (p : CallParts) : Text :=
  Keyword.rpc.text ++ p.name ++ ['('] ++ p.request ++ [')'] ++ p.between ++ ['('] ++ p.response ++
    [')'] ++ p.tail

theorem text_eq (p : CallParts) :
    p.text = callText p.name p.request p.between p.response p.tail := by
  simp only [text, callText, List.append_assoc, List.cons_append, List.nil_append]

/-- The parentheses that are written between the parts are the first and the last ones of the line,
and the name and both groups hold more than blanks. -/
structure Proper (p : CallParts) : Prop where
  name : '(' ∉ p.name ∧ ')' ∉ p.name
  request : ')' ∉ p.request
  response : '(' ∉ p.response
  tail : '(' ∉ p.tail ∧ ')' ∉ p.tail
  solid : ∀ t ∈ [p.name, p.request, p.response], ¬ IsBlank t

instance (p : CallParts) : Decidable p.Proper :=
  decidable_of_iff
    (('(' ∉ p.name ∧ ')' ∉ p.name) ∧ ')' ∉ p.request ∧ '(' ∉ p.response ∧
      ('(' ∉ p.tail ∧ ')' ∉ p.tail) ∧ ∀ t ∈ [p.name, p.request, p.response], ¬ IsBlank t)
    ⟨fun h => ⟨h.1, h.2.1, h.2.2.1, h.2.2.2.1, h.2.2.2.2⟩,
      fun h => ⟨h.name, h.request, h.response, h.tail, h.solid⟩⟩

theorem forall_solid_iff {name request response : Text} :
    (∀ t ∈ [name, request, response], ¬ IsBlank t) ↔
      trim name ≠ [] ∧ trim request ≠ [] ∧ trim response ≠ [] := by
  simp [trim_eq_nil_iff]

theorem Proper.groups? {p : CallParts} (hp : p.Proper) :
    groups? p.text = some (p.name, p.request, p.response) := by
  rw [p.text_eq, groups?_eq_some_iff]
  exact ⟨p.between, p.tail, rfl, any_isParenthesis_eq_false_iff.mpr hp.name, hp.request,
    hp.response, any_isParenthesis_eq_false_iff.mpr hp.tail⟩

/-- The four cuts are made from the outside to the inside, and each of them is forced. -/
theorem Proper.eq_of_text_eq {p q : CallParts} (hp : p.Proper) (hq : q.Proper)
    (h : p.text = q.text) : p = q := by
  obtain ⟨name, request, between, response, tail⟩ := p
  obtain ⟨name', request', between', response', tail'⟩ := q
  rw [text_eq, text_eq] at h
  dsimp only [callText] at h
  obtain ⟨rfl, hbehindName⟩ :=
    append_cons_inj hp.name.1 hq.name.1 (List.append_cancel_left h)
  obtain ⟨rfl, hbehindRequest⟩ := append_cons_inj hp.request hq.request hbehindName
  obtain ⟨hfront, rfl⟩ := append_cons_inj_last hp.tail.2 hq.tail.2 hbehindRequest
  obtain ⟨rfl, rfl⟩ := append_cons_inj_last hp.response hq.response hfront
  rfl

end CallParts

/-- The signature is what the parts of a call line say. -/
structure Signature.Says (s : Signature) (p : CallParts) : Prop where
  name : s.name = trim p.name
  request : s.request = trim p.request
  stream : s.stream = (trim p.response).startsWith "stream ".toList
  plain : s.stream = false → s.response = trim p.response
  streamed : s.stream = true → ∃ rest, trim p.response = "stream ".toList ++ rest ∧
    s.response = trim rest ∧ s.response ≠ []

theorem Signature.Says.unique {s s' : Signature} {p : CallParts} (h : s.Says p) (h' : s'.Says p) :
    s = s' := by
  have hstream : s.stream = s'.stream := h.stream.trans h'.stream.symm
  have hresponse : s.response = s'.response := by
    cases hs : s.stream with
    | false => rw [h.plain hs, h'.plain (hstream ▸ hs)]
    | true =>
      obtain ⟨rest, hrest, hshown, -⟩ := h.streamed hs
      obtain ⟨rest', hrest', hshown', -⟩ := h'.streamed (hstream ▸ hs)
      rw [hshown, hshown', List.append_cancel_left (hrest.symm.trans hrest')]
  obtain ⟨name, request, response, stream⟩ := s
  obtain ⟨name', request', response', stream'⟩ := s'
  dsimp only at hstream hresponse
  rw [hstream, hresponse, show name = name' from h.name.trans h'.name.symm,
    show request = request' from h.request.trans h'.request.symm]

theorem CallParts.Proper.exists_signature {p : CallParts} (hp : p.Proper) :
    ∃ s, signature? p.text = some s ∧ s.Says p := by
  have hparts : (!(trim p.name).isEmpty && !(trim p.request).isEmpty &&
      !(trim p.response).isEmpty) = true := by
    simpa [and_assoc] using CallParts.forall_solid_iff.mp hp.solid
  unfold signature?
  rw [hp.groups?]
  dsimp only [Option.bind_eq_bind, Option.bind_some]
  rw [guard_eq_some hparts, Option.bind_some]
  cases hstream : stripStart? "stream ".toList (trim p.response) with
  | none =>
    have hstarts : (trim p.response).startsWith "stream ".toList = false := by
      rw [startsWith_eq_isSome, hstream]
      rfl
    exact ⟨_, rfl, rfl, rfl, hstarts.symm, fun _ => rfl, fun h => absurd h (by simp)⟩
  | some rest =>
    have hresponse := stripStart?_eq_some_iff.mp hstream
    have hstarts : (trim p.response).startsWith "stream ".toList = true :=
      startsWith_iff.mpr ⟨rest, hresponse⟩
    exact ⟨_, rfl, rfl, rfl, hstarts.symm, fun h => absurd h (by simp),
      fun _ => ⟨rest, hresponse, rfl, trim_ne_nil_of_streamed hresponse⟩⟩

theorem exists_parts_of_signature? {line : Text} (h : (signature? line).isSome = true) :
    ∃ p : CallParts, p.Proper ∧ p.text = line := by
  obtain ⟨s, hs⟩ := Option.isSome_iff_exists.mp h
  obtain ⟨name, request, response, hgroups, hof⟩ := exists_groups_of_signature? hs
  obtain ⟨between, tail, rfl, hname, hrequest, hresponse, htail⟩ := groups?_eq_some_iff.mp hgroups
  refine ⟨⟨name, request, between, response, tail⟩, ⟨any_isParenthesis_eq_false_iff.mp hname,
    hrequest, hresponse, any_isParenthesis_eq_false_iff.mp htail, ?_⟩, CallParts.text_eq _⟩
  exact CallParts.forall_solid_iff.mpr
    ⟨hof.name_eq ▸ hof.name_ne_nil, hof.request_eq ▸ hof.request_ne_nil, hof.response_ne_nil⟩

/-- The word before the response of a call that streams. -/
def streamMark (stream : Bool) : Text :=
  if stream then "stream ".toList else []

theorem trim_streamMark_append {response : Text} (stream : Bool) (hne : response ≠ [])
    (htrim : trim response = response) :
    trim (streamMark stream ++ response) = streamMark stream ++ response := by
  cases stream with
  | false => exact htrim
  | true =>
    refine trimWhile_eq_self_iff.mpr ⟨List.dropWhile_cons_of_neg (by decide), ?_⟩
    exact dropEndWhile_append_of_ne_nil _ hne (trimWhile_eq_self_iff.mp htrim).2

/-- Trimmed texts without parentheses are given back as they were written. -/
theorem signature?_returns {name request response tail : Text} (stream : Bool)
    (hparts : ∀ t ∈ [name, request, response], t ≠ [] ∧ trim t = t ∧ '(' ∉ t ∧ ')' ∉ t)
    (htail : '(' ∉ tail ∧ ')' ∉ tail) (hstarts : response.startsWith "stream ".toList = false) :
    signature? (CallParts.text
      ⟨name, request, " returns ".toList, streamMark stream ++ response, tail⟩) =
        some ⟨name, request, response, stream⟩ := by
  obtain ⟨hname_ne, hname, hname_quiet⟩ := hparts name (by simp)
  obtain ⟨hrequest_ne, hrequest, -, hrequest_quiet⟩ := hparts request (by simp)
  obtain ⟨hresponse_ne, hresponse, hresponse_quiet, -⟩ := hparts response (by simp)
  have hshown := trim_streamMark_append stream hresponse_ne hresponse
  have hmark : '(' ∉ streamMark stream := by cases stream <;> decide
  have hproper : CallParts.Proper
      ⟨name, request, " returns ".toList, streamMark stream ++ response, tail⟩ := by
    refine ⟨hname_quiet, hrequest_quiet, ?_, htail, CallParts.forall_solid_iff.mpr ?_⟩
    · exact fun hmem => (List.mem_append.mp hmem).elim hmark hresponse_quiet
    · rw [hname, hrequest, hshown]
      exact ⟨hname_ne, hrequest_ne, List.append_ne_nil_of_right_ne_nil _ hresponse_ne⟩
  have hwritten : Signature.Says ⟨name, request, response, stream⟩
      ⟨name, request, " returns ".toList, streamMark stream ++ response, tail⟩ := by
    cases stream with
    | false => exact ⟨hname.symm, hrequest.symm, by rw [hshown]; exact hstarts.symm,
        fun _ => hresponse.symm, fun h => absurd h (by simp)⟩
    | true => exact ⟨hname.symm, hrequest.symm, by rw [hshown]; rfl, fun h => absurd h (by simp),
        fun _ => ⟨response, hshown, hresponse.symm, hresponse_ne⟩⟩
  obtain ⟨s, hs, hsays⟩ := hproper.exists_signature
  rw [hs, hsays.unique hwritten]

/-- A line is read as a call exactly if it can be written with proper parts. It can be written so in
one way only, and what is read is what the parts say. -/
theorem signature?_iff_proper_parts (line : Text) :
    ((signature? line).isSome = true ↔ ∃ p : CallParts, p.Proper ∧ p.text = line) ∧
    (∀ p q : CallParts, p.Proper → q.Proper → p.text = line → q.text = line → p = q) ∧
    (∀ p : CallParts, p.Proper → p.text = line → ∃ s, signature? line = some s ∧ s.Says p) ∧
    (∀ (name request response tail : Text) (stream : Bool),
      (∀ t ∈ [name, request, response], t ≠ [] ∧ trim t = t ∧ '(' ∉ t ∧ ')' ∉ t) →
      '(' ∉ tail ∧ ')' ∉ tail → response.startsWith "stream ".toList = false →
      line = CallParts.text
        ⟨name, request, " returns ".toList, streamMark stream ++ response, tail⟩ →
      signature? line = some ⟨name, request, response, stream⟩) := by
  refine ⟨⟨exists_parts_of_signature?, ?_⟩, ?_, ?_, ?_⟩
  · rintro ⟨p, hp, rfl⟩
    obtain ⟨s, hs, -⟩ := hp.exists_signature
    rw [hs]
    rfl
  · rintro p q hp hq rfl heq
    exact hp.eq_of_text_eq hq heq.symm
  · rintro p hp rfl
    exact hp.exists_signature
  · rintro name request response tail stream hparts htail hresponse rfl
    exact signature?_returns stream hparts htail hresponse

/-- A call line with further parentheses inside and between its groups. -/
def watchParts : CallParts :=
  ⟨"Watch ".toList, " Topic(v1 ".toList, " returns) x (".toList, " stream  Note ".toList,
    " \x7b \x7d".toList⟩

theorem signature?_watchParts :
    watchParts.Proper ∧
    signature? watchParts.text = some ⟨"Watch".toList, "Topic(v1".toList, "Note".toList, true⟩ ∧
    (∀ q : CallParts, q.Proper → q.text = watchParts.text → q = watchParts) ∧
    signature? (CallParts.text
      ⟨"Get".toList, "Key".toList, " returns ".toList, "stream Entry".toList, ";".toList⟩) =
        some ⟨"Get".toList, "Key".toList, "Entry".toList, true⟩ := by
  obtain ⟨-, hunique, hresult, -⟩ := signature?_iff_proper_parts watchParts.text
  have hproper : watchParts.Proper := by decide +kernel
  have hsays : Signature.Says ⟨"Watch".toList, "Topic(v1".toList, "Note".toList, true⟩ watchParts :=
    ⟨by decide, by decide, by decide, by decide, fun _ => ⟨" Note".toList, by decide⟩⟩
  refine ⟨hproper, ?_, fun q hq hline => hunique q watchParts hq hproper hline rfl, ?_⟩
  · obtain ⟨s, hs, hsame⟩ := hresult watchParts hproper rfl
    rw [hs, hsame.unique hsays]
  · exact (signature?_iff_proper_parts _).2.2.2 "Get".toList "Key".toList "Entry".toList ";".toList
      true (by decide) (by decide) (by decide) rfl

end RpcReference.Source
