import RpcReference.Proofs.LineForms
import RpcReference.Proofs.Steps
import RpcReference.Proofs.WrittenComments
/-!
# Everything that is found is well formed

The types of a schema allow any text anywhere. What reading puts there is much narrower: names are
not empty, types carry no braces, comments carry no marks at their ends, and apart from commands
nothing runs over more than one line. Each of these facts comes from one cut or one trim of one
reader, so there is a lemma for every reader, a step lemma for one line, and the whole file by
induction.
-/

namespace RpcReference

open Text Source

/-! ### What well formed means -/

/-- The texts of a field but for its comment. -/
def Field.terms (f : Field) : List Text :=
  f.name :: f.type :: f.key.toList

structure Field.WellFormed (f : Field) : Prop where
  name_ne_nil : f.name ≠ []
  not_both : ¬ (f.repeated = true ∧ f.isKeyed = true)
  braceless : ∀ t ∈ f.terms, '{' ∉ t ∧ '}' ∉ t
  unkeyed : f.isKeyed = false → ∀ c ∈ f.name ++ f.type, isBlank c = false
  keyed : f.isKeyed = true → ∀ t ∈ f.terms, trim t = t
  comment : IsRemark f.comment
  one_line : ∀ t ∈ f.terms, '\n' ∉ t

structure Message.WellFormed (m : Message) : Prop where
  name_ne_nil : m.name ≠ []
  name : ∀ c ∈ m.name, isBlank c = false ∧ c ≠ '{' ∧ c ≠ '}'
  fields : ∀ f ∈ m.fields, f.WellFormed

structure Enumeration.WellFormed (e : Enumeration) : Prop where
  name_ne_nil : e.name ≠ []
  name_trimmed : trim e.name = e.name
  name_braceless : '{' ∉ e.name
  values : ∀ v ∈ e.values, v ≠ [] ∧ trim v = v ∧ '=' ∉ v
  comment : IsRemark e.comment
  one_line : ∀ t ∈ e.name :: e.values, '\n' ∉ t

structure Call.WellFormed (c : Call) : Prop where
  parts : ∀ t ∈ [c.name, c.request, c.response], t ≠ [] ∧ trim t = t ∧ '\n' ∉ t
  name : c.name.any isParenthesis = false
  request : ')' ∉ c.request
  response : '(' ∉ c.response
  comment : IsRemark c.comment
  /-- Commands stand on lines of their own. -/
  shell : ∀ commands ∈ c.shell, ∃ ls, ls ≠ [] ∧ (∀ l ∈ ls, l ≠ [] ∧ '\n' ∉ l) ∧
    commands = join ['\n'] ls

structure Service.WellFormed (s : Service) : Prop where
  one_line : '\n' ∉ s.name
  comment : IsRemark s.comment
  calls : ∀ c ∈ s.calls, c.WellFormed

structure Schema.WellFormed (s : Schema) : Prop where
  services : ∀ service ∈ s.services, service.WellFormed
  messages : ∀ entry ∈ s.messages.entries, entry.1 = entry.2.name ∧ entry.2.WellFormed
  enums : ∀ entry ∈ s.enums.entries, entry.1 = entry.2.name ∧ entry.2.WellFormed

theorem Table.mem_insert {α : Type} {t : Table α} {key : Text} {value : α} {entry : Text × α}
    (h : entry ∈ (t.insert key value).entries) : entry = (key, value) ∨ entry ∈ t.entries := by
  change entry ∈ put key value t.entries at h
  generalize t.entries = entries at h ⊢
  induction entries with
  | nil => exact Or.inl (List.mem_singleton.mp h)
  | cons first rest ih =>
    obtain ⟨k, v⟩ := first
    rw [put] at h
    split at h
    · next hk =>
      subst hk
      rcases List.mem_cons.mp h with rfl | h
      · exact Or.inl rfl
      · exact Or.inr (List.mem_cons_of_mem _ h)
    · rcases List.mem_cons.mp h with rfl | h
      · exact Or.inr List.mem_cons_self
      · exact (ih h).imp_right (List.mem_cons_of_mem _)

end RpcReference

namespace RpcReference.Source

open Text

theorem not_mem_trim {c : Char} {t : Text} (h : c ∉ t) : c ∉ trim t :=
  fun hmem => h ((isInfix_trimWhile isBlank t).subset hmem)

/-! ### Comments -/

theorem isFragment_of_mem_commentAbove {style : CommentForm} {above : List Text}
    (habove : ∀ line ∈ above, '\n' ∉ line) : ∀ f ∈ commentAbove style above, IsFragment f := by
  intro f hf
  rw [commentAbove, List.mem_reverse, List.mem_filter] at hf
  obtain ⟨hmap, hne⟩ := hf
  obtain ⟨line, hline, rfl⟩ := List.mem_map.mp hmap
  have hnewline := habove line ((List.takeWhile_prefix _).subset hline)
  refine ⟨⟨fun hmem => hnewline ?_, trimWhile_trimWhile isCommentMark line⟩, by simpa using hne⟩
  exact (isInfix_trimWhile isCommentMark line).subset hmem

theorem isRemark_nil : IsRemark [] := by decide

theorem isRemark_addFragment {comment fragment : Text} (hcomment : IsRemark comment)
    (hfragment : IsRemark fragment) : IsRemark (addFragment comment fragment) := by
  unfold addFragment
  split
  · exact hcomment
  · next hfragment_ne =>
    split
    · exact hfragment
    · next hcomment_ne =>
      rw [List.isEmpty_iff] at hfragment_ne hcomment_ne
      obtain ⟨hcomment_start, -⟩ := trimWhile_eq_self_iff.mp hcomment.2
      obtain ⟨-, hfragment_end⟩ := trimWhile_eq_self_iff.mp hfragment.2
      refine ⟨?_, trimWhile_eq_self_iff.mpr ⟨?_, ?_⟩⟩
      · simp [hcomment.1, hfragment.1]
      · obtain ⟨c, rest, rfl⟩ := List.exists_cons_of_ne_nil hcomment_ne
        have hc : ¬ isCommentMark c = true := List.dropWhile_eq_self_iff.mp hcomment_start (by simp)
        exact List.dropWhile_cons_of_neg hc
      · rw [List.append_cons]
        exact dropEndWhile_append_of_ne_nil _ hfragment_ne hfragment_end

theorem isRemark_foldl_addFragment {fragments : List Text} (h : ∀ f ∈ fragments, IsRemark f)
    {comment : Text} (hcomment : IsRemark comment) :
    IsRemark (fragments.foldl addFragment comment) := by
  induction fragments generalizing comment with
  | nil => exact hcomment
  | cons f fragments ih =>
    obtain ⟨hf, hfragments⟩ := List.forall_mem_cons.mp h
    exact ih hfragments (isRemark_addFragment hcomment hf)

theorem join_cons_eq_foldl {fragments : List Text} (h : ∀ f ∈ fragments, f ≠ []) {comment : Text}
    (hcomment : comment ≠ []) :
    joinFragments (comment :: fragments) = fragments.foldl addFragment comment := by
  induction fragments generalizing comment with
  | nil => simp [joinFragments, join]
  | cons f fragments ih =>
    obtain ⟨hf, hfragments⟩ := List.forall_mem_cons.mp h
    have hadd : addFragment comment f = comment ++ ' ' :: f := by
      simp [addFragment, hcomment, hf]
    have hjoin : joinFragments (comment :: f :: fragments) =
        joinFragments ((comment ++ ' ' :: f) :: fragments) := by
      cases fragments <;> simp [joinFragments, join, List.intercalate]
    rw [List.foldl_cons, hadd, hjoin, ih hfragments (by simp)]

/-- Adding fragments one by one and joining them come to the same. -/
theorem joinFragments_eq_foldl {fragments : List Text} (h : ∀ f ∈ fragments, f ≠ []) :
    joinFragments fragments = fragments.foldl addFragment [] := by
  cases fragments with
  | nil => rfl
  | cons f fragments =>
    obtain ⟨hf, hfragments⟩ := List.forall_mem_cons.mp h
    have hadd : addFragment [] f = f := by simp [addFragment, hf]
    rw [List.foldl_cons, hadd, join_cons_eq_foldl hfragments hf]

theorem isRemark_joinFragments {fragments : List Text} (h : ∀ f ∈ fragments, IsFragment f) :
    IsRemark (joinFragments fragments) := by
  rw [joinFragments_eq_foldl fun f hf => (h f hf).2]
  exact isRemark_foldl_addFragment (fun f hf => (h f hf).1) isRemark_nil

/-! ### Calls -/

theorem isRemark_callComment {fragments : List Text} (h : ∀ f ∈ fragments, IsFragment f) :
    IsRemark (callComment fragments) :=
  isRemark_foldl_addFragment (fun f hf => (h f (List.mem_of_mem_filter hf)).1) isRemark_nil

theorem commands_callShell {fragments : List Text} (h : ∀ f ∈ fragments, IsFragment f) :
    ∀ commands ∈ callShell fragments, ∃ ls, ls ≠ [] ∧ (∀ l ∈ ls, l ≠ [] ∧ '\n' ∉ l) ∧
      commands = join ['\n'] ls := by
  intro commands hcommands
  simp only [callShell] at hcommands
  split at hcommands
  · cases hcommands
  · next hne =>
    refine ⟨fragments.filterMap (stripStart? shellMark), fun hnil => hne (by rw [hnil]; rfl), ?_,
      (Option.mem_some.mp hcommands).symm⟩
    intro command hcommand
    obtain ⟨f, hf, hstrip⟩ := List.mem_filterMap.mp hcommand
    obtain rfl := stripStart?_eq_some_iff.mp hstrip
    obtain ⟨⟨hnewline, htrimmed⟩, -⟩ := h _ hf
    exact ⟨command_ne_nil htrimmed, fun hmem => hnewline (List.mem_append_right _ hmem)⟩

/-- The response group of a streamed call holds more than the word that says so. -/
theorem trim_ne_nil_of_streamed {response streamed : Text}
    (h : trim response = "stream ".toList ++ streamed) : trim streamed ≠ [] := by
  intro hnil
  have hblank : ∀ c ∈ ' ' :: streamed, isBlank c = true := by
    refine List.forall_mem_cons.mpr ⟨by decide, fun c hc => ?_⟩
    by_contra hnot
    exact trimWhile_ne_nil hc (by simpa using hnot) hnil
  have hshort : trim ("stream".toList ++ ' ' :: streamed) = trim "stream".toList :=
    trimWhile_append_append "stream".toList (List.forall_mem_nil _) hblank
  have htrimmed : trim (trim response) = trim response := trimWhile_trimWhile isBlank response
  have hword : trim "stream".toList = "stream".toList := by decide
  rw [h] at htrimmed
  exact absurd (htrimmed.symm.trans (hshort.trans hword)) (by simp)

theorem wellFormed_readCall {site : Site} {s : Signature}
    (hsignature : signature? site.line = some s) (hline : '\n' ∉ site.line)
    (habove : ∀ line ∈ site.above, '\n' ∉ line) :
    (readCall site s).WellFormed := by
  have hfragments := @isFragment_of_mem_commentAbove .block _ habove
  obtain ⟨name, request, response, hgroups, hs⟩ := exists_groups_of_signature? hsignature
  obtain ⟨between, tail, htext, hname, hrequest, hresponse, -⟩ := groups?_eq_some_iff.mp hgroups
  have hin : ∀ t ∈ [name, request, response], t ⊆ site.line := by
    intro t ht c hc
    rw [htext, callText]
    simp only [List.mem_cons, List.not_mem_nil, or_false] at ht
    rcases ht with rfl | rfl | rfl <;> simp [hc]
  have hproper (t : Text) (ht : t ⊆ site.line) (hne : trim t ≠ []) :
      trim t ≠ [] ∧ trim (trim t) = trim t ∧ '\n' ∉ trim t :=
    ⟨hne, trimWhile_trimWhile isBlank t, not_mem_trim fun hmem => hline (ht hmem)⟩
  obtain ⟨part, hpart, heq, hne⟩ : ∃ part, part ⊆ response ∧ s.response = trim part ∧
      trim part ≠ [] := by
    rcases hs.response_eq with ⟨-, heq⟩ | ⟨-, streamed, hstreamed, heq⟩
    · exact ⟨response, List.Subset.refl _, heq, hs.response_ne_nil⟩
    · refine ⟨streamed, fun c hc => ?_, heq, trim_ne_nil_of_streamed hstreamed⟩
      apply (isInfix_trimWhile isBlank response).subset
      rw [← trim, hstreamed]
      exact List.mem_append_right _ hc
  have hresponse_in : part ⊆ site.line := fun c hc => hin response (by simp) (hpart hc)
  refine ⟨?_, ?_, ?_, ?_, isRemark_callComment hfragments, commands_callShell hfragments⟩
  · intro t ht
    simp only [readCall, List.mem_cons, List.not_mem_nil, or_false] at ht
    rcases ht with rfl | rfl | rfl
    · rw [hs.name_eq]
      exact hproper name (hin name (by simp)) (hs.name_eq ▸ hs.name_ne_nil)
    · rw [hs.request_eq]
      exact hproper request (hin request (by simp)) (hs.request_eq ▸ hs.request_ne_nil)
    · rw [heq]
      exact hproper part hresponse_in hne
  · change s.name.any isParenthesis = false
    rw [hs.name_eq, List.any_eq_false]
    intro c hc
    exact List.any_eq_false.mp hname c ((isInfix_trimWhile isBlank name).subset hc)
  · change ')' ∉ s.request
    rw [hs.request_eq]
    exact not_mem_trim hrequest
  · change '(' ∉ s.response
    rw [heq]
    exact not_mem_trim fun hmem => hresponse (hpart hmem)

/-! ### Fields -/

theorem wellFormed_withComment {head : FieldHead} {line comment : Text}
    (hhead : fieldLine? line = some head) (hopen : '{' ∉ line) (hclose : '}' ∉ line)
    (hline : '\n' ∉ line) (hcomment : IsRemark comment) :
    (head.withComment comment).WellFormed := by
  unfold fieldLine? at hhead
  split at hhead
  · next rest hrest =>
    obtain ⟨key, value, name, tail, rfl, -, -, -, -, hne, rfl⟩ := mapField?_eq_some_iff.mp hhead
    have hin : ∀ t ∈ [name, value, key], t ⊆ line := by
      intro t ht c hc
      rw [stripStart?_eq_some_iff.mp hrest, mapText]
      simp only [List.mem_cons, List.not_mem_nil, or_false] at ht
      rcases ht with rfl | rfl | rfl <;> simp [hc]
    have hterms : ∀ t ∈ [trim name, trim value, trim key],
        ∃ u ∈ [name, value, key], t = trim u := by
      simp
    refine ⟨hne, by simp [FieldHead.withComment], ?_,
      by simp [Field.isKeyed, FieldHead.withComment], ?_, hcomment, ?_⟩
    · intro t ht
      obtain ⟨u, hu, rfl⟩ := hterms t ht
      exact ⟨not_mem_trim fun hmem => hopen (hin u hu hmem),
        not_mem_trim fun hmem => hclose (hin u hu hmem)⟩
    · intro _ t ht
      obtain ⟨u, hu, rfl⟩ := hterms t ht
      exact trimWhile_trimWhile isBlank u
    · intro t ht
      obtain ⟨u, hu, rfl⟩ := hterms t ht
      exact not_mem_trim fun hmem => hline (hin u hu hmem)
  · split at hhead
    · cases hhead
    · obtain ⟨hname, htype, hkey⟩ := exists_of_plainField? hhead
      have hterms : ∀ t ∈ (head.withComment comment).terms, t ∈ words line := by
        intro t ht
        simp only [Field.terms, FieldHead.withComment, hkey, Option.toList_none, List.mem_cons,
          List.not_mem_nil, or_false] at ht
        rcases ht with rfl | rfl
        · exact hname
        · exact htype
      have hkeyed : (head.withComment comment).isKeyed = false := by
        simp [Field.isKeyed, FieldHead.withComment, hkey]
      refine ⟨(of_mem_words hname).1, by simp [hkeyed], ?_, ?_, by simp [hkeyed], hcomment, ?_⟩
      · intro t ht
        obtain ⟨-, hin, -⟩ := of_mem_words (hterms t ht)
        exact ⟨fun hmem => hopen (hin hmem), fun hmem => hclose (hin hmem)⟩
      · intro _ c hc
        rcases List.mem_append.mp hc with hc | hc
        · exact (of_mem_words hname).2.2 c hc
        · exact (of_mem_words htype).2.2 c hc
      · intro t ht hmem
        exact hline ((of_mem_words (hterms t ht)).2.1 hmem)

/-- One line of a body: the field that it declares is well formed, and what is kept of comments
stays a remark. -/
theorem wellFormed_of_readLine {s next : BodyState} {line : Text} {field : Option Field}
    (h : s.readLine line = .next field next) (hline : '\n' ∉ line) (hpending : IsRemark s.pending) :
    (∀ f ∈ field, f.WellFormed) ∧ IsRemark next.pending := by
  have hnone : ∀ f ∈ (none : Option Field), f.WellFormed := by simp
  unfold BodyState.readLine at h
  dsimp only at h
  split at h
  · split at h
    · cases h
    · cases h
      exact ⟨hnone, hpending⟩
  · split at h
    · cases h
      refine ⟨hnone, isRemark_addFragment hpending ⟨fun hmem => hline ?_, trimWhile_trimWhile _ _⟩⟩
      exact (isInfix_trimWhile isCommentMark line).subset hmem
    · split at h
      · cases h
      · next hbalance =>
        split at h
        · cases h
          exact ⟨hnone, isRemark_nil⟩
        · next hopens =>
          have hopen : '{' ∉ line := List.count_eq_zero.mp (by omega)
          have hclose : '}' ∉ line := List.count_eq_zero.mp (by omega)
          split at h
          · next head hhead =>
            cases h
            refine ⟨?_, isRemark_nil⟩
            intro f hf
            obtain rfl := Option.mem_some.mp hf
            exact wellFormed_withComment hhead hopen hclose hline hpending
          · cases h
            exact ⟨hnone, hpending⟩

theorem wellFormed_fields {s : BodyState} {below : List Text} (hbelow : ∀ line ∈ below, '\n' ∉ line)
    (hpending : IsRemark s.pending) : ∀ f ∈ s.fields below, f.WellFormed := by
  induction below generalizing s with
  | nil => simp [BodyState.fields]
  | cons line below ih =>
    obtain ⟨hline, hbelow⟩ := List.forall_mem_cons.mp hbelow
    intro f hf
    rw [BodyState.fields] at hf
    cases heffect : s.readLine line with
    | close => simp [heffect] at hf
    | next field next =>
      obtain ⟨hfield, hnext⟩ := wellFormed_of_readLine heffect hline hpending
      simp only [heffect, List.mem_append, Option.mem_toList] at hf
      rcases hf with hf | hf
      · exact hfield f hf
      · exact ih hbelow hnext f hf

theorem wellFormed_readMessage {site : Site} {rest name : Text} (hname : messageName rest = name)
    (hne : name ≠ []) (hbelow : ∀ line ∈ site.below, '\n' ∉ line) :
    (readMessage site name).WellFormed := by
  refine ⟨hne, ?_, ?_⟩
  · intro c hc
    change c ∈ name at hc
    rw [← hname, messageName, List.mem_filter] at hc
    obtain ⟨hmem, hkept⟩ := hc
    have hopen : c ≠ '{' := by
      have htake := List.mem_takeWhile_imp ((isInfix_trimWhile isBlank _).subset hmem)
      simpa using htake
    simp only [Bool.and_eq_true, Bool.not_eq_true', bne_iff_ne] at hkept
    exact ⟨hkept.1, hopen, hkept.2⟩
  · rw [readMessage]
    dsimp only
    split
    · simp
    · exact wellFormed_fields hbelow isRemark_nil

/-! ### Enumerations -/

theorem of_statementValue? {statement value : Text} (h : statementValue? statement = some value) :
    value ≠ [] ∧ trim value = value ∧ '=' ∉ value ∧ value ⊆ statement := by
  unfold statementValue? at h
  dsimp only at h
  split at h
  · cases h
  · split at h
    · cases h
    · next hne =>
      cases h
      refine ⟨by simpa using hne, trimWhile_trimWhile isBlank _, not_mem_trim ?_, ?_⟩
      · intro hmem
        simpa using List.mem_takeWhile_imp hmem
      · intro c hc
        apply (isInfix_trimWhile isBlank statement).subset
        apply (List.takeWhile_prefix _).subset
        exact (isInfix_trimWhile isBlank _).subset hc

theorem of_mem_enumValues {line value : Text} {below : List Text}
    (h : value ∈ enumValues line below) (hline : '\n' ∉ line) (hbelow : ∀ l ∈ below, '\n' ∉ l) :
    (value ≠ [] ∧ trim value = value ∧ '=' ∉ value) ∧ '\n' ∉ value := by
  obtain ⟨statement, hvalue, hstatement⟩ : ∃ statement, statementValue? statement = some value ∧
      '\n' ∉ statement := by
    unfold enumValues at h
    split at h
    · next body hbody =>
      obtain ⟨statement, hmem, hvalue⟩ := List.mem_filterMap.mp h
      refine ⟨statement, hvalue, fun hnewline => hline ?_⟩
      obtain ⟨front, tail, rfl, -, -⟩ := bodyOnLine?_eq_some_iff.mp hbody
      simp [subset_of_mem_splitWhere hmem hnewline]
    · obtain ⟨statement, hmem, hvalue⟩ := List.mem_filterMap.mp h
      exact ⟨statement, hvalue, hbelow statement ((List.takeWhile_prefix _).subset hmem)⟩
  obtain ⟨hne, htrimmed, hequals, hin⟩ := of_statementValue? hvalue
  exact ⟨⟨hne, htrimmed, hequals⟩, fun hmem => hstatement (hin hmem)⟩

/-! ### One line -/

/-- All lines of the place are single lines. -/
def Site.Unbroken (site : Site) : Prop :=
  ∀ line ∈ site.above.reverse ++ site.line :: site.below, '\n' ∉ line

namespace Site.Unbroken

variable {site : Site} (h : site.Unbroken)

include h

theorem above : ∀ line ∈ site.above, '\n' ∉ line :=
  fun line hline => h line (by simp [hline])

theorem line : '\n' ∉ site.line :=
  h site.line (by simp)

theorem below : ∀ line ∈ site.below, '\n' ∉ line :=
  fun line hline => h line (by simp [hline])

theorem nameBeforeBrace {keyword : Keyword} {rest : Text}
    (hline : declaration? site.line = some (keyword, rest)) : '\n' ∉ nameBeforeBrace rest := by
  refine not_mem_trim fun hmem => h.line ?_
  rw [declaration?_eq_some_iff.mp hline]
  exact List.mem_append_right _ ((List.takeWhile_prefix _).subset hmem)

theorem wellFormed_readService {rest : Text}
    (hline : declaration? site.line = some (.service, rest)) :
    (readService site rest).WellFormed :=
  ⟨h.nameBeforeBrace hline, isRemark_joinFragments (isFragment_of_mem_commentAbove h.above),
    List.forall_mem_nil _⟩

theorem wellFormed_readEnum {rest name : Text} (hline : declaration? site.line = some (.enum, rest))
    (hname : Source.nameBeforeBrace rest = name) (hne : name ≠ []) :
    (readEnum site name).WellFormed := by
  subst hname
  refine ⟨hne, trimWhile_trimWhile isBlank _, not_mem_trim fun hmem => ?_, fun v hv => ?_,
    isRemark_joinFragments (isFragment_of_mem_commentAbove h.above), ?_⟩
  · simpa using List.mem_takeWhile_imp hmem
  · exact (of_mem_enumValues hv h.line h.below).1
  · refine List.forall_mem_cons.mpr ⟨h.nameBeforeBrace hline, fun v hv => ?_⟩
    exact (of_mem_enumValues hv h.line h.below).2

end Site.Unbroken

/-- A line adds something well formed, or leaves the schema alone. -/
theorem wellFormed_step {f g : Findings} {site : Site} (hstep : Findings.Step f site g)
    (hsite : site.Unbroken) (hf : f.schema.WellFormed) : g.schema.WellFormed := by
  have hmessage {rest name : Text} (hname : messageName rest = name) (hne : name ≠ []) :
      Schema.WellFormed { f.schema with
        messages := f.schema.messages.insert name (readMessage site name) } := by
    refine ⟨hf.services, fun entry hentry => ?_, hf.enums⟩
    rcases Table.mem_insert hentry with rfl | hold
    · exact ⟨rfl, wellFormed_readMessage hname hne hsite.below⟩
    · exact hf.messages entry hold
  have henum {rest name : Text} (hline : declaration? site.line = some (.enum, rest))
      (hname : nameBeforeBrace rest = name) (hne : name ≠ []) :
      Schema.WellFormed { f.schema with
        enums := f.schema.enums.insert name (readEnum site name) } := by
    refine ⟨hf.services, hf.messages, fun entry hentry => ?_⟩
    rcases Table.mem_insert hentry with rfl | hold
    · exact ⟨rfl, hsite.wellFormed_readEnum hline hname hne⟩
    · exact hf.enums entry hold
  cases hstep with
  | undeclared | malformedCall | orphanCall | namelessMessage | namelessEnum => exact hf
  | service hline =>
    refine ⟨fun s hs => ?_, hf.messages, hf.enums⟩
    rcases List.mem_append.mp hs with hs | hs
    · exact hf.services s hs
    · rw [List.mem_singleton.mp hs]
      exact hsite.wellFormed_readService hline
  | @call rest signature earlier latest hline hsignature hservices =>
    have hcall := wellFormed_readCall hsignature hsite.line hsite.above
    have hlatest := hf.services latest (by simp [hservices])
    refine ⟨fun s hs => ?_, hf.messages, hf.enums⟩
    rcases List.mem_append.mp hs with hs | hs
    · exact hf.services s (by simp [hservices, hs])
    · rw [List.mem_singleton.mp hs]
      refine ⟨hlatest.one_line, hlatest.comment, fun c hc => ?_⟩
      rcases List.mem_append.mp hc with hc | hc
      · exact hlatest.calls c hc
      · rw [List.mem_singleton.mp hc]
        exact hcall
  | newMessage _ hname hne _ | replacedMessage _ hname hne _ => exact hmessage hname hne
  | newEnum hline hname hne _ | replacedEnum hline hname hne _ => exact henum hline hname hne

/-! ### The whole file -/

theorem wellFormed_foldl_readLine {f : Findings} {xs : List Site} (hxs : ∀ site ∈ xs, site.Unbroken)
    (hf : f.schema.WellFormed) : (xs.foldl Findings.readLine f).schema.WellFormed := by
  induction xs generalizing f with
  | nil => exact hf
  | cons site xs ih =>
    obtain ⟨hsite, hxs⟩ := List.forall_mem_cons.mp hxs
    exact ih hxs (wellFormed_step (f.step_readLine site) hsite hf)

theorem newline_not_mem_lines (source : Text) : ∀ line ∈ lines source, '\n' ∉ line := by
  intro line hline hmem
  obtain ⟨piece, hpiece, rfl⟩ := List.mem_map.mp hline
  apply not_mem_of_mem_split hpiece
  have hreturn : dropReturn piece ⊆ piece := by
    unfold dropReturn
    split
    · exact (List.dropLast_prefix piece).subset
    · exact List.Subset.refl _
  exact hreturn ((List.dropWhile_suffix isBlank).subset hmem)

theorem unbroken_of_mem_sites {source : Text} {site : Site} (h : site ∈ sites (lines source)) :
    site.Unbroken := by
  rw [Site.Unbroken, lines_of_mem_sites h]
  exact newline_not_mem_lines source

/-- Whatever the file, its schema is well formed. -/
theorem wellFormed_findings (source : Text) : (findings source).schema.WellFormed := by
  have hempty : Findings.empty.schema.WellFormed :=
    ⟨List.forall_mem_nil _, List.forall_mem_nil _, List.forall_mem_nil _⟩
  rw [findings_eq_foldl]
  exact wellFormed_foldl_readLine (fun _ => unbroken_of_mem_sites) hempty

end RpcReference.Source
