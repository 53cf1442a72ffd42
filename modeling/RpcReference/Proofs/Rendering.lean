import RpcReference.Document.Basic
/-!
# When a document is complete

A document is complete exactly when the request and the response of every call are declared
messages. Otherwise the first call that is not so, in the order of services and of their calls,
stops the writing. What is written by then is the document of the schema that ends before this call,
up to the part of that document where the services end.
-/

namespace RpcReference

/-! ### Calls that resolve -/

theorem forall_or_exists_first {α : Type} (p : α → Prop) [DecidablePred p] (xs : List α) :
    (∀ x ∈ xs, p x) ∨ ∃ before x after,
      xs = before ++ x :: after ∧ (∀ y ∈ before, p y) ∧ ¬ p x := by
  induction xs with
  | nil => exact Or.inl (by simp)
  | cons x xs ih =>
    by_cases hx : p x
    · rcases ih with hall | ⟨before, y, after, rfl, hbefore, hy⟩
      · exact Or.inl (List.forall_mem_cons.mpr ⟨hx, hall⟩)
      · exact Or.inr ⟨x :: before, y, after, rfl, List.forall_mem_cons.mpr ⟨hx, hbefore⟩, hy⟩
    · exact Or.inr ⟨[], x, xs, rfl, by simp, hx⟩

namespace Schema

/-- The request and the response of the call are declared messages. -/
def Resolves (s : Schema) (call : Call) : Prop :=
  call.request ∈ s.messages.keys ∧ call.response ∈ s.messages.keys

instance (s : Schema) (call : Call) : Decidable (s.Resolves call) :=
  inferInstanceAs (Decidable (_ ∧ _))

def ResolvesAll (s : Schema) : Prop :=
  ∀ service ∈ s.services, ∀ call ∈ service.calls, s.Resolves call

/-- What is missing for a call that does not resolve: the request if it is no declared message, else
the response. -/
def missing (s : Schema) (call : Call) : Unresolved :=
  ⟨call.name, if s.messages.contains call.request then call.response else call.request⟩

/-- The first call that does not resolve, with what stands before it and behind it. -/
structure FirstUnresolved (s : Schema) where
  before : List Service
  service : Service
  after : List Service
  done : List Call
  call : Call
  todo : List Call
  services_eq : s.services = before ++ service :: after
  calls_eq : service.calls = done ++ call :: todo
  before_resolve : ∀ earlier ∈ before, ∀ c ∈ earlier.calls, s.Resolves c
  done_resolve : ∀ c ∈ done, s.Resolves c
  not_resolves : ¬ s.Resolves call

theorem resolvesAll_or_firstUnresolved (s : Schema) :
    s.ResolvesAll ∨ Nonempty s.FirstUnresolved := by
  rcases forall_or_exists_first (fun service : Service => ∀ c ∈ service.calls, s.Resolves c)
    s.services with hall | ⟨before, service, after, hservices, hbefore, hservice⟩
  · exact Or.inl hall
  · rcases forall_or_exists_first s.Resolves service.calls with
      hall | ⟨done, call, todo, hcalls, hdone, hcall⟩
    · exact absurd hall hservice
    · exact Or.inr
        ⟨⟨before, service, after, done, call, todo, hservices, hcalls, hbefore, hdone, hcall⟩⟩

theorem FirstUnresolved.not_resolvesAll {s : Schema} (stop : s.FirstUnresolved) :
    ¬ s.ResolvesAll := by
  intro hall
  refine stop.not_resolves (hall stop.service ?_ stop.call ?_)
  · rw [stop.services_eq]
    exact List.mem_append_right _ List.mem_cons_self
  · rw [stop.calls_eq]
    exact List.mem_append_right _ List.mem_cons_self

theorem resolve_of_mem {s : Schema} {type : Text} (call : Text) (h : type ∈ s.messages.keys) :
    ∃ message, s.resolve call type = .ok message := by
  rw [← Table.contains_iff_mem_keys, Table.contains] at h
  obtain ⟨message, hget⟩ := Option.isSome_iff_exists.mp h
  exact ⟨message, by rw [resolve, hget]⟩

theorem resolve_of_not_mem {s : Schema} {type : Text} (call : Text)
    (h : type ∉ s.messages.keys) : s.resolve call type = .error ⟨call, type⟩ := by
  rw [← Table.contains_eq_false_iff, Table.contains, Option.isSome_eq_false_iff,
    Option.isNone_iff_eq_none] at h
  rw [resolve, h]

end Schema

namespace Document

/-! ### Writing parts -/

theorem write_append_of_failure_eq_none {ps : List Part} (hps : (write ps).failure = none)
    (rest : List Part) :
    write (ps ++ rest) = ⟨(write ps).written ++ (write rest).written, (write rest).failure⟩ := by
  induction ps with
  | nil => rfl
  | cons p ps ih =>
    cases p with
    | error e => simp [write] at hps
    | ok t => simp [write, ih hps]

theorem failure_write_eq_none_iff (ps : List Part) :
    (write ps).failure = none ↔ ∀ p ∈ ps, ∃ t, p = .ok t := by
  induction ps with
  | nil => simp [write]
  | cons p ps ih =>
    cases p with
    | error e => simp [write]
    | ok t => simp [write, ih]

theorem write_map_ok_append {α : Type} (text : α → Text) (xs : List α) (rest : List Part) :
    write (xs.map (fun x => .ok (text x)) ++ rest) =
      ⟨xs.flatMap text ++ (write rest).written, (write rest).failure⟩ := by
  induction xs with
  | nil => rfl
  | cons x xs ih => simp [write, ih]

/-- A title, and below it the texts of some things. -/
theorem write_section {α : Type} (title : Text) (text : α → Text) (xs : List α)
    (rest : List Part) :
    write (.ok title :: xs.map (fun x => .ok (text x)) ++ rest) =
      ⟨title ++ xs.flatMap text ++ (write rest).written, (write rest).failure⟩ := by
  rw [List.cons_append, write, write_map_ok_append, List.append_assoc]

/-- The first part that cannot be written ends the document. -/
theorem write_append_error_cons {ps : List Part} (hps : (write ps).failure = none)
    (e : Unresolved) (rest : List Part) :
    write (ps ++ .error e :: rest) = ⟨(write ps).written, some e⟩ := by
  rw [write_append_of_failure_eq_none hps, write, List.append_nil]

/-! ### The parts of a document -/

namespace Subject

theorem callPart_of_resolves {subject : Subject} {call : Call}
    (h : subject.schema.Resolves call) (service : Service) :
    ∃ t, subject.callPart service call = .ok t := by
  obtain ⟨request, hrequest⟩ := Schema.resolve_of_mem call.name h.1
  obtain ⟨response, hresponse⟩ := Schema.resolve_of_mem call.name h.2
  rw [callPart, hrequest, hresponse]
  exact ⟨_, rfl⟩

theorem callPart_of_not_resolves {subject : Subject} {call : Call}
    (h : ¬ subject.schema.Resolves call) (service : Service) :
    subject.callPart service call = .error (subject.schema.missing call) := by
  by_cases hrequest : call.request ∈ subject.schema.messages.keys
  · have hresponse : call.response ∉ subject.schema.messages.keys := fun hmem => h ⟨hrequest, hmem⟩
    obtain ⟨request, hfound⟩ := Schema.resolve_of_mem call.name hrequest
    rw [callPart, hfound, Schema.resolve_of_not_mem call.name hresponse, Schema.missing,
      if_pos ((Table.contains_iff_mem_keys _ _).mpr hrequest)]
    rfl
  · rw [callPart, Schema.resolve_of_not_mem call.name hrequest, Schema.missing,
      (Table.contains_eq_false_iff _ _).mpr hrequest, if_neg Bool.false_ne_true]
    rfl

theorem failure_serviceParts_eq_none {subject : Subject} {service : Service}
    (h : ∀ call ∈ service.calls, subject.schema.Resolves call) :
    (write (subject.serviceParts service)).failure = none := by
  rw [failure_write_eq_none_iff, serviceParts]
  simp only [List.forall_mem_cons, List.forall_mem_map]
  exact ⟨⟨_, rfl⟩, ⟨_, rfl⟩, fun call hcall => callPart_of_resolves (h call hcall) service⟩

def headParts (subject : Subject) (services : List Service) : List Part :=
  .ok (blockText (frontMatter subject.config)) :: services.flatMap subject.serviceParts

theorem parts_eq (subject : Subject) :
    subject.parts = subject.headParts subject.schema.services ++ subject.typeParts :=
  rfl

theorem failure_headParts_eq_none {subject : Subject} {services : List Service}
    (h : ∀ service ∈ services, ∀ call ∈ service.calls, subject.schema.Resolves call) :
    (write (subject.headParts services)).failure = none := by
  rw [failure_write_eq_none_iff, headParts, List.forall_mem_cons]
  refine ⟨⟨_, rfl⟩, fun p hp => ?_⟩
  obtain ⟨service, hservice, hmem⟩ := List.mem_flatMap.mp hp
  exact (failure_write_eq_none_iff _).mp (failure_serviceParts_eq_none (h service hservice)) p hmem

def typeText (subject : Subject) : Text :=
  "# Messages\n".toList
    ++ subject.schema.messages.values.flatMap (fun m => blockText (messageBlock subject.schema m))
    ++ "# Enums\n".toList
    ++ subject.schema.enums.values.flatMap (fun e => blockText (enumBlock e))

theorem write_typeParts (subject : Subject) :
    write subject.typeParts = ⟨subject.typeText, none⟩ := by
  unfold typeParts typeText
  generalize "# Messages\n".toList = messages
  generalize "# Enums\n".toList = enums
  have henums := write_section enums (fun e => blockText (enumBlock e))
    subject.schema.enums.values []
  rw [List.append_nil] at henums
  rw [write_section, henums]
  simp only [write, List.append_nil, List.append_assoc]

/-- A service that is cut before a call, and the parts that this leaves out. -/
theorem serviceParts_cut (subject : Subject) {service : Service} {done todo : List Call}
    {call : Call} (h : service.calls = done ++ call :: todo) :
    subject.serviceParts service =
      subject.serviceParts { service with calls := done }
        ++ subject.callPart service call :: todo.map (subject.callPart service) := by
  simp only [serviceParts, h, List.map_append, List.map_cons, List.cons_append]
  rfl

/-- The subject whose services are cut just before the first call that does not resolve. -/
def cut (subject : Subject) (stop : subject.schema.FirstUnresolved) : Subject :=
  { subject with
    schema := { subject.schema with
      services := stop.before ++ [{ stop.service with calls := stop.done }] } }

theorem headParts_append (subject : Subject) (xs ys : List Service) :
    subject.headParts (xs ++ ys) = subject.headParts xs ++ ys.flatMap subject.serviceParts := by
  rw [headParts, headParts, List.flatMap_append, List.cons_append]

theorem parts_cut (subject : Subject) (stop : subject.schema.FirstUnresolved) :
    (subject.cut stop).parts =
      subject.headParts (subject.cut stop).schema.services ++ subject.typeParts :=
  rfl

/-- The document begins as the cut one does, and then comes the part that cannot be written. -/
theorem parts_of_firstUnresolved (subject : Subject) (stop : subject.schema.FirstUnresolved) :
    ∃ rest, subject.parts =
      subject.headParts (subject.cut stop).schema.services
        ++ .error (subject.schema.missing stop.call) :: rest := by
  refine ⟨stop.todo.map (subject.callPart stop.service)
    ++ (stop.after.flatMap subject.serviceParts ++ subject.typeParts), ?_⟩
  rw [parts_eq, stop.services_eq, headParts_append, List.flatMap_cons,
    subject.serviceParts_cut stop.calls_eq, callPart_of_not_resolves stop.not_resolves, cut,
    headParts_append, List.flatMap_singleton]
  simp only [List.append_assoc, List.cons_append]

theorem failure_headParts_cut (subject : Subject) (stop : subject.schema.FirstUnresolved) :
    (write (subject.headParts (subject.cut stop).schema.services)).failure = none := by
  refine failure_headParts_eq_none fun service hservice => ?_
  rcases List.mem_append.mp hservice with hbefore | hlast
  · exact stop.before_resolve service hbefore
  · rw [List.mem_singleton.mp hlast]
    exact stop.done_resolve

end Subject

/-! ### Complete documents and those that stop -/

theorem render_of_resolvesAll {subject : Subject} (h : subject.schema.ResolvesAll) :
    (render subject).failure = none := by
  rw [render, Subject.parts_eq,
    write_append_of_failure_eq_none (Subject.failure_headParts_eq_none h), Subject.write_typeParts]

theorem render_of_firstUnresolved {subject : Subject} (stop : subject.schema.FirstUnresolved) :
    render subject = ⟨(write (subject.headParts (subject.cut stop).schema.services)).written,
      some (subject.schema.missing stop.call)⟩ := by
  obtain ⟨rest, hparts⟩ := subject.parts_of_firstUnresolved stop
  rw [render, hparts, write_append_error_cons (subject.failure_headParts_cut stop)]

theorem failure_render_eq_none_iff {subject : Subject} :
    (render subject).failure = none ↔ subject.schema.ResolvesAll := by
  refine ⟨fun hfailure => ?_, render_of_resolvesAll⟩
  rcases subject.schema.resolvesAll_or_firstUnresolved with hall | ⟨⟨stop⟩⟩
  · exact hall
  · rw [render_of_firstUnresolved stop] at hfailure
    cases hfailure

theorem render_cut {subject : Subject} (stop : subject.schema.FirstUnresolved) :
    render (subject.cut stop) = ⟨(render subject).written ++ subject.typeText, none⟩ := by
  rw [render_of_firstUnresolved stop, render, Subject.parts_cut,
    write_append_of_failure_eq_none (subject.failure_headParts_cut stop), Subject.write_typeParts]

/-- A document is complete exactly when every call resolves. Else the failure names the first call
that does not, and what was written is the document of the schema that is cut before this call, less
the text of its types. -/
theorem render_complete_or_cut (subject : Subject) :
    ((render subject).failure = none ↔ subject.schema.ResolvesAll) ∧
      (subject.schema.ResolvesAll ∨ ∃ stop : subject.schema.FirstUnresolved,
        (render subject).failure = some (subject.schema.missing stop.call) ∧
        (render (subject.cut stop)).failure = none ∧
        (render (subject.cut stop)).written = (render subject).written ++ subject.typeText) := by
  rcases subject.schema.resolvesAll_or_firstUnresolved with hall | ⟨⟨stop⟩⟩
  · exact ⟨iff_of_true (render_of_resolvesAll hall) hall, Or.inl hall⟩
  · have hstop := render_of_firstUnresolved stop
    have hcut := render_cut stop
    refine ⟨iff_of_false ?_ stop.not_resolvesAll, Or.inr ⟨stop, ?_, ?_, ?_⟩⟩
    · rw [hstop]
      exact Option.some_ne_none _
    · rw [hstop]
    · rw [hcut]
    · rw [hcut]

end Document

end RpcReference
