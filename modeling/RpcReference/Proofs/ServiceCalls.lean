import Mathlib.Data.List.ModifyLast
import RpcReference.Proofs.Steps
/-!
# Which calls a service has

Reading goes through a file once and adds each call to the latest service. The result can be said
without that state: there is one service for each service line, and its calls are those of the
readable call lines between this service line and the next one. Other lines between them, of
whatever kind, make no difference.
-/

namespace RpcReference.Source

open Text

/-! ### What a line declares by itself -/

namespace Site

def isService (site : Site) : Bool :=
  site.isOf .service

def service (site : Site) : Service :=
  readService site (site.line.drop Keyword.service.text.length)

/-- The call of a call line that has a readable signature. -/
def call? (site : Site) : Option Call :=
  if keyword? site.line = some .rpc then (signature? site.line).map (readCall site) else none

/-- The place lies behind `start`, and before `stop` if there is such a place. -/
def isBetween (start : Site) (stop : Option Site) (site : Site) : Bool :=
  start.number < site.number && stop.all fun s => site.number < s.number

variable {site : Site} {keyword : Keyword} {rest : Text}

theorem isService_of_declaration? (h : declaration? site.line = some (keyword, rest)) :
    site.isService = (keyword == .service) := by
  rw [isService, isOf, keyword?_of_declaration? h]
  rfl

theorem service_of_declaration? (h : declaration? site.line = some (.service, rest)) :
    site.service = readService site rest := by
  rw [service, declaration?_eq_some_iff.mp h, List.drop_left]

theorem call?_of_rpc (h : declaration? site.line = some (.rpc, rest)) :
    site.call? = (signature? site.line).map (readCall site) := by
  rw [call?, if_pos (keyword?_of_declaration? h)]

theorem call?_of_ne_rpc (h : declaration? site.line = some (keyword, rest))
    (hne : keyword ≠ .rpc) : site.call? = none := by
  rw [call?, keyword?_of_declaration? h]
  exact if_neg fun heq => hne (Option.some.inj heq)

theorem call?_of_undeclared (h : declaration? site.line = none) : site.call? = none := by
  rw [call?, keyword?_eq_none_iff.mpr h]
  exact if_neg (Option.some_ne_none _).symm

theorem exists_signature_of_call? {call : Call} (h : site.call? = some call) :
    ∃ signature, signature? site.line = some signature ∧ readCall site signature = call := by
  unfold call? at h
  split at h
  · exact Option.map_eq_some_iff.mp h
  · cases h

end Site

/-- The part of a call that its line gives. -/
def Signature.ofCall (call : Call) : Signature :=
  ⟨call.name, call.request, call.response, call.stream⟩

theorem Signature.ofCall_comp_readCall (site : Site) : ofCall ∘ readCall site = id := rfl

theorem Site.map_ofCall_call? (site : Site) :
    site.call?.map Signature.ofCall = if site.isOf .rpc then signature? site.line else none := by
  have hrpc : site.isOf .rpc = true ↔ keyword? site.line = some .rpc := beq_iff_eq
  rw [call?, apply_ite (Option.map Signature.ofCall), Option.map_map,
    Signature.ofCall_comp_readCall, Option.map_id, Option.map_none]
  exact if_congr hrpc.symm rfl rfl

theorem map_ofCall_filterMap_call? (xs : List Site) :
    (xs.filterMap Site.call?).map Signature.ofCall =
      (xs.filter (·.isOf .rpc)).filterMap fun site => signature? site.line := by
  rw [List.map_filterMap, List.filterMap_filter]
  exact List.filterMap_congr fun site _ => site.map_ofCall_call?

/-! ### Calls of the latest service -/

def attach (calls : List Call) (services : List Service) : List Service :=
  services.modifyLast fun service => { service with calls := service.calls ++ calls }

theorem attach_concat (calls : List Call) (earlier : List Service) (latest : Service) :
    attach calls (earlier ++ [latest]) =
      earlier ++ [{ latest with calls := latest.calls ++ calls }] :=
  List.modifyLast_concat _ _ _

@[simp] theorem attach_nil (services : List Service) : attach [] services = services := by
  rcases List.eq_nil_or_concat' services with rfl | ⟨earlier, latest, rfl⟩
  · rfl
  · rw [attach_concat, List.append_nil]

theorem attach_attach (first second : List Call) (services : List Service) :
    attach second (attach first services) = attach (first ++ second) services := by
  rcases List.eq_nil_or_concat' services with rfl | ⟨earlier, latest, rfl⟩
  · rfl
  · rw [attach_concat, attach_concat, attach_concat, List.append_assoc]

/-- What one line does to the services, whatever its kind. -/
theorem services_readLine (f : Findings) (site : Site) :
    (f.readLine site).schema.services =
      if site.isService then f.schema.services ++ [site.service]
      else attach site.call?.toList f.schema.services := by
  have hquiet (hservice : site.isService = false) (hcall : site.call? = none) :
      f.schema.services = if site.isService then f.schema.services ++ [site.service]
        else attach site.call?.toList f.schema.services := by
    simp [hservice, hcall]
  have hstep := f.step_readLine site
  generalize f.readLine site = g at hstep
  cases hstep with
  | undeclared hline =>
    exact hquiet (by simp [Site.isService, Site.isOf, keyword?, hline])
      (Site.call?_of_undeclared hline)
  | service hline =>
    rw [Site.isService_of_declaration? hline, Site.service_of_declaration? hline]
    rfl
  | malformedCall hline hsignature =>
    refine hquiet (Site.isService_of_declaration? hline) ?_
    rw [Site.call?_of_rpc hline, hsignature, Option.map_none]
  | orphanCall hline hsignature hservices =>
    rw [Site.isService_of_declaration? hline, hservices]
    exact hservices
  | call hline hsignature hservices =>
    rw [Site.isService_of_declaration? hline, Site.call?_of_rpc hline, hsignature, hservices]
    exact (attach_concat _ _ _).symm
  | namelessMessage hline _ | newMessage hline _ _ _ | replacedMessage hline _ _ _
  | namelessEnum hline _ | newEnum hline _ _ _ | replacedEnum hline _ _ _ =>
    exact hquiet (Site.isService_of_declaration? hline)
      (Site.call?_of_ne_rpc hline (by decide))

/-! ### The whole file -/

/-- The services of some lines in their places: one for each service line, with the calls of the
lines up to the next service line. -/
def servicesOf : List Site → List Service
  | [] => []
  | site :: rest =>
    if site.isService then
      { site.service with calls := (rest.takeWhile (!·.isService)).filterMap Site.call? }
      :: servicesOf rest
    else servicesOf rest

theorem servicesOf_append {site : Site} (hsite : site.isService = true) (xs rest : List Site) :
    servicesOf (xs ++ site :: rest) = servicesOf xs ++ servicesOf (site :: rest) := by
  induction xs with
  | nil => rfl
  | cons x xs ih =>
    have hstop : (xs ++ site :: rest).takeWhile (!·.isService) = xs.takeWhile (!·.isService) := by
      rw [List.takeWhile_append, List.takeWhile_cons_of_neg (by simp [hsite]), List.append_nil]
      split
      · next hlength => exact ((List.takeWhile_prefix _).eq_of_length hlength).symm
      · rfl
    rw [List.cons_append, servicesOf, servicesOf, hstop, ih]
    split
    · rfl
    · rfl

/-- The lines up to the first service line still belong to the service that was read before them. -/
theorem services_foldl_readLine (f : Findings) (xs : List Site) :
    (xs.foldl Findings.readLine f).schema.services =
      attach ((xs.takeWhile (!·.isService)).filterMap Site.call?) f.schema.services
        ++ servicesOf xs := by
  induction xs generalizing f with
  | nil => simp [servicesOf]
  | cons site rest ih =>
    rw [List.foldl_cons, ih, services_readLine, servicesOf]
    cases hservice : site.isService with
    | true =>
      have htake : (site :: rest).takeWhile (!·.isService) = [] := by simp [hservice]
      rw [htake, if_pos rfl, if_pos rfl, attach_concat, List.filterMap_nil, attach_nil,
        List.append_assoc]
      rfl
    | false =>
      have htake : (site :: rest).takeWhile (!·.isService)
          = site :: rest.takeWhile (!·.isService) := by simp [hservice]
      rw [htake, if_neg Bool.false_ne_true, if_neg Bool.false_ne_true, attach_attach,
        List.filterMap_cons]
      cases site.call? <;> rfl

theorem services_findings (source : Text) :
    (findings source).schema.services = servicesOf (sites (lines source)) := by
  rw [findings_eq_foldl, services_foldl_readLine]
  rfl

/-! ### Calls between two service lines -/

/-- The calls of the lines behind `start`, and before `stop` if there is such a line. -/
def callsBetween (xs : List Site) (start : Site) (stop : Option Site) : List Call :=
  (xs.filter (start.isBetween stop)).filterMap Site.call?

def callLinesBetween (xs : List Site) (start : Site) (stop : Option Site) : List Site :=
  (xs.filter (start.isBetween stop)).filter (·.isOf .rpc)

abbrev InOrder (xs : List Site) : Prop :=
  xs.Pairwise fun first second => first.number < second.number

theorem callsBetween_cons {x start : Site} (hx : x.number ≤ start.number) (xs : List Site)
    (stop : Option Site) : callsBetween (x :: xs) start stop = callsBetween xs start stop := by
  have hnot : ¬ start.isBetween stop x = true := by
    simp only [Site.isBetween, Bool.and_eq_true, decide_eq_true_eq]
    omega
  rw [callsBetween, List.filter_cons_of_neg hnot, callsBetween]

theorem takeWhile_eq_filter_isBetween {start : Site} {xs : List Site} (hxs : InOrder xs)
    (hstart : ∀ x ∈ xs, start.number < x.number) :
    xs.takeWhile (!·.isService) =
      xs.filter (start.isBetween (xs.filter Site.isService).head?) := by
  induction xs with
  | nil => rfl
  | cons x xs ih =>
    obtain ⟨hx, hxs⟩ := List.pairwise_cons.mp hxs
    cases hservice : x.isService with
    | true =>
      have hnext : ((x :: xs).filter Site.isService).head? = some x := by simp [hservice]
      have hnone : (x :: xs).filter (start.isBetween (some x)) = [] := by
        rw [List.filter_eq_nil_iff]
        intro y hy
        have hle : x.number ≤ y.number := by
          rcases List.mem_cons.mp hy with rfl | hy
          · exact Nat.le_refl _
          · exact Nat.le_of_lt (hx y hy)
        simp only [Site.isBetween, Option.all_some, Bool.and_eq_true, decide_eq_true_eq]
        omega
      rw [hnext, hnone]
      simp [hservice]
    | false =>
      have hnext : ((x :: xs).filter Site.isService).head? = (xs.filter Site.isService).head? := by
        simp [hservice]
      have hbetween : start.isBetween (xs.filter Site.isService).head? x = true := by
        simp only [Site.isBetween, Bool.and_eq_true, decide_eq_true_eq, Option.all_eq_true]
        refine ⟨hstart x (by simp), fun stop hstop => ?_⟩
        exact hx stop (List.mem_of_mem_filter (List.mem_of_mem_head? hstop))
      rw [hnext, List.filter_cons_of_pos hbetween, ← ih hxs fun y hy => hstart y (by simp [hy])]
      simp [hservice]

theorem getElem?_servicesOf {xs : List Site} (hxs : InOrder xs) (k : Nat) :
    (servicesOf xs)[k]? = (xs.filter Site.isService)[k]?.map fun start =>
      { start.service with
        calls := callsBetween xs start (xs.filter Site.isService)[k + 1]? } := by
  induction xs generalizing k with
  | nil => rfl
  | cons x xs ih =>
    obtain ⟨hx, hxs⟩ := List.pairwise_cons.mp hxs
    have hbelow (j : Nat) (stop : Option Site) :
        ((xs.filter Site.isService)[j]?.map fun start =>
          { start.service with calls := callsBetween (x :: xs) start stop }) =
        (xs.filter Site.isService)[j]?.map fun start =>
          { start.service with calls := callsBetween xs start stop } := by
      refine Option.map_congr fun start hstart => ?_
      have hmem : start ∈ xs := List.mem_of_mem_filter (List.mem_of_getElem? hstart)
      rw [callsBetween_cons (Nat.le_of_lt (hx start hmem))]
    cases hservice : x.isService with
    | false =>
      rw [servicesOf, hservice, if_neg Bool.false_ne_true,
        List.filter_cons_of_neg (by simp [hservice]), hbelow, ih hxs]
    | true =>
      rw [servicesOf, hservice, if_pos rfl, List.filter_cons_of_pos hservice]
      cases k with
      | zero =>
        have hcalls := takeWhile_eq_filter_isBetween hxs hx
        rw [List.getElem?_cons_zero, List.getElem?_cons_zero, List.getElem?_cons_succ,
          Option.map_some, callsBetween_cons (Nat.le_refl _), callsBetween, hcalls,
          List.head?_eq_getElem?]
      | succ k =>
        rw [List.getElem?_cons_succ, List.getElem?_cons_succ, List.getElem?_cons_succ, hbelow,
          ih hxs]

def serviceSites (ls : List Text) : List Site :=
  (sites ls).filter Site.isService

theorem getElem?_services (source : Text) (k : Nat) :
    (findings source).schema.services[k]? =
      (serviceSites (lines source))[k]?.map fun start =>
        { start.service with
          calls := callsBetween (sites (lines source)) start
            (serviceSites (lines source))[k + 1]? } := by
  rw [services_findings, getElem?_servicesOf (pairwise_number_sites _), serviceSites]

/-- There is one service for each service line, with the calls of the readable call lines up to the
next service line. The calls have the names, types and stream marks of these lines. While the file
is read, a call line changes no service but the latest. -/
theorem services_of_serviceSites (source : Text) :
    (∀ k : Nat, (findings source).schema.services[k]? =
      (serviceSites (lines source))[k]?.map fun start =>
        { start.service with
          calls := callsBetween (sites (lines source)) start
            (serviceSites (lines source))[k + 1]? }) ∧
    (∀ k : Nat, (findings source).schema.services[k]?.map (fun service =>
        service.calls.map fun call =>
          (⟨call.name, call.request, call.response, call.stream⟩ : Signature)) =
      (serviceSites (lines source))[k]?.map fun start =>
        (callLinesBetween (sites (lines source)) start
          (serviceSites (lines source))[k + 1]?).filterMap fun site => signature? site.line) ∧
    ∀ (f : Findings) (site : Site), keyword? site.line = some .rpc →
      (f.readLine site).schema.services = f.schema.services ∨
      ∃ earlier latest call, site.call? = some call ∧
        signature? site.line = some ⟨call.name, call.request, call.response, call.stream⟩ ∧
        f.schema.services = earlier ++ [latest] ∧
        (f.readLine site).schema.services =
          earlier ++ [{ latest with calls := latest.calls ++ [call] }] := by
  refine ⟨getElem?_services source, fun k => ?_, fun f site hrpc => ?_⟩
  · rw [getElem?_services, Option.map_map]
    exact Option.map_congr fun _ _ => map_ofCall_filterMap_call? _
  · have hservice : site.isService = false := by
      rw [Site.isService, Site.isOf, hrpc]
      rfl
    rw [services_readLine, hservice, if_neg Bool.false_ne_true]
    cases hcall : site.call? with
    | none => exact Or.inl (attach_nil _)
    | some call =>
      rcases List.eq_nil_or_concat' f.schema.services with hnil | ⟨earlier, latest, hlatest⟩
      · rw [hnil]
        exact Or.inl rfl
      · obtain ⟨signature, hsignature, rfl⟩ := Site.exists_signature_of_call? hcall
        rw [hlatest]
        exact Or.inr ⟨earlier, latest, _, rfl, hsignature, rfl, attach_concat _ _ _⟩

/-- Two services of one name, a call before the first and a message and a broken call between. -/
def twoServices : List Text :=
  ["rpc Early (A) returns (B);".toList, "service S \x7b".toList, "rpc Get (A) returns (B);".toList,
    "message A \x7b".toList, "rpc broken".toList, "service S \x7b".toList]

/-- A call below all of these. -/
def lateCall : Site :=
  ⟨twoServices.reverse, "rpc Put (A) returns (B);".toList, []⟩

theorem services_lateCall :
    keyword? lateCall.line = some .rpc ∧
    (findings (join ['\n'] twoServices)).schema.services[0]?.map (·.calls.map Call.name) =
      some ["Get".toList] ∧
    ∃ earlier latest call, lateCall.call? = some call ∧
      signature? lateCall.line = some ⟨call.name, call.request, call.response, call.stream⟩ ∧
      (findings (join ['\n'] twoServices)).schema.services = earlier ++ [latest] ∧
      ((findings (join ['\n'] twoServices)).readLine lateCall).schema.services =
        earlier ++ [{ latest with calls := latest.calls ++ [call] }] := by
  have hrpc : keyword? lateCall.line = some .rpc := by decide
  obtain ⟨hservices, -, hcalls⟩ := services_of_serviceSites (join ['\n'] twoServices)
  refine ⟨hrpc, ?_, ?_⟩
  · rw [hservices]
    decide +kernel
  · rcases hcalls (findings (join ['\n'] twoServices)) lateCall hrpc with hsame | hadded
    · exact absurd hsame (by decide +kernel)
    · exact hadded

end RpcReference.Source
