import Mathlib.Data.List.Forall2
import RpcReference.Proofs.Redeclaration
import RpcReference.Proofs.ServiceCalls
import RpcReference.Proofs.WellFormed
/-!
# What comments are made of

The comment of a declaration is made of the run of comment lines that ends directly above it. A
service and an enumeration have all that the run says, joined by spaces. A call has it in two parts,
the commands and the rest, and between them they have everything: each fragment of the run goes into
one of the parts and keeps its order there.
-/

namespace RpcReference.Source

open Text

/-! ### Runs of comment lines -/

/-- From top to bottom, the lines directly above that are comments of the form, up to the first that
is none. -/
structure IsRunAbove (form : CommentForm) (above run : List Text) : Prop where
  accepted : ∀ line ∈ run, form.accepts line = true
  maximal : ∃ outer, above = run.reverse ++ outer ∧ ∀ line ∈ outer.head?, form.accepts line = false

/-- What the lines say. A line of marks and blanks says nothing. -/
def said (run : List Text) : List Text :=
  (run.map commentText).filter (! ·.isEmpty)

variable {form : CommentForm} {above run : List Text}

theorem IsRunAbove.takeWhile_eq (h : IsRunAbove form above run) :
    above.takeWhile form.accepts = run.reverse := by
  obtain ⟨outer, rfl, houter⟩ := h.maximal
  have hstop : outer.takeWhile form.accepts = [] := by
    cases outer with
    | nil => rfl
    | cons line outer => exact List.takeWhile_cons_of_neg (by simp [houter line rfl])
  have haccepted : ∀ line ∈ run.reverse, form.accepts line = true := by
    simpa using h.accepted
  rw [List.takeWhile_append_of_pos haccepted, hstop, List.append_nil]

theorem isRunAbove_takeWhile (form : CommentForm) (above : List Text) :
    IsRunAbove form above (above.takeWhile form.accepts).reverse where
  accepted line hline := List.mem_takeWhile_imp (List.mem_reverse.mp hline)
  maximal := by
    refine ⟨above.dropWhile form.accepts, ?_, fun line hline => ?_⟩
    · rw [List.reverse_reverse, List.takeWhile_append_dropWhile]
    · have hfirst := List.head?_dropWhile_not form.accepts above
      rwa [Option.mem_def.mp hline] at hfirst

theorem existsUnique_isRunAbove (form : CommentForm) (above : List Text) :
    ∃! run, IsRunAbove form above run := by
  refine ⟨_, isRunAbove_takeWhile form above, fun run hrun => ?_⟩
  rw [hrun.takeWhile_eq, List.reverse_reverse]

theorem IsRunAbove.commentAbove_eq (h : IsRunAbove form above run) :
    commentAbove form above = said run := by
  rw [commentAbove, h.takeWhile_eq, List.map_reverse, List.filter_reverse, List.reverse_reverse,
    said]

/-! ### Commands and remarks -/

def remarksIn (fragments : List Text) : List Text :=
  fragments.filter fun f => !f.startsWith shellMark

def commandsIn (fragments : List Text) : List Text :=
  (fragments.filter (·.startsWith shellMark)).map (·.drop shellMark.length)

/-- The call has each of the fragments in its comment or among its commands. -/
structure Divides (fragments : List Text) (call : Call) : Prop where
  comment : call.comment = join [' '] (remarksIn fragments)
  shell : call.shell =
    if commandsIn fragments = [] then none else some (join ['\n'] (commandsIn fragments))
  commands : ∀ command ∈ commandsIn fragments, command ≠ []

theorem filterMap_stripStart? (start : Text) (ts : List Text) :
    ts.filterMap (stripStart? start) =
      (ts.filter (·.startsWith start)).map (·.drop start.length) := by
  induction ts with
  | nil => rfl
  | cons t ts ih =>
    have hstarts := startsWith_eq_isSome t start
    cases hstrip : stripStart? start t with
    | none =>
      rw [hstrip] at hstarts
      rw [List.filterMap_cons_none hstrip, List.filter_cons_of_neg (by simp [hstarts]), ih]
    | some rest =>
      rw [hstrip] at hstarts
      obtain rfl := stripStart?_eq_some_iff.mp hstrip
      rw [List.filterMap_cons_some hstrip, List.filter_cons_of_pos (by simpa using hstarts),
        List.map_cons, List.drop_left, ih]

theorem of_mem_said {f : Text} (h : f ∈ said run) : f ≠ [] ∧ commentText f = f := by
  obtain ⟨hmap, hne⟩ := List.mem_filter.mp h
  obtain ⟨line, -, rfl⟩ := List.mem_map.mp hmap
  exact ⟨by simpa using hne, trimWhile_trimWhile isCommentMark line⟩

theorem ne_nil_of_mem_commandsIn {command : Text} (h : command ∈ commandsIn (said run)) :
    command ≠ [] := by
  obtain ⟨f, hf, rfl⟩ := List.mem_map.mp h
  obtain ⟨hsaid, hstarts⟩ := List.mem_filter.mp hf
  obtain ⟨rest, rfl⟩ := startsWith_iff.mp hstarts
  rw [List.drop_left]
  exact command_ne_nil (of_mem_said hsaid).2

theorem callComment_said (run : List Text) :
    callComment (said run) = join [' '] (remarksIn (said run)) := by
  have hremarks : ((said run).filter fun f => (stripStart? shellMark f).isNone) =
      remarksIn (said run) := by
    refine List.filter_congr fun f _ => ?_
    rw [startsWith_eq_isSome, Option.not_isSome]
  have hne : ∀ f ∈ remarksIn (said run), f ≠ [] :=
    fun f hf => (of_mem_said (List.mem_of_mem_filter hf)).1
  rw [callComment, hremarks, ← joinFragments_eq_foldl hne, joinFragments]

theorem divides_readCall {site : Site} (hrun : IsRunAbove .block site.above run)
    (signature : Signature) : Divides (said run) (readCall site signature) := by
  refine ⟨?_, ?_, fun command => ne_nil_of_mem_commandsIn⟩
  · rw [readCall]
    dsimp only
    rw [hrun.commentAbove_eq, callComment_said]
  · simp only [readCall, callShell, hrun.commentAbove_eq, filterMap_stripStart?, List.isEmpty_iff]
    rfl

/-! ### Calls and services in their places -/

/-- The line declares a call, and a service stands above it. -/
def Site.isCall (site : Site) : Bool :=
  site.call?.isSome && site.above.any (keyword? · == some .service)

/-- The lines that become calls, in their places. -/
def callSites (ls : List Text) : List Site :=
  (sites ls).filter Site.isCall

theorem flatMap_calls_servicesOf (xs : List Site) :
    (servicesOf xs).flatMap (·.calls) =
      (xs.dropWhile (!·.isService)).filterMap Site.call? := by
  induction xs with
  | nil => rfl
  | cons site rest ih =>
    cases hservice : site.isService with
    | true =>
      have hcall : site.call? = none := by
        rw [Site.call?, eq_of_beq hservice]
        rfl
      rw [servicesOf, if_pos hservice, List.flatMap_cons, ih,
        List.dropWhile_cons_of_neg (by simp [hservice]), List.filterMap_cons_none hcall,
        ← List.filterMap_append, List.takeWhile_append_dropWhile]
    | false =>
      rw [servicesOf, if_neg (by simp [hservice]), ih,
        List.dropWhile_cons_of_pos (by simp [hservice])]

/-- Below a service line, every line that declares a call becomes one; above the first there is
none. -/
theorem forall₂_call?_sitesFrom (above below : List Text) :
    List.Forall₂ (fun site call => site.call? = some call)
      ((sitesFrom above below).filter Site.isCall)
      ((if above.any (keyword? · == some .service) then sitesFrom above below
        else (sitesFrom above below).dropWhile (!·.isService)).filterMap Site.call?) := by
  induction below generalizing above with
  | nil => simp [sitesFrom]
  | cons line below ih =>
    have hrest := ih (line :: above)
    have hline : (keyword? line == some .service) = Site.isService ⟨above, line, below⟩ := rfl
    rw [List.any_cons, hline] at hrest
    rw [sitesFrom]
    cases habove : above.any (keyword? · == some .service) with
    | true =>
      rw [habove, Bool.or_true, if_pos rfl] at hrest
      rw [if_pos rfl]
      cases hcall : Site.call? ⟨above, line, below⟩ with
      | none =>
        rw [List.filter_cons_of_neg (by simp [Site.isCall, hcall]),
          List.filterMap_cons_none hcall]
        exact hrest
      | some call =>
        rw [List.filter_cons_of_pos (by simp [Site.isCall, hcall, habove]),
          List.filterMap_cons_some hcall]
        exact .cons hcall hrest
    | false =>
      rw [habove, Bool.or_false] at hrest
      rw [if_neg Bool.false_ne_true, List.filter_cons_of_neg (by simp [Site.isCall, habove])]
      cases hservice : Site.isService ⟨above, line, below⟩ with
      | true =>
        have hcall : Site.call? ⟨above, line, below⟩ = none := by
          rw [Site.call?, eq_of_beq hservice]
          rfl
        rw [hservice, if_pos rfl] at hrest
        rwa [List.dropWhile_cons_of_neg (by simp [hservice]), List.filterMap_cons_none hcall]
      | false =>
        rw [hservice, if_neg Bool.false_ne_true] at hrest
        rwa [List.dropWhile_cons_of_pos (by simp [hservice])]

theorem forall₂_callSites (source : Text) :
    List.Forall₂ (fun site call => site.call? = some call) (callSites (lines source))
      (findings source).schema.calls := by
  rw [Schema.calls, services_findings, flatMap_calls_servicesOf]
  exact forall₂_call?_sitesFrom [] (lines source)

theorem forall₂_serviceSites (xs : List Site) :
    List.Forall₂ (fun site service => ∃ calls, service = { site.service with calls })
      (xs.filter Site.isService) (servicesOf xs) := by
  induction xs with
  | nil => exact .nil
  | cons site rest ih =>
    rw [servicesOf]
    cases hservice : site.isService with
    | true =>
      rw [List.filter_cons_of_pos hservice, if_pos rfl]
      exact .cons ⟨_, rfl⟩ ih
    | false =>
      rw [List.filter_cons_of_neg (by simp [hservice]), if_neg Bool.false_ne_true]
      exact ih

/-- Every call divides what the run of block comments above it says into its comment and its
commands. A service in the same place has all of it as its comment, and an enumeration all that the
run of line comments says. -/
theorem fragments_of_places (source : Text) :
    (∀ form above, ∃! run, IsRunAbove form above run) ∧
    List.Forall₂ (fun site call =>
        signature? site.line = some ⟨call.name, call.request, call.response, call.stream⟩ ∧
        ∃ run, IsRunAbove .block site.above run ∧ Divides (said run) call)
      (callSites (lines source)) (findings source).schema.calls ∧
    List.Forall₂ (fun site service =>
        ∃ run, IsRunAbove .block site.above run ∧ service.comment = join [' '] (said run))
      (serviceSites (lines source)) (findings source).schema.services ∧
    (∀ name enumeration, (findings source).schema.enums.get? name = some enumeration →
      ∃ site run,
        (sites (lines source)).reverse.find? (fun s => Kind.enums.name? s = some name) = some site ∧
        IsRunAbove .line site.above run ∧ enumeration.comment = join [' '] (said run)) ∧
    ∀ fragments : List Text, [] ∉ fragments →
      fragments.foldl addFragment [] = join [' '] fragments := by
  refine ⟨existsUnique_isRunAbove, ?_, ?_, fun name enumeration henum => ?_,
    fun fragments hne => ?_⟩
  · refine (forall₂_callSites source).imp fun site call hcall => ?_
    obtain ⟨signature, hsignature, rfl⟩ := Site.exists_signature_of_call? hcall
    have hrun := isRunAbove_takeWhile .block site.above
    exact ⟨hsignature, _, hrun, divides_readCall hrun signature⟩
  · rw [services_findings]
    refine (forall₂_serviceSites _).imp fun site service hservice => ?_
    obtain ⟨calls, rfl⟩ := hservice
    have hrun := isRunAbove_takeWhile .block site.above
    exact ⟨_, hrun, congrArg joinFragments hrun.commentAbove_eq⟩
  · have hvalue := (Kind.lawful_enums.lastWins source).values name
    obtain ⟨site, hsite, rfl⟩ := Option.map_eq_some_iff.mp (hvalue.symm.trans henum)
    have hrun := isRunAbove_takeWhile .line site.above
    exact ⟨site, _, hsite, hrun, congrArg joinFragments hrun.commentAbove_eq⟩
  · refine (joinFragments_eq_foldl fun f hf => ?_).symm
    rintro rfl
    exact hne hf

end RpcReference.Source
