import RpcReference.Proofs.CommentFragments
import RpcReference.Proofs.DocumentLines
import RpcReference.Proofs.NestedDeclarations
/-!
# How literal the commands of a call are

A command is written on a comment line, and whatever is read from a comment line has lost the
comment marks at its ends. At the beginning the word in front of the command stands guard, at the
end nothing does: a command that ends in a star or a slash is shown without it, and a command of
nothing but such characters is not shown at all. All other commands are literal, from the definition
file to the document.
-/

namespace RpcReference.Source

open Text

/-! ### One command -/

/-- The command without the comment marks that it ends in. -/
def withoutMarks (command : Text) : Text :=
  dropEndWhile isCommentMark command

/-- The last character of the command would end a comment. -/
def EndsInMark (command : Text) : Prop :=
  command.getLast? = some '*' ∨ command.getLast? = some '/'

instance (command : Text) : Decidable (EndsInMark command) :=
  inferInstanceAs (Decidable (_ ∨ _))

/-- A text for the command line: it stands on one line, without blanks around it. -/
structure IsCommandText (command : Text) : Prop where
  ne_nil : command ≠ []
  trimmed : trim command = command
  one_line : '\n' ∉ command

instance (command : Text) : Decidable (IsCommandText command) :=
  decidable_of_iff (command ≠ [] ∧ trim command = command ∧ '\n' ∉ command)
    ⟨fun ⟨hne, htrimmed, hline⟩ => ⟨hne, htrimmed, hline⟩,
      fun ⟨hne, htrimmed, hline⟩ => ⟨hne, htrimmed, hline⟩⟩

variable {command : Text}

theorem IsCommandText.endsWithout (h : IsCommandText command) : EndsWithout isBlank command :=
  endsWithout_of_dropEndWhile h.ne_nil (trimWhile_eq_self_iff.mp h.trimmed).2

theorem IsCommandText.withoutMarks_eq_self_iff (h : IsCommandText command) :
    withoutMarks command = command ↔ ¬ EndsInMark command := by
  obtain ⟨start, d, rfl, hd⟩ := h.endsWithout
  have hmark : isCommentMark d = true ↔ d = '*' ∨ d = '/' := by
    simp [isCommentMark, hd]
  have hends : EndsInMark (start ++ [d]) ↔ d = '*' ∨ d = '/' := by
    simp [EndsInMark]
  rw [hends, ← hmark, withoutMarks]
  refine List.rdropWhile_eq_self_iff.trans ?_
  simp

/-- What the comment line of a command says. -/
def commandFragment (command : Text) : Text :=
  if withoutMarks command = [] then "shell:".toList else shellMark ++ withoutMarks command

theorem commentText_command (command : Text) :
    commentText ("* ".toList ++ (shellMark ++ command)) = commandFragment command := by
  have hword : dropEndWhile isCommentMark "shell:".toList = "shell:".toList := by decide
  have hstar : ("* ".toList ++ (shellMark ++ command)).dropWhile isCommentMark =
      "shell:".toList ++ ' ' :: command := rfl
  obtain ⟨tail, htail, hcommand⟩ := exists_eq_dropEndWhile_append isCommentMark command
  rw [commentText, trimWhile, hstar, dropEndWhile_append_eq hword, commandFragment, withoutMarks]
  split
  · next hnil =>
    rw [hnil, List.nil_append] at hcommand
    have hblank : ∀ c ∈ ' ' :: tail, isCommentMark c = true :=
      List.forall_mem_cons.mpr ⟨by decide, htail⟩
    rw [hcommand, ← List.nil_append (' ' :: tail), dropEndWhile_append [] hblank]
    rfl
  · next hne =>
    have hkept : dropEndWhile isCommentMark (' ' :: command) =
        ' ' :: dropEndWhile isCommentMark command := by
      conv_lhs => rw [hcommand, ← List.cons_append, dropEndWhile_append _ htail]
      exact dropEndWhile_append_of_ne_nil [' '] hne (List.rdropWhile_idempotent _ _)
    rw [hkept]
    rfl

theorem stripStart?_commandFragment (command : Text) :
    stripStart? shellMark (commandFragment command) =
      if withoutMarks command = [] then none else some (withoutMarks command) := by
  unfold commandFragment
  split
  · rfl
  · exact stripStart?_append shellMark (withoutMarks command)

/-! ### All commands -/

def keptCommands (commands : List Text) : List Text :=
  (commands.map withoutMarks).filter (! ·.isEmpty)

/-- The commands of which nothing is kept. -/
def lostCommands (commands : List Text) : List Text :=
  commands.filter fun command => (withoutMarks command).isEmpty

variable {commands : List Text}

theorem commandsIn_commandFragment (commands : List Text) :
    commandsIn (commands.map commandFragment) = keptCommands commands := by
  rw [commandsIn, ← filterMap_stripStart?]
  induction commands with
  | nil => rfl
  | cons command commands ih =>
    have hstrip := stripStart?_commandFragment command
    rw [List.map_cons, keptCommands, List.map_cons]
    by_cases hlost : withoutMarks command = []
    · rw [if_pos hlost] at hstrip
      rw [List.filterMap_cons_none hstrip, ih, List.filter_cons_of_neg (by simp [hlost]),
        keptCommands]
    · rw [if_neg hlost] at hstrip
      rw [List.filterMap_cons_some hstrip, ih, List.filter_cons_of_pos (by simp [hlost]),
        keptCommands]

theorem remarksIn_commandFragment (commands : List Text) :
    remarksIn (commands.map commandFragment) =
      (lostCommands commands).map fun _ => "shell:".toList := by
  have hstarts : (fun f : Text => !f.startsWith shellMark) ∘ commandFragment =
      fun command => (withoutMarks command).isEmpty := by
    funext command
    rw [Function.comp_apply, startsWith_eq_isSome, stripStart?_commandFragment]
    split
    · next hlost => rw [hlost]; rfl
    · next hkept => exact (List.isEmpty_eq_false_iff.mpr hkept).symm
  rw [remarksIn, List.filter_map, hstarts, lostCommands]
  refine List.map_congr_left fun command hcommand => ?_
  have hlost : withoutMarks command = [] := by simpa using List.of_mem_filter hcommand
  rw [commandFragment, if_pos hlost]

theorem commandFragment_ne_nil (command : Text) : commandFragment command ≠ [] := by
  unfold commandFragment
  split
  · decide
  · exact List.append_ne_nil_of_left_ne_nil (by decide) _

theorem subset_withoutMarks (command : Text) : withoutMarks command ⊆ command :=
  (List.rdropWhile_prefix _ _).subset

theorem of_mem_keptCommands {kept : Text} (h : kept ∈ keptCommands commands) :
    kept ≠ [] ∧ ∃ command ∈ commands, withoutMarks command = kept := by
  obtain ⟨hmap, hne⟩ := List.mem_filter.mp h
  exact ⟨by simpa using hne, List.mem_map.mp hmap⟩

theorem keptCommands_eq_self_iff (hcommands : ∀ command ∈ commands, command ≠ []) :
    keptCommands commands = commands ↔ ∀ command ∈ commands, withoutMarks command = command := by
  constructor
  · intro h
    have hlength : (keptCommands commands).length = (commands.map withoutMarks).length := by
      rw [h, List.length_map]
    rw [keptCommands, (List.filter_sublist).eq_of_length hlength] at h
    exact List.map_eq_map_iff.mp (h.trans (List.map_id commands).symm)
  · intro h
    have hmap : commands.map withoutMarks = commands :=
      (List.map_congr_left h).trans (List.map_id commands)
    rw [keptCommands, hmap, List.filter_eq_self]
    intro command hcommand
    simpa using hcommands command hcommand

/-! ### The first call of a service -/

/-- The first call line below a service line is the first call of that service. -/
theorem exists_first_call (front back : List Text) {run : List Text} {service call : Text}
    {signature : Signature} (hservice : keyword? service = some .service)
    (hrun : ∀ line ∈ run, declaration? line = none)
    (hsignature : signature? call = some signature) :
    ∃ earlier found later,
      servicesOf (sites (front ++ service :: (run ++ call :: back))) = earlier ++ found :: later ∧
      earlier.length = front.countP (keyword? · == some .service) ∧
      found.calls.head? =
        some (readCall ⟨run.reverse ++ service :: front.reverse, call, back⟩ signature) := by
  obtain ⟨rest, hcall⟩ := declaration?_of_signature? hsignature
  have hfront := sitesFrom_append [] [] front (service :: (run ++ call :: back))
  have hbelow := sitesFrom_append [] (service :: front.reverse) run (call :: back)
  simp only [List.append_nil, List.nil_append] at hfront hbelow
  have hstart : Site.isService ⟨front.reverse, service, run ++ call :: back⟩ = true := by
    simp [Site.isService, Site.isOf, hservice]
  have hquiet : ∀ site ∈ (sitesFrom [] run).map (Site.within (service :: front.reverse)
      (call :: back)), site.isService = false ∧ site.call? = none := by
    intro site hsite
    obtain ⟨inner, hinner, rfl⟩ := List.mem_map.mp hsite
    have hline : declaration? inner.line = none := by
      refine hrun _ ?_
      rw [← map_line_sitesFrom [] run]
      exact List.mem_map_of_mem hinner
    refine ⟨?_, Site.call?_of_undeclared hline⟩
    simp [Site.isService, Site.isOf, Site.within, keyword?, hline]
  have hlast : Site.isService ⟨run.reverse ++ service :: front.reverse, call, back⟩ = false := by
    simp [Site.isService, Site.isOf, keyword?_of_declaration? hcall]
  rw [sites, hfront, sitesFrom, hbelow, servicesOf_append hstart, servicesOf, if_pos hstart]
  refine ⟨_, _, _, rfl, ?_, ?_⟩
  · rw [← (forall₂_serviceSites _).length_eq, ← List.countP_eq_length_filter, List.countP_map]
    conv_rhs => rw [← map_line_sitesFrom [] front, List.countP_map]
    rfl
  · have hnone : ((sitesFrom [] run).map (Site.within (service :: front.reverse)
        (call :: back))).filterMap Site.call? = [] :=
      List.filterMap_eq_nil_iff.mpr fun site hsite => (hquiet site hsite).2
    dsimp only
    rw [sitesFrom, List.takeWhile_append_of_pos fun site hsite => by simp [(hquiet site hsite).1],
      List.filterMap_append, hnone, List.nil_append, List.takeWhile_cons_of_pos (by simp [hlast]),
      List.filterMap_cons, Site.call?_of_rpc hcall, hsignature]
    rfl

/-- A file with a service line, commands in a block comment below it, and a call line below that,
as the lines are written. -/
structure Commanded where
  front : List Text
  service : Text
  commands : List Text
  call : Text
  back : List Text
  deriving DecidableEq, Repr

namespace Commanded

def contents (d : Commanded) : List Text :=
  d.commands.map (shellMark ++ ·)

def written (d : Commanded) : List Text :=
  d.front ++ d.service :: (blockComment d.contents ++ d.call :: d.back)

/-- The number of service lines above the service line. -/
def index (d : Commanded) : Nat :=
  (d.front.map bare).countP (keyword? · == some .service)

structure Proper (d : Commanded) : Prop where
  service : keyword? (bare d.service) = some .service
  ne_nil : d.commands ≠ []
  commands : ∀ command ∈ d.commands, IsCommandText command

instance (d : Commanded) : Decidable d.Proper :=
  decidable_of_iff (keyword? (bare d.service) = some .service ∧ d.commands ≠ [] ∧
      ∀ command ∈ d.commands, IsCommandText command)
    ⟨fun ⟨hservice, hne, hcommands⟩ => ⟨hservice, hne, hcommands⟩,
      fun ⟨hservice, hne, hcommands⟩ => ⟨hservice, hne, hcommands⟩⟩

variable {d : Commanded}

theorem Proper.map_bare_written (h : d.Proper) :
    d.written.map bare = d.front.map bare ++
      bare d.service :: (blockRun d.contents ++ bare d.call :: d.back.map bare) := by
  have hcontents : ∀ t ∈ d.contents, EndsWithout isBlank t := by
    intro t ht
    obtain ⟨command, hcommand, rfl⟩ := List.mem_map.mp ht
    obtain ⟨start, c, hsplit, hc⟩ := (h.commands command hcommand).endsWithout
    exact ⟨shellMark ++ start, c, by rw [hsplit, List.append_assoc], hc⟩
  simp [written, map_bare_blockComment_of_endsWithout hcontents]

theorem said_blockRun (d : Commanded) :
    said (blockRun d.contents) = d.commands.map commandFragment := by
  have hfragments : d.contents.map (fun t => commentText ("* ".toList ++ t)) =
      d.commands.map commandFragment := by
    rw [contents, List.map_map]
    exact List.map_congr_left fun command _ => commentText_command command
  rw [said, filter_commentText_blockRun, hfragments, List.filter_eq_self]
  intro fragment hfragment
  obtain ⟨command, -, rfl⟩ := List.mem_map.mp hfragment
  simpa using commandFragment_ne_nil command

theorem Proper.isRunAbove (h : d.Proper) (above : List Text) :
    IsRunAbove .block ((blockRun d.contents).reverse ++ bare d.service :: above)
      (blockRun d.contents) where
  accepted := accepts_blockRun d.contents
  maximal := by
    refine ⟨_, rfl, fun line hline => ?_⟩
    cases hline
    obtain ⟨found, hservice, -⟩ := Option.map_eq_some_iff.mp h.service
    have hcomment := isBodyComment_of_declaration? hservice
    by_contra haccepts
    rw [isBodyComment_of_accepts (Bool.not_eq_false _ ▸ haccepts)] at hcomment
    cases hcomment

/-- The call that is found in the file. -/
def found (d : Commanded) (signature : Signature) : Call where
  name := signature.name
  request := signature.request
  response := signature.response
  comment := join [' '] ((lostCommands d.commands).map fun _ => "shell:".toList)
  stream := signature.stream
  shell := if keptCommands d.commands = [] then none
    else some (join ['\n'] (keptCommands d.commands))

theorem Proper.readCall_eq (h : d.Proper) (above below : List Text) (signature : Signature) :
    readCall ⟨(blockRun d.contents).reverse ++ bare d.service :: above, bare d.call, below⟩
      signature = d.found signature := by
  have hdivides : Divides (said (blockRun d.contents)) (readCall
      ⟨(blockRun d.contents).reverse ++ bare d.service :: above, bare d.call, below⟩ signature) :=
    divides_readCall (h.isRunAbove above) signature
  obtain ⟨hcomment, hshell, -⟩ := hdivides
  rw [d.said_blockRun, remarksIn_commandFragment] at hcomment
  rw [d.said_blockRun, commandsIn_commandFragment] at hshell
  simp only [readCall] at hcomment hshell ⊢
  rw [hcomment, hshell, found]

theorem Proper.keptCommands_eq_self_iff (h : d.Proper) :
    keptCommands d.commands = d.commands ↔ ∀ command ∈ d.commands, ¬ EndsInMark command := by
  rw [Source.keptCommands_eq_self_iff fun command hcommand => (h.commands command hcommand).ne_nil]
  exact forall₂_congr fun command hcommand =>
    (h.commands command hcommand).withoutMarks_eq_self_iff

theorem Proper.one_line_kept (h : d.Proper) : ∀ kept ∈ keptCommands d.commands, '\n' ∉ kept := by
  intro kept hkept hmem
  obtain ⟨-, command, hcommand, rfl⟩ := of_mem_keptCommands hkept
  exact (h.commands command hcommand).one_line (subset_withoutMarks command hmem)

theorem Proper.shell_eq_iff (h : d.Proper) (signature : Signature) :
    (d.found signature).shell = some (join ['\n'] d.commands) ↔
      ∀ command ∈ d.commands, ¬ EndsInMark command := by
  rw [← h.keptCommands_eq_self_iff, found]
  dsimp only
  constructor
  · intro hshell
    split at hshell
    · cases hshell
    · next hne =>
      have hlines := congrArg (split '\n') (Option.some.inj hshell)
      rwa [split_join hne h.one_line_kept, split_join h.ne_nil fun command hcommand =>
        (h.commands command hcommand).one_line] at hlines
  · intro hkept
    rw [hkept, if_neg h.ne_nil]

theorem Proper.commandLines_found (h : d.Proper) (signature : Signature) :
    Document.commandLines (d.found signature) = keptCommands d.commands := by
  rw [Document.commandLines, found]
  dsimp only
  split
  · next hnil => rw [hnil]; rfl
  · next hne => exact split_join hne h.one_line_kept

end Commanded

/-! ### From the file to the document -/

/-- The commands in a block of their own; nothing if there are none. -/
def fenced (commands : List Text) : List Text :=
  if commands = [] then [] else ["```shell".toList] ++ commands ++ ["```".toList]

theorem fenced_injective : Function.Injective fenced := by
  intro first second h
  unfold fenced at h
  split at h
  · next hfirst =>
    split at h
    · next hsecond => rw [hfirst, hsecond]
    · cases h
  · split at h
    · cases h
    · exact List.append_cancel_left (List.append_cancel_right h)

open Document in
/-- The commands above a call are found without the marks that they end in, and shown as they are
found. They are literal exactly when none of them ends in a mark. -/
theorem commands_without_end_marks {d : Commanded} (h : d.Proper) {source : Text}
    (hsource : split '\n' source = d.written) {signature : Signature}
    (hsignature : signature? (bare d.call) = some signature) :
    ∃ service, (findings source).schema.services[d.index]? = some service ∧
      service.calls.head? = some (d.found signature) ∧
      ((d.found signature).shell = some (join ['\n'] d.commands) ↔
        ∀ command ∈ d.commands, ¬ EndsInMark command) ∧
      ∀ subject : Subject, subject.schema = (findings source).schema →
        subject.schema.Resolves (d.found signature) →
        ∃ request response, ∃ g : CallGroups,
          g.Describe subject.schema (d.found signature) request response ∧
          write [subject.callPart service (d.found signature)] = ⟨ended g.lines, none⟩ ∧
          g.shell = fenced (keptCommands d.commands) ∧
          (g.shell = fenced d.commands ↔ ∀ command ∈ d.commands, ¬ EndsInMark command) := by
  have hlines : lines source = d.written.map bare := by
    rw [lines, hsource]
    rfl
  obtain ⟨earlier, service, later, hservices, hlength, hhead⟩ :=
    exists_first_call (d.front.map bare) (d.back.map bare) h.service
      (declaration?_blockRun d.contents) hsignature
  rw [← h.map_bare_written, ← hlines, ← services_findings] at hservices
  rw [h.readCall_eq] at hhead
  have hservice : (findings source).schema.services[d.index]? = some service := by
    rw [hservices, Commanded.index, ← hlength]
    simp
  refine ⟨service, hservice, hhead, h.shell_eq_iff signature, ?_⟩
  intro subject hschema hresolves
  have hwell : subject.schema.WellFormed := by
    rw [hschema]
    exact wellFormed_schema source
  have hmem : service ∈ subject.schema.services := by
    rw [hschema]
    exact List.mem_of_getElem? hservice
  have hwellService := hwell.services service hmem
  have hwellCall := hwellService.calls _ (List.mem_of_mem_head? hhead)
  obtain ⟨ls, hwrites, request, response, g, -, -, hdescribe, rfl⟩ :=
    exists_writes_call hwell hwellService hwellCall hresolves
  have hshell : g.shell = fenced (keptCommands d.commands) := by
    rw [hdescribe.shell, h.commandLines_found, fenced]
  refine ⟨request, response, g, hdescribe, hwrites.write_eq, hshell, ?_⟩
  rw [hshell, fenced_injective.eq_iff, h.keptCommands_eq_self_iff]

/-- A second service, whose call has a command that is kept, one that loses its end, and one that is
lost. -/
def storeCommands : Commanded where
  front := ["service Early \x7b".toList, "\x7d".toList, "message Item \x7b".toList,
    "  string path = 1;".toList, "\x7d".toList]
  service := "service Store \x7b".toList
  commands := ["store list | wc -l".toList, "ls /tmp/".toList, "/".toList]
  call := "  rpc List (Item) returns (stream Item);".toList
  back := ["  rpc Other (Item) returns (Item);".toList, "\x7d".toList]

theorem commands_storeCommands :
    storeCommands.Proper ∧
    split '\n' (join ['\n'] storeCommands.written) = storeCommands.written ∧
    signature? (bare storeCommands.call) =
      some ⟨"List".toList, "Item".toList, "Item".toList, true⟩ ∧
    ∃ service, (findings (join ['\n'] storeCommands.written)).schema.services[1]? = some service ∧
      ∃ call, service.calls.head? = some call ∧
        (findings (join ['\n'] storeCommands.written)).schema.Resolves call ∧
        call.comment = "shell:".toList ∧
        call.shell = some "store list | wc -l\nls /tmp".toList ∧
        ∃ request response, ∃ g : Document.CallGroups,
          g.Describe (findings (join ['\n'] storeCommands.written)).schema call request response ∧
          Document.write [Document.Subject.callPart ⟨(findings (join ['\n']
            storeCommands.written)).schema, "store.proto".toList, .standard⟩ service call] =
              ⟨Document.ended g.lines, none⟩ ∧
          g.shell = ["```shell".toList, "store list | wc -l".toList, "ls /tmp".toList,
            "```".toList] := by
  have hproper : storeCommands.Proper := by decide +kernel
  have hwritten : split '\n' (join ['\n'] storeCommands.written) = storeCommands.written := by
    decide +kernel
  have hsignature : signature? (bare storeCommands.call) =
      some ⟨"List".toList, "Item".toList, "Item".toList, true⟩ := by decide +kernel
  obtain ⟨service, hservice, hhead, -, hrender⟩ :=
    commands_without_end_marks hproper hwritten hsignature
  have hresolves : (findings (join ['\n'] storeCommands.written)).schema.Resolves
      (storeCommands.found ⟨"List".toList, "Item".toList, "Item".toList, true⟩) := by
    decide +kernel
  obtain ⟨request, response, g, hdescribe, hwrites, hshell, -⟩ :=
    hrender ⟨_, "store.proto".toList, .standard⟩ rfl hresolves
  have hkept : fenced (keptCommands storeCommands.commands) =
      ["```shell".toList, "store list | wc -l".toList, "ls /tmp".toList, "```".toList] := by
    decide +kernel
  exact ⟨hproper, hwritten, hsignature, service, hservice, _, hhead, hresolves,
    by decide +kernel, by decide +kernel, request, response, g, hdescribe, hwrites,
    hshell.trans hkept⟩

/-- A service with one call, above which there is one command. -/
def listCommand : Commanded :=
  ⟨[], "service Shell \x7b".toList, ["ls /tmp/".toList], "rpc List (A) returns (B);".toList,
    ["\x7d".toList]⟩

theorem not_literal_listCommand :
    listCommand.Proper ∧
    split '\n' (join ['\n'] listCommand.written) = listCommand.written ∧
    signature? (bare listCommand.call) = some ⟨"List".toList, "A".toList, "B".toList, false⟩ ∧
    ((findings (join ['\n'] listCommand.written)).schema.calls.map Call.shell) =
      [some "ls /tmp".toList] ∧
    join ['\n'] listCommand.commands ≠ "ls /tmp".toList := by
  refine ⟨?_, ?_, ?_, ?_, ?_⟩ <;> decide +kernel

end RpcReference.Source
