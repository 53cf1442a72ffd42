import RpcReference.Proofs.Finding
import RpcReference.Proofs.Steps
import RpcReference.Proofs.Tables
import RpcReference.Proofs.WrittenComments
/-!
# Comment lines carry no structure

Comment lines are met by every reader: the pass over the file, the search for comments above a
declaration, the scan of a message body and the values of an enumeration. None of them takes
anything but comments from such a line, as long as the line has no brace. So a file keeps its
structure when comment lines are deleted, and its diagnostics only move up.

The proof forgets comments first: adding a finding and forgetting its comments can be done in either
order. After that the two runs are kept in step line by line.
-/

namespace RpcReference

open Text Source

/-! ### Without comments -/

def Field.withoutComment (f : Field) : Field :=
  { f with comment := [] }

def Message.withoutComments (m : Message) : Message :=
  { m with fields := m.fields.map Field.withoutComment }

def Enumeration.withoutComment (e : Enumeration) : Enumeration :=
  { e with comment := [] }

/-- Commands stand in the comment of a call, so they go with it. -/
def Call.withoutComment (c : Call) : Call :=
  { c with comment := [], shell := none }

def Service.withoutComments (s : Service) : Service :=
  { s with comment := [], calls := s.calls.map Call.withoutComment }

/-- The schema with every comment empty and without commands. -/
def Schema.withoutComments (s : Schema) : Schema where
  services := s.services.map Service.withoutComments
  messages := s.messages.map Message.withoutComments
  enums := s.enums.map Enumeration.withoutComment

end RpcReference

namespace RpcReference.Source

open Text

def Finding.withoutComments : Finding → Finding
  | .service s => .service s.withoutComments
  | .call c => .call c.withoutComment
  | .message m => .message m.withoutComments
  | .enum e => .enum e.withoutComment
  | .fault concern => .fault concern

theorem addCall_map_withoutComments (call : Call) (services : List Service) :
    addCall call.withoutComment (services.map Service.withoutComments) =
      (addCall call services).map (List.map Service.withoutComments) := by
  obtain rfl | ⟨earlier, latest, rfl⟩ := List.eq_nil_or_concat' services
  · rfl
  · rw [List.map_append, List.map_singleton, addCall_concat, addCall_concat, Option.map_some,
      List.map_append, List.map_singleton]
    simp [Service.withoutComments]

namespace Findings

def withoutComments (f : Findings) : Findings :=
  { f with schema := f.schema.withoutComments }

/-- The findings with other line numbers. -/
def renumber (number : Nat → Nat) (f : Findings) : Findings :=
  { f with diagnostics := f.diagnostics.map fun d => { d with line := number d.line } }

theorem withoutComments_noteIf (f : Findings) (condition : Bool) (number : Nat)
    (concern : Concern) :
    (f.noteIf condition number concern).withoutComments =
      f.withoutComments.noteIf condition number concern := by
  unfold noteIf
  split <;> rfl

theorem withoutComments_add (f : Findings) (number : Nat) (finding : Finding) :
    (f.add number finding).withoutComments =
      f.withoutComments.add number finding.withoutComments := by
  cases finding with
  | service s => simp [add, withoutComments, Schema.withoutComments, Finding.withoutComments]
  | call c =>
    have hcall := addCall_map_withoutComments c f.schema.services
    simp only [add, Finding.withoutComments, withoutComments, Schema.withoutComments, hcall]
    cases addCall c f.schema.services <;> rfl
  | message m =>
    have hinsert : (f.insertMessage m).withoutComments =
        f.withoutComments.insertMessage m.withoutComments := by
      simp only [withoutComments, insertMessage, Schema.withoutComments, Table.map_insert]
      rfl
    simp only [add, Finding.withoutComments, withoutComments_noteIf, hinsert]
    simp only [withoutComments, Schema.withoutComments, Table.contains_map]
    rfl
  | enum e =>
    have hinsert : (f.insertEnum e).withoutComments =
        f.withoutComments.insertEnum e.withoutComment := by
      simp only [withoutComments, insertEnum, Schema.withoutComments, Table.map_insert]
      rfl
    simp only [add, Finding.withoutComments, withoutComments_noteIf, hinsert]
    simp only [withoutComments, Schema.withoutComments, Table.contains_map]
    rfl
  | fault concern => rfl

theorem renumber_note (number : Nat → Nat) (f : Findings) (line : Nat) (concern : Concern) :
    (f.note line concern).renumber number = (f.renumber number).note (number line) concern := by
  simp [note, renumber]

theorem renumber_noteIf (number : Nat → Nat) (f : Findings) (condition : Bool) (line : Nat)
    (concern : Concern) :
    (f.noteIf condition line concern).renumber number =
      (f.renumber number).noteIf condition (number line) concern := by
  unfold noteIf
  split
  · exact f.renumber_note number line concern
  · rfl

theorem renumber_add (number : Nat → Nat) (f : Findings) (line : Nat) (finding : Finding) :
    (f.add line finding).renumber number = (f.renumber number).add (number line) finding := by
  cases finding with
  | service s => rfl
  | call c =>
    have hsame : (f.renumber number).schema.services = f.schema.services := rfl
    simp only [add, hsame]
    cases addCall c f.schema.services with
    | none => exact renumber_note number f line _
    | some services => rfl
  | message m => exact renumber_noteIf number (f.insertMessage m) _ line _
  | enum e => exact renumber_noteIf number (f.insertEnum e) _ line _
  | fault concern => exact renumber_note number f line concern

end Findings

/-! ### Lines below a declaration -/

/-- The line is a comment and holds no brace. -/
def IsPlainComment (line : Text) : Prop :=
  isBodyComment line = true ∧ '{' ∉ line ∧ '}' ∉ line

/-- The lines `pruned` are the lines `ls` without some plain comments. -/
inductive Pruned : (ls pruned : List Text) → Prop
  | nil : Pruned [] []
  | keep {ls pruned : List Text} (line : Text) (h : Pruned ls pruned) :
      Pruned (line :: ls) (line :: pruned)
  | drop {ls pruned : List Text} {line : Text} (hline : IsPlainComment line)
      (h : Pruned ls pruned) : Pruned (line :: ls) pruned

def BodyEffect.withoutComments : BodyEffect → BodyEffect
  | .close => .close
  | .next field state => .next (field.map Field.withoutComment) ⟨state.depth, []⟩

theorem readLine_withoutComments (depth : Nat) (pending pending' line : Text) :
    (BodyState.readLine ⟨depth, pending⟩ line).withoutComments =
      (BodyState.readLine ⟨depth, pending'⟩ line).withoutComments := by
  unfold BodyState.readLine
  dsimp only
  split
  · split <;> rfl
  · split
    · rfl
    · split
      · rfl
      · split
        · rfl
        · cases fieldLine? line <;> rfl

theorem readLine_plainComment {line : Text} (hline : IsPlainComment line) (s : BodyState) :
    ∃ pending, s.readLine line = .next none ⟨s.depth, pending⟩ := by
  obtain ⟨hcomment, hopen, hclose⟩ := hline
  unfold BodyState.readLine
  simp only [List.count_eq_zero.mpr hopen, List.count_eq_zero.mpr hclose, hcomment]
  by_cases hdepth : 0 < s.depth
  · exact ⟨s.pending, by simp [hdepth]⟩
  · exact ⟨addFragment s.pending (commentText line), by simp [hdepth]⟩

theorem Pruned.map_fields {ls pruned : List Text} (h : Pruned ls pruned) (depth : Nat)
    (pending pending' : Text) :
    (BodyState.fields ⟨depth, pending⟩ ls).map Field.withoutComment =
      (BodyState.fields ⟨depth, pending'⟩ pruned).map Field.withoutComment := by
  induction h generalizing depth pending pending' with
  | nil => rfl
  | keep line h ih =>
    have heffect := readLine_withoutComments depth pending pending' line
    rw [BodyState.fields, BodyState.fields]
    cases hleft : BodyState.readLine ⟨depth, pending⟩ line with
    | close =>
      cases hright : BodyState.readLine ⟨depth, pending'⟩ line with
      | close => rfl
      | next field' state' => simp [hleft, hright, BodyEffect.withoutComments] at heffect
    | next field state =>
      cases hright : BodyState.readLine ⟨depth, pending'⟩ line with
      | close => simp [hleft, hright, BodyEffect.withoutComments] at heffect
      | next field' state' =>
        rw [hleft, hright] at heffect
        injection heffect with hfield hstate
        injection hstate with hdepth
        obtain ⟨depth, pending⟩ := state
        obtain ⟨depth', pending'⟩ := state'
        dsimp only at hdepth
        subst hdepth
        have hfields : field.toList.map Field.withoutComment =
            field'.toList.map Field.withoutComment := by
          rw [← Option.toList_map, hfield, Option.toList_map]
        simp only [List.map_append, hfields, ih depth pending pending']
  | drop hline h ih =>
    obtain ⟨next, hnext⟩ := readLine_plainComment hline ⟨depth, pending⟩
    rw [BodyState.fields, hnext]
    exact ih depth next pending'

theorem exists_trim_cons {c : Char} (hc : isBlank c = false) (rest : Text) :
    ∃ tail, trim (c :: rest) = c :: tail := by
  have htrim : trim (c :: rest) = (c :: rest).rdropWhile isBlank := by
    rw [trim, trimWhile, List.dropWhile_cons_of_neg (by simp [hc])]
    rfl
  have hne : (c :: rest).rdropWhile isBlank ≠ [] := by
    rw [Ne, List.rdropWhile_eq_nil_iff]
    intro hall
    rw [hall c (by simp)] at hc
    cases hc
  obtain ⟨d, tail, hcons⟩ := List.exists_cons_of_ne_nil hne
  have hstart := List.rdropWhile_prefix isBlank (c :: rest)
  rw [hcons, List.cons_prefix_cons] at hstart
  exact ⟨tail, by rw [htrim, hcons, hstart.1]⟩

theorem isBodyComment_trim {line : Text} (hline : isBodyComment line = true) :
    isBodyComment (trim line) = true := by
  cases line with
  | nil => exact absurd hline (by decide)
  | cons c rest =>
    rw [isBodyComment_cons] at hline
    have hblank : isBlank c = false := by
      simp only [Bool.or_eq_true, beq_iff_eq] at hline
      rcases hline with rfl | rfl <;> decide
    obtain ⟨tail, htail⟩ := exists_trim_cons hblank rest
    rw [htail, isBodyComment_cons, hline]

theorem statementValue?_of_isBodyComment {line : Text} (hline : isBodyComment line = true) :
    statementValue? line = none := by
  have htrim := isBodyComment_trim hline
  rw [isBodyComment] at htrim
  rw [statementValue?]
  dsimp only
  rw [htrim, Bool.true_or, Bool.true_or, if_pos rfl]

theorem Pruned.enumValues {ls pruned : List Text} (h : Pruned ls pruned) (line : Text) :
    enumValues line ls = enumValues line pruned := by
  unfold Source.enumValues
  cases bodyOnLine? line with
  | some body => rfl
  | none =>
    dsimp only
    induction h with
    | nil => rfl
    | keep l h ih =>
      by_cases hbrace : '}' ∈ l
      · rw [List.takeWhile_cons_of_neg (by simp [hbrace]),
          List.takeWhile_cons_of_neg (by simp [hbrace])]
      · rw [List.takeWhile_cons_of_pos (by simp [hbrace]),
          List.takeWhile_cons_of_pos (by simp [hbrace]), List.filterMap_cons, List.filterMap_cons, ih]
    | drop hline h ih =>
      rw [List.takeWhile_cons_of_pos (by simp [hline.2.2]),
        List.filterMap_cons_none (statementValue?_of_isBodyComment hline.1), ih]

theorem Pruned.finding? {below pruned : List Text} (h : Pruned below pruned)
    (above above' : List Text) (line : Text) :
    (Site.finding? ⟨above, line, below⟩).map Finding.withoutComments =
      (Site.finding? ⟨above', line, pruned⟩).map Finding.withoutComments := by
  unfold Site.finding?
  rw [Option.map_map, Option.map_map]
  congr 1
  funext ⟨keyword, rest⟩
  cases keyword with
  | service => rfl
  | rpc =>
    simp only [Function.comp_apply, findingOf]
    cases signature? line <;> rfl
  | message =>
    have hfields := h.map_fields 0 [] []
    simp only [Function.comp_apply, findingOf]
    split
    · rfl
    · simp only [Finding.withoutComments, readMessage, Message.withoutComments]
      split
      · rfl
      · rw [bodyFields, bodyFields, BodyState.start, hfields]
  | enum =>
    simp only [Function.comp_apply, findingOf]
    split
    · rfl
    · simp only [Finding.withoutComments, readEnum, Enumeration.withoutComment, h.enumValues line]

/-! ### Deleting lines -/

/-- The lines whose index is not deleted, where `start` is the index of the first line. -/
def keptFrom (deleted : Nat → Bool) (start : Nat) : List Text → List Text
  | [] => []
  | line :: ls =>
    if deleted start then keptFrom deleted (start + 1) ls
    else line :: keptFrom deleted (start + 1) ls

/-- The lines whose index is not deleted. -/
def kept (deleted : Nat → Bool) (ls : List Text) : List Text :=
  keptFrom deleted 0 ls

/-- How many deleted lines stand above the line with the number. -/
def deletedAbove (deleted : Nat → Bool) (number : Nat) : Nat :=
  (List.range (number - 1)).countP deleted

variable {deleted : Nat → Bool}

theorem pruned_keptFrom {start : Nat} {ls : List Text}
    (h : ∀ index line, ls[index]? = some line → deleted (start + index) = true →
      IsPlainComment line) : Pruned ls (keptFrom deleted start ls) := by
  induction ls generalizing start with
  | nil => exact .nil
  | cons line ls ih =>
    have hls : Pruned ls (keptFrom deleted (start + 1) ls) := by
      refine ih fun index l hl hdeleted => h (index + 1) l hl ?_
      rwa [Nat.add_assoc, Nat.add_comm 1] at hdeleted
    rw [keptFrom]
    split
    · next hdeleted => exact .drop (h 0 line rfl hdeleted) hls
    · exact .keep line hls

theorem deletedAbove_succ (deleted : Nat → Bool) (index : Nat) :
    deletedAbove deleted (index + 2) =
      deletedAbove deleted (index + 1) + if deleted index then 1 else 0 := by
  simp [deletedAbove, List.range_succ]

/-- The number that the line with the number has after the deletion. -/
abbrev raise (deleted : Nat → Bool) (number : Nat) : Nat :=
  number - deletedAbove deleted number

namespace Findings

theorem withoutComments_addOption (f : Findings) (number : Nat) (finding : Option Finding) :
    (f.addOption number finding).withoutComments =
      f.withoutComments.addOption number (finding.map Finding.withoutComments) := by
  cases finding with
  | none => rfl
  | some finding => exact f.withoutComments_add number finding

theorem renumber_addOption (number : Nat → Nat) (f : Findings) (line : Nat)
    (finding : Option Finding) :
    (f.addOption line finding).renumber number =
      (f.renumber number).addOption (number line) finding := by
  cases finding with
  | none => rfl
  | some finding => exact renumber_add number f line finding

/-- A line that is kept gives the same in both files but for comments and its number. -/
theorem readLine_kept {f g : Findings} {above above' below pruned : List Text} {line : Text}
    (hbelow : Pruned below pruned)
    (habove : above'.length + deletedAbove deleted (above.length + 1) = above.length)
    (h : g.withoutComments = (f.renumber (raise deleted)).withoutComments) :
    (g.readLine ⟨above', line, pruned⟩).withoutComments =
      ((f.readLine ⟨above, line, below⟩).renumber (raise deleted)).withoutComments := by
  have hnumber : Site.number ⟨above', line, pruned⟩ =
      raise deleted (Site.number ⟨above, line, below⟩) := by
    simp only [Site.number, raise]
    omega
  rw [readLine_eq_addOption, readLine_eq_addOption, renumber_addOption, withoutComments_addOption,
    withoutComments_addOption, h, hnumber, hbelow.finding? above above' line]

theorem readLines_keptFrom {f g : Findings} {above above' below : List Text}
    (hbelow : ∀ index line, below[index]? = some line → deleted (above.length + index) = true →
      IsPlainComment line)
    (habove : above'.length + deletedAbove deleted (above.length + 1) = above.length)
    (h : g.withoutComments = (f.renumber (raise deleted)).withoutComments) :
    (g.readLines above' (keptFrom deleted above.length below)).withoutComments =
      ((f.readLines above below).renumber (raise deleted)).withoutComments := by
  induction below generalizing f g above above' with
  | nil => exact h
  | cons line below ih =>
    have hrest : ∀ index l, below[index]? = some l →
        deleted ((line :: above).length + index) = true → IsPlainComment l := by
      intro index l hl hdeleted
      refine hbelow (index + 1) l hl ?_
      rwa [List.length_cons, Nat.add_assoc, Nat.add_comm 1] at hdeleted
    have hcount := deletedAbove_succ deleted above.length
    rw [keptFrom, readLines]
    by_cases hdeleted : deleted above.length = true
    · have hcomment := hbelow 0 line rfl hdeleted
      rw [if_pos hdeleted, readLine_of_undeclared f (declaration?_of_isBodyComment hcomment.1)]
      rw [if_pos hdeleted] at hcount
      refine ih hrest ?_ h
      rw [List.length_cons, hcount]
      omega
    · rw [if_neg hdeleted, readLines]
      rw [if_neg hdeleted] at hcount
      refine ih hrest ?_ (readLine_kept (pruned_keptFrom hrest) habove h)
      rw [List.length_cons, List.length_cons, hcount]
      omega

end Findings

theorem map_keptFrom (change : Text → Text) (start : Nat) (ls : List Text) :
    (keptFrom deleted start ls).map change = keptFrom deleted start (ls.map change) := by
  induction ls generalizing start with
  | nil => rfl
  | cons line ls ih =>
    rw [List.map_cons, keptFrom, keptFrom]
    split
    · exact ih _
    · rw [List.map_cons, ih]

theorem mem_of_mem_keptFrom {start : Nat} {ls : List Text} {line : Text}
    (h : line ∈ keptFrom deleted start ls) : line ∈ ls := by
  induction ls generalizing start with
  | nil => exact h
  | cons first ls ih =>
    rw [keptFrom] at h
    split at h
    · exact List.mem_cons_of_mem _ (ih h)
    · rcases List.mem_cons.mp h with rfl | h
      · exact List.mem_cons_self
      · exact List.mem_cons_of_mem _ (ih h)

theorem findings_join_kept (deleted : Nat → Bool) (source : Text) :
    findings (join ['\n'] (kept deleted (split '\n' source))) =
      Findings.empty.readLines [] (kept deleted (lines source)) := by
  have hlines : kept deleted (lines source) = (kept deleted (split '\n' source)).map bare :=
    (map_keptFrom bare 0 _).symm
  rw [hlines]
  by_cases hnil : kept deleted (split '\n' source) = []
  · -- A text always has a line; the empty one that is left declares nothing.
    rw [hnil]
    rfl
  · rw [findings, lines_join hnil]
    exact fun line hline => not_mem_of_mem_split (mem_of_mem_keptFrom hline)

/-- Deleting plain comments leaves the structure of a file as it is, and its diagnostics move up by
the number of deleted lines above them. -/
theorem findings_kept (source : Text) (deleted : Nat → Bool)
    (h : ∀ index line, (lines source)[index]? = some line → deleted index = true →
      IsPlainComment line) :
    (findings (join ['\n'] (kept deleted (split '\n' source)))).schema.withoutComments =
      (findings source).schema.withoutComments ∧
    (findings (join ['\n'] (kept deleted (split '\n' source)))).diagnostics =
      (findings source).diagnostics.map fun d =>
        { d with line := d.line - deletedAbove deleted d.line } := by
  have hkept : (Findings.empty.readLines [] (kept deleted (lines source))).withoutComments =
      ((findings source).renumber (raise deleted)).withoutComments :=
    @Findings.readLines_keptFrom deleted .empty .empty [] [] (lines source) (by simpa using h) rfl rfl
  rw [findings_join_kept]
  exact ⟨congrArg Findings.schema hkept, congrArg Findings.diagnostics hkept⟩

/-- Comments above a call, before a line that cannot be read, in a message and in an enumeration. -/
def ordersSource : Text :=
  join ['\n'] ["service Orders \x7b".toList, "/* Places it.".toList, " * shell: place */".toList,
    "rpc Place (Order) returns (Order);".toList, "// To do.".toList, "rpc Cancel".toList,
    "message Order \x7b".toList, "// Size.".toList, "int32 size = 1;".toList,
    "enum Side \x7b".toList, "/ Both.".toList, "BUY = 0;".toList, "\x7d".toList, "\x7d".toList]

/-- All comments but the first line of the block comment. -/
def ordersRemarks (index : Nat) : Bool :=
  [2, 4, 7, 10].contains index

theorem findings_kept_orders :
    (∀ index line, (lines ordersSource)[index]? = some line → ordersRemarks index = true →
      IsPlainComment line) ∧
    (findings (join ['\n'] (kept ordersRemarks (split '\n' ordersSource)))).schema.withoutComments =
      (findings ordersSource).schema.withoutComments ∧
    (findings (join ['\n'] (kept ordersRemarks (split '\n' ordersSource)))).diagnostics =
      [⟨4, .malformedCall "rpc Cancel".toList⟩] := by
  have hplain : ∀ index line, (lines ordersSource)[index]? = some line →
      ordersRemarks index = true → IsPlainComment line := by
    have hdecided : ∀ index ∈ [2, 4, 7, 10], ∀ line ∈ (lines ordersSource)[index]?,
        isBodyComment line = true ∧ '{' ∉ line ∧ '}' ∉ line := by decide +kernel
    intro index line hline hindex
    exact hdecided index (by simpa [ordersRemarks] using hindex) line hline
  have hdiagnostics : (findings ordersSource).diagnostics =
      [⟨6, .malformedCall "rpc Cancel".toList⟩] := by decide +kernel
  obtain ⟨hschema, hmoved⟩ := findings_kept ordersSource ordersRemarks hplain
  refine ⟨hplain, hschema, ?_⟩
  rw [hmoved, hdiagnostics]
  decide

end RpcReference.Source
