import RpcReference.Proofs.BodyScan
import RpcReference.Proofs.Finding
import RpcReference.Proofs.Redeclaration
import RpcReference.Proofs.ServiceCalls
import RpcReference.Proofs.WrittenComments
/-!
# One file behind another

A declaration looks up for its comment and down for its body, and a call goes to the latest service.
With an empty line between two files, nothing of this reaches from one file into the other if every
body of the first file ends there and every call of the second has a service there. If the files
declare different names besides, their findings stand one behind the other, and the second file's
diagnostics name later lines.
-/

namespace RpcReference.Source

open Text

/-! ### Lines -/

theorem lines_append_newline (first second : Text) :
    lines (first ++ '\n' :: second) = lines first ++ lines second := by
  rw [lines, split, splitWhere_eq_splitOnP, List.splitOnP_append_cons _ _ (by decide),
    List.map_append, ← splitWhere_eq_splitOnP, ← splitWhere_eq_splitOnP]
  rfl

theorem lines_append_blank_append (first second : Text) :
    lines (first ++ "\n\n".toList ++ second) = lines first ++ [] :: lines second := by
  have hblank : lines ('\n' :: second) = [] :: lines second := lines_append_newline [] second
  have hbreaks : first ++ "\n\n".toList ++ second = first ++ '\n' :: '\n' :: second :=
    List.append_assoc _ _ _
  rw [hbreaks, lines_append_newline, hblank]

/-! ### The first file -/

/-- The scan meets the line that closes the message. -/
def BodyState.closes (s : BodyState) : List Text → Bool
  | [] => false
  | line :: lines =>
    match s.readLine line with
    | .close => true
    | .next _ s => s.closes lines

theorem BodyState.closes_eq_isNone_after (s : BodyState) (ls : List Text) :
    s.closes ls = (s.after ls).isNone := by
  induction ls generalizing s with
  | nil => rfl
  | cons line ls ih =>
    rw [closes, after]
    cases s.readLine line with
    | close => rfl
    | next field next => exact ih next

theorem BodyState.fields_append_of_closes {s : BodyState} {below : List Text}
    (h : s.closes below = true) (tail : List Text) : s.fields (below ++ tail) = s.fields below := by
  rw [closes_eq_isNone_after, Option.isNone_iff_eq_none] at h
  exact fields_append_of_after_eq_none h tail

theorem takeWhile_append_of_mem {p : Text → Bool} {xs : List Text} (h : ∃ x ∈ xs, p x = false)
    (tail : List Text) : (xs ++ tail).takeWhile p = xs.takeWhile p := by
  induction xs with
  | nil => simp at h
  | cons x xs ih =>
    cases hx : p x with
    | false => simp [hx]
    | true =>
      obtain ⟨y, hy, hstop⟩ := h
      have hne : y ≠ x := by
        rintro rfl
        rw [hx] at hstop
        cases hstop
      have hmem : y ∈ xs := (List.mem_cons.mp hy).resolve_left hne
      simp [hx, ih ⟨y, hmem, hstop⟩]

/-- If the line declares a message or an enumeration with a name, its body ends in the file. -/
structure Site.Ended (site : Site) : Prop where
  message : (Kind.messages.name? site).isSome → '}' ∉ site.line →
    BodyState.start.closes site.below = true
  enum : (Kind.enums.name? site).isSome → bodyOnLine? site.line = none →
    ∃ line ∈ site.below, '}' ∈ line

instance (site : Site) : Decidable site.Ended :=
  decidable_of_iff
    (((Kind.messages.name? site).isSome → '}' ∉ site.line →
        BodyState.start.closes site.below = true) ∧
      ((Kind.enums.name? site).isSome → bodyOnLine? site.line = none →
        ∃ line ∈ site.below, '}' ∈ line))
    ⟨fun h => ⟨h.1, h.2⟩, fun h => ⟨h.message, h.enum⟩⟩

theorem readMessage_append {above below : List Text} {line name : Text}
    (h : '}' ∉ line → BodyState.start.closes below = true) (tail : List Text) :
    readMessage ⟨above, line, below ++ tail⟩ name = readMessage ⟨above, line, below⟩ name := by
  by_cases hbrace : '}' ∈ line
  · simp [readMessage, hbrace]
  · simp [readMessage, hbrace, bodyFields, BodyState.fields_append_of_closes (h hbrace)]

theorem enumValues_append {below : List Text} {line : Text}
    (h : bodyOnLine? line = none → ∃ l ∈ below, '}' ∈ l) (tail : List Text) :
    enumValues line (below ++ tail) = enumValues line below := by
  cases hbody : bodyOnLine? line with
  | some body => simp [enumValues, hbody]
  | none =>
    obtain ⟨last, hlast, hbrace⟩ := h hbody
    have htake := takeWhile_append_of_mem (p := fun l => !l.contains '}')
      ⟨last, hlast, by simp [hbrace]⟩ tail
    simp only [enumValues, hbody, htake]

theorem finding?_append_below {above below : List Text} {line : Text}
    (h : Site.Ended ⟨above, line, below⟩) (tail : List Text) :
    Site.finding? ⟨above, line, below ++ tail⟩ = Site.finding? ⟨above, line, below⟩ := by
  unfold Site.finding?
  cases hline : declaration? line with
  | none => rfl
  | some found =>
    obtain ⟨keyword, rest⟩ := found
    refine congrArg some ?_
    cases keyword with
    | service => rfl
    | rpc => rfl
    | message =>
      by_cases hname : messageName rest = []
      · simp [findingOf, hname]
      · have hnamed : Kind.messages.name? ⟨above, line, below⟩ = some (messageName rest) :=
          Kind.name?_of_named hline rfl hname
        simp [findingOf, hname, readMessage_append (h.message (by simp [hnamed])) tail]
    | enum =>
      by_cases hname : nameBeforeBrace rest = []
      · simp [findingOf, hname]
      · have hnamed : Kind.enums.name? ⟨above, line, below⟩ = some (nameBeforeBrace rest) :=
          Kind.name?_of_named hline rfl hname
        simp [findingOf, hname, readEnum, enumValues_append (h.enum (by simp [hnamed])) tail]

theorem Findings.readLines_append_of_ended (f : Findings) {above ls : List Text}
    (h : ∀ site ∈ sitesFrom above ls, site.Ended) (tail : List Text) :
    f.readLines above (ls ++ tail) = (f.readLines above ls).readLines (ls.reverse ++ above) tail := by
  induction ls generalizing f above with
  | nil => rfl
  | cons line ls ih =>
    obtain ⟨hline, hls⟩ := List.forall_mem_cons.mp h
    have hread : f.readLine ⟨above, line, ls ++ tail⟩ = f.readLine ⟨above, line, ls⟩ := by
      rw [readLine_eq_addOption, readLine_eq_addOption, finding?_append_below hline]
      rfl
    rw [List.cons_append, readLines, hread, ih _ hls, readLines, List.reverse_cons,
      List.append_assoc, List.singleton_append]

/-! ### The second file -/

theorem finding?_append_above (above outer below : List Text) (line : Text) :
    Site.finding? ⟨above ++ [] :: outer, line, below⟩ = Site.finding? ⟨above, line, below⟩ := by
  have hcomment (style : CommentForm) := commentAbove_append_of_clear style above
    (clear_cons (show isBodyComment [] = false by rfl) outer)
  unfold Site.finding?
  congr 1
  funext ⟨keyword, rest⟩
  cases keyword <;>
    simp only [findingOf, readService, readCall, readMessage, readEnum, hcomment]

def Diagnostic.lower (offset : Nat) (d : Diagnostic) : Diagnostic :=
  { d with line := d.line + offset }

/-- The findings `whole` are those of `front` and behind them those of `back`, whose lines stand
lower by `offset`. -/
structure Joined (offset : Nat) (front back whole : Findings) : Prop where
  services : whole.schema.services = front.schema.services ++ back.schema.services
  messages : whole.schema.messages.entries =
    front.schema.messages.entries ++ back.schema.messages.entries
  enums : whole.schema.enums.entries = front.schema.enums.entries ++ back.schema.enums.entries
  diagnostics : whole.diagnostics = front.diagnostics ++ back.diagnostics.map (.lower offset)

/-- The finding does not touch what `front` holds when it is added behind `back`. -/
def Finding.Fits (front back : Findings) : Finding → Prop
  | .call _ => back.schema.services ≠ []
  | .message m => m.name ∉ front.schema.messages.keys
  | .enum e => e.name ∉ front.schema.enums.keys
  | .service _ | .fault _ => True

namespace Joined

variable {offset : Nat} {front back whole : Findings}

theorem note (h : Joined offset front back whole) (number : Nat) (concern : Concern) :
    Joined offset front (back.note number concern) (whole.note (number + offset) concern) where
  services := h.services
  messages := h.messages
  enums := h.enums
  diagnostics := by
    simp only [Findings.note, h.diagnostics, List.map_append, List.append_assoc]
    rfl

theorem noteIf (h : Joined offset front back whole) (condition : Bool) (number : Nat)
    (concern : Concern) :
    Joined offset front (back.noteIf condition number concern)
      (whole.noteIf condition (number + offset) concern) := by
  cases condition with
  | false => exact h
  | true => exact h.note number concern

theorem add (h : Joined offset front back whole) {finding : Finding}
    (hfits : finding.Fits front back) (number : Nat) :
    Joined offset front (back.add number finding) (whole.add (number + offset) finding) := by
  cases finding with
  | service service =>
    refine ⟨?_, h.messages, h.enums, h.diagnostics⟩
    rw [Findings.add, Findings.add, h.services, List.append_assoc]
  | call call =>
    obtain hnil | ⟨earlier, latest, hback⟩ := List.eq_nil_or_concat' back.schema.services
    · exact absurd hnil hfits
    · have hwhole : whole.schema.services = (front.schema.services ++ earlier) ++ [latest] := by
        rw [h.services, hback, List.append_assoc]
      simp only [Findings.add, hback, hwhole, addCall_concat, Option.elim_some]
      exact ⟨List.append_assoc _ _ _, h.messages, h.enums, h.diagnostics⟩
  | message m =>
    have hinsert : Joined offset front (back.insertMessage m) (whole.insertMessage m) :=
      ⟨h.services, Table.entries_insert_append h.messages hfits m, h.enums, h.diagnostics⟩
    rw [Findings.add, Findings.add, Table.contains_append h.messages hfits]
    exact hinsert.noteIf _ number _
  | enum e =>
    have hinsert : Joined offset front (back.insertEnum e) (whole.insertEnum e) :=
      ⟨h.services, h.messages, Table.entries_insert_append h.enums hfits e, h.diagnostics⟩
    rw [Findings.add, Findings.add, Table.contains_append h.enums hfits]
    exact hinsert.noteIf _ number _
  | fault concern => exact h.note number concern

end Joined

/-- The line can be read behind `front`: a call has a service line above it in its own file, and the
names are new. -/
structure Site.Behind (front : Findings) (site : Site) : Prop where
  call : site.isOf .rpc = true → ∃ line ∈ site.above, keyword? line = some .service
  message : ∀ name, Kind.messages.name? site = some name → name ∉ front.schema.messages.keys
  enum : ∀ name, Kind.enums.name? site = some name → name ∉ front.schema.enums.keys

theorem Site.Behind.fits {front back : Findings} {site : Site} {finding : Finding}
    (h : site.Behind front)
    (hservices : (∃ line ∈ site.above, keyword? line = some .service) → back.schema.services ≠ [])
    (hfinding : site.finding? = some finding) : finding.Fits front back := by
  obtain ⟨⟨keyword, rest⟩, hline, rfl⟩ := Option.map_eq_some_iff.mp hfinding
  cases keyword with
  | service => trivial
  | rpc =>
    dsimp only [findingOf]
    cases signature? site.line with
    | none => trivial
    | some signature =>
      refine hservices (h.call ?_)
      rw [Site.isOf, keyword?_of_declaration? hline, beq_self_eq_true]
  | message =>
    dsimp only [findingOf]
    split
    · trivial
    · next hname => exact h.message _ (Kind.name?_of_named hline rfl hname)
  | enum =>
    dsimp only [findingOf]
    split
    · trivial
    · next hname => exact h.enum _ (Kind.name?_of_named hline rfl hname)

theorem services_readLine_ne_nil {f : Findings} {site : Site}
    (h : keyword? site.line = some .service ∨ f.schema.services ≠ []) :
    (f.readLine site).schema.services ≠ [] := by
  rw [services_readLine]
  by_cases hservice : site.isService = true
  · simp [hservice]
  · have hne : f.schema.services ≠ [] :=
      h.resolve_left fun hkeyword => hservice (by simp [Site.isService, Site.isOf, hkeyword])
    obtain hnil | ⟨earlier, latest, hconcat⟩ := List.eq_nil_or_concat' f.schema.services
    · exact absurd hnil hne
    · rw [if_neg hservice, hconcat, attach_concat]
      simp

theorem Joined.readLine {front back whole : Findings} {above outer below : List Text} {line : Text}
    (h : Joined (outer.length + 1) front back whole) (hsite : Site.Behind front ⟨above, line, below⟩)
    (hservices : (∃ l ∈ above, keyword? l = some .service) → back.schema.services ≠ []) :
    Joined (outer.length + 1) front (back.readLine ⟨above, line, below⟩)
      (whole.readLine ⟨above ++ [] :: outer, line, below⟩) := by
  have hnumber : Site.number ⟨above ++ [] :: outer, line, below⟩ =
      Site.number ⟨above, line, below⟩ + (outer.length + 1) := by
    simp only [Site.number, List.length_append, List.length_cons]
    omega
  rw [Findings.readLine_eq_addOption, Findings.readLine_eq_addOption, finding?_append_above, hnumber]
  cases hfinding : Site.finding? ⟨above, line, below⟩ with
  | none => exact h
  | some finding => exact h.add (hsite.fits hservices hfinding) _

theorem Joined.readLines {front back whole : Findings} {above outer below : List Text}
    (h : Joined (outer.length + 1) front back whole)
    (hsites : ∀ site ∈ sitesFrom above below, site.Behind front)
    (hservices : (∃ l ∈ above, keyword? l = some .service) → back.schema.services ≠ []) :
    Joined (outer.length + 1) front (back.readLines above below)
      (whole.readLines (above ++ [] :: outer) below) := by
  induction below generalizing above back whole with
  | nil => exact h
  | cons line below ih =>
    obtain ⟨hsite, hbelow⟩ := List.forall_mem_cons.mp hsites
    refine ih (h.readLine hsite hservices) hbelow ?_
    rintro ⟨l, hl, hkeyword⟩
    refine services_readLine_ne_nil ?_
    rcases List.mem_cons.mp hl with rfl | hl
    · exact Or.inl hkeyword
    · exact Or.inr (hservices ⟨l, hl, hkeyword⟩)

/-! ### Both files -/

/-- The second file can stand behind the first: bodies of the first file end there, calls of the
second have a service there, and no name is declared in both. -/
structure Separate (first second : Text) : Prop where
  ended : ∀ site ∈ sites (lines first), site.Ended
  calls : ∀ site ∈ sites (lines second), site.isOf .rpc = true →
    ∃ line ∈ site.above, keyword? line = some .service
  messages : ∀ name ∈ Kind.messages.names first, name ∉ Kind.messages.names second
  enums : ∀ name ∈ Kind.enums.names first, name ∉ Kind.enums.names second

theorem Separate.behind {first second : Text} (h : Separate first second) :
    ∀ site ∈ sites (lines second), site.Behind (findings first) := by
  intro site hsite
  refine ⟨h.calls site hsite, fun name hname hmem => ?_, fun name hname hmem => ?_⟩
  · have hkeys := (Kind.lawful_messages.lastWins first).keys
    refine h.messages name ?_ (List.mem_filterMap.mpr ⟨site, hsite, hname⟩)
    exact List.mem_eraseDups.mp (hkeys ▸ hmem)
  · have hkeys := (Kind.lawful_enums.lastWins first).keys
    refine h.enums name ?_ (List.mem_filterMap.mpr ⟨site, hsite, hname⟩)
    exact List.mem_eraseDups.mp (hkeys ▸ hmem)

/-- With an empty line between them, two such files give the findings of the first and behind them
those of the second. -/
theorem joined_findings_append {first second : Text} (h : Separate first second) :
    Joined ((lines first).length + 1) (findings first) (findings second)
      (findings (first ++ "\n\n".toList ++ second)) := by
  have hblank (f : Findings) (above below : List Text) : f.readLine ⟨above, [], below⟩ = f :=
    f.readLine_of_undeclared rfl
  have hwhole : findings (first ++ "\n\n".toList ++ second) =
      (findings first).readLines ([] ++ [] :: (lines first).reverse) (lines second) := by
    rw [findings, lines_append_blank_append, Findings.readLines_append_of_ended _ h.ended,
      Findings.readLines, hblank, List.append_nil]
    rfl
  have hstart : Joined ((lines first).reverse.length + 1) (findings first) .empty (findings first) :=
    ⟨(List.append_nil _).symm, (List.append_nil _).symm, (List.append_nil _).symm,
      (List.append_nil _).symm⟩
  rw [hwhole, ← List.length_reverse]
  exact hstart.readLines h.behind (by simp)

/-- A service with a call, a message that is declared twice, and an enumeration. -/
def accountsSource : Text :=
  join ['\n'] ["service Accounts \x7b".toList, "rpc Open (Account) returns (Account);".toList,
    "\x7d".toList, "message Account \x7b".toList, "// Owner.".toList, "string owner = 1;".toList,
    "\x7d".toList, "message Account \x7b\x7d".toList, "enum State \x7b".toList,
    "OPEN = 0;".toList, "\x7d".toList]

/-- A service whose comment stands on the first line, and another message that is declared twice. -/
def paymentsSource : Text :=
  join ['\n'] ["/* Payments. */".toList, "service Payments \x7b".toList,
    "rpc Send (Payment) returns (stream Payment);".toList, "\x7d".toList, "rpc Broken".toList,
    "message Payment \x7b\x7d".toList, "message Payment \x7b".toList, "int64 amount = 1;".toList,
    "\x7d".toList]

theorem joined_accounts_payments :
    Separate accountsSource paymentsSource ∧
    Joined 12 (findings accountsSource) (findings paymentsSource)
      (findings (accountsSource ++ "\n\n".toList ++ paymentsSource)) := by
  have hseparate : Separate accountsSource paymentsSource :=
    ⟨by decide +kernel, by decide +kernel, by decide +kernel, by decide +kernel⟩
  have hlength : (lines accountsSource).length + 1 = 12 := by decide +kernel
  exact ⟨hseparate, hlength ▸ joined_findings_append hseparate⟩

end RpcReference.Source
