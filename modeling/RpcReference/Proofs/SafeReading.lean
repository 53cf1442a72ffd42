import RpcReference.Proofs.Finding
import RpcReference.Proofs.LineOffsets
import RpcReference.Proofs.Steps
/-!
# Reading never goes wrong

A file can be read with nothing but offsets into its lines, indices into its lists and differences
of counts, each of which could be refused. The pass then remembers the latest service by its index.
This module follows such a pass line by line. The index is right at every point of it, braces are
taken away only where there are as many, and so the pass gives what the file declares, whatever text
the file holds.
-/

namespace RpcReference.Source

open Text

/-! ### Bodies -/

def BodyState.readLineByOffset (s : BodyState) (line : Text) : Except Violation BodyEffect := do
  let opens := line.count '{'
  let closes := line.count '}'
  if 0 < s.depth then
    if s.depth + opens < closes then return .close
    else return .next none { s with depth := ← difference (s.depth + opens) closes }
  else if isBodyComment line then
    return .next none { s with pending := addFragment s.pending (commentText line) }
  else if closes < opens then return .next none ⟨← difference opens closes, []⟩
  else if opens < closes then return .close
  else if 0 < opens then return .next none { s with pending := [] }
  else
    match ← fieldLineByOffset? line with
    | some head => return .next (some (head.withComment s.pending)) { s with pending := [] }
    | none => return .next none s

def BodyState.fieldsByOffset (s : BodyState) : List Text → Except Violation (List Field)
  | [] => return []
  | line :: lines => do
    match ← s.readLineByOffset line with
    | .close => return []
    | .next field s => return field.toList ++ (← s.fieldsByOffset lines)

theorem BodyState.readLineByOffset_eq_ok (s : BodyState) (line : Text) :
    s.readLineByOffset line = .ok (s.readLine line) := by
  unfold readLineByOffset readLine
  dsimp only
  split
  · split
    · rfl
    · next hdepth hcloses =>
      rw [difference_of_le (Nat.not_lt.mp hcloses)]
      rfl
  · next hdepth =>
    split
    · rfl
    · split
      · next hopens =>
        rw [difference_of_le (Nat.le_of_lt hopens), if_neg (by omega), if_pos (by omega)]
        rfl
      · split
        · rfl
        · next hcloses =>
          split
          · next hpos =>
            have hstate : (⟨line.count '{' - line.count '}', []⟩ : BodyState) =
                { s with pending := [] } := by
              congr 1
              omega
            rw [hstate]
            rfl
          · rw [fieldLineByOffset?_eq_ok, ok_bind]
            cases fieldLine? line <;> rfl

theorem BodyState.fieldsByOffset_eq_ok (s : BodyState) (ls : List Text) :
    s.fieldsByOffset ls = .ok (s.fields ls) := by
  induction ls generalizing s with
  | nil => rfl
  | cons line ls ih =>
    rw [fieldsByOffset, readLineByOffset_eq_ok, ok_bind, fields]
    cases s.readLine line with
    | close => rfl
    | next field s =>
      dsimp only
      rw [ih]
      rfl

/-! ### Declarations -/

def messageByOffset (site : Site) (name : Text) : Except Violation Message :=
  if site.line.contains '}' then .ok ⟨name, []⟩
  else do return ⟨name, ← BodyState.start.fieldsByOffset site.below⟩

def enumValuesByOffset (line : Text) (below : List Text) : Except Violation (List Text) := do
  match ← bodyByOffset? line with
  | some body => return (split ';' body).filterMap statementValue?
  | none => return (below.takeWhile fun l => !l.contains '}').filterMap statementValue?

def enumByOffset (site : Site) (name : Text) : Except Violation Enumeration := do
  let values ← enumValuesByOffset site.line site.below
  return ⟨name, joinFragments (commentAbove .line site.above), values⟩

def findingByOffset (site : Site) (rest : Text) : Keyword → Except Violation Finding
  | .service => return .service (readService site rest)
  | .rpc => do
    match ← signatureByOffset? site.line with
    | none => return .fault (.malformedCall (trimEnd site.line))
    | some signature => return .call (readCall site signature)
  | .message =>
    if messageName rest = [] then return .fault .namelessMessage
    else do return .message (← messageByOffset site (messageName rest))
  | .enum =>
    if nameBeforeBrace rest = [] then return .fault .namelessEnum
    else do return .enum (← enumByOffset site (nameBeforeBrace rest))

theorem messageByOffset_eq_ok (site : Site) (name : Text) :
    messageByOffset site name = .ok (readMessage site name) := by
  rw [messageByOffset, readMessage, BodyState.fieldsByOffset_eq_ok]
  cases site.line.contains '}' <;> rfl

theorem enumByOffset_eq_ok (site : Site) (name : Text) :
    enumByOffset site name = .ok (readEnum site name) := by
  rw [enumByOffset, enumValuesByOffset, bodyByOffset?_eq_ok, ok_bind, readEnum, enumValues]
  cases bodyOnLine? site.line <;> rfl

theorem findingByOffset_eq_ok (site : Site) (rest : Text) (keyword : Keyword) :
    findingByOffset site rest keyword = .ok (findingOf site keyword rest) := by
  cases keyword with
  | service => rfl
  | rpc =>
    rw [findingByOffset, signatureByOffset?_eq_ok, ok_bind, findingOf]
    cases signature? site.line <;> rfl
  | message =>
    rw [findingByOffset, messageByOffset_eq_ok, findingOf]
    split <;> rfl
  | enum =>
    rw [findingByOffset, enumByOffset_eq_ok, findingOf]
    split <;> rfl

/-! ### The pass -/

/-- A pass over a file. -/
structure Pass where
  findings : Findings
  /-- The index of the service that takes the next call. -/
  owner : Option Nat

namespace Pass

/-- Adds what the line with the number gives. -/
def add (p : Pass) (number : Nat) : Finding → Except Violation Pass
  | .service service => do
    let findings := p.findings.add number (.service service)
    return ⟨findings, some (← difference findings.schema.services.length 1)⟩
  | .call call =>
    match p.owner with
    | none => return { p with findings := p.findings.note number (.orphanCall call.name) }
    | some owner => do
      let schema := p.findings.schema
      let service ← elementAt schema.services owner
      let services := schema.services.set owner { service with calls := service.calls ++ [call] }
      return { p with findings := { p.findings with schema := { schema with services } } }
  | finding => return { p with findings := p.findings.add number finding }

/-- The line at an index in its place. -/
def siteAt? (ls : List Text) (index : Nat) : Except Violation (Option Site) := do
  let some line := ls[index]? | return none
  let above ← elementsBetween ls 0 (min index ls.length)
  let below ← elementsBetween ls (min (index + 1) ls.length) ls.length
  return some ⟨above.reverse, line, below⟩

def readAt (ls : List Text) (p : Pass) (index : Nat) : Except Violation Pass := do
  let some site ← siteAt? ls index | return p
  let some (keyword, rest) := declaration? site.line | return p
  p.add site.number (← findingByOffset site rest keyword)

def run (ls : List Text) : Except Violation Pass :=
  (List.range ls.length).foldlM (readAt ls) ⟨.empty, none⟩

/-- The index of the last element. -/
def lastIndex? {α : Type} (xs : List α) : Option Nat :=
  if xs.isEmpty then none else some (xs.length - 1)

theorem lastIndex?_concat {α : Type} (xs : List α) (x : α) :
    lastIndex? (xs ++ [x]) = some xs.length := by
  simp [lastIndex?]

/-- The pass that has found `f`: its next call goes to the last service. Every pass is of this form,
which is what keeps the index of the owner inside the list. -/
def after (f : Findings) : Pass :=
  ⟨f, lastIndex? f.schema.services⟩

theorem after_eq {f g : Findings} (h : g.schema.services = f.schema.services) :
    { after f with findings := g } = after g := by
  rw [after, after, h]

theorem services_noteIf (f : Findings) (condition : Bool) (number : Nat) (concern : Concern) :
    (f.noteIf condition number concern).schema.services = f.schema.services := by
  cases condition <;> rfl

theorem add_call_after (f : Findings) (number : Nat) (call : Call) :
    (after f).add number (.call call) = .ok (after (f.add number (.call call))) := by
  rcases List.eq_nil_or_concat' f.schema.services with hservices | ⟨earlier, latest, hservices⟩
  · have howner : (after f).owner = none := by
      rw [after, hservices]
      rfl
    have hadd : f.add number (.call call) = f.note number (.orphanCall call.name) := by
      rw [Findings.add, hservices]
      rfl
    rw [hadd, ← @after_eq f (f.note number _) rfl]
    simp only [add, howner]
    rfl
  · have howner : (after f).owner = some earlier.length := by
      rw [after, hservices, lastIndex?_concat]
    have hlatest : elementAt (after f).findings.schema.services earlier.length = .ok latest :=
      elementAt_of_getElem? (by simp [after, hservices])
    simp only [add, howner, hlatest, ok_bind, Findings.add, hservices, addCall_concat,
      Option.elim_some]
    simp [after, hservices, lastIndex?_concat, pure, Except.pure]

theorem add_after (f : Findings) (number : Nat) (finding : Finding) :
    (after f).add number finding = .ok (after (f.add number finding)) := by
  cases finding with
  | service service =>
    rw [add, difference_of_le (by simp [Findings.add])]
    simp [after, Findings.add, lastIndex?]
  | call call => exact add_call_after f number call
  | message m => exact congrArg _ (after_eq (services_noteIf _ _ _ _))
  | enum e => exact congrArg _ (after_eq (services_noteIf _ _ _ _))
  | fault concern => rfl

theorem siteAt?_append (above : List Text) (line : Text) (below : List Text) :
    siteAt? (above.reverse ++ line :: below) above.length = .ok (some ⟨above, line, below⟩) := by
  generalize hls : above.reverse ++ line :: below = ls
  have hlength : ls.length = above.length + (below.length + 1) := by simp [← hls]
  have hline : ls[above.length]? = some line := by simp [← hls]
  have habove : elementsBetween ls 0 (min above.length ls.length) = .ok above.reverse := by
    rw [elementsBetween_of_le (Nat.zero_le _) (Nat.min_le_right ..), Nat.min_eq_left (by omega)]
    simp [← hls]
  have hbelow : elementsBetween ls (min (above.length + 1) ls.length) ls.length = .ok below := by
    rw [elementsBetween_of_le (Nat.min_le_right ..) (Nat.le_refl _), Nat.min_eq_left (by omega),
      List.take_length, ← hls, ← List.singleton_append, ← List.append_assoc]
    rw [List.drop_left' (by simp)]
  rw [siteAt?, hline]
  dsimp only
  rw [habove, hbelow, ok_bind, ok_bind, List.reverse_reverse]
  rfl

theorem readAt_append (f : Findings) (above : List Text) (line : Text) (below : List Text) :
    readAt (above.reverse ++ line :: below) (after f) above.length =
      .ok (after (f.readLine ⟨above, line, below⟩)) := by
  rw [readAt, siteAt?_append, ok_bind, Findings.readLine_eq_addOption, Site.finding?]
  dsimp only
  cases declaration? line with
  | none => rfl
  | some found =>
    obtain ⟨keyword, rest⟩ := found
    dsimp only
    rw [findingByOffset_eq_ok]
    exact add_after f _ _

theorem foldlM_readAt (f : Findings) (above below : List Text) :
    (List.range' above.length below.length).foldlM (readAt (above.reverse ++ below)) (after f) =
      .ok (after (f.readLines above below)) := by
  -- The lines already read stand in reverse, and their number is the index of the next line.
  induction below generalizing f above with
  | nil => rfl
  | cons line below ih =>
    rw [List.length_cons, List.range'_succ, List.foldlM_cons, readAt_append, ok_bind]
    have hrest := ih (f.readLine ⟨above, line, below⟩) (line :: above)
    rwa [List.reverse_cons, List.append_assoc, List.singleton_append] at hrest

theorem run_eq_ok (ls : List Text) :
    run ls = .ok (after (Findings.empty.readLines [] ls)) := by
  rw [run, List.range_eq_range']
  exact foldlM_readAt .empty [] ls

end Pass

/-- What a file declares, read by offsets and indices. -/
def findingsByOffset (source : Text) : Except Violation Findings := do
  return (← Pass.run (lines source)).findings

/-- Whatever the file holds, no operation of the pass is refused. -/
theorem findingsByOffset_eq_ok (source : Text) :
    findingsByOffset source = .ok (findings source) := by
  rw [findingsByOffset, Pass.run_eq_ok]
  rfl

end RpcReference.Source
