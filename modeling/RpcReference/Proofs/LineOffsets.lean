import RpcReference.Proofs.LineForms
import RpcReference.Proofs.Offsets
/-!
# Reading a line by offsets

The readers of a line look for single characters, compare the offsets at which they stand and take
the parts between them. Written that way, a reader must see to it that every part exists: the
comparisons have to exclude each bad order of the characters, whatever else the line holds. They do:
read by offsets, every line gives what the cuts give, and no operation is ever refused. A reader
here has the name of the one that it agrees with.
-/

namespace RpcReference.Source

open Text

/-! ### Calls -/

def groupsByOffset? (line : Text) : Except Violation (Option (Text × Text × Text)) := do
  let some rest := stripStart? Keyword.rpc.text line | return none
  let some firstOpen := offsetOf? '(' rest | return none
  let some firstClose := offsetOf? ')' rest | return none
  let some lastOpen := lastOffsetOf? '(' rest | return none
  let some lastClose := lastOffsetOf? ')' rest | return none
  if firstClose < firstOpen ∨ lastOpen < firstClose ∨ lastClose < lastOpen then return none
  let name ← slice rest 0 firstOpen
  let request ← slice rest (firstOpen + 1) firstClose
  let response ← slice rest (lastOpen + 1) lastClose
  return some (name, request, response)

/-- A readable call line has its parentheses in order, and every part lies between two of them. -/
theorem groupsByOffset?_callText {name request between response tail : Text}
    (hname : name.any isParenthesis = false) (hrequest : ')' ∉ request) (hresponse : '(' ∉ response)
    (htail : tail.any isParenthesis = false) :
    groupsByOffset? (callText name request between response tail) =
      .ok (some (name, request, response)) := by
  obtain ⟨hnameOpen, hnameClose⟩ := any_isParenthesis_eq_false_iff.mp hname
  obtain ⟨htailOpen, htailClose⟩ := any_isParenthesis_eq_false_iff.mp htail
  have hfirstOpen := offsetOf?_append_cons hnameOpen
    (request ++ ')' :: (between ++ '(' :: response ++ ')' :: tail))
  have hfirstClose := @offsetOf?_append_cons ')' (name ++ '(' :: request)
    (by simp [hrequest, hnameClose]) (between ++ '(' :: response ++ ')' :: tail)
  have hlastOpen := @lastOffsetOf?_append_cons '(' (name ++ '(' :: (request ++ ')' :: between))
    (response ++ ')' :: tail) (by simp [hresponse, htailOpen])
  have hlastClose := lastOffsetOf?_append_cons
    (name ++ '(' :: (request ++ ')' :: (between ++ '(' :: response))) htailClose
  have hrequestSlice := slice_append_cons (show '('.utf8Size = 1 by decide) name request
    (')' :: (between ++ '(' :: response ++ ')' :: tail))
  have hresponseSlice := slice_append_cons (show '('.utf8Size = 1 by decide)
    (name ++ '(' :: (request ++ ')' :: between)) response (')' :: tail)
  simp only [List.append_assoc, List.cons_append]
    at hfirstOpen hfirstClose hlastOpen hlastClose hrequestSlice hresponseSlice
  rw [groupsByOffset?, callText, stripStart?_append]
  simp only [List.append_assoc, List.cons_append, hfirstOpen, hfirstClose, hlastOpen, hlastClose,
    hrequestSlice, hresponseSlice, slice_append, ok_bind]
  rw [if_neg]
  · rfl
  · simp only [byteLength_append, byteLength_cons]
    omega

/-- A line whose parentheses are in order is readable. -/
theorem groups?_ne_none {rest : Text} {firstOpen firstClose lastOpen lastClose : Nat}
    (hfirstOpen : offsetOf? '(' rest = some firstOpen) (hfirstClose : offsetOf? ')' rest = some firstClose)
    (hlastOpen : lastOffsetOf? '(' rest = some lastOpen)
    (hlastClose : lastOffsetOf? ')' rest = some lastClose) (hfirst : firstOpen ≤ firstClose)
    (hmiddle : firstClose ≤ lastOpen) (hlast : lastOpen ≤ lastClose) :
    groups? (Keyword.rpc.text ++ rest) ≠ none := by
  obtain ⟨name, behindName, hrest, hname, rfl⟩ := exists_of_offsetOf? hfirstOpen
  obtain ⟨_, behindRequest, hrest₁, hrequest, rfl⟩ := exists_of_offsetOf? hfirstClose
  obtain ⟨_, behindBetween, hrest₂, hresponse, rfl⟩ := exists_of_lastOffsetOf? hlastOpen
  obtain ⟨_, tail, hrest₃, htail, rfl⟩ := exists_of_lastOffsetOf? hlastClose
  obtain ⟨request, rfl, rfl⟩ := exists_between (by decide) (hrest.symm.trans hrest₁) hfirst
  obtain ⟨between, rfl, rfl⟩ := exists_between (by decide) (hrest₁.symm.trans hrest₂) hmiddle
  obtain ⟨response, rfl, rfl⟩ := exists_between (by decide) (hrest₂.symm.trans hrest₃) hlast
  simp only [List.mem_append, List.mem_cons, not_or] at hrequest hresponse
  rw [hrest, groups?_eq_some_iff.mpr ⟨between, tail, by simp [callText],
    any_isParenthesis_eq_false_iff.mpr ⟨hname, hrequest.1⟩, hrequest.2.2, hresponse.1,
    any_isParenthesis_eq_false_iff.mpr ⟨hresponse.2.2, htail⟩⟩]
  simp

theorem groupsByOffset?_eq_ok (line : Text) : groupsByOffset? line = .ok (groups? line) := by
  cases hgroups : groups? line with
  | some parts =>
    obtain ⟨name, request, response⟩ := parts
    obtain ⟨between, tail, rfl, hname, hrequest, hresponse, htail⟩ :=
      groups?_eq_some_iff.mp hgroups
    exact groupsByOffset?_callText hname hrequest hresponse htail
  | none =>
    unfold groupsByOffset?
    cases hrest : stripStart? Keyword.rpc.text line with
    | none => rfl
    | some rest =>
      rw [stripStart?_eq_some_iff.mp hrest] at hgroups
      dsimp only
      cases hfirstOpen : offsetOf? '(' rest with
      | none => rfl
      | some firstOpen =>
        cases hfirstClose : offsetOf? ')' rest with
        | none => rfl
        | some firstClose =>
          cases hlastOpen : lastOffsetOf? '(' rest with
          | none => rfl
          | some lastOpen =>
            cases hlastClose : lastOffsetOf? ')' rest with
            | none => rfl
            | some lastClose =>
              dsimp only
              split
              · rfl
              · next horder =>
                simp only [not_or, Nat.not_lt] at horder
                exact absurd hgroups (groups?_ne_none hfirstOpen hfirstClose hlastOpen hlastClose
                  horder.1 horder.2.1 horder.2.2)

/-- The signature with the given name and groups. -/
def Signature.ofGroups? (name request response : Text) : Option Signature := do
  let (name, request, response) := (trim name, trim request, trim response)
  guard (!name.isEmpty && !request.isEmpty && !response.isEmpty)
  match stripStart? "stream ".toList response with
  | some streamed => return ⟨name, request, trim streamed, true⟩
  | none => return ⟨name, request, response, false⟩

def signatureByOffset? (line : Text) : Except Violation (Option Signature) := do
  let some (name, request, response) ← groupsByOffset? line | return none
  return Signature.ofGroups? name request response

theorem signatureByOffset?_eq_ok (line : Text) :
    signatureByOffset? line = .ok (signature? line) := by
  rw [signatureByOffset?, groupsByOffset?_eq_ok, ok_bind, signature?]
  cases groups? line <;> rfl

/-! ### Fields -/

/-- Reads a map field from its whole line. -/
def mapFieldByOffset? (line : Text) : Except Violation (Option FieldHead) := do
  let some close := offsetOf? '>' line | return none
  let some equals := offsetOf? '=' line | return none
  if equals < close then return none
  let types ← slice line 4 close
  let some (key, value) := cut? ',' types | return none
  let name := trim (← slice line (close + 1) equals)
  if name.isEmpty then return none
  return some ⟨name, trim value, false, some (trim key)⟩

/-- The beginning of a map field has none of the characters that the reader looks for. -/
theorem not_mem_mapStart : '>' ∉ "map<".toList ∧ '=' ∉ "map<".toList := by
  decide

/-- A map field is not readable unless its closing bracket stands before its equals sign. -/
theorem mapField?_eq_none {line rest : Text} (hline : "map<".toList ++ rest = line)
    (h : ∀ close equals, offsetOf? '>' line = some close → offsetOf? '=' line = some equals →
      equals < close) : mapField? rest = none := by
  cases hfield : mapField? rest with
  | none => rfl
  | some head =>
    obtain ⟨key, value, name, tail, rfl, hclose, hequals, -, hname, -, -⟩ :=
      mapField?_eq_some_iff.mp hfield
    obtain ⟨hstartClose, hstartEquals⟩ := not_mem_mapStart
    rw [← hline, mapText] at h
    clear hline
    generalize "map<".toList = start at hstartClose hstartEquals h
    generalize key ++ ',' :: value = types at hclose hequals h
    have hfirst := @offsetOf?_append_cons '>' (start ++ types) (by simp [hstartClose, hclose])
      (name ++ '=' :: tail)
    have hsecond := @offsetOf?_append_cons '=' (start ++ types ++ '>' :: name)
      (by simp [hstartEquals, hequals, hname]) tail
    simp only [List.append_assoc, List.cons_append] at hfirst hsecond
    have hlt := h _ _ hfirst hsecond
    simp only [byteLength_append, byteLength_cons] at hlt
    omega

theorem mapField?_append_cons {types name tail : Text} (hclose : '>' ∉ types)
    (hequals : '=' ∉ types) (hname : '=' ∉ name) :
    mapField? (types ++ '>' :: (name ++ '=' :: tail)) =
      match cut? ',' types with
      | some (key, value) =>
        if (trim name).isEmpty then none
        else some ⟨trim name, trim value, false, some (trim key)⟩
      | none => none := by
  rw [mapField?, cut?_eq_some_iff.mpr ⟨rfl, hclose⟩]
  dsimp only [Option.bind_eq_bind, Option.bind_some]
  rw [guard_eq_some (by simpa using hequals)]
  cases cut? ',' types with
  | none => rfl
  | some parts =>
    dsimp only [Option.bind_some]
    rw [cut?_eq_some_iff.mpr ⟨rfl, hname⟩]
    dsimp only [Option.bind_some]
    cases (trim name).isEmpty <;> rfl

theorem mapFieldByOffset?_append (rest : Text) :
    mapFieldByOffset? ("map<".toList ++ rest) = .ok (mapField? rest) := by
  unfold mapFieldByOffset?
  generalize hmap : "map<".toList ++ rest = line
  cases hclose : offsetOf? '>' line with
  | none =>
    rw [mapField?_eq_none hmap (by simp [hclose])]
    rfl
  | some close =>
    cases hequals : offsetOf? '=' line with
    | none =>
      rw [mapField?_eq_none hmap (by simp [hequals])]
      rfl
    | some equals =>
      dsimp only
      split
      · next hlt =>
        rw [mapField?_eq_none hmap (by simp [hclose, hequals, hlt])]
        rfl
      · next hle =>
        obtain ⟨before, after, hline, hbefore, rfl⟩ := exists_of_offsetOf? hclose
        obtain ⟨_, tail, hline', hname, rfl⟩ := exists_of_offsetOf? hequals
        obtain ⟨name, rfl, rfl⟩ := exists_between (by decide) (hline.symm.trans hline')
          (Nat.not_lt.mp hle)
        subst hmap
        obtain ⟨types, rfl, rfl⟩ := exists_append_of_not_mem not_mem_mapStart.1 hline
        simp only [List.mem_append, List.mem_cons, not_or] at hbefore hname
        rw [mapField?_append_cons hbefore.2 hname.1.2 hname.2.2]
        have htypesSlice := slice_append_append "map<".toList types ('>' :: (name ++ '=' :: tail))
        rw [show byteLength "map<".toList = 4 by decide] at htypesSlice
        have hnameSlice := slice_append_cons (show '>'.utf8Size = 1 by decide)
          ("map<".toList ++ types) name ('=' :: tail)
        rw [List.append_assoc] at hnameSlice
        rw [htypesSlice, ok_bind]
        cases cut? ',' types with
        | none => rfl
        | some parts =>
          dsimp only
          rw [hnameSlice, ok_bind]
          split <;> rfl

-- Without the beginning of a map field the part before the closing bracket need not exist.
example : mapFieldByOffset? ">=".toList = .error .order := by decide

def plainFieldByIndex? (ws : List Text) : Except Violation (Option FieldHead) := do
  if ws.length ≤ 3 then return none
  let repeated := (← elementAt ws 0) == "repeated".toList
  if fieldLabels.contains (← elementAt ws 0) then
    return some ⟨← elementAt ws 2, ← elementAt ws 1, repeated, none⟩
  return some ⟨← elementAt ws 1, ← elementAt ws 0, repeated, none⟩

theorem plainFieldByIndex?_eq_ok (ws : List Text) :
    plainFieldByIndex? ws = .ok (plainField? ws) := by
  unfold plainFieldByIndex?
  match ws with
  | [] | [_] | [_, _] | [_, _, _] => rfl
  | first :: second :: third :: fourth :: rest =>
    rw [if_neg (by simp), plainField?_cons]
    simp only [elementAt, List.getElem?_cons_zero, List.getElem?_cons_succ, ok_bind]
    cases hlabel : fieldLabels.contains first with
    | true => rfl
    | false =>
      have hne : (first == "repeated".toList) = false := by
        rw [beq_eq_false_iff_ne]
        rintro rfl
        cases hlabel
      rw [hne]
      rfl

def fieldLineByOffset? (line : Text) : Except Violation (Option FieldHead) :=
  if line.startsWith "map<".toList then mapFieldByOffset? line
  else if line.isEmpty || otherStatements.any line.startsWith then .ok none
  else plainFieldByIndex? (words line)

theorem fieldLineByOffset?_eq_ok (line : Text) :
    fieldLineByOffset? line = .ok (fieldLine? line) := by
  rw [fieldLineByOffset?, startsWith_eq_isSome, fieldLine?]
  cases hmap : stripStart? "map<".toList line with
  | some rest =>
    rw [stripStart?_eq_some_iff.mp hmap]
    exact mapFieldByOffset?_append rest
  | none =>
    rw [plainFieldByIndex?_eq_ok]
    cases line with
    | nil => rfl
    | cons c line =>
      rw [List.isEmpty_cons, Bool.false_or]
      cases otherStatements.any (startsWith (c :: line)) <;> rfl

/-! ### Bodies on one line -/

def bodyByOffset? (line : Text) : Except Violation (Option Text) := do
  let some opening := offsetOf? '{' line | return none
  let some closing := lastOffsetOf? '}' line | return none
  if opening < closing then return some (← slice line (opening + 1) closing)
  return none

theorem bodyByOffset?_eq_ok (line : Text) : bodyByOffset? line = .ok (bodyOnLine? line) := by
  unfold bodyByOffset?
  cases hbody : bodyOnLine? line with
  | some body =>
    obtain ⟨front, tail, rfl, hfront, htail⟩ := bodyOnLine?_eq_some_iff.mp hbody
    have hopen := offsetOf?_append_cons hfront (body ++ '}' :: tail)
    have hclose := lastOffsetOf?_append_cons (front ++ '{' :: body) htail
    rw [List.append_assoc, List.cons_append] at hclose
    simp only [hopen, hclose, byteLength_lt_append_cons, if_true]
    rw [slice_append_cons (by decide)]
    rfl
  | none =>
    cases hopen : offsetOf? '{' line with
    | none => rfl
    | some opening =>
      cases hclose : lastOffsetOf? '}' line with
      | none => rfl
      | some closing =>
        dsimp only
        split
        · next hlt =>
          obtain ⟨front, _, hline, hfront, rfl⟩ := exists_of_offsetOf? hopen
          obtain ⟨inner, tail, hline', htail, rfl⟩ := exists_of_lastOffsetOf? hclose
          obtain ⟨body, -, rfl⟩ := exists_between (by decide) (hline.symm.trans hline')
            (Nat.le_of_lt hlt)
          rw [bodyOnLine?_eq_some_iff.mpr ⟨front, tail, hline, hfront, htail⟩] at hbody
          cases hbody
        · rfl

end RpcReference.Source
