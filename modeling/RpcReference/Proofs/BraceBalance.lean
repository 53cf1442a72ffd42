import Mathlib.Data.List.DropRight
import RpcReference.Proofs.FieldGrammar
import RpcReference.Proofs.WellFormed
/-!
# Message bodies and the balance of braces

The scan of a message body keeps a depth and a pending comment and changes both line by line. The
same fields can be found without a scan. Count the braces that are opened and closed, where a
comment directly inside the message counts for nothing. The body ends before the first line that
makes this balance negative, and what a line is to the message is decided by the balance at which it
is met: a comment, a line with braces, a field, or nothing. The comment of a field is made of the
comments since the last line with braces and the last field.
-/

namespace RpcReference.Source

open Text

/-! ### The balance -/

/-- The balance behind a line that is met at the balance `b`. -/
def balanceAfter (b : Int) (line : Text) : Int :=
  if b = 0 ∧ isBodyComment line = true then b else b + surplus line

def balance (ls : List Text) : Int :=
  ls.foldl balanceAfter 0

/-- The number of lines before the first one that makes the balance negative. -/
def bodyLength (ls : List Text) : Nat :=
  (List.range ls.length).findIdx fun i => balance (ls.take (i + 1)) < 0

/-- What a line is to a message in whose body it stands. -/
inductive Role where
  /-- A line inside nested braces. -/
  | nested
  | remark (text : Text)
  /-- A line directly inside the message that opens or closes braces. -/
  | brace
  | field (head : FieldHead)
  | other
  deriving DecidableEq, Repr

/-- The role of a line that is met at the balance `b`. -/
def role (b : Int) (line : Text) : Role :=
  if b ≠ 0 then .nested
  else if isBodyComment line then .remark (commentText line)
  else if '{' ∈ line ∨ '}' ∈ line then .brace
  else (fieldLine? line).elim .other .field

def roleAt (ls : List Text) (i : Nat) : Option Role :=
  (ls[i]?).map (role (balance (ls.take i)))

namespace Role

def remark? : Role → Option Text
  | .remark text => some text
  | _ => none

/-- The line puts an end to the comments above it. -/
def ends : Role → Bool
  | .brace | .field _ => true
  | _ => false

def field? (comment : Text) : Role → Option Field
  | .field head => some (head.withComment comment)
  | _ => none

def pending (comment : Text) : Role → Text
  | .remark text => addFragment comment text
  | .brace | .field _ => []
  | .nested | .other => comment

end Role

/-- The comments that are meant for a field with the index `i`: those behind the last line that puts
an end to comments. -/
def remarksBefore (ls : List Text) (i : Nat) : List Nat :=
  ((List.range i).rtakeWhile fun k => !(roleAt ls k).any Role.ends).filter fun j =>
    ((roleAt ls j).bind Role.remark?).isSome

/-- What these comments say. -/
def commentBefore (ls : List Text) (i : Nat) : Text :=
  joinFragments (((remarksBefore ls i).filterMap fun j => (roleAt ls j).bind Role.remark?).filter
    (! ·.isEmpty))

/-- The field on the line with the index. -/
def fieldAt? (ls : List Text) (i : Nat) : Option Field :=
  (roleAt ls i).bind (Role.field? (commentBefore ls i))

/-! ### One line -/

/-- What reading a line does to the scan is decided by the role of the line and by the balance. -/
theorem readLine_eq_role (depth : Nat) (comment line : Text) :
    BodyState.readLine ⟨depth, comment⟩ line =
      if balanceAfter depth line < 0 then .close
      else .next ((role depth line).field? comment)
        ⟨(balanceAfter depth line).toNat, (role depth line).pending comment⟩ := by
  by_cases hdepth : depth = 0
  · subst hdepth
    cases hcomment : isBodyComment line with
    | true =>
      rw [readLine_remark_line hcomment]
      simp [balanceAfter, role, hcomment, Role.field?, Role.pending]
    | false =>
      have hbalance : balanceAfter (0 : Nat) line = surplus line := by
        simp [balanceAfter, hcomment]
      rw [hbalance]
      by_cases hbrace : '{' ∈ line ∨ '}' ∈ line
      · rw [readLine_brace hcomment hbrace]
        simp [role, hcomment, hbrace, Role.field?, Role.pending]
      · rw [not_or] at hbrace
        rw [readLine_eq_fieldLine? hbrace.1 hbrace.2 hcomment, surplus_eq_zero hbrace.1 hbrace.2]
        cases hfield : fieldLine? line <;>
          simp [role, hcomment, hbrace, hfield, Role.field?, Role.pending]
  · have hbalance : balanceAfter depth line = depth + surplus line := by
      simp [balanceAfter, hdepth]
    rw [readLine_nested (Nat.pos_of_ne_zero hdepth), hbalance]
    simp [role, hdepth, Role.field?, Role.pending]

/-! ### All lines -/

theorem balance_take_succ {ls : List Text} {i : Nat} (hi : i < ls.length) :
    balance (ls.take (i + 1)) = balanceAfter (balance (ls.take i)) ls[i] := by
  rw [List.take_succ_eq_append_getElem hi, balance, List.foldl_append]
  rfl

theorem bodyLength_le_length (ls : List Text) : bodyLength ls ≤ ls.length := by
  calc bodyLength ls ≤ (List.range ls.length).length := List.findIdx_le_length
    _ = ls.length := List.length_range

theorem balance_take_nonneg {ls : List Text} {i : Nat} (hi : i ≤ bodyLength ls) :
    0 ≤ balance (ls.take i) := by
  cases i with
  | zero => exact Int.le_refl 0
  | succ i => simpa using List.not_of_lt_findIdx (show i < bodyLength ls from hi)

theorem balance_take_bodyLength_succ {ls : List Text} (h : bodyLength ls < ls.length) :
    balance (ls.take (bodyLength ls + 1)) < 0 := by
  have hrange : bodyLength ls < (List.range ls.length).length := by rwa [List.length_range]
  simpa using ((@List.findIdx_eq _ (fun i => balance (ls.take (i + 1)) < 0) _ _ hrange).mp rfl).1

theorem joinFragments_concat {fragments : List Text} (h : ∀ f ∈ fragments, f ≠ []) {f : Text}
    (hf : f ≠ []) : joinFragments (fragments ++ [f]) = addFragment (joinFragments fragments) f := by
  have hconcat : ∀ g ∈ fragments ++ [f], g ≠ [] := by
    simpa [or_imp, forall_and] using ⟨h, hf⟩
  rw [joinFragments_eq_foldl hconcat, List.foldl_append, ← joinFragments_eq_foldl h]
  rfl

/-- A line that puts an end to comments leaves none for the next field, a comment is one more, and
any other line changes nothing. -/
theorem remarksBefore_succ (ls : List Text) (i : Nat) :
    remarksBefore ls (i + 1) =
      if (roleAt ls i).any Role.ends then []
      else remarksBefore ls i ++ if ((roleAt ls i).bind Role.remark?).isSome then [i] else [] := by
  rw [remarksBefore, List.range_succ, List.rtakeWhile_concat]
  split <;> rename_i hends
  · rw [if_neg (by simpa using hends), List.filter_append, List.filter_singleton, Bool.cond_eq_ite]
    rfl
  · rw [if_pos (by simpa using hends), List.filter_nil]

theorem commentBefore_succ {ls : List Text} {i : Nat} {r : Role} (hr : roleAt ls i = some r) :
    commentBefore ls (i + 1) = r.pending (commentBefore ls i) := by
  rw [commentBefore, remarksBefore_succ, hr]
  cases r with
  | nested => simp [Role.ends, Role.remark?, Role.pending, commentBefore]
  | remark text =>
    have hfragments : ∀ f ∈ ((remarksBefore ls i).filterMap fun j =>
        (roleAt ls j).bind Role.remark?).filter (! ·.isEmpty), f ≠ [] := fun f hf => by
      simpa using List.of_mem_filter hf
    by_cases htext : text = []
    · simp [Role.ends, Role.remark?, Role.pending, commentBefore, hr, htext, addFragment]
    · simp [Role.ends, Role.remark?, Role.pending, commentBefore, hr, htext,
        joinFragments_concat hfragments]
  | brace => simp [Role.ends, Role.pending, joinFragments, join]
  | field head => simp [Role.ends, Role.pending, joinFragments, join]
  | other => simp [Role.ends, Role.remark?, Role.pending, commentBefore]

theorem roleAt_of_lt {ls : List Text} {i : Nat} (hi : i < ls.length) :
    roleAt ls i = some (role (balance (ls.take i)) ls[i]) := by
  rw [roleAt, List.getElem?_eq_getElem hi, Option.map_some]

/-- The state of the scan before the line with the index: the balance is its depth, and the comments
for the next field are pending. -/
def stateAt (ls : List Text) (i : Nat) : BodyState :=
  ⟨(balance (ls.take i)).toNat, commentBefore ls i⟩

theorem readLine_stateAt {ls : List Text} {i : Nat} (hi : i ≤ bodyLength ls)
    (hlength : i < ls.length) :
    (stateAt ls i).readLine ls[i] =
      if balance (ls.take (i + 1)) < 0 then .close
      else .next (fieldAt? ls i) (stateAt ls (i + 1)) := by
  have hdepth : ((balance (ls.take i)).toNat : Int) = balance (ls.take i) :=
    Int.toNat_of_nonneg (balance_take_nonneg hi)
  have hrole := roleAt_of_lt hlength
  rw [stateAt, readLine_eq_role, hdepth, ← balance_take_succ hlength, stateAt,
    commentBefore_succ hrole, fieldAt?, hrole, Option.bind_some]

/-- Up to the end of the body the scan is in the state that the balance gives, and it has found the
fields so far. -/
theorem after_take_and_fields_take {ls : List Text} {i : Nat} (hi : i ≤ bodyLength ls) :
    BodyState.start.after (ls.take i) = some (stateAt ls i) ∧
      BodyState.start.fields (ls.take i) = (List.range i).filterMap (fieldAt? ls) := by
  induction i with
  | zero => exact ⟨rfl, rfl⟩
  | succ i ih =>
    have hlength : i < ls.length := Nat.lt_of_lt_of_le hi (bodyLength_le_length ls)
    obtain ⟨hafter, hfields⟩ := ih (Nat.le_of_succ_le hi)
    have hline := readLine_stateAt (Nat.le_of_succ_le hi) hlength
    rw [if_neg (Int.not_lt.mpr (balance_take_nonneg hi))] at hline
    rw [List.take_succ_eq_append_getElem hlength, BodyState.after_append, BodyState.fields_append,
      hafter, hfields, List.range_succ, List.filterMap_append]
    simp only [Option.bind_some, Option.elim_some, BodyState.after, BodyState.fields, hline]
    cases hfield : fieldAt? ls i <;> simp [hfield]

theorem after_take_bodyLength_succ {ls : List Text} (h : bodyLength ls < ls.length) :
    BodyState.start.after (ls.take (bodyLength ls + 1)) = none := by
  obtain ⟨hafter, -⟩ := after_take_and_fields_take (Nat.le_refl (bodyLength ls))
  have hline := readLine_stateAt (Nat.le_refl _) h
  rw [if_pos (balance_take_bodyLength_succ h)] at hline
  rw [List.take_succ_eq_append_getElem h, BodyState.after_append, hafter]
  simp only [Option.bind_some, BodyState.after, hline]

/-- The line that makes the balance negative declares no field. -/
theorem fields_take_bodyLength_succ {ls : List Text} (h : bodyLength ls < ls.length) :
    BodyState.start.fields (ls.take (bodyLength ls + 1)) =
      (List.range (bodyLength ls)).filterMap (fieldAt? ls) := by
  obtain ⟨hafter, hfields⟩ := after_take_and_fields_take (Nat.le_refl (bodyLength ls))
  have hline := readLine_stateAt (Nat.le_refl _) h
  rw [if_pos (balance_take_bodyLength_succ h)] at hline
  rw [List.take_succ_eq_append_getElem h, BodyState.fields_append, hafter, hfields]
  simp only [Option.elim_some, BodyState.fields, hline, List.append_nil]

/-! ### Bodies -/

theorem after_take_eq_none_iff {ls : List Text} {i : Nat} (hi : i ≤ ls.length) :
    BodyState.start.after (ls.take i) = none ↔ bodyLength ls < i := by
  constructor
  · intro hnone
    by_contra hle
    rw [(after_take_and_fields_take (Nat.not_lt.mp hle)).1] at hnone
    cases hnone
  · intro hlt
    have hfront : (ls.take i).take (bodyLength ls + 1) = ls.take (bodyLength ls + 1) := by
      rw [List.take_take, Nat.min_eq_left hlt]
    rw [← List.take_append_drop (bodyLength ls + 1) (ls.take i), hfront, BodyState.after_append,
      after_take_bodyLength_succ (Nat.lt_of_lt_of_le hlt hi), Option.bind_none]

theorem bodyFields_take_append {ls : List Text} (h : bodyLength ls < ls.length) (tail : List Text) :
    bodyFields (ls.take (bodyLength ls + 1) ++ tail) =
      (List.range (bodyLength ls)).filterMap (fieldAt? ls) := by
  rw [bodyFields, BodyState.fields_append_of_after_eq_none (after_take_bodyLength_succ h),
    fields_take_bodyLength_succ h]

theorem bodyFields_eq_filterMap (ls : List Text) :
    bodyFields ls = (List.range (bodyLength ls)).filterMap (fieldAt? ls) := by
  rcases Nat.lt_or_eq_of_le (bodyLength_le_length ls) with hlt | heq
  · rw [← bodyFields_take_append hlt (ls.drop (bodyLength ls + 1)), List.take_append_drop]
  · have hfields := (after_take_and_fields_take (Nat.le_refl (bodyLength ls))).2
    rwa [heq, List.take_length, ← heq] at hfields

/-- No line between a comment and the field that it is meant for puts an end to comments. -/
theorem of_mem_remarksBefore {ls : List Text} {i j : Nat} (h : j ∈ remarksBefore ls i) :
    j < i ∧ ((roleAt ls j).bind Role.remark?).isSome = true ∧
      ∀ k, j ≤ k → k < i → (roleAt ls k).any Role.ends = false := by
  induction i with
  | zero => cases h
  | succ i ih =>
    rw [remarksBefore_succ] at h
    split at h
    · cases h
    · next hends =>
      rw [Bool.not_eq_true] at hends
      rcases List.mem_append.mp h with hbefore | hlast
      · obtain ⟨hlt, hremark, hbetween⟩ := ih hbefore
        refine ⟨Nat.lt_succ_of_lt hlt, hremark, fun k hjk hki => ?_⟩
        rcases Nat.lt_succ_iff_lt_or_eq.mp hki with hki | rfl
        · exact hbetween k hjk hki
        · exact hends
      · split at hlast
        · next hremark =>
          obtain rfl := List.mem_singleton.mp hlast
          refine ⟨Nat.lt_succ_self j, hremark, fun k hjk hki => ?_⟩
          rwa [Nat.le_antisymm (Nat.lt_succ_iff.mp hki) hjk]
        · cases hlast

theorem balance_take_of_remark {ls : List Text} {j : Nat}
    (h : ((roleAt ls j).bind Role.remark?).isSome = true) : balance (ls.take j) = 0 := by
  by_contra hne
  rw [roleAt] at h
  cases hline : ls[j]? with
  | none => simp [hline] at h
  | some line => simp [hline, role, hne, Role.remark?] at h

theorem ends_roleAt_of_fieldAt? {ls : List Text} {i : Nat} (h : (fieldAt? ls i).isSome = true) :
    (roleAt ls i).any Role.ends = true := by
  rw [fieldAt?] at h
  cases hrole : roleAt ls i with
  | none => simp [hrole] at h
  | some r =>
    rw [hrole] at h
    cases r <;> simp_all [Role.field?, Role.ends]

theorem not_lt_of_mem_remarksBefore {ls : List Text} {i i' j : Nat}
    (hfield : (fieldAt? ls i).isSome = true) (hj : j ∈ remarksBefore ls i)
    (hj' : j ∈ remarksBefore ls i') : ¬ i < i' := by
  intro hlt
  obtain ⟨hji, -, -⟩ := of_mem_remarksBefore hj
  obtain ⟨-, -, hbetween⟩ := of_mem_remarksBefore hj'
  have hends := hbetween i (Nat.le_of_lt hji) hlt
  rw [ends_roleAt_of_fieldAt? hfield] at hends
  cases hends

/-- What the scan of a body comes to, said with the balance of braces. -/
structure FollowsBalance (ls : List Text) : Prop where
  /-- The scan ends with the first line that makes the balance negative. -/
  stops : ∀ i ≤ ls.length, BodyState.start.after (ls.take i) = none ↔ bodyLength ls < i
  depth : ∀ i ≤ ls.length, ∀ s, BodyState.start.after (ls.take i) = some s →
    (s.depth : Int) = balance (ls.take i) ∧ (0 < s.depth ↔ 1 ≤ balance (ls.take i))
  fields : bodyFields ls = (List.range (bodyLength ls)).filterMap (fieldAt? ls)
  /-- What stands below the body has no influence. -/
  bounded : bodyLength ls < ls.length → ∀ tail,
    bodyFields (ls.take (bodyLength ls + 1) ++ tail) = bodyFields ls
  /-- No comment inside nested braces is used. -/
  direct : ∀ i, ∀ j ∈ remarksBefore ls i, j < i ∧ balance (ls.take j) = 0
  /-- No comment is used for two fields. -/
  once : ∀ i i' j, (fieldAt? ls i).isSome = true → (fieldAt? ls i').isSome = true →
    j ∈ remarksBefore ls i → j ∈ remarksBefore ls i' → i = i'

theorem followsBalance (ls : List Text) : FollowsBalance ls where
  stops i hi := after_take_eq_none_iff hi
  depth i hi s hs := by
    have hle : i ≤ bodyLength ls := by
      by_contra hlt
      rw [(after_take_eq_none_iff hi).mpr (Nat.not_le.mp hlt)] at hs
      cases hs
    rw [(after_take_and_fields_take hle).1, Option.some.injEq] at hs
    have hdepth : (s.depth : Int) = balance (ls.take i) := by
      rw [← hs]
      exact Int.toNat_of_nonneg (balance_take_nonneg hle)
    exact ⟨hdepth, by omega⟩
  fields := bodyFields_eq_filterMap ls
  bounded hlt tail := by rw [bodyFields_take_append hlt, bodyFields_eq_filterMap]
  direct i j hj := by
    obtain ⟨hlt, hremark, -⟩ := of_mem_remarksBefore hj
    exact ⟨hlt, balance_take_of_remark hremark⟩
  once i i' j hi hi' hj hj' :=
    Nat.le_antisymm (Nat.not_lt.mp (not_lt_of_mem_remarksBefore hi' hj' hj))
      (Nat.not_lt.mp (not_lt_of_mem_remarksBefore hi hj hj'))

end RpcReference.Source
