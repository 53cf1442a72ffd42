import Mathlib.Tactic.SplitIfs
import RpcReference.Source.Body
/-!
# The scan of a message body

What one line does to the scan depends on whether it is met inside nested braces, whether it is a
comment, and on how many braces it opens and closes. The scan of some lines goes on with the lines
behind them in the state in which it left the first ones, unless one of these closed the message.
-/

namespace RpcReference.Source

open Text

/-! ### One line -/

/-- How many more braces the line opens than it closes. -/
def surplus (line : Text) : Int :=
  line.count '{' - line.count '}'

theorem surplus_eq_zero {line : Text} (hopen : '{' ∉ line) (hclose : '}' ∉ line) :
    surplus line = 0 := by
  simp [surplus, List.count_eq_zero.mpr hopen, List.count_eq_zero.mpr hclose]

theorem readLine_nested {depth : Nat} (hdepth : 0 < depth) (comment line : Text) :
    BodyState.readLine ⟨depth, comment⟩ line =
      if (depth : Int) + surplus line < 0 then .close
      else .next none ⟨(depth + surplus line : Int).toNat, comment⟩ := by
  simp only [BodyState.readLine, hdepth, if_true]
  by_cases hclose : depth + line.count '{' < line.count '}'
  · rw [if_pos hclose, if_pos (by unfold surplus; omega)]
  · have hdepth' : (depth + surplus line : Int).toNat =
        depth + line.count '{' - line.count '}' := by
      unfold surplus
      omega
    rw [if_neg hclose, if_neg (by unfold surplus; omega), hdepth']

theorem readLine_remark_line {line : Text} (hline : isBodyComment line = true) (comment : Text) :
    BodyState.readLine ⟨0, comment⟩ line =
      .next none ⟨0, addFragment comment (commentText line)⟩ := by
  simp [BodyState.readLine, hline]

theorem readLine_brace {line : Text} (hline : isBodyComment line = false)
    (hbrace : '{' ∈ line ∨ '}' ∈ line) (comment : Text) :
    BodyState.readLine ⟨0, comment⟩ line =
      if surplus line < 0 then .close else .next none ⟨(surplus line).toNat, []⟩ := by
  have hcount : 0 < line.count '{' ∨ 0 < line.count '}' := by
    simpa only [List.count_pos_iff] using hbrace
  have hdepth : (surplus line).toNat = line.count '{' - line.count '}' := by
    unfold surplus
    omega
  simp only [BodyState.readLine, Nat.lt_irrefl, if_false, hline, Bool.false_eq_true]
  by_cases hclose : line.count '{' < line.count '}'
  · rw [if_pos hclose, if_pos (by unfold surplus; omega)]
  · rw [if_neg hclose, if_pos (by omega), if_neg (by unfold surplus; omega), hdepth]

theorem readLine_eq_fieldLine? {line : Text} (hopen : '{' ∉ line) (hclose : '}' ∉ line)
    (hcomment : isBodyComment line = false) (pending : Text) :
    BodyState.readLine ⟨0, pending⟩ line =
      (fieldLine? line).elim (.next none ⟨0, pending⟩) fun head =>
        .next (some (head.withComment pending)) ⟨0, []⟩ := by
  unfold BodyState.readLine
  simp only [Nat.lt_irrefl, if_false, hcomment, Bool.false_eq_true, List.count_eq_zero.mpr hopen,
    List.count_eq_zero.mpr hclose]
  cases fieldLine? line <;> rfl

theorem closing_of_readLine_close {s : BodyState} {line : Text} (h : s.readLine line = .close) :
    '}' ∈ line := by
  rw [← List.count_pos_iff]
  simp only [BodyState.readLine] at h
  split_ifs at h
  · omega
  · omega
  · split at h <;> cases h

theorem eq_start_of_readLine_field {s next : BodyState} {line : Text} {field : Field}
    (h : s.readLine line = .next (some field) next) :
    next = .start ∧ isBodyComment line = false := by
  simp only [BodyState.readLine] at h
  split_ifs at h with hdepth _ hcomment
  · cases h
  · cases h
  · cases h
  · split at h <;> cases h
    have hzero : s.depth = 0 := by omega
    rw [hzero]
    exact ⟨rfl, by simpa using hcomment⟩

/-! ### Runs of the scan -/

namespace BodyState

/-- The state of the scan behind the lines, unless one of them closes the message. -/
def after (s : BodyState) : List Text → Option BodyState
  | [] => some s
  | line :: ls =>
    match s.readLine line with
    | .close => none
    | .next _ s => s.after ls

theorem after_append (s : BodyState) (ls tail : List Text) :
    s.after (ls ++ tail) = (s.after ls).bind (·.after tail) := by
  induction ls generalizing s with
  | nil => rfl
  | cons line ls ih =>
    rw [List.cons_append, after, after]
    cases s.readLine line with
    | close => rfl
    | next field next => exact ih next

theorem fields_append (s : BodyState) (ls tail : List Text) :
    s.fields (ls ++ tail) = s.fields ls ++ (s.after ls).elim [] (·.fields tail) := by
  induction ls generalizing s with
  | nil => rfl
  | cons line ls ih =>
    rw [List.cons_append, fields, fields, after]
    cases s.readLine line with
    | close => rfl
    | next field next =>
      dsimp only
      rw [ih next, List.append_assoc]

theorem fields_append_of_after_eq_none {s : BodyState} {ls : List Text} (h : s.after ls = none)
    (tail : List Text) : s.fields (ls ++ tail) = s.fields ls := by
  rw [fields_append, h, Option.elim_none, List.append_nil]

end BodyState

end RpcReference.Source
