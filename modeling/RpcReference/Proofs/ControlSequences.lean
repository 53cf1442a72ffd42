import Mathlib.Data.List.Forall2
import RpcReference.Command.Console
import RpcReference.Proofs.Text
/-!
# Taking colours away

Colours are put around a text by control sequences, and taking these out again must give back the
text. `Uncolours` says this of a text in its place, whatever comes after it, so that it holds of a
text that is put together from pieces as soon as it holds of the pieces.
-/

namespace RpcReference.Command

open Text

/-! ### Control sequences -/

/-- The character is a parameter of a control sequence, or separates two. -/
def isParameter (c : Char) : Bool :=
  c.isDigit || c == ';'

/-- The text behind the control sequence that it begins with, if it begins with one. -/
def behindSequence? : Text → Option Text
  | '\x1b' :: '[' :: rest =>
    match rest.dropWhile isParameter with
    | 'm' :: rest => some rest
    | _ => none
  | _ => none

theorem length_of_behindSequence? {t rest : Text} (h : behindSequence? t = some rest) :
    rest.length < t.length := by
  unfold behindSequence? at h
  split at h
  · next inner =>
    split at h
    · next behind hdrop =>
      cases h
      have hlength : (inner.dropWhile isParameter).length ≤ inner.length :=
        (List.dropWhile_suffix isParameter).length_le
      rw [hdrop, List.length_cons] at hlength
      simp only [List.length_cons]
      omega
    · cases h
  · cases h

/-- The text without its control sequences. -/
def withoutSequences : Text → Text
  | [] => []
  | c :: t =>
    match hsequence : behindSequence? (c :: t) with
    | some rest =>
      have : rest.length < (c :: t).length := length_of_behindSequence? hsequence
      withoutSequences rest
    | none => c :: withoutSequences t
termination_by t => t.length
decreasing_by
  · exact this
  · exact Nat.lt_succ_self t.length

theorem withoutSequences_nil : withoutSequences [] = [] := by
  rw [withoutSequences]

theorem withoutSequences_cons {c : Char} (hc : c ≠ '\x1b') (t : Text) :
    withoutSequences (c :: t) = c :: withoutSequences t := by
  have hplain : behindSequence? (c :: t) = none := by
    simp [behindSequence?, hc]
  rw [withoutSequences]
  split
  · next hsequence =>
    rw [hplain] at hsequence
    cases hsequence
  · rfl

theorem withoutSequences_append {code : Text} (hcode : ∀ c ∈ code, isParameter c = true)
    (t : Text) : withoutSequences (controlSequence code ++ t) = withoutSequences t := by
  have hbehind : behindSequence? ('\x1b' :: '[' :: (code ++ 'm' :: t)) = some t := by
    have hdrop : (code ++ 'm' :: t).dropWhile isParameter = 'm' :: t := by
      rw [List.dropWhile_append_of_pos hcode]
      rfl
    simp only [behindSequence?, hdrop]
  have htext : controlSequence code ++ t = '\x1b' :: '[' :: (code ++ 'm' :: t) := by
    simp [controlSequence]
  rw [htext, withoutSequences]
  split
  · next hsequence =>
    rw [hbehind] at hsequence
    cases hsequence
    rfl
  · next hplain =>
    rw [hbehind] at hplain
    cases hplain

/-! ### Texts and their colours -/

/-- Without its control sequences, the coloured text is the plain one, whatever follows. -/
def Uncolours (coloured plain : Text) : Prop :=
  ∀ rest, withoutSequences (coloured ++ rest) = plain ++ withoutSequences rest

/-- The text has no control sequence of its own. -/
def Colourless (t : Text) : Prop :=
  '\x1b' ∉ t

variable {coloured plain coloured' plain' t u : Text}

instance : Decidable (Colourless t) :=
  inferInstanceAs (Decidable ('\x1b' ∉ t))

@[simp] theorem colourless_nil : Colourless [] :=
  List.not_mem_nil

@[simp] theorem colourless_cons {c : Char} :
    Colourless (c :: t) ↔ c ≠ '\x1b' ∧ Colourless t := by
  simp [Colourless, eq_comm]

@[simp] theorem colourless_append : Colourless (t ++ u) ↔ Colourless t ∧ Colourless u := by
  simp [Colourless]

theorem Colourless.of_subset (h : Colourless u) (hsubset : t ⊆ u) : Colourless t :=
  fun hmem => h (hsubset hmem)

theorem colourless_flatten {parts : List Text} (h : ∀ part ∈ parts, Colourless part) :
    Colourless parts.flatten := by
  intro hmem
  obtain ⟨part, hpart, hchar⟩ := List.mem_flatten.mp hmem
  exact h part hpart hchar

theorem colourless_flatMap {α : Type} {text : α → Text} {xs : List α}
    (h : ∀ x ∈ xs, Colourless (text x)) : Colourless (xs.flatMap text) := by
  rw [List.flatMap]
  refine colourless_flatten fun part hpart => ?_
  obtain ⟨x, hx, rfl⟩ := List.mem_map.mp hpart
  exact h x hx

theorem colourless_toDigits {base : Nat} (hbase : 1 < base) (n : Nat) :
    Colourless (Nat.toDigits base n) := by
  induction n using Nat.strongRecOn with
  | ind n ih =>
    rw [Nat.toDigits_eq_if hbase]
    split
    · simp
    · have hless : n / base < n := Nat.div_lt_self (by omega) hbase
      simp [ih _ hless]

theorem Uncolours.eq (h : Uncolours coloured plain) : withoutSequences coloured = plain := by
  have hnil := h []
  rwa [List.append_nil, withoutSequences_nil, List.append_nil] at hnil

theorem Uncolours.append (h : Uncolours coloured plain) (h' : Uncolours coloured' plain') :
    Uncolours (coloured ++ coloured') (plain ++ plain') := by
  intro rest
  rw [List.append_assoc, h, h', List.append_assoc]

theorem Colourless.uncolours (h : Colourless t) : Uncolours t t := by
  intro rest
  induction t with
  | nil => rfl
  | cons c t ih =>
    obtain ⟨hc, ht⟩ := colourless_cons.mp h
    rw [List.cons_append, withoutSequences_cons hc, ih ht, List.cons_append]

theorem uncolours_flatten {parts parts' : List Text} (h : List.Forall₂ Uncolours parts parts') :
    Uncolours parts.flatten parts'.flatten := by
  induction h with
  | nil => exact fun _ => rfl
  | cons hpart _ ih => exact hpart.append ih

theorem uncolours_flatMap {α : Type} {text text' : α → Text} {xs : List α}
    (h : ∀ x ∈ xs, Uncolours (text x) (text' x)) :
    Uncolours (xs.flatMap text) (xs.flatMap text') := by
  induction xs with
  | nil => exact fun _ => rfl
  | cons x xs ih =>
    obtain ⟨hx, hxs⟩ := List.forall_mem_cons.mp h
    rw [List.flatMap_cons, List.flatMap_cons]
    exact hx.append (ih hxs)

/-! ### Paint -/

theorem resume_of_colourless (sequence : Text) (h : Colourless t) : resume sequence t = t := by
  induction t with
  | nil => rfl
  | cons c t ih =>
    obtain ⟨hc, ht⟩ := colourless_cons.mp h
    rw [resume, ih ht]
    intro _ heq
    exact absurd heq hc

theorem isParameter_of_mem_code (paint : Paint) : ∀ c ∈ paint.code, isParameter c = true := by
  rw [← List.all_eq_true]
  cases paint <;> rfl

theorem uncolours_apply (paint : Paint) (h : Colourless t) :
    Uncolours (paint.apply true t) (paint.apply false t) := by
  intro rest
  have hreset : ∀ c ∈ ['0'], isParameter c = true := List.forall_mem_singleton.mpr rfl
  simp only [Paint.apply, if_true, List.append_assoc, resume_of_colourless _ h]
  rw [withoutSequences_append (isParameter_of_mem_code paint), h.uncolours, resetSequence,
    withoutSequences_append hreset]
  rfl

end RpcReference.Command
