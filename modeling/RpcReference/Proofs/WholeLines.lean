import RpcReference.Proofs.Text
/-!
# Text in whole lines

A text that ends with a line end can be followed by any other text without a change to its lines.
This is how documents and console output are put together: piece by piece, each in whole lines.
-/

namespace RpcReference.Document

open Text

/-- The text ends with a line end, if it is not empty. -/
def WholeLines (t : Text) : Prop :=
  t = [] ∨ ∃ front, t = front ++ ['\n']

theorem WholeLines.append {t u : Text} (ht : WholeLines t) (hu : WholeLines u) :
    WholeLines (t ++ u) := by
  rcases hu with rfl | ⟨front, rfl⟩
  · rwa [List.append_nil]
  · exact Or.inr ⟨t ++ front, (List.append_assoc _ _ _).symm⟩

theorem wholeLines_flatMap {α : Type} {text : α → Text} (htext : ∀ x, WholeLines (text x))
    (xs : List α) : WholeLines (xs.flatMap text) := by
  induction xs with
  | nil => exact Or.inl rfl
  | cons x xs ih =>
    rw [List.flatMap_cons]
    exact (htext x).append ih

/-- Behind whole lines a new line begins. -/
theorem WholeLines.exists_split {t : Text} (ht : WholeLines t) :
    ∃ above, ∀ u, split '\n' (t ++ u) = above ++ split '\n' u := by
  rcases ht with rfl | ⟨front, rfl⟩
  · exact ⟨[], fun _ => rfl⟩
  · refine ⟨split '\n' front, fun u => ?_⟩
    rw [List.append_assoc, List.singleton_append, split_append_cons]

/-! ### Lines with their ends -/

/-- The lines one below the other, each with a line end. -/
def ended (ls : List Text) : Text :=
  ls.flatMap (· ++ ['\n'])

theorem ended_append (front back : List Text) :
    ended (front ++ back) = ended front ++ ended back :=
  List.flatMap_append

theorem join_append_newline {ls : List Text} (hne : ls ≠ []) :
    join ['\n'] ls ++ ['\n'] = ended ls := by
  induction ls with
  | nil => exact absurd rfl hne
  | cons l ls ih =>
    cases ls with
    | nil => simp [join, ended]
    | cons next ls =>
      have htail := ih (List.cons_ne_nil next ls)
      rw [join] at htail ⊢
      rw [List.intercalate_cons_cons, List.append_assoc, htail]
      rfl

theorem ended_split (t : Text) : ended (split '\n' t) = t ++ ['\n'] := by
  have hne : split '\n' t ≠ [] := splitWhere_ne_nil _ t
  rw [← join_append_newline hne, join_split]

end RpcReference.Document
