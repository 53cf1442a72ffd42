import RpcReference.Document.Block
import RpcReference.Proofs.Text
/-!
# Texts of one line

What is put into a line of a document must not have a line end in it. Names have none, and what is
made of them by the case tables has none either: no character but the line end itself is mapped to
a line end.
-/

namespace RpcReference.Document

open Text

/-- The text has no line end in it. -/
def OneLine (t : Text) : Prop :=
  '\n' ∉ t

variable {t u : Text}

instance : Decidable (OneLine t) :=
  inferInstanceAs (Decidable ('\n' ∉ t))

@[simp] theorem oneLine_nil : OneLine [] :=
  List.not_mem_nil

@[simp] theorem oneLine_cons {c : Char} : OneLine (c :: t) ↔ c ≠ '\n' ∧ OneLine t := by
  simp [OneLine, eq_comm]

@[simp] theorem oneLine_append : OneLine (t ++ u) ↔ OneLine t ∧ OneLine u := by
  simp [OneLine]

@[simp] theorem oneLine_line {parts : List Text} :
    OneLine (line parts) ↔ ∀ part ∈ parts, OneLine part := by
  simp [OneLine, line]

theorem OneLine.of_subset (h : OneLine u) (hsubset : t ⊆ u) : OneLine t :=
  fun hmem => h (hsubset hmem)

/-! ### Case -/

theorem eq_of_ofNat_eq_newline {n : Nat} (h : Char.ofNat n = '\n') : n = 10 := by
  by_cases hvalid : n.isValidChar
  · have hchar : Char.ofNat n = Char.ofNatAux n hvalid := dif_pos hvalid
    rw [hchar] at h
    exact congrArg Char.toNat h
  · have hchar : Char.ofNat n = '\x00' := dif_neg hvalid
    rw [hchar] at h
    cases h

/-- The tables map nothing to a line end. -/
structure KeepsLines (runs : List CaseRun) (expansions : List (Nat × List Nat)) : Prop where
  runs : ∀ run ∈ runs, 10 < run.lo + run.offset
  expansions : ∀ expansion ∈ expansions, 10 ∉ expansion.2

theorem keepsLines_lower : KeepsLines lowerRuns lowerExpansions :=
  ⟨by decide +kernel, by decide +kernel⟩

theorem keepsLines_upper : KeepsLines upperRuns upperExpansions :=
  ⟨by decide +kernel, by decide +kernel⟩

theorem KeepsLines.oneLine_mapCase {runs : List CaseRun} {expansions : List (Nat × List Nat)}
    (h : KeepsLines runs expansions) {c : Char} (hc : c ≠ '\n') :
    OneLine (mapCase runs expansions c) := by
  unfold mapCase
  split
  · next image hfind =>
    intro hmem
    obtain ⟨n, hn, hnewline⟩ := List.mem_map.mp hmem
    rw [eq_of_ofNat_eq_newline hnewline] at hn
    exact h.expansions _ (List.mem_of_find?_eq_some hfind) hn
  · split
    · next run hfind =>
      have hrun := h.runs run (List.mem_of_find?_eq_some hfind)
      have hcovers : run.covers c.toNat = true := by
        simpa using List.find?_some hfind
      simp only [CaseRun.covers, Bool.and_eq_true, decide_eq_true_eq] at hcovers
      refine oneLine_cons.mpr ⟨fun hnewline => ?_, oneLine_nil⟩
      -- The image of the first code point of the run lies above that of a line end, so all do.
      have himage := eq_of_ofNat_eq_newline hnewline
      omega
    · simpa using hc

theorem oneLine_lowerChar {c : Char} (hc : c ≠ '\n') : OneLine (lowerChar c) :=
  keepsLines_lower.oneLine_mapCase hc

theorem oneLine_upperChar {c : Char} (hc : c ≠ '\n') : OneLine (upperChar c) :=
  keepsLines_upper.oneLine_mapCase hc

theorem oneLine_lowerAfter (before : Text) (h : OneLine t) : OneLine (lowerAfter before t) := by
  induction t generalizing before with
  | nil => exact oneLine_nil
  | cons c t ih =>
    obtain ⟨hc, ht⟩ := oneLine_cons.mp h
    rw [lowerAfter, oneLine_append]
    refine ⟨?_, ih _ ht⟩
    split
    · unfold lowerSigma
      split <;> decide
    · exact oneLine_lowerChar hc

theorem oneLine_lower (h : OneLine t) : OneLine (lower t) :=
  oneLine_lowerAfter [] h

theorem oneLine_camelCase (h : OneLine t) : OneLine (camelCase t) := by
  fun_induction camelCase t with
  | case1 => exact h
  | case2 => exact h
  | case3 c next rest _ ih =>
    simp only [oneLine_cons] at h
    exact oneLine_append.mpr ⟨oneLine_upperChar h.2.1, ih h.2.2⟩
  | case4 c next rest _ ih =>
    obtain ⟨hc, hrest⟩ := oneLine_cons.mp h
    exact oneLine_cons.mpr ⟨hc, ih hrest⟩

theorem oneLine_lowerInitial (h : OneLine t) : OneLine (lowerInitial t) := by
  cases t with
  | nil => exact h
  | cons c rest =>
    obtain ⟨hc, hrest⟩ := oneLine_cons.mp h
    exact oneLine_append.mpr ⟨oneLine_lowerChar hc, hrest⟩

theorem oneLine_typeLink (schema : Schema) (h : OneLine t) : OneLine (typeLink schema t) := by
  unfold typeLink
  split
  · simp only [oneLine_append]
    exact ⟨⟨⟨⟨by decide, h⟩, by decide⟩, oneLine_lower h⟩, by decide⟩
  · exact h

variable {field : Field}

theorem oneLine_codeType (schema : Schema) (h : OneLine field.type) :
    OneLine (codeType schema field) := by
  have hlink := oneLine_typeLink schema h
  unfold codeType
  dsimp only
  split
  · exact oneLine_append.mpr ⟨hlink, by decide⟩
  · exact hlink

theorem oneLine_tableType (schema : Schema) (h : OneLine field.type)
    (hkey : ∀ key ∈ field.key, OneLine key) : OneLine (tableType schema field) := by
  have hlink := oneLine_typeLink schema h
  unfold tableType
  dsimp only
  split
  · next key hsome =>
    simp only [oneLine_append]
    exact ⟨⟨⟨⟨by decide, hkey key hsome⟩, by decide⟩, hlink⟩, by decide⟩
  · split
    · exact oneLine_append.mpr ⟨hlink, by decide⟩
    · exact hlink

end RpcReference.Document
