import Mathlib.Algebra.Ring.Parity
import RpcReference.Document.Name
/-!
# Runs of underscores in names

What becomes of a name in sample code is a matter of its runs of underscores. A name falls into
stretches, each of which is a run, possibly empty, with the character behind it, and a last run with
nothing behind it. Of a run about one half remains; whether its number is odd decides the case of
the character behind it. No stretch has an effect on another.
-/

namespace RpcReference.Document

open Text

def underscores (n : Nat) : Text :=
  List.replicate n '_'

/-- All underscores up to a character, and that character. -/
structure Stretch where
  count : Nat
  next : Char
  next_ne : next ≠ '_'
  deriving DecidableEq, Repr

def Stretch.text (s : Stretch) : Text :=
  underscores s.count ++ [s.next]

/-- A stretch in camel case. In front of a letter or digit the underscores go in pairs, each of
which leaves one, and an odd one out puts the letter into upper case. In front of another character
the odd one out remains. -/
def Stretch.camel (s : Stretch) : Text :=
  if isAlphanumeric s.next then
    if s.count % 2 = 1 then underscores ((s.count - 1) / 2) ++ upperChar s.next
    else underscores (s.count / 2) ++ [s.next]
  else underscores ((s.count + 1) / 2) ++ [s.next]

/-- A name as its stretches and the number of underscores behind the last of them. -/
structure Runs where
  stretches : List Stretch
  last : Nat
  deriving DecidableEq, Repr

namespace Runs

def text (r : Runs) : Text :=
  r.stretches.flatMap Stretch.text ++ underscores r.last

def camel (r : Runs) : Text :=
  r.stretches.flatMap Stretch.camel ++ underscores ((r.last + 1) / 2)

/-- One more underscore in front. -/
def lengthen : Runs → Runs
  | ⟨[], last⟩ => ⟨[], last + 1⟩
  | ⟨s :: stretches, last⟩ => ⟨{ s with count := s.count + 1 } :: stretches, last⟩

def ofText : Text → Runs
  | [] => ⟨[], 0⟩
  | c :: rest =>
    if h : c = '_' then (ofText rest).lengthen
    else ⟨⟨0, c, h⟩ :: (ofText rest).stretches, (ofText rest).last⟩

theorem text_lengthen (r : Runs) : r.lengthen.text = '_' :: r.text := by
  obtain ⟨stretches, last⟩ := r
  cases stretches <;> rfl

theorem ofText_cons_of_ne {c : Char} (h : c ≠ '_') (rest : Text) :
    ofText (c :: rest) = ⟨⟨0, c, h⟩ :: (ofText rest).stretches, (ofText rest).last⟩ := by
  rw [ofText, dif_neg h]

theorem text_ofText (t : Text) : (ofText t).text = t := by
  induction t with
  | nil => rfl
  | cons c rest ih =>
    by_cases h : c = '_'
    · rw [ofText, dif_pos h, text_lengthen, ih, h]
    · rw [ofText_cons_of_ne h]
      exact congrArg (c :: ·) ih

theorem ofText_underscores (n : Nat) : ofText (underscores n) = ⟨[], n⟩ := by
  induction n with
  | zero => rfl
  | succ n ih =>
    change ofText ('_' :: underscores n) = _
    rw [ofText, dif_pos rfl, ih]
    rfl

theorem ofText_stretch_append (s : Stretch) (rest : Text) :
    ofText (s.text ++ rest) = ⟨s :: (ofText rest).stretches, (ofText rest).last⟩ := by
  obtain ⟨count, next, hnext⟩ := s
  induction count with
  | zero => exact ofText_cons_of_ne hnext rest
  | succ count ih =>
    change ofText ('_' :: (Stretch.text ⟨count, next, hnext⟩ ++ rest)) = _
    rw [ofText, dif_pos rfl, ih]
    rfl

theorem ofText_text (r : Runs) : ofText r.text = r := by
  obtain ⟨stretches, last⟩ := r
  induction stretches with
  | nil => exact ofText_underscores last
  | cons s stretches ih =>
    have htext : text ⟨s :: stretches, last⟩ = s.text ++ text ⟨stretches, last⟩ :=
      List.append_assoc _ _ _
    rw [htext, ofText_stretch_append, ih]

/-- Each name has exactly one division into runs. -/
theorem text_eq_iff {r : Runs} {t : Text} : r.text = t ↔ r = ofText t := by
  constructor
  · rintro rfl
    exact (ofText_text r).symm
  · rintro rfl
    exact text_ofText t

end Runs

/-! ### The effect of a run -/

theorem upperChar_underscore : upperChar '_' = ['_'] := by
  decide +kernel

theorem isWordChar_underscore : isWordChar '_' = true :=
  Bool.or_true _

theorem underscores_succ (n : Nat) : underscores (n + 1) = underscores n ++ ['_'] :=
  List.replicate_succ'

theorem camelCase_cons_of_ne {c : Char} (hc : c ≠ '_') (rest : Text) :
    camelCase (c :: rest) = c :: camelCase rest := by
  cases rest with
  | nil => rfl
  | cons next rest => rw [camelCase, if_neg fun h => hc h.1]

/-- Two underscores in a row leave one and have no other effect. -/
theorem camelCase_pairs (n : Nat) (rest : Text) :
    camelCase (underscores (2 * n) ++ rest) = underscores n ++ camelCase rest := by
  induction n with
  | zero => rfl
  | succ n ih =>
    change camelCase ('_' :: '_' :: (underscores (2 * n) ++ rest)) = _
    rw [camelCase, if_pos ⟨rfl, isWordChar_underscore⟩, upperChar_underscore, ih]
    rfl

/-- An odd number of underscores leaves the last of them for what follows. -/
theorem camelCase_pairs_succ (n : Nat) (rest : Text) :
    camelCase (underscores (2 * n + 1) ++ rest) = underscores n ++ camelCase ('_' :: rest) := by
  rw [underscores_succ, List.append_assoc, camelCase_pairs, List.singleton_append]

theorem camelCase_stretch_append (s : Stretch) (rest : Text) :
    camelCase (s.text ++ rest) = s.camel ++ camelCase rest := by
  obtain ⟨count, next, hnext⟩ := s
  have hword : isWordChar next = isAlphanumeric next := by
    rw [isWordChar, beq_false_of_ne hnext, Bool.or_false]
  have hcons := camelCase_cons_of_ne hnext rest
  simp only [Stretch.text, Stretch.camel, List.append_assoc, List.singleton_append]
  obtain ⟨n, rfl | rfl⟩ := Nat.even_or_odd' count
  · have heven : ¬ 2 * n % 2 = 1 := by omega
    have hhalf : 2 * n / 2 = n := by omega
    have hhalf' : (2 * n + 1) / 2 = n := by omega
    rw [camelCase_pairs, hcons, if_neg heven, hhalf, hhalf', ite_self, List.append_assoc,
      List.singleton_append]
  · have hodd : (2 * n + 1) % 2 = 1 := by omega
    have hhalf : (2 * n + 1 - 1) / 2 = n := by omega
    have hhalf' : (2 * n + 1 + 1) / 2 = n + 1 := by omega
    rw [camelCase_pairs_succ, if_pos hodd, hhalf, hhalf', camelCase, hword]
    by_cases halphanumeric : isAlphanumeric next = true
    · rw [if_pos ⟨rfl, halphanumeric⟩, if_pos halphanumeric, List.append_assoc]
    · rw [if_neg fun h => halphanumeric h.2, if_neg halphanumeric, hcons, underscores_succ,
        List.append_assoc, List.append_assoc]
      rfl

theorem camelCase_underscores (n : Nat) :
    camelCase (underscores n) = underscores ((n + 1) / 2) := by
  rw [← List.append_nil (underscores n)]
  obtain ⟨k, rfl | rfl⟩ := Nat.even_or_odd' n
  · have hhalf : (2 * k + 1) / 2 = k := by omega
    rw [camelCase_pairs, camelCase, hhalf, List.append_nil]
  · have hhalf : (2 * k + 1 + 1) / 2 = k + 1 := by omega
    rw [camelCase_pairs_succ, camelCase, hhalf, underscores_succ]

theorem camelCase_stretches_append (stretches : List Stretch) (rest : Text) :
    camelCase (stretches.flatMap Stretch.text ++ rest) =
      stretches.flatMap Stretch.camel ++ camelCase rest := by
  induction stretches with
  | nil => rfl
  | cons s stretches ih =>
    rw [List.flatMap_cons, List.flatMap_cons, List.append_assoc, camelCase_stretch_append, ih,
      List.append_assoc]

theorem Runs.camelCase_text (r : Runs) : camelCase r.text = r.camel := by
  rw [Runs.text, camelCase_stretches_append, camelCase_underscores, Runs.camel]

/-- Behind another character than an underscore a name can be cut. -/
theorem camelCase_append {t : Text} (ht : t.getLast? ≠ some '_') (rest : Text) :
    camelCase (t ++ rest) = camelCase t ++ camelCase rest := by
  have hlast : (Runs.ofText t).last = 0 := by
    by_contra hne
    obtain ⟨n, hn⟩ := Nat.exists_eq_succ_of_ne_zero hne
    refine ht ?_
    rw [← Runs.text_ofText t, Runs.text, hn, underscores_succ, ← List.append_assoc,
      List.getLast?_concat]
  have htext : t = (Runs.ofText t).stretches.flatMap Stretch.text := by
    conv_lhs => rw [← Runs.text_ofText t, Runs.text, hlast]
    exact List.append_nil _
  have hwhole := camelCase_stretches_append (Runs.ofText t).stretches []
  rw [List.append_nil, ← htext, camelCase, List.append_nil] at hwhole
  conv_lhs => rw [htext, camelCase_stretches_append]
  rw [hwhole]

theorem camelCase_of_not_mem {t : Text} (ht : '_' ∉ t) : camelCase t = t := by
  induction t with
  | nil => rfl
  | cons c t ih =>
    obtain ⟨hc, ht⟩ := not_or.mp (mt List.mem_cons.mpr ht)
    rw [camelCase_cons_of_ne (Ne.symm hc), ih ht]

/-- Camel case goes by the runs of underscores: each name divides into runs in exactly one way, and
its camel case is that of its stretches and of its last run. Hence a name without underscores stays
as it is, and a name can be cut behind every other character. -/
theorem camelCase_follows_runs (name : Text) :
    (∃! r : Runs, r.text = name) ∧
    (∀ r : Runs, r.text = name → camelCase name = r.camel) ∧
    ('_' ∉ name → camelCase name = name) ∧
    (name.getLast? ≠ some '_' → ∀ rest, camelCase (name ++ rest) = camelCase name ++ camelCase rest)
    := by
  refine ⟨⟨Runs.ofText name, Runs.text_ofText name, fun r => Runs.text_eq_iff.mp⟩, ?_,
    camelCase_of_not_mem, camelCase_append⟩
  rintro r rfl
  exact r.camelCase_text

/-- A run of three in front of a letter with a longer upper case, one of two, a single underscore in
front of a hyphen, and two underscores at the end. -/
def mixedRuns : Runs where
  stretches := [⟨3, 'ß', by decide⟩, ⟨2, 'b', by decide⟩, ⟨1, '-', by decide⟩, ⟨0, 'c', by decide⟩]
  last := 2

theorem camelCase_mixedRuns :
    mixedRuns.text = "___ß__b_-c__".toList ∧
    camelCase "___ß__b_-c__".toList = "_SS_b_-c_".toList ∧
    '_' ∉ "pubkey".toList ∧ camelCase "pubkey".toList = "pubkey".toList ∧
    "num_peers".toList.getLast? ≠ some '_' ∧
    camelCase ("num_peers".toList ++ "_2".toList) =
      camelCase "num_peers".toList ++ camelCase "_2".toList := by
  have htext : mixedRuns.text = "___ß__b_-c__".toList := by decide
  have hcamel : mixedRuns.camel = "_SS_b_-c_".toList := by decide +kernel
  obtain ⟨-, hruns, -⟩ := camelCase_follows_runs "___ß__b_-c__".toList
  obtain ⟨-, -, hwhole, -⟩ := camelCase_follows_runs "pubkey".toList
  obtain ⟨-, -, -, hcut⟩ := camelCase_follows_runs "num_peers".toList
  exact ⟨htext, (hruns mixedRuns htext).trans hcamel, by decide, hwhole (by decide), by decide,
    hcut (by decide) _⟩

end RpcReference.Document
