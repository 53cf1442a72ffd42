import Mathlib.Data.List.DropRight
import RpcReference.Text.Basic
/-!
# Laws of text

What the operations on text do to texts that were put together from known pieces: joining undoes
splitting and the other way round, trimming stops at the first character it may not drop, and a word
in front of a blank is the first word.
-/

namespace RpcReference.Text

/-! ### Splitting and joining -/

theorem splitWhere_eq_splitOnP (p : Char → Bool) (t : Text) : splitWhere p t = t.splitOnP p := by
  induction t with
  | nil => simp
  | cons c t ih =>
    cases hc : p c with
    | true => rw [splitWhere_cons_sep hc, List.splitOnP_cons_eq_if_modifyHead, if_pos hc, ih]
    | false =>
      rw [splitWhere_cons_of_not hc, List.splitOnP_cons_eq_if_modifyHead, if_neg (by simp [hc]), ih]
      obtain ⟨piece, pieces, hsplit⟩ := List.exists_cons_of_ne_nil (List.splitOnP_ne_nil p t)
      rw [hsplit]
      rfl

theorem split_eq_splitOn (sep : Char) (t : Text) : split sep t = t.splitOn sep :=
  splitWhere_eq_splitOnP _ t

theorem split_join {sep : Char} {ts : List Text} (hne : ts ≠ []) (hsep : ∀ t ∈ ts, sep ∉ t) :
    split sep (join [sep] ts) = ts := by
  rw [split_eq_splitOn]
  exact List.splitOn_intercalate sep hsep hne

theorem join_split (sep : Char) (t : Text) : join [sep] (split sep t) = t := by
  rw [split_eq_splitOn]
  exact List.intercalate_splitOn sep

theorem split_append_cons (sep : Char) (front back : Text) :
    split sep (front ++ sep :: back) = split sep front ++ split sep back := by
  rw [split, splitWhere_eq_splitOnP, List.splitOnP_append_cons _ _ (by simp),
    ← splitWhere_eq_splitOnP, ← splitWhere_eq_splitOnP]
  rfl

theorem split_of_not_mem {sep : Char} {t : Text} (h : sep ∉ t) : split sep t = [t] := by
  have hjoin := @split_join sep [t] (by simp) (by simpa using h)
  rwa [join, List.intercalate_singleton] at hjoin

theorem not_mem_of_mem_splitWhere {p : Char → Bool} {t piece : Text}
    (hpiece : piece ∈ splitWhere p t) : ∀ c ∈ piece, p c = false := by
  induction t generalizing piece with
  | nil =>
    rw [splitWhere_nil, List.mem_singleton] at hpiece
    simp [hpiece]
  | cons d t ih =>
    cases hd : p d with
    | true =>
      rw [splitWhere_cons_sep hd, List.mem_cons] at hpiece
      rcases hpiece with rfl | hpiece
      · simp
      · exact ih hpiece
    | false =>
      rw [splitWhere_cons_of_not hd] at hpiece
      obtain ⟨first, rest, hsplit⟩ := List.exists_cons_of_ne_nil (splitWhere_ne_nil p t)
      rw [hsplit, extendHead, List.mem_cons] at hpiece
      rcases hpiece with rfl | hpiece
      · intro c hc
        rcases List.mem_cons.1 hc with rfl | hc
        · exact hd
        · exact ih (by simp [hsplit]) c hc
      · exact ih (by simp [hsplit, hpiece])

theorem splitWhere_append_of_forall {p : Char → Bool} {tail : Text} (htail : ∀ c ∈ tail, p c = true)
    (t : Text) : splitWhere p (t ++ tail) = splitWhere p t ++ tail.map fun _ => [] := by
  induction t with
  | nil =>
    rw [List.nil_append, splitWhere_nil, List.singleton_append]
    induction tail with
    | nil => rfl
    | cons c tail ih =>
      obtain ⟨hc, htail⟩ := List.forall_mem_cons.mp htail
      rw [splitWhere_cons_sep hc, ih htail, List.map_cons]
  | cons c t ih =>
    rw [List.cons_append]
    cases hc : p c with
    | true => rw [splitWhere_cons_sep hc, splitWhere_cons_sep hc, ih, List.cons_append]
    | false =>
      obtain ⟨piece, pieces, hsplit⟩ := List.exists_cons_of_ne_nil (splitWhere_ne_nil p t)
      rw [splitWhere_cons_of_not hc, splitWhere_cons_of_not hc, ih, hsplit]
      rfl

theorem not_mem_of_mem_split {sep : Char} {t piece : Text} (hpiece : piece ∈ split sep t) :
    sep ∉ piece := by
  intro hsep
  simpa using not_mem_of_mem_splitWhere hpiece sep hsep

/-! ### Trimming -/

theorem exists_eq_dropEndWhile_append (p : Char → Bool) (t : Text) :
    ∃ tail, (∀ c ∈ tail, p c = true) ∧ t = dropEndWhile p t ++ tail := by
  refine ⟨(t.reverse.takeWhile p).reverse, fun c hc => ?_, ?_⟩
  · exact List.mem_takeWhile_imp (List.mem_reverse.mp hc)
  · rw [dropEndWhile, ← List.reverse_append, List.takeWhile_append_dropWhile, List.reverse_reverse]

theorem dropEndWhile_append {p : Char → Bool} (t : Text) {tail : Text}
    (htail : ∀ c ∈ tail, p c = true) : dropEndWhile p (t ++ tail) = dropEndWhile p t := by
  have hdrop : tail.reverse.dropWhile p = [] := by simpa using htail
  simp [dropEndWhile, List.dropWhile_append, hdrop]

theorem dropEndWhile_append_of_ne_nil {p : Char → Bool} (start : Text) {t : Text}
    (hne : t ≠ []) (ht : dropEndWhile p t = t) : dropEndWhile p (start ++ t) = start ++ t := by
  have hlast := List.rdropWhile_eq_self_iff.1 ht
  refine List.rdropWhile_eq_self_iff.2 fun hstart => ?_
  rw [List.getLast_append_of_ne_nil hstart hne]
  exact hlast hne

theorem dropEndWhile_append_eq {p : Char → Bool} {start : Text}
    (hstart : dropEndWhile p start = start) (t : Text) :
    dropEndWhile p (start ++ t) = start ++ dropEndWhile p t := by
  have hkept : start.reverse.dropWhile p = start.reverse := by
    rw [← List.reverse_inj, List.reverse_reverse]
    exact hstart
  unfold dropEndWhile
  rw [List.reverse_append, List.dropWhile_append]
  split
  · next ht => rw [hkept, List.isEmpty_iff.1 ht]; simp
  · simp

theorem dropEndWhile_eq_self_of_forall {p : Char → Bool} {t : Text} (ht : ∀ c ∈ t, p c = false) :
    dropEndWhile p t = t := by
  refine List.rdropWhile_eq_self_iff.2 fun hne => ?_
  simp [ht _ (List.getLast_mem hne)]

theorem trimWhile_append_append {p : Char → Bool} {start tail : Text} (t : Text)
    (hstart : ∀ c ∈ start, p c = true) (htail : ∀ c ∈ tail, p c = true) :
    trimWhile p (start ++ t ++ tail) = trimWhile p t := by
  rw [trimWhile, List.append_assoc, List.dropWhile_append_of_pos hstart, List.dropWhile_append]
  by_cases ht : (t.dropWhile p).isEmpty
  · have htail' : tail.dropWhile p = [] := by simpa using htail
    rw [if_pos ht, htail', trimWhile, List.isEmpty_iff.1 ht]
  · rw [if_neg ht, dropEndWhile_append _ htail, trimWhile]

theorem isBlank_of_mem_space : ∀ c ∈ [' '], isBlank c = true :=
  List.forall_mem_singleton.mpr (by decide)

/-- Whether a given word has a blank is computed over its characters, not over all there are. -/
theorem isBlank_eq_false_of_all {w : Text} (h : w.all (! isBlank ·) = true) :
    ∀ c ∈ w, isBlank c = false := by
  intro c hc
  simpa using List.all_eq_true.mp h c hc

theorem trim_append_space (t : Text) : trim (t ++ [' ']) = trim t :=
  trimWhile_append_append t (List.forall_mem_nil _) isBlank_of_mem_space

theorem trim_space_cons (t : Text) : trim (' ' :: t) = trim t := by
  have hspace := trimWhile_append_append t isBlank_of_mem_space (List.forall_mem_nil _)
  rwa [List.append_nil] at hspace

theorem trimWhile_eq_self_iff {p : Char → Bool} {t : Text} :
    trimWhile p t = t ↔ t.dropWhile p = t ∧ dropEndWhile p t = t := by
  constructor
  · intro h
    have hlength : t.length ≤ (t.dropWhile p).length := by
      calc t.length = (dropEndWhile p (t.dropWhile p)).length := by rw [← trimWhile, h]
        _ ≤ (t.dropWhile p).length := (List.rdropWhile_prefix p _).length_le
    have hdrop : t.dropWhile p = t := (List.dropWhile_suffix p).eq_of_length_le hlength
    refine ⟨hdrop, ?_⟩
    rwa [trimWhile, hdrop] at h
  · rintro ⟨hdrop, hend⟩
    rw [trimWhile, hdrop, hend]

theorem trimWhile_eq_self_of_forall {p : Char → Bool} {t : Text} (ht : ∀ c ∈ t, p c = false) :
    trimWhile p t = t := by
  refine trimWhile_eq_self_iff.2 ⟨?_, dropEndWhile_eq_self_of_forall ht⟩
  cases t with
  | nil => rfl
  | cons c t => rw [List.dropWhile_cons_of_neg (by simp [ht c])]

theorem isInfix_trimWhile (p : Char → Bool) (t : Text) : trimWhile p t <:+: t :=
  (List.rdropWhile_prefix p _).isInfix.trans (List.dropWhile_suffix p).isInfix

theorem dropWhile_trimWhile (p : Char → Bool) (t : Text) :
    (trimWhile p t).dropWhile p = trimWhile p t := by
  rw [List.dropWhile_eq_self_iff]
  intro hlength
  have hfront : trimWhile p t <+: t.dropWhile p := List.rdropWhile_prefix p _
  rw [hfront.getElem hlength]
  exact List.dropWhile_get_zero_not p t (Nat.lt_of_lt_of_le hlength hfront.length_le)

theorem trimWhile_trimWhile (p : Char → Bool) (t : Text) :
    trimWhile p (trimWhile p t) = trimWhile p t :=
  trimWhile_eq_self_iff.2 ⟨dropWhile_trimWhile p t, List.rdropWhile_idempotent p _⟩

theorem mem_trimWhile {p : Char → Bool} {t : Text} {c : Char} (hmem : c ∈ t) (hc : p c = false) :
    c ∈ trimWhile p t := by
  obtain ⟨tail, htail, hdrop⟩ := exists_eq_dropEndWhile_append p (t.dropWhile p)
  rw [← @List.takeWhile_append_dropWhile _ p t, hdrop, List.mem_append, List.mem_append] at hmem
  have hstart : c ∉ t.takeWhile p := fun h => by simp [List.mem_takeWhile_imp h] at hc
  have hend : c ∉ tail := fun h => by simp [htail c h] at hc
  exact (hmem.resolve_left hstart).resolve_right hend

theorem trimWhile_ne_nil {p : Char → Bool} {t : Text} {c : Char} (hmem : c ∈ t) (hc : p c = false) :
    trimWhile p t ≠ [] :=
  List.ne_nil_of_mem (mem_trimWhile hmem hc)

theorem trim_eq_nil_iff {t : Text} : trim t = [] ↔ IsBlank t := by
  constructor
  · intro h c hc
    by_contra hblank
    exact trimWhile_ne_nil hc (by simpa using hblank) h
  · intro h
    have hall := trimWhile_append_append [] h (List.forall_mem_nil _)
    rwa [List.append_nil, List.append_nil] at hall

/-! ### Beginnings -/

theorem startsWith_iff {t start : Text} :
    t.startsWith start = true ↔ ∃ rest, t = start ++ rest := by
  rw [startsWith, List.isPrefixOf_iff_prefix]
  exact exists_congr fun _ => eq_comm

theorem stripStart?_append (start rest : Text) : stripStart? start (start ++ rest) = some rest :=
  stripStart?_eq_some_iff.2 rfl

theorem startsWith_eq_isSome (t start : Text) :
    t.startsWith start = (stripStart? start t).isSome := by
  rw [Bool.eq_iff_iff, startsWith_iff, Option.isSome_iff_exists]
  exact exists_congr fun _ => stripStart?_eq_some_iff.symm

/-- What stands before and behind the first `sep` is determined by the text. -/
theorem append_cons_inj {sep : Char} {before before' after after' : Text} (h : sep ∉ before)
    (h' : sep ∉ before') (heq : before ++ sep :: after = before' ++ sep :: after') :
    before = before' ∧ after = after' := by
  have hcut : cut? sep (before ++ sep :: after) = some (before, after) :=
    cut?_eq_some_iff.2 ⟨rfl, h⟩
  have hcut' : cut? sep (before ++ sep :: after) = some (before', after') :=
    cut?_eq_some_iff.2 ⟨heq, h'⟩
  simpa using hcut.symm.trans hcut'

/-- What stands before and behind the last `sep` is determined by the text. -/
theorem append_cons_inj_last {sep : Char} {before before' after after' : Text} (h : sep ∉ after)
    (h' : sep ∉ after') (heq : before ++ sep :: after = before' ++ sep :: after') :
    before = before' ∧ after = after' := by
  have hcut : cutLast? sep (before ++ sep :: after) = some (before, after) :=
    cutLast?_eq_some_iff.2 ⟨rfl, h⟩
  have hcut' : cutLast? sep (before ++ sep :: after) = some (before', after') :=
    cutLast?_eq_some_iff.2 ⟨heq, h'⟩
  simpa using hcut.symm.trans hcut'

theorem startsWith_append_space {w v : Text} (hw : ' ' ∉ w) (hv : ' ' ∉ v) (hne : w ≠ v)
    (rest : Text) : (w ++ ' ' :: rest).startsWith (v ++ [' ']) = false := by
  rw [Bool.eq_false_iff]
  intro h
  obtain ⟨tail, heq⟩ := startsWith_iff.1 h
  rw [List.append_assoc, List.singleton_append] at heq
  exact hne (append_cons_inj hw hv heq).1

/-- A last character that the beginning does not have makes no difference to it. -/
theorem startsWith_concat {start : Text} {d : Char} (hd : d ∉ start) (t : Text) :
    (t ++ [d]).startsWith start = t.startsWith start := by
  rw [Bool.eq_iff_iff, startsWith_iff, startsWith_iff]
  constructor
  · rintro ⟨rest, h⟩
    obtain rfl | ⟨front, last, rfl⟩ := List.eq_nil_or_concat' rest
    · rw [List.append_nil] at h
      exact absurd (h ▸ List.mem_append_right t List.mem_cons_self) hd
    · rw [← List.append_assoc] at h
      exact ⟨front, (List.append_inj' h rfl).1⟩
  · rintro ⟨rest, rfl⟩
    exact ⟨rest ++ [d], List.append_assoc _ _ _⟩

theorem upTo_append_cons {sep : Char} {t : Text} (ht : sep ∉ t) (rest : Text) :
    upTo sep (t ++ sep :: rest) = t := by
  have hne : ∀ c ∈ t, (c != sep) = true := fun c hc => by
    simpa using fun heq : c = sep => ht (heq ▸ hc)
  rw [upTo, List.takeWhile_append_of_pos hne]
  simp

/-! ### Cutting -/

theorem cut?_eq_none_iff {sep : Char} {t : Text} : cut? sep t = none ↔ sep ∉ t := by
  induction t with
  | nil => simp [cut?]
  | cons c t ih =>
    by_cases hc : c = sep
    · simp [cut?, hc]
    · simp [cut?, hc, ih, Ne.symm hc]

theorem cutLast?_eq_none_iff {sep : Char} {t : Text} : cutLast? sep t = none ↔ sep ∉ t := by
  rw [cutLast?, Option.map_eq_none_iff, cut?_eq_none_iff, List.mem_reverse]

theorem upTo_append_of_mem {sep : Char} {t : Text} (ht : sep ∈ t) (tail : Text) :
    upTo sep (t ++ tail) = upTo sep t := by
  cases hcut : cut? sep t with
  | none => exact absurd ht (cut?_eq_none_iff.1 hcut)
  | some parts =>
    obtain ⟨before, after⟩ := parts
    obtain ⟨rfl, hbefore⟩ := cut?_eq_some_iff.1 hcut
    rw [List.append_assoc, List.cons_append, upTo_append_cons hbefore, upTo_append_cons hbefore]

theorem upTo_of_not_mem {sep : Char} {t : Text} (ht : sep ∉ t) : upTo sep t = t := by
  rw [upTo, List.takeWhile_eq_self_iff]
  intro c hc
  simpa using fun heq : c = sep => ht (heq ▸ hc)

/-! ### Words -/

theorem words_of_forall_not_blank {w : Text} (hne : w ≠ []) (hw : ∀ c ∈ w, isBlank c = false) :
    words w = [w] := by
  simp [words, splitWhere_eq_splitOnP, List.splitOnP_eq_singleton hw, hne]

theorem words_append_cons {w : Text} (hne : w ≠ []) (hw : ∀ c ∈ w, isBlank c = false) {b : Char}
    (hb : isBlank b = true) (rest : Text) : words (w ++ b :: rest) = w :: words rest := by
  have hsplit := List.splitOnP_append_cons_of_forall_mem hw b hb rest
  simp [words, splitWhere_eq_splitOnP, hsplit, hne]

theorem words_append_space {w : Text} (hne : w ≠ []) (hw : ∀ c ∈ w, isBlank c = false)
    (rest : Text) : words (w ++ ' ' :: rest) = w :: words rest :=
  words_append_cons hne hw (by decide) rest

theorem flatten_splitWhere (p : Char → Bool) (t : Text) :
    (splitWhere p t).flatten = t.filter (! p ·) := by
  induction t with
  | nil => rfl
  | cons c t ih =>
    cases hc : p c with
    | true =>
      rw [splitWhere_cons_sep hc, List.flatten_cons, ih, List.filter_cons_of_neg (by simp [hc]),
        List.nil_append]
    | false =>
      obtain ⟨piece, pieces, hsplit⟩ := List.exists_cons_of_ne_nil (splitWhere_ne_nil p t)
      rw [splitWhere_cons_of_not hc, List.filter_cons_of_pos (by simp [hc]), ← ih, hsplit]
      rfl

/-- Words hold all characters that are not blank, in their order. -/
theorem flatten_words (t : Text) : (words t).flatten = t.filter (! isBlank ·) := by
  rw [words, List.flatten_filter_not_isEmpty, flatten_splitWhere]

theorem subset_of_mem_splitWhere {p : Char → Bool} {t piece : Text}
    (hpiece : piece ∈ splitWhere p t) : piece ⊆ t := by
  induction t generalizing piece with
  | nil =>
    rw [splitWhere_nil, List.mem_singleton] at hpiece
    simp [hpiece]
  | cons d t ih =>
    obtain ⟨first, rest, hsplit⟩ := List.exists_cons_of_ne_nil (splitWhere_ne_nil p t)
    cases hd : p d with
    | true =>
      rw [splitWhere_cons_sep hd, List.mem_cons] at hpiece
      rcases hpiece with rfl | hpiece
      · exact List.nil_subset _
      · exact List.subset_cons_of_subset d (ih hpiece)
    | false =>
      rw [splitWhere_cons_of_not hd, hsplit, extendHead, List.mem_cons] at hpiece
      rcases hpiece with rfl | hpiece
      · exact List.cons_subset_cons d (ih (by simp [hsplit]))
      · exact List.subset_cons_of_subset d (ih (by simp [hsplit, hpiece]))

theorem of_mem_words {t w : Text} (hw : w ∈ words t) :
    w ≠ [] ∧ w ⊆ t ∧ ∀ c ∈ w, isBlank c = false := by
  obtain ⟨hpiece, hne⟩ := List.mem_filter.1 hw
  exact ⟨by simpa using hne, subset_of_mem_splitWhere hpiece, not_mem_of_mem_splitWhere hpiece⟩

/-! ### Conditions of readers -/

theorem guard_eq_some {b : Bool} (hb : b = true) : (guard (b = true) : Option Unit) = some () :=
  if_pos hb

theorem of_guard_eq_some {b : Bool} {u : Unit} (h : (guard (b = true) : Option Unit) = some u) :
    b = true := by
  by_contra hb
  rw [guard, if_neg hb] at h
  cases h

/-! ### Results of operations that can fail -/

section

variable {ε α β : Type}

@[simp] theorem ok_bind (a : α) (f : α → Except ε β) : (Except.ok a >>= f) = f a := rfl

theorem bind_eq_ok_iff {x : Except ε α} {f : α → Except ε β} {b : β} :
    (x >>= f) = .ok b ↔ ∃ a, x = .ok a ∧ f a = .ok b := by
  cases x with
  | error cause =>
    constructor
    · intro h
      cases h
    · rintro ⟨a, h, -⟩
      cases h
  | ok a => simp

/-- A fold that fails does so at one of its steps. -/
theorem exists_error_of_foldlM {step : β → α → Except ε β} {b : β} {xs : List α} {cause : ε}
    (h : xs.foldlM step b = .error cause) : ∃ b x, step b x = .error cause := by
  induction xs generalizing b with
  | nil => cases h
  | cons x xs ih =>
    rw [List.foldlM_cons] at h
    cases hstep : step b x with
    | error cause' =>
      rw [hstep] at h
      cases h
      exact ⟨b, x, hstep⟩
    | ok b' =>
      rw [hstep, ok_bind] at h
      exact ih h

end

end RpcReference.Text
