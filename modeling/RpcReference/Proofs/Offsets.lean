import RpcReference.Proofs.Text
/-!
# Offsets into a text

A place in a text can also be given by the number of bytes in front of it, where a character takes
one to four bytes. A part of a text is then asked for by two offsets, and there is such a part only
if the offsets are in order, reach no further than the text, and fall between characters. The
operations of this module report a violation where that fails, and the same for an index into a list
and for a difference of numbers. What they accept is said by one equivalence each.
-/

namespace RpcReference

/-- A condition that an operation needs and that does not hold. -/
inductive Violation where
  /-- A part ends before it begins. -/
  | order
  /-- An offset lies behind the end of the text. -/
  | outside
  /-- An offset lies inside a character. -/
  | insideCharacter
  /-- A list has no element at the index. -/
  | index
  /-- More is taken away than there is. -/
  | underflow
  deriving DecidableEq, Repr

/-! ### Lists and numbers -/

def elementAt {α : Type} (xs : List α) (index : Nat) : Except Violation α :=
  match xs[index]? with
  | some x => .ok x
  | none => .error .index

def elementsBetween {α : Type} (xs : List α) (start stop : Nat) : Except Violation (List α) :=
  if stop < start then .error .order
  else if xs.length < stop then .error .index
  else .ok ((xs.take stop).drop start)

def difference (whole part : Nat) : Except Violation Nat :=
  if part ≤ whole then .ok (whole - part) else .error .underflow

theorem elementAt_of_getElem? {α : Type} {xs : List α} {index : Nat} {x : α}
    (h : xs[index]? = some x) : elementAt xs index = .ok x := by
  rw [elementAt, h]

theorem elementsBetween_of_le {α : Type} {xs : List α} {start stop : Nat} (hle : start ≤ stop)
    (hlength : stop ≤ xs.length) :
    elementsBetween xs start stop = .ok ((xs.take stop).drop start) := by
  rw [elementsBetween, if_neg (by omega), if_neg (by omega)]

theorem difference_of_le {whole part : Nat} (h : part ≤ whole) :
    difference whole part = .ok (whole - part) :=
  if_pos h

namespace Text

def byteLength : Text → Nat
  | [] => 0
  | c :: t => c.utf8Size + byteLength t

@[simp] theorem byteLength_nil : byteLength [] = 0 := rfl

@[simp] theorem byteLength_cons (c : Char) (t : Text) :
    byteLength (c :: t) = c.utf8Size + byteLength t := rfl

@[simp] theorem byteLength_append (t u : Text) :
    byteLength (t ++ u) = byteLength t + byteLength u := by
  induction t with
  | nil => simp
  | cons c t ih => rw [List.cons_append, byteLength_cons, byteLength_cons, ih, Nat.add_assoc]

theorem byteLength_eq_zero_iff {t : Text} : byteLength t = 0 ↔ t = [] := by
  cases t with
  | nil => simp
  | cons c t =>
    have hsize := Char.utf8Size_pos c
    simp only [byteLength_cons, reduceCtorEq, iff_false]
    omega

theorem byteLength_lt_append_cons (before : Text) (c : Char) (after : Text) :
    byteLength before < byteLength (before ++ c :: after) := by
  have hsize := Char.utf8Size_pos c
  rw [byteLength_append, byteLength_cons]
  omega

/-! ### Parts of a text -/

/-- The texts before and after an offset. -/
def splitAtOffset : (t : Text) → (offset : Nat) → Except Violation (Text × Text)
  | [], offset => if offset = 0 then .ok ([], []) else .error .outside
  | c :: t, offset =>
    if offset = 0 then .ok ([], c :: t)
    else if offset < c.utf8Size then .error .insideCharacter
    else (splitAtOffset t (offset - c.utf8Size)).map fun (before, after) => (c :: before, after)

def slice (t : Text) (start stop : Nat) : Except Violation Text :=
  if stop < start then .error .order
  else do
    let (front, _) ← splitAtOffset t stop
    let (_, part) ← splitAtOffset front start
    return part

theorem splitAtOffset_append (before after : Text) :
    splitAtOffset (before ++ after) (byteLength before) = .ok (before, after) := by
  induction before with
  | nil => cases after <;> rfl
  | cons c before ih =>
    have hsize := Char.utf8Size_pos c
    rw [List.cons_append, splitAtOffset, byteLength_cons, if_neg (by omega), if_neg (by omega),
      Nat.add_sub_cancel_left, ih]
    rfl

theorem splitAtOffset_eq_ok_iff {t before after : Text} {offset : Nat} :
    splitAtOffset t offset = .ok (before, after) ↔
      t = before ++ after ∧ byteLength before = offset := by
  constructor
  · intro h
    induction t generalizing before offset with
    | nil =>
      rw [splitAtOffset] at h
      split at h
      · next hzero =>
        cases h
        exact ⟨rfl, hzero.symm⟩
      · cases h
    | cons c t ih =>
      rw [splitAtOffset] at h
      split at h
      · next hzero =>
        cases h
        exact ⟨rfl, hzero.symm⟩
      · split at h
        · cases h
        · next hsize =>
          cases hrest : splitAtOffset t (offset - c.utf8Size) with
          | error violation =>
            rw [hrest] at h
            cases h
          | ok parts =>
            rw [hrest] at h
            cases h
            obtain ⟨ht, hlength⟩ := ih hrest
            refine ⟨by rw [ht, List.cons_append], ?_⟩
            rw [byteLength_cons, hlength]
            omega
  · rintro ⟨rfl, rfl⟩
    exact splitAtOffset_append before after

/-- There is a part between two offsets exactly if the text is cut there into three. -/
theorem slice_eq_ok_iff {t part : Text} {start stop : Nat} :
    slice t start stop = .ok part ↔
      ∃ before after, t = before ++ (part ++ after) ∧ byteLength before = start ∧
        byteLength before + byteLength part = stop := by
  unfold slice
  constructor
  · intro h
    split at h
    · cases h
    · obtain ⟨⟨front, after⟩, hstop, h⟩ := Text.bind_eq_ok_iff.mp h
      obtain ⟨⟨before, rest⟩, hstart, hrest⟩ := Text.bind_eq_ok_iff.mp h
      cases hrest
      obtain ⟨rfl, hfront⟩ := splitAtOffset_eq_ok_iff.mp hstop
      obtain ⟨rfl, hbefore⟩ := splitAtOffset_eq_ok_iff.mp hstart
      exact ⟨before, after, List.append_assoc .., hbefore, byteLength_append before part ▸ hfront⟩
  · rintro ⟨before, after, rfl, rfl, rfl⟩
    have hstop := splitAtOffset_append (before ++ part) after
    rw [byteLength_append, List.append_assoc] at hstop
    rw [if_neg (by omega), hstop, Text.ok_bind]
    dsimp only
    rw [splitAtOffset_append]
    rfl

example : slice "é(".toList 2 3 = .ok "(".toList := by decide

example : slice "é(".toList 1 3 = .error .insideCharacter := by decide

theorem slice_append_append (before part after : Text) :
    slice (before ++ (part ++ after)) (byteLength before) (byteLength (before ++ part)) =
      .ok part :=
  slice_eq_ok_iff.mpr ⟨before, after, rfl, rfl, (byteLength_append before part).symm⟩

theorem slice_append (part after : Text) : slice (part ++ after) 0 (byteLength part) = .ok part :=
  slice_append_append [] part after

/-- The part behind a character of one byte. -/
theorem slice_append_cons {c : Char} (hc : c.utf8Size = 1) (before part after : Text) :
    slice (before ++ c :: (part ++ after)) (byteLength before + 1)
      (byteLength (before ++ c :: part)) = .ok part := by
  have hslice := slice_append_append (before ++ [c]) part after
  have hbefore : byteLength (before ++ [c]) = byteLength before + 1 := by simp [hc]
  rwa [hbefore, List.append_assoc, List.append_assoc, List.singleton_append,
    List.singleton_append] at hslice

/-! ### Looking for a character -/

def offsetOf? (c : Char) (t : Text) : Option Nat :=
  (cut? c t).map fun (before, _) => byteLength before

def lastOffsetOf? (c : Char) (t : Text) : Option Nat :=
  (cutLast? c t).map fun (before, _) => byteLength before

theorem exists_of_offsetOf? {c : Char} {t : Text} {offset : Nat} (h : offsetOf? c t = some offset) :
    ∃ before after, t = before ++ c :: after ∧ c ∉ before ∧ byteLength before = offset := by
  obtain ⟨⟨before, after⟩, hcut, rfl⟩ := Option.map_eq_some_iff.mp h
  obtain ⟨ht, hbefore⟩ := cut?_eq_some_iff.mp hcut
  exact ⟨before, after, ht, hbefore, rfl⟩

theorem exists_of_lastOffsetOf? {c : Char} {t : Text} {offset : Nat} (h : lastOffsetOf? c t = some offset) :
    ∃ before after, t = before ++ c :: after ∧ c ∉ after ∧ byteLength before = offset := by
  obtain ⟨⟨before, after⟩, hcut, rfl⟩ := Option.map_eq_some_iff.mp h
  obtain ⟨ht, hafter⟩ := cutLast?_eq_some_iff.mp hcut
  exact ⟨before, after, ht, hafter, rfl⟩

theorem offsetOf?_append_cons {c : Char} {before : Text} (h : c ∉ before) (after : Text) :
    offsetOf? c (before ++ c :: after) = some (byteLength before) := by
  rw [offsetOf?, cut?_eq_some_iff.mpr ⟨rfl, h⟩]
  rfl

theorem lastOffsetOf?_append_cons {c : Char} (before : Text) {after : Text} (h : c ∉ after) :
    lastOffsetOf? c (before ++ c :: after) = some (byteLength before) := by
  rw [lastOffsetOf?, cutLast?_eq_some_iff.mpr ⟨rfl, h⟩]
  rfl

/-- A character that does not occur at the beginning of a text stands behind it. -/
theorem exists_append_of_not_mem {c : Char} {start : Text} (hc : c ∉ start)
    {t before after : Text} (h : start ++ t = before ++ c :: after) :
    ∃ middle, before = start ++ middle ∧ t = middle ++ c :: after := by
  rcases List.append_eq_append_iff.mp h with ⟨middle, hbefore, ht⟩ | ⟨middle, hstart, hafter⟩
  · exact ⟨middle, hbefore, ht⟩
  · cases middle with
    | nil =>
      rw [List.append_nil] at hstart
      exact ⟨[], by rw [hstart, List.append_nil], hafter.symm⟩
    | cons d middle =>
      obtain ⟨rfl, -⟩ := List.cons.inj hafter
      exact absurd (by simp [hstart]) hc

/-- Of two different characters of a text, the one with the smaller offset stands before the
other. -/
theorem exists_between {c d : Char} (hne : c ≠ d) {before after before' after' : Text}
    (h : before ++ c :: after = before' ++ d :: after')
    (hle : byteLength before ≤ byteLength before') :
    ∃ between, before' = before ++ c :: between ∧ after = between ++ d :: after' := by
  rcases List.append_eq_append_iff.mp h with ⟨middle, hbefore, hafter⟩ | ⟨middle, hbefore, hafter⟩
  · cases middle with
    | nil => exact absurd (List.cons.inj hafter).1 hne
    | cons e between =>
      obtain ⟨rfl, rfl⟩ := List.cons.inj hafter
      exact ⟨between, hbefore, rfl⟩
  · rw [hbefore, byteLength_append] at hle
    have hmiddle : middle = [] := byteLength_eq_zero_iff.mp (by omega)
    rw [hmiddle] at hafter
    exact absurd (List.cons.inj hafter).1.symm hne

end Text

end RpcReference
