import Mathlib.Data.List.Basic
import Mathlib.Data.List.TakeWhile
import RpcReference.Json.Printer
import RpcReference.Json.Reader
/-!
# Reading what was written as JSON

The reader gives back every value that the printer writes, in either layout, if the numbers in it are
natural numbers in decimal digits. Literals need no condition: what the printer escapes is what the
reader undoes. The reader's bound never runs out, since each value, item and member that it steps
into takes a character of the text.
-/

namespace RpcReference.Json

open Text

/-! ### Blanks -/

/-- The text has no characters but blanks between tokens. -/
def IsSpaces (t : Text) : Prop :=
  ∀ c ∈ t, isSpace c = true

theorem skipSpace_append {blanks : Text} (h : IsSpaces blanks) (t : Text) :
    skipSpace (blanks ++ t) = skipSpace t :=
  List.dropWhile_append_of_pos h

theorem skipSpace_cons {c : Char} (hc : isSpace c = false) (t : Text) :
    skipSpace (c :: t) = c :: t :=
  List.dropWhile_cons_of_neg (by simp [hc])

theorem skipSpace_append_cons {blanks : Text} (h : IsSpaces blanks) {c : Char}
    (hc : isSpace c = false) (t : Text) : skipSpace (blanks ++ c :: t) = c :: t := by
  rw [skipSpace_append h, skipSpace_cons hc]

/-- The layout puts nothing but blanks between tokens. -/
structure Layout.IsBlank (layout : Layout) : Prop where
  lineBreak : ∀ depth, IsSpaces (layout.lineBreak depth)
  afterColon : IsSpaces layout.afterColon

theorem Layout.isBlank_compact : Layout.compact.IsBlank :=
  ⟨fun _ => List.forall_mem_nil _, List.forall_mem_nil _⟩

theorem Layout.isBlank_indented : Layout.indented.IsBlank where
  lineBreak depth := by
    intro c hc
    rcases List.mem_cons.mp hc with rfl | hc
    · rfl
    · rw [List.eq_of_mem_replicate hc]
      rfl
  afterColon := List.forall_mem_singleton.mpr rfl

/-! ### Literals -/

theorem hexValue?_hexDigit : ∀ n < 16, hexValue? (hexDigit n) = some n := by
  decide

theorem units?_escapeChar (c : Char) (rest : Text) :
    units? .text (escapeChar c ++ rest) =
      (units? .text rest).map fun (units, rest) => (c.toNat :: units, rest) := by
  unfold escapeChar
  split
  case h_8 _ hquote hbackslash _ _ _ _ _ =>
    split
    · next hcontrol =>
      have hhigh := hexValue?_hexDigit (c.toNat / 16) (by omega)
      have hlow := hexValue?_hexDigit (c.toNat % 16) (by omega)
      have hvalue : 16 * (c.toNat / 16) + c.toNat % 16 = c.toNat := by omega
      have hzero : hexValue? '0' = some 0 := rfl
      simp [units?, LiteralState.read?, hhigh, hlow, hzero, hvalue, Function.comp_def]
    · next hplain =>
      have hread : LiteralState.text.read? c = some (.next (some c.toNat) .text) := by
        rw [LiteralState.read?, if_neg hquote, if_neg hbackslash, if_neg hplain]
      simp [units?, hread]
  all_goals simp [units?, LiteralState.read?, simpleEscape?, Function.comp_def]

theorem textOfUnits?_map_toNat (t : Text) : textOfUnits? none (t.map Char.toNat) = some t := by
  induction t with
  | nil => rfl
  | cons c t ih =>
    have hvalid : c.toNat < 0xd800 ∨ 0xdfff < c.toNat ∧ c.toNat < 0x110000 := c.valid
    have hhigh : isHighHalf c.toNat = false := by
      simp only [isHighHalf, Bool.and_eq_false_iff, decide_eq_false_iff_not]
      omega
    have hlow : isLowHalf c.toNat = false := by
      simp only [isLowHalf, Bool.and_eq_false_iff, decide_eq_false_iff_not]
      omega
    simp [textOfUnits?, hhigh, hlow, ih]

theorem units?_flatMap_escapeChar (t rest : Text) :
    units? .text (t.flatMap escapeChar ++ '"' :: rest) = some (t.map Char.toNat, rest) := by
  induction t with
  | nil => rfl
  | cons c t ih =>
    rw [List.flatMap_cons, List.append_assoc, units?_escapeChar, ih]
    rfl

/-- A written literal is a quote and a text from which the literal is read back. -/
theorem exists_renderLiteral (s : Literal) :
    ∃ body, renderLiteral s = '"' :: body ∧ ∀ rest, readLiteral? (body ++ rest) = some (s, rest) := by
  cases s with
  | none => exact ⟨"\\ud800\"".toList, rfl, fun rest => rfl⟩
  | some t =>
    refine ⟨t.flatMap escapeChar ++ ['"'], rfl, fun rest => ?_⟩
    rw [readLiteral?, List.append_assoc, List.singleton_append, units?_flatMap_escapeChar,
      ← textOfUnits?_map_toNat]
    rfl

/-! ### Numbers -/

/-- What follows does not go on with a number. -/
def EndsNumber (rest : Text) : Prop :=
  ∀ c ∈ rest.head?, c.isDigit = false ∧ c ≠ '.' ∧ c ≠ 'e' ∧ c ≠ 'E'

theorem endsNumber_cons {c : Char} (hc : c ∈ [',', ']', '\x7d', ' ', '\n', '\t', '\r']) (t : Text) :
    EndsNumber (c :: t) := by
  intro d hd
  rw [List.head?_cons, Option.mem_some_iff] at hd
  subst hd
  simp only [List.mem_cons, List.not_mem_nil, or_false] at hc
  rcases hc with rfl | rfl | rfl | rfl | rfl | rfl | rfl <;> decide

theorem endsNumber_append {blanks t : Text} (hblanks : IsSpaces blanks) (ht : EndsNumber t) :
    EndsNumber (blanks ++ t) := by
  cases blanks with
  | nil => exact ht
  | cons c blanks =>
    refine endsNumber_cons ?_ (blanks ++ t)
    have hc := hblanks c List.mem_cons_self
    simp only [isSpace, Bool.or_eq_true, beq_iff_eq] at hc
    simp only [List.mem_cons]
    tauto

theorem isDigit_of_mem_decimal {n : Nat} {c : Char} (hc : c ∈ decimal n) : c.isDigit = true :=
  Nat.isDigit_of_mem_toDigits (by decide) (by decide) hc

theorem decimal_ne_nil (n : Nat) : decimal n ≠ [] :=
  Nat.toDigits_ne_nil

theorem exists_decimal (n : Nat) : ∃ d ds, decimal n = d :: ds ∧ d.isDigit = true := by
  obtain ⟨d, ds, hcons⟩ := List.exists_cons_of_ne_nil (decimal_ne_nil n)
  have hmem : d ∈ decimal n := by
    rw [hcons]
    exact List.mem_cons_self
  exact ⟨d, ds, hcons, isDigit_of_mem_decimal hmem⟩

theorem ne_of_isDigit {c d : Char} (hc : c.isDigit = false) (hd : d.isDigit = true) : c ≠ d := by
  rintro rfl
  rw [hc] at hd
  cases hd

theorem isSpace_of_isDigit {d : Char} (hd : d.isDigit = true) : isSpace d = false := by
  refine Bool.eq_false_iff.mpr fun hspace => ?_
  simp only [isSpace, Bool.or_eq_true, beq_iff_eq] at hspace
  rcases hspace with ((rfl | rfl) | rfl) | rfl <;> cases hd

theorem head?_decimal_ne_zero {n : Nat} (hn : n ≠ 0) : (decimal n).head? ≠ some '0' := by
  induction n using Nat.strongRecOn with
  | ind n ih =>
    by_cases hsmall : n < 10
    · have hdigit : ∀ k < 10, k ≠ 0 → [k.digitChar].head? ≠ some '0' := by decide
      rw [decimal, Nat.toDigits_of_lt_base hsmall]
      exact hdigit n hsmall hn
    · have hdecimal : decimal n = decimal (n / 10) ++ [(n % 10).digitChar] :=
        Nat.toDigits_of_base_le (by decide) (Nat.le_of_not_lt hsmall)
      rw [hdecimal, List.head?_append_of_ne_nil _ (decimal_ne_nil _)]
      exact ih (n / 10) (by omega) (by omega)

theorem digits_append {ds rest : Text} (hds : ∀ c ∈ ds, c.isDigit = true) (hrest : EndsNumber rest) :
    digits (ds ++ rest) = (ds, rest) := by
  have htake : rest.takeWhile Char.isDigit = [] ∧ rest.dropWhile Char.isDigit = rest := by
    cases rest with
    | nil => exact ⟨rfl, rfl⟩
    | cons c rest => simp [(hrest c rfl).1]
  rw [digits, List.takeWhile_append_of_pos hds, List.dropWhile_append_of_pos hds, htake.1, htake.2,
    List.append_nil]

theorem integer?_decimal (n : Nat) {rest : Text} (hrest : EndsNumber rest) :
    integer? (decimal n ++ rest) = some (decimal n, rest) := by
  by_cases hn : n = 0
  · subst hn
    cases rest with
    | nil => rfl
    | cons c rest =>
      have hc := (hrest c rfl).1
      change integer? ('0' :: c :: rest) = some (['0'], c :: rest)
      simp [integer?, hc]
  · have hdigits : digits1? (decimal n ++ rest) = some (decimal n, rest) := by
      rw [digits1?, digits_append (fun c hc => isDigit_of_mem_decimal hc) hrest]
      simp [decimal_ne_nil]
    rw [← hdigits, integer?.eq_def]
    split
    · next tail hzero =>
      have hhead := congrArg List.head? hzero
      rw [List.head?_append_of_ne_nil _ (decimal_ne_nil _)] at hhead
      exact absurd hhead (head?_decimal_ne_zero hn)
    · rfl

theorem readNumber?_decimal (n : Nat) {rest : Text} (hrest : EndsNumber rest) :
    readNumber? (decimal n ++ rest) = some (decimal n, rest) := by
  have hfraction : fraction? rest = some ([], rest) := by
    rw [fraction?.eq_def]
    split
    · exact absurd rfl (hrest '.' rfl).2.1
    · rfl
  have hexponent : exponent? rest = some ([], rest) := by
    cases rest with
    | nil => rfl
    | cons c rest =>
      obtain ⟨-, -, hlower, hupper⟩ := hrest c rfl
      rw [exponent?, if_neg (by simp [hlower, hupper])]
  have hsign : ∀ tail, decimal n ++ rest ≠ '-' :: tail := by
    intro tail heq
    have hhead := congrArg List.head? heq
    rw [List.head?_append_of_ne_nil _ (decimal_ne_nil _)] at hhead
    exact absurd (isDigit_of_mem_decimal (List.mem_of_mem_head? hhead)) (by decide)
  rw [readNumber?, integer?_decimal n hrest]
  · simp [hfraction, hexponent]
  · exact hsign

theorem readAtom?_decimal (n : Nat) {rest : Text} (hrest : EndsNumber rest) :
    readAtom? (decimal n ++ rest) = some (ofNat n, rest) := by
  obtain ⟨d, ds, hcons, hdigit⟩ := exists_decimal n
  have hn : 'n' ≠ d := ne_of_isDigit rfl hdigit
  have ht : 't' ≠ d := ne_of_isDigit rfl hdigit
  have hf : 'f' ≠ d := ne_of_isDigit rfl hdigit
  rw [readAtom?]
  split
  · next found hfound => simp [wordValues, hcons, stripStart?, hn, ht, hf] at hfound
  · rw [readNumber?_decimal n hrest]
    rfl

/-! ### Values -/

/-- Every number in the value is a natural number in decimal digits. -/
inductive Plain : Json → Prop
  | null : Plain .null
  | bool (value : Bool) : Plain (.bool value)
  | nat (n : Nat) : Plain (.ofNat n)
  | string (value : Literal) : Plain (.string value)
  | array {items : List Json} (h : ∀ j ∈ items, Plain j) : Plain (.array items)
  | object {members : List (Literal × Json)} (h : ∀ m ∈ members, Plain m.2) :
      Plain (.object members)

variable {layout : Layout}

theorem Plain.exists_render {j : Json} (hj : j.Plain) (depth : Nat) :
    ∃ c t, render layout depth j = c :: t ∧ isSpace c = false ∧ c ≠ ']' := by
  cases hj with
  | null => exact ⟨'n', _, rfl, rfl, by decide⟩
  | bool value => cases value <;> exact ⟨_, _, rfl, rfl, by decide⟩
  | nat n =>
    obtain ⟨d, ds, hcons, hdigit⟩ := exists_decimal n
    refine ⟨d, ds, hcons, isSpace_of_isDigit hdigit, ?_⟩
    exact (ne_of_isDigit (show ']'.isDigit = false from rfl) hdigit).symm
  | string value =>
    obtain ⟨body, hbody, -⟩ := exists_renderLiteral value
    exact ⟨'"', body, hbody, rfl, by decide⟩
  | array h => exact ⟨'[', _, rfl, rfl, by decide⟩
  | object h => exact ⟨'\x7b', _, rfl, rfl, by decide⟩

/-- Wherever the value is written, it is read back, and what follows it is left. -/
def ReadsBack (layout : Layout) (j : Json) : Prop :=
  ∀ depth bound rest, (render layout depth j).length ≤ bound → EndsNumber rest →
    readValue? bound (render layout depth j ++ rest) = some (j, rest)

theorem readValue?_spaces {blanks : Text} (h : IsSpaces blanks) (bound : Nat) (t : Text) :
    readValue? bound (blanks ++ t) = readValue? bound t := by
  cases bound with
  | zero => simp [readValue?]
  | succ bound => rw [readValue?, readValue?, skipSpace_append h]

/-! ### Items -/

section

variable (layout) (depth : Nat)

theorem renderItems_nil_append (rest : Text) :
    renderItems layout depth false [] ++ rest = layout.lineBreak depth ++ ']' :: rest := by
  simp [renderItems]

theorem renderItems_false_cons (item : Json) (items : List Json) :
    renderItems layout depth false (item :: items) =
      ',' :: renderItems layout depth true (item :: items) := by
  simp [renderItems]

theorem renderItems_true_cons_append (item : Json) (items : List Json) (rest : Text) :
    renderItems layout depth true (item :: items) ++ rest =
      layout.lineBreak (depth + 1) ++ (render layout (depth + 1) item ++
        (renderItems layout depth false items ++ rest)) := by
  simp [renderItems]

theorem length_renderItems_pos (items : List Json) :
    0 < (renderItems layout depth false items).length := by
  cases items <;> simp [renderItems]

theorem length_renderItems_cons (item : Json) (items : List Json) :
    (render layout (depth + 1) item).length + (renderItems layout depth false items).length ≤
      (renderItems layout depth true (item :: items)).length := by
  simp [renderItems]

end

theorem endsNumber_renderItems (hlayout : layout.IsBlank) (depth : Nat) (items : List Json)
    (rest : Text) : EndsNumber (renderItems layout depth false items ++ rest) := by
  cases items with
  | nil =>
    rw [renderItems_nil_append]
    exact endsNumber_append (hlayout.lineBreak depth) (endsNumber_cons (by decide) rest)
  | cons item items =>
    rw [renderItems_false_cons]
    exact endsNumber_cons (by decide) _

theorem readItems?_renderItems (hlayout : layout.IsBlank) {item : Json} {items : List Json}
    (hitems : ∀ j ∈ item :: items, ReadsBack layout j) (depth : Nat) {bound : Nat}
    (hbound : (renderItems layout depth true (item :: items)).length ≤ bound) (rest : Text) :
    readItems? bound (renderItems layout depth true (item :: items) ++ rest) =
      some (item :: items, rest) := by
  obtain ⟨hitem, hitems⟩ := List.forall_mem_cons.mp hitems
  have hlength := length_renderItems_cons layout depth item items
  have hpos := length_renderItems_pos layout depth items
  obtain ⟨bound, rfl⟩ : ∃ b, bound = b + 1 := ⟨bound - 1, by omega⟩
  rw [renderItems_true_cons_append, readItems?, readValue?_spaces (hlayout.lineBreak _),
    hitem _ _ _ (by omega) (endsNumber_renderItems hlayout _ _ _)]
  simp only [Option.bind_eq_bind, Option.bind_some]
  cases items with
  | nil =>
    rw [renderItems_nil_append, skipSpace_append_cons (hlayout.lineBreak _) rfl]
    rfl
  | cons next items =>
    rw [renderItems_false_cons, List.length_cons] at hlength
    have hrest := readItems?_renderItems hlayout hitems depth (show _ ≤ bound by omega) rest
    rw [renderItems_false_cons, List.cons_append, skipSpace_cons rfl]
    simp only [hrest, Option.bind_some]
    rfl

/-! ### Members -/

section

variable (layout) (depth : Nat)

theorem renderMembers_nil_append (rest : Text) :
    renderMembers layout depth false [] ++ rest = layout.lineBreak depth ++ '\x7d' :: rest := by
  simp [renderMembers]

theorem renderMembers_false_cons (m : Literal × Json) (members : List (Literal × Json)) :
    renderMembers layout depth false (m :: members) =
      ',' :: renderMembers layout depth true (m :: members) := by
  simp [renderMembers]

theorem renderMembers_true_cons_append (m : Literal × Json) (members : List (Literal × Json))
    (rest : Text) :
    renderMembers layout depth true (m :: members) ++ rest =
      layout.lineBreak (depth + 1) ++ (renderLiteral m.1 ++ ':' :: (layout.afterColon ++
        (render layout (depth + 1) m.2 ++ (renderMembers layout depth false members ++ rest)))) := by
  simp [renderMembers]

theorem length_renderMembers_pos (members : List (Literal × Json)) :
    0 < (renderMembers layout depth false members).length := by
  cases members <;> simp [renderMembers]

theorem length_renderMembers_cons (m : Literal × Json) (members : List (Literal × Json)) :
    (render layout (depth + 1) m.2).length + (renderMembers layout depth false members).length ≤
      (renderMembers layout depth true (m :: members)).length := by
  simp only [renderMembers, List.length_append, List.length_cons]
  omega

end

theorem endsNumber_renderMembers (hlayout : layout.IsBlank) (depth : Nat)
    (members : List (Literal × Json)) (rest : Text) :
    EndsNumber (renderMembers layout depth false members ++ rest) := by
  cases members with
  | nil =>
    rw [renderMembers_nil_append]
    exact endsNumber_append (hlayout.lineBreak depth) (endsNumber_cons (by decide) rest)
  | cons m members =>
    rw [renderMembers_false_cons]
    exact endsNumber_cons (by decide) _

theorem readMembers?_renderMembers (hlayout : layout.IsBlank) {m : Literal × Json}
    {members : List (Literal × Json)} (hmembers : ∀ n ∈ m :: members, ReadsBack layout n.2)
    (depth : Nat) {bound : Nat}
    (hbound : (renderMembers layout depth true (m :: members)).length ≤ bound) (rest : Text) :
    readMembers? bound (renderMembers layout depth true (m :: members) ++ rest) =
      some (m :: members, rest) := by
  obtain ⟨hvalue, hmembers⟩ := List.forall_mem_cons.mp hmembers
  obtain ⟨body, hbody, hread⟩ := exists_renderLiteral m.1
  have hlength := length_renderMembers_cons layout depth m members
  have hpos := length_renderMembers_pos layout depth members
  obtain ⟨bound, rfl⟩ : ∃ b, bound = b + 1 := ⟨bound - 1, by omega⟩
  rw [renderMembers_true_cons_append, readMembers?, hbody, List.cons_append,
    skipSpace_append_cons (hlayout.lineBreak _) rfl]
  simp only [hread, Option.bind_eq_bind, Option.bind_some]
  rw [skipSpace_cons rfl]
  simp only [readValue?_spaces hlayout.afterColon]
  rw [hvalue _ _ _ (by omega) (endsNumber_renderMembers hlayout _ _ _)]
  simp only [Option.bind_some]
  cases members with
  | nil =>
    rw [renderMembers_nil_append, skipSpace_append_cons (hlayout.lineBreak _) rfl]
    rfl
  | cons next members =>
    rw [renderMembers_false_cons, List.length_cons] at hlength
    have hrest := readMembers?_renderMembers hlayout hmembers depth (show _ ≤ bound by omega) rest
    rw [renderMembers_false_cons, List.cons_append, skipSpace_cons rfl]
    simp only [hrest, Option.bind_some]
    rfl

/-! ### All values -/

theorem readValue?_atom {c : Char} (hspace : isSpace c = false) (hc : c ∉ ['"', '[', '\x7b'])
    (bound : Nat) (t : Text) : readValue? (bound + 1) (c :: t) = readAtom? (c :: t) := by
  simp only [List.mem_cons, List.not_mem_nil, or_false, not_or] at hc
  rw [readValue?, skipSpace_cons hspace]
  simp only [hc.1, hc.2.1, hc.2.2, if_false]

theorem readsBack_array (hlayout : layout.IsBlank) {items : List Json}
    (hplain : ∀ j ∈ items, Plain j) (hitems : ∀ j ∈ items, ReadsBack layout j) :
    ReadsBack layout (.array items) := by
  intro depth bound rest hbound _
  rw [render, List.length_cons] at hbound
  obtain ⟨bound, rfl⟩ : ∃ b, bound = b + 1 := ⟨bound - 1, by omega⟩
  rw [render, List.cons_append, readValue?, skipSpace_cons rfl]
  cases items with
  | nil => rfl
  | cons item items =>
    have hnonempty : stripStart? [']']
        (skipSpace (renderItems layout depth true (item :: items) ++ rest)) = none := by
      obtain ⟨c, t, hhead, hspace, hc⟩ := (hplain item List.mem_cons_self).exists_render (depth + 1)
      rw [renderItems_true_cons_append, hhead, List.cons_append,
        skipSpace_append_cons (hlayout.lineBreak _) hspace]
      simp [stripStart?, hc.symm]
    have hread := readItems?_renderItems hlayout hitems depth (show _ ≤ bound by omega) rest
    simp [hnonempty, hread]

theorem readsBack_object (hlayout : layout.IsBlank) {members : List (Literal × Json)}
    (hmembers : ∀ m ∈ members, ReadsBack layout m.2) : ReadsBack layout (.object members) := by
  intro depth bound rest hbound _
  rw [render, List.length_cons] at hbound
  obtain ⟨bound, rfl⟩ : ∃ b, bound = b + 1 := ⟨bound - 1, by omega⟩
  rw [render, List.cons_append, readValue?, skipSpace_cons rfl]
  cases members with
  | nil => rfl
  | cons m members =>
    have hnonempty : stripStart? ['\x7d']
        (skipSpace (renderMembers layout depth true (m :: members) ++ rest)) = none := by
      obtain ⟨body, hbody, -⟩ := exists_renderLiteral m.1
      rw [renderMembers_true_cons_append, hbody, List.cons_append,
        skipSpace_append_cons (hlayout.lineBreak _) rfl]
      rfl
    have hread := readMembers?_renderMembers hlayout hmembers depth (show _ ≤ bound by omega) rest
    simp [hnonempty, hread]

theorem readsBack_string (value : Literal) : ReadsBack layout (.string value) := by
  intro depth bound rest hbound _
  obtain ⟨body, hbody, hread⟩ := exists_renderLiteral value
  rw [render, hbody, List.length_cons] at hbound
  obtain ⟨bound, rfl⟩ : ∃ b, bound = b + 1 := ⟨bound - 1, by omega⟩
  rw [render, hbody, List.cons_append, readValue?, skipSpace_cons rfl]
  simp [hread]

theorem readsBack_nat (n : Nat) : ReadsBack layout (.ofNat n) := by
  intro depth bound rest hbound hrest
  obtain ⟨d, ds, hcons, hdigit⟩ := exists_decimal n
  have hrender : render layout depth (.ofNat n) = d :: ds := hcons
  have hread := readAtom?_decimal n hrest
  have hd : d ∉ ['"', '[', '\x7b'] := by
    intro hmem
    simp only [List.mem_cons, List.not_mem_nil, or_false] at hmem
    rcases hmem with rfl | rfl | rfl <;> cases hdigit
  rw [hrender, List.length_cons] at hbound
  obtain ⟨bound, rfl⟩ : ∃ b, bound = b + 1 := ⟨bound - 1, by omega⟩
  rw [hrender, List.cons_append, readValue?_atom (isSpace_of_isDigit hdigit) hd, ← List.cons_append,
    ← hcons, hread]

theorem readsBack_null : ReadsBack layout .null := by
  intro depth bound rest hbound _
  obtain ⟨bound, rfl⟩ : ∃ b, bound = b + 1 := ⟨bound - 1, by simp [render] at hbound; omega⟩
  exact readValue?_atom rfl (by decide) bound _

theorem readsBack_bool (value : Bool) : ReadsBack layout (.bool value) := by
  intro depth bound rest hbound _
  obtain ⟨bound, rfl⟩ : ∃ b, bound = b + 1 :=
    ⟨bound - 1, by cases value <;> simp [render, renderBool] at hbound <;> omega⟩
  cases value <;> exact readValue?_atom rfl (by decide) bound _

theorem Plain.readsBack (hlayout : layout.IsBlank) {j : Json} (hj : j.Plain) :
    ReadsBack layout j := by
  induction hj with
  | null => exact readsBack_null
  | bool value => exact readsBack_bool value
  | nat n => exact readsBack_nat n
  | string value => exact readsBack_string value
  | array h ih => exact readsBack_array hlayout h ih
  | object h ih => exact readsBack_object hlayout ih

/-- A plain value is read back from its text, also with blanks after it. -/
theorem parse?_render (hlayout : layout.IsBlank) {j : Json} (hj : j.Plain) {tail : Text}
    (htail : IsSpaces tail) : parse? (render layout 0 j ++ tail) = some j := by
  have hends : EndsNumber tail := by
    rw [← List.append_nil tail]
    exact endsNumber_append htail (by simp [EndsNumber])
  have hread := hj.readsBack hlayout 0 (2 * (render layout 0 j ++ tail).length + 2) tail
    (by rw [List.length_append]; omega) hends
  have hblank : skipSpace tail = [] := List.dropWhile_eq_nil_iff.mpr htail
  rw [parse?, hread]
  simp [hblank]

end RpcReference.Json
