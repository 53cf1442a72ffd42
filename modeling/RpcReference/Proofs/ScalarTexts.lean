import Mathlib.Data.List.Infix
import RpcReference.Yaml.Lexer
/-!
# Texts as scalars

Two ways to write a text on one line so that YAML gives it back. Between double quotes every text
can stand, with a backslash in front of quotes and backslashes. As a plain scalar a text can stand
as it is if nothing in it means something else: no indicator at its beginning, no colon in front of
a blank or at the end, and no number sign behind a blank.
-/

namespace RpcReference.Yaml

open Text

/-! ### Marks -/

@[simp] theorem Mark.forward_forward (mark : Mark) (m n : Nat) :
    (mark.forward m).forward n = mark.forward (m + n) := by
  simp [Mark.forward, Nat.add_assoc]

@[simp] theorem Mark.forward_zero (mark : Mark) : mark.forward 0 = mark := rfl

@[simp] theorem Mark.forward_column (mark : Mark) (n : Nat) :
    (mark.forward n).column = mark.column + n := rfl

theorem Mark.over_of_not_break {c : Char} (hc : isBreak c = false) (mark : Mark) :
    mark.over c = mark.forward 1 := by
  rw [Mark.over, hc]
  rfl

theorem Mark.atLimit_of_pos {mark : Mark} (h : 0 < mark.column) (t : Text) :
    mark.atLimit t = false := by
  rw [Mark.atLimit, beq_false_of_ne (Nat.ne_of_gt h), Bool.false_and]

/-- The place after the characters of a text. -/
def Mark.past (mark : Mark) (t : Text) : Mark :=
  t.foldl Mark.over mark

@[simp] theorem Mark.past_nil (mark : Mark) : mark.past [] = mark := rfl

@[simp] theorem Mark.past_cons (mark : Mark) (c : Char) (t : Text) :
    mark.past (c :: t) = (mark.over c).past t := rfl

@[simp] theorem Scanned.after_nil (s : Scanned Text) : s.after [] = s := rfl

/-! ### Characters -/

theorem isWhite_eq {c : Char} (hc : isBreak c = false) : isWhite c = isSpaceOrTab c := by
  rw [isWhite, hc, Bool.or_false]

/-- The text stands on one line. -/
def Unbroken (t : Text) : Prop :=
  ∀ c ∈ t, isBreak c = false

instance (t : Text) : Decidable (Unbroken t) :=
  List.decidableBAll (isBreak · = false) t

/-! ### Double quotes -/

def escaped (c : Char) : Text :=
  if c = '"' ∨ c = '\\' then ['\\', c] else [c]

def doubleQuoted (t : Text) : Text :=
  '"' :: (t.flatMap escaped ++ ['"'])

theorem QuoteState.read?_text {c : Char} (hbreak : isBreak c = false) (blanks : Text) :
    QuoteState.read? (.text (.inline blanks)) c =
      if isSpaceOrTab c then some (.next [] (.text (.inline (blanks ++ [c]))))
      else if c = '"' then some (.close blanks)
      else if c = '\\' then some (.next blanks .escape)
      else some (.next (blanks ++ [c]) (.text .empty)) := by
  simp only [QuoteState.read?, isWhite_eq hbreak, Gap.add, hbreak, Bool.false_eq_true, if_false]
  rfl

/-- A character without a special meaning is kept, at once or with the blanks that it belongs to. -/
theorem QuoteState.exists_read?_text {c : Char} (hbreak : isBreak c = false)
    (hescape : ¬ (c = '"' ∨ c = '\\')) (blanks : Text) :
    ∃ text kept, text ++ kept = blanks ++ [c] ∧
      QuoteState.read? (.text (.inline blanks)) c = some (.next text (.text (.inline kept))) := by
  obtain ⟨hquote, hbackslash⟩ := not_or.mp hescape
  rw [QuoteState.read?_text hbreak]
  cases isSpaceOrTab c with
  | true => exact ⟨[], blanks ++ [c], rfl, rfl⟩
  | false =>
    rw [if_neg Bool.false_ne_true, if_neg hquote, if_neg hbackslash]
    exact ⟨blanks ++ [c], [], List.append_nil _, rfl⟩

theorem doubleQuoted?_next {state next : QuoteState} {mark : Mark} {c : Char} {text rest : Text}
    (hmark : 0 < mark.column) (hbreak : isBreak c = false)
    (hread : state.read? c = some (.next text next)) :
    doubleQuoted? state mark (c :: rest) =
      (doubleQuoted? next (mark.forward 1) rest).map (·.after text) := by
  rw [doubleQuoted?, Mark.atLimit_of_pos hmark, if_neg Bool.false_ne_true, hread,
    Mark.over_of_not_break hbreak]

/-- Between double quotes a text is read back, whatever stands behind them. -/
theorem doubleQuoted?_escaped {t : Text} (ht : Unbroken t) (blanks : Text) {mark : Mark}
    (hmark : 0 < mark.column) (rest : Text) :
    doubleQuoted? (.text (.inline blanks)) mark (t.flatMap escaped ++ '"' :: rest) =
      some ⟨blanks ++ t, mark.forward ((t.flatMap escaped).length + 1), rest⟩ := by
  induction t generalizing blanks mark with
  | nil =>
    rw [List.flatMap_nil, List.nil_append, doubleQuoted?, Mark.atLimit_of_pos hmark,
      if_neg Bool.false_ne_true, QuoteState.read?_text rfl, List.append_nil]
    rfl
  | cons c t ih =>
    obtain ⟨hbreak, ht⟩ := List.forall_mem_cons.mp ht
    have hmark' (n : Nat) : 0 < (mark.forward (n + 1)).column := Nat.succ_pos _
    rw [List.flatMap_cons, List.append_assoc]
    by_cases hescape : c = '"' ∨ c = '\\'
    · have hbackslash : QuoteState.read? (.text (.inline blanks)) '\\' =
          some (.next blanks .escape) := QuoteState.read?_text rfl blanks
      have hread : QuoteState.escape.read? c = some (.next [c] (.text (.inline []))) := by
        obtain rfl | rfl := hescape <;> rfl
      have hescaped : escaped c = ['\\', c] := if_pos hescape
      have hlength : 1 + 1 + ((t.flatMap escaped).length + 1) =
          ('\\' :: c :: t.flatMap escaped).length + 1 := by
        rw [List.length_cons, List.length_cons]
        omega
      rw [hescaped, List.cons_append, doubleQuoted?_next hmark rfl hbackslash,
        List.singleton_append, doubleQuoted?_next (hmark' 0) hbreak hread, Mark.forward_forward,
        ih ht _ (hmark' 1), Mark.forward_forward, hlength]
      rfl
    · obtain ⟨text, kept, htext, hread⟩ := QuoteState.exists_read?_text hbreak hescape blanks
      have hescaped : escaped c = [c] := if_neg hescape
      have hlength : 1 + ((t.flatMap escaped).length + 1) = (c :: t.flatMap escaped).length + 1 :=
        Nat.add_comm _ _
      rw [hescaped, List.singleton_append, doubleQuoted?_next hmark hbreak hread,
        ih ht _ (hmark' 0), Mark.forward_forward, hlength, Option.map_some, Scanned.after,
        ← List.append_assoc, htext, List.append_assoc]
      rfl

/-! ### Plain scalars -/

/-- A plain scalar may begin like the text. -/
def BeginsPlain : Text → Prop
  | [] => True
  | c :: rest => isSpaceOrTab c = false ∧
    (Lexer.isIndicator c = true → c ∈ ['-', '?', ':'] ∧ rest.head?.any (! isSpaceOrTab ·) = true)

instance : (t : Text) → Decidable (BeginsPlain t)
  | [] => .isTrue trivial
  | c :: rest => inferInstanceAs (Decidable (isSpaceOrTab c = false ∧ (Lexer.isIndicator c = true →
      c ∈ ['-', '?', ':'] ∧ rest.head?.any (! isSpaceOrTab ·) = true)))

/-- No blank behind a colon or in front of a number sign. -/
def InsidePlain (t : Text) : Prop :=
  ∀ blank ∈ [' ', '\t'], ¬ [':', blank] <:+: t ∧ ¬ [blank, '#'] <:+: t

instance (t : Text) : Decidable (InsidePlain t) :=
  List.decidableBAll (fun blank => ¬ [':', blank] <:+: t ∧ ¬ [blank, '#'] <:+: t) [' ', '\t']

/-- A plain scalar may end like the text. -/
def EndsPlain (t : Text) : Prop :=
  ∀ c ∈ t.getLast?, c ∉ [' ', '\t', ':']

instance (t : Text) : Decidable (EndsPlain t) :=
  Option.decidableForallMem t.getLast?

/-- The text is written as a plain scalar outside of flow collections by itself. -/
structure IsPlainText (t : Text) : Prop where
  unbroken : Unbroken t
  begins : BeginsPlain t
  inside : InsidePlain t
  ends : EndsPlain t

theorem isPlainText_iff {t : Text} :
    IsPlainText t ↔ Unbroken t ∧ BeginsPlain t ∧ InsidePlain t ∧ EndsPlain t :=
  ⟨fun h => ⟨h.unbroken, h.begins, h.inside, h.ends⟩, fun ⟨hu, hb, hi, he⟩ => ⟨hu, hb, hi, he⟩⟩

instance (t : Text) : Decidable (IsPlainText t) :=
  decidable_of_iff _ isPlainText_iff.symm

/-- What remains of a plain scalar behind blanks. -/
structure GoesOn (blanks t : Text) : Prop where
  unbroken : Unbroken t
  inside : InsidePlain t
  ends : EndsPlain t
  behindBlanks : blanks ≠ [] → t.head? ≠ some '#'
  complete : t = [] → blanks = []

theorem IsPlainText.goesOn {t : Text} (ht : IsPlainText t) : GoesOn [] t where
  unbroken := ht.unbroken
  inside := ht.inside
  ends := ht.ends
  behindBlanks h := absurd rfl h
  complete _ := rfl

theorem mem_blanks_iff {c : Char} : c ∈ [' ', '\t'] ↔ isSpaceOrTab c = true := by
  simp [isSpaceOrTab]

namespace GoesOn

variable {blanks t : Text} {c : Char}

theorem inside_tail (h : GoesOn blanks (c :: t)) : InsidePlain t := by
  intro blank hblank
  obtain ⟨hcolon, hsign⟩ := h.inside blank hblank
  exact ⟨fun hinfix => hcolon (List.infix_cons hinfix),
    fun hinfix => hsign (List.infix_cons hinfix)⟩

theorem ends_tail (h : GoesOn blanks (c :: t)) : EndsPlain t := by
  intro d hd
  refine h.ends d ?_
  rw [Option.mem_def] at hd ⊢
  rw [List.getLast?_cons, hd, Option.getD_some]

theorem of_cons_blank (h : GoesOn blanks (c :: t)) (hc : isSpaceOrTab c = true) :
    GoesOn (blanks ++ [c]) t := by
  refine ⟨(List.forall_mem_cons.mp h.unbroken).2, h.inside_tail, h.ends_tail, fun _ hsign => ?_, ?_⟩
  · obtain ⟨rest, rfl⟩ := List.head?_eq_some_iff.mp hsign
    exact (h.inside c (mem_blanks_iff.mpr hc)).2 ⟨[], rest, rfl⟩
  · rintro rfl
    refine absurd (mem_blanks_iff.mpr hc) fun hmem => h.ends c rfl ?_
    exact List.mem_append_left [':'] hmem

theorem of_cons (h : GoesOn blanks (c :: t)) : GoesOn [] t where
  unbroken := (List.forall_mem_cons.mp h.unbroken).2
  inside := h.inside_tail
  ends := h.ends_tail
  behindBlanks h := absurd rfl h
  complete _ := rfl

theorem not_atWhite (h : GoesOn blanks (':' :: t)) (after : Text) :
    atWhite (t ++ after) = false := by
  cases t with
  | nil => exact absurd (h.ends ':' rfl) (by decide)
  | cons d t =>
    have hbreak : isBreak d = false := h.unbroken d (List.mem_cons_of_mem _ List.mem_cons_self)
    change isWhite d = false
    rw [isWhite_eq hbreak, Bool.eq_false_iff]
    intro hblank
    exact (h.inside d (mem_blanks_iff.mpr hblank)).1 ⟨[], t, rfl⟩

end GoesOn

section

variable {context : PlainContext} {mark : Mark}

/-- The characters of a plain scalar are read one by one. -/
theorem plain?_text (hflow : context.flow = false) {blanks t : Text} (ht : GoesOn blanks t)
    (hindent : context.indent ≤ mark.column + 1)
    (hblanks : blanks ≠ [] → 0 < mark.column ∧ context.indent ≤ mark.column) (after : Text) :
    plain? context (.inline blanks) mark (t ++ after) =
      (plain? context .empty (mark.forward t.length) after).map fun (scanned, broken) =>
        (scanned.after (blanks ++ t), broken) := by
  -- Blanks are held back until another character gives them out, so the induction carries them.
  induction t generalizing blanks mark with
  | nil =>
    obtain rfl := ht.complete rfl
    simp [Gap.empty]
  | cons c t ih =>
    have hbreak : isBreak c = false := (List.forall_mem_cons.mp ht.unbroken).1
    have hindent' : context.indent ≤ (mark.forward 1).column + 1 := Nat.le_succ_of_le hindent
    have hmark : mark.forward (c :: t).length = (mark.forward 1).forward t.length := by
      rw [Mark.forward_forward, List.length_cons, Nat.add_comm]
    rw [List.cons_append, plain?, isWhite_eq hbreak, hmark]
    cases hblank : isSpaceOrTab c with
    | true =>
      have htab : context.refusesTab (.inline blanks) mark c = false := rfl
      have hgap : Gap.add (.inline blanks) c = .inline (blanks ++ [c]) := by
        rw [Gap.add, hbreak]
        rfl
      rw [if_pos rfl, htab, if_neg Bool.false_ne_true, hgap, Mark.over_of_not_break hbreak,
        ih (ht.of_cons_blank hblank) hindent' (fun _ => ⟨Nat.succ_pos _, hindent⟩)]
      simp only [List.append_assoc, List.singleton_append]
    | false =>
      have hstops : context.stops (.inline blanks) mark c (t ++ after) = false := by
        have hcolon : (c == ':' && atWhite (t ++ after)) = false := by
          by_cases hc : c = ':'
          · subst hc
            rw [ht.not_atWhite, Bool.and_false]
          · rw [beq_false_of_ne hc, Bool.false_and]
        have hgap : (!(Gap.inline blanks).isEmpty && (c == '#' ||
            !context.flow && mark.column < context.indent || mark.atLimit (c :: (t ++ after)))) =
              false := by
          by_cases hempty : blanks = []
          · subst hempty
            rfl
          · obtain ⟨hpos, hcolumn⟩ := hblanks hempty
            have hsign : c ≠ '#' := fun hc => ht.behindBlanks hempty (congrArg some hc)
            rw [beq_false_of_ne hsign, Mark.atLimit_of_pos hpos, hflow]
            simp [hcolumn]
        rw [PlainContext.stops, hgap, hcolon, hflow]
        rfl
      have hrefuses : context.refuses c (t ++ after) = false := by
        rw [PlainContext.refuses, hflow]
        rfl
      have hempty : Gap.empty = .inline [] := rfl
      rw [if_neg Bool.false_ne_true, hstops, if_neg Bool.false_ne_true, hrefuses,
        if_neg Bool.false_ne_true, hempty,
        ih ht.of_cons hindent' (fun h => absurd rfl h), Option.map_map]
      refine congrArg (Option.map · _) (funext fun result => ?_)
      simp [Scanned.after, Gap.text]

/-- Spaces and line ends. -/
def IsSpacing (t : Text) : Prop :=
  ∀ c ∈ t, c = ' ' ∨ c = '\n'

instance (t : Text) : Decidable (IsSpacing t) :=
  List.decidableBAll (fun c => c = ' ' ∨ c = '\n') t

/-- A plain scalar ends before a line that is not indented enough. -/
theorem plain?_spacing (hflow : context.flow = false) {spacing next : Text}
    (hspacing : IsSpacing spacing) (gap : Gap)
    (hnext : next = [] ∨ (gap.isBroken = true ∨ '\n' ∈ spacing) ∧ atWhite next = false ∧
      (mark.past spacing).column < context.indent) :
    plain? context gap mark (spacing ++ next) =
      some (⟨[], mark.past spacing, next⟩, gap.isBroken || spacing.contains '\n') := by
  -- Whether a line has ended is kept in the gap, which grows with each character.
  induction spacing generalizing gap mark with
  | nil =>
    rw [List.nil_append, Mark.past_nil, List.contains_nil, Bool.or_false]
    obtain rfl | ⟨hbroken, hwhite, hcolumn⟩ := hnext
    · rfl
    · obtain ⟨c, next, rfl⟩ : ∃ c t, next = c :: t :=
        List.exists_cons_of_ne_nil fun h => by simp [h, atWhite] at hwhite
      have hgap : gap.isBroken = true := hbroken.resolve_right List.not_mem_nil
      obtain ⟨first, later, rfl⟩ : ∃ first later, gap = .broken first later := by
        cases gap with
        | inline blanks => cases hgap
        | broken first later => exact ⟨first, later, rfl⟩
      have hstops : context.stops (.broken first later) mark c next = true := by
        rw [Mark.past_nil] at hcolumn
        simp [PlainContext.stops, Gap.isEmpty, hflow, hcolumn]
      have hc : isWhite c = false := hwhite
      rw [plain?, hc, if_neg Bool.false_ne_true, hstops, if_pos rfl]
  | cons c spacing ih =>
    obtain ⟨hc, hspacing⟩ := List.forall_mem_cons.mp hspacing
    have hwhite : isWhite c = true := by obtain rfl | rfl := hc <;> rfl
    have htab : context.refusesTab gap mark c = false := by
      have hne : c ≠ '\t' := by obtain rfl | rfl := hc <;> decide
      rw [PlainContext.refusesTab, beq_false_of_ne hne, Bool.and_false]
    have hbroken : (gap.add c).isBroken = (gap.isBroken || c == '\n') := by
      obtain rfl | rfl := hc <;> cases gap <;> rfl
    rw [List.cons_append, plain?, hwhite, if_pos rfl, htab, if_neg Bool.false_ne_true,
      ih hspacing (gap.add c) ?_, hbroken, Mark.past_cons, List.contains_cons, Bool.or_assoc]
    · simp [BEq.comm]
    · refine hnext.imp_right (And.imp_left fun hbreak => ?_)
      rw [hbroken]
      simp only [Bool.or_eq_true, beq_iff_eq, List.mem_cons] at hbreak ⊢
      tauto

end

end RpcReference.Yaml
