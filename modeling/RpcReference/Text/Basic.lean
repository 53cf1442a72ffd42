import RpcReference.Text.Ranges
/-!
# Text

Text is a list of characters. This module holds the operations by which the library reads text:
trimming, cutting at a character, splitting, and stripping a given beginning. Each of the cutting
operations comes with the equation that says what it cut.
-/

namespace RpcReference

/-- Text as its characters in order. -/
abbrev Text := List Char

namespace Text

/-! ### Blanks -/

def blankRanges : Ranges := [
  (0x09, 0x0d), (0x20, 0x20), (0x85, 0x85), (0xa0, 0xa0), (0x1680, 0x1680), (0x2000, 0x200a),
  (0x2028, 0x2029), (0x202f, 0x202f), (0x205f, 0x205f), (0x3000, 0x3000)]

/-- White space in the sense of Unicode, which has more members than `Char.isWhitespace`. -/
def isBlank (c : Char) : Bool :=
  blankRanges.contains c

def IsBlank (t : Text) : Prop :=
  ∀ c ∈ t, isBlank c = true

instance (t : Text) : Decidable (IsBlank t) :=
  List.decidableBAll (isBlank · = true) t

/-! ### Trimming -/

/-- Drops the longest end whose characters all satisfy `p`. -/
def dropEndWhile (p : Char → Bool) (t : Text) : Text :=
  (t.reverse.dropWhile p).reverse

def trimWhile (p : Char → Bool) (t : Text) : Text :=
  dropEndWhile p (t.dropWhile p)

def trimStart (t : Text) : Text :=
  t.dropWhile isBlank

def trimEnd (t : Text) : Text :=
  dropEndWhile isBlank t

def trim (t : Text) : Text :=
  trimWhile isBlank t

/-! ### Cutting -/

/-- The rest of a text that begins with `start`. -/
def stripStart? : (start t : Text) → Option Text
  | [], t => some t
  | c :: start, d :: t => if c = d then stripStart? start t else none
  | _ :: _, [] => none

theorem stripStart?_eq_some_iff {start t rest : Text} :
    stripStart? start t = some rest ↔ t = start ++ rest := by
  induction start generalizing t with
  | nil => simp [stripStart?, eq_comm]
  | cons c start ih =>
    cases t with
    | nil => simp [stripStart?]
    | cons d t =>
      by_cases h : c = d
      · simp [stripStart?, h, ih]
      · simp [stripStart?, h, Ne.symm h]

def startsWith (t start : Text) : Bool :=
  start.isPrefixOf t

/-- The texts before and after the first `sep`, if there is one. -/
def cut? (sep : Char) : Text → Option (Text × Text)
  | [] => none
  | c :: t =>
    if c = sep then some ([], t)
    else (cut? sep t).map fun (before, after) => (c :: before, after)

theorem cut?_eq_some_iff {sep : Char} {t before after : Text} :
    cut? sep t = some (before, after) ↔ t = before ++ sep :: after ∧ sep ∉ before := by
  induction t generalizing before with
  | nil => simp [cut?]
  | cons c t ih =>
    by_cases h : c = sep
    · subst h
      cases before with
      | nil => simp [cut?]
      | cons b before => simp [cut?]; grind
    · cases before with
      | nil => simp [cut?, h]
      | cons b before => simp [cut?, h, ih]; grind

def cutLast? (sep : Char) (t : Text) : Option (Text × Text) :=
  (cut? sep t.reverse).map fun (after, before) => (before.reverse, after.reverse)

theorem cutLast?_eq_some_iff {sep : Char} {t before after : Text} :
    cutLast? sep t = some (before, after) ↔ t = before ++ sep :: after ∧ sep ∉ after := by
  have key : cutLast? sep t = some (before, after) ↔
      cut? sep t.reverse = some (after.reverse, before.reverse) := by
    unfold cutLast?
    cases cut? sep t.reverse with
    | none => simp
    | some p =>
      obtain ⟨a, b⟩ := p
      simp only [Option.map_some, Option.some.injEq, Prod.mk.injEq]
      constructor
      · rintro ⟨rfl, rfl⟩; simp
      · rintro ⟨rfl, rfl⟩; simp
  rw [key, cut?_eq_some_iff]
  constructor
  · rintro ⟨h, hs⟩
    refine ⟨?_, by simpa using hs⟩
    have := congrArg List.reverse h
    simpa using this
  · rintro ⟨rfl, hs⟩
    simp [hs]

/-- The text before the first `sep`, all of it if there is none. -/
def upTo (sep : Char) (t : Text) : Text :=
  t.takeWhile (· != sep)

/-! ### Splitting -/

/-- Puts a character in front of the first piece. -/
def extendHead (c : Char) : List Text → List Text
  | [] => [[c]]
  | piece :: pieces => (c :: piece) :: pieces

/-- The pieces between the characters that satisfy `p`: one piece more than such characters. -/
def splitWhere (p : Char → Bool) (t : Text) : List Text :=
  t.foldr (fun c pieces => if p c then [] :: pieces else extendHead c pieces) [[]]

def split (sep : Char) (t : Text) : List Text :=
  splitWhere (· == sep) t

/-- The maximal runs of characters that are not blank. -/
def words (t : Text) : List Text :=
  (splitWhere isBlank t).filter (! ·.isEmpty)

@[simp] theorem splitWhere_nil (p : Char → Bool) : splitWhere p [] = [[]] := rfl

theorem splitWhere_cons_sep {p : Char → Bool} {c : Char} (h : p c = true) (t : Text) :
    splitWhere p (c :: t) = [] :: splitWhere p t := by
  simp [splitWhere, h]

theorem splitWhere_cons_of_not {p : Char → Bool} {c : Char} (h : p c = false) (t : Text) :
    splitWhere p (c :: t) = extendHead c (splitWhere p t) := by
  simp [splitWhere, h]

theorem splitWhere_ne_nil (p : Char → Bool) (t : Text) : splitWhere p t ≠ [] := by
  cases t with
  | nil => simp
  | cons c t =>
    cases h : p c with
    | true => simp [splitWhere_cons_sep h]
    | false =>
      rw [splitWhere_cons_of_not h]
      cases splitWhere p t <;> simp [extendHead]

/-! ### Writing -/

def decimal (n : Nat) : Text :=
  Nat.toDigits 10 n

def join (sep : Text) (ts : List Text) : Text :=
  sep.intercalate ts

end Text

end RpcReference
