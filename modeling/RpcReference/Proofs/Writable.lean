import RpcReference.Proofs.Text
import RpcReference.Source.Findings
/-!
# Schemas that can be written down

A definition file has no quoting, so not every schema can be put into one. This module says which
can: names are made of letters, digits, underscores and dots, the first word of a line inside a body
is not a word that begins some other statement, and comments and commands are single lines that lose
nothing when comment marks are taken off them. Each condition can be decided.
-/

namespace RpcReference

open Text Source

/-! ### Names -/

/-- A character of an identifier, or the dot between the identifiers of a full type name. -/
def isNameChar (c : Char) : Bool :=
  c.isAlphanum || c == '_' || c == '.'

/-- An identifier, or identifiers joined by dots. -/
def IsName (t : Text) : Prop :=
  t ≠ [] ∧ ∀ c ∈ t, isNameChar c = true

instance (t : Text) : Decidable (IsName t) :=
  decidable_of_iff (t ≠ [] ∧ t.all isNameChar = true) (by rw [IsName, List.all_eq_true])

theorem toNat_of_isNameChar {c : Char} (hc : isNameChar c = true) :
    46 ≤ c.toNat ∧ c.toNat ≤ 122 := by
  change (((decide (65 ≤ c.val ∧ c.val ≤ 90) || (97 ≤ c.val && c.val ≤ 122)) ||
    (48 ≤ c.val && c.val ≤ 57)) || c == '_' || c == '.') = true at hc
  simp only [Bool.or_eq_true, Bool.and_eq_true, decide_eq_true_eq, UInt32.le_iff_toNat_le,
    beq_iff_eq] at hc
  change (((65 ≤ c.toNat ∧ c.toNat ≤ 90 ∨ 97 ≤ c.toNat ∧ c.toNat ≤ 122) ∨
    48 ≤ c.toNat ∧ c.toNat ≤ 57) ∨ c = '_') ∨ c = '.' at hc
  rcases hc with (h | rfl) | rfl
  · omega
  · decide
  · decide

theorem isBlank_of_isNameChar {c : Char} (hc : isNameChar c = true) : isBlank c = false := by
  have hname := toNat_of_isNameChar hc
  have hblanks : ∀ range ∈ blankRanges, range.2 < 46 ∨ 122 < range.1 := by decide
  rw [Bool.eq_false_iff]
  intro hblank
  obtain ⟨range, hmem, hlow, hhigh⟩ := (Ranges.contains_iff blankRanges c).1 hblank
  have := hblanks range hmem
  omega

namespace IsName

variable {t : Text} (ht : IsName t)

include ht

theorem not_blank : ∀ c ∈ t, isBlank c = false :=
  fun c hc => isBlank_of_isNameChar (ht.2 c hc)

theorem not_mem {c : Char} (hc : isNameChar c = false) : c ∉ t := by
  intro hmem
  rw [ht.2 c hmem] at hc
  cases hc

theorem not_commentMark : ∀ c ∈ t, isCommentMark c = false := by
  intro c hc
  have hblank := ht.not_blank c hc
  have hstar : c ≠ '*' := fun heq => ht.not_mem (by decide) (heq ▸ hc)
  have hslash : c ≠ '/' := fun heq => ht.not_mem (by decide) (heq ▸ hc)
  simp [isCommentMark, hblank, hstar, hslash]

theorem trim_eq : trim t = t :=
  trimWhile_eq_self_of_forall ht.not_blank

end IsName

theorem isName_decimal (n : Nat) : IsName (decimal n) := by
  refine ⟨Nat.toDigits_ne_nil, fun c hc => ?_⟩
  have hdigit : c.isDigit = true := Nat.isDigit_of_mem_toDigits (by decide) (by decide) hc
  simp [isNameChar, Char.isAlphanum, hdigit]

/-! ### Comments and commands -/

/-- A comment on a single line, without comment marks at its ends. It may be empty. -/
def IsRemark (t : Text) : Prop :=
  '\n' ∉ t ∧ commentText t = t

instance (t : Text) : Decidable (IsRemark t) :=
  inferInstanceAs (Decidable (_ ∧ _))

/-- A command that does not end in a comment mark. It may begin with one. -/
def IsCommand (t : Text) : Prop :=
  t ≠ [] ∧ dropEndWhile isCommentMark t = t

instance (t : Text) : Decidable (IsCommand t) :=
  inferInstanceAs (Decidable (_ ∧ _))

/-! ### Declarations -/

/-- Words that cannot be the type of a field, since they begin another statement or are labels. -/
def reservedTypes : List Text :=
  ["service".toList, "rpc".toList, "message".toList, "enum".toList, "oneof".toList,
    "reserved".toList, "option".toList, "extensions".toList, "repeated".toList,
    "optional".toList, "required".toList]

/-- Words that cannot be a value of an enumeration, since they begin another statement. -/
def reservedValues : List Text :=
  ["service".toList, "rpc".toList, "message".toList, "enum".toList, "option".toList,
    "reserved".toList]

/-- The field can be written on a line of its own, with its comment above it. -/
structure Field.Writable (field : Field) : Prop where
  name : IsName field.name
  type : IsName field.type
  type_not_reserved : field.type ∉ reservedTypes
  key : ∀ key ∈ field.key, IsName key
  not_both : field.repeated = true → field.key = none
  comment : IsRemark field.comment

instance (field : Field) : Decidable field.Writable :=
  decidable_of_iff (IsName field.name ∧ IsName field.type ∧ field.type ∉ reservedTypes ∧
      (∀ key ∈ field.key, IsName key) ∧ (field.repeated = true → field.key = none) ∧
      IsRemark field.comment)
    ⟨fun ⟨h₁, h₂, h₃, h₄, h₅, h₆⟩ => ⟨h₁, h₂, h₃, h₄, h₅, h₆⟩,
      fun ⟨h₁, h₂, h₃, h₄, h₅, h₆⟩ => ⟨h₁, h₂, h₃, h₄, h₅, h₆⟩⟩

structure Message.Writable (message : Message) : Prop where
  name : IsName message.name
  fields : ∀ field ∈ message.fields, field.Writable

instance (message : Message) : Decidable message.Writable :=
  decidable_of_iff (IsName message.name ∧ ∀ field ∈ message.fields, field.Writable)
    ⟨fun ⟨hname, hfields⟩ => ⟨hname, hfields⟩, fun ⟨hname, hfields⟩ => ⟨hname, hfields⟩⟩

/-- The enumeration can be written, with its comment above it. -/
structure Enumeration.Writable (enum : Enumeration) : Prop where
  name : IsName enum.name
  values : ∀ value ∈ enum.values, IsName value ∧ value ∉ reservedValues
  comment : IsRemark enum.comment

instance (enum : Enumeration) : Decidable enum.Writable :=
  decidable_of_iff (IsName enum.name ∧
      (∀ value ∈ enum.values, IsName value ∧ value ∉ reservedValues) ∧ IsRemark enum.comment)
    ⟨fun ⟨hname, hvalues, hcomment⟩ => ⟨hname, hvalues, hcomment⟩,
      fun ⟨hname, hvalues, hcomment⟩ => ⟨hname, hvalues, hcomment⟩⟩

/-- The call can be written, with its comment and its commands in a block above it. A comment that
looks like a command would become one. -/
structure Call.Writable (call : Call) : Prop where
  name : IsName call.name
  request : IsName call.request
  response : IsName call.response
  comment : IsRemark call.comment
  comment_not_shell : call.comment.startsWith shellMark = false
  shell : ∀ commands ∈ call.shell, ∀ command ∈ split '\n' commands, IsCommand command

instance (call : Call) : Decidable call.Writable :=
  decidable_of_iff (IsName call.name ∧ IsName call.request ∧ IsName call.response ∧
      IsRemark call.comment ∧ call.comment.startsWith shellMark = false ∧
      ∀ commands ∈ call.shell, ∀ command ∈ split '\n' commands, IsCommand command)
    ⟨fun ⟨h₁, h₂, h₃, h₄, h₅, h₆⟩ => ⟨h₁, h₂, h₃, h₄, h₅, h₆⟩,
      fun ⟨h₁, h₂, h₃, h₄, h₅, h₆⟩ => ⟨h₁, h₂, h₃, h₄, h₅, h₆⟩⟩

/-- The service can be written, with its comment above it. -/
structure Service.Writable (service : Service) : Prop where
  name : IsName service.name
  comment : IsRemark service.comment
  calls : ∀ call ∈ service.calls, call.Writable

instance (service : Service) : Decidable service.Writable :=
  decidable_of_iff (IsName service.name ∧ IsRemark service.comment ∧
      ∀ call ∈ service.calls, call.Writable)
    ⟨fun ⟨hname, hcomment, hcalls⟩ => ⟨hname, hcomment, hcalls⟩,
      fun ⟨hname, hcomment, hcalls⟩ => ⟨hname, hcomment, hcalls⟩⟩

/-- The schema can be written. Its tables list each message and each enumeration under its name. -/
structure Schema.Writable (schema : Schema) : Prop where
  services : ∀ service ∈ schema.services, service.Writable
  messages : ∀ entry ∈ schema.messages.entries, entry.1 = entry.2.name ∧ entry.2.Writable
  enums : ∀ entry ∈ schema.enums.entries, entry.1 = entry.2.name ∧ entry.2.Writable

instance (schema : Schema) : Decidable schema.Writable :=
  decidable_of_iff ((∀ service ∈ schema.services, service.Writable) ∧
      (∀ entry ∈ schema.messages.entries, entry.1 = entry.2.name ∧ entry.2.Writable) ∧
      ∀ entry ∈ schema.enums.entries, entry.1 = entry.2.name ∧ entry.2.Writable)
    ⟨fun ⟨hservices, hmessages, henums⟩ => ⟨hservices, hmessages, henums⟩,
      fun ⟨hservices, hmessages, henums⟩ => ⟨hservices, hmessages, henums⟩⟩

end RpcReference
