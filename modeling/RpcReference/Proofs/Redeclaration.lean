import RpcReference.Proofs.Steps
import RpcReference.Proofs.Tables
/-!
# Declaring a name again

Messages and enumerations are kept by name. Reading goes through the lines once and replaces what a
name stood for whenever the name is declared again. What comes out can be said without that run: the
names stand in the order of their first declarations, each of them has what its last declaration
says, and the lines that are reported as replacements are those whose name was declared above. Both
kinds go through one argument, which sees of a kind only what reading one line does to its table.
-/

namespace RpcReference.Source

open Text

/-- A kind of declaration that is kept by name. -/
structure Kind (α : Type) where
  keyword : Keyword
  /-- The name in the text behind the keyword, empty if there is none. -/
  name : Text → Text
  /-- What a line declares under its name. -/
  read : Site → Text → α
  /-- Where declarations of this kind are kept. -/
  table : Schema → Table α
  /-- The report of a line that declares a name again. -/
  replaced : Text → Concern

namespace Kind

variable {α : Type} {kind : Kind α}

def messages : Kind Message :=
  ⟨.message, messageName, readMessage, Schema.messages, .replacedMessage⟩

def enums : Kind Enumeration :=
  ⟨.enum, nameBeforeBrace, readEnum, Schema.enums, .replacedEnum⟩

/-! ### Names of lines -/

/-- The name that a line declares, if the line is of this kind and has a name. -/
def name? (kind : Kind α) (site : Site) : Option Text :=
  match declaration? site.line with
  | none => none
  | some (keyword, rest) =>
    if keyword = kind.keyword ∧ kind.name rest ≠ [] then some (kind.name rest) else none

theorem name?_of_undeclared {site : Site} (h : declaration? site.line = none) :
    kind.name? site = none := by
  rw [name?, h]

theorem name?_of_ne {site : Site} {keyword : Keyword} {rest : Text}
    (h : declaration? site.line = some (keyword, rest)) (hne : keyword ≠ kind.keyword) :
    kind.name? site = none := by
  rw [name?, h]
  exact if_neg fun hboth => hne hboth.1

theorem name?_of_nameless {site : Site} {rest : Text}
    (h : declaration? site.line = some (kind.keyword, rest)) (hname : kind.name rest = []) :
    kind.name? site = none := by
  rw [name?, h]
  exact if_neg fun hboth => hboth.2 hname

theorem name?_of_named {site : Site} {rest name : Text}
    (h : declaration? site.line = some (kind.keyword, rest)) (hname : kind.name rest = name)
    (hne : name ≠ []) : kind.name? site = some name := by
  subst hname
  rw [name?, h]
  exact if_pos ⟨rfl, hne⟩

theorem exists_of_name? {site : Site} {name : Text} (h : kind.name? site = some name) :
    ∃ rest, declaration? site.line = some (kind.keyword, rest) ∧ kind.name rest = name := by
  unfold name? at h
  split at h
  · cases h
  · next keyword rest hline =>
    split at h
    · next hboth =>
      cases h
      exact ⟨rest, hboth.1 ▸ hline, rfl⟩
    · cases h

/-! ### One line -/

/-- What reading a line does to the declarations of one kind: a line with a name inserts what it
declares, and is reported as a replacement if the name is in the table already. -/
structure Reads (kind : Kind α) (f : Findings) (site : Site) (g : Findings) : Prop where
  table : kind.table g.schema = (kind.name? site).elim (kind.table f.schema) fun name =>
    (kind.table f.schema).insert name (kind.read site name)
  notes : ∀ number name, ⟨number, kind.replaced name⟩ ∈ g.diagnostics ↔
    ⟨number, kind.replaced name⟩ ∈ f.diagnostics ∨
      number = site.number ∧ kind.name? site = some name ∧ name ∈ (kind.table f.schema).keys

variable {f g : Findings} {site : Site}

theorem Reads.of_unnamed (hname : kind.name? site = none)
    (htable : kind.table g.schema = kind.table f.schema)
    (hdiagnostics : g.diagnostics = f.diagnostics) : kind.Reads f site g := by
  refine ⟨by rw [htable, hname]; rfl, fun number name => ?_⟩
  simp [hdiagnostics, hname]

theorem Reads.of_reported {concern : Concern} (hname : kind.name? site = none)
    (htable : kind.table g.schema = kind.table f.schema)
    (hdiagnostics : g.diagnostics = f.diagnostics ++ [⟨site.number, concern⟩])
    (hconcern : ∀ name, kind.replaced name ≠ concern) : kind.Reads f site g := by
  refine ⟨by rw [htable, hname]; rfl, fun number name => ?_⟩
  simp [hdiagnostics, hname, hconcern]

theorem Reads.of_new {name : Text} (hname : kind.name? site = some name)
    (hnew : name ∉ (kind.table f.schema).keys)
    (htable : kind.table g.schema = (kind.table f.schema).insert name (kind.read site name))
    (hdiagnostics : g.diagnostics = f.diagnostics) : kind.Reads f site g := by
  refine ⟨by rw [htable, hname]; rfl, fun number other => ?_⟩
  rw [hdiagnostics, hname, Option.some.injEq]
  refine ⟨Or.inl, fun hor => hor.resolve_right ?_⟩
  rintro ⟨-, rfl, hmem⟩
  exact hnew hmem

theorem Reads.of_replaced {name : Text} (hname : kind.name? site = some name)
    (hold : name ∈ (kind.table f.schema).keys)
    (htable : kind.table g.schema = (kind.table f.schema).insert name (kind.read site name))
    (hdiagnostics : g.diagnostics = f.diagnostics ++ [⟨site.number, kind.replaced name⟩])
    (hinj : Function.Injective kind.replaced) : kind.Reads f site g := by
  refine ⟨by rw [htable, hname]; rfl, fun number other => ?_⟩
  rw [hdiagnostics, hname, List.mem_append, List.mem_singleton, Diagnostic.mk.injEq, hinj.eq_iff,
    Option.some.injEq]
  refine or_congr_right (and_congr_right fun _ => ?_)
  constructor
  · rintro rfl
    exact ⟨rfl, hold⟩
  · rintro ⟨rfl, -⟩
    rfl

theorem reads_messages (f : Findings) (site : Site) :
    Kind.messages.Reads f site (f.readLine site) := by
  have hstep := f.step_readLine site
  generalize f.readLine site = g at hstep
  cases hstep with
  | undeclared hline => exact .of_unnamed (name?_of_undeclared hline) rfl rfl
  | service hline | call hline _ _ | newEnum hline _ _ _ =>
    exact .of_unnamed (name?_of_ne hline (by decide)) rfl rfl
  | malformedCall hline _ | orphanCall hline _ _ | namelessEnum hline _ | replacedEnum hline _ _ _ =>
    exact .of_reported (name?_of_ne hline (by decide)) rfl rfl fun _ => Concern.noConfusion
  | namelessMessage hline hname =>
    exact .of_reported (name?_of_nameless hline hname) rfl rfl fun _ => Concern.noConfusion
  | newMessage hline hname hne hnew => exact .of_new (name?_of_named hline hname hne) hnew rfl rfl
  | replacedMessage hline hname hne hold =>
    exact .of_replaced (name?_of_named hline hname hne) hold rfl rfl fun _ _ =>
      Concern.replacedMessage.inj

theorem reads_enums (f : Findings) (site : Site) : Kind.enums.Reads f site (f.readLine site) := by
  have hstep := f.step_readLine site
  generalize f.readLine site = g at hstep
  cases hstep with
  | undeclared hline => exact .of_unnamed (name?_of_undeclared hline) rfl rfl
  | service hline | call hline _ _ | newMessage hline _ _ _ =>
    exact .of_unnamed (name?_of_ne hline (by decide)) rfl rfl
  | malformedCall hline _ | orphanCall hline _ _ | namelessMessage hline _
  | replacedMessage hline _ _ _ =>
    exact .of_reported (name?_of_ne hline (by decide)) rfl rfl fun _ => Concern.noConfusion
  | namelessEnum hline hname =>
    exact .of_reported (name?_of_nameless hline hname) rfl rfl fun _ => Concern.noConfusion
  | newEnum hline hname hne hnew => exact .of_new (name?_of_named hline hname hne) hnew rfl rfl
  | replacedEnum hline hname hne hold =>
    exact .of_replaced (name?_of_named hline hname hne) hold rfl rfl fun _ _ =>
      Concern.replacedEnum.inj

/-! ### All lines -/

def replacement (kind : Kind α) (name : Text) : Text :=
  kind.keyword.text ++ name ++ " replaces an earlier declaration".toList

/-- Reading begins with an empty table of this kind and treats every line as it should, and no other
concern is worded like a replacement. -/
structure Lawful (kind : Kind α) : Prop where
  empty : kind.table .empty = .empty
  reads : ∀ f site, kind.Reads f site (f.readLine site)
  wording : ∀ concern name, Concern.message concern = kind.replacement name ↔
    concern = kind.replaced name

/-- What a line adds to the table of its kind. -/
def pair? (kind : Kind α) (site : Site) : Option (Text × α) :=
  (kind.name? site).map fun name => (name, kind.read site name)

theorem map_fst_entries (kind : Kind α) (xs : List Site) :
    (xs.filterMap kind.pair?).map Prod.fst = xs.filterMap kind.name? := by
  rw [List.map_filterMap]
  refine List.filterMap_congr fun site _ => ?_
  rw [pair?, Option.map_map]
  exact Option.map_id'

theorem Lawful.table_foldl (hkind : kind.Lawful) (xs : List Site) :
    kind.table (xs.foldl Findings.readLine .empty).schema =
      Table.ofList (xs.filterMap kind.pair?) := by
  induction xs using List.reverseRecOn with
  | nil => exact hkind.empty
  | append_singleton xs site ih =>
    rw [List.foldl_append, List.foldl_cons, List.foldl_nil, (hkind.reads _ site).table, ih,
      List.filterMap_append]
    cases hname : kind.name? site with
    | none => simp [pair?, hname]
    | some name => simp [pair?, hname, Table.ofList_concat]

theorem Lawful.mem_keys_foldl (hkind : kind.Lawful) (xs : List Site) (name : Text) :
    name ∈ (kind.table (xs.foldl Findings.readLine .empty).schema).keys ↔
      ∃ site ∈ xs, kind.name? site = some name := by
  rw [hkind.table_foldl, Table.keys_ofList, List.mem_eraseDups, map_fst_entries,
    List.mem_filterMap]

theorem Lawful.replaced_mem_foldl (hkind : kind.Lawful) {xs : List Site}
    (hxs : xs.Pairwise fun first second => first.number < second.number)
    (number : Nat) (name : Text) :
    ⟨number, kind.replaced name⟩ ∈ (xs.foldl Findings.readLine .empty).diagnostics ↔
      ∃ site ∈ xs, site.number = number ∧ kind.name? site = some name ∧
        ∃ earlier ∈ xs, earlier.number < number ∧ kind.name? earlier = some name := by
  induction xs using List.reverseRecOn with
  | nil => simp [Findings.empty]
  | append_singleton xs last ih =>
    obtain ⟨hxs, -, hlast⟩ := List.pairwise_append.mp hxs
    have hbelow : ∀ site ∈ xs, site.number < last.number := fun site hsite =>
      hlast site hsite last (by simp)
    rw [List.foldl_append, List.foldl_cons, List.foldl_nil, (hkind.reads _ last).notes, ih hxs,
      hkind.mem_keys_foldl]
    constructor
    · rintro (⟨site, hsite, hnumber, hname, earlier, hearlier, hbefore⟩ | ⟨rfl, hname, hold⟩)
      · exact ⟨site, by simp [hsite], hnumber, hname, earlier, by simp [hearlier], hbefore⟩
      · obtain ⟨earlier, hearlier, hsame⟩ := hold
        exact ⟨last, by simp, rfl, hname, earlier, by simp [hearlier], hbelow _ hearlier, hsame⟩
    · -- An earlier line is never the last one, so only the place of the later line is open.
      rintro ⟨site, hsite, rfl, hname, earlier, hearlier, hbefore, hsame⟩
      have hle : site.number ≤ last.number := by
        rcases List.mem_append.mp hsite with hsite | hsite
        · exact Nat.le_of_lt (hbelow site hsite)
        · rw [List.mem_singleton.mp hsite]
      have hfirst : earlier ∈ xs := by
        rcases List.mem_append.mp hearlier with hmem | hmem
        · exact hmem
        · rw [List.mem_singleton.mp hmem] at hbefore
          omega
      rcases List.mem_append.mp hsite with hsite | hsite
      · exact Or.inl ⟨site, hsite, rfl, hname, earlier, hfirst, hbefore, hsame⟩
      · rw [List.mem_singleton.mp hsite] at hname ⊢
        exact Or.inr ⟨rfl, hname, earlier, hfirst, hsame⟩

/-! ### Whole files -/

/-- The names that the lines of a file declare, in order and with repetition. -/
def names (kind : Kind α) (source : Text) : List Text :=
  (sites (lines source)).filterMap kind.name?

/-- The last line of a file that declares the name. -/
def lastSite? (kind : Kind α) (source name : Text) : Option Site :=
  (sites (lines source)).reverse.find? fun site => kind.name? site = some name

/-- First declarations fix the order and last ones the values; the lines that are reported as
replacements are those whose name stands on a line above. -/
structure LastWins (kind : Kind α) (source : Text) : Prop where
  keys : (kind.table (findings source).schema).keys = (kind.names source).eraseDups
  values : ∀ name, (kind.table (findings source).schema).get? name =
    (kind.lastSite? source name).map fun site => kind.read site name
  replacements : ∀ number name,
    (∃ d ∈ (findings source).diagnostics, d.line = number ∧ d.message = kind.replacement name) ↔
      ∃ site ∈ sites (lines source), site.number = number ∧ kind.name? site = some name ∧
        ∃ earlier ∈ sites (lines source), earlier.number < number ∧ kind.name? earlier = some name

theorem find?_entries (kind : Kind α) (xs : List Site) (name : Text) :
    ((xs.filterMap kind.pair?).find? (·.1 = name)).map Prod.snd =
      (xs.find? fun site => kind.name? site = some name).map fun site => kind.read site name := by
  induction xs with
  | nil => rfl
  | cons site xs ih =>
    rw [List.filterMap_cons, List.find?_cons, pair?]
    cases hsite : kind.name? site with
    | none => simpa using ih
    | some first =>
      by_cases hfirst : first = name
      · simp [hfirst]
      · simpa [hfirst] using ih

theorem Lawful.lastWins (hkind : kind.Lawful) (source : Text) : kind.LastWins source where
  keys := by
    rw [findings_eq_foldl, hkind.table_foldl, Table.keys_ofList, map_fst_entries, names]
  values name := by
    rw [findings_eq_foldl, hkind.table_foldl, Table.get?_ofList, ← List.filterMap_reverse,
      find?_entries, lastSite?]
  replacements number name := by
    rw [← hkind.replaced_mem_foldl (pairwise_number_sites _), ← findings_eq_foldl]
    constructor
    · rintro ⟨⟨line, concern⟩, hmem, rfl, hmessage⟩
      rwa [← (hkind.wording concern name).mp hmessage]
    · intro hmem
      exact ⟨_, hmem, rfl, (hkind.wording _ name).mpr rfl⟩

/-- A name that some line declares stands for what one of the lines says. -/
theorem Lawful.exists_read_mem_values (hkind : kind.Lawful) {source : Text} {site : Site}
    {name : Text} (hsite : site ∈ sites (lines source)) (hname : kind.name? site = some name) :
    ∃ last, kind.read last name ∈ (kind.table (findings source).schema).values := by
  have hvalue := (hkind.lastWins source).values name
  cases hlast : kind.lastSite? source name with
  | none =>
    rw [lastSite?, List.find?_eq_none] at hlast
    exact absurd hname (by simpa using hlast site (List.mem_reverse.mpr hsite))
  | some last =>
    rw [hlast, Option.map_some] at hvalue
    exact ⟨last, Table.mem_values_of_get? hvalue⟩

/-! ### The two kinds -/

/-- The first character of a concern's wording. -/
def initial : Concern → Char
  | .malformedCall _ | .namelessMessage | .namelessEnum => 's'
  | .orphanCall _ => 'r'
  | .replacedMessage _ => 'm'
  | .replacedEnum _ => 'e'

theorem head?_message (concern : Concern) : concern.message.head? = some (initial concern) := by
  cases concern <;> rfl

theorem wording_of_initial (hreplaced : ∀ name, (kind.replaced name).message = kind.replacement name)
    (hinitial : ∀ concern name, initial concern = initial (kind.replaced name) →
      ∃ other, concern = kind.replaced other) (concern : Concern) (name : Text) :
    concern.message = kind.replacement name ↔ concern = kind.replaced name := by
  refine ⟨fun h => ?_, fun h => by rw [h, hreplaced]⟩
  have hhead : some (initial concern) = some (initial (kind.replaced name)) := by
    rw [← head?_message, ← head?_message, h, hreplaced]
  obtain ⟨other, rfl⟩ := hinitial concern name (Option.some.inj hhead)
  rw [hreplaced] at h
  rw [List.append_cancel_left (List.append_cancel_right h)]

theorem lawful_messages : Kind.messages.Lawful where
  empty := rfl
  reads := reads_messages
  wording := by
    refine wording_of_initial (fun _ => rfl) fun concern name hinitial => ?_
    cases concern with
    | replacedMessage other => exact ⟨other, rfl⟩
    | malformedCall | orphanCall | namelessMessage | namelessEnum | replacedEnum =>
      simp [messages, initial] at hinitial

theorem lawful_enums : Kind.enums.Lawful where
  empty := rfl
  reads := reads_enums
  wording := by
    refine wording_of_initial (fun _ => rfl) fun concern name hinitial => ?_
    cases concern with
    | replacedEnum other => exact ⟨other, rfl⟩
    | malformedCall | orphanCall | namelessMessage | replacedMessage | namelessEnum =>
      simp [enums, initial] at hinitial

end Kind

/-- Messages and enumerations each keep the order of first declarations and the content of last
ones. A message and an enumeration of one name do not meet. The fields of a message come from the
lines below its last line, unless that line holds a closing brace; an enumeration has the comment
above its last line, and the values on that line or below it. -/
theorem lastWins_messages_enums (source : Text) :
    Kind.messages.LastWins source ∧ Kind.enums.LastWins source ∧
    (∀ name, (findings source).schema.messages.get? name =
      (Kind.messages.lastSite? source name).map fun site =>
        { name, fields := if '}' ∈ site.line then [] else bodyFields site.below }) ∧
    ∀ name, (findings source).schema.enums.get? name =
      (Kind.enums.lastSite? source name).map fun site =>
        { name
          comment := joinFragments (commentAbove .line site.above)
          values := enumValues site.line site.below } := by
  have hmessages := Kind.lawful_messages.lastWins source
  have henums := Kind.lawful_enums.lastWins source
  refine ⟨hmessages, henums, fun name => ?_, henums.values⟩
  refine (hmessages.values name).trans (Option.map_congr fun site _ => ?_)
  change readMessage site name = _
  simp only [readMessage, List.contains_iff_mem]

end RpcReference.Source
