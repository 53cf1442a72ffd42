import RpcReference.Proofs.ValueTexts
/-!
# Mappings line by line

A mapping is written entry by entry: the key begins a line, behind its colon stands the value, and
there may be spaces and empty lines between an entry and the next one. If each value by itself gives
the tokens of its node, then the text is read as the mapping.
-/

namespace RpcReference.Yaml

open Text Lexer

/-! ### Values behind a key -/

/-- Behind a key the text gives the tokens, in front of the line of the next key. -/
def ReadsBefore (text : Text) (tokens : List Token) : Prop :=
  ∀ ⦃gap : Text⦄ ⦃c : Char⦄, IsSpacing gap → StartsToken 0 c → ∀ rest column before,
    View.Leads ⟨text ++ (gap ++ '\n' :: c :: rest), column, [0], 0, false, before⟩
      ⟨c :: rest, 0, [0], 0, true, before ++ tokens⟩

/-- Behind a key the text gives the tokens, where nothing but spaces and line ends follows. -/
def ReadsLast (text : Text) (tokens : List Token) : Prop :=
  ∀ ⦃gap : Text⦄, IsSpacing gap → ∀ column before, ∃ column' keyAllowed,
    View.Leads ⟨text ++ gap, column, [0], 0, false, before⟩
      ⟨[], column', [0], 0, keyAllowed, before ++ tokens⟩

/-- Behind a key the text gives the tokens, whatever follows. -/
def ReadsAlone (text : Text) (tokens : List Token) : Prop :=
  ∀ rest column before, ∃ column',
    View.Leads ⟨text ++ rest, column, [0], 0, false, before⟩
      ⟨rest, column', [0], 0, false, before ++ tokens⟩

variable {text t : Text} {tokens : List Token}

theorem ReadsAlone.readsBefore (h : ReadsAlone text tokens) : ReadsBefore text tokens := by
  intro gap c hgap hc rest column before
  obtain ⟨column', hleads⟩ := h (gap ++ '\n' :: c :: rest) column before
  exact hleads.trans (leads_line hgap 0 (c :: rest) column' [0] false _)

theorem ReadsAlone.readsLast (h : ReadsAlone text tokens) : ReadsLast text tokens := by
  intro gap hgap column before
  obtain ⟨column', hleads⟩ := h (gap ++ []) column before
  have hend := hleads.trans (leads_spacing hgap [] column' [0] false _)
  rw [List.append_nil] at hend
  exact ⟨_, _, hend⟩

theorem readsAlone_doubleQuoted (ht : Unbroken t) :
    ReadsAlone (' ' :: doubleQuoted t) [.scalar t .doubleQuoted] := fun rest column before =>
  ⟨_, (leads_space (doubleQuoted t ++ rest) column [0] 0 false before).trans
    (leads_doubleQuoted ht (.inr (by simp)) (.inl rfl))⟩

theorem readsAlone_flowSequence {items : List FlowItem}
    (hitems : ∀ item ∈ items, Unbroken item.text) (blanks : Nat) :
    ReadsAlone (' ' :: flowSequence blanks items)
      (flowTokens .doubleQuoted (items.map (·.text))) := by
  intro rest column before
  obtain ⟨column', hleads⟩ := leads_flowSequence hitems blanks rest (column + 1) [0] (by simp)
    before
  exact ⟨column', (leads_space _ column [0] 0 false before).trans hleads⟩

theorem readsBefore_plain (ht : t = [] ∨ IsPlainText t) :
    ReadsBefore (' ' :: t) (plainTokens t) := fun _ _ hgap hc rest column before =>
  leads_plainLine 0 ht (by simp) (.inl rfl) hgap (hc.atWhite_eq rest) (by decide) before

theorem readsLast_plain (ht : t = [] ∨ IsPlainText t) : ReadsLast (' ' :: t) (plainTokens t) :=
  fun _ hgap _ before => leads_plainEnd ht (by simp) (.inl rfl) hgap before

theorem readsBefore_itemLines {ts : List Text} (hts : ∀ t ∈ ts, t = [] ∨ IsPlainText t) :
    ReadsBefore (itemLines ts) (if ts = [] then [] else blockTokens ts) :=
  fun _ _ hgap hc rest column before => leads_block hts hgap hc rest column before

/-! ### Entries -/

/-- A text that can be a key at the beginning of a line. -/
structure IsKeyName (name : Text) : Prop where
  plain : IsPlainText name
  begins : ∃ c ∈ name.head?, c ≠ '-' ∧ c ≠ '.' ∧ c ≠ byteOrderMark
  short : name.length ≤ 1024

theorem IsKeyName.exists_eq_cons {name : Text} (h : IsKeyName name) :
    ∃ c t, name = c :: t ∧ (c ≠ '-' ∧ c ≠ '.' ∧ c ≠ byteOrderMark) ∧ t.length < 1024 := by
  obtain ⟨c, hc, hbegins⟩ := h.begins
  obtain ⟨t, rfl⟩ := List.head?_eq_some_iff.mp hc
  exact ⟨c, t, rfl, hbegins, Nat.lt_of_succ_le h.short⟩

/-- An entry, the text of its value behind the colon, and the spaces and empty lines below it. -/
structure WrittenEntry where
  entry : Entry
  text : Text
  gap : Text

/-- The entry is written in a way that gives its value. -/
structure WrittenEntry.Valid (e : WrittenEntry) : Prop where
  name : IsKeyName e.entry.name
  apart : e.text.head?.all isWhite = true
  gap : IsSpacing e.gap
  value : ReadsAs e.entry.tokens e.entry.value

def WrittenEntry.written (e : WrittenEntry) : Text :=
  e.entry.name ++ ':' :: e.text

def mappingText (entries : List WrittenEntry) (last : WrittenEntry) : Text :=
  entries.flatMap (fun e => e.written ++ (e.gap ++ ['\n'])) ++ (last.written ++ last.gap)

theorem isClean_mappingText {entries : List WrittenEntry} {last : WrittenEntry}
    (h : ∀ e ∈ entries ++ [last], IsClean e.entry.name ∧ IsClean e.text ∧ IsSpacing e.gap) :
    IsClean (mappingText entries last) := by
  have hwritten {e : WrittenEntry} (he : e ∈ entries ++ [last]) : IsClean e.written := by
    obtain ⟨hname, htext, -⟩ := h e he
    exact isClean_append.mpr ⟨hname, isClean_cons.mpr ⟨by decide, htext⟩⟩
  refine isClean_append.mpr ⟨isClean_flatMap fun e he => ?_, ?_⟩
  · have hmem := List.mem_append_left [last] he
    exact isClean_append.mpr ⟨hwritten hmem,
      isClean_append.mpr ⟨(h e hmem).2.2.isClean, by decide⟩⟩
  · have hmem : last ∈ entries ++ [last] := List.mem_append_right _ List.mem_cons_self
    exact isClean_append.mpr ⟨hwritten hmem, (h last hmem).2.2.isClean⟩

theorem leads_entryKey {e : WrittenEntry} {rest : Text} {indents : List Nat} (he : e.Valid)
    (hwhite : atWhite rest = true) (hindents : indents = [] ∨ indents = [0]) (before : List Token) :
    View.Leads ⟨e.entry.name ++ ':' :: rest, 0, indents, 0, true, before⟩
      ⟨rest, 0 + e.entry.name.length + 1, [0], 0, false,
        before ++ opening indents ++ [.key, .scalar e.entry.name .plain, .value]⟩ := by
  have hplain := he.name.plain
  obtain ⟨c, t, ht, hbegins, hshort⟩ := he.name.exists_eq_cons
  rw [ht] at hplain ⊢
  intro s hs
  obtain ⟨s', hreads, -, hs'⟩ := hs.exists_key hplain hbegins hshort hwhite hindents
  exact ⟨s', hreads, hs'⟩

theorem IsSpacing.atWhite_append {gap rest : Text} (hgap : IsSpacing gap)
    (hrest : atWhite rest = true) : atWhite (gap ++ rest) = true := by
  cases gap with
  | nil => exact hrest
  | cons c gap =>
    obtain rfl | rfl := hgap c List.mem_cons_self <;> rfl

theorem WrittenEntry.Valid.atWhite_append {e : WrittenEntry} {rest : Text} (he : e.Valid)
    (hrest : atWhite rest = true) : atWhite (e.text ++ rest) = true := by
  have hapart := he.apart
  cases htext : e.text with
  | nil => exact hrest
  | cons c t =>
    rw [htext] at hapart
    exact hapart

theorem mappingText_nil (last : WrittenEntry) :
    mappingText [] last = last.entry.name ++ ':' :: (last.text ++ last.gap) := by
  simp [mappingText, WrittenEntry.written]

theorem mappingText_cons (e : WrittenEntry) (entries : List WrittenEntry) (last : WrittenEntry) :
    mappingText (e :: entries) last =
      e.entry.name ++ ':' :: (e.text ++ (e.gap ++ '\n' :: mappingText entries last)) := by
  simp [mappingText, WrittenEntry.written]

theorem exists_mappingText {entries : List WrittenEntry} {last : WrittenEntry}
    (hentries : ∀ e ∈ entries, e.Valid) (hlast : last.Valid) :
    ∃ c rest, mappingText entries last = c :: rest ∧ StartsToken 0 c := by
  have hname {e : WrittenEntry} (he : e.Valid) (rest : Text) :
      ∃ c t, e.entry.name ++ rest = c :: t ∧ StartsToken 0 c := by
    have hplain := he.name.plain
    obtain ⟨c, t, ht, hbegins, -⟩ := he.name.exists_eq_cons
    rw [ht] at hplain ⊢
    exact ⟨c, t ++ rest, rfl, .of_plain hplain fun h => absurd h hbegins.2.2⟩
  cases entries with
  | nil =>
    rw [mappingText_nil]
    exact hname hlast _
  | cons e entries =>
    rw [mappingText_cons]
    exact hname (hentries e List.mem_cons_self) _

/-- The entries are read one after the other, and the last one up to the end of the text. -/
theorem leads_mappingText {entries : List WrittenEntry} {last : WrittenEntry} {indents : List Nat}
    (hentries : ∀ e ∈ entries, e.Valid ∧ ReadsBefore e.text e.entry.tokens) (hlast : last.Valid)
    (hreads : ReadsLast last.text last.entry.tokens) (hindents : indents = [] ∨ indents = [0])
    (before : List Token) :
    ∃ column keyAllowed, View.Leads ⟨mappingText entries last, 0, indents, 0, true, before⟩
      ⟨[], column, [0], 0, keyAllowed, before ++ opening indents ++
        (entries ++ [last]).flatMap (·.entry.allTokens)⟩ := by
  -- The first key opens the block, so that all others are read with the block open.
  induction entries generalizing indents before with
  | nil =>
    have hwhite : atWhite (last.text ++ last.gap) = true := by
      have hgap : atWhite (last.gap ++ []) = true := hlast.gap.atWhite_append rfl
      rw [List.append_nil] at hgap
      exact hlast.atWhite_append hgap
    obtain ⟨column, keyAllowed, hleads⟩ := hreads hlast.gap (0 + last.entry.name.length + 1)
      (before ++ opening indents ++ [.key, .scalar last.entry.name .plain, .value])
    have hall := (leads_entryKey hlast hwhite hindents before).trans hleads
    rw [mappingText_nil]
    refine ⟨column, keyAllowed, ?_⟩
    simpa only [Entry.allTokens, List.nil_append, List.flatMap_singleton, List.append_assoc,
      List.cons_append] using hall
  | cons e entries ih =>
    obtain ⟨⟨he, hread⟩, hentries⟩ := List.forall_mem_cons.mp hentries
    obtain ⟨column, keyAllowed, hrest⟩ := ih hentries (.inr rfl)
      (before ++ opening indents ++ [.key, .scalar e.entry.name .plain, .value] ++ e.entry.tokens)
    obtain ⟨c, rest, htext, hc⟩ := exists_mappingText (fun e he => (hentries e he).1) hlast
    have hwhite : atWhite (e.text ++ (e.gap ++ '\n' :: mappingText entries last)) = true :=
      he.atWhite_append (he.gap.atWhite_append rfl)
    rw [htext] at hrest hwhite
    have hall := (leads_entryKey he hwhite hindents before).trans
      ((hread he.gap hc rest _ _).trans hrest)
    rw [mappingText_cons, htext]
    refine ⟨column, keyAllowed, ?_⟩
    simpa only [Entry.allTokens, opening, List.cons_append, List.flatMap_cons, List.append_assoc,
      List.nil_append, if_neg (List.cons_ne_nil 0 [])] using hall

theorem parse?_mappingText {entries : List WrittenEntry} {last : WrittenEntry}
    (hclean : IsClean (mappingText entries last))
    (hentries : ∀ e ∈ entries, e.Valid ∧ ReadsBefore e.text e.entry.tokens) (hlast : last.Valid)
    (hreads : ReadsLast last.text last.entry.tokens) :
    parse? (mappingText entries last) =
      some (some (mappingOf ((entries ++ [last]).map (·.entry)))) := by
  obtain ⟨column, keyAllowed, hleads⟩ := leads_mappingText hentries hlast hreads (.inl rfl) []
  have htokens := tokens?_of_leads hclean hleads
  refine parse?_of_tokens? ?_ ?_
  · intro entry hentry
    obtain ⟨e, he, rfl⟩ := List.mem_map.mp hentry
    obtain he | he := List.mem_append.mp he
    · exact (hentries e he).1.value
    · rw [List.mem_singleton.mp he]
      exact hlast.value
  · rw [htokens, List.flatMap_map]
    rfl

end RpcReference.Yaml
