import RpcReference.Config.Reader
import RpcReference.Proofs.MappingLines
/-!
# Settings one by one

A configuration is four settings, one for each key. An entry of a mapping gives one setting, and the
entries of a mapping with different keys give the settings they name and leave the defaults for the
others.
-/

namespace RpcReference.Config

open Text Yaml

inductive Setting where
  | title (t : Text)
  | languageTabs (ts : List Text)
  | tocFooters (ts : List Text)
  | search (on : Bool)
  deriving DecidableEq, Repr

def Setting.key : Setting → Key
  | .title _ => .title
  | .languageTabs _ => .languageTabs
  | .tocFooters _ => .tocFooters
  | .search _ => .search

def setting (config : Config) : Key → Setting
  | .title => .title config.title
  | .languageTabs => .languageTabs config.languageTabs
  | .tocFooters => .tocFooters config.tocFooters
  | .search => .search config.search

namespace Overrides

def give (o : Overrides) : Setting → Overrides
  | .title t => { o with title := some t }
  | .languageTabs ts => { o with languageTabs := some ts }
  | .tocFooters ts => { o with tocFooters := some ts }
  | .search on => { o with search := some on }

variable {o : Overrides} {settings : List Setting}

theorem has_give (o : Overrides) (s : Setting) (key : Key) :
    (o.give s).has key = (s.key == key || o.has key) := by
  cases s <;> cases key <;> rfl

theorem setting_config_give (o : Overrides) (s : Setting) (key : Key) :
    (o.give s).config.setting key = if s.key = key then s else o.config.setting key := by
  cases s <;> cases key <;> rfl

theorem setting_of_not_mem {key : Key} (h : key ∉ settings.map Setting.key) :
    (settings.foldl give o).config.setting key = o.config.setting key := by
  induction settings generalizing o with
  | nil => rfl
  | cons s settings ih =>
    rw [List.map_cons, List.mem_cons, not_or] at h
    obtain ⟨hs, hsettings⟩ := h
    rw [List.foldl_cons, ih hsettings, setting_config_give, if_neg fun h => hs h.symm]

theorem setting_of_mem (hkeys : (settings.map Setting.key).Nodup) {s : Setting}
    (hs : s ∈ settings) : (settings.foldl give o).config.setting s.key = s := by
  induction settings generalizing o with
  | nil => cases hs
  | cons first settings ih =>
    obtain ⟨hfirst, hsettings⟩ := List.nodup_cons.mp hkeys
    rw [List.foldl_cons]
    obtain rfl | hs := List.mem_cons.mp hs
    · rw [setting_of_not_mem hfirst, setting_config_give, if_pos rfl]
    · exact ih hsettings hs

end Overrides

/-! ### Entries -/

structure Gives (entry : Entry) (s : Setting) : Prop where
  name : entry.name = s.key.name
  value : ∀ (o : Overrides) (d : Document), o.set? d entry.value.node s.key = some (o.give s)

theorem ofName?_name (key : Key) : Key.ofName? key.name = some key := by
  cases key <;> decide

theorem Gives.add_eq {entry : Entry} {s : Setting} (h : Gives entry s) {o : Overrides}
    (hfree : o.has s.key = false) (d : Document) : o.add d entry.node = .ok (o.give s) := by
  have htext : text? d (.ofScalar .plain entry.name) = some s.key.name := congrArg some h.name
  rw [Entry.node, Overrides.add, htext]
  dsimp only
  rw [ofName?_name]
  dsimp only
  rw [hfree, if_neg Bool.false_ne_true, h.value]

theorem foldlM_add {entries : List Entry} {settings : List Setting} {o : Overrides}
    (h : List.Forall₂ Gives entries settings) (hkeys : (settings.map Setting.key).Nodup)
    (hfree : ∀ s ∈ settings, o.has s.key = false) (d : Document) :
    (entries.map Entry.node).foldlM (fun (o : Overrides) entry => o.add d entry) o =
      .ok (settings.foldl Overrides.give o) := by
  induction h generalizing o with
  | nil => rfl
  | @cons entry s entries settings hentry _ ih =>
    obtain ⟨hs, hsettings⟩ := List.nodup_cons.mp hkeys
    obtain ⟨hfirst, hrest⟩ := List.forall_mem_cons.mp hfree
    rw [List.map_cons, List.foldlM_cons, hentry.add_eq hfirst]
    refine ih hsettings fun s' hs' => ?_
    have hne : s.key ≠ s'.key := fun heq => hs (heq ▸ List.mem_map_of_mem hs')
    rw [Overrides.has_give, beq_false_of_ne hne, hrest s' hs']
    rfl

theorem ofDocument_mappingOf {entries : List Entry} {settings : List Setting}
    (h : List.Forall₂ Gives entries settings) (hkeys : (settings.map Setting.key).Nodup) :
    ofDocument (mappingOf entries) = .ok (settings.foldl Overrides.give .empty).config := by
  have hfold := foldlM_add (o := .empty) h hkeys (fun s _ => by cases s <;> rfl) (mappingOf entries)
  rw [ofDocument]
  dsimp only [mappingOf] at hfold ⊢
  rw [hfold]
  rfl

/-! ### Values -/

theorem mapM_text?_ofScalar (d : Document) (style : ScalarStyle) (ts : List Text) :
    (ts.map (.ofScalar style)).mapM (text? d) = some ts := by
  induction ts with
  | nil => rfl
  | cons t ts ih =>
    rw [List.map_cons, List.mapM_cons, ih]
    rfl

theorem gives_title (t : Text) (style : ScalarStyle) (tokens : List Token) :
    Gives ⟨Key.title.name, tokens, .scalar t style⟩ (.title t) :=
  ⟨rfl, fun _ _ => rfl⟩

def GivesTexts (value : Value) (ts : List Text) : Prop :=
  ∀ d, texts? d value.node = some ts

theorem givesTexts_list (ts : List Text) (style : ScalarStyle) : GivesTexts (.list ts style) ts :=
  fun d => mapM_text?_ofScalar d style ts

theorem givesTexts_nothing : GivesTexts (.scalar [] .plain) [] :=
  fun _ => rfl

theorem gives_languageTabs {value : Value} {ts : List Text} (h : GivesTexts value ts)
    (tokens : List Token) : Gives ⟨Key.languageTabs.name, tokens, value⟩ (.languageTabs ts) := by
  refine ⟨rfl, fun o d => ?_⟩
  rw [Setting.key, Overrides.set?, h]
  rfl

theorem gives_tocFooters {value : Value} {ts : List Text} (h : GivesTexts value ts)
    (tokens : List Token) : Gives ⟨Key.tocFooters.name, tokens, value⟩ (.tocFooters ts) := by
  refine ⟨rfl, fun o d => ?_⟩
  rw [Setting.key, Overrides.set?, h]
  rfl

def spelled (on : Bool) : Text :=
  if on then "true".toList else "false".toList

theorem gives_search (on : Bool) (tokens : List Token) :
    Gives ⟨Key.search.name, tokens, .scalar (spelled on) .plain⟩ (.search on) := by
  refine ⟨rfl, fun o d => ?_⟩
  cases on <;> rfl

/-! ### Texts -/

theorem isKeyName_name (key : Key) : IsKeyName key.name := by
  cases key <;> exact ⟨by decide, ⟨_, rfl, by decide⟩, by decide⟩

theorem isClean_name (key : Key) : IsClean key.name := by
  cases key <;> decide

theorem parse_of_isBlank {t : Text} (h : IsBlank t) : parse t = .ok standard := by
  rw [parse, trim_eq_nil_iff.mpr h]
  rfl

theorem isEmpty_trim_eq_false {t : Text} {c : Char} (hmem : c ∈ t) (hc : isBlank c = false) :
    (trim t).isEmpty = false := by
  rw [List.isEmpty_eq_false_iff]
  intro h
  exact Bool.false_ne_true (hc.symm.trans (trim_eq_nil_iff.mp h c hmem))

/-- The text of a mapping gives the settings of its entries, and the defaults for the other keys. -/
theorem parse_mappingText {entries : List WrittenEntry} {last : WrittenEntry}
    {settings : List Setting} (hclean : IsClean (mappingText entries last))
    (hentries : ∀ e ∈ entries, e.Valid ∧ ReadsBefore e.text e.entry.tokens) (hlast : last.Valid)
    (hreads : ReadsLast last.text last.entry.tokens)
    (hgives : List.Forall₂ Gives ((entries ++ [last]).map (·.entry)) settings)
    (hkeys : (settings.map Setting.key).Nodup) :
    parse (mappingText entries last) = .ok (settings.foldl Overrides.give .empty).config := by
  have hcolon : ':' ∈ mappingText entries last := by
    simp [mappingText, WrittenEntry.written]
  rw [parse, isEmpty_trim_eq_false hcolon rfl, if_neg Bool.false_ne_true,
    parse?_mappingText hclean hentries hlast hreads]
  exact ofDocument_mappingOf hgives hkeys

end RpcReference.Config
