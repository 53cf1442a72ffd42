import Mathlib.Data.List.Forall2
import RpcReference.Proofs.Settings
/-!
# Partial configurations

A configuration may give any of the settings, in any order. Written with one line for each setting,
the texts between double quotes, it is read as the settings it gives, with the defaults for the
others. A blank text gives the defaults for all of them.
-/

namespace RpcReference.Config

open Text Yaml

def IsPrintable (t : Text) : Prop :=
  ∀ c ∈ t, ' ' ≤ c ∧ c ≤ '~'

instance (t : Text) : Decidable (IsPrintable t) :=
  List.decidableBAll (fun c => ' ' ≤ c ∧ c ≤ '~') t

/-- A setting in writing. A list has blanks around its items, and in front of the first one. -/
inductive SettingLine where
  | title (t : Text)
  | languageTabs (blanks : Nat) (items : List FlowItem)
  | tocFooters (blanks : Nat) (items : List FlowItem)
  | search (on : Bool)
  deriving DecidableEq, Repr

namespace SettingLine

def setting : SettingLine → Setting
  | .title t => .title t
  | .languageTabs _ items => .languageTabs (items.map (·.text))
  | .tocFooters _ items => .tocFooters (items.map (·.text))
  | .search on => .search on

def texts : SettingLine → List Text
  | .title t => [t]
  | .languageTabs _ items | .tocFooters _ items => items.map (·.text)
  | .search _ => []

def value : SettingLine → Text
  | .title t => doubleQuoted t
  | .languageTabs blanks items | .tocFooters blanks items => flowSequence blanks items
  | .search on => spelled on

def written (line : SettingLine) : Text :=
  line.setting.key.name ++ ": ".toList ++ line.value

def entry : SettingLine → Entry
  | .title t => ⟨Key.title.name, [.scalar t .doubleQuoted], .scalar t .doubleQuoted⟩
  | .languageTabs _ items => ⟨Key.languageTabs.name, flowTokens .doubleQuoted (items.map (·.text)),
      .list (items.map (·.text)) .doubleQuoted⟩
  | .tocFooters _ items => ⟨Key.tocFooters.name, flowTokens .doubleQuoted (items.map (·.text)),
      .list (items.map (·.text)) .doubleQuoted⟩
  | .search on => ⟨Key.search.name, plainTokens (spelled on), .scalar (spelled on) .plain⟩

/-- The line with what follows it. -/
def writtenEntry (gap : Text) (line : SettingLine) : WrittenEntry :=
  ⟨line.entry, ' ' :: line.value, gap⟩

variable {line : SettingLine}

theorem gives (line : SettingLine) : Gives line.entry line.setting := by
  cases line with
  | title t => exact gives_title t _ _
  | languageTabs _ items => exact gives_languageTabs (givesTexts_list _ _) _
  | tocFooters _ items => exact gives_tocFooters (givesTexts_list _ _) _
  | search on => exact gives_search on _

theorem valid_writtenEntry {gap : Text} (hgap : IsSpacing gap) (line : SettingLine) :
    (line.writtenEntry gap).Valid where
  name := by
    rw [writtenEntry, line.gives.name]
    exact isKeyName_name _
  apart := rfl
  gap := hgap
  value := by
    cases line with
    | title t => exact readsAs_scalar t _
    | languageTabs _ items | tocFooters _ items => exact readsAs_flowTokens _ _
    | search on => exact readsAs_plainTokens _

theorem isPlainText_spelled (on : Bool) : IsPlainText (spelled on) := by
  cases on <;> decide

/-- The value is read wherever its line stands. -/
theorem reads_value (hline : ∀ t ∈ line.texts, Unbroken t) :
    ReadsBefore (' ' :: line.value) line.entry.tokens ∧
      ReadsLast (' ' :: line.value) line.entry.tokens := by
  have hlist {items : List FlowItem} (hitems : ∀ t ∈ items.map (·.text), Unbroken t)
      (blanks : Nat) := readsAlone_flowSequence (List.forall_mem_map.mp hitems) blanks
  cases line with
  | title t =>
    have htitle := readsAlone_doubleQuoted (hline t List.mem_cons_self)
    exact ⟨htitle.readsBefore, htitle.readsLast⟩
  | languageTabs blanks items | tocFooters blanks items =>
    exact ⟨(hlist hline blanks).readsBefore, (hlist hline blanks).readsLast⟩
  | search on =>
    exact ⟨readsBefore_plain (.inr (isPlainText_spelled on)),
      readsLast_plain (.inr (isPlainText_spelled on))⟩

theorem isClean_value (hline : ∀ t ∈ line.texts, IsClean t) : IsClean line.value := by
  cases line with
  | title t => exact isClean_doubleQuoted (hline t List.mem_cons_self)
  | languageTabs blanks items | tocFooters blanks items =>
    exact isClean_flowSequence (List.forall_mem_map.mp hline) blanks
  | search on => cases on <;> decide

end SettingLine

theorem IsPrintable.isClean {t : Text} (ht : IsPrintable t) : IsClean t := by
  intro c hc
  obtain ⟨hlow, hhigh⟩ := ht c hc
  refine ⟨(Ranges.contains_iff _ c).mpr ⟨(0x20, 0x7e), by decide, hlow, hhigh⟩, ?_, ?_⟩
  · rintro rfl
    exact absurd hlow (by decide)
  · rintro rfl
    exact absurd hhigh (by decide)

theorem IsPrintable.unbroken {t : Text} (ht : IsPrintable t) : Unbroken t := by
  intro c hc
  obtain ⟨hlow, hhigh⟩ := ht c hc
  rw [Bool.eq_false_iff]
  intro hbreak
  simp only [isBreak, Bool.or_eq_true, beq_iff_eq] at hbreak
  obtain (rfl | rfl) | rfl := hbreak
  · exact absurd hlow (by decide)
  · exact absurd hhigh (by decide)
  · exact absurd hhigh (by decide)

theorem written_writtenEntry (gap : Text) (line : SettingLine) :
    (line.writtenEntry gap).written = line.written := by
  rw [WrittenEntry.written, SettingLine.writtenEntry, line.gives.name, SettingLine.written,
    List.append_assoc]
  rfl

/-- The lines of a configuration make up a mapping. -/
theorem join_append_eq_mappingText (lines : List SettingLine) (last : SettingLine) (tail : Text) :
    join ['\n'] ((lines ++ [last]).map SettingLine.written) ++ tail =
      mappingText (lines.map (SettingLine.writtenEntry [])) (last.writtenEntry tail) := by
  induction lines with
  | nil =>
    rw [List.nil_append, List.map_singleton, join, List.intercalate_singleton, List.map_nil,
      mappingText, List.flatMap_nil, List.nil_append, written_writtenEntry]
    rfl
  | cons line lines ih =>
    have hne : (lines ++ [last]).map SettingLine.written ≠ [] := by simp
    rw [List.cons_append, List.map_cons, join, List.intercalate_cons_of_ne_nil hne,
      List.append_assoc, ← join, ih]
    rw [List.map_cons, mappingText, mappingText, List.flatMap_cons, written_writtenEntry [] line,
      List.append_assoc, List.append_assoc, List.append_assoc]
    rfl

theorem forall₂_gives (lines : List SettingLine) (last : SettingLine) (tail : Text) :
    List.Forall₂ Gives
      ((lines.map (SettingLine.writtenEntry []) ++ [last.writtenEntry tail]).map (·.entry))
      ((lines ++ [last]).map SettingLine.setting) := by
  have hentries : (lines.map (SettingLine.writtenEntry []) ++ [last.writtenEntry tail]).map
      (·.entry) = (lines ++ [last]).map SettingLine.entry := by
    simp [SettingLine.writtenEntry]
  rw [hentries, List.forall₂_map_left_iff, List.forall₂_map_right_iff, List.forall₂_same]
  exact fun line _ => line.gives

theorem parse_lines {lines : List SettingLine} {last : SettingLine} {tail : Text}
    (hkeys : (((lines ++ [last]).map SettingLine.setting).map Setting.key).Nodup)
    (hprintable : ∀ line ∈ lines ++ [last], ∀ t ∈ line.texts, IsPrintable t)
    (htail : IsSpacing tail) :
    parse (join ['\n'] ((lines ++ [last]).map SettingLine.written) ++ tail) =
      .ok (((lines ++ [last]).map SettingLine.setting).foldl Overrides.give .empty).config := by
  have hclean {line : SettingLine} {gap : Text} (hline : line ∈ lines ++ [last])
      (hgap : IsSpacing gap) : IsClean (line.writtenEntry gap).entry.name ∧
        IsClean (line.writtenEntry gap).text ∧ IsSpacing (line.writtenEntry gap).gap := by
    refine ⟨?_, isClean_cons.mpr ⟨by decide, ?_⟩, hgap⟩
    · rw [SettingLine.writtenEntry, line.gives.name]
      exact isClean_name _
    · exact SettingLine.isClean_value fun t ht => (hprintable line hline t ht).isClean
  have hreads {line : SettingLine} (hline : line ∈ lines ++ [last]) :=
    line.reads_value fun t ht => (hprintable line hline t ht).unbroken
  have hlast : last ∈ lines ++ [last] := List.mem_append_right _ List.mem_cons_self
  rw [join_append_eq_mappingText]
  refine parse_mappingText (isClean_mappingText ?_) ?_ (SettingLine.valid_writtenEntry htail last)
    (hreads hlast).2 (forall₂_gives lines last tail) hkeys
  · refine List.forall_mem_append.mpr ⟨List.forall_mem_map.mpr fun line hline => ?_,
      List.forall_mem_singleton.mpr (hclean hlast htail)⟩
    exact hclean (List.mem_append_left _ hline) (List.forall_mem_nil _)
  · refine List.forall_mem_map.mpr fun line hline => ?_
    exact ⟨SettingLine.valid_writtenEntry (List.forall_mem_nil _) line,
      (hreads (List.mem_append_left _ hline)).1⟩

/-- The lines of a configuration, in any order, give their settings and leave the others as they
are. A blank text gives none. -/
theorem parse_settingLines :
    (∀ (lines : List SettingLine) (tail : Text), (lines.map (·.setting.key)).Nodup →
      (∀ line ∈ lines, ∀ t ∈ line.texts, IsPrintable t) → IsSpacing tail →
      ∃ config, parse (join ['\n'] (lines.map SettingLine.written) ++ tail) = .ok config ∧
        (∀ line ∈ lines, config.setting line.setting.key = line.setting) ∧
        ∀ key ∉ lines.map (·.setting.key), config.setting key = standard.setting key) ∧
    ∀ blank, IsBlank blank → parse blank = .ok standard := by
  refine ⟨fun lines tail hkeys hprintable htail => ?_, fun blank => parse_of_isBlank⟩
  obtain rfl | ⟨lines, last, rfl⟩ := lines.eq_nil_or_concat'
  · have hblank : IsBlank tail := by
      intro c hc
      obtain rfl | rfl := htail c hc <;> decide
    exact ⟨standard, parse_of_isBlank hblank, List.forall_mem_nil _, fun _ _ => rfl⟩
  · have hkeys' : (((lines ++ [last]).map SettingLine.setting).map Setting.key).Nodup := by
      rwa [List.map_map]
    refine ⟨_, parse_lines hkeys' hprintable htail, fun line hline => ?_, fun key hkey => ?_⟩
    · exact Overrides.setting_of_mem hkeys' (List.mem_map_of_mem hline)
    · rw [← Function.comp_def, ← List.map_map] at hkey
      exact Overrides.setting_of_not_mem hkey

/-- Three settings with characters that mean something in YAML, and the last one left out. -/
theorem parse_reorderedLines :
    ∃ config, parse ("toc_footers: []\n" ++
        "language_tabs: [\"shell\", \"say \\\"hi\\\" # twice\"]\n" ++
        "title: \"C:\\\\apis: v2\"\n").toList = .ok config ∧
      config.title = "C:\\apis: v2".toList ∧
      config.languageTabs = ["shell".toList, "say \"hi\" # twice".toList] ∧
      config.tocFooters = [] ∧ config.search = true := by
  obtain ⟨config, hparse, hgiven, hothers⟩ := parse_settingLines.1
    [.tocFooters 0 [],
      .languageTabs 0 [⟨0, "shell".toList, 0⟩, ⟨1, "say \"hi\" # twice".toList, 0⟩],
      .title "C:\\apis: v2".toList] ['\n'] (by decide) (by decide) (by decide)
  rw [List.forall_mem_cons, List.forall_mem_cons, List.forall_mem_cons] at hgiven
  obtain ⟨hfooters, htabs, htitle, -⟩ := hgiven
  have hsearch := hothers .search (by decide)
  exact ⟨config, hparse, Setting.title.inj htitle, Setting.languageTabs.inj htabs,
    Setting.tocFooters.inj hfooters, Setting.search.inj hsearch⟩

end RpcReference.Config
