import RpcReference.Proofs.DocumentLines
import RpcReference.Proofs.Settings
/-!
# Front matter as a configuration

Between its two limits the front matter of a document is a configuration again. It shows the title
and the items of the lists as they are, so they come back as long as each of them stands for itself
as a plain scalar.
-/

namespace RpcReference.Document

open Text Yaml Config

/-! ### The text between the limits -/

def settingsText (config : Config) : Text :=
  ended ((frontMatter config).tail.dropLast)

/-- The first line of the front matter, and the last one. -/
def limitLine : Text := "---\n".toList

/-- The line of a setting that is not a list. -/
def scalarLine (key : Key) (t : Text) : Text :=
  line [key.name, ": ".toList, t]

def listLines (key : Key) (ts : List Text) : List Text :=
  line [key.name, ":".toList] :: listItems ts

def settingsLines (config : Config) : List Text :=
  stack [[scalarLine .title config.title, []], listLines .languageTabs config.languageTabs, [[]],
    listLines .tocFooters config.tocFooters, [[], scalarLine .search (spelled config.search)]]

theorem frontMatter_eq (config : Config) :
    frontMatter config = ("---".toList :: settingsLines config) ++ ["---".toList] := by
  simp only [frontMatter, stack, settingsLines, listLines, spelled, List.flatten_cons,
    List.flatten_nil, List.append_assoc, List.cons_append, List.nil_append]
  rfl

theorem settingsText_eq_ended (config : Config) :
    settingsText config = ended (settingsLines config) := by
  rw [settingsText, frontMatter_eq, List.cons_append, List.tail_cons, List.dropLast_concat]

theorem blockText_frontMatter (config : Config) :
    blockText (frontMatter config) = limitLine ++ settingsText config ++ limitLine := by
  have hlimit : Solid "---".toList := by decide
  rw [settingsText_eq_ended, frontMatter_eq, blockText_eq_ended rfl hlimit (List.cons_ne_nil _ _)
    (List.forall_mem_singleton.mpr hlimit), ended_append]
  rfl

/-! ### Its entries -/

/-- The entry of a scalar that stands there as `written` and is read as `t`. -/
def scalarEntry (key : Key) (written t : Text) : WrittenEntry :=
  ⟨⟨key.name, plainTokens t, .scalar t .plain⟩, ' ' :: written, ['\n']⟩

def listEntry (key : Key) (ts : List Text) : WrittenEntry :=
  ⟨⟨key.name, if ts = [] then [] else blockTokens ts,
    if ts = [] then .scalar [] .plain else .list ts .plain⟩, itemLines ts, ['\n']⟩

theorem ended_scalarLine (key : Key) (written t : Text) :
    ended [scalarLine key written] = (scalarEntry key written t).written ++ ['\n'] := by
  simp [ended, scalarLine, line, WrittenEntry.written, scalarEntry]

theorem newline_cons_ended_listItems (ts : List Text) :
    '\n' :: ended (listItems ts) = itemLines ts ++ ['\n'] := by
  induction ts with
  | nil => rfl
  | cons t ts ih =>
    have hitem : itemLines (t :: ts) ++ ['\n'] = ('\n' :: "  - ".toList ++ t) ++
        (itemLines ts ++ ['\n']) := by
      simp [itemLines]
    rw [hitem, ← ih]
    simp [ended, listItems, line]

theorem ended_listLines (key : Key) (ts : List Text) :
    ended (listLines key ts) = (listEntry key ts).written ++ ['\n'] := by
  have hhead : ended (listLines key ts) = key.name ++ ':' :: '\n' :: ended (listItems ts) := by
    simp [ended, listLines, line]
  rw [hhead, newline_cons_ended_listItems, WrittenEntry.written, List.append_assoc]
  rfl

theorem settingsText_eq_mappingText (config : Config) (title : Text) :
    settingsText config = mappingText [scalarEntry .title config.title title,
      listEntry .languageTabs config.languageTabs, listEntry .tocFooters config.tocFooters]
      (scalarEntry .search (spelled config.search) (spelled config.search)) := by
  have hlines : settingsLines config = [scalarLine .title config.title] ++ ([[]] ++
      (listLines .languageTabs config.languageTabs ++ ([[]] ++
        (listLines .tocFooters config.tocFooters ++ ([[]] ++
          [scalarLine .search (spelled config.search)]))))) := by
    simp [settingsLines, stack]
  rw [settingsText_eq_ended, hlines]
  simp only [ended_append, ended_scalarLine _ _ title, ended_listLines, mappingText,
    List.flatMap_cons, List.flatMap_nil, List.append_assoc, List.append_nil]
  rfl

theorem isSpacing_newline : IsSpacing ['\n'] := by decide

theorem valid_scalarEntry (key : Key) (written t : Text) : (scalarEntry key written t).Valid where
  name := isKeyName_name key
  apart := rfl
  gap := isSpacing_newline
  value := readsAs_plainTokens t

theorem valid_listEntry (key : Key) (ts : List Text) : (listEntry key ts).Valid where
  name := isKeyName_name key
  apart := by cases ts <;> rfl
  gap := isSpacing_newline
  value := by
    by_cases hts : ts = []
    · simp only [listEntry, if_pos hts]
      exact readsAs_plainTokens []
    · simp only [listEntry, if_neg hts]
      exact readsAs_blockTokens ts

theorem givesTexts_listEntry (key : Key) (ts : List Text) :
    GivesTexts (listEntry key ts).entry.value ts := by
  by_cases hts : ts = []
  · subst hts
    exact givesTexts_nothing
  · simp only [listEntry, if_neg hts]
    exact givesTexts_list ts _

/-! ### Reading it back -/

/-- In the front matter the text stands for itself. -/
structure StandsAlone (t : Text) : Prop where
  clean : IsClean t
  plain : t = [] ∨ IsPlainText t

theorem standsAlone_iff {t : Text} : StandsAlone t ↔ IsClean t ∧ (t = [] ∨ IsPlainText t) :=
  ⟨fun h => ⟨h.clean, h.plain⟩, fun ⟨hclean, hplain⟩ => ⟨hclean, hplain⟩⟩

instance (t : Text) : Decidable (StandsAlone t) :=
  decidable_of_iff _ standsAlone_iff.symm

theorem isClean_scalarEntry (key : Key) {written : Text} (hwritten : IsClean written) (t : Text) :
    IsClean (scalarEntry key written t).entry.name ∧ IsClean (scalarEntry key written t).text ∧
      IsSpacing (scalarEntry key written t).gap :=
  ⟨isClean_name key, isClean_cons.mpr ⟨by decide, hwritten⟩, isSpacing_newline⟩

theorem isClean_listEntry (key : Key) {ts : List Text} (hts : ∀ t ∈ ts, IsClean t) :
    IsClean (listEntry key ts).entry.name ∧ IsClean (listEntry key ts).text ∧
      IsSpacing (listEntry key ts).gap :=
  ⟨isClean_name key, isClean_itemLines hts, isSpacing_newline⟩

theorem readsBefore_listEntry (key : Key) {ts : List Text} (hts : ∀ t ∈ ts, StandsAlone t) :
    (listEntry key ts).Valid ∧
      ReadsBefore (listEntry key ts).text (listEntry key ts).entry.tokens :=
  ⟨valid_listEntry key ts, readsBefore_itemLines fun t ht => (hts t ht).plain⟩

theorem forall₂_gives_config (config : Config) (title : Text) :
    List.Forall₂ Gives
      (([scalarEntry .title config.title title, listEntry .languageTabs config.languageTabs,
        listEntry .tocFooters config.tocFooters] ++
          [scalarEntry .search (spelled config.search) (spelled config.search)]).map (·.entry))
      [.title title, .languageTabs config.languageTabs, .tocFooters config.tocFooters,
        .search config.search] :=
  .cons (gives_title _ _ _)
    (.cons (gives_languageTabs (givesTexts_listEntry .languageTabs config.languageTabs) _)
      (.cons (gives_tocFooters (givesTexts_listEntry .tocFooters config.tocFooters) _)
        (.cons (gives_search _ _) .nil)))

theorem standsAlone_spelled (on : Bool) : StandsAlone (spelled on) := by
  cases on <;> decide

/-- The texts that the front matter shows. -/
def shownTexts (config : Config) : List Text :=
  config.title :: (config.languageTabs ++ config.tocFooters)

theorem isClean_settingsText {config : Config} (h : ∀ t ∈ shownTexts config, IsClean t) :
    IsClean (settingsText config) := by
  obtain ⟨htitle, hlists⟩ := List.forall_mem_cons.mp h
  obtain ⟨htabs, hfooters⟩ := List.forall_mem_append.mp hlists
  rw [settingsText_eq_mappingText config config.title]
  refine isClean_mappingText ?_
  simp only [List.cons_append, List.nil_append, List.forall_mem_cons]
  exact ⟨isClean_scalarEntry _ htitle _, isClean_listEntry _ htabs, isClean_listEntry _ hfooters,
    isClean_scalarEntry _ (standsAlone_spelled config.search).clean _, List.forall_mem_nil _⟩

/-- The settings come back, but for the title, which is what is read in its place. -/
theorem parse_settingsText_of_title {config : Config} {title : Text} (hclean : IsClean config.title)
    (htitle : ReadsBefore (' ' :: config.title) (plainTokens title))
    (hlists : ∀ t ∈ config.languageTabs ++ config.tocFooters, StandsAlone t) :
    Config.parse (settingsText config) = .ok { config with title } := by
  have htext := isClean_settingsText
    (List.forall_mem_cons.mpr ⟨hclean, fun t ht => (hlists t ht).clean⟩)
  obtain ⟨htabs, hfooters⟩ := List.forall_mem_append.mp hlists
  rw [settingsText_eq_mappingText config title] at htext ⊢
  rw [parse_mappingText htext ?_ (valid_scalarEntry _ _ _)
    (readsLast_plain (standsAlone_spelled _).plain) (forall₂_gives_config config title) ?_]
  · rfl
  · simp only [List.forall_mem_cons]
    exact ⟨⟨valid_scalarEntry _ _ _, htitle⟩, readsBefore_listEntry _ htabs,
      readsBefore_listEntry _ hfooters, List.forall_mem_nil _⟩
  · exact (by decide : [Key.title, .languageTabs, .tocFooters, .search].Nodup)

theorem standsAlone_standard : ∀ t ∈ shownTexts Config.standard, StandsAlone t := by
  decide +kernel

theorem StandsAlone.oneLine {t : Text} (ht : StandsAlone t) : '\n' ∉ t := by
  intro hmem
  obtain rfl | hplain := ht.plain
  · cases hmem
  · exact absurd (hplain.unbroken '\n' hmem) (by decide)

/-- A line that does not begin like a limit. -/
structure IsInner (l : Text) : Prop where
  oneLine : '\n' ∉ l
  begins : l.head? ≠ some '-'

theorem newline_not_mem_name (key : Key) : '\n' ∉ key.name := by
  cases key <;> decide

theorem isInner_name_append (key : Key) {t : Text} (ht : '\n' ∉ t) : IsInner (key.name ++ t) where
  oneLine := by
    rw [List.mem_append, not_or]
    exact ⟨newline_not_mem_name key, ht⟩
  begins := by cases key <;> exact fun h => absurd (Option.some.inj h) (by decide)

theorem isInner_scalarLine (key : Key) {t : Text} (ht : '\n' ∉ t) :
    IsInner (scalarLine key t) := by
  refine isInner_name_append key ?_
  simpa using ht

theorem isInner_of_mem_listLines (key : Key) {ts : List Text} (hts : ∀ t ∈ ts, '\n' ∉ t) {l : Text}
    (hl : l ∈ listLines key ts) : IsInner l := by
  obtain rfl | hl := List.mem_cons.mp hl
  · exact isInner_name_append key (by decide)
  · obtain ⟨t, ht, rfl⟩ := List.mem_map.mp hl
    refine ⟨?_, fun h => absurd (Option.some.inj h) (by decide)⟩
    simpa [line] using hts t ht

theorem isInner_of_mem_settingsLines {config : Config}
    (h : ∀ t ∈ shownTexts config, StandsAlone t) {l : Text} (hl : l ∈ settingsLines config) :
    IsInner l := by
  obtain ⟨htitle, hlists⟩ := List.forall_mem_cons.mp h
  obtain ⟨htabs, hfooters⟩ := List.forall_mem_append.mp hlists
  have hempty : IsInner [] := ⟨List.not_mem_nil, nofun⟩
  simp only [settingsLines, stack, List.flatten_cons, List.flatten_nil, List.mem_append,
    List.mem_cons, List.not_mem_nil, or_false] at hl
  obtain (rfl | rfl) | hl | rfl | hl | rfl | rfl := hl
  · exact isInner_scalarLine _ htitle.oneLine
  · exact hempty
  · exact isInner_of_mem_listLines _ (fun t ht => (htabs t ht).oneLine) hl
  · exact hempty
  · exact isInner_of_mem_listLines _ (fun t ht => (hfooters t ht).oneLine) hl
  · exact hempty
  · exact isInner_scalarLine _ (standsAlone_spelled _).oneLine

theorem limit_not_mem_split_settingsText {config : Config}
    (h : ∀ t ∈ shownTexts config, StandsAlone t) :
    "---".toList ∉ split '\n' (settingsText config) := by
  have hne : settingsLines config ≠ [] := List.cons_ne_nil _ _
  rw [settingsText_eq_ended, ← join_append_newline hne, split_append_cons,
    split_join hne fun l hl => (isInner_of_mem_settingsLines h hl).oneLine]
  intro hmem
  obtain hl | hl := List.mem_append.mp hmem
  · exact (isInner_of_mem_settingsLines h hl).begins rfl
  · exact absurd hl (by decide)

/-- In every document the settings stand in front, between two limits. As long as each text stands
for itself, these are the first two, and the settings are read back as they were. -/
theorem settings_of_frontMatter (subject : Subject) :
    (∃ rest, (render subject).written =
      limitLine ++ settingsText subject.config ++ limitLine ++ rest) ∧
    ((∀ t ∈ shownTexts subject.config, StandsAlone t) →
      "---".toList ∉ split '\n' (settingsText subject.config) ∧
      Config.parse (settingsText subject.config) = .ok subject.config) := by
  refine ⟨?_, fun hshown => ⟨limit_not_mem_split_settingsText hshown, ?_⟩⟩
  · rw [← blockText_frontMatter]
    exact ⟨_, rfl⟩
  · obtain ⟨htitle, hlists⟩ := List.forall_mem_cons.mp hshown
    exact parse_settingsText_of_title htitle.clean (readsBefore_plain htitle.plain) hlists

/-- Settings with marks that mean nothing where they stand, and a list without items. -/
def walletConfig : Config where
  title := "C#/Go wallet (v2:1), - beta".toList
  languageTabs := ["shell".toList, "-go".toList, [], "c++".toList]
  tocFooters := []
  search := false

theorem settings_of_walletFrontMatter :
    (∀ t ∈ shownTexts walletConfig, StandsAlone t) ∧
      "---".toList ∉ split '\n' (settingsText walletConfig) ∧
      Config.parse (settingsText walletConfig) = .ok walletConfig := by
  have hshown : ∀ t ∈ shownTexts walletConfig, StandsAlone t := by decide
  exact ⟨hshown,
    (settings_of_frontMatter ⟨Schema.empty, "wallet.proto".toList, walletConfig⟩).2 hshown⟩

end RpcReference.Document
