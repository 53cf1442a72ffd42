import RpcReference.Proofs.FrontMatter
/-!
# Titles that do not come back

The title stands in the front matter without quotes. If a blank and a number sign are in it, it is
read up to there and the rest is lost as a comment. If a colon and a blank are in it, the front
matter is no configuration at all.
-/

namespace RpcReference.Yaml

open Text

namespace Lexer

variable {s m : Lexer} {rest next : Text} {column : Nat} {indents : List Nat} {keyAllowed : Bool}
  {tokens : List Token}

/-! ### Comments -/

theorem plain?_comment (context : PlainContext) (mark : Mark) (rest : Text) :
    plain? context .empty mark (' ' :: '#' :: rest) =
      some (⟨[], mark.forward 1, '#' :: rest⟩, false) := by
  have hstops : context.stops (.inline [' ']) (mark.over ' ') '#' rest = true := by
    simp [PlainContext.stops, Gap.isEmpty]
  have htab : context.refusesTab .empty mark ' ' = false := rfl
  have hgap : Gap.add .empty ' ' = .inline [' '] := rfl
  rw [plain?, if_pos (show isWhite ' ' = true from rfl), htab, if_neg Bool.false_ne_true, hgap,
    plain?, if_neg (by decide), hstops, if_pos rfl]
  rfl

theorem skipWhite_comment {comment : Text} (hcomment : Unbroken comment) (flow keyAllowed : Bool)
    (mark : Mark) (next : Text) :
    skipWhite flow true keyAllowed mark (comment ++ '\n' :: next) =
      skipWhite flow false (keyAllowed || !flow) (mark.forward comment.length).nextLine next := by
  induction comment generalizing mark with
  | nil =>
    rw [List.nil_append, skipWhite, if_pos (show isBreak '\n' = true from rfl)]
    rfl
  | cons c comment ih =>
    obtain ⟨hc, hcomment⟩ := List.forall_mem_cons.mp hcomment
    rw [List.cons_append, skipWhite, if_neg (by simp [hc]), if_pos (by simp), ih hcomment,
      Mark.forward_forward, List.length_cons, Nat.add_comm]

theorem leads_comment {comment : Text} (hcomment : Unbroken comment) (next : Text) (column : Nat)
    (indents : List Nat) (keyAllowed : Bool) (tokens : List Token) :
    View.Leads ⟨'#' :: (comment ++ '\n' :: next), column, indents, 0, keyAllowed, tokens⟩
      ⟨next, 0, indents, 0, true, tokens⟩ := by
  apply leads_of_toToken (by simp; omega)
  intro s hs
  refine ⟨{ s with
    rest := next
    mark := ((s.mark.forward 1).forward comment.length).nextLine
    keyAllowed := true }, ?_, { hs with rest := rfl, column := rfl, keyAllowed := rfl }⟩
  have hflow : s.inFlow = false := hs.inFlow
  have hflow' (next : Text) (mark : Mark) :
      Lexer.inFlow { s with rest := next, mark, keyAllowed := true } = false := hflow
  rw [toToken, toToken, hs.rest, hflow, hflow', skipWhite, if_neg (by decide), if_pos (by simp),
    skipWhite_comment hcomment, Bool.not_false, Bool.or_true]

theorem unbroken_of_isSpacing {t : Text} (ht : IsSpacing t) (hline : '\n' ∉ t) : Unbroken t := by
  intro c hc
  obtain rfl | rfl := ht c hc
  · rfl
  · exact absurd hc hline

/-- A comment, and empty lines below it. -/
theorem leads_commentLines {comment gap : Text} (hcomment : Unbroken comment) (hgap : IsSpacing gap)
    (next : Text) (column : Nat) (indents : List Nat) (keyAllowed : Bool) (tokens : List Token) :
    View.Leads
      ⟨'#' :: (comment ++ (gap ++ '\n' :: next)), column, indents, 0, keyAllowed, tokens⟩
      ⟨next, 0, indents, 0, true, tokens⟩ := by
  have hwith {front : Text} (hfront : IsSpacing front) (hline : '\n' ∉ front) :
      Unbroken (comment ++ front) :=
    List.forall_mem_append.mpr ⟨hcomment, unbroken_of_isSpacing hfront hline⟩
  by_cases hline : '\n' ∈ gap
  · obtain ⟨front, back, rfl, hfront⟩ := List.eq_append_cons_of_mem hline
    obtain ⟨hspaces, hback⟩ := List.forall_mem_append.mp hgap
    have hleads := leads_comment (hwith hspaces hfront) (back ++ '\n' :: next) column indents
      keyAllowed tokens
    rw [List.append_assoc] at hleads
    rw [List.append_assoc, List.cons_append]
    exact hleads.trans (leads_line (List.forall_mem_cons.mp hback).2 0 next _ _ _ _)
  · rw [← List.append_assoc]
    exact leads_comment (hwith hgap hline) next column indents keyAllowed tokens

/-! ### Colons -/

/-- The lexer does not get to the end of the text. -/
def Stuck (s : Lexer) : Prop :=
  ∀ bound, s.run? bound = none

theorem Stuck.of_token {c : Char} (h : s.settled? = some m) (hrest : m.rest = c :: rest)
    (htoken : m.token? c rest = none) : Stuck s := by
  intro bound
  cases bound with
  | zero => rfl
  | succ bound =>
    rw [run?_succ, h, Option.bind_some, hrest]
    dsimp only
    rw [htoken, Option.bind_none]

/-- The lexer is in a state with the given view, and no key can begin before the place. -/
structure ShowsNoKey (s : Lexer) (v : View) : Prop where
  view : s.Shows v
  key : s.key = none

theorem ShowsNoKey.settled?_eq {c : Char} (hs : s.ShowsNoKey ⟨c :: rest, column, indents, 0,
    keyAllowed, tokens⟩) (hc : StartsToken column c)
    (hblocks : indents.head?.all (· ≤ column) = true) : s.settled? = some s := by
  refine hs.view.dropKey.settled?_eq ?_ hc hblocks
  rw [hs.key]
  nofun

theorem ShowsNoKey.valueMark?_eq_none
    (hs : s.ShowsNoKey ⟨rest, column, indents, 0, false, tokens⟩) : s.valueMark? = none := by
  have hflow : s.inFlow = false := hs.view.inFlow
  have hallowed : s.keyAllowed = false := hs.view.keyAllowed
  rw [valueMark?, hs.key]
  dsimp only
  rw [openBlockHere?, hflow, if_neg Bool.false_ne_true, hallowed, if_neg Bool.false_ne_true]
  rfl

theorem ShowsNoKey.exists_space
    (hs : s.ShowsNoKey ⟨' ' :: rest, column, indents, 0, false, tokens⟩) :
    ∃ m : Lexer, s.Reads m ∧ m.ShowsNoKey ⟨rest, column + 1, indents, 0, false, tokens⟩ := by
  refine ⟨{ s with rest, mark := s.mark.forward 1 }, Reads.of_settled ?_ ?_,
    { hs.view with rest := rfl, column := congrArg (· + 1) hs.view.column }, hs.key⟩
  · rw [settled?, settled?, toToken, hs.view.rest]
    rfl
  · rw [hs.view.rest]
    exact Nat.le_succ _

/-- A plain scalar in front of a colon leaves no place of a key, where none may begin. -/
theorem ShowsNoKey.exists_scalar {c : Char} {t : Text}
    (hs : s.ShowsNoKey ⟨c :: (t ++ ':' :: rest), column, indents, 0, false, tokens⟩)
    (ht : IsPlainText (c :: t)) (hwhite : atWhite rest = true) (hcolumn : 0 < column)
    (hblocks : indents.head?.all (· ≤ column) = true) :
    ∃ k : Lexer, s.Reads k ∧ k.ShowsNoKey ⟨':' :: rest, column + (c :: t).length, indents, 0, false,
      tokens ++ [.scalar (c :: t) .plain]⟩ := by
  have hsettled := hs.settled?_eq (.of_plain ht fun _ => Nat.ne_of_gt hcolumn) hblocks
  have hnote : s.noteKey? = some { s with key := none } := by
    rw [noteKey?, if_neg (by rw [hs.view.keyAllowed]; exact Bool.false_ne_true), ← hs.key]
  have hlimit : s.mark.atLimit (c :: (t ++ ':' :: rest)) = false :=
    Mark.atLimit_of_pos (by rw [hs.view.column]; exact hcolumn) _
  have htoken := hs.view.token?_eq_of_colon ht hwhite hblocks hlimit hnote
  have hshows := hs.view.dropKey.emitScalar
    ⟨c :: t, s.mark.forward (c :: t).length, ':' :: rest⟩ .plain false
  rw [Mark.forward_column, hs.view.column] at hshows
  refine ⟨_, Reads.of_token hsettled hs.view.rest htoken ?_, hshows, rfl⟩
  rw [hs.view.rest]
  exact Nat.lt_succ_of_le (List.suffix_append t (':' :: rest)).length_le

/-- Where no key may begin and none has begun, there is no way past a colon. -/
theorem ShowsNoKey.stuck (hs : s.ShowsNoKey ⟨':' :: rest, column, indents, 0, false, tokens⟩)
    (hwhite : atWhite rest = true) (hblocks : indents.head?.all (· ≤ column) = true) : s.Stuck := by
  refine Stuck.of_token (hs.settled?_eq (.of_ne rfl (by decide) (by decide)) hblocks) hs.view.rest ?_
  rw [← hs.valueMark?_eq_none]
  simp [token?, atLimit_cons, hwhite]

end Lexer

theorem tokens?_eq_none_of_stuck {t : Text} (ht : IsClean t) {s : Lexer}
    (hreads : (Lexer.start t).Reads s) (hs : s.Stuck) : tokens? t = none := by
  obtain ⟨bound, htokens⟩ := exists_tokens?_eq ht hreads
  rw [htokens, hs]

/-- On the line of the first key a second colon makes the text unreadable. -/
theorem tokens?_secondColon {name t rest : Text} (hname : IsKeyName name) (ht : IsPlainText t)
    (hne : t ≠ []) (hwhite : atWhite rest = true)
    (hclean : IsClean (name ++ ':' :: ' ' :: (t ++ ':' :: rest))) :
    tokens? (name ++ ':' :: ' ' :: (t ++ ':' :: rest)) = none := by
  have hplain := hname.plain
  obtain ⟨c, n, rfl, hbegins, hshort⟩ := hname.exists_eq_cons
  obtain ⟨d, u, rfl⟩ := List.exists_cons_of_ne_nil hne
  have hstart := Lexer.start_shows (c :: (n ++ ':' :: ' ' :: (d :: u ++ ':' :: rest)))
  obtain ⟨s, hread, hkey, hs⟩ := hstart.exists_key hplain hbegins hshort rfl (.inl rfl)
  obtain ⟨s', hread', hs'⟩ := Lexer.ShowsNoKey.exists_space ⟨hs, hkey⟩
  obtain ⟨k, hread'', hk⟩ := hs'.exists_scalar ht hwhite (Nat.succ_pos _) (by simp)
  exact tokens?_eq_none_of_stuck hclean (hread.trans (hread'.trans hread''))
    (hk.stuck hwhite (by simp))

/-- A comment behind a value is passed over. -/
theorem readsBefore_comment {t comment : Text} (ht : IsPlainText t) (hne : t ≠ [])
    (hcomment : Unbroken comment) :
    ReadsBefore (' ' :: (t ++ ' ' :: '#' :: comment)) (plainTokens t) := by
  intro gap c hgap hc rest column before
  obtain ⟨d, t, rfl⟩ := List.exists_cons_of_ne_nil hne
  have htext : ' ' :: (d :: t ++ ' ' :: '#' :: comment) ++ (gap ++ '\n' :: c :: rest) =
      ' ' :: d :: (t ++ ' ' :: '#' :: (comment ++ (gap ++ '\n' :: c :: rest))) := by simp
  rw [htext, plainTokens, if_neg hne]
  refine (Lexer.leads_space _ column [0] 0 false before).trans ?_
  refine Lexer.View.Leads.trans (Lexer.leads_plainToken ht (Nat.succ_pos column) (by simp) (.inl rfl)
    (Nat.le_succ _) (fun mark hmark => ⟨mark.forward 1, congrArg (· + 1) hmark,
      Lexer.plain?_comment _ mark _⟩) before) ?_
  exact Lexer.leads_commentLines hcomment hgap (c :: rest) _ [0] false _

end RpcReference.Yaml

namespace RpcReference.Document

open Text Yaml Config

/-- Of a title with a number sign behind a blank, what stands in front of them comes back. -/
theorem parse_settingsText_numberSign {config : Config} {front comment : Text}
    (htitle : config.title = front ++ ' ' :: '#' :: comment) (hfront : StandsAlone front)
    (hne : front ≠ []) (hcomment : Unbroken comment) (hclean : IsClean comment)
    (hlists : ∀ t ∈ config.languageTabs ++ config.tocFooters, StandsAlone t) :
    Config.parse (settingsText config) = .ok { config with title := front } := by
  refine parse_settingsText_of_title ?_ ?_ hlists
  · rw [htitle]
    exact isClean_append.mpr ⟨hfront.clean,
      isClean_cons.mpr ⟨by decide, isClean_cons.mpr ⟨by decide, hclean⟩⟩⟩
  · rw [htitle]
    exact readsBefore_comment (hfront.plain.resolve_left hne) hne hcomment

theorem exists_settingsText_eq_title (config : Config) :
    ∃ rest, settingsText config = Key.title.name ++ ':' :: ' ' :: (config.title ++ rest) :=
  ⟨_, (settingsText_eq_mappingText config []).trans (mappingText_cons _ _ _)⟩

/-- A title with a colon in front of a blank makes the front matter unreadable. -/
theorem parse_settingsText_colon {config : Config} {front back : Text}
    (htitle : config.title = front ++ ':' :: ' ' :: back) (hfront : IsPlainText front)
    (hne : front ≠ []) (hclean : ∀ t ∈ shownTexts config, IsClean t) :
    Config.parse (settingsText config) = .error .notYaml := by
  have hclean' := isClean_settingsText hclean
  obtain ⟨rest, htext⟩ : ∃ rest, settingsText config =
      Key.title.name ++ ':' :: ' ' :: (front ++ ':' :: ' ' :: rest) := by
    obtain ⟨rest, htext⟩ := exists_settingsText_eq_title config
    refine ⟨back ++ rest, ?_⟩
    rw [htext, htitle, List.append_assoc]
    rfl
  have hcolon : ':' ∈ settingsText config := by
    rw [htext]
    exact List.mem_append_right _ List.mem_cons_self
  have hnone : parse? (settingsText config) = none := by
    rw [htext] at hclean' ⊢
    rw [parse?, tokens?_secondColon (isKeyName_name _) hfront hne rfl hclean']
    rfl
  rw [Config.parse, isEmpty_trim_eq_false hcolon rfl, if_neg Bool.false_ne_true, hnone]

/-- The standard settings under another title. -/
def titled (title : Text) : Config :=
  { Config.standard with title }

/-- One title is refused, and of another one the end is lost. -/
theorem lost_titles :
    Config.parse (settingsText (titled "Payments: v2".toList)) = .error .notYaml ∧
      Config.parse (settingsText (titled "Wallet API #2".toList)) =
        .ok (titled "Wallet API".toList) := by
  have hcolon : (titled "Payments: v2".toList).title =
      "Payments".toList ++ ':' :: ' ' :: "v2".toList := rfl
  have hsign : (titled "Wallet API #2".toList).title =
      "Wallet API".toList ++ ' ' :: '#' :: "2".toList := rfl
  exact ⟨parse_settingsText_colon hcolon (by decide) (by decide) (by decide),
    parse_settingsText_numberSign hsign (by decide) (by decide) (by decide) (by decide)
      (List.forall_mem_cons.mp standsAlone_standard).2⟩

end RpcReference.Document
