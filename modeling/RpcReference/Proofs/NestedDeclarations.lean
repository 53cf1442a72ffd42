import RpcReference.Proofs.BraceBalance
import RpcReference.Proofs.Concatenation
/-!
# Declarations inside a message

A block of lines inside a message is read twice: the scan of the message passes over it, and the
declarations in it are read as if they stood on their own. So the block can be moved behind the
message. The message keeps its fields, because the scan comes out of the block as it went in, and
the declarations of the block keep what they say, because their bodies end inside the block and no
comment stands directly above it in either place.
-/

namespace RpcReference.Source

open Text

/-! ### Places inside a block -/

/-- The place in a larger file, where more lines stand above and below. -/
def Site.within (above below : List Text) (site : Site) : Site :=
  ⟨site.above ++ above, site.line, site.below ++ below⟩

theorem sitesFrom_append (inner above block below : List Text) :
    sitesFrom (inner ++ above) (block ++ below) =
      (sitesFrom inner block).map (Site.within above below) ++
        sitesFrom (block.reverse ++ (inner ++ above)) below := by
  induction block generalizing inner with
  | nil => rfl
  | cons line block ih =>
    have hblock := ih (line :: inner)
    rw [List.cons_append] at hblock
    simp [sitesFrom, hblock, Site.within]

theorem sites_append_append (above block below : List Text) :
    sites (above ++ (block ++ below)) =
      (sites above).map (Site.within [] (block ++ below)) ++
        ((sites block).map (Site.within above.reverse below) ++
          sitesFrom (block.reverse ++ above.reverse) below) := by
  have habove := sitesFrom_append [] [] above (block ++ below)
  have hblock := sitesFrom_append [] above.reverse block below
  simp only [List.append_nil, List.nil_append] at habove hblock
  rw [sites, habove, hblock]
  rfl

namespace Kind

variable {α : Type} {kind : Kind α}

/-- The name that a line declares wherever it stands. -/
def lineName? (kind : Kind α) (line : Text) : Option Text :=
  kind.name? ⟨[], line, []⟩

theorem lineName?_openingLine {name : Text} (hname : kind.name (name ++ [' ', '{']) = name)
    (hne : name ≠ []) : kind.lineName? (openingLine kind.keyword.word name) = some name :=
  name?_of_named (declaration?_openingLine kind.keyword name) hname hne

def declared (kind : Kind α) (ls : List Text) : List Text :=
  ls.filterMap kind.lineName?

theorem mem_declared {ls : List Text} {name : Text} :
    name ∈ kind.declared ls ↔ ∃ line ∈ ls, kind.lineName? line = some name :=
  List.mem_filterMap

theorem declared_append (ls tail : List Text) :
    kind.declared (ls ++ tail) = kind.declared ls ++ kind.declared tail :=
  List.filterMap_append

theorem declared_cons_of_undeclared {line : Text} (h : declaration? line = none)
    (ls : List Text) : kind.declared (line :: ls) = kind.declared ls := by
  have hline : kind.lineName? line = none := name?_of_undeclared h
  rw [declared, List.filterMap_cons_none hline, declared]

/-- The name stands for the same in both files. -/
def Agree (kind : Kind α) (source other name : Text) : Prop :=
  ∃ value, (kind.table (findings source).schema).get? name = some value ∧
    (kind.table (findings other).schema).get? name = some value

theorem find?_reverse_eq_none {xs : List Site} {name : Text}
    (h : name ∉ kind.declared (xs.map Site.line)) :
    xs.reverse.find? (fun site => kind.name? site = some name) = none := by
  rw [List.find?_eq_none]
  intro site hsite hname
  rw [decide_eq_true_eq] at hname
  have hline : site.line ∈ xs.map Site.line := List.mem_map_of_mem (List.mem_reverse.mp hsite)
  exact h (mem_declared.mpr ⟨site.line, hline, hname⟩)

/-- A name stands for what the last line says that declares it. -/
theorem Lawful.get?_of_last (hkind : kind.Lawful) {source name line : Text}
    {above below : List Text} (hlines : lines source = above ++ line :: below)
    (hline : kind.lineName? line = some name) (hbelow : name ∉ kind.declared below) :
    (kind.table (findings source).schema).get? name =
      some (kind.read ⟨above.reverse, line, below⟩ name) := by
  have hsites := sitesFrom_append [] [] above (line :: below)
  simp only [List.append_nil] at hsites
  have hback : (sitesFrom (line :: above.reverse) below).reverse.find?
      (fun site => kind.name? site = some name) = none :=
    find?_reverse_eq_none (by rwa [map_line_sitesFrom])
  have hplace : kind.name? ⟨above.reverse, line, below⟩ = some name := hline
  rw [(hkind.lastWins source).values, lastSite?, hlines, sites, hsites, sitesFrom,
    List.reverse_append, List.reverse_cons, List.append_assoc, List.find?_append, hback,
    Option.none_or, List.singleton_append, List.find?_cons_of_pos (by simpa using hplace)]
  rfl

/-- A name that only the lines of a block declare stands for what the last of them says, read in its
place in the file. -/
theorem Lawful.get?_of_block (hkind : kind.Lawful) {source name : Text}
    {above block below : List Text} (hlines : lines source = above ++ (block ++ below))
    (habove : name ∉ kind.declared above) (hbelow : name ∉ kind.declared below) :
    (kind.table (findings source).schema).get? name =
      ((sites block).reverse.find? fun site => kind.name? site = some name).map fun site =>
        kind.read (site.within above.reverse below) name := by
  have hline (front back : List Text) : Site.line ∘ Site.within front back = Site.line := rfl
  have hfront : ((sites above).map (Site.within [] (block ++ below))).reverse.find?
      (fun site => kind.name? site = some name) = none :=
    find?_reverse_eq_none (by simpa [hline, sites] using habove)
  have hback : (sitesFrom (block.reverse ++ above.reverse) below).reverse.find?
      (fun site => kind.name? site = some name) = none :=
    find?_reverse_eq_none (by simpa using hbelow)
  rw [(hkind.lastWins source).values, lastSite?, hlines, sites_append_append,
    List.reverse_append, List.reverse_append, List.find?_append, List.find?_append, hfront, hback,
    Option.or_none, Option.none_or, ← List.map_reverse, List.find?_map, Option.map_map]
  rfl

/-- Two files agree on a name that only the lines of one block declare, if the block stands in both
files and each of these lines says the same in both. -/
theorem Lawful.agree_of_block (hkind : kind.Lawful) {source other name : Text}
    {block above below above' below' : List Text}
    (hsource : lines source = above ++ (block ++ below))
    (hother : lines other = above' ++ (block ++ below'))
    (hname : name ∈ kind.declared block)
    (honly : name ∉ kind.declared (above ++ below))
    (honly' : name ∉ kind.declared (above' ++ below'))
    (hread : ∀ site ∈ sites block, kind.name? site = some name →
      kind.read (site.within above.reverse below) name =
        kind.read (site.within above'.reverse below') name) :
    kind.Agree source other name := by
  rw [declared_append, List.mem_append, not_or] at honly honly'
  rw [Agree, hkind.get?_of_block hsource honly.1 honly.2,
    hkind.get?_of_block hother honly'.1 honly'.2]
  cases hlast : (sites block).reverse.find? fun site => kind.name? site = some name with
  | none =>
    obtain ⟨line, hline, hlineName⟩ := mem_declared.mp hname
    rw [← map_line_sitesFrom [] block] at hline
    obtain ⟨site, hsite, rfl⟩ := List.mem_map.mp hline
    have hnone := List.find?_eq_none.mp hlast site (List.mem_reverse.mpr hsite)
    rw [decide_eq_true_eq] at hnone
    exact absurd hlineName hnone
  | some last =>
    have hmem := List.mem_reverse.mp (List.mem_of_find?_eq_some hlast)
    have hlastName := List.find?_some hlast
    rw [decide_eq_true_eq] at hlastName
    exact ⟨_, rfl, congrArg some (hread last hmem hlastName).symm⟩

end Kind

/-! ### Depth -/

/-- How many more braces the lines open than they close. -/
def totalSurplus : List Text → Int
  | [] => 0
  | line :: ls => surplus line + totalSurplus ls

@[simp] theorem totalSurplus_nil : totalSurplus [] = 0 := rfl

@[simp] theorem totalSurplus_cons (line : Text) (ls : List Text) :
    totalSurplus (line :: ls) = surplus line + totalSurplus ls := rfl

@[simp] theorem totalSurplus_append (ls tail : List Text) :
    totalSurplus (ls ++ tail) = totalSurplus ls + totalSurplus tail := by
  induction ls with
  | nil => simp
  | cons line ls ih => simp [ih, Int.add_assoc]

/-- No comment among the lines has a brace. -/
def CommentsBraceless (ls : List Text) : Prop :=
  ∀ line ∈ ls, isBodyComment line = true → '{' ∉ line ∧ '}' ∉ line

instance (ls : List Text) : Decidable (CommentsBraceless ls) :=
  inferInstanceAs (Decidable (∀ line ∈ ls, isBodyComment line = true → '{' ∉ line ∧ '}' ∉ line))

theorem CommentsBraceless.balanceAfter_eq {ls : List Text} (h : CommentsBraceless ls) {line : Text}
    (hline : line ∈ ls) (b : Int) : balanceAfter b line = b + surplus line := by
  unfold balanceAfter
  split
  · next hboth =>
    obtain ⟨hopen, hclose⟩ := h line hline hboth.2
    rw [surplus_eq_zero hopen hclose, Int.add_zero]
  · rfl

theorem CommentsBraceless.depth_after {ls : List Text} (h : CommentsBraceless ls)
    {s next : BodyState} (hafter : s.after ls = some next) :
    (next.depth : Int) = s.depth + totalSurplus ls := by
  induction ls generalizing s with
  | nil =>
    cases hafter
    simp
  | cons line ls ih =>
    have hls : CommentsBraceless ls := fun l hl => h l (List.mem_cons_of_mem _ hl)
    have hbalance := h.balanceAfter_eq List.mem_cons_self s.depth
    rw [BodyState.after, readLine_eq_role s.depth s.pending line, hbalance] at hafter
    by_cases hclose : (s.depth : Int) + surplus line < 0
    · simp [hclose] at hafter
    · rw [if_neg hclose] at hafter
      have hdepth := ih hls hafter
      dsimp only at hdepth
      rw [hdepth, totalSurplus_cons]
      omega

theorem CommentsBraceless.after_eq_none {ls : List Text} (h : CommentsBraceless ls)
    (hsurplus : totalSurplus ls < 0) : BodyState.start.after ls = none := by
  cases hafter : BodyState.start.after ls with
  | none => rfl
  | some s =>
    have hdepth := h.depth_after hafter
    simp only [BodyState.start] at hdepth
    omega

theorem exists_closing_of_totalSurplus {ls : List Text} (h : totalSurplus ls < 0) :
    ∃ line ∈ ls, '}' ∈ line := by
  induction ls with
  | nil => simp at h
  | cons line ls ih =>
    by_cases hline : '}' ∈ line
    · exact ⟨line, List.mem_cons_self, hline⟩
    · have hcount : line.count '}' = 0 := List.count_eq_zero.mpr hline
      have hls : totalSurplus ls < 0 := by
        rw [totalSurplus_cons, surplus, hcount] at h
        omega
      obtain ⟨l, hl, hclose⟩ := ih hls
      exact ⟨l, List.mem_cons_of_mem _ hl, hclose⟩

theorem readLine_opening {line : Text} (hline : isBodyComment line = false)
    (hsurplus : 1 ≤ surplus line) :
    BodyState.start.readLine line = .next none ⟨(surplus line).toNat, []⟩ := by
  have hopen : '{' ∈ line := by
    rw [← List.count_pos_iff]
    unfold surplus at hsurplus
    omega
  rw [BodyState.start, readLine_brace hline (Or.inl hopen), if_neg (by omega)]

theorem readLine_last_closing {depth : Nat} {line : Text} (hdepth : 0 < depth)
    (hline : depth + surplus line = 0) (comment : Text) :
    BodyState.readLine ⟨depth, comment⟩ line = .next none ⟨0, comment⟩ := by
  rw [readLine_nested hdepth, hline]
  rfl

/-- Lines that are all met inside nested braces declare no field and leave the pending comment. -/
theorem after_and_fields_nested (depth : Nat) (comment : Text) {ls : List Text}
    (h : ∀ i ≤ ls.length, 1 ≤ depth + totalSurplus (ls.take i)) :
    BodyState.after ⟨depth, comment⟩ ls = some ⟨(depth + totalSurplus ls).toNat, comment⟩ ∧
      BodyState.fields ⟨depth, comment⟩ ls = [] := by
  induction ls generalizing depth with
  | nil => simp [BodyState.after, BodyState.fields]
  | cons line ls ih =>
    have hstart := h 0 (Nat.zero_le _)
    rw [List.take_zero, totalSurplus_nil] at hstart
    have hdepth : 0 < depth := by omega
    have hline : 1 ≤ depth + surplus line := by simpa using h 1 (by simp)
    have hnext : ((depth + surplus line).toNat : Int) = depth + surplus line :=
      Int.toNat_of_nonneg (by omega)
    obtain ⟨hafter, hfields⟩ := ih (depth + surplus line).toNat fun i hi => by
      have htake := h (i + 1) (by simpa using hi)
      rw [List.take_succ_cons, totalSurplus_cons] at htake
      omega
    rw [BodyState.after, BodyState.fields, readLine_nested hdepth, if_neg (by omega)]
    dsimp only
    rw [hafter, hfields, hnext, totalSurplus_cons, Int.add_assoc]
    exact ⟨rfl, rfl⟩

/-! ### Moving a block -/

/-- A file with a block of lines, `first` to `last`, in the body of the message that `outer`
declares. -/
structure Nesting where
  above : List Text
  outer : Text
  front : List Text
  first : Text
  middle : List Text
  last : Text
  back : List Text
  below : List Text
  deriving DecidableEq, Repr

namespace Nesting

def block (n : Nesting) : List Text :=
  n.first :: n.middle ++ [n.last]

def nested (n : Nesting) : List Text :=
  n.above ++ n.outer :: (n.front ++ n.block ++ n.back ++ n.below)

/-- The lines with the block behind the message. -/
def hoisted (n : Nesting) : List Text :=
  n.above ++ n.outer :: (n.front ++ n.back ++ n.block ++ n.below)

/-- The lines that stay. -/
def others (n : Nesting) : List Text :=
  n.above ++ n.outer :: (n.front ++ n.back ++ n.below)

/-- The block can be moved out of the message that has the name. -/
structure Hoistable (n : Nesting) (name : Text) : Prop where
  comments : CommentsBraceless n.nested
  outer : Kind.messages.lineName? n.outer = some name
  /-- The block stands at the beginning of the body or below a line at which the scan of the message
  finds a field. -/
  front : n.front = [] ∨ ∃ before line s field next, n.front = before ++ [line] ∧
    BodyState.start.after before = some s ∧ s.readLine line = .next (some field) next
  first : isBodyComment n.first = false
  inside : ∀ i ≤ n.middle.length, 1 ≤ totalSurplus (n.first :: n.middle.take i)
  closed : totalSurplus n.block = 0
  last : declaration? n.last = none
  /-- The last line of `back` ends the scan of the message. -/
  stays : BodyState.start.after (n.front ++ n.block ++ n.back.dropLast) ≠ none
  ends : BodyState.start.after (n.front ++ n.block ++ n.back) = none
  alone : name ∉ Kind.messages.declared (n.above ++ (n.front ++ n.block ++ n.back ++ n.below))
  messages : ∀ inner ∈ Kind.messages.declared n.block, inner ∉ Kind.messages.declared n.others
  enums : ∀ inner ∈ Kind.enums.declared n.block, inner ∉ Kind.enums.declared n.others

namespace Hoistable

variable {n : Nesting} {name : Text}

/-! ### The scan of the message -/

theorem after_front (h : n.Hoistable name) : BodyState.start.after n.front = some .start := by
  rcases h.front with hnil | ⟨before, line, s, field, next, hfront, hbefore, hline⟩
  · rw [hnil]
    rfl
  · rw [hfront, BodyState.after_append, hbefore, Option.bind_some, BodyState.after, hline,
      (eq_start_of_readLine_field hline).1]
    rfl

/-- The scan comes out of the block as it went in. -/
theorem after_and_fields_block (h : n.Hoistable name) :
    BodyState.start.after n.block = some .start ∧ BodyState.start.fields n.block = [] := by
  have hfirst : 1 ≤ surplus n.first := by simpa using h.inside 0 (Nat.zero_le _)
  have hdepth : ((surplus n.first).toNat : Int) = surplus n.first :=
    Int.toNat_of_nonneg (by omega)
  have hmiddle : ∀ i ≤ n.middle.length,
      1 ≤ (surplus n.first).toNat + totalSurplus (n.middle.take i) := by
    intro i hi
    have htake := h.inside i hi
    rw [totalSurplus_cons] at htake
    omega
  obtain ⟨hafter, hfields⟩ := after_and_fields_nested _ [] hmiddle
  rw [hdepth] at hafter
  have hlast : BodyState.readLine ⟨(surplus n.first + totalSurplus n.middle).toNat, []⟩ n.last =
      .next none .start := by
    have hinside := h.inside n.middle.length (Nat.le_refl _)
    have hclosed := h.closed
    rw [List.take_length, totalSurplus_cons] at hinside
    simp only [block, totalSurplus_append, totalSurplus_cons, totalSurplus_nil] at hclosed
    exact readLine_last_closing (by omega) (by omega) []
  rw [block, List.cons_append, BodyState.after, BodyState.fields, readLine_opening h.first hfirst]
  dsimp only
  rw [BodyState.after_append, BodyState.fields_append, hafter, hfields, Option.bind_some,
    Option.elim_some, BodyState.after, BodyState.fields, hlast]
  exact ⟨rfl, rfl⟩

theorem after_front_append (h : n.Hoistable name) (ls : List Text) :
    BodyState.start.after (n.front ++ n.block ++ ls) = BodyState.start.after ls := by
  rw [BodyState.after_append, BodyState.after_append, h.after_front, Option.bind_some,
    h.after_and_fields_block.1, Option.bind_some]

theorem after_back (h : n.Hoistable name) : BodyState.start.after n.back = none := by
  rw [← h.after_front_append, h.ends]

/-- The message has the same fields in both files. -/
theorem bodyFields_eq (h : n.Hoistable name) :
    bodyFields (n.front ++ n.back ++ n.block ++ n.below) =
      bodyFields (n.front ++ n.block ++ n.back ++ n.below) := by
  have hback (tail : List Text) := BodyState.fields_append_of_after_eq_none h.after_back tail
  obtain ⟨hafter, hfields⟩ := h.after_and_fields_block
  simp only [bodyFields, List.append_assoc, BodyState.fields_append _ n.front, h.after_front,
    BodyState.fields_append _ n.block, hafter, hfields, hback, Option.elim_some, List.nil_append]

/-! ### The declarations of the block -/

/-- The scan of the message ends with a line that is no comment. -/
theorem exists_back_eq_concat (h : n.Hoistable name) :
    ∃ start line, n.back = start ++ [line] ∧ isBodyComment line = false := by
  have hafter := h.after_back
  have hstays := h.stays
  obtain hnil | ⟨start, line, hback⟩ := List.eq_nil_or_concat' n.back
  · rw [hnil] at hafter
    cases hafter
  refine ⟨start, line, hback, ?_⟩
  rw [hback, List.dropLast_concat, h.after_front_append] at hstays
  obtain ⟨s, hs⟩ := Option.ne_none_iff_exists'.mp hstays
  have hclose : s.readLine line = .close := by
    rw [hback, BodyState.after_append, hs, Option.bind_some, BodyState.after] at hafter
    cases hline : s.readLine line with
    | close => rfl
    | next field next => simp [hline, BodyState.after] at hafter
  have hmem : line ∈ n.nested := by simp [nested, hback]
  cases hcomment : isBodyComment line with
  | false => rfl
  | true => exact absurd (closing_of_readLine_close hclose) (h.comments line hmem hcomment).2

theorem clear_nested (h : n.Hoistable name) : Clear (n.above ++ n.outer :: n.front).reverse := by
  rcases h.front with hnil | ⟨before, line, s, field, next, hfront, -, hline⟩
  · obtain ⟨rest, houter, -⟩ := Kind.exists_of_name? h.outer
    rw [hnil, List.reverse_concat]
    exact clear_cons (isBodyComment_of_declaration? houter) _
  · rw [hfront, ← List.cons_append, ← List.append_assoc, List.reverse_concat]
    exact clear_cons (eq_start_of_readLine_field hline).2 _

theorem clear_hoisted (h : n.Hoistable name) :
    Clear (n.above ++ n.outer :: (n.front ++ n.back)).reverse := by
  obtain ⟨start, line, hback, hcomment⟩ := h.exists_back_eq_concat
  rw [hback, ← List.append_assoc, ← List.cons_append, ← List.append_assoc, List.reverse_concat]
  exact clear_cons hcomment _

/-- Below a line of the block that declares something, more braces are closed than opened. -/
theorem totalSurplus_below (h : n.Hoistable name) {site : Site} (hsite : site ∈ sites n.block)
    {found : Keyword × Text} (hline : declaration? site.line = some found) :
    totalSurplus site.below < 0 := by
  -- The block is balanced, and down to any line but its last it has opened more than it has closed.
  have hlines := lines_of_mem_sites hsite
  have hclosed := h.closed
  rw [← hlines, totalSurplus_append, totalSurplus_cons] at hclosed
  obtain hnil | ⟨start, line, hbelow⟩ := List.eq_nil_or_concat' site.below
  · rw [hnil, block] at hlines
    have hlast := (List.append_inj' hlines rfl).2
    rw [List.singleton_inj] at hlast
    rw [hlast, h.last] at hline
    cases hline
  · rw [hbelow, block, ← List.cons_append, ← List.append_assoc] at hlines
    have hfront := (List.append_inj' hlines rfl).1
    rw [← List.singleton_append, ← List.append_assoc] at hfront
    obtain ⟨first, front, hconcat⟩ := List.exists_cons_of_ne_nil
      (List.concat_ne_nil site.line site.above.reverse)
    rw [hconcat, List.cons_append, List.cons.injEq] at hfront
    obtain ⟨rfl, hmiddle⟩ := hfront
    have hinside := h.inside front.length (by simp [← hmiddle])
    rw [← hmiddle, List.take_left, ← hconcat] at hinside
    simp only [totalSurplus_append, totalSurplus_cons, totalSurplus_nil] at hinside
    omega

theorem commentsBraceless_below (h : n.Hoistable name) {site : Site}
    (hsite : site ∈ sites n.block) : CommentsBraceless site.below := by
  intro line hline
  have hblock : line ∈ n.block := by
    rw [← lines_of_mem_sites hsite]
    simp [hline]
  exact h.comments line (by simp [nested, hblock])

theorem readMessage_within (h : n.Hoistable name) {site : Site} (hsite : site ∈ sites n.block)
    {inner : Text} (hname : Kind.messages.name? site = some inner) (above below : List Text) :
    readMessage (site.within above below) inner = readMessage site inner := by
  obtain ⟨rest, hline, -⟩ := Kind.exists_of_name? hname
  have hafter : BodyState.start.after site.below = none :=
    (h.commentsBraceless_below hsite).after_eq_none (h.totalSurplus_below hsite hline)
  exact readMessage_append (fun _ => by rw [BodyState.closes_eq_isNone_after, hafter]; rfl) below

theorem readEnum_within (h : n.Hoistable name) {site : Site} (hsite : site ∈ sites n.block)
    {inner : Text} (hname : Kind.enums.name? site = some inner) {above : List Text}
    (habove : Clear above) (below : List Text) :
    readEnum (site.within above below) inner = readEnum site inner := by
  obtain ⟨rest, hline, -⟩ := Kind.exists_of_name? hname
  have hclosing := exists_closing_of_totalSurplus (h.totalSurplus_below hsite hline)
  simp only [readEnum, Site.within, commentAbove_append_of_clear _ _ habove,
    enumValues_append (fun _ => hclosing) below]

/-! ### Both files -/

variable {source other : Text}

theorem agree_outer (h : n.Hoistable name) (hsource : lines source = n.nested)
    (hother : lines other = n.hoisted) : Kind.messages.Agree source other name := by
  have hnested : lines source =
      n.above ++ ([n.outer] ++ (n.front ++ n.block ++ n.back ++ n.below)) := hsource
  have hhoisted : lines other =
      n.above ++ ([n.outer] ++ (n.front ++ n.back ++ n.block ++ n.below)) := hother
  have halone := h.alone
  refine Kind.lawful_messages.agree_of_block hnested hhoisted ?_ halone ?_ ?_
  · simp [Kind.declared, h.outer]
  · simp only [Kind.declared_append, List.mem_append] at halone ⊢
    tauto
  · intro site hsite _
    obtain rfl := List.mem_singleton.mp hsite
    simp only [Kind.messages, readMessage, Site.within, List.nil_append, h.bodyFields_eq]

theorem agree_inner (h : n.Hoistable name) {α : Type} {kind : Kind α} (hkind : kind.Lawful)
    (hsource : lines source = n.nested) (hother : lines other = n.hoisted) {inner : Text}
    (hinner : inner ∈ kind.declared n.block) (honly : inner ∉ kind.declared n.others)
    (hread : ∀ site ∈ sites n.block, kind.name? site = some inner → ∀ above below, Clear above →
      kind.read (site.within above below) inner = kind.read site inner) :
    kind.Agree source other inner := by
  have hnested : n.nested =
      (n.above ++ n.outer :: n.front) ++ (n.block ++ (n.back ++ n.below)) := by
    simp [nested]
  have hhoisted : n.hoisted =
      (n.above ++ n.outer :: (n.front ++ n.back)) ++ (n.block ++ n.below) := by
    simp [hoisted]
  refine hkind.agree_of_block (hsource.trans hnested) (hother.trans hhoisted) hinner ?_ ?_ ?_
  · simpa [others] using honly
  · simpa [others] using honly
  · intro site hsite hname
    rw [hread site hsite hname _ _ h.clear_nested, hread site hsite hname _ _ h.clear_hoisted]

end Hoistable

end Nesting

/-- A message and the declarations in a block of its body stay what they are when the block is moved
behind the message. -/
theorem agree_of_hoistable {n : Nesting} {name : Text} (h : n.Hoistable name)
    {source other : Text} (hsource : lines source = n.nested) (hother : lines other = n.hoisted) :
    Kind.messages.Agree source other name ∧
      (∀ inner ∈ Kind.messages.declared n.block, Kind.messages.Agree source other inner) ∧
      ∀ inner ∈ Kind.enums.declared n.block, Kind.enums.Agree source other inner := by
  refine ⟨h.agree_outer hsource hother, fun inner hinner => ?_, fun inner hinner => ?_⟩
  · refine h.agree_inner Kind.lawful_messages hsource hother hinner (h.messages inner hinner) ?_
    intro site hsite hname above below _
    exact h.readMessage_within hsite hname above below
  · refine h.agree_inner Kind.lawful_enums hsource hother hinner (h.enums inner hinner) ?_
    intro site hsite hname above below habove
    exact h.readEnum_within hsite hname habove below

/-- A message with a message between its fields, in which an enumeration stands. -/
def journeyNesting : Nesting where
  above := ["/* Travel. */".toList]
  outer := "message Journey \x7b".toList
  front := ["// Where to.".toList, "string goal = 1;".toList]
  first := "message Leg \x7b".toList
  middle := ["// Meters.".toList, "int64 length = 1;".toList, "// How to go.".toList,
    "enum Mode \x7b".toList, "WALK = 0;".toList, "\x7d".toList]
  last := "\x7d".toList
  back := ["// In order.".toList, "repeated Leg legs = 2;".toList, "\x7d".toList]
  below := ["enum Season \x7b".toList, "WINTER = 0;".toList, "\x7d".toList]

theorem hoistable_journeyNesting : journeyNesting.Hoistable "Journey".toList where
  comments := by decide +kernel
  outer := by decide +kernel
  front := Or.inr ⟨["// Where to.".toList], "string goal = 1;".toList, ⟨0, "Where to.".toList⟩,
    ⟨"goal".toList, "string".toList, "Where to.".toList, false, none⟩, .start,
    by decide +kernel, by decide +kernel, by decide +kernel⟩
  first := by decide +kernel
  inside := by decide +kernel
  closed := by decide +kernel
  last := by decide +kernel
  stays := by decide +kernel
  ends := by decide +kernel
  alone := by decide +kernel
  messages := by decide +kernel
  enums := by decide +kernel

theorem agree_journeyNesting :
    journeyNesting.Hoistable "Journey".toList ∧
    Kind.messages.Agree (join ['\n'] journeyNesting.nested) (join ['\n'] journeyNesting.hoisted)
      "Journey".toList ∧
    Kind.messages.Agree (join ['\n'] journeyNesting.nested) (join ['\n'] journeyNesting.hoisted)
      "Leg".toList ∧
    Kind.enums.Agree (join ['\n'] journeyNesting.nested) (join ['\n'] journeyNesting.hoisted)
      "Mode".toList := by
  have hnested : lines (join ['\n'] journeyNesting.nested) = journeyNesting.nested := by
    decide +kernel
  have hhoisted : lines (join ['\n'] journeyNesting.hoisted) = journeyNesting.hoisted := by
    decide +kernel
  obtain ⟨houter, hmessages, henums⟩ :=
    agree_of_hoistable hoistable_journeyNesting hnested hhoisted
  exact ⟨hoistable_journeyNesting, houter, hmessages _ (by decide +kernel),
    henums _ (by decide +kernel)⟩

end RpcReference.Source
