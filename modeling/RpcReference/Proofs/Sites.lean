import RpcReference.Proofs.Text
import RpcReference.Source.Findings
/-!
# A file as a run over its lines

Reading a file visits every line in its place, once and in order. This module says so: the places of
a file are a list, reading is a fold over that list, and the keyword of a line decides which kind of
step it is. The laws about whole files start from here.
-/

namespace RpcReference.Source

open Text

/-! ### Keywords -/

/-- A keyword without the space that ends it. -/
def Keyword.word : Keyword → Text
  | .service => "service".toList
  | .rpc => "rpc".toList
  | .message => "message".toList
  | .enum => "enum".toList

theorem Keyword.text_eq (keyword : Keyword) : keyword.text = keyword.word ++ [' '] := by
  cases keyword <;> rfl

theorem Keyword.text_append (keyword : Keyword) (rest : Text) :
    keyword.text ++ rest = keyword.word ++ ' ' :: rest := by
  rw [keyword.text_eq, List.append_assoc, List.singleton_append]

theorem Keyword.space_not_mem_word (keyword : Keyword) : ' ' ∉ keyword.word := by
  cases keyword <;> decide

theorem Keyword.word_injective {left right : Keyword} (h : left.word = right.word) :
    left = right := by
  revert h
  cases left <;> cases right <;> decide

theorem Keyword.mem_all (keyword : Keyword) : keyword ∈ Keyword.all := by
  cases keyword <;> decide

theorem declaration?_eq_some_iff {line rest : Text} {keyword : Keyword} :
    declaration? line = some (keyword, rest) ↔ line = keyword.text ++ rest := by
  have hsound {k : Keyword} {r : Text} (h : declaration? line = some (k, r)) :
      line = k.text ++ r := by
    obtain ⟨k', _, hk'⟩ := List.exists_of_findSome?_eq_some h
    obtain ⟨r', hr', heq⟩ := Option.map_eq_some_iff.1 hk'
    cases heq
    exact stripStart?_eq_some_iff.1 hr'
  refine ⟨hsound, fun hline => ?_⟩
  cases hfound : declaration? line with
  | none =>
    have hnone := List.findSome?_eq_none_iff.1 hfound keyword keyword.mem_all
    rw [stripStart?_eq_some_iff.2 hline] at hnone
    cases hnone
  | some found =>
    obtain ⟨k, r⟩ := found
    have heq := (hsound hfound).symm.trans hline
    rw [Keyword.text_append, Keyword.text_append] at heq
    obtain ⟨hword, hrest⟩ := append_cons_inj k.space_not_mem_word keyword.space_not_mem_word heq
    rw [Keyword.word_injective hword, hrest]

theorem declaration?_eq_none_of_ne {line : Text}
    (h : ∀ (keyword : Keyword) (rest : Text), line ≠ keyword.text ++ rest) :
    declaration? line = none := by
  cases hline : declaration? line with
  | none => rfl
  | some found => exact absurd (declaration?_eq_some_iff.1 hline) (h found.1 found.2)

def keyword? (line : Text) : Option Keyword :=
  (declaration? line).map Prod.fst

theorem keyword?_of_declaration? {line rest : Text} {keyword : Keyword}
    (h : declaration? line = some (keyword, rest)) : keyword? line = some keyword := by
  rw [keyword?, h]
  rfl

theorem keyword?_eq_none_iff {line : Text} : keyword? line = none ↔ declaration? line = none :=
  Option.map_eq_none_iff

/-! ### Places -/

def Site.isOf (keyword : Keyword) (site : Site) : Bool :=
  keyword? site.line == some keyword

/-- The lines of `below` in their places, where the lines `above` stand before them. -/
def sitesFrom (above : List Text) : (below : List Text) → List Site
  | [] => []
  | line :: below => ⟨above, line, below⟩ :: sitesFrom (line :: above) below

/-- The lines of a file in their places. -/
def sites (ls : List Text) : List Site :=
  sitesFrom [] ls

@[simp] theorem map_line_sitesFrom (above below : List Text) :
    (sitesFrom above below).map Site.line = below := by
  induction below generalizing above with
  | nil => rfl
  | cons line below ih => simp [sitesFrom, ih]

@[simp] theorem map_number_sitesFrom (above below : List Text) :
    (sitesFrom above below).map Site.number = List.range' (above.length + 1) below.length := by
  induction below generalizing above with
  | nil => rfl
  | cons line below ih =>
    rw [sitesFrom, List.map_cons, ih, List.length_cons, List.length_cons, List.range'_succ]
    rfl

theorem pairwise_number_sites (ls : List Text) :
    (sites ls).Pairwise fun first second => first.number < second.number := by
  rw [← List.pairwise_map, sites, map_number_sitesFrom]
  exact List.pairwise_lt_range'

theorem sitesFrom_eq_mapIdx (above below : List Text) :
    sitesFrom above below =
      below.mapIdx fun i line => ⟨linesAbove below i ++ above, line, linesBelow below i⟩ := by
  induction below generalizing above with
  | nil => rfl
  | cons line below ih =>
    rw [sitesFrom, List.mapIdx_cons, ih]
    refine congrArg₂ List.cons rfl (List.mapIdx_eq_mapIdx_iff.mpr fun i _ => ?_)
    simp [linesAbove, linesBelow]

/-- Every line of a file is read together with the lines above it and the lines below it. -/
theorem sites_eq_mapIdx (ls : List Text) :
    sites ls = ls.mapIdx fun i line => ⟨linesAbove ls i, line, linesBelow ls i⟩ := by
  rw [sites, sitesFrom_eq_mapIdx]
  simp only [List.append_nil]

theorem lines_of_mem_sites {ls : List Text} {site : Site} (h : site ∈ sites ls) :
    site.above.reverse ++ site.line :: site.below = ls := by
  rw [sites_eq_mapIdx] at h
  obtain ⟨i, hi, rfl⟩ := List.exists_of_mem_mapIdx h
  dsimp only
  rw [linesAbove, List.reverse_reverse, linesBelow, List.getElem_cons_drop, List.take_append_drop]

theorem getElem?_of_mem_sites {ls : List Text} {site : Site} (h : site ∈ sites ls) :
    ls[site.above.length]? = some site.line := by
  rw [← lines_of_mem_sites h]
  simp

/-! ### Reading as a fold -/

namespace Findings

theorem readLines_eq_foldl (f : Findings) (above below : List Text) :
    f.readLines above below = (sitesFrom above below).foldl readLine f := by
  induction below generalizing f above with
  | nil => rfl
  | cons line below ih => exact ih (f.readLine ⟨above, line, below⟩) (line :: above)

theorem readLine_of_undeclared (f : Findings) {site : Site} (h : declaration? site.line = none) :
    f.readLine site = f := by
  rw [readLine, h]

/-- Lines without a declaration change nothing but what stands above the next line. -/
theorem readLines_undeclared_append (f : Findings) (above below : List Text) {skipped : List Text}
    (h : ∀ line ∈ skipped, declaration? line = none) :
    f.readLines above (skipped ++ below) = f.readLines (skipped.reverse ++ above) below := by
  induction skipped generalizing above with
  | nil => rfl
  | cons line skipped ih =>
    rw [List.cons_append, readLines, readLine_of_undeclared f (h line (by simp)),
      ih (line :: above) fun l hl => h l (by simp [hl])]
    simp

end Findings

theorem findings_eq_foldl (source : Text) :
    findings source = (sites (lines source)).foldl Findings.readLine .empty :=
  Findings.readLines_eq_foldl _ _ _

end RpcReference.Source
