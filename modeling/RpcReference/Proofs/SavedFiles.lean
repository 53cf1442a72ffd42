import RpcReference.Files.Tree
import RpcReference.Proofs.Text
/-!
# What creating a file leaves behind

Creating a file gives new content to one place of the tree. No directory stands at that place, so
every directory is still one afterwards and every path that could be followed leads where it did.
Hence the path at which the file was created reads back the new content, whether the file is new or
had other content before, and every other file is as it was.
-/

namespace RpcReference.Files.Tree

open Text

variable {t after : Tree} {place : Place} {path text : Text}

/-! ### Following paths -/

theorem requireDirectory_eq_ok_iff {u : Unit} :
    t.requireDirectory place = .ok u ↔ t.occupant place = .directory := by
  unfold requireDirectory
  cases t.occupant place <;> simp

theorem follow_concat (t : Tree) (place : Place) (pieces : List Text) (last : Text) :
    t.follow place (pieces ++ [last]) = (do
      let directory ← t.follow place pieces
      t.requireDirectory directory
      return Place.enter directory last) := by
  rw [follow, List.foldlM_append]
  simp [follow]

/-- A path that can be followed leads to the same place in every tree that has the directories. -/
theorem follow_of_directories
    (hkept : ∀ place, t.occupant place = .directory → after.occupant place = .directory)
    {pieces : List Text} {start : Place} (h : t.follow start pieces = .ok place) :
    after.follow start pieces = .ok place := by
  induction pieces generalizing start with
  | nil => exact h
  | cons piece pieces ih =>
    rw [follow, List.foldlM_cons] at h ⊢
    obtain ⟨next, hnext, hrest⟩ := bind_eq_ok_iff.mp h
    obtain ⟨u, hdirectory, hentered⟩ := bind_eq_ok_iff.mp hnext
    have hdirectory' : after.requireDirectory start = .ok u :=
      requireDirectory_eq_ok_iff.mpr (hkept start (requireDirectory_eq_ok_iff.mp hdirectory))
    rw [hdirectory', ok_bind, hentered, ok_bind]
    exact ih hrest

/-! ### Places of files -/

/-- A path to the place of a file is an ordinary path to a place inside that is no directory. -/
theorem of_target_eq_ok (h : t.target path = .ok place) :
    t.resolve path = .ok place ∧ t.occupant place ≠ .directory ∧
      ∃ names, place = .inside names := by
  unfold target at h
  split at h
  · cases h
  · next hpath =>
    dsimp only at h
    split at h
    · cases h
    · next last above hpieces =>
      obtain ⟨directory, hfollow, h⟩ := bind_eq_ok_iff.mp h
      obtain ⟨u, hdirectory, h⟩ := bind_eq_ok_iff.mp h
      split at h
      · cases h
      · next hlast =>
        have hslashes : (t.entrance path).2.reverse.takeWhile List.isEmpty = [] := by
          by_contra hne
          exact hlast (by rw [List.isEmpty_eq_false_iff.mpr hne, Bool.not_false, Bool.or_true])
        have hreverse := List.takeWhile_append_dropWhile (p := List.isEmpty)
          (l := (t.entrance path).2.reverse)
        rw [hslashes, hpieces, List.nil_append] at hreverse
        have hsplit : (t.entrance path).2 = above.reverse ++ [last] := by
          rw [← List.reverse_reverse (t.entrance path).2, ← hreverse, List.reverse_cons]
        have hresolve : t.resolve path = .ok (Place.enter directory last) := by
          rw [resolve, if_neg hpath]
          dsimp only
          rw [hsplit, follow_concat, hfollow, ok_bind, hdirectory, ok_bind]
          rfl
        split at h
        · cases h
        · next names hinside hnotDirectory =>
          cases h
          exact ⟨hresolve, hnotDirectory, names, hinside⟩
        · cases h

/-! ### New content -/

variable {names : List Text}

theorem occupant_put (t : Tree) (names : List Text) (text : Text) :
    (t.put (.inside names) text).occupant (.inside names) = .file (some text) := by
  simp [put, occupant, Table.get?_insert]

theorem hasDirectory_put (names : List Text) (text : Text) (h : t.hasDirectory path = true) :
    (t.put (.inside names) text).hasDirectory path = true := by
  have hkeys : t.files.keys ⊆ (t.put (.inside names) text).files.keys := by
    rw [put, Table.keys_insert]
    split
    · exact List.Subset.refl _
    · exact List.subset_append_left _ _
  simp only [hasDirectory, Bool.or_eq_true, List.any_eq_true] at h ⊢
  obtain (hroot | ⟨known, hknown, hbelow⟩) | hempty := h
  · exact .inl (.inl hroot)
  · refine .inl (.inr ⟨known, ?_, hbelow⟩)
    rcases List.mem_append.mp hknown with hfile | hdirectory
    · exact List.mem_append_left _ (hkeys hfile)
    · exact List.mem_append_right _ hdirectory
  · exact .inr hempty

/-- A file that takes no directory's place leaves all directories. -/
theorem directory_put (hnames : t.occupant (.inside names) ≠ .directory) (text : Text)
    (h : t.occupant place = .directory) :
    (t.put (.inside names) text).occupant place = .directory := by
  cases place with
  | outside => rfl
  | unknown => cases h
  | inside others =>
    have hne : pathOf others ≠ pathOf names := by
      intro heq
      refine hnames ?_
      rw [← h, occupant, occupant, heq]
    simp only [occupant] at h ⊢
    have hfiles : (t.put (.inside names) text).files.get? (pathOf others) =
        t.files.get? (pathOf others) := by
      rw [put, Table.get?_insert, if_neg hne]
    rw [hfiles]
    split at h
    · cases h
    · split at h
      · next hdirectory => rw [if_pos (hasDirectory_put names text hdirectory)]
      · cases h

/-- `after` is `t` with a text in the file that a path leads to, and nothing else is changed. -/
structure Saved (t : Tree) (path text : Text) (after : Tree) : Prop where
  read : after.read path = .ok text
  files : ∃ names, t.target path = .ok (.inside names) ∧ ∀ file, after.files.get? file =
    if file = pathOf names then some (some text) else t.files.get? file
  directories : after.directories = t.directories
  location : after.location = t.location

theorem saved_create (h : t.create path text = .ok after) : t.Saved path text after := by
  obtain ⟨place, htarget, hput⟩ := bind_eq_ok_iff.mp h
  cases hput
  obtain ⟨hresolve, hdirectory, names, rfl⟩ := of_target_eq_ok htarget
  have hresolve' : (t.put (.inside names) text).resolve path = .ok (.inside names) := by
    rw [resolve] at hresolve ⊢
    split at hresolve
    · cases hresolve
    · next hpath =>
      rw [if_neg hpath]
      exact follow_of_directories (fun _ => directory_put hdirectory text) hresolve
  refine ⟨?_, ⟨names, htarget, fun file => ?_⟩, rfl, rfl⟩
  · rw [Tree.read, hresolve', ok_bind, occupant_put]
  · rw [put, Table.get?_insert]

/-- A file can be created at the path, or the one there can be emptied. -/
def CanCreate (t : Tree) (path : Text) : Prop :=
  ∃ after, t.create path [] = .ok after

/-- Whether a file can be created does not depend on its content. -/
theorem canCreate_iff (text : Text) :
    t.CanCreate path ↔ ∃ after, t.create path text = .ok after := by
  have htarget (content : Text) :
      (∃ after, t.create path content = .ok after) ↔ ∃ place, t.target path = .ok place := by
    constructor
    · rintro ⟨after, h⟩
      obtain ⟨place, hplace, -⟩ := bind_eq_ok_iff.mp h
      exact ⟨place, hplace⟩
    · rintro ⟨place, hplace⟩
      exact ⟨t.put place content, by rw [create, hplace]; rfl⟩
  rw [CanCreate, htarget, htarget]

end RpcReference.Files.Tree
