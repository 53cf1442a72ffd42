import RpcReference.Proofs.WrittenLines
/-!
# What written comments read as

A written comment is a run of comment lines. Read from the line below, the run gives back the lines
it was made from, provided that the line above the run is no comment; from them the comment and the
commands of a declaration are put together again.
-/

namespace RpcReference

open Text Source

/-! ### Runs of comment lines -/

theorem declaration?_of_isBodyComment {line : Text} (hline : isBodyComment line = true) :
    declaration? line = none := by
  cases line with
  | nil => rfl
  | cons c rest =>
    rw [isBodyComment_cons, Bool.or_eq_true, beq_iff_eq, beq_iff_eq] at hline
    rcases hline with rfl | rfl
    · exact declaration?_cons (by decide) rest
    · exact declaration?_cons (by decide) rest

theorem isBodyComment_of_declaration? {line : Text} {found : Keyword × Text}
    (hline : declaration? line = some found) : isBodyComment line = false := by
  cases hcomment : isBodyComment line with
  | false => rfl
  | true =>
    rw [declaration?_of_isBodyComment hcomment] at hline
    cases hline

theorem isBodyComment_of_accepts {style : CommentForm} {line : Text}
    (hline : style.accepts line = true) : isBodyComment line = true := by
  cases style with
  | block =>
    rw [CommentForm.accepts, Bool.or_eq_true, startsWith_iff] at hline
    rcases hline with ⟨rest, rfl⟩ | hstar
    · exact isBodyComment_cons _ _
    · rw [isBodyComment, hstar, Bool.or_true]
  | line =>
    obtain ⟨rest, rfl⟩ := startsWith_iff.1 hline
    exact isBodyComment_cons _ _

/-- No comment stands at the end of the lines above. -/
def Clear (above : List Text) : Prop :=
  ∀ line ∈ above.head?, isBodyComment line = false

theorem clear_nil : Clear [] := by
  simp [Clear]

theorem clear_cons {line : Text} (hline : isBodyComment line = false) (above : List Text) :
    Clear (line :: above) := by
  simpa [Clear] using hline

theorem takeWhile_accepts_of_clear {above : List Text} (habove : Clear above)
    (style : CommentForm) : above.takeWhile style.accepts = [] := by
  cases above with
  | nil => rfl
  | cons line above =>
    apply List.takeWhile_cons_of_neg
    intro haccepts
    have hline := habove line (by simp)
    rw [isBodyComment_of_accepts haccepts] at hline
    cases hline

/-- What stands behind a line that is no comment is not read. -/
theorem commentAbove_append_of_clear (style : CommentForm) (above : List Text) {outer : List Text}
    (houter : Clear outer) : commentAbove style (above ++ outer) = commentAbove style above := by
  have htake : (above ++ outer).takeWhile style.accepts = above.takeWhile style.accepts := by
    rw [List.takeWhile_append, takeWhile_accepts_of_clear houter, List.append_nil]
    split
    · next hlength => exact ((List.takeWhile_prefix _).eq_of_length hlength).symm
    · rfl
  rw [commentAbove, htake, commentAbove]

/-- A run of comment lines is read as what its lines say, down to the line that stops it. -/
theorem commentAbove_reverse_append {style : CommentForm} {run above : List Text}
    (hrun : ∀ line ∈ run, style.accepts line = true) (habove : Clear above) :
    commentAbove style (run.reverse ++ above) = (run.map commentText).filter (! ·.isEmpty) := by
  have hreverse : ∀ line ∈ run.reverse, style.accepts line = true := by simpa using hrun
  rw [commentAbove, List.takeWhile_append_of_pos hreverse, takeWhile_accepts_of_clear habove,
    List.append_nil, ← List.filter_reverse, ← List.map_reverse, List.reverse_reverse]

/-! ### Remarks -/

theorem commentText_append {t : Text} (ht : commentText t = t) {marks : Text}
    (hmarks : ∀ c ∈ marks, isCommentMark c = true) : commentText (marks ++ t) = t := by
  have happend := trimWhile_append_append t hmarks (show ∀ c ∈ [], isCommentMark c = true by simp)
  rw [commentText, ← List.append_nil (marks ++ t), happend]
  exact ht

/-- The text has a last character, and `p` does not hold of it. -/
def EndsWithout (p : Char → Bool) (t : Text) : Prop :=
  ∃ start d, t = start ++ [d] ∧ p d = false

theorem endsWithout_of_dropEndWhile {p : Char → Bool} {t : Text} (hne : t ≠ [])
    (ht : dropEndWhile p t = t) : EndsWithout p t := by
  refine ⟨t.dropLast, t.getLast hne, (List.dropLast_append_getLast hne).symm, ?_⟩
  simpa using List.rdropWhile_eq_self_iff.1 ht hne

theorem IsRemark.endsWithout {t : Text} (ht : IsRemark t) (hne : t ≠ []) :
    EndsWithout isBlank t := by
  obtain ⟨start, d, rfl, hd⟩ := endsWithout_of_dropEndWhile hne (trimWhile_eq_self_iff.1 ht.2).2
  rw [isCommentMark, Bool.or_eq_false_iff] at hd
  exact ⟨start, d, rfl, hd.2⟩

/-- A text on a line behind marks keeps its last character. -/
theorem bare_append {marks t : Text} (hmarks : BeginsWithout isBlank marks)
    (ht : EndsWithout isBlank t) : bare (marks ++ t) = marks ++ t := by
  obtain ⟨start, d, rfl, hd⟩ := ht
  rw [← List.append_assoc]
  exact bare_concat hmarks start hd

theorem bare_space_append (marks : Text) {t : Text} (ht : EndsWithout isBlank t) :
    bare (' ' :: (marks ++ t)) = bare (marks ++ t) := by
  obtain ⟨start, d, rfl, hd⟩ := ht
  have hreturn : d ≠ '\r' := by
    rintro rfl
    exact absurd hd (by decide)
  rw [← List.append_assoc]
  exact bare_space_concat (marks ++ start) hreturn

/-- Without a command the mark would end with a blank. -/
theorem command_ne_nil {command : Text}
    (h : commentText (shellMark ++ command) = shellMark ++ command) : command ≠ [] := by
  rintro rfl
  exact absurd h (by decide)

theorem IsCommand.isRemark {command : Text} (hcommand : IsCommand command)
    (hline : '\n' ∉ command) : IsRemark (shellMark ++ command) := by
  refine ⟨?_, trimWhile_eq_self_iff.2 ⟨?_, ?_⟩⟩
  · have hmark : '\n' ∉ shellMark := by decide
    rw [List.mem_append, not_or]
    exact ⟨hmark, hline⟩
  · exact List.dropWhile_cons_of_neg (by decide)
  · exact dropEndWhile_append_of_ne_nil _ hcommand.1 hcommand.2

/-! ### Written comments -/

/-- A remark that says something. -/
def IsFragment (t : Text) : Prop :=
  IsRemark t ∧ t ≠ []

theorem IsRemark.commentLine_fragments {comment : Text} (hcomment : IsRemark comment) :
    ∀ t ∈ commentLine comment, IsFragment t := by
  intro t ht
  rw [commentLine] at ht
  split at ht
  · cases ht
  · next hne =>
    rw [List.mem_singleton] at ht
    subst ht
    exact ⟨hcomment, by simpa using hne⟩

/-- The lines of a block comment without their indentation. -/
def blockRun (contents : List Text) : List Text :=
  if contents.isEmpty then []
  else "/**".toList :: contents.map ("* ".toList ++ ·) ++ ["*/".toList]

theorem map_bare_blockComment_of_endsWithout {contents : List Text}
    (hcontents : ∀ t ∈ contents, EndsWithout isBlank t) :
    (blockComment contents).map bare = blockRun contents := by
  have hmiddle : ∀ t ∈ contents, bare (" * ".toList ++ t) = "* ".toList ++ t := by
    intro t ht
    calc bare (" * ".toList ++ t) = bare ("* ".toList ++ t) :=
          bare_space_append "* ".toList (hcontents t ht)
      _ = "* ".toList ++ t := bare_append ⟨_, _, rfl, by decide⟩ (hcontents t ht)
  have hopen : bare "/**".toList = "/**".toList := by decide
  have hclose : bare " */".toList = "*/".toList := by decide
  unfold blockComment blockRun
  split
  · rfl
  · have hmap : contents.map (bare ∘ (" * ".toList ++ ·)) = contents.map ("* ".toList ++ ·) :=
      List.map_congr_left hmiddle
    rw [List.map_append, List.map_append, List.map_map, List.map_singleton, List.map_singleton,
      hopen, hclose, hmap, List.singleton_append]

theorem map_bare_blockComment {contents : List Text} (hcontents : ∀ t ∈ contents, IsFragment t) :
    (blockComment contents).map bare = blockRun contents :=
  map_bare_blockComment_of_endsWithout fun t ht =>
    (hcontents t ht).1.endsWithout (hcontents t ht).2

theorem accepts_blockRun (contents : List Text) :
    ∀ line ∈ blockRun contents, CommentForm.block.accepts line = true := by
  intro line hline
  unfold blockRun at hline
  split at hline
  · cases hline
  · rw [List.mem_append, List.mem_cons, List.mem_map, List.mem_singleton] at hline
    rcases hline with (rfl | ⟨t, -, rfl⟩) | rfl
    · decide
    · rfl
    · decide

theorem declaration?_blockRun (contents : List Text) :
    ∀ line ∈ blockRun contents, declaration? line = none := fun line hline =>
  declaration?_of_isBodyComment (isBodyComment_of_accepts (accepts_blockRun contents line hline))

/-- The first and the last line of a block say nothing. -/
theorem filter_commentText_blockRun (contents : List Text) :
    ((blockRun contents).map commentText).filter (! ·.isEmpty) =
      (contents.map fun t => commentText ("* ".toList ++ t)).filter (! ·.isEmpty) := by
  have hopen : commentText "/**".toList = [] := by decide
  have hclose : commentText "*/".toList = [] := by decide
  unfold blockRun
  split
  · next hempty => rw [List.isEmpty_iff.1 hempty]; rfl
  · rw [List.map_append, List.map_cons, List.map_map, List.map_singleton, hopen, hclose,
      List.filter_append, List.filter_cons_of_neg (by simp)]
    simp [Function.comp_def]

theorem commentText_blockRun {contents : List Text} (hcontents : ∀ t ∈ contents, IsFragment t) :
    ((blockRun contents).map commentText).filter (! ·.isEmpty) = contents := by
  have hmiddle : ∀ t ∈ contents, commentText ("* ".toList ++ t) = t := fun t ht =>
    commentText_append (hcontents t ht).1.2 (List.all_eq_true.mp (by decide))
  have hmap : contents.map (fun t => commentText ("* ".toList ++ t)) = contents :=
    (List.map_congr_left hmiddle).trans (List.map_id contents)
  rw [filter_commentText_blockRun, hmap, List.filter_eq_self]
  intro t ht
  simpa using (hcontents t ht).2

theorem commentAbove_blockRun {contents above : List Text}
    (hcontents : ∀ t ∈ contents, IsFragment t) (habove : Clear above) :
    commentAbove .block ((blockRun contents).reverse ++ above) = contents := by
  rw [commentAbove_reverse_append (accepts_blockRun contents) habove,
    commentText_blockRun hcontents]

theorem bare_lineComment {comment : Text} (hcomment : IsRemark comment) :
    ∀ line ∈ lineComment comment, bare line = line := by
  intro line hline
  unfold lineComment at hline
  split at hline
  · cases hline
  · next hne =>
    rw [List.mem_singleton] at hline
    subst hline
    exact bare_append ⟨_, _, rfl, by decide⟩ (hcomment.endsWithout (by simpa using hne))

theorem accepts_lineComment (comment : Text) :
    ∀ line ∈ lineComment comment, CommentForm.line.accepts line = true := by
  intro line hline
  unfold lineComment at hline
  split at hline
  · cases hline
  · rw [List.mem_singleton] at hline
    subst hline
    rfl

theorem commentAbove_lineComment {comment : Text} {above : List Text} (hcomment : IsRemark comment)
    (habove : Clear above) :
    commentAbove .line ((lineComment comment).reverse ++ above) = commentLine comment := by
  rw [commentAbove_reverse_append (accepts_lineComment comment) habove]
  unfold lineComment commentLine
  split
  · rfl
  · next hne =>
    have htext : commentText ("// ".toList ++ comment) = comment :=
      commentText_append hcomment.2 (List.all_eq_true.mp (by decide))
    rw [List.map_singleton, htext, List.filter_cons_of_pos (by simpa using hne), List.filter_nil]

/-! ### Comments and commands from their lines -/

theorem joinFragments_commentLine (comment : Text) :
    joinFragments (commentLine comment) = comment := by
  rw [commentLine]
  split
  · next hempty => rw [List.isEmpty_iff.1 hempty]; rfl
  · rw [joinFragments, join, List.intercalate_singleton]

theorem addFragment_commentLine (comment : Text) :
    (commentLine comment).foldl addFragment [] = comment := by
  rw [commentLine]
  split
  · next hempty => rw [List.isEmpty_iff.1 hempty]; rfl
  · next hne => simp [addFragment, hne]

/-- The lines of the block above a written call. -/
def Call.contents (call : Call) : List Text :=
  commentLine call.comment ++ shellLines call.shell

namespace Call.Writable

variable {call : Call} (hcall : call.Writable)

include hcall

theorem stripStart?_commentLine :
    ∀ t ∈ commentLine call.comment, stripStart? shellMark t = none := by
  intro t ht
  rw [commentLine] at ht
  split at ht
  · cases ht
  · rw [List.mem_singleton] at ht
    subst ht
    rw [Option.eq_none_iff_forall_ne_some]
    intro rest hrest
    have hstarts := startsWith_iff.2 ⟨rest, stripStart?_eq_some_iff.1 hrest⟩
    rw [hcall.comment_not_shell] at hstarts
    cases hstarts

theorem contents_fragments : ∀ t ∈ call.contents, IsFragment t := by
  intro t ht
  rw [Call.contents, List.mem_append] at ht
  rcases ht with ht | ht
  · exact hcall.comment.commentLine_fragments t ht
  · cases hshell : call.shell with
    | none =>
      rw [hshell] at ht
      cases ht
    | some commands =>
      rw [hshell] at ht
      obtain ⟨command, hcommand, rfl⟩ := List.mem_map.1 ht
      have hwell := hcall.shell commands hshell command hcommand
      exact ⟨hwell.isRemark (not_mem_of_mem_split hcommand), by simp⟩

omit hcall in
theorem isNone_stripStart?_shellLines {shell : Option Text} :
    ∀ t ∈ shellLines shell, (stripStart? shellMark t).isNone = false := by
  intro t ht
  cases shell with
  | none => cases ht
  | some commands =>
    obtain ⟨command, -, rfl⟩ := List.mem_map.1 ht
    have hstrip : stripStart? shellMark ("shell: ".toList ++ command) = some command :=
      stripStart?_append shellMark command
    rw [hstrip]
    rfl

theorem callComment_contents : callComment call.contents = call.comment := by
  have hcomment : ∀ t ∈ commentLine call.comment, (stripStart? shellMark t).isNone = true := by
    intro t ht
    rw [hcall.stripStart?_commentLine t ht]
    rfl
  have hshell : ∀ t ∈ shellLines call.shell, ¬ (stripStart? shellMark t).isNone = true := by
    intro t ht
    rw [isNone_stripStart?_shellLines t ht]
    decide
  rw [callComment, Call.contents, List.filter_append, List.filter_eq_self.2 hcomment,
    List.filter_eq_nil_iff.2 hshell, List.append_nil, addFragment_commentLine]

theorem callShell_contents : callShell call.contents = call.shell := by
  have hcomment : (commentLine call.comment).filterMap (stripStart? shellMark) = [] :=
    List.filterMap_eq_nil_iff.2 hcall.stripStart?_commentLine
  rw [callShell, Call.contents, List.filterMap_append, hcomment, List.nil_append]
  cases call.shell with
  | none => rfl
  | some commands =>
    have hcommands : (shellLines (some commands)).filterMap (stripStart? shellMark) =
        split '\n' commands := by
      have hstrip : stripStart? shellMark ∘ ("shell: ".toList ++ ·) = some :=
        funext (stripStart?_append shellMark)
      rw [shellLines, List.filterMap_map, hstrip, List.filterMap_some]
    have hne : (split '\n' commands).isEmpty = false := by
      rw [split, List.isEmpty_eq_false_iff]
      exact splitWhere_ne_nil _ commands
    rw [hcommands]
    simp only [hne, Bool.false_eq_true, if_false, join_split]

end Call.Writable

end RpcReference
