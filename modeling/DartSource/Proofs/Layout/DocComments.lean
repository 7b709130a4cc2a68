import DartSource.Proofs.Layout.Tidy
import DartSource.Proofs.Text.LineBreaks

/-!
# Doc comments, line by line

A doc comment is written by the lines in which its text is read, and read by the lines that Dart
ends. Where the two agree, every line of the text becomes a comment line of its own. They differ in
carriage returns: one that has no line feed behind it ends a line of the comment without beginning
another, and what follows it stands outside the comment.

`Text.pairsReturns` tells the texts that are safe: every carriage return has a line feed behind it.
At the very end of a text one may stand without, since the comment line ends right behind it, as
long as something stands on that line. No other text is safe: the lines of its comment are not the
comment lines of its lines (`Fragment.dartLines_doc_iff`). The proof goes from line end to line end.
At a stray carriage return either the text goes on with a line that lacks its mark, or the carriage
return is lost together with the empty line behind it (`Text.exists_dartLineChars_stray`); in the
second case the comment has too few lines, as it never has more lines than the text
(`Text.length_commentText_le`).
-/

namespace DartSource

namespace Text

/-! ### Carriage returns -/

/-- Every carriage return has a line feed behind it. Only the last character may be one without, if
something stands in front of it on its line. -/
def pairsReturns : List Char → Bool
  | [] => true
  | '\r' :: '\n' :: rest => pairsReturns rest
  | '\r' :: _ => false
  | [c, '\r'] => c != '\n'
  | _ :: rest => pairsReturns rest

theorem pairsReturns_cons {c : Char} (hc : c ≠ '\r') {rest : List Char} (hrest : rest ≠ ['\r']) :
    pairsReturns (c :: rest) = pairsReturns rest :=
  pairsReturns.eq_5 c rest (fun _ h => absurd h hc) hc hrest

theorem pairsReturns_append {line rest : List Char} (h : Unbroken line) (hrest : rest ≠ ['\r']) :
    pairsReturns (line ++ rest) = pairsReturns rest := by
  induction line with
  | nil => rfl
  | cons c line ih =>
    obtain ⟨hc, hline⟩ := List.forall_mem_cons.mp h
    have hne : line ++ rest ≠ ['\r'] := by
      cases line with
      | nil => exact hrest
      | cons d line => exact fun heq => h.return (by simp [(List.cons.inj heq).1])
    rw [List.cons_append, pairsReturns_cons (notMem_lineBreaks_iff.mp hc).2 hne, ih hline]

/-- A line feed takes nothing with it into the next line. -/
theorem pairsReturns_append_feed {line : List Char} (h : Unbroken line) (rest : List Char) :
    pairsReturns (line ++ '\n' :: rest) = pairsReturns rest := by
  rw [pairsReturns_append h fun heq => absurd (List.cons.inj heq).1 (by decide)]
  by_cases hrest : rest = ['\r']
  · subst hrest
    rfl
  · exact pairsReturns_cons (by decide) hrest

theorem pairsReturns_append_return {line : List Char} (h : Unbroken line) :
    pairsReturns (line ++ ['\r']) = !line.isEmpty := by
  induction line with
  | nil => rfl
  | cons c line ih =>
    obtain ⟨hc, hline⟩ := List.forall_mem_cons.mp h
    obtain ⟨hfeed, hreturn⟩ := notMem_lineBreaks_iff.mp hc
    cases line with
    | nil =>
      show pairsReturns [c, '\r'] = true
      rw [pairsReturns.eq_4 c hreturn, bne_iff_ne]
      exact hfeed
    | cons d line =>
      have hne : d :: line ++ ['\r'] ≠ ['\r'] := by simp
      rw [List.cons_append, pairsReturns_cons hreturn hne, ih hline]
      rfl

/-! ### The two notions of a line -/

/-- A carriage return that no line feed follows is read as a character of its line. -/
theorem lineChars_append_stray {line : List Char} (h : Unbroken line) {c : Char} (hc : c ≠ '\n')
    (rest : List Char) :
    lineChars (line ++ '\r' :: c :: rest) =
      (line ++ '\r' :: (lineChars (c :: rest)).headD []) :: (lineChars (c :: rest)).tail := by
  induction line with
  | nil => exact lineChars_cons (by decide) fun _ _ heq => hc (List.cons.inj heq).1
  | cons d line ih =>
    obtain ⟨hd, hline⟩ := List.forall_mem_cons.mp h
    obtain ⟨hfeed, hreturn⟩ := notMem_lineBreaks_iff.mp hd
    rw [List.cons_append, lineChars_cons hfeed fun _ heq => absurd heq hreturn, ih hline]
    rfl

theorem lineChars_append_pair {line : List Char} (h : Unbroken line) (rest : List Char) :
    lineChars (line ++ '\r' :: '\n' :: rest) = line :: lineChars rest := by
  induction line with
  | nil => rfl
  | cons d line ih =>
    obtain ⟨hd, hline⟩ := List.forall_mem_cons.mp h
    obtain ⟨hfeed, hreturn⟩ := notMem_lineBreaks_iff.mp hd
    rw [List.cons_append, lineChars_cons hfeed fun _ heq => absurd heq hreturn, ih hline]
    rfl

/-- Characters without a line feed are read as one line. -/
theorem lineChars_of_feed_notMem {line : List Char} (h : '\n' ∉ line) (hne : line ≠ []) :
    lineChars line = [line] := by
  induction line with
  | nil => exact absurd rfl hne
  | cons c line ih =>
    obtain ⟨hc, hline⟩ := List.ne_and_not_mem_of_not_mem_cons h
    have hnext : ∀ more, c = '\r' → line ≠ '\n' :: more := by
      rintro more - rfl
      exact hline List.mem_cons_self
    rw [lineChars_cons hc.symm hnext]
    cases line with
    | nil => rfl
    | cons d line =>
      rw [ih hline (List.cons_ne_nil d line)]
      rfl

theorem lineChars_ne_nil {cs : List Char} (h : cs ≠ []) : lineChars cs ≠ [] := by
  fun_cases lineChars cs with
  | case1 => exact absurd rfl h
  | _ => exact List.cons_ne_nil _ _

/-- To Dart, the first line of a text is the first line of what is read as its first line. -/
theorem headD_dartLineChars_firstLine (cs rest : List Char) :
    (dartLineChars ((lineChars cs).headD [] ++ '\n' :: rest)).headD [] =
      (dartLineChars cs).headD [] := by
  have hfeed : '\n' ∈ lineBreaks := by decide
  have hreturn : '\r' ∈ lineBreaks := by decide
  -- the two agree up to the first line end, of whichever kind it is
  induction cs using breakInduction with
  | whole line hline =>
    by_cases hne : line = []
    · subst hne
      rfl
    · rw [lineChars_of_feed_notMem hline.feed hne, List.headD_cons,
        headD_dartLineChars_append_break hline _ hfeed, dartLineChars_of_unbroken hline hne,
        List.headD_cons]
  | feed line more hline _ =>
    rw [lineChars_append_feed hline.feed hline.return, List.headD_cons,
      headD_dartLineChars_append_break hline _ hfeed,
      headD_dartLineChars_append_break hline _ hfeed]
  | pair line more hline _ =>
    rw [lineChars_append_pair hline, List.headD_cons,
      headD_dartLineChars_append_break hline _ hfeed,
      headD_dartLineChars_append_break hline _ hreturn]
  | last line hline =>
    have hread : lineChars (line ++ ['\r']) = [line ++ ['\r']] :=
      lineChars_of_feed_notMem (by simp [hline.feed]) (by simp)
    rw [hread, List.headD_cons, List.append_assoc, List.singleton_append,
      headD_dartLineChars_append_break hline _ hreturn,
      headD_dartLineChars_append_break hline _ hreturn]
  | stray line c more hline hc _ =>
    rw [lineChars_append_stray hline hc, List.headD_cons, List.append_assoc, List.cons_append,
      headD_dartLineChars_append_break hline _ hreturn,
      headD_dartLineChars_append_break hline _ hreturn]

/-! ### Comment lines -/

/-- The comment line for a line of a doc text, behind a margin. -/
def commentChars (margin line : List Char) : List Char :=
  margin ++ (Fragment.docLine (String.ofList line)).toList

/-- Comment lines one after the other, each with its line feed. -/
def commentText (margin : List Char) (lines : List (List Char)) : List Char :=
  lines.flatMap fun line => commentChars margin line ++ ['\n']

/-- The margin and the mark in front of a line that is not empty. -/
def commentLead (margin : List Char) : List Char :=
  margin ++ "/// ".toList

variable {margin : List Char}

theorem commentChars_of_ne_nil {line : List Char} (h : line ≠ []) :
    commentChars margin line = commentLead margin ++ line := by
  have hne : String.ofList line ≠ "" := by
    rw [Ne, ← String.toList_eq_nil_iff, String.toList_ofList]
    exact h
  have hchars : (String.ofList line).toList = line := String.toList_ofList
  unfold commentChars commentLead Fragment.docLine
  rw [if_neg hne, String.toList_append, hchars, List.append_assoc]

theorem commentChars_nil : commentChars margin [] = margin ++ "///".toList := by
  rfl

/-- A comment line is longer than the line it is for. -/
theorem commentChars_ne (line : List Char) : commentChars margin line ≠ line := by
  intro heq
  have hlength := congrArg List.length heq
  by_cases hne : line = []
  · subst hne
    rw [commentChars_nil, List.length_append, List.length_nil] at hlength
    exact absurd hlength (by simp)
  · rw [commentChars_of_ne_nil hne, commentLead, List.length_append, List.length_append] at hlength
    have hmark : "/// ".toList.length = 4 := by decide
    omega

theorem commentText_cons (line : List Char) (lines : List (List Char)) :
    commentText margin (line :: lines) =
      commentChars margin line ++ '\n' :: commentText margin lines := by
  rw [commentText, List.flatMap_cons, List.append_assoc]
  rfl

section Margin

variable (hmargin : Unbroken margin)

include hmargin

theorem unbroken_commentLead : Unbroken (commentLead margin) :=
  unbroken_append.mpr ⟨hmargin, by decide⟩

theorem unbroken_commentChars {line : List Char} (h : Unbroken line) :
    Unbroken (commentChars margin line) := by
  by_cases hne : line = []
  · subst hne
    exact unbroken_append.mpr ⟨hmargin, by decide⟩
  · rw [commentChars_of_ne_nil hne]
    exact unbroken_append.mpr ⟨unbroken_commentLead hmargin, h⟩

/-- A line without line ends is a line of the comment. -/
theorem dartLineChars_commentText_cons {line : List Char} (h : Unbroken line)
    (lines : List (List Char)) :
    dartLineChars (commentText margin (line :: lines)) =
      commentChars margin line :: dartLineChars (commentText margin lines) := by
  rw [commentText_cons, dartLineChars_append_feed (unbroken_commentChars hmargin h)]

/-- A carriage return at the end of a text ends its line together with the line feed of the comment
line. -/
theorem dartLineChars_commentText_last {line : List Char} (h : Unbroken line) :
    dartLineChars (commentText margin (lineChars (line ++ ['\r']))) =
      [commentLead margin ++ line] := by
  have hread : lineChars (line ++ ['\r']) = [line ++ ['\r']] :=
    lineChars_of_feed_notMem (by simp [h.feed]) (by simp)
  have htext : commentText margin [line ++ ['\r']] =
      (commentLead margin ++ line) ++ '\r' :: '\n' :: [] := by
    rw [commentText_cons, commentChars_of_ne_nil (by simp)]
    simp only [List.append_assoc]
    rfl
  rw [hread, htext, dartLineChars_append_return_feed
    (unbroken_append.mpr ⟨unbroken_commentLead hmargin, h⟩)]
  rfl

/-- **What becomes of a stray carriage return.** It ends the comment line in which it is written.
Either it is written right in front of the line feed of that line, and the comment goes on with the
next line, one line short; or what is behind it on its line goes on without a mark. -/
theorem exists_dartLineChars_stray {line : List Char} (h : Unbroken line) {c : Char} (hc : c ≠ '\n')
    (rest : List Char) :
    ∃ tail, dartLineChars (commentText margin (lineChars (line ++ '\r' :: c :: rest))) =
        (commentLead margin ++ line) :: tail ∧
      ((dartLineChars (commentText margin (lineChars (c :: rest)))).length = tail.length + 1 ∨
        (dartLineChars (commentText margin (lineChars (c :: rest)))).length = tail.length ∧
          tail.headD [] = (dartLineChars (c :: rest)).headD []) := by
  have hlead : Unbroken (commentLead margin ++ line) :=
    unbroken_append.mpr ⟨unbroken_commentLead hmargin, h⟩
  obtain ⟨first, more, hread⟩ :=
    List.exists_cons_of_ne_nil (lineChars_ne_nil (List.cons_ne_nil c rest))
  have hfirst := headD_dartLineChars_firstLine (c :: rest) (commentText margin more)
  have hfeed := feed_notMem_of_mem_lineChars (c :: rest) first (hread ▸ List.mem_cons_self)
  have htext : commentText margin (lineChars (line ++ '\r' :: c :: rest)) =
      (commentLead margin ++ line) ++ '\r' :: (first ++ '\n' :: commentText margin more) := by
    rw [lineChars_append_stray h hc, hread, List.headD_cons, List.tail_cons, commentText_cons,
      commentChars_of_ne_nil (by simp)]
    simp only [List.append_assoc, List.cons_append]
  rw [hread, List.headD_cons] at hfirst
  rw [htext, hread, commentText_cons]
  cases first with
  | nil =>
    -- nothing is left on the line: its line feed belongs to the carriage return
    refine ⟨dartLineChars (commentText margin more), ?_, .inl ?_⟩
    · exact dartLineChars_append_return_feed hlead _
    · rw [dartLineChars_append_feed (unbroken_commentChars hmargin unbroken_nil), List.length_cons]
  | cons d first =>
    have hd : (d :: first ++ '\n' :: commentText margin more).head? ≠ some '\n' := by
      rw [List.cons_append, List.head?_cons]
      exact fun heq => hfeed (Option.some.inj heq ▸ List.mem_cons_self)
    refine ⟨dartLineChars (d :: first ++ '\n' :: commentText margin more), ?_, .inr ⟨?_, hfirst⟩⟩
    · exact dartLineChars_append_return hlead hd
    · -- the mark in front of the next line changes the line, but not how many there are
      have hne : d :: first ++ '\n' :: commentText margin more ≠ [] := List.cons_ne_nil _ _
      rw [commentChars_of_ne_nil (List.cons_ne_nil d first), List.append_assoc,
        dartLineChars_append_of_ne_nil (unbroken_commentLead hmargin) hne, List.length_cons,
        List.length_tail]
      have hpos := List.length_pos_iff.mpr (dartLineChars_ne_nil hne)
      omega

/-- **A comment never has more lines than its text.** -/
theorem length_commentText_le (cs : List Char) :
    (dartLineChars (commentText margin (lineChars cs))).length ≤ (dartLineChars cs).length := by
  induction cs using breakInduction with
  | whole line hline =>
    by_cases hne : line = []
    · subst hne
      exact Nat.le_refl 0
    · rw [lineChars_of_feed_notMem hline.feed hne, dartLineChars_commentText_cons hmargin hline,
        dartLineChars_of_unbroken hline hne]
      exact Nat.le_refl 1
  | feed line rest hline ih =>
    rw [lineChars_append_feed hline.feed hline.return, dartLineChars_commentText_cons hmargin hline,
      dartLineChars_append_feed hline]
    exact Nat.succ_le_succ ih
  | pair line rest hline ih =>
    rw [lineChars_append_pair hline, dartLineChars_commentText_cons hmargin hline,
      dartLineChars_append_return_feed hline]
    exact Nat.succ_le_succ ih
  | last line hline =>
    rw [dartLineChars_commentText_last hmargin hline, dartLineChars_append_return hline (by simp)]
    exact Nat.le_refl 1
  | stray line c rest hline hc ih =>
    obtain ⟨tail, htail, hcases⟩ := exists_dartLineChars_stray hmargin hline hc rest
    rw [htail, dartLineChars_append_stray hline _ hc, List.length_cons, List.length_cons]
    rcases hcases with hshort | ⟨hsame, -⟩
    · omega
    · omega

/-- **The lines of a comment are the comment lines of its text exactly if the text pairs its
carriage returns.** -/
theorem dartLineChars_commentText_iff (cs : List Char) :
    dartLineChars (commentText margin (lineChars cs)) =
      (dartLineChars cs).map (commentChars margin) ↔ pairsReturns cs = true := by
  induction cs using breakInduction with
  | whole line hline =>
    have hpairs : pairsReturns line = true := by
      have happend := pairsReturns_append hline (List.cons_ne_nil '\r' []).symm
      rwa [List.append_nil] at happend
    refine iff_of_true ?_ hpairs
    by_cases hne : line = []
    · subst hne
      rfl
    · rw [lineChars_of_feed_notMem hline.feed hne, dartLineChars_commentText_cons hmargin hline,
        dartLineChars_of_unbroken hline hne]
      rfl
  | feed line rest hline ih =>
    rw [lineChars_append_feed hline.feed hline.return, dartLineChars_commentText_cons hmargin hline,
      dartLineChars_append_feed hline, pairsReturns_append_feed hline, List.map_cons,
      List.cons.injEq, ih]
    exact and_iff_right rfl
  | pair line rest hline ih =>
    have hpairs : pairsReturns (line ++ '\r' :: '\n' :: rest) = pairsReturns rest :=
      pairsReturns_append hline (by simp)
    rw [lineChars_append_pair hline, dartLineChars_commentText_cons hmargin hline,
      dartLineChars_append_return_feed hline, hpairs, List.map_cons, List.cons.injEq, ih]
    exact and_iff_right rfl
  | last line hline =>
    -- on an empty line the mark would have to stand without the space behind it
    rw [dartLineChars_commentText_last hmargin hline, dartLineChars_append_return hline (by simp),
      pairsReturns_append_return hline]
    cases line with
    | nil =>
      refine iff_of_false (fun heq => ?_) Bool.false_ne_true
      have hlength := congrArg List.length (List.cons.inj heq).1
      rw [commentChars_nil, commentLead] at hlength
      simp at hlength
    | cons c line =>
      refine iff_of_true ?_ rfl
      rw [← commentChars_of_ne_nil (List.cons_ne_nil c line)]
      rfl
  | stray line c rest hline hc _ =>
    have hstray : pairsReturns (line ++ '\r' :: c :: rest) = false := by
      rw [pairsReturns_append hline (by simp)]
      exact pairsReturns.eq_3 (c :: rest) fun more heq => hc (List.cons.inj heq).1
    rw [hstray, dartLineChars_append_stray hline _ hc]
    refine iff_of_false (fun heq => ?_) Bool.false_ne_true
    obtain ⟨tail, htail, hcases⟩ := exists_dartLineChars_stray hmargin hline hc rest
    rw [htail, List.map_cons] at heq
    have htail := (List.cons.inj heq).2
    rcases hcases with hshort | ⟨-, hhead⟩
    · -- the comment of the rest would have more lines than the rest
      have hle := length_commentText_le hmargin (c :: rest)
      rw [hshort, htail, List.length_map] at hle
      omega
    · -- the next line would have to be its own comment line
      obtain ⟨next, more, hnext⟩ :=
        List.exists_cons_of_ne_nil (dartLineChars_ne_nil (List.cons_ne_nil c rest))
      rw [htail, hnext] at hhead
      exact commentChars_ne next hhead

end Margin

end Text

/-! ### Doc comments in a sink -/

theorem Indent.unbroken_unit (indent : Indent) : Text.Unbroken indent.unit.toList := by
  cases indent with
  | spaces count =>
    intro c hc
    rw [unit, String.toList_ofList] at hc
    obtain rfl := List.eq_of_mem_replicate hc
    decide
  | tab => decide

theorem Piece.unbroken_margin (indent : Indent) (level : Nat) :
    Text.Unbroken (margin indent.unit level).toList := by
  unfold margin
  rw [String.toList_join]
  intro c hc
  obtain ⟨part, hpart, hc⟩ := List.mem_flatMap.mp hc
  obtain rfl := List.eq_of_mem_replicate hpart
  exact indent.unbroken_unit c hc

namespace Fragment

/-- The text of a doc comment, character by character. -/
theorem toList_join_doc (unit : String) (level : Nat) (doc : String) :
    (Piece.join unit level (Fragment.doc doc).pieces).toList =
      Text.commentText (Piece.margin unit level).toList (Text.lineChars doc.toList) := by
  have hfeed : "\n".toList = ['\n'] := by decide
  rw [pieces, Text.lines, List.map_map]
  induction Text.lineChars doc.toList with
  | nil => rfl
  | cons line rest ih =>
    have hline : Piece.text unit level ⟨0, .line (docLine (String.ofList line))⟩ =
        Piece.margin unit level ++ docLine (String.ofList line) ++ "\n" := rfl
    rw [List.map_cons, Piece.join_cons, String.toList_append, ih, Text.commentText_cons]
    show (Piece.text unit level ⟨0, .line (docLine (String.ofList line))⟩).toList ++ _ = _
    rw [hline, String.toList_append, String.toList_append, hfeed, List.append_assoc]
    rfl

/-- **A doc comment has the comment lines of its text exactly if the text pairs its carriage
returns.** -/
theorem dartLines_doc_iff (indent : Indent) (level : Nat) (doc : String) :
    Text.dartLines (Piece.join indent.unit level (Fragment.doc doc).pieces) =
        (Text.dartLines doc).map (fun line => Piece.margin indent.unit level ++ docLine line) ↔
      Text.pairsReturns doc.toList = true := by
  rw [← Text.dartLineChars_commentText_iff (Piece.unbroken_margin indent level),
    ← toList_join_doc]
  have hcomment : (fun line => Piece.margin indent.unit level ++ docLine line) ∘ String.ofList =
      String.ofList ∘ Text.commentChars (Piece.margin indent.unit level).toList := by
    funext line
    rw [Function.comp_apply, Function.comp_apply, ← String.toList_inj, String.toList_append,
      String.toList_ofList]
    rfl
  unfold Text.dartLines
  rw [List.map_map, hcomment, ← List.map_map]
  exact List.map_inj_right fun line other heq => by
    rw [← String.toList_ofList (l := line), heq, String.toList_ofList]

end Fragment

end DartSource
