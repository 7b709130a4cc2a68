import DartSource.Proofs.Text.Rows

/-!
# Lines and rows

A text has **lines** as it is read (`Text.lines`) and **rows** as it is written (`Text.rows`). The
two are not the same: a carriage return in front of a line feed belongs to the end of a line, and
what stands behind the last line feed is a row even where nothing stands there. For texts without
carriage returns only the second difference is left. So a text that does not end with a line feed
has its rows as lines (`lineChars_eq_splitOn`), and this is what remains of any text that is not
blank when the line feeds at its two ends are left out (`Strips`, `strips_trimNewlines`).
-/

namespace DartSource.Text

/-! ### Reading lines -/

/-- A line is made of characters of the text. -/
theorem mem_of_mem_lineChars (cs : List Char) : ∀ line ∈ lineChars cs, ∀ c ∈ line, c ∈ cs := by
  fun_induction lineChars cs with
  | case1 => exact fun line hmem => absurd hmem List.not_mem_nil
  | case2 rest ih =>
    refine List.forall_mem_cons.mpr ⟨fun c hc => absurd hc List.not_mem_nil, ?_⟩
    exact fun line hmem c hc => List.mem_cons_of_mem _ (ih line hmem c hc)
  | case3 rest ih =>
    refine List.forall_mem_cons.mpr ⟨fun c hc => absurd hc List.not_mem_nil, ?_⟩
    exact fun line hmem c hc =>
      List.mem_cons_of_mem _ (List.mem_cons_of_mem _ (ih line hmem c hc))
  | case4 d rest _ _ hlines ih =>
    exact List.forall_mem_singleton.mpr fun c hc => by
      rw [List.mem_singleton.mp hc]
      exact List.mem_cons_self
  | case5 d rest _ _ first more hlines ih =>
    rw [hlines, List.forall_mem_cons] at ih
    obtain ⟨hfirst, hmore⟩ := ih
    refine List.forall_mem_cons.mpr ⟨List.forall_mem_cons.mpr ⟨List.mem_cons_self, ?_⟩, ?_⟩
    · exact fun c hc => List.mem_cons_of_mem _ (hfirst c hc)
    · exact fun line hmem c hc => List.mem_cons_of_mem _ (hmore line hmem c hc)

theorem notMem_of_mem_lines {c : Char} {text line : String} (h : c ∉ text.toList)
    (hline : line ∈ lines text) : c ∉ line.toList := by
  obtain ⟨chars, hchars, rfl⟩ := List.mem_map.mp hline
  rw [String.toList_ofList]
  exact fun hc => h (mem_of_mem_lineChars text.toList chars hchars c hc)

/-- What stands in front of the first line feed is the first line. -/
theorem lineChars_append_feed {front : List Char} (hfeed : '\n' ∉ front) (hreturn : '\r' ∉ front)
    (rest : List Char) : lineChars (front ++ '\n' :: rest) = front :: lineChars rest := by
  induction front with
  | nil => rfl
  | cons c front ih =>
    obtain ⟨hcfeed, hfeed⟩ := List.ne_and_not_mem_of_not_mem_cons hfeed
    obtain ⟨hcreturn, hreturn⟩ := List.ne_and_not_mem_of_not_mem_cons hreturn
    rw [List.cons_append, lineChars_cons hcfeed.symm fun _ heq => absurd heq.symm hcreturn,
      ih hfeed hreturn]
    rfl

theorem lines_append_feed {front : String} (hfront : OneLine front)
    (hreturn : '\r' ∉ front.toList) (rest : String) :
    lines (front ++ "\n" ++ rest) = front :: lines rest := by
  have hchars : (front ++ "\n" ++ rest).toList = front.toList ++ '\n' :: rest.toList := by
    rw [String.toList_append, String.toList_append, List.append_assoc]
    rfl
  unfold lines
  rw [hchars, lineChars_append_feed hfront hreturn, List.map_cons, String.ofList_toList]

/-- **A text without carriage returns that ends within a row has its rows as lines.** -/
theorem lineChars_eq_splitOn {cs : List Char} (hreturn : '\r' ∉ cs) (hne : cs ≠ [])
    (hlast : cs.getLast? ≠ some '\n') : lineChars cs = cs.splitOn '\n' := by
  induction cs with
  | nil => exact absurd rfl hne
  | cons c rest ih =>
    obtain ⟨hcreturn, hreturn⟩ := List.ne_and_not_mem_of_not_mem_cons hreturn
    -- behind the first character stands nothing, or a text of the same kind
    have hrest : rest = [] ∨ lineChars rest = rest.splitOn '\n' := by
      by_cases hnil : rest = []
      · exact .inl hnil
      · refine .inr (ih hreturn hnil ?_)
        rwa [List.getLast?_cons_of_ne_nil hnil] at hlast
    by_cases hfeed : c = '\n'
    · subst hfeed
      rcases hrest with rfl | hrest
      · exact absurd rfl hlast
      · rw [List.splitOn_cons_eq_if_modifyHead, if_pos (beq_self_eq_true _), ← hrest]
        rfl
    · rw [lineChars_cons hfeed fun _ heq => absurd heq.symm hcreturn,
        List.splitOn_cons_eq_if_modifyHead, if_neg (mt eq_of_beq hfeed)]
      rcases hrest with rfl | hrest
      · rfl
      · rw [hrest]
        obtain ⟨first, more, hsplit⟩ :=
          List.exists_cons_of_ne_nil (List.splitOn_ne_nil '\n' rest)
        rw [hsplit]
        rfl

/-! ### Line feeds at the ends -/

/-- `core` is what remains of the text without the line feeds at its two ends. -/
structure Strips (text : String) (core : List Char) : Prop where
  around : ∃ above below : Nat,
    text.toList = List.replicate above '\n' ++ core ++ List.replicate below '\n'
  first : core.head? ≠ some '\n'
  last : core.getLast? ≠ some '\n'

/-- Leaving out line feeds in front takes away line feeds only, and all of them. -/
theorem exists_eq_replicate_append (cs : List Char) :
    ∃ count, cs = List.replicate count '\n' ++ cs.dropWhile (· == '\n') := by
  refine ⟨(cs.takeWhile (· == '\n')).length, ?_⟩
  have hfeeds : cs.takeWhile (· == '\n') =
      List.replicate (cs.takeWhile (· == '\n')).length '\n' :=
    List.eq_replicate_of_mem fun c hc => eq_of_beq (List.all_eq_true.mp List.all_takeWhile c hc)
  rw [← hfeeds, List.takeWhile_append_dropWhile]

theorem head?_dropWhile_feed (cs : List Char) :
    (cs.dropWhile (· == '\n')).head? ≠ some '\n' := by
  intro hhead
  have hnot := List.head?_dropWhile_not (· == '\n') cs
  rw [hhead] at hnot
  exact absurd hnot (by decide)

theorem strips_trimNewlines (text : String) : Strips text (trimNewlines text).toList := by
  unfold trimNewlines dropEndWhile
  rw [String.toList_ofList]
  -- first the line feeds in front are left out, then those behind, from the end
  obtain ⟨above, habove⟩ := exists_eq_replicate_append text.toList
  generalize hkept : text.toList.dropWhile (· == '\n') = kept at habove ⊢
  obtain ⟨below, hbelow⟩ := exists_eq_replicate_append kept.reverse
  generalize hcore : kept.reverse.dropWhile (· == '\n') = core at hbelow ⊢
  have hsplit : kept = core.reverse ++ List.replicate below '\n' := by
    rw [← List.reverse_inj, hbelow, List.reverse_append, List.reverse_reverse,
      List.reverse_replicate]
  refine ⟨⟨above, below, ?_⟩, ?_, ?_⟩
  · calc text.toList
      _ = List.replicate above '\n' ++ kept := habove
      _ = List.replicate above '\n' ++ (core.reverse ++ List.replicate below '\n') :=
        congrArg _ hsplit
      _ = List.replicate above '\n' ++ core.reverse ++ List.replicate below '\n' :=
        (List.append_assoc ..).symm
  · -- what is left out behind leaves the first character as it is
    intro hhead
    have hfirst := head?_dropWhile_feed text.toList
    rw [hkept, hsplit, List.head?_append, hhead] at hfirst
    exact hfirst rfl
  · rw [List.getLast?_reverse, ← hcore]
    exact head?_dropWhile_feed kept.reverse

namespace Strips

variable {text : String} {core : List Char}

/-- Where there is something to be seen, there is something left. -/
theorem ne_nil (h : Strips text core) (hvisible : allBlank text = false) : core ≠ [] := by
  rintro rfl
  obtain ⟨above, below, htext⟩ := h.around
  unfold allBlank at hvisible
  rw [htext, List.append_nil, List.replicate_append_replicate, List.all_eq_false] at hvisible
  obtain ⟨c, hc, hblank⟩ := hvisible
  obtain rfl := List.eq_of_mem_replicate hc
  exact hblank (by decide)

theorem notMem (h : Strips text core) {c : Char} (hc : c ∉ text.toList) : c ∉ core := by
  obtain ⟨above, below, htext⟩ := h.around
  rw [htext, List.mem_append, List.mem_append] at hc
  exact fun hmem => hc (.inl (.inr hmem))

/-- The lines of what remains are its rows. -/
theorem lineChars_eq (h : Strips text core) (hvisible : allBlank text = false)
    (hreturn : '\r' ∉ text.toList) : lineChars core = core.splitOn '\n' :=
  lineChars_eq_splitOn (h.notMem hreturn) (h.ne_nil hvisible) h.last

end Strips

end DartSource.Text
