import DartSource.Proofs.Text.Lines

/-!
# Lines as Dart ends them

In Dart source a line ends at a line feed, at a carriage return, and at the two of them together,
which count as one end. These lines are not the ones that a text is read by (`Text.lines`), where a
carriage return without a line feed is a character like any other: what is one line to the reader
may be two to Dart.

A text that ends with a line feed can be continued without a change to the lines it has
(`dartLines_append`), whatever stands in front of that line feed. `breakInduction` takes a text
apart at its line ends, from the first on; the lemmas before it say for each kind of end what the
first line is, and `Proofs.Layout.DocComments` compares the two notions of a line with it.
-/

namespace DartSource.Text

/-! ### Lines -/

/-- The lines of a list of characters as Dart ends them. -/
def dartLineChars : List Char → List (List Char)
  | [] => []
  | '\n' :: rest => [] :: dartLineChars rest
  | '\r' :: '\n' :: rest => [] :: dartLineChars rest
  | '\r' :: rest => [] :: dartLineChars rest
  | c :: rest =>
    match dartLineChars rest with
    | [] => [[c]]
    | line :: more => (c :: line) :: more

/-- The lines of a text as Dart ends them. -/
def dartLines (text : String) : List String :=
  (dartLineChars text.toList).map String.ofList

/-- No line ends among these characters. -/
def Unbroken (cs : List Char) : Prop :=
  ∀ c ∈ cs, c ∉ lineBreaks

instance (cs : List Char) : Decidable (Unbroken cs) :=
  List.decidableBAll (fun c => c ∉ lineBreaks) cs

theorem unbroken_nil : Unbroken [] :=
  fun _ h => absurd h List.not_mem_nil

theorem unbroken_append {front rest : List Char} :
    Unbroken (front ++ rest) ↔ Unbroken front ∧ Unbroken rest :=
  List.forall_mem_append

theorem notMem_lineBreaks_iff {c : Char} : c ∉ lineBreaks ↔ c ≠ '\n' ∧ c ≠ '\r' := by
  rw [lineBreaks, List.mem_cons, List.mem_singleton, not_or]

theorem Unbroken.feed {cs : List Char} (h : Unbroken cs) : '\n' ∉ cs :=
  fun hmem => h '\n' hmem (by decide)

theorem Unbroken.return {cs : List Char} (h : Unbroken cs) : '\r' ∉ cs :=
  fun hmem => h '\r' hmem (by decide)

/-- A carriage return ends a line unless the line feed behind it does. -/
theorem dartLineChars_return {rest : List Char} (h : rest.head? ≠ some '\n') :
    dartLineChars ('\r' :: rest) = [] :: dartLineChars rest := by
  refine dartLineChars.eq_4 rest fun more hrest => h ?_
  rw [hrest, List.head?_cons]

/-- A character that ends no line joins the line behind it. -/
theorem dartLineChars_cons {c : Char} (h : c ∉ lineBreaks) (rest : List Char) :
    dartLineChars (c :: rest) =
      (c :: (dartLineChars rest).headD []) :: (dartLineChars rest).tail := by
  obtain ⟨hfeed, hreturn⟩ := notMem_lineBreaks_iff.mp h
  rw [dartLineChars.eq_5 c rest hfeed (fun _ heq => absurd heq hreturn) hreturn]
  cases dartLineChars rest <;> rfl

theorem dartLineChars_ne_nil {cs : List Char} (h : cs ≠ []) : dartLineChars cs ≠ [] := by
  fun_cases dartLineChars cs with
  | case1 => exact absurd rfl h
  | _ => exact List.cons_ne_nil _ _

/-- Such characters join the first line of what stands behind them. -/
theorem dartLineChars_append_of_ne_nil {front rest : List Char} (h : Unbroken front)
    (hrest : rest ≠ []) :
    dartLineChars (front ++ rest) =
      (front ++ (dartLineChars rest).headD []) :: (dartLineChars rest).tail := by
  induction front with
  | nil =>
    obtain ⟨line, more, hlines⟩ := List.exists_cons_of_ne_nil (dartLineChars_ne_nil hrest)
    rw [List.nil_append, hlines]
    rfl
  | cons c front ih =>
    obtain ⟨hc, hfront⟩ := List.forall_mem_cons.mp h
    rw [List.cons_append, dartLineChars_cons hc, ih hfront]
    rfl

/-- Alone they are one line, unless there are none. -/
theorem dartLineChars_of_unbroken {line : List Char} (h : Unbroken line) (hne : line ≠ []) :
    dartLineChars line = [line] := by
  induction line with
  | nil => exact absurd rfl hne
  | cons c line ih =>
    obtain ⟨hc, hline⟩ := List.forall_mem_cons.mp h
    rw [dartLineChars_cons hc]
    cases line with
    | nil => rfl
    | cons d line =>
      rw [ih hline (List.cons_ne_nil d line)]
      rfl

section FirstLine

variable {line : List Char} (h : Unbroken line) (rest : List Char)

include h

theorem dartLineChars_append_feed :
    dartLineChars (line ++ '\n' :: rest) = line :: dartLineChars rest := by
  rw [dartLineChars_append_of_ne_nil h (List.cons_ne_nil _ _), dartLineChars, List.headD_cons,
    List.append_nil, List.tail_cons]

theorem dartLineChars_append_return_feed :
    dartLineChars (line ++ '\r' :: '\n' :: rest) = line :: dartLineChars rest := by
  rw [dartLineChars_append_of_ne_nil h (List.cons_ne_nil _ _), dartLineChars, List.headD_cons,
    List.append_nil, List.tail_cons]

theorem dartLineChars_append_return {rest : List Char} (hrest : rest.head? ≠ some '\n') :
    dartLineChars (line ++ '\r' :: rest) = line :: dartLineChars rest := by
  rw [dartLineChars_append_of_ne_nil h (List.cons_ne_nil _ _), dartLineChars_return hrest,
    List.headD_cons, List.append_nil, List.tail_cons]

theorem dartLineChars_append_stray {c : Char} (hc : c ≠ '\n') :
    dartLineChars (line ++ '\r' :: c :: rest) = line :: dartLineChars (c :: rest) := by
  refine dartLineChars_append_return h ?_
  rw [List.head?_cons]
  exact fun heq => hc (Option.some.inj heq)

/-- At the first line end the first line ends. -/
theorem headD_dartLineChars_append_break {mark : Char} (hmark : mark ∈ lineBreaks) :
    (dartLineChars (line ++ mark :: rest)).headD [] = line := by
  rw [lineBreaks, List.mem_cons, List.mem_singleton] at hmark
  rcases hmark with rfl | rfl
  · rw [dartLineChars_append_feed h, List.headD_cons]
  · -- the line feed behind a carriage return makes no difference to the line in front
    by_cases hrest : rest.head? = some '\n'
    · obtain ⟨more, rfl⟩ := List.head?_eq_some_iff.mp hrest
      rw [dartLineChars_append_return_feed h, List.headD_cons]
    · rw [dartLineChars_append_return h hrest, List.headD_cons]

end FirstLine

/-- A line has no line end in it. -/
theorem unbroken_of_mem_dartLineChars (cs : List Char) :
    ∀ line ∈ dartLineChars cs, Unbroken line := by
  fun_induction dartLineChars cs with
  | case1 => exact fun line hmem => absurd hmem List.not_mem_nil
  | case2 rest ih => exact List.forall_mem_cons.mpr ⟨unbroken_nil, ih⟩
  | case3 rest ih => exact List.forall_mem_cons.mpr ⟨unbroken_nil, ih⟩
  | case4 rest _ ih => exact List.forall_mem_cons.mpr ⟨unbroken_nil, ih⟩
  | case5 c rest hfeed _ hreturn hlines ih =>
    refine List.forall_mem_singleton.mpr (List.forall_mem_singleton.mpr ?_)
    exact notMem_lineBreaks_iff.mpr ⟨hfeed, hreturn⟩
  | case6 c rest hfeed _ hreturn line more hlines ih =>
    rw [hlines, List.forall_mem_cons] at ih
    refine List.forall_mem_cons.mpr ⟨List.forall_mem_cons.mpr ⟨?_, ih.1⟩, ih.2⟩
    exact notMem_lineBreaks_iff.mpr ⟨hfeed, hreturn⟩

/-! ### From line end to line end -/

/-- No line ends in a text, or there is a first place where one does. -/
theorem unbroken_or_exists_break (cs : List Char) :
    Unbroken cs ∨
      ∃ line mark rest, Unbroken line ∧ mark ∈ lineBreaks ∧ cs = line ++ mark :: rest := by
  induction cs with
  | nil => exact .inl unbroken_nil
  | cons c cs ih =>
    by_cases hc : c ∈ lineBreaks
    · exact .inr ⟨[], c, cs, unbroken_nil, hc, rfl⟩
    · rcases ih with hcs | ⟨line, mark, rest, hline, hmark, rfl⟩
      · exact .inl (List.forall_mem_cons.mpr ⟨hc, hcs⟩)
      · exact .inr ⟨c :: line, mark, rest, List.forall_mem_cons.mpr ⟨hc, hline⟩, hmark, rfl⟩

/-- **A text is taken apart at its line ends.** The first line has no end at all, or ends with a
line feed, with a carriage return and a line feed, or with a carriage return; and this is the last
character, or a character other than a line feed stands behind it. -/
@[elab_as_elim]
theorem breakInduction {motive : List Char → Prop}
    (whole : ∀ line, Unbroken line → motive line)
    (feed : ∀ line rest, Unbroken line → motive rest → motive (line ++ '\n' :: rest))
    (pair : ∀ line rest, Unbroken line → motive rest → motive (line ++ '\r' :: '\n' :: rest))
    (last : ∀ line, Unbroken line → motive (line ++ ['\r']))
    (stray : ∀ line c rest, Unbroken line → c ≠ '\n' → motive (c :: rest) →
      motive (line ++ '\r' :: c :: rest))
    (cs : List Char) : motive cs := by
  induction hlength : cs.length using Nat.strongRecOn generalizing cs with
  | ind length ih =>
    subst hlength
    have hshorter : ∀ line rest marks : List Char, marks ≠ [] → cs = line ++ (marks ++ rest) →
        motive rest := by
      rintro line rest marks hmarks rfl
      have hpos := List.length_pos_iff.mpr hmarks
      refine ih rest.length ?_ rest rfl
      rw [List.length_append, List.length_append]
      omega
    rcases unbroken_or_exists_break cs with hcs | ⟨line, mark, rest, hline, hmark, hcs⟩
    · exact whole cs hcs
    · rw [lineBreaks, List.mem_cons, List.mem_singleton] at hmark
      rcases hmark with rfl | rfl
      · rw [hcs]
        exact feed line rest hline (hshorter line rest ['\n'] (List.cons_ne_nil _ _) hcs)
      · cases rest with
        | nil =>
          rw [hcs]
          exact last line hline
        | cons c more =>
          by_cases hc : c = '\n'
          · subst hc
            rw [hcs]
            exact pair line more hline
              (hshorter line more ['\r', '\n'] (List.cons_ne_nil _ _) hcs)
          · rw [hcs]
            exact stray line c more hline hc
              (hshorter line (c :: more) ['\r'] (List.cons_ne_nil _ _) hcs)

/-! ### Texts one after the other -/

/-- A line feed ends a line whatever stands in front of it. -/
theorem dartLineChars_feed_append (front rest : List Char) :
    dartLineChars (front ++ '\n' :: rest) =
      dartLineChars (front ++ ['\n']) ++ dartLineChars rest := by
  induction front using breakInduction with
  | whole line hline =>
    rw [dartLineChars_append_feed hline, dartLineChars_append_feed hline]
    rfl
  | feed line more hline ih =>
    simp only [List.append_assoc, List.cons_append] at ih ⊢
    rw [dartLineChars_append_feed hline, dartLineChars_append_feed hline, ih]
    rfl
  | pair line more hline ih =>
    simp only [List.append_assoc, List.cons_append] at ih ⊢
    rw [dartLineChars_append_return_feed hline, dartLineChars_append_return_feed hline, ih]
    rfl
  | last line hline =>
    -- the carriage return and the line feed behind it are one end
    simp only [List.append_assoc, List.cons_append, List.nil_append]
    rw [dartLineChars_append_return_feed hline, dartLineChars_append_return_feed hline]
    rfl
  | stray line c more hline hc ih =>
    simp only [List.append_assoc, List.cons_append] at ih ⊢
    rw [dartLineChars_append_stray hline _ hc, dartLineChars_append_stray hline _ hc, ih]
    rfl

/-- Nothing stands in the text, or a line feed stands at its end. -/
def EndsLine (text : String) : Prop :=
  text = "" ∨ ∃ front, text = front ++ "\n"

theorem endsLine_empty : EndsLine "" :=
  .inl rfl

theorem endsLine_feed (front : String) : EndsLine (front ++ "\n") :=
  .inr ⟨front, rfl⟩

theorem EndsLine.append {front rest : String} (hfront : EndsLine front) (hrest : EndsLine rest) :
    EndsLine (front ++ rest) := by
  rcases hrest with rfl | ⟨rest, rfl⟩
  · rwa [String.append_empty]
  · rw [← String.append_assoc]
    exact endsLine_feed _

/-- **A text that ends its last line keeps its lines when another text is put behind it.** -/
theorem dartLines_append {front : String} (h : EndsLine front) (rest : String) :
    dartLines (front ++ rest) = dartLines front ++ dartLines rest := by
  rcases h with rfl | ⟨front, rfl⟩
  · rw [String.empty_append]
    rfl
  · have hfeed : "\n".toList = ['\n'] := by decide
    unfold dartLines
    rw [String.toList_append, String.toList_append, hfeed, List.append_assoc, List.singleton_append,
      dartLineChars_feed_append, List.map_append]

/-- A text without line ends and the line feed behind it are a line. -/
theorem dartLines_feed {line : String} (h : Unbroken line.toList) :
    dartLines (line ++ "\n") = [line] := by
  have hfeed : "\n".toList = ['\n'] := by decide
  unfold dartLines
  rw [String.toList_append, hfeed, dartLineChars_append_feed h, dartLineChars, List.map_singleton,
    String.ofList_toList]

/-- A text that is put behind another may go on in its last line, never in an earlier one. -/
theorem exists_dartLineChars_append {cs line : List Char} {more : List (List Char)}
    (h : dartLineChars cs = line :: more) (back : List Char) :
    ∃ behind rest, dartLineChars (cs ++ back) = (line ++ behind) :: rest := by
  rcases unbroken_or_exists_break cs with hcs | ⟨first, mark, rest, hfirst, hmark, rfl⟩
  · have hne : cs ≠ [] := by
      rintro rfl
      exact absurd h (List.cons_ne_nil _ _).symm
    rw [dartLineChars_of_unbroken hcs hne] at h
    obtain ⟨rfl, -⟩ := List.cons.inj h
    cases back with
    | nil => exact ⟨[], [], by rw [List.append_nil, dartLineChars_of_unbroken hcs hne]⟩
    | cons c back =>
      exact ⟨_, _, dartLineChars_append_of_ne_nil hcs (List.cons_ne_nil c back)⟩
  · -- the first line ended before
    have hline := headD_dartLineChars_append_break hfirst rest hmark
    have hsame := headD_dartLineChars_append_break hfirst (rest ++ back) hmark
    rw [h, List.headD_cons] at hline
    subst hline
    obtain ⟨head, tail, hlines⟩ := List.exists_cons_of_ne_nil
      (dartLineChars_ne_nil (List.append_ne_nil_of_right_ne_nil line (List.cons_ne_nil mark _)))
    rw [hlines, List.headD_cons] at hsame
    subst hsame
    exact ⟨[], tail, by rw [List.append_assoc, List.cons_append, hlines, List.append_nil]⟩

/-- What stands around a text of several lines joins the first of them and the last: the second line
still begins a line. -/
theorem exists_dartLineChars_around {front cs first second : List Char} {more : List (List Char)}
    (hfront : Unbroken front) (h : dartLineChars cs = first :: second :: more) (back : List Char) :
    ∃ behind rest,
      dartLineChars (front ++ (cs ++ back)) = (front ++ first) :: (second ++ behind) :: rest := by
  have hlead : ∀ {line : List Char}, Unbroken line → Unbroken (front ++ line) :=
    fun hline => unbroken_append.mpr ⟨hfront, hline⟩
  induction cs using breakInduction with
  | whole line hline =>
    cases line with
    | nil => exact absurd h (List.cons_ne_nil _ _).symm
    | cons c line =>
      rw [dartLineChars_of_unbroken hline (List.cons_ne_nil c line)] at h
      exact absurd (List.cons.inj h).2 (List.cons_ne_nil _ _).symm
  | feed line next hline _ =>
    rw [dartLineChars_append_feed hline] at h
    obtain ⟨rfl, hnext⟩ := List.cons.inj h
    obtain ⟨behind, rest, hback⟩ := exists_dartLineChars_append hnext back
    refine ⟨behind, rest, ?_⟩
    rw [List.append_assoc, List.cons_append, ← List.append_assoc,
      dartLineChars_append_feed (hlead hline), hback]
  | pair line next hline _ =>
    rw [dartLineChars_append_return_feed hline] at h
    obtain ⟨rfl, hnext⟩ := List.cons.inj h
    obtain ⟨behind, rest, hback⟩ := exists_dartLineChars_append hnext back
    refine ⟨behind, rest, ?_⟩
    rw [List.append_assoc, List.cons_append, List.cons_append, ← List.append_assoc,
      dartLineChars_append_return_feed (hlead hline), hback]
  | last line hline =>
    rw [dartLineChars_append_return hline (by simp)] at h
    exact absurd (List.cons.inj h).2 (List.cons_ne_nil _ _).symm
  | stray line c next hline hc _ =>
    rw [dartLineChars_append_stray hline _ hc] at h
    obtain ⟨rfl, hnext⟩ := List.cons.inj h
    obtain ⟨behind, rest, hback⟩ := exists_dartLineChars_append hnext back
    refine ⟨behind, rest, ?_⟩
    rw [List.append_assoc, List.cons_append, List.cons_append, ← List.append_assoc,
      dartLineChars_append_stray (hlead hline) _ hc, ← List.cons_append, hback]

theorem exists_dartLines_around {front text first second : String} {more : List String}
    (hfront : Unbroken front.toList) (h : dartLines text = first :: second :: more)
    (back : String) :
    ∃ behind rest,
      dartLines (front ++ (text ++ back)) = (front ++ first) :: (second ++ behind) :: rest := by
  obtain ⟨line, others, hlines, rfl, hothers⟩ := List.map_eq_cons_iff.mp h
  obtain ⟨next, others, rfl, rfl, -⟩ := List.map_eq_cons_iff.mp hothers
  obtain ⟨behind, rest, haround⟩ := exists_dartLineChars_around hfront hlines back.toList
  refine ⟨String.ofList behind, rest.map String.ofList, ?_⟩
  unfold dartLines
  rw [String.toList_append, String.toList_append, haround, List.map_cons, List.map_cons,
    String.ofList_append, String.ofList_append, String.ofList_toList]

theorem unbroken_of_mem_dartLines {text line : String} (h : line ∈ dartLines text) :
    Unbroken line.toList := by
  obtain ⟨chars, hchars, rfl⟩ := List.mem_map.mp h
  rw [String.toList_ofList]
  exact unbroken_of_mem_dartLineChars text.toList chars hchars

end DartSource.Text
