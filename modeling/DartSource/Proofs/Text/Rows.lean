import DartSource.Proofs.Brackets
import DartSource.Proofs.Text.Avoidance
import DartSource.Text.Lines

/-!
# Rows of a text

The **rows** of a text are what stands between its line feeds, so a text that ends with a line feed
has an empty last row, and a carriage return stays in the row where it stands. A text is put
together row by row: whatever stands in front of a line feed and has none in it is the first row
(`rows_append_feed`).

A text is **neat** when a row of it that holds nothing but blanks holds nothing at all. To indent a
text is to put a unit in front of each of its rows, the empty ones apart.
-/

namespace DartSource.Text

/-! ### Texts on one line -/

/-- No line feed stands in the text. -/
def OneLine (text : String) : Prop :=
  '\n' ∉ text.toList

instance (text : String) : Decidable (OneLine text) :=
  inferInstanceAs (Decidable ('\n' ∉ text.toList))

theorem OneLine.of_avoids {marks : List Char} (hmarks : '\n' ∈ marks) {text : String}
    (h : Avoids marks text) : OneLine text :=
  fun hfeed => h '\n' hfeed hmarks

theorem oneLine_iff_avoids {text : String} : OneLine text ↔ Avoids ['\n'] text := by
  refine ⟨fun h c hc hmark => ?_, OneLine.of_avoids (List.mem_singleton_self _)⟩
  obtain rfl := List.mem_singleton.mp hmark
  exact h hc

namespace OneLine

theorem append {first second : String} (hfirst : OneLine first) (hsecond : OneLine second) :
    OneLine (first ++ second) := by
  unfold OneLine
  rw [String.toList_append, List.mem_append]
  exact fun h => h.elim hfirst hsecond

theorem commaSep {parts : List String} (h : ∀ part ∈ parts, OneLine part) :
    OneLine (commaSep parts) := by
  have hcomma : Avoids ['\n'] ", " := oneLine_iff_avoids.mp (by decide)
  exact oneLine_iff_avoids.mpr
    (avoids_commaSep hcomma fun part hpart => oneLine_iff_avoids.mp (h part hpart))

theorem of_isIdentifier {name : String} (h : isIdentifier name = true) : OneLine name :=
  oneLine_iff_avoids.mpr (avoids_of_isIdentifier (by decide) h)

theorem quote (text : String) : OneLine (quote text) :=
  of_avoids (by decide) (avoids_quote text)

theorem ite {condition : Prop} [Decidable condition] {first second : String}
    (hfirst : OneLine first) (hsecond : OneLine second) :
    OneLine (if condition then first else second) := by
  split
  · exact hfirst
  · exact hsecond

/-- Keywords on one line, whichever of them are set. -/
theorem keywords {flags : List (String × Bool)} (h : ∀ flag ∈ flags, OneLine flag.1) :
    OneLine (keywords flags) := by
  unfold DartSource.keywords
  refine oneLine_iff_avoids.mpr (avoids_join (List.forall_mem_map.mpr fun flag hflag => ?_))
  have hkeyword : OneLine flag.1 := h flag (List.mem_filter.mp hflag).1
  exact oneLine_iff_avoids.mp (hkeyword.append (by decide))

/-- A text that is written when it is given, and what stands in its place otherwise. -/
theorem given {given : Option String} {write : String → String} {other : String} :
    (∀ text ∈ given.toList, OneLine (write text)) → OneLine other →
      OneLine (match given with | some text => write text | none => other) := by
  intro h hnone
  cases given with
  | none => exact hnone
  | some text => exact h text (List.mem_singleton_self text)

/-- Trimming takes characters away and adds none. -/
theorem trim {text : String} (h : OneLine text) : OneLine (trim text) := by
  unfold OneLine Text.trim trimChars dropEndWhile at *
  rw [String.toList_ofList, List.mem_reverse]
  intro hfeed
  have hfeed := List.mem_reverse.mp ((List.dropWhile_sublist _).subset hfeed)
  exact h ((List.dropWhile_sublist _).subset hfeed)

end OneLine

/-! ### Rows -/

/-- What stands between the line feeds of a text. -/
def rows (text : String) : List (List Char) :=
  text.toList.splitOn '\n'

theorem rows_empty : rows "" = [[]] :=
  List.splitOn_nil '\n'

theorem rows_append_feed {front : String} (h : OneLine front) (rest : String) :
    rows (front ++ "\n" ++ rest) = front.toList :: rows rest := by
  unfold rows
  have hsplit : (front ++ "\n" ++ rest).toList = front.toList ++ '\n' :: rest.toList := by
    rw [String.toList_append, String.toList_append, List.append_assoc]
    rfl
  rw [hsplit]
  exact List.splitOn_append_cons_self_of_not_mem h rest.toList

/-- A row that holds nothing but blanks holds nothing. -/
def Neat (text : String) : Prop :=
  ∀ row ∈ rows text, row.all isBlank = true → row = []

/-- The unit in front of every row that is not empty. -/
def indented (unit text : String) : String :=
  String.ofList (['\n'].intercalate
    ((rows text).map fun row => if row = [] then [] else unit.toList ++ row))

variable {unit : String}

theorem indented_empty : indented unit "" = "" := by
  unfold indented
  rw [rows_empty]
  rfl

/-- A text is indented row by row. -/
theorem indented_append_feed {front : String} (h : OneLine front) (rest : String) :
    indented unit (front ++ "\n" ++ rest) =
      (if front = "" then "" else unit ++ front) ++ "\n" ++ indented unit rest := by
  have hrest : (rows rest).map (fun row => if row = [] then [] else unit.toList ++ row) ≠ [] := by
    rw [Ne, List.map_eq_nil_iff]
    exact List.splitOn_ne_nil '\n' rest.toList
  unfold indented
  rw [rows_append_feed h, List.map_cons, List.intercalate_cons_of_ne_nil hrest, ← String.toList_inj]
  simp only [String.toList_ofList, String.toList_append, String.toList_eq_nil_iff]
  split <;> simp

/-! ### Lines -/

/-- A line has no line feed in it. -/
theorem feed_notMem_of_mem_lineChars (cs : List Char) : ∀ line ∈ lineChars cs, '\n' ∉ line := by
  fun_induction lineChars cs with
  | case1 => exact fun line hmem => absurd hmem List.not_mem_nil
  | case2 rest ih => exact List.forall_mem_cons.mpr ⟨List.not_mem_nil, ih⟩
  | case3 rest ih => exact List.forall_mem_cons.mpr ⟨List.not_mem_nil, ih⟩
  | case4 c rest hfeed _ hlines ih =>
    exact List.forall_mem_singleton.mpr fun h => hfeed (List.mem_singleton.mp h).symm
  | case5 c rest hfeed _ line more hlines ih =>
    rw [hlines, List.forall_mem_cons] at ih
    refine List.forall_mem_cons.mpr ⟨fun h => ?_, ih.2⟩
    rcases List.mem_cons.mp h with h | h
    · exact hfeed h.symm
    · exact ih.1 h

theorem oneLine_of_mem_lines {text line : String} (h : line ∈ lines text) : OneLine line := by
  obtain ⟨chars, hchars, rfl⟩ := List.mem_map.mp h
  unfold OneLine
  rw [String.toList_ofList]
  exact feed_notMem_of_mem_lineChars text.toList chars hchars

/-- A character that ends no line joins the line behind it. -/
theorem lineChars_cons {c : Char} {rest : List Char} (hfeed : c ≠ '\n')
    (hreturn : ∀ more, c = '\r' → rest ≠ '\n' :: more) :
    lineChars (c :: rest) = (c :: (lineChars rest).headD []) :: (lineChars rest).tail := by
  rw [lineChars.eq_4 c rest hfeed hreturn]
  cases lineChars rest <;> rfl

/-- What has no line feed in it, and is followed by a character that has no part in a line end,
stands in front of the first line. -/
theorem lineChars_append {front : List Char} (h : '\n' ∉ front) {c : Char} (hfeed : c ≠ '\n')
    (hreturn : c ≠ '\r') (rest : List Char) :
    lineChars (front ++ c :: rest) =
      (front ++ c :: (lineChars rest).headD []) :: (lineChars rest).tail := by
  induction front with
  | nil => exact lineChars_cons hfeed fun _ heq => absurd heq hreturn
  | cons d front ih =>
    obtain ⟨hd, hfront⟩ := List.ne_and_not_mem_of_not_mem_cons h
    -- the character behind `d` is no line feed either
    have hnext : ∀ more, d = '\r' → front ++ c :: rest ≠ '\n' :: more := by
      intro more _ heq
      cases front with
      | nil => exact hfeed (List.cons.inj heq).1
      | cons e front => exact hfront (List.mem_cons.mpr (.inl (List.cons.inj heq).1.symm))
    rw [List.cons_append, lineChars_cons hd.symm hnext, ih hfront]
    rfl

theorem exists_lineChars_append {front : List Char} (h : '\n' ∉ front) {c : Char}
    (hfeed : c ≠ '\n') (hreturn : c ≠ '\r') (rest : List Char) :
    ∃ line more, lineChars (front ++ c :: rest) = (front ++ c :: line) :: more :=
  ⟨_, _, lineChars_append h hfeed hreturn rest⟩

/-- The last line ends with the last character, unless this is a line feed. -/
theorem exists_lineChars_concat {c : Char} (hfeed : c ≠ '\n') (front : List Char) :
    ∃ before line, lineChars (front ++ [c]) = before ++ [line ++ [c]] := by
  -- a character in front of such a text joins the first line, which may be the last
  have hstep : ∀ (d : Char) (rest : List Char), d ≠ '\n' →
      (∀ more, d = '\r' → rest ≠ '\n' :: more) →
      (∃ before line, lineChars (rest ++ [c]) = before ++ [line ++ [c]]) →
      ∃ before line, lineChars (d :: rest ++ [c]) = before ++ [line ++ [c]] := by
    rintro d rest hd hnext ⟨before, line, hlines⟩
    have hnext : ∀ more, d = '\r' → rest ++ [c] ≠ '\n' :: more := by
      intro more hreturn heq
      cases rest with
      | nil => exact hfeed (List.cons.inj heq).1
      | cons e rest =>
        obtain ⟨rfl, -⟩ := List.cons.inj heq
        exact hnext rest hreturn rfl
    rw [List.cons_append, lineChars_cons hd hnext, hlines]
    cases before with
    | nil => exact ⟨[], d :: line, rfl⟩
    | cons first before => exact ⟨(d :: first) :: before, line, rfl⟩
  fun_induction lineChars front with
  | case1 =>
    refine ⟨[], [], ?_⟩
    rw [List.nil_append, lineChars_cons hfeed fun _ _ => (List.cons_ne_nil _ _).symm]
    rfl
  | case2 rest ih =>
    obtain ⟨before, line, hlines⟩ := ih
    exact ⟨[] :: before, line, congrArg (List.cons []) hlines⟩
  | case3 rest ih =>
    obtain ⟨before, line, hlines⟩ := ih
    exact ⟨[] :: before, line, congrArg (List.cons []) hlines⟩
  | case4 d rest hd hnext _ ih => exact hstep d rest hd hnext ih
  | case5 d rest hd hnext _ _ _ ih => exact hstep d rest hd hnext ih

end DartSource.Text
