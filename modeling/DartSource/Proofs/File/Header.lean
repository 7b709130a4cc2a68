import DartSource.Proofs.File.Assembly
import DartSource.Proofs.Text.LineBreaks

/-!
# The header as comments

A generated file opens with a notice and a banner, which are there for readers: the file says the
same without them. The banner is three lines, and the middle one holds the name of the generator, as
it was given except for the blanks around it. So the banner has three lines exactly if the name is
on one line, and the header consists of comments and empty lines as long as no line ends within the
name (`SourceFile.header_by_name`).

The two conditions differ. A carriage return in the name leaves the banner with three line feeds,
but to Dart it ends a line. In either case the next line of the name begins a line of the file,
without a comment mark in front of it, and whatever stands there is source code.
-/

namespace DartSource

open Text (OneLine Unbroken dartLines EndsLine)

namespace Banner

/-! ### The three lines -/

/-- The line of stars above the name and below it. -/
def rule : String :=
  "// " ++ stars width

/-- The line with the name of the generator. -/
def title (generator : String) : String :=
  "// " ++ titleRow generator

/-- The line is a comment that holds the name, with a space on either side of it, between so many
stars. The stars fill what the name leaves of the row, and of an odd number the greater part stands
on the right. -/
structure Centers (line name : String) (left right : Nat) : Prop where
  line_eq : line = "// " ++ stars left ++ " " ++ name ++ " " ++ stars right
  fills : left + right = width - 2 - name.length
  left_le : left ≤ right
  right_le : right ≤ left + 1

/-- The text is three lines, each a comment with a line feed behind it and none in it. -/
def ThreeComments (text : String) : Prop :=
  ∃ first second third, text = first ++ "\n" ++ second ++ "\n" ++ third ++ "\n" ∧
    ∀ line ∈ [first, second, third], OneLine line ∧ ∃ rest, line = "// " ++ rest

theorem text_eq (generator : String) :
    text generator = rule ++ "\n" ++ title generator ++ "\n" ++ rule ++ "\n" := by
  have hmark : "\n// " = "\n" ++ "// " := by decide
  unfold text rule title
  rw [hmark]
  simp only [String.append_assoc]

theorem centers_title (generator : String) :
    ∃ left right, Centers (title generator) (Text.trim generator) left right := by
  let filler := width - (" " ++ Text.trim generator ++ " ").length
  have hfiller : filler = width - 2 - (Text.trim generator).length := by
    have hspace : " ".length = 1 := by decide
    show width - (" " ++ Text.trim generator ++ " ").length = _
    rw [String.length_append, String.length_append, hspace]
    omega
  refine ⟨filler / 2, filler - filler / 2, ?_, ?_, ?_, ?_⟩
  · unfold title titleRow
    simp only [String.append_assoc]
    rfl
  · omega
  · omega
  · omega

theorem length_stars (count : Nat) : (stars count).length = count := by
  unfold stars
  rw [String.length_ofList, List.length_replicate]

theorem length_rule : rule.length = width + 3 := by
  have hmark : "// ".length = 3 := by decide
  unfold rule
  rw [String.length_append, length_stars, hmark, Nat.add_comm]

/-- The row is filled exactly if the name fits. -/
theorem Centers.length_eq_iff {line name : String} {left right : Nat}
    (h : Centers line name left right) : line.length = width + 3 ↔ name.length ≤ width - 2 := by
  have hmark : "// ".length = 3 := by decide
  have hspace : " ".length = 1 := by decide
  have hwidth : width = 50 := rfl
  have hfills := h.fills
  rw [h.line_eq]
  simp only [String.length_append, length_stars, hmark, hspace]
  omega

/-! ### Line ends -/

theorem unbroken_stars (count : Nat) : Unbroken (stars count).toList := by
  intro c hc
  unfold stars at hc
  rw [String.toList_ofList] at hc
  obtain rfl := List.eq_of_mem_replicate hc
  decide

theorem unbroken_rule : Unbroken rule.toList := by
  unfold rule
  rw [String.toList_append]
  exact Text.unbroken_append.mpr ⟨by decide, unbroken_stars width⟩

/-- What stands in the line in front of the name. -/
theorem unbroken_lead (left : Nat) : Unbroken ("// " ++ stars left ++ " ").toList := by
  rw [String.toList_append, String.toList_append, Text.unbroken_append, Text.unbroken_append]
  exact ⟨⟨by decide, unbroken_stars left⟩, by decide⟩

section Centered

variable {line name : String} {left right : Nat} (h : Centers line name left right)

include h

/-- No line ends in it exactly if none ends in the name. -/
theorem Centers.unbroken_iff : Unbroken line.toList ↔ Unbroken name.toList := by
  have hspace : Unbroken " ".toList := by decide
  have hstars := unbroken_stars right
  have hlead := unbroken_lead left
  rw [h.line_eq, String.toList_append, String.toList_append, String.toList_append,
    Text.unbroken_append, Text.unbroken_append, Text.unbroken_append]
  exact ⟨fun hline => hline.1.1.2, fun hname => ⟨⟨⟨hlead, hname⟩, hspace⟩, hstars⟩⟩

/-- The line feeds of the line are those of the name. -/
theorem Centers.count_feed : line.toList.count '\n' = name.toList.count '\n' := by
  have hlead : ("// " ++ stars left ++ " ").toList.count '\n' = 0 :=
    List.count_eq_zero.mpr (unbroken_lead left).feed
  have hspace : " ".toList.count '\n' = 0 := by decide
  have hstars : (stars right).toList.count '\n' = 0 :=
    List.count_eq_zero.mpr (unbroken_stars right).feed
  rw [h.line_eq, String.toList_append, String.toList_append, String.toList_append,
    List.count_append, List.count_append, List.count_append, hlead, hspace, hstars]
  omega

/-- The second line of a name begins a line. -/
theorem Centers.exists_dartLines {first second : String} {more : List String}
    (hname : dartLines name = first :: second :: more) :
    ∃ behind rest, dartLines (line ++ "\n") =
      ("// " ++ stars left ++ " " ++ first) :: (second ++ behind) :: rest := by
  have hparts : line ++ "\n" =
      "// " ++ stars left ++ " " ++ (name ++ (" " ++ stars right ++ "\n")) := by
    rw [h.line_eq]
    simp only [String.append_assoc]
  rw [hparts]
  exact Text.exists_dartLines_around (unbroken_lead left) hname _

end Centered

/-- **The banner has three lines exactly if the name is on one line.** -/
theorem threeComments_text_iff (generator : String) :
    ThreeComments (text generator) ↔ OneLine (Text.trim generator) := by
  obtain ⟨left, right, hcenters⟩ := centers_title generator
  have hcount := hcenters.count_feed
  have hrule : rule.toList.count '\n' = 0 := List.count_eq_zero.mpr unbroken_rule.feed
  constructor
  · -- three lines have three line feeds, so none is left for the name
    rintro ⟨first, second, third, htext, hlines⟩
    have hlines : ∀ line ∈ [first, second, third], line.toList.count '\n' = 0 :=
      fun line hmem => List.count_eq_zero.mpr (hlines line hmem).1
    simp only [List.forall_mem_cons, List.not_mem_nil, false_implies, implies_true, and_true]
      at hlines
    obtain ⟨hfirst, hsecond, hthird⟩ := hlines
    have hsame := htext.symm.trans (text_eq generator)
    have hfeeds := congrArg (fun text => text.toList.count '\n') hsame
    simp only [String.toList_append, List.count_append, hfirst, hsecond, hthird, hrule, hcount]
      at hfeeds
    exact List.count_eq_zero.mp (by omega)
  · intro hname
    have htitle : OneLine (title generator) := by
      refine List.count_eq_zero.mp ?_
      rw [hcount]
      exact List.count_eq_zero.mpr hname
    refine ⟨rule, title generator, rule, text_eq generator, ?_⟩
    simp only [List.forall_mem_cons, List.not_mem_nil, false_implies, implies_true, and_true]
    exact ⟨⟨unbroken_rule.feed, _, rfl⟩, ⟨htitle, _, rfl⟩, ⟨unbroken_rule.feed, _, rfl⟩⟩

end Banner

/-! ### The header of a file -/

namespace SourceFile

open Banner (rule title Centers ThreeComments)

/-- The same file with another generator, or with none. -/
def generatedBy (file : SourceFile) (generator : Option String) : SourceFile :=
  { file with options := { file.options with generator } }

/-- The header stands in front of the file that has none. -/
theorem render_generatedBy (file : SourceFile) (generator : String) :
    (file.generatedBy (some generator)).render =
      Banner.notice ++ "\n" ++ "\n" ++ Banner.text generator ++ "\n" ++
        (file.generatedBy none).render := by
  have hnone : headerText (file.generatedBy none).options = "" := rfl
  have hsome : headerText (file.generatedBy (some generator)).options =
      Banner.notice ++ "\n" ++ "\n" ++ Banner.text generator ++ "\n" := rfl
  rw [render_eq_layoutText, render_eq_layoutText]
  unfold layoutText
  rw [hnone, hsome, String.empty_append]
  -- nothing but the header depends on the generator
  simp only [String.append_assoc]
  rfl

/-- The lines of a file with a header. Only those of the title depend on the generator. -/
theorem dartLines_generatedBy (file : SourceFile) (generator : String) :
    dartLines (file.generatedBy (some generator)).render =
      [Banner.notice, "", rule] ++ dartLines (title generator ++ "\n") ++ [rule, ""] ++
        dartLines (file.generatedBy none).render := by
  have hnotice : dartLines (Banner.notice ++ "\n") = [Banner.notice] :=
    Text.dartLines_feed (by decide)
  have hblank : dartLines "\n" = [""] := by decide
  have hrule : dartLines (rule ++ "\n") = [rule] := Text.dartLines_feed Banner.unbroken_rule
  have hends : EndsLine "\n" := .inr ⟨"", rfl⟩
  -- every part ends its line, the title included
  have hparts : (file.generatedBy (some generator)).render =
      (Banner.notice ++ "\n") ++ ("\n" ++ ((rule ++ "\n") ++ ((title generator ++ "\n") ++
        ((rule ++ "\n") ++ ("\n" ++ (file.generatedBy none).render))))) := by
    rw [render_generatedBy, Banner.text_eq]
    simp only [String.append_assoc]
  rw [hparts, Text.dartLines_append (Text.endsLine_feed _), Text.dartLines_append hends,
    Text.dartLines_append (Text.endsLine_feed _), Text.dartLines_append (Text.endsLine_feed _),
    Text.dartLines_append (Text.endsLine_feed _), Text.dartLines_append hends, hnotice, hblank,
    hrule]
  simp only [List.append_assoc, List.cons_append, List.nil_append]

/-- **What the name of a generator does to a file.** The banner is a row of stars, the title, and a
row of stars again, each behind a comment mark and with a line feed behind it. In the title the
name, without the blanks around it, stands in the middle of the row, and the title is as long as the
rows exactly if the name fits. The banner is three comment lines exactly if the name is on one line.
The lines of the file are those of its header and those of the file without one, and the title is
one of them exactly if no line ends within the name. If a line does, the second line of the name
begins a line of the file. -/
theorem header_by_name (file : SourceFile) (generator : String) :
    Banner.text generator = rule ++ "\n" ++ title generator ++ "\n" ++ rule ++ "\n" ∧
    (∃ left right, Centers (title generator) (Text.trim generator) left right) ∧
    rule.length = 53 ∧
    ((title generator).length = 53 ↔ (Text.trim generator).length ≤ 48) ∧
    (ThreeComments (Banner.text generator) ↔ OneLine (Text.trim generator)) ∧
    ∃ titleLines,
      dartLines (file.generatedBy (some generator)).render =
        [Banner.notice, "", rule] ++ titleLines ++ [rule, ""] ++
          dartLines (file.generatedBy none).render ∧
      (titleLines = [title generator] ↔ Unbroken (Text.trim generator).toList) ∧
      ∀ first second more, dartLines (Text.trim generator) = first :: second :: more →
        ∃ left behind rest, titleLines =
          ("// " ++ Banner.stars left ++ " " ++ first) :: (second ++ behind) :: rest := by
  obtain ⟨left, right, hcenters⟩ := Banner.centers_title generator
  refine ⟨Banner.text_eq generator, ⟨left, right, hcenters⟩, Banner.length_rule,
    hcenters.length_eq_iff, Banner.threeComments_text_iff generator,
    dartLines (title generator ++ "\n"), dartLines_generatedBy file generator, ⟨?_, ?_⟩, ?_⟩
  · intro hlines
    have hmem : title generator ∈ dartLines (title generator ++ "\n") := by
      rw [hlines]
      exact List.mem_singleton_self _
    exact hcenters.unbroken_iff.mp (Text.unbroken_of_mem_dartLines hmem)
  · exact fun hname => Text.dartLines_feed (hcenters.unbroken_iff.mpr hname)
  · intro first second more hname
    obtain ⟨behind, rest, hlines⟩ := hcenters.exists_dartLines hname
    exact ⟨left, behind, rest, hlines⟩

/-- A name of two lines: the second one begins the fifth line of an otherwise empty file. -/
theorem header_by_name_two_lines :
    dartLines (Text.trim " gen \r\nfinal x = 0; ") = ["gen ", "final x = 0;"] ∧
      ∃ titleLines left behind rest,
        dartLines (SourceFile.generatedBy {} (some " gen \r\nfinal x = 0; ")).render =
          [Banner.notice, "", rule] ++ titleLines ++ [rule, ""] ++
            dartLines (SourceFile.generatedBy {} none).render ∧
        titleLines = ("// " ++ Banner.stars left ++ " " ++ "gen ") ::
          ("final x = 0;" ++ behind) :: rest := by
  have hname : dartLines (Text.trim " gen \r\nfinal x = 0; ") = ["gen ", "final x = 0;"] := by
    decide +kernel
  obtain ⟨-, -, -, -, -, titleLines, hrender, -, hbroken⟩ :=
    header_by_name {} " gen \r\nfinal x = 0; "
  obtain ⟨left, behind, rest, htitle⟩ := hbroken "gen " "final x = 0;" [] hname
  exact ⟨hname, titleLines, left, behind, rest, hrender, htitle⟩

/-- A line feed in the name gives the banner a fourth line. A carriage return does not, but what
stands behind it is source code. -/
theorem name_leaves_banner :
    Banner.text "a\nb" =
        "// **************************************************\n" ++
        "// ********************** a\nb ***********************\n" ++
        "// **************************************************\n" ∧
      ¬ThreeComments (Banner.text "a\nb") ∧
      dartLines (SourceFile.generatedBy {} (some "a\rfinal x = 0; //")).render =
        [Banner.notice, "", rule, "// *************** a", "final x = 0; // ****************", rule,
          ""] := by
  have htitle : dartLines (title "a\rfinal x = 0; //" ++ "\n") =
      ["// *************** a", "final x = 0; // ****************"] := by
    decide +kernel
  have hempty : dartLines (SourceFile.generatedBy {} none).render = [] := by decide +kernel
  refine ⟨by decide +kernel, ?_, ?_⟩
  · rw [Banner.threeComments_text_iff]
    decide +kernel
  · rw [dartLines_generatedBy, htitle, hempty]
    rfl

end SourceFile

end DartSource
