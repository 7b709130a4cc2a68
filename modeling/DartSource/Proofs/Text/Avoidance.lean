import DartSource.Proofs.Text.Separation

/-!
# Texts without certain characters

A text **avoids** some marks when none of them stands in it. What is written out of parts avoids a
mark if its parts do; an identifier avoids everything that cannot stand in an identifier; and a
quoted literal avoids line breaks whatever it quotes, since it escapes them (`avoids_quote`).
-/

namespace DartSource.Text

/-- None of the marks stands in the text. -/
def Avoids (marks : List Char) (text : String) : Prop :=
  ∀ c ∈ text.toList, c ∉ marks

variable {marks : List Char}

theorem avoids_of_any {text : String} (h : text.toList.any (marks.contains ·) = false) :
    Avoids marks text := by
  intro c hc hmark
  exact List.any_eq_false.mp h c hc (List.contains_iff_mem.mpr hmark)

theorem avoids_append {first second : String} :
    Avoids marks (first ++ second) ↔ Avoids marks first ∧ Avoids marks second := by
  unfold Avoids
  rw [String.toList_append, List.forall_mem_append]

theorem Avoids.append {first second : String} (hfirst : Avoids marks first)
    (hsecond : Avoids marks second) : Avoids marks (first ++ second) :=
  avoids_append.mpr ⟨hfirst, hsecond⟩

theorem avoids_join {parts : List String} (h : ∀ part ∈ parts, Avoids marks part) :
    Avoids marks (String.join parts) := by
  unfold Avoids
  rw [String.toList_join, List.forall_mem_flatMap]
  exact h

/-- A list avoids what its items avoid, unless it is a comma or a space. -/
theorem avoids_commaSep {parts : List String} (hmarks : Avoids marks ", ")
    (h : ∀ part ∈ parts, Avoids marks part) : Avoids marks (commaSep parts) := by
  cases parts with
  | nil => exact fun c hc => absurd hc (by simp [commaSep])
  | cons first rest =>
    obtain ⟨hfirst, hrest⟩ := List.forall_mem_cons.mp h
    -- every item but the first has a comma in front of it
    unfold Avoids
    rw [toList_commaSep_cons, List.forall_mem_append, List.forall_mem_flatMap]
    exact ⟨hfirst, fun part hpart => hmarks.append (hrest part hpart)⟩

theorem avoids_of_isIdentifier (hmarks : marks.any isIdentifierPart = false) {name : String}
    (h : isIdentifier name = true) : Avoids marks name := by
  intro c hc hmark
  exact List.any_eq_false.mp hmarks c hmark (isIdentifierPart_of_mem h c hc)

/-- The characters that end a line. -/
def lineBreaks : List Char := ['\n', '\r']

/-- What stands for a character is no line break, not even for a line break. -/
theorem not_mem_lineBreaks_of_escapeChar (c : Char) : ∀ d ∈ escapeChar c, d ∉ lineBreaks := by
  have hescape : ∀ e : Char, e ∉ lineBreaks → ∀ d ∈ ['\\', e], d ∉ lineBreaks := fun e he =>
    List.forall_mem_cons.mpr ⟨by decide, List.forall_mem_singleton.mpr he⟩
  unfold escapeChar
  split_ifs with hbackslash hquote hdollar hfeed hreturn htab
  · exact hescape _ (by decide)
  · exact hescape _ (by decide)
  · exact hescape _ (by decide)
  · exact hescape _ (by decide)
  · exact hescape _ (by decide)
  · exact hescape _ (by decide)
  · -- line breaks are among the characters that do not stand for themselves
    refine List.forall_mem_singleton.mpr fun hbreak => ?_
    rcases List.mem_cons.mp hbreak with hc | hc
    · exact hfeed hc
    · exact hreturn (List.mem_singleton.mp hc)

/-- **A literal stands on one line**, whatever it quotes. -/
theorem avoids_quote (text : String) : Avoids lineBreaks (quote text) := by
  unfold Avoids quote quoteChars
  rw [String.toList_ofList, List.forall_mem_cons, List.forall_mem_append, List.forall_mem_singleton,
    List.forall_mem_flatMap]
  have hquote : '\x27' ∉ lineBreaks := by decide
  exact ⟨hquote, fun c _ => not_mem_lineBreaks_of_escapeChar c, hquote⟩

end DartSource.Text
