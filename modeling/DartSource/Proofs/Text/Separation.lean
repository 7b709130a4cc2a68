import DartSource.Text.Identifier
import DartSource.Text.Quoted
import Mathlib.Tactic.SplitIfs
import Mathlib.Tactic.Tauto

/-!
# Telling texts apart

A text that is written in front of another one can be found again if one sees where it ends. This
module says so for the things that are written one after the other in source text: runs of
characters of one class, quoted literals, and lists with commas between their items.

The general form is `Separates`: two values are **separated** when their texts, each in front of a
rest that is empty or starts with one of some marks, agree only if the values and the rests do. A
quoted literal is separated whatever follows it, as its closing quote is found by reading it
(`scan_quoteChars_append`). An identifier is separated by marks that cannot stand in an identifier.
A list is separated by its closing marks if its items are, by a comma as well as by those marks
(`separates_commaSep`).
-/

namespace DartSource.Text

/-! ### Rests and runs -/

/-- The rest is empty or starts with one of the marks. -/
def Stops (marks rest : List Char) : Prop :=
  ∀ c ∈ rest.head?, c ∈ marks

theorem stops_nil (marks : List Char) : Stops marks [] :=
  fun _ h => absurd h (by simp)

theorem stops_cons {marks rest : List Char} {c : Char} : Stops marks (c :: rest) ↔ c ∈ marks := by
  simp [Stops]

/-- The text has a first character, and that has the property. -/
def Begins (p : Char → Prop) (text : String) : Prop :=
  ∃ c rest, text.toList = c :: rest ∧ p c

theorem Begins.mono {p q : Char → Prop} {text : String} (h : Begins p text) (hpq : ∀ c, p c → q c) :
    Begins q text := by
  obtain ⟨c, rest, htext, hc⟩ := h
  exact ⟨c, rest, htext, hpq c hc⟩

/-- A text that begins with none of the marks is no rest. -/
theorem Begins.not_stops {marks rest : List Char} {text : String} (h : Begins (· ∉ marks) text) :
    ¬Stops marks (text.toList ++ rest) := by
  obtain ⟨c, cs, htext, hc⟩ := h
  rw [htext]
  exact fun hstops => hc (stops_cons.mp hstops)

/-- A run of characters of a class is found again in front of a mark of another class. -/
theorem takeWhile_append_of_stops {p : Char → Bool} {marks run rest : List Char}
    (hrun : ∀ c ∈ run, p c = true) (hmarks : marks.any p = false) (hrest : Stops marks rest) :
    (run ++ rest).takeWhile p = run := by
  have hnone : rest.takeWhile p = [] := by
    cases rest with
    | nil => rfl
    | cons c rest =>
      exact List.takeWhile_cons_of_neg (List.any_eq_false.mp hmarks c (stops_cons.mp hrest))
  rw [List.takeWhile_append_of_pos hrun, hnone, List.append_nil]

/-- Runs of one class in front of marks of another class agree if the texts do. -/
theorem run_append_inj {p : Char → Bool} {marks a b s t : List Char}
    (ha : ∀ c ∈ a, p c = true) (hb : ∀ c ∈ b, p c = true) (hmarks : marks.any p = false)
    (hs : Stops marks s) (ht : Stops marks t) (h : a ++ s = b ++ t) : a = b ∧ s = t := by
  -- both runs are the longest of their class in the one text
  have hrun : a = b := by
    rw [← takeWhile_append_of_stops ha hmarks hs, ← takeWhile_append_of_stops hb hmarks ht, h]
  subst hrun
  exact ⟨rfl, List.append_cancel_left h⟩

/-- Two values whose texts cannot be confused where one of the marks, or nothing, follows them. -/
def Separates {α : Type} (text : α → String) (marks : List Char) (x y : α) : Prop :=
  ∀ s t, Stops marks s → Stops marks t → (text x).toList ++ s = (text y).toList ++ t → x = y ∧ s = t

/-- Fewer marks separate no less. -/
theorem Separates.mono {α : Type} {text : α → String} {marks fewer : List Char} {x y : α}
    (h : Separates text marks x y) (hsub : fewer ⊆ marks) : Separates text fewer x y :=
  fun s t hs ht => h s t (fun c hc => hsub (hs c hc)) fun c hc => hsub (ht c hc)

/-! ### Identifiers -/

theorem isIdentifierPart_of_start {c : Char} (h : isIdentifierStart c = true) :
    isIdentifierPart c = true := by
  unfold isIdentifierStart at h
  unfold isIdentifierPart Char.isAlphanum
  simp only [Bool.or_eq_true] at h ⊢
  tauto

/-- The two parts of an identifier: a first character, and characters that may follow it. -/
theorem exists_of_isIdentifier {name : String} (h : isIdentifier name = true) :
    ∃ first rest, name.toList = first :: rest ∧ isIdentifierStart first = true ∧
      ∀ c ∈ rest, isIdentifierPart c = true := by
  unfold isIdentifier at h
  cases hname : name.toList with
  | nil =>
    rw [hname] at h
    exact absurd h (by simp)
  | cons first rest =>
    rw [hname] at h
    obtain ⟨hfirst, hrest⟩ := Bool.and_eq_true_iff.mp h
    exact ⟨first, rest, rfl, hfirst, List.all_eq_true.mp hrest⟩

theorem begins_of_isIdentifier {name : String} (h : isIdentifier name = true) :
    Begins (isIdentifierStart · = true) name := by
  obtain ⟨first, rest, hname, hfirst, -⟩ := exists_of_isIdentifier h
  exact ⟨first, rest, hname, hfirst⟩

theorem isIdentifierPart_of_mem {name : String} (h : isIdentifier name = true) :
    ∀ c ∈ name.toList, isIdentifierPart c = true := by
  obtain ⟨first, rest, hname, hfirst, hrest⟩ := exists_of_isIdentifier h
  rw [hname]
  exact List.forall_mem_cons.mpr ⟨isIdentifierPart_of_start hfirst, hrest⟩

/-- Identifiers are separated by marks that cannot stand in them. -/
theorem separates_of_isIdentifier {marks : List Char} (hmarks : marks.any isIdentifierPart = false)
    {name other : String} (hname : isIdentifier name = true) (hother : isIdentifier other = true) :
    Separates id marks name other := by
  intro s t hs ht h
  obtain ⟨heq, hrest⟩ := run_append_inj (isIdentifierPart_of_mem hname)
    (isIdentifierPart_of_mem hother) hmarks hs ht h
  exact ⟨String.toList_injective heq, hrest⟩

/-! ### Quoted literals -/

/-- An escape is read as the character that it stands for. -/
theorem scanInside_escape {c d : Char} (h : unescape? c = some d) (rest : List Char) :
    scanInside ('\\' :: c :: rest) = (scanInside rest).map fun read => (d :: read.1, read.2) := by
  rw [scanInside, h]
  cases scanInside rest <;> rfl

/-- What stands for a character is read as that character, whatever follows. -/
theorem scanInside_escapeChar (c : Char) (rest : List Char) :
    scanInside (escapeChar c ++ rest) =
      (scanInside rest).map fun read => (c :: read.1, read.2) := by
  unfold escapeChar
  split_ifs with hbackslash hquote hdollar hfeed hreturn htab
  · subst hbackslash
    exact scanInside_escape rfl rest
  · subst hquote
    exact scanInside_escape rfl rest
  · subst hdollar
    exact scanInside_escape rfl rest
  · subst hfeed
    exact scanInside_escape rfl rest
  · subst hreturn
    exact scanInside_escape rfl rest
  · subst htab
    exact scanInside_escape rfl rest
  · -- every other character stands for itself
    rw [List.singleton_append, scanInside, if_neg hquote, if_neg (by tauto)]
    · cases scanInside rest <;> rfl
    · exact fun h _ => hbackslash h
    · exact fun _ _ h _ => hbackslash h

theorem scanInside_escaped (cs rest : List Char) :
    scanInside (cs.flatMap escapeChar ++ '\x27' :: rest) = some (cs, rest) := by
  induction cs with
  | nil => rfl
  | cons c cs ih =>
    rw [List.flatMap_cons, List.append_assoc, scanInside_escapeChar, ih]
    rfl

/-- **A literal is read back as the text that it quotes**, up to its closing quote and no
further. -/
theorem scan_quoteChars_append (cs rest : List Char) :
    scan (quoteChars cs ++ rest) = some (cs, rest) := by
  unfold quoteChars
  rw [List.cons_append, List.append_assoc, List.singleton_append, scan]
  exact scanInside_escaped cs rest

/-- Literals in front of any rests agree only if what they quote and the rests do. -/
theorem quote_append_inj {first second : String} {s t : List Char}
    (h : (quote first).toList ++ s = (quote second).toList ++ t) : first = second ∧ s = t := by
  unfold quote at h
  rw [String.toList_ofList, String.toList_ofList] at h
  have hread := congrArg scan h
  rw [scan_quoteChars_append, scan_quoteChars_append, Option.some.injEq, Prod.mk.injEq] at hread
  exact ⟨String.toList_injective hread.1, hread.2⟩

/-! ### Lists -/

section Lists

variable {α : Type} {text : α → String} {marks closers : List Char} {xs ys : List α}

/-- In front of texts that begin with marks, and at their end, stands a mark. -/
theorem stops_flatMap {rest : List Char} (hbegin : ∀ x ∈ xs, Begins (· ∈ marks) (text x))
    (hrest : Stops marks rest) : Stops marks ((xs.flatMap fun x => (text x).toList) ++ rest) := by
  cases xs with
  | nil => exact hrest
  | cons x xs =>
    obtain ⟨c, cs, hx, hc⟩ := hbegin x List.mem_cons_self
    rw [List.flatMap_cons, hx]
    exact stops_cons.mpr hc

/-- **Texts one after the other can be told apart**, provided each of them begins with a mark that
separates them and that does not close the whole. -/
theorem flatMap_append_inj (hsep : ∀ x ∈ xs, ∀ y ∈ ys, Separates text marks x y)
    (hbegin : ∀ x ∈ xs ++ ys, Begins (fun c => c ∈ marks ∧ c ∉ closers) (text x))
    (hclosers : closers ⊆ marks) {s t : List Char} (hs : Stops closers s) (ht : Stops closers t)
    (h : (xs.flatMap fun x => (text x).toList) ++ s = (ys.flatMap fun y => (text y).toList) ++ t) :
    xs = ys ∧ s = t := by
  induction xs generalizing ys with
  | nil =>
    cases ys with
    | nil => exact ⟨rfl, h⟩
    | cons y ys =>
      -- the first text ends where the second one goes on with a mark that does not close it
      have hy := (hbegin y (by simp)).mono fun c hc => hc.2
      rw [List.flatMap_nil, List.nil_append, List.flatMap_cons, List.append_assoc] at h
      exact absurd (h ▸ hs) hy.not_stops
  | cons x xs ih =>
    cases ys with
    | nil =>
      have hx := (hbegin x (by simp)).mono fun c hc => hc.2
      rw [List.flatMap_nil, List.nil_append, List.flatMap_cons, List.append_assoc] at h
      exact absurd (h ▸ ht) hx.not_stops
    | cons y ys =>
      have hsub : xs ++ ys ⊆ x :: xs ++ y :: ys :=
        ((List.sublist_cons_self x xs).append (List.sublist_cons_self y ys)).subset
      have hmarks : ∀ z ∈ xs ++ ys, Begins (· ∈ marks) (text z) := fun z hz =>
        (hbegin z (hsub hz)).mono fun c hc => hc.1
      obtain ⟨hxs, hys⟩ := List.forall_mem_append.mp hmarks
      rw [List.flatMap_cons, List.flatMap_cons, List.append_assoc, List.append_assoc] at h
      obtain ⟨rfl, hrest⟩ := hsep x List.mem_cons_self y List.mem_cons_self _ _
        (stops_flatMap hxs fun c hc => hclosers (hs c hc))
        (stops_flatMap hys fun c hc => hclosers (ht c hc)) h
      have htails : ∀ x' ∈ xs, ∀ y' ∈ ys, Separates text marks x' y' := fun x' hx' y' hy' =>
        hsep x' (List.mem_cons_of_mem _ hx') y' (List.mem_cons_of_mem _ hy')
      obtain ⟨rfl, hst⟩ := ih htails (fun z hz => hbegin z (hsub hz)) hrest
      exact ⟨rfl, hst⟩

/-- A separator stands in front of every item but the first. -/
theorem toList_intercalate_cons (separator first : String) (rest : List String) :
    (separator.intercalate (first :: rest)).toList =
      first.toList ++ rest.flatMap fun part => (separator ++ part).toList := by
  induction rest generalizing first with
  | nil => simp
  | cons second rest ih =>
    rw [String.intercalate_cons_cons, String.toList_append, ih, List.flatMap_cons]
    simp

theorem toList_commaSep_cons (first : String) (rest : List String) :
    (commaSep (first :: rest)).toList =
      first.toList ++ rest.flatMap fun part => (", " ++ part).toList :=
  toList_intercalate_cons ", " first rest

/-- A comma in front of separated items. -/
theorem Separates.comma {x y : α} (h : Separates text marks x y) :
    Separates (fun x => ", " ++ text x) marks x y := by
  intro s t hs ht heq
  simp only [String.toList_append, List.append_assoc] at heq
  exact h s t hs ht (List.append_cancel_left heq)

theorem begins_comma (hcomma : ',' ∉ closers) (part : String) :
    Begins (fun c => c ∈ ',' :: closers ∧ c ∉ closers) (", " ++ part) := by
  rw [Begins, String.toList_append]
  exact ⟨',', _, rfl, List.mem_cons_self, hcomma⟩

/-- **Lists are separated by marks other than the comma**, provided their items are separated by
these marks and the comma, and begin with none of these marks. -/
theorem separates_commaSep (hcomma : ',' ∉ closers)
    (hsep : ∀ x ∈ xs, ∀ y ∈ ys, Separates text (',' :: closers) x y)
    (hbegin : ∀ x ∈ xs ++ ys, Begins (· ∉ closers) (text x)) :
    Separates (fun items => commaSep (items.map text)) closers xs ys := by
  intro s t hs ht h
  have hempty : (commaSep []).toList = [] := by simp [commaSep]
  -- behind the first item comes a comma, or a mark that closes the list
  have hstops : ∀ (items : List α) {rest : List Char}, Stops closers rest →
      Stops (',' :: closers) ((items.flatMap fun x => (", " ++ text x).toList) ++ rest) := by
    intro items rest hrest
    refine stops_flatMap (fun x _ => ?_) fun c hc => List.mem_cons_of_mem _ (hrest c hc)
    exact (begins_comma hcomma (text x)).mono fun c hc => hc.1
  cases xs with
  | nil =>
    cases ys with
    | nil => exact ⟨rfl, List.append_cancel_left h⟩
    | cons y ys =>
      -- an item stands where the other list is closed
      simp only [List.map_cons, List.map_nil, toList_commaSep_cons, hempty, List.nil_append,
        List.append_assoc] at h
      exact absurd (h ▸ hs) (hbegin y (by simp)).not_stops
  | cons x xs =>
    cases ys with
    | nil =>
      simp only [List.map_cons, List.map_nil, toList_commaSep_cons, hempty, List.nil_append,
        List.append_assoc] at h
      exact absurd (h ▸ ht) (hbegin x (by simp)).not_stops
    | cons y ys =>
      simp only [List.map_cons, toList_commaSep_cons, List.append_assoc, List.flatMap_map] at h
      obtain ⟨rfl, hrest⟩ := hsep x List.mem_cons_self y List.mem_cons_self _ _
        (hstops xs hs) (hstops ys ht) h
      have htails : ∀ x' ∈ xs, ∀ y' ∈ ys,
          Separates (fun x => ", " ++ text x) (',' :: closers) x' y' := fun x' hx' y' hy' =>
        (hsep x' (List.mem_cons_of_mem _ hx') y' (List.mem_cons_of_mem _ hy')).comma
      obtain ⟨rfl, hst⟩ := flatMap_append_inj htails (fun z _ => begins_comma hcomma (text z))
        (List.subset_cons_self _ _) hs ht hrest
      exact ⟨rfl, hst⟩

end Lists

end DartSource.Text
