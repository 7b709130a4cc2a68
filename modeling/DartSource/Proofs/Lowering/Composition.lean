import DartSource.Proofs.Lowering.FirstFailure
import DartSource.Lowering.Library

/-!
# Lowering record by record

A library is lowered by lowering its output, its directives and its declarations, each of them by
itself. To say this without looking inside, compare a library with the smaller ones that have the
same output and at most one record: what each of these gives settles what the whole library gives.

* The library fails at its output exactly when the output fails alone, for the same reason.
* Otherwise it gives a file exactly when every record does so alone. The declarations of the file
  are those of the records, in order, and so are its directives, where one that comes again is left
  out.
* Otherwise it fails as the first failing record does alone, with the index of that record in the
  path. Directives come before declarations.

The three cases are put together in `Record.Library.LowersApart`. What makes them true is that a
record uses its path for nothing but the address of its failure (`Lowering.Movable`), and that a
list of records is lowered from the front up to the first failure (`Lowering.each_eq_error_iff`).
-/

namespace DartSource

/-! ### What is added to a file -/

namespace SourceFile

theorem foldl_addDeclaration (file : SourceFile) (added : List Declaration) :
    added.foldl addDeclaration file =
      { file with declarations := file.declarations ++ added } := by
  induction added generalizing file with
  | nil => rw [List.foldl_nil, List.append_nil]
  | cons first rest ih =>
    rw [List.foldl_cons, ih]
    unfold addDeclaration
    rw [List.append_assoc]
    rfl

/-- Of the directives that are added, those count that the file does not have, each of them once. -/
theorem foldl_addDirective (file : SourceFile) (added : List Directive) :
    added.foldl addDirective file =
      { file with
        directives := file.directives ++ (added.filter (· ∉ file.directives)).eraseDups } := by
  induction added generalizing file with
  | nil =>
    rw [List.foldl_nil, List.filter_nil, List.eraseDups_nil, List.append_nil]
  | cons first rest ih =>
    rw [List.foldl_cons, ih]
    unfold addDirective
    by_cases hmem : first ∈ file.directives
    · -- nothing changes, and the directive is not among those that count
      rw [if_pos hmem, List.filter_cons_of_neg (by simpa using hmem)]
    · -- from now on the directive is one that the file has
      have hrest : rest.filter (· ∉ file.directives ++ [first]) =
          (rest.filter (· ∉ file.directives)).filter (fun directive => !directive == first) := by
        rw [List.filter_filter]
        refine List.filter_congr fun directive _ => ?_
        rw [Bool.eq_iff_iff]
        simp [and_comm]
      rw [if_neg hmem, List.filter_cons_of_pos (by simpa using hmem), List.eraseDups_cons, hrest,
        List.append_assoc]
      rfl

/-- A file that is filled from nothing. -/
theorem edit_directives_declarations (options : RenderOptions) (directives : List Directive)
    (declarations : List Declaration) :
    edit (edit { options } (.directives directives)) (.declarations declarations) =
      { options, directives := directives.eraseDups, declarations } := by
  have hall : directives.filter (· ∉ ([] : List Directive)) = directives :=
    List.filter_eq_self.mpr fun _ _ => rfl
  change declarations.foldl addDeclaration (directives.foldl addDirective { options }) = _
  rw [foldl_addDirective, foldl_addDeclaration, hall]
  rfl

end SourceFile

/-! ### Libraries -/

/-- An owner fails where it stands. -/
theorem Lowering.path?_of_partOf_error {resolution : Resolution} {path : RecordPath}
    {record : Record.PartOf} {failure : Failure}
    (h : Lowering.partOf resolution path record = .error failure) : failure.path? = some path := by
  cases record with
  | library name =>
    rw [Lowering.partOf] at h
    split at h
    · obtain rfl := Except.error.inj h
      rfl
    · exact absurd h (by simp)
  | uri text => exact absurd h (by simp [Lowering.partOf])
  | asset record =>
    rw [Lowering.partOf] at h
    cases howner : resolution.partOf (Lowering.asset record) with
    | ok owner =>
      rw [howner] at h
      exact absurd h (by simp [Lowering.atPath])
    | error fault =>
      rw [howner] at h
      obtain rfl := Except.error.inj h
      rfl

namespace Record.Library

/-- The library with nothing but its output. -/
def onlyOutput (library : Library) : Library :=
  { output := library.output }

/-- The library with its output and a single directive. -/
def onlyDirective (library : Library) (record : Directive) : Library :=
  { output := library.output, directives := [record] }

/-- The library with its output and a single declaration. -/
def onlyDeclaration (library : Library) (record : Declaration) : Library :=
  { output := library.output, declarations := [record] }

variable (library : Library) (surroundings : Surroundings)

/-- What a directive gives in a library that has nothing else. -/
def directiveAlone (record : Directive) : Except Failure SourceFile :=
  (library.onlyDirective record).lower surroundings

/-- What a declaration gives in a library that has nothing else. -/
def declarationAlone (record : Declaration) : Except Failure SourceFile :=
  (library.onlyDeclaration record).lower surroundings

/-! #### The three parts of lowering -/

/-- The layout of the file that a library describes. -/
def layout : Except Failure RenderOptions :=
  Lowering.options (surroundings.resolution (library.output.asset.map Lowering.asset))
    (RecordPath.field {} "output") library.output

/-- The directives that a library describes. -/
def directiveNodes : Except Failure (List DartSource.Directive) :=
  Lowering.each {} "directives"
    (Lowering.directive (surroundings.resolution (library.output.asset.map Lowering.asset)))
    library.directives

/-- The declarations that a library describes. -/
def declarationNodes : Except Failure (List DartSource.Declaration) :=
  Lowering.each {} "declarations" (Lowering.declaration surroundings.converters)
    library.declarations

/-- A file is put together from a layout, directives and declarations, in this order. -/
theorem lower_eq :
    library.lower surroundings = do
      let options ← library.layout surroundings
      let directives ← library.directiveNodes surroundings
      let declarations ← library.declarationNodes surroundings
      return { options, directives := directives.eraseDups, declarations } := by
  unfold lower
  simp only [SourceFile.edit_directives_declarations]
  rfl

variable {library surroundings}

theorem lower_of_layout_error {failure : Failure}
    (h : library.layout surroundings = .error failure) :
    library.lower surroundings = .error failure := by
  rw [lower_eq, h]
  rfl

/-- The layout can fail in one place only. -/
theorem path?_of_layout_error {failure : Failure}
    (h : library.layout surroundings = .error failure) :
    failure.path? = some ⟨[.field "output", .field "part_of"]⟩ := by
  unfold layout Lowering.options at h
  cases hrecord : library.output.partOf with
  | none =>
    rw [hrecord] at h
    exact absurd h (by rintro ⟨⟩)
  | some owner =>
    rw [hrecord, Lowering.partOf?] at h
    cases howner : Lowering.partOf _ _ owner with
    | ok node =>
      rw [howner] at h
      exact absurd h (by rintro ⟨⟩)
    | error cause =>
      rw [howner] at h
      obtain rfl := Except.error.inj h
      exact Lowering.path?_of_partOf_error howner

section LayoutOk

variable {options : RenderOptions} (h : library.layout surroundings = .ok options)

include h

theorem lower_of_layout_ok :
    library.lower surroundings = do
      let directives ← library.directiveNodes surroundings
      let declarations ← library.declarationNodes surroundings
      return { options, directives := directives.eraseDups, declarations } := by
  rw [lower_eq, h]
  rfl

theorem lower_onlyOutput : library.onlyOutput.lower surroundings = .ok { options } := by
  have hsame : library.onlyOutput.layout surroundings = .ok options := h
  rw [lower_of_layout_ok hsame]
  rfl

/-- A directive alone. -/
theorem lowersAlone_directive :
    Lowering.LowersAlone
      (Lowering.directive (surroundings.resolution (library.output.asset.map Lowering.asset)))
      "directives" (fun node => { options, directives := [node] })
      (library.directiveAlone surroundings) where
  movable := Lowering.movable_directive _
  injective := by
    intro node other heq
    exact (List.cons.inj (congrArg SourceFile.directives heq)).1
  alone_eq := by
    intro record
    have hsame : (library.onlyDirective record).layout surroundings = .ok options := h
    have hnodes := Lowering.each_singleton {} "directives"
      (Lowering.directive (surroundings.resolution (library.output.asset.map Lowering.asset)))
      record
    change (library.onlyDirective record).directiveNodes surroundings = _ at hnodes
    rw [directiveAlone, lower_of_layout_ok hsame, hnodes]
    cases Lowering.directive _ (RecordPath.item {} "directives" 0) record <;> rfl

/-- A declaration alone. -/
theorem lowersAlone_declaration :
    Lowering.LowersAlone (Lowering.declaration surroundings.converters) "declarations"
      (fun node => { options, declarations := [node] })
      (library.declarationAlone surroundings) where
  movable := Lowering.movable_declaration _
  injective := by
    intro node other heq
    exact (List.cons.inj (congrArg SourceFile.declarations heq)).1
  alone_eq := by
    intro record
    have hsame : (library.onlyDeclaration record).layout surroundings = .ok options := h
    have hnodes := Lowering.each_singleton {} "declarations"
      (Lowering.declaration surroundings.converters) record
    change (library.onlyDeclaration record).declarationNodes surroundings = _ at hnodes
    rw [declarationAlone, lower_of_layout_ok hsame, hnodes]
    cases Lowering.declaration _ (RecordPath.item {} "declarations" 0) record <;> rfl

/-- The library fails where its directives fail, or its declarations behind directives that pass. -/
theorem lower_eq_error_iff {failure : Failure} :
    library.lower surroundings = .error failure ↔
      library.directiveNodes surroundings = .error failure ∨
        (∃ nodes, library.directiveNodes surroundings = .ok nodes) ∧
          library.declarationNodes surroundings = .error failure := by
  rw [lower_of_layout_ok h, bind_eq_error_iff]
  refine or_congr_right ?_
  rw [← exists_and_right]
  refine exists_congr fun directives => and_congr_right fun _ => ?_
  rw [bind_eq_error_iff]
  refine or_iff_left ?_
  -- a file that can be put together is no failure
  rintro ⟨declarations, -, hfile⟩
  exact absurd hfile (by rintro ⟨⟩)

/-- The library gives a file where both of its lists give nodes. -/
theorem lower_eq_ok_iff {file : SourceFile} :
    library.lower surroundings = .ok file ↔
      ∃ directives declarations,
        library.directiveNodes surroundings = .ok directives ∧
          library.declarationNodes surroundings = .ok declarations ∧
            file = { options, directives := directives.eraseDups, declarations } := by
  rw [lower_of_layout_ok h, bind_eq_ok_iff]
  refine exists_congr fun directives => ?_
  rw [bind_eq_ok_iff, ← exists_and_left]
  refine exists_congr fun declarations => and_congr_right fun _ => and_congr_right fun _ => ?_
  exact ⟨fun hfile => (Except.ok.inj hfile).symm, fun hfile => congrArg Except.ok hfile.symm⟩

theorem exists_lower_eq_ok_iff :
    (∃ file, library.lower surroundings = .ok file) ↔
      (∃ nodes, library.directiveNodes surroundings = .ok nodes) ∧
        ∃ nodes, library.declarationNodes surroundings = .ok nodes := by
  constructor
  · rintro ⟨file, hfile⟩
    obtain ⟨directives, declarations, hnodes, hmore, -⟩ := (lower_eq_ok_iff h).mp hfile
    exact ⟨⟨directives, hnodes⟩, ⟨declarations, hmore⟩⟩
  · rintro ⟨⟨directives, hnodes⟩, ⟨declarations, hmore⟩⟩
    exact ⟨_, (lower_eq_ok_iff h).mpr ⟨directives, declarations, hnodes, hmore, rfl⟩⟩

end LayoutOk

section Agreement

variable {other : Library} (houtput : other.output = library.output)

include houtput

theorem layout_congr : other.layout surroundings = library.layout surroundings := by
  rw [layout, layout, houtput]

/-- What stands behind a failing directive makes no difference. -/
theorem lower_congr_of_directive {record : Directive} {front rest others : List Directive}
    (hsplit : library.directives = front ++ record :: rest)
    (hother : other.directives = front ++ record :: others)
    (hfails : ¬Lowering.Passes (library.directiveAlone surroundings) record) :
    other.lower surroundings = library.lower surroundings := by
  have hsame : other.layout surroundings = library.layout surroundings := layout_congr houtput
  cases hlayout : library.layout surroundings with
  | error failure =>
    rw [lower_of_layout_error hlayout, lower_of_layout_error (hsame.trans hlayout)]
  | ok options =>
    -- the directives of both libraries end in the same failure
    obtain ⟨failure, hfailure⟩ := (lowersAlone_directive hlayout).exists_each_eq_error hfails front
    have hnodes : library.directiveNodes surroundings = .error failure := by
      rw [directiveNodes, hsplit]
      exact hfailure rest
    have hothers : other.directiveNodes surroundings = .error failure := by
      rw [directiveNodes, hother, houtput]
      exact hfailure others
    rw [lower_of_layout_ok hlayout, lower_of_layout_ok (hsame.trans hlayout), hnodes, hothers]
    rfl

/-- What stands behind a failing declaration makes no difference. -/
theorem lower_congr_of_declaration {record : Declaration} {front rest others : List Declaration}
    (hdirectives : other.directives = library.directives)
    (hsplit : library.declarations = front ++ record :: rest)
    (hother : other.declarations = front ++ record :: others)
    (hfails : ¬Lowering.Passes (library.declarationAlone surroundings) record) :
    other.lower surroundings = library.lower surroundings := by
  have hsame : other.layout surroundings = library.layout surroundings := layout_congr houtput
  cases hlayout : library.layout surroundings with
  | error failure =>
    rw [lower_of_layout_error hlayout, lower_of_layout_error (hsame.trans hlayout)]
  | ok options =>
    -- the directives are the same, and the declarations end in the same failure
    obtain ⟨failure, hfailure⟩ :=
      (lowersAlone_declaration hlayout).exists_each_eq_error hfails front
    have hfront : other.directiveNodes surroundings = library.directiveNodes surroundings := by
      rw [directiveNodes, directiveNodes, hdirectives, houtput]
    have hnodes : library.declarationNodes surroundings = .error failure := by
      rw [declarationNodes, hsplit]
      exact hfailure rest
    have hothers : other.declarationNodes surroundings = .error failure := by
      rw [declarationNodes, hother]
      exact hfailure others
    rw [lower_of_layout_ok hlayout, lower_of_layout_ok (hsame.trans hlayout), hfront, hnodes,
      hothers]

end Agreement

/-! #### The main statement -/

/-- **A library is lowered record by record.** Its parts, each of them alone, settle what it gives:
a file or a failure, and which. -/
structure LowersApart (library : Library) (surroundings : Surroundings) : Prop where
  /-- The library fails at the owner of its output exactly when its output fails alone, and then
  with the same failure. -/
  output : ∀ failure,
    library.lower surroundings = .error failure ∧
        failure.path? = some ⟨[.field "output", .field "part_of"]⟩ ↔
      library.onlyOutput.lower surroundings = .error failure
  /-- Otherwise there is a file exactly when every record gives one alone. -/
  succeeds : ∀ base, library.onlyOutput.lower surroundings = .ok base →
    ((∃ file, library.lower surroundings = .ok file) ↔
      (∀ record ∈ library.directives,
          Lowering.Passes (library.directiveAlone surroundings) record) ∧
        ∀ record ∈ library.declarations,
          Lowering.Passes (library.declarationAlone surroundings) record)
  /-- The file holds what the records give alone, in their order, and of equal directives the
  first. -/
  contents : ∀ base file, library.onlyOutput.lower surroundings = .ok base →
    library.lower surroundings = .ok file →
      ∃ directives declarations,
        List.Forall₂
          (fun record node => library.directiveAlone surroundings record =
            .ok { options := base.options, directives := [node] })
          library.directives directives ∧
        List.Forall₂
          (fun record node => library.declarationAlone surroundings record =
            .ok { options := base.options, declarations := [node] })
          library.declarations declarations ∧
        file = { options := base.options, directives := directives.eraseDups, declarations }
  /-- A failure is that of the first record that fails alone, at the index of that record.
  Declarations count only when all directives pass. -/
  fails : ∀ base failure, library.onlyOutput.lower surroundings = .ok base →
    (library.lower surroundings = .error failure ↔
      Lowering.FirstFailure (library.directiveAlone surroundings) library.directives failure ∨
        (∀ record ∈ library.directives,
            Lowering.Passes (library.directiveAlone surroundings) record) ∧
          Lowering.FirstFailure (library.declarationAlone surroundings) library.declarations
            failure)
  /-- Libraries with the same output that agree up to a failing directive fail alike. -/
  settled_by_directive : ∀ (other : Library) front record rest others,
    other.output = library.output →
    library.directives = front ++ record :: rest →
    other.directives = front ++ record :: others →
    ¬Lowering.Passes (library.directiveAlone surroundings) record →
      other.lower surroundings = library.lower surroundings
  /-- Libraries with the same output and directives that agree up to a failing declaration fail
  alike. -/
  settled_by_declaration : ∀ (other : Library) front record rest others,
    other.output = library.output →
    other.directives = library.directives →
    library.declarations = front ++ record :: rest →
    other.declarations = front ++ record :: others →
    ¬Lowering.Passes (library.declarationAlone surroundings) record →
      other.lower surroundings = library.lower surroundings

/-- Behind a layout a failure is that of a record in one of the lists, so its path starts there. -/
theorem exists_item_of_lower_error {options : RenderOptions} {failure : Failure} {path : RecordPath}
    (hlayout : library.layout surroundings = .ok options)
    (hfails : library.lower surroundings = .error failure) (hpath : failure.path? = some path) :
    ∃ name index rest, path.steps = .item name index :: rest := by
  rcases (lower_eq_error_iff hlayout).mp hfails with hnodes | ⟨-, hnodes⟩
  · obtain ⟨front, record, rest, -, -, hrecord⟩ :=
      (Lowering.each_eq_error_iff (Lowering.movable_directive _)).mp hnodes
    obtain ⟨inner, rfl⟩ :=
      (Lowering.movable_directive _ record).exists_path_of_error hrecord hpath
    exact ⟨_, _, inner.steps, rfl⟩
  · obtain ⟨front, record, rest, -, -, hrecord⟩ :=
      (Lowering.each_eq_error_iff (Lowering.movable_declaration _)).mp hnodes
    obtain ⟨inner, rfl⟩ :=
      (Lowering.movable_declaration _ record).exists_path_of_error hrecord hpath
    exact ⟨_, _, inner.steps, rfl⟩

/-- A failure of the library at its output is not one of a directive or a declaration. -/
theorem layout_error_of_path? {failure : Failure}
    (hfails : library.lower surroundings = .error failure)
    (hpath : failure.path? = some ⟨[.field "output", .field "part_of"]⟩) :
    library.layout surroundings = .error failure := by
  cases hlayout : library.layout surroundings with
  | error cause =>
    rw [lower_of_layout_error hlayout] at hfails
    obtain rfl := Except.error.inj hfails
    rfl
  | ok options =>
    obtain ⟨name, index, rest, hsteps⟩ := exists_item_of_lower_error hlayout hfails hpath
    exact absurd hsteps (by simp)

/-- The output alone fails as the layout does. -/
theorem lower_onlyOutput_eq_error_iff {failure : Failure} :
    library.onlyOutput.lower surroundings = .error failure ↔
      library.layout surroundings = .error failure := by
  have hsame : library.onlyOutput.layout surroundings = library.layout surroundings := rfl
  cases hlayout : library.layout surroundings with
  | error cause => rw [lower_of_layout_error (hsame.trans hlayout)]; simp
  | ok options => rw [lower_onlyOutput hlayout]; simp

/-- The layout behind the file of the output alone. -/
theorem layout_of_onlyOutput {base : SourceFile}
    (h : library.onlyOutput.lower surroundings = .ok base) :
    library.layout surroundings = .ok base.options := by
  cases hlayout : library.layout surroundings with
  | error failure =>
    rw [lower_onlyOutput_eq_error_iff.mpr hlayout] at h
    exact absurd h (by simp)
  | ok options =>
    rw [lower_onlyOutput hlayout] at h
    obtain rfl := Except.ok.inj h
    rfl

/-- **Lowering is compositional and stops at the first record that fails.** -/
theorem lower_apart (library : Library) (surroundings : Surroundings) :
    library.LowersApart surroundings where
  output failure := by
    rw [lower_onlyOutput_eq_error_iff]
    constructor
    · rintro ⟨hfails, hpath⟩
      exact layout_error_of_path? hfails hpath
    · intro hlayout
      exact ⟨lower_of_layout_error hlayout, path?_of_layout_error hlayout⟩
  succeeds base hbase := by
    have hlayout := layout_of_onlyOutput hbase
    have hdirectives : (∃ nodes, library.directiveNodes surroundings = .ok nodes) ↔ _ :=
      (lowersAlone_directive hlayout).exists_each_eq_ok_iff
    have hdeclarations : (∃ nodes, library.declarationNodes surroundings = .ok nodes) ↔ _ :=
      (lowersAlone_declaration hlayout).exists_each_eq_ok_iff
    rw [← hdirectives, ← hdeclarations]
    exact exists_lower_eq_ok_iff hlayout
  contents base file hbase hfile := by
    have hlayout := layout_of_onlyOutput hbase
    obtain ⟨directives, declarations, hdirectives, hdeclarations, rfl⟩ :=
      (lower_eq_ok_iff hlayout).mp hfile
    refine ⟨directives, declarations, ?_, ?_, rfl⟩
    · exact (lowersAlone_directive hlayout).each_eq_ok_iff.mp hdirectives
    · exact (lowersAlone_declaration hlayout).each_eq_ok_iff.mp hdeclarations
  fails base failure hbase := by
    have hlayout := layout_of_onlyOutput hbase
    have hdirectives := lowersAlone_directive hlayout
    rw [lower_eq_error_iff hlayout]
    refine or_congr hdirectives.each_eq_error_iff (and_congr ?_ ?_)
    · exact hdirectives.exists_each_eq_ok_iff
    · exact (lowersAlone_declaration hlayout).each_eq_error_iff
  settled_by_directive other front record rest others houtput hsplit hother hfails :=
    lower_congr_of_directive houtput hsplit hother hfails
  settled_by_declaration other front record rest others houtput hdirectives hsplit hother hfails :=
    lower_congr_of_declaration houtput hdirectives hsplit hother hfails

end Record.Library

end DartSource
