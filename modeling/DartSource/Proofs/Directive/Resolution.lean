import DartSource.Lowering.Library
import DartSource.Proofs.Lowering.Description

/-!
# Two ways to a resolved directive

A directive that points at an asset is resolved in two places: as a pending directive, by
`Pending.resolve`, and as a record of a description, by `Lowering.directive` or, for the owner of a
part file, by `Lowering.options`. The two were written apart, each with its own order of looking up
and checking. This module says that they agree: on the directive, and otherwise on the fault, which
the second way reports at the path of the record (`Lowering.directive_eq_atPath_resolve`,
`Lowering.partOf_eq_atPath_resolve`).

Both consult no more than they need.

* An import, export or part depends on one answer only, the reference to its asset from the file
  that is written (`Pending.resolve_congr`). Library names play no part in it.
* The owner of a part file is asked for its name first. If it has one, that is the answer, and no
  path is looked at (`Resolution.partOf_of_named`). So the lazy answer is the one that an eager
  choice between name and reference would have given (`Resolution.partOf_eq_ofOwner`).

The main statement, `Resolution.agreement`, puts these together.
-/

namespace DartSource

/-! ### The owner of a part file -/

namespace Resolution

variable {resolution : Resolution} {owner : Asset}

/-- The name of the owner settles the matter. -/
theorem partOf_of_named {name : String} (h : resolution.libraries owner = .ok (some name))
    (hname : name ≠ "") : resolution.partOf owner = .ok (.library name) := by
  have hkept : (some name).filter (· != "") = some name := by
    rw [Option.filter_some, if_pos (bne_iff_ne.mpr hname)]
  unfold partOf
  rw [h]
  simp only [bind, Except.bind, hkept, pure, Except.pure]

/-- Without a name, or with an empty one, the owner is found by its path. -/
theorem partOf_of_unnamed {name : Option String} (h : resolution.libraries owner = .ok name)
    (hname : name.filter (· != "") = none) :
    resolution.partOf owner =
      (resolution.paths owner resolution.current).map PartOf.reference := by
  unfold partOf
  rw [h]
  simp only [bind, Except.bind, hname]
  cases resolution.paths owner resolution.current <;> rfl

/-- A name counts unless it is missing or empty. -/
theorem filter_name_cases (name : Option String) :
    (∃ text, name = some text ∧ text ≠ "") ∨ name.filter (· != "") = none := by
  cases name with
  | none => exact .inr rfl
  | some text =>
    by_cases hempty : text = ""
    · right
      rw [hempty]
      rfl
    · exact .inl ⟨text, rfl, hempty⟩

/-- **The lazy answer is the eager one.** Where both lookups succeed, it makes no difference that
the path of a named owner is not looked at. -/
theorem partOf_eq_ofOwner {name : Option String} {uri : Uri}
    (hname : resolution.libraries owner = .ok name)
    (huri : resolution.paths owner resolution.current = .ok uri) :
    resolution.partOf owner = .ok (PartOf.ofOwner name uri) := by
  rcases filter_name_cases name with ⟨text, rfl, htext⟩ | hnone
  · rw [partOf_of_named hname htext, PartOf.ofOwner, if_neg htext]
  · rw [partOf_of_unnamed hname hnone, huri]
    cases name with
    | none => rfl
    | some text =>
      -- a name that does not count is empty
      have hempty : text = "" := by
        by_contra hne
        rw [Option.filter_some, if_pos (bne_iff_ne.mpr hne)] at hnone
        exact absurd hnone (by simp)
      rw [PartOf.ofOwner, if_pos hempty]
      rfl

end Resolution

/-! ### What resolving looks at -/

namespace Pending

/-- The asset that a pending directive points at. -/
def target : Pending → Asset
  | .importLib asset _ _ _ => asset
  | .exportLib asset _ => asset
  | .part asset => asset
  | .partOf owner => owner

/-- The directive names the owner of a part file, so a library name may stand in it. -/
def namesOwner : Pending → Bool
  | .partOf _ => true
  | _ => false

/-- **One answer settles a directive.** Lookups that agree on the reference to its target resolve an
import, export or part alike. -/
theorem resolve_congr {resolution other : Resolution} {pending : Pending}
    (hkind : pending.namesOwner = false)
    (htarget : other.paths pending.target other.current =
      resolution.paths pending.target resolution.current) :
    pending.resolve other = pending.resolve resolution := by
  cases pending with
  | importLib asset qualifier isDeferred names =>
    rw [target] at htarget
    rw [resolve, resolve, htarget]
  | exportLib asset names =>
    rw [target] at htarget
    rw [resolve, resolve, htarget]
  | part asset =>
    rw [target] at htarget
    rw [resolve, resolve, htarget]
  | partOf owner => exact absurd hkind (by simp [namesOwner])

/-- An owner is resolved to a directive that names an owner. -/
theorem resolve_partOf_eq_ok_iff {resolution : Resolution} {owner : Asset} {node : Directive} :
    (partOf owner).resolve resolution = .ok node ↔
      ∃ found, resolution.partOf owner = .ok found ∧ node = .partOf found := by
  rw [resolve, bind_eq_ok_iff]
  refine exists_congr fun found => and_congr_right fun _ => ?_
  exact ⟨fun h => (Except.ok.inj h).symm, fun h => congrArg Except.ok h.symm⟩

theorem resolve_partOf_eq_error_iff {resolution : Resolution} {owner : Asset} {fault : Fault} :
    (partOf owner).resolve resolution = .error fault ↔ resolution.partOf owner = .error fault := by
  rw [resolve, bind_eq_error_iff]
  refine or_iff_left ?_
  rintro ⟨found, -, hfound⟩
  exact absurd hfound (by rintro ⟨⟩)

end Pending

/-! ### Records that wait for an asset -/

/-- The record says what the pending directive says. Its target is an asset, and an import has no
keyword or the one that imports accept. -/
inductive Record.Directive.Awaits : Record.Directive → Pending → Prop where
  | importLib (asset : AssetRef) (qualifier : Option String) (shown hidden : List String) :
      Awaits (.importLib { target := .asset asset, qualifier, modifiers := [], shown, hidden })
        (.importLib (Lowering.asset asset) qualifier false { shown, hidden })
  | deferredImport (asset : AssetRef) (qualifier : Option String) (shown hidden : List String) :
      Awaits
        (.importLib
          { target := .asset asset, qualifier, modifiers := [.deferred], shown, hidden })
        (.importLib (Lowering.asset asset) qualifier true { shown, hidden })
  | exportLib (asset : AssetRef) (shown hidden : List String) :
      Awaits (.exportLib (.asset asset) shown hidden)
        (.exportLib (Lowering.asset asset) { shown, hidden })
  | part (asset : AssetRef) : Awaits (.part (.asset asset)) (.part (Lowering.asset asset))

namespace Lowering

variable {resolution : Resolution} {path : RecordPath}

theorem atPath_eq_error_iff {α : Type} {built : Except Fault α} {fault : Fault} :
    atPath path built = .error (.build path fault) ↔ built = .error fault := by
  cases built <;> simp [atPath]

/-- **A record is lowered as its pending directive is resolved**, with the fault put at its path. -/
theorem directive_eq_atPath_resolve {record : Record.Directive} {pending : Pending}
    (h : record.Awaits pending) :
    directive resolution path record = atPath path (pending.resolve resolution) := by
  cases h with
  | importLib asset qualifier shown hidden => rfl
  | deferredImport asset qualifier shown hidden =>
    -- the keyword is the one that imports accept, and the flag that it sets is the pending one
    have hcheck : checkDirective path (.importLib
        { target := .asset asset, qualifier, modifiers := [.deferred], shown, hidden }) =
          .ok () := by
      change Acceptance.anImport.check path [.deferred] = .ok ()
      refine Acceptance.check_eq_ok_iff.mpr ⟨List.nodup_singleton _, ?_⟩
      exact fun modifier hmem => hmem
    unfold directive
    rw [hcheck]
    rfl
  | exportLib asset shown hidden => rfl
  | part asset => rfl

/-- An owner that is given as an asset is lowered as it is resolved. -/
theorem partOf_eq_atPath_resolve (asset : Record.AssetRef) :
    partOf resolution path (.asset asset) =
      atPath path (resolution.partOf (Lowering.asset asset)) :=
  rfl

/-- The layout of a file with the given owner. -/
def layoutOf (output : Record.Output) (owner : PartOf) : RenderOptions :=
  { indent := (output.indent.map Indent.ofWidth).getD .standard
    generator := output.generator
    partOf := some owner }

section Owner

variable {output : Record.Output} {asset : Record.AssetRef}
  (houtput : output.partOf = some (.asset asset))

include houtput

/-- With an owner that is given as an asset, the layout waits for the owner and for nothing else. -/
theorem options_of_asset :
    options resolution path output =
      (atPath (path.field "part_of") (resolution.partOf (Lowering.asset asset))).map
        (layoutOf output) := by
  unfold options
  rw [houtput, partOf?, partOf_eq_atPath_resolve]
  cases resolution.partOf (Lowering.asset asset) <;> rfl

theorem options_eq_ok_iff {layout : RenderOptions} :
    options resolution path output = .ok layout ↔
      ∃ owner, (Pending.partOf (Lowering.asset asset)).resolve resolution = .ok (.partOf owner) ∧
        layout = layoutOf output owner := by
  simp only [Pending.resolve_partOf_eq_ok_iff]
  rw [options_of_asset houtput]
  cases resolution.partOf (Lowering.asset asset) with
  | error fault => simp [atPath, Except.map]
  | ok owner => simp [atPath, Except.map, eq_comm]

theorem options_eq_error_iff {fault : Fault} :
    options resolution path output = .error (.build (path.field "part_of") fault) ↔
      (Pending.partOf (Lowering.asset asset)).resolve resolution = .error fault := by
  rw [options_of_asset houtput, Pending.resolve_partOf_eq_error_iff]
  cases resolution.partOf (Lowering.asset asset) <;> simp [atPath, Except.map]

end Owner

/-- A record of a description depends on references alone. -/
theorem directive_congr {other : Resolution} (hpaths : other.paths = resolution.paths)
    (hcurrent : other.current = resolution.current) (record : Record.Directive) :
    directive other path record = directive resolution path record := by
  have htarget : target other = target resolution := by
    funext given
    cases given with
    | uri text => rfl
    | asset asset => rw [target, target, hpaths, hcurrent]
  have hnode : directiveNode other record = directiveNode resolution record := by
    cases record with
    | importLib record => rw [directiveNode, directiveNode, htarget]
    | exportLib given shown hidden => rw [directiveNode, directiveNode, htarget]
    | part given => rw [directiveNode, directiveNode, htarget]
  rw [directive, directive, hnode]

end Lowering

/-! ### The main statement -/

/-- **There is one way to resolve.** What a description gives at a path, and what the pending
directives give, for the same lookups. -/
structure Resolution.Agreement (resolution : Resolution) (path : RecordPath) : Prop where
  /-- A record gives the directive that its pending directive is resolved to. -/
  directive_ok : ∀ record pending, Record.Directive.Awaits record pending → ∀ node,
    Lowering.directive resolution path record = .ok node ↔ pending.resolve resolution = .ok node
  /-- Otherwise it fails at its path, with the fault of its pending directive. -/
  directive_error : ∀ record pending, Record.Directive.Awaits record pending → ∀ fault,
    Lowering.directive resolution path record = .error (.build path fault) ↔
      pending.resolve resolution = .error fault
  /-- The same holds of the owner of a part file: there is a layout with the owner that is found. -/
  owner_ok : ∀ (output : Record.Output) asset, output.partOf = some (.asset asset) → ∀ layout,
    Lowering.options resolution path output = .ok layout ↔
      ∃ owner, (Pending.partOf (Lowering.asset asset)).resolve resolution = .ok (.partOf owner) ∧
        layout = Lowering.layoutOf output owner
  /-- Otherwise there is none, and the fault is that of the owner. -/
  owner_error : ∀ (output : Record.Output) asset, output.partOf = some (.asset asset) →
    ∀ fault,
      Lowering.options resolution path output = .error (.build (path.field "part_of") fault) ↔
        (Pending.partOf (Lowering.asset asset)).resolve resolution = .error fault
  /-- Where name and reference of an owner can both be had, the name is preferred. -/
  owner_preferred : ∀ owner name uri, resolution.libraries owner = .ok name →
    resolution.paths owner resolution.current = .ok uri →
      resolution.partOf owner = .ok (PartOf.ofOwner name uri)
  /-- Library names make no difference to imports, exports and parts, in either way. -/
  names_irrelevant : ∀ libraries : Asset → Except Fault (Option String),
    (∀ record, Lowering.directive { resolution with libraries } path record =
      Lowering.directive resolution path record) ∧
    ∀ pending : Pending, pending.namesOwner = false →
      pending.resolve { resolution with libraries } = pending.resolve resolution
  /-- Paths and the file that is written make no difference to an owner with a name. -/
  paths_irrelevant : ∀ owner name, resolution.libraries owner = .ok (some name) → name ≠ "" →
    ∀ (paths : Asset → Option Asset → Except Fault Uri) (current : Option Asset),
      Resolution.partOf { resolution with paths, current } owner = resolution.partOf owner

/-- **Both ways to resolve a directive agree, and neither consults more than it needs.** -/
theorem Resolution.agreement (resolution : Resolution) (path : RecordPath) :
    resolution.Agreement path where
  directive_ok record pending hrecord node := by
    rw [Lowering.directive_eq_atPath_resolve hrecord]
    exact Lowering.atPath_eq_ok_iff
  directive_error record pending hrecord fault := by
    rw [Lowering.directive_eq_atPath_resolve hrecord]
    exact Lowering.atPath_eq_error_iff
  owner_ok output asset houtput layout := Lowering.options_eq_ok_iff houtput
  owner_error output asset houtput fault := Lowering.options_eq_error_iff houtput
  owner_preferred owner name uri hname huri := partOf_eq_ofOwner hname huri
  names_irrelevant libraries := by
    refine ⟨fun record => Lowering.directive_congr rfl rfl record, fun pending hkind => ?_⟩
    exact Pending.resolve_congr hkind rfl
  paths_irrelevant owner name hname hne paths current := by
    have hsame : ({ resolution with paths, current } : Resolution).libraries owner =
        .ok (some name) := hname
    rw [partOf_of_named hsame hne, partOf_of_named hname hne]

end DartSource
