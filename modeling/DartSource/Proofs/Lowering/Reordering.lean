import DartSource.Proofs.Lowering.Composition
import DartSource.Proofs.Lowering.Walk

/-!
# The order of keywords

The keywords of a record are a set: in which order they are listed makes no difference. Take two
libraries that differ in the order of keywords, in any of their records
(`Record.Library.Reordered`). Both give the same file, or both fail, and then at the same path. The
failures are equal, with one exception. Where a record is refused for its keywords, the first
keyword at fault is reported, and that depends on the order; but then the record is refused in both
libraries.

Lowering is a chain of steps, and this is proved along the chain. `Lowering.Agree` says of two
results that they are the same up to that exception, where the record is found by walking the same
steps through both descriptions. The check of the keywords agrees (`Lowering.Agree.check`); once it
has passed, only membership in the list is asked for, and whatever comes next is equal on both sides
or is the lowering of inner records, one step further down (`Lowering.Agree.inside`,
`Lowering.Agree.each`).
-/

namespace DartSource

open Record (Modifier Entry)

/-! ### Records in another order -/

namespace Record

/-- The parameter with its keywords in another order. -/
inductive Param.Reordered : Param → Param → Prop where
  | intro (record : Param) {modifiers : List Modifier} (h : record.modifiers.Perm modifiers) :
      Reordered record { record with modifiers }

/-- The callable with its keywords, and those of its parameters, in another order. -/
inductive Callable.Reordered : Callable → Callable → Prop where
  | intro (record : Callable) {params : List Param} {modifiers : List Modifier}
      (hparams : List.Forall₂ Param.Reordered record.params params)
      (h : record.modifiers.Perm modifiers) :
      Reordered record { record with params, modifiers }

/-- The member with its keywords, and those of its parameters, in another order. -/
inductive Member.Reordered : Member → Member → Prop where
  | property (record : Property) {modifiers : List Modifier}
      (h : record.modifiers.Perm modifiers) :
      Reordered (.property record) (.property { record with modifiers })
  | getter (record : Getter) {modifiers : List Modifier} (h : record.modifiers.Perm modifiers) :
      Reordered (.getter record) (.getter { record with modifiers })
  | setter (record : Setter) {param : Param} {modifiers : List Modifier}
      (hparam : record.param.Reordered param) (h : record.modifiers.Perm modifiers) :
      Reordered (.setter record) (.setter { record with param, modifiers })
  | constructor (record : Constructor) {params : List Param} {modifiers : List Modifier}
      (hparams : List.Forall₂ Param.Reordered record.params params)
      (h : record.modifiers.Perm modifiers) :
      Reordered (.constructor record) (.constructor { record with params, modifiers })
  | method {record other : Callable} (h : record.Reordered other) :
      Reordered (.method record) (.method other)

/-- The declaration with its keywords, and those of all records inside it, in another order. -/
inductive Declaration.Reordered : Declaration → Declaration → Prop where
  | classDecl (record : ClassDecl) {members : List Member} {modifiers : List Modifier}
      (hmembers : List.Forall₂ Member.Reordered record.members members)
      (h : record.modifiers.Perm modifiers) :
      Reordered (.classDecl record) (.classDecl { record with members, modifiers })
  | enumDecl (record : EnumDecl) {members : List Member}
      (hmembers : List.Forall₂ Member.Reordered record.members members) :
      Reordered (.enumDecl record) (.enumDecl { record with members })
  | mixinDecl (record : MixinDecl) {members : List Member} {modifiers : List Modifier}
      (hmembers : List.Forall₂ Member.Reordered record.members members)
      (h : record.modifiers.Perm modifiers) :
      Reordered (.mixinDecl record) (.mixinDecl { record with members, modifiers })
  | extensionDecl (record : ExtensionDecl) {members : List Member}
      (hmembers : List.Forall₂ Member.Reordered record.members members) :
      Reordered (.extensionDecl record) (.extensionDecl { record with members })
  | functionDecl {record other : Callable} (h : record.Reordered other) :
      Reordered (.functionDecl record) (.functionDecl other)
  | variable (record : VariableDecl) {modifiers : List Modifier}
      (h : record.modifiers.Perm modifiers) :
      Reordered (.variable record) (.variable { record with modifiers })

/-- The directive with its keywords in another order. Only imports have any. -/
inductive Directive.Reordered : Directive → Directive → Prop where
  | importLib (record : Import) {modifiers : List Modifier}
      (h : record.modifiers.Perm modifiers) :
      Reordered (.importLib record) (.importLib { record with modifiers })
  | exportLib (target : Target) (shown hidden : List String) :
      Reordered (.exportLib target shown hidden) (.exportLib target shown hidden)
  | part (target : Target) : Reordered (.part target) (.part target)

/-- The library with the keywords of any of its records in another order. -/
inductive Library.Reordered : Library → Library → Prop where
  | intro (library : Library) {directives : List Directive} {declarations : List Declaration}
      (hdirectives : List.Forall₂ Directive.Reordered library.directives directives)
      (hdeclarations : List.Forall₂ Declaration.Reordered library.declarations declarations) :
      Reordered library { library with directives, declarations }

end Record

namespace Lowering

variable {α β : Type} {a b : Entry} {path : RecordPath}

/-- **What two readings of a record give at a path**: the same node, the same failure, or the
refusals of one record inside, which the same steps lead to in both readings. -/
inductive Agree (a b : Entry) (path : RecordPath) : Except Failure α → Except Failure α → Prop where
  | node (value : α) : Agree a b path (.ok value) (.ok value)
  | failure {failure : Failure} {place : RecordPath} (hplace : failure.path? = some place) :
      Agree a b path (.error failure) (.error failure)
  | refusal (place : RecordPath) {inner other : Entry} {failure failure' : Failure}
      (hinner : a.follow? place.steps = some inner)
      (hother : b.follow? place.steps = some other)
      (hrefused : inner.Refused (RecordPath.below path place) failure)
      (hrefused' : other.Refused (RecordPath.below path place) failure') :
      Agree a b path (.error failure) (.error failure')

/-! ### Parts of steps -/

namespace Agree

/-- A node is built alike from equal drafts. -/
theorem atPath (built : Except Fault α) :
    Agree a b path (atPath path built) (atPath path built) := by
  cases built with
  | ok value => exact .node value
  | error fault => exact .failure rfl

/-- A chain agrees when its steps do. -/
theorem bind {step step' : Except Failure α} {next next' : α → Except Failure β}
    (hstep : Agree a b path step step')
    (hnext : ∀ value, Agree a b path (next value) (next' value)) :
    Agree a b path (step >>= next) (step' >>= next') := by
  cases hstep with
  | node value => exact hnext value
  | failure hplace => exact .failure hplace
  | refusal place hinner hother hrefused hrefused' =>
    exact .refusal place hinner hother hrefused hrefused'

/-- What is done with the result of a step does not concern the failures. -/
theorem map {step step' : Except Failure α} (hstep : Agree a b path step step') (f : α → β) :
    Agree a b path (step >>= fun value => .ok (f value)) (step' >>= fun value => .ok (f value)) :=
  hstep.bind fun value => .node (f value)

/-- **The check of keywords does not depend on their order**, but for which of them is reported. -/
theorem check {acceptance : Acceptance} {modifiers others : List Modifier}
    (hperm : modifiers.Perm others) (ha : a.keywords? = some (acceptance, modifiers))
    (hb : b.keywords? = some (acceptance, others)) :
    Agree a b path (acceptance.check path modifiers) (acceptance.check path others) := by
  cases hcheck : acceptance.check path modifiers with
  | ok _ =>
    -- admitted in one order, the keywords are admitted in the other
    have hadmits := (Acceptance.check_eq_ok_iff.mp hcheck).of_perm hperm
    rw [Acceptance.check_eq_ok_iff.mpr hadmits]
    exact .node ()
  | error failure =>
    cases hcheck' : acceptance.check path others with
    | ok _ =>
      have hadmits := (Acceptance.check_eq_ok_iff.mp hcheck').of_perm hperm.symm
      rw [Acceptance.check_eq_ok_iff.mpr hadmits] at hcheck
      exact absurd hcheck (by rintro ⟨⟩)
    | error failure' =>
      have hhere : RecordPath.below path {} = path := RecordPath.below_root path
      refine .refusal {} rfl rfl ?_ ?_
      · exact ⟨acceptance, modifiers, ha, by rw [hhere, hcheck]⟩
      · exact ⟨acceptance, others, hb, by rw [hhere, hcheck']⟩

/-- Records one step further down agree at their own place. -/
theorem inside {step : RecordPath.Step} {inner other : Entry} {result result' : Except Failure α}
    (ha : a.step? step = some inner) (hb : b.step? step = some other)
    (h : Agree inner other ⟨path.steps ++ [step]⟩ result result') :
    Agree a b path result result' := by
  cases h with
  | node value => exact .node value
  | failure hplace => exact .failure hplace
  | refusal place hinner hother hrefused hrefused' =>
    -- the step is the first of the walk from the outer record
    have hbelow : RecordPath.below ⟨path.steps ++ [step]⟩ place =
        RecordPath.below path ⟨step :: place.steps⟩ := by
      unfold RecordPath.below
      rw [List.append_assoc, List.singleton_append]
    rw [hbelow] at hrefused hrefused'
    refine .refusal ⟨step :: place.steps⟩ ?_ ?_ hrefused hrefused'
    · exact (Entry.follow?_step ha place.steps).trans hinner
    · exact (Entry.follow?_step hb place.steps).trans hother

/-- From the given index on, the records of two lists agree one by one. -/
theorem eachFrom {R : α → α → Prop} {wrap : α → Entry} {lower : RecordPath → α → Except Failure β}
    (h : ∀ record other, R record other → ∀ path,
      Agree (wrap record) (wrap other) path (lower path record) (lower path other))
    {name : String} {records others : List α} (hrecords : List.Forall₂ R records others)
    (index : Nat)
    (ha : ∀ i, a.step? (.item name (index + i)) = (records.map wrap)[i]?)
    (hb : ∀ i, b.step? (.item name (index + i)) = (others.map wrap)[i]?) :
    Agree a b path (eachFrom path name lower index records)
      (eachFrom path name lower index others) := by
  induction hrecords generalizing index with
  | nil => exact .node []
  | @cons record other rest more hrecord hrest ih =>
    refine bind (inside (ha 0) (hb 0) (h record other hrecord _)) fun node => ?_
    refine (ih (index + 1) (fun i => ?_) (fun i => ?_)).map fun nodes => node :: nodes
    · rw [Nat.add_assoc, Nat.add_comm 1 i]
      exact ha (i + 1)
    · rw [Nat.add_assoc, Nat.add_comm 1 i]
      exact hb (i + 1)

/-- Lists of records agree when their records do. -/
theorem each {R : α → α → Prop} {wrap : α → Entry} {lower : RecordPath → α → Except Failure β}
    (h : ∀ record other, R record other → ∀ path,
      Agree (wrap record) (wrap other) path (lower path record) (lower path other))
    {name : String} {records others : List α} (hrecords : List.Forall₂ R records others)
    (ha : a.lists.lookup name = some (records.map wrap))
    (hb : b.lists.lookup name = some (others.map wrap)) :
    Agree a b path (each path name lower records) (each path name lower others) := by
  refine eachFrom h hrecords 0 (fun i => ?_) (fun i => ?_)
  · rw [Nat.zero_add, Entry.step?_item ha]
  · rw [Nat.zero_add, Entry.step?_item hb]

end Agree

section Keywords

variable {modifiers others : List Modifier}

/-- A flag is set by a keyword, wherever it stands. -/
theorem decide_mem_of_perm (h : modifiers.Perm others) (modifier : Modifier) :
    decide (modifier ∈ others) = decide (modifier ∈ modifiers) :=
  decide_eq_decide.mpr h.mem_iff.symm

/-- The limit of a type is found wherever it stands. -/
theorem limit?_of_perm (h : modifiers.Perm others) (path : RecordPath) :
    limit? path others = limit? path modifiers := by
  unfold limit?
  simp only [decide_mem_of_perm h]

theorem agree_limit? (modifiers : List Modifier) :
    Agree a b path (limit? path modifiers) (limit? path modifiers) := by
  unfold limit?
  split
  · exact .node _
  · exact .node _
  · exact .failure rfl

end Keywords

/-! ### Signatures and values -/

theorem agree_param {record other : Record.Param} (h : record.Reordered other)
    (path : RecordPath) :
    Agree (.param record) (.param other) path (param path record) (param path other) := by
  obtain ⟨hperm⟩ := h
  refine (Agree.check hperm rfl rfl).bind fun _ => ?_
  simp only [decide_mem_of_perm hperm]
  exact .atPath _

/-- Parameters agree wherever the records around them list them. -/
theorem agree_params {records others : List Record.Param}
    (h : List.Forall₂ Record.Param.Reordered records others)
    (ha : a.lists.lookup "params" = some (records.map .param))
    (hb : b.lists.lookup "params" = some (others.map .param)) :
    Agree a b path (params path records) (params path others) := by
  refine Agree.each (fun record other hrecord => ?_) h ha hb
  exact agree_param hrecord

theorem agree_callable {record other : Record.Callable} (h : record.Reordered other)
    (ha : a.lists.lookup "params" = some (record.params.map .param))
    (hb : b.lists.lookup "params" = some (other.params.map .param)) :
    Agree a b path (callable path record) (callable path other) := by
  obtain ⟨hparams, hperm⟩ := h
  refine (agree_params hparams ha hb).bind fun params => ?_
  simp only [decide_mem_of_perm hperm]
  exact .node _

theorem agree_initialValue (converters : Converters) (defaultValue : Option String)
    (value : Option Record.Value) :
    Agree a b path (initialValue converters path defaultValue value)
      (initialValue converters path defaultValue value) := by
  cases defaultValue with
  | some expression =>
    cases value with
    | some value => exact .failure rfl
    | none => exact .node (some expression)
  | none =>
    cases value with
    | some value =>
      rw [initialValue]
      cases value.render converters with
      | ok expression => exact .node (some expression)
      | error fault => exact .failure rfl
    | none => exact .node none

/-! ### Members -/

theorem agree_method {record other : Record.Callable} (h : record.Reordered other)
    (path : RecordPath) :
    Agree (.member (.method record)) (.member (.method other)) path (method path record)
      (method path other) := by
  have hperm : record.modifiers.Perm other.modifiers := by
    obtain ⟨-, hperm⟩ := h
    exact hperm
  refine (Agree.check hperm rfl rfl).bind fun _ => ?_
  refine (agree_callable h rfl rfl).bind fun callable => ?_
  simp only [decide_mem_of_perm hperm]
  exact .atPath _

/-- **Members agree.** The keywords of a member are checked before anything else is looked at. -/
theorem agree_member (converters : Converters) (owner : String) {record other : Record.Member}
    (h : record.Reordered other) (path : RecordPath) :
    Agree (.member record) (.member other) path (member converters owner path record)
      (member converters owner path other) := by
  cases h with
  | property record hperm =>
    refine Agree.map ((Agree.check hperm rfl rfl).bind fun _ => ?_) Member.property
    refine (agree_initialValue converters _ _).bind fun defaultValue => ?_
    simp only [decide_mem_of_perm hperm]
    exact .atPath _
  | getter record hperm =>
    refine Agree.map ((Agree.check hperm rfl rfl).bind fun _ => ?_) Member.getter
    simp only [decide_mem_of_perm hperm]
    exact .atPath _
  | setter record hparam hperm =>
    refine Agree.map ((Agree.check hperm rfl rfl).bind fun _ => ?_) Member.setter
    refine (Agree.inside rfl rfl (agree_param hparam _)).bind fun param => ?_
    simp only [decide_mem_of_perm hperm]
    exact .atPath _
  | constructor record hparams hperm =>
    refine Agree.map ((Agree.check hperm rfl rfl).bind fun _ => ?_) Member.constructor
    refine (agree_params hparams rfl rfl).bind fun params => ?_
    simp only [decide_mem_of_perm hperm]
    exact .atPath _
  | method h => exact (agree_method h path).map Member.method

theorem agree_members (converters : Converters) (owner : String)
    {records others : List Record.Member}
    (h : List.Forall₂ Record.Member.Reordered records others)
    (ha : a.lists.lookup "members" = some (records.map .member))
    (hb : b.lists.lookup "members" = some (others.map .member)) :
    Agree a b path (members converters owner path records)
      (members converters owner path others) := by
  refine Agree.each (fun record other hrecord => ?_) h ha hb
  exact agree_member converters owner hrecord

/-! ### Declarations and directives -/

/-- The constants of an enum have no keywords, so they are the same in both readings. -/
theorem agree_constants (records : List Record.EnumConstant)
    (ha : a.lists.lookup "constants" = some (records.map .constant))
    (hb : b.lists.lookup "constants" = some (records.map .constant)) :
    Agree a b path (each path "constants" enumConstant records)
      (each path "constants" enumConstant records) := by
  refine Agree.each (R := Eq) ?_ (List.forall₂_refl records) ha hb
  rintro record _ rfl path
  exact .atPath _

/-- **Declarations agree.** -/
theorem agree_declaration (converters : Converters) {record other : Record.Declaration}
    (h : record.Reordered other) (path : RecordPath) :
    Agree (.declaration record) (.declaration other) path (declaration converters path record)
      (declaration converters path other) := by
  cases h with
  | classDecl record hmembers hperm =>
    refine Agree.map ((Agree.check hperm rfl rfl).bind fun _ => ?_) Declaration.classDecl
    simp only [limit?_of_perm hperm]
    refine (agree_limit? record.modifiers).bind fun limit => ?_
    refine (agree_members converters _ hmembers rfl rfl).bind fun members => ?_
    simp only [decide_mem_of_perm hperm]
    exact .atPath _
  | enumDecl record hmembers =>
    refine Agree.map ((agree_constants record.constants rfl rfl).bind fun constants => ?_)
      Declaration.enumDecl
    refine (agree_members converters _ hmembers rfl rfl).bind fun members => ?_
    exact .atPath _
  | mixinDecl record hmembers hperm =>
    refine Agree.map ((Agree.check hperm rfl rfl).bind fun _ => ?_) Declaration.mixinDecl
    simp only [limit?_of_perm hperm]
    refine (agree_limit? record.modifiers).bind fun limit => ?_
    refine (agree_members converters _ hmembers rfl rfl).bind fun members => ?_
    exact .atPath _
  | extensionDecl record hmembers =>
    refine Agree.map ((agree_members converters _ hmembers rfl rfl).bind fun members => ?_)
      Declaration.extensionDecl
    exact .atPath _
  | functionDecl h =>
    rename_i record other
    have hperm : record.modifiers.Perm other.modifiers := by
      obtain ⟨-, hperm⟩ := h
      exact hperm
    refine Agree.map ((Agree.check hperm rfl rfl).bind fun _ => ?_) Declaration.functionDecl
    exact (agree_callable h rfl rfl).bind fun callable => .atPath _
  | «variable» record hperm =>
    refine Agree.map ((Agree.check hperm rfl rfl).bind fun _ => ?_) Declaration.variable
    refine (agree_initialValue converters _ _).bind fun value => ?_
    simp only [decide_mem_of_perm hperm]
    exact .atPath _

/-- **Directives agree.** -/
theorem agree_directive (resolution : Resolution) {record other : Record.Directive}
    (h : record.Reordered other) (path : RecordPath) :
    Agree (.directive record) (.directive other) path (directive resolution path record)
      (directive resolution path other) := by
  cases h with
  | importLib record hperm =>
    refine (Agree.check hperm rfl rfl).bind fun _ => ?_
    simp only [directiveNode, decide_mem_of_perm hperm]
    exact .atPath _
  | exportLib target shown hidden => exact (Agree.node ()).bind fun _ => .atPath _
  | part target => exact (Agree.node ()).bind fun _ => .atPath _

/-! ### Limits -/

/-- The limits that the keywords of a type ask for. -/
def limitsGiven (modifiers : List Modifier) : List ClassModifier :=
  (limits.filter fun limit => limit.1 ∈ modifiers).map Prod.snd

/-- Of the limits that are given, all are passed on or none: there is at most one. -/
theorem limitsGiven_of_limit? {modifiers : List Modifier} {limit : Option ClassModifier}
    (h : limit? path modifiers = .ok limit) : limitsGiven modifiers = limit.toList := by
  unfold limit? at h
  unfold limitsGiven
  split at h
  · next hnone =>
    obtain rfl := Except.ok.inj h
    rw [hnone]
    rfl
  · next entry hone =>
    obtain rfl := Except.ok.inj h
    rw [hone]
    rfl
  · exact absurd h (by simp)

/-- A class has the limits that its record gives. -/
theorem limitsGiven_of_classDecl {converters : Converters} {record : Record.ClassDecl}
    {node : ClassDecl} (h : classDecl converters path record = .ok node) :
    limitsGiven record.modifiers = node.modifier.toList := by
  have hdescribes := classDecl_eq_ok_iff.mp h
  refine limitsGiven_of_limit? (limit?_eq_ok_iff_flags.mpr fun flag hflag => ?_ :
    limit? path record.modifiers = .ok node.modifier)
  -- among the flags of a class, the limits stand between the other two
  refine hdescribes.keywords.set_iff flag (List.mem_append_left _ ?_)
  exact List.mem_cons_of_mem _ hflag

/-- A mixin has the limits that its record gives. -/
theorem limitsGiven_of_mixinDecl {converters : Converters} {record : Record.MixinDecl}
    {node : MixinDecl} (h : mixinDecl converters path record = .ok node) :
    limitsGiven record.modifiers = node.modifier.toList := by
  have hdescribes := mixinDecl_eq_ok_iff.mp h
  exact limitsGiven_of_limit? (limit?_eq_ok_iff_flags.mpr hdescribes.keywords.set_iff :
    limit? path record.modifiers = .ok node.modifier)

end Lowering

/-! ### Libraries -/

namespace Record.Library

variable {library other : Library}

/-- **Libraries agree.** -/
theorem agree_lower (h : library.Reordered other) (surroundings : Surroundings) :
    Lowering.Agree (.library library) (.library other) {} (library.lower surroundings)
      (other.lower surroundings) := by
  obtain ⟨hdirectives, hdeclarations⟩ := h
  rw [lower_eq, lower_eq]
  refine Lowering.Agree.bind ?_ fun options => Lowering.Agree.bind ?_ fun nodes =>
    Lowering.Agree.map ?_ _
  · -- the output has no keywords, so the layout is the same
    change Lowering.Agree _ _ _ (library.layout surroundings) (library.layout surroundings)
    cases hlayout : library.layout surroundings with
    | ok options => exact .node options
    | error failure => exact .failure (path?_of_layout_error hlayout)
  · refine Lowering.Agree.each (fun record other hrecord => ?_) hdirectives rfl rfl
    exact Lowering.agree_directive _ hrecord
  · refine Lowering.Agree.each (fun record other hrecord => ?_) hdeclarations rfl rfl
    exact Lowering.agree_declaration _ hrecord

/-- What two libraries give is the same: one file, or failures at one path. The failures are equal,
unless the record at that path is refused for its keywords in both libraries. -/
inductive SameOutcome (library other : Library) :
    Except Failure SourceFile → Except Failure SourceFile → Prop where
  | file (file : SourceFile) : SameOutcome library other (.ok file) (.ok file)
  | failure (path : RecordPath) {failure : Failure} (hpath : failure.path? = some path) :
      SameOutcome library other (.error failure) (.error failure)
  | refusal (path : RecordPath) {record record' : Entry} {cause cause' : Misuse}
      (hrecord : library.recordAt? path = some record)
      (hrecord' : other.recordAt? path = some record')
      (hrefused : record.Refused path (.record path cause))
      (hrefused' : record'.Refused path (.record path cause')) :
      SameOutcome library other (.error (.record path cause)) (.error (.record path cause'))

/-- From the top of a description, a walk is a path. -/
theorem sameOutcome_of_agree {result result' : Except Failure SourceFile}
    (h : Lowering.Agree (.library library) (.library other) {} result result') :
    SameOutcome library other result result' := by
  cases h with
  | node file => exact .file file
  | failure hplace => exact .failure _ hplace
  | refusal place hinner hother hrefused hrefused' =>
    have hplace : RecordPath.below {} place = place := rfl
    rw [hplace] at hrefused hrefused'
    obtain ⟨cause, rfl⟩ := hrefused.eq_record
    obtain ⟨cause', rfl⟩ := hrefused'.eq_record
    exact .refusal place hinner hother hrefused hrefused'

/-- **The keywords of a record are a set.** Libraries that differ in the order of keywords only, in
any of their records, give the same outcome. A record passes the check of its keywords exactly when
its kind accepts all of them and none is repeated. Of the keywords that limit the use of a type,
those that are given reach the node, and there is at most one of them. -/
theorem lower_of_reordered (h : library.Reordered other) (surroundings : Surroundings) :
    SameOutcome library other (library.lower surroundings) (other.lower surroundings) ∧
    (∀ (record : Entry) acceptance modifiers path,
      record.keywords? = some (acceptance, modifiers) →
        (acceptance.check path modifiers = .ok () ↔
          modifiers.Nodup ∧ ∀ modifier ∈ modifiers, modifier ∈ acceptance.modifiers)) ∧
    (∀ path (record : ClassDecl) node,
      Lowering.classDecl surroundings.converters path record = .ok node →
        Lowering.limitsGiven record.modifiers = node.modifier.toList) ∧
    ∀ path (record : MixinDecl) node,
      Lowering.mixinDecl surroundings.converters path record = .ok node →
        Lowering.limitsGiven record.modifiers = node.modifier.toList := by
  refine ⟨sameOutcome_of_agree (agree_lower h surroundings), ?_, ?_, ?_⟩
  · intro record acceptance modifiers path _
    rw [Acceptance.check_eq_ok_iff]
    exact ⟨fun hadmits => ⟨hadmits.nodup, hadmits.accepted⟩, fun hboth => ⟨hboth.1, hboth.2⟩⟩
  · exact fun path record node => Lowering.limitsGiven_of_classDecl
  · exact fun path record node => Lowering.limitsGiven_of_mixinDecl

/-- A class with a setter, all of them legal, and a variable whose keywords are not: one is repeated
and one is that of a function. The keywords are listed in the given orders. -/
def ofKeywords (ofClass ofSetter ofParam ofVariable : List Modifier) : Library where
  declarations :=
    [.classDecl
      { name := "C", modifiers := ofClass,
        members := [.setter
          { name := "s", param := { name := "p", modifiers := ofParam }, modifiers := ofSetter }] },
     .variable { name := "v", modifiers := ofVariable }]

theorem lower_of_reordered_ofKeywords :
    let library := ofKeywords [.abstract, .base] [.static, .external] [] [.final, .final, .async]
    let other := ofKeywords [.base, .abstract] [.external, .static] [] [.async, .final, .final]
    let path : RecordPath := ⟨[.item "declarations" 1]⟩
    library.Reordered other ∧
      library.lower {} = .error (.record path (.repeated .final)) ∧
      other.lower {} = .error (.record path (.notAccepted .async "a variable")) ∧
      SameOutcome library other (library.lower {}) (other.lower {}) := by
  intro library other path
  have hreordered : library.Reordered other := by
    refine .intro library .nil (.cons ?_ (.cons ?_ .nil))
    · refine .classDecl _ (.cons ?_ .nil) (by decide)
      exact .setter _ (.intro _ .nil) (by decide)
    · exact .variable _ (by decide)
  exact ⟨hreordered, by decide +kernel, by decide +kernel,
    (lower_of_reordered hreordered {}).1⟩

end Record.Library

end DartSource
