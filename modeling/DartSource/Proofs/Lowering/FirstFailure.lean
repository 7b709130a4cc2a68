import DartSource.Proofs.Lowering.Description
import DartSource.Proofs.Lowering.Relocation

/-!
# The first failure in a list of records

The records of a list are lowered from the front, each at its own index, up to the first failure. So
a list fails as its first failing record does (`Lowering.each_eq_error_iff`), and what stands behind
that record makes no difference (`Lowering.exists_eachFrom_eq_error`).

The same is then said without paths and indices. Let each record of the list be lowered **alone**,
as the only one of its list, with its node put in its place in a file. The list gives the nodes that
its records give alone (`Lowering.LowersAlone.each_eq_ok_iff`); otherwise its failure is that of the
first record that fails alone, with the index of that record in place of the index zero
(`Lowering.LowersAlone.each_eq_error_iff`).
-/

namespace DartSource

namespace Lowering

variable {α β : Type}

/-! ### Lists of records -/

/-- **A list fails as its first failing record does.** The records in front of it give nodes, and
those behind it are not looked at. -/
theorem eachFrom_eq_error_iff {lower : RecordPath → α → Except Failure β}
    (h : ∀ record, Movable fun path => lower path record) (path : RecordPath) (name : String)
    (index : Nat) (records : List α) (failure : Failure) :
    eachFrom path name lower index records = .error failure ↔
      ∃ front record rest, records = front ++ record :: rest ∧
        (∀ earlier ∈ front, ∃ node, lower {} earlier = .ok node) ∧
        lower (path.item name (index + front.length)) record = .error failure := by
  induction records generalizing index with
  | nil =>
    refine ⟨fun hfails => absurd hfails (by simp [eachFrom]), ?_⟩
    rintro ⟨front, record, rest, hsplit, -⟩
    exact absurd hsplit (by simp)
  | cons first more ih =>
    rw [eachFrom, bind_eq_error_iff]
    constructor
    · rintro (hfirst | ⟨node, hnode, hrest⟩)
      · exact ⟨[], first, more, rfl, fun _ hmem => absurd hmem List.not_mem_nil, hfirst⟩
      · -- the first record gives a node, so one of the others fails
        rcases bind_eq_error_iff.mp hrest with hmore | ⟨nodes, -, hnodes⟩
        · obtain ⟨front, record, rest, rfl, hfront, hrecord⟩ := (ih (index + 1)).mp hmore
          have hfirst : ∃ node, lower {} first = .ok node :=
            ⟨node, ((h first).eq_ok_iff _).mp hnode⟩
          refine ⟨first :: front, record, rest, rfl, ?_, ?_⟩
          · exact List.forall_mem_cons.mpr ⟨hfirst, hfront⟩
          · rw [List.length_cons, Nat.add_comm front.length 1, ← Nat.add_assoc]
            exact hrecord
        · exact absurd hnodes (by rintro ⟨⟩)
    · rintro ⟨front, record, rest, hsplit, hfront, hrecord⟩
      cases front with
      | nil =>
        obtain ⟨rfl, rfl⟩ := List.cons.inj hsplit
        exact .inl hrecord
      | cons earlier front =>
        obtain ⟨rfl, rfl⟩ := List.cons.inj hsplit
        obtain ⟨⟨node, hnode⟩, hfront⟩ := List.forall_mem_cons.mp hfront
        rw [List.length_cons, Nat.add_comm front.length 1, ← Nat.add_assoc] at hrecord
        have hmore := (ih (index + 1)).mpr ⟨front, record, rest, rfl, hfront, hrecord⟩
        refine .inr ⟨node, ((h first).eq_ok_iff _).mpr hnode, ?_⟩
        exact bind_eq_error_iff.mpr (.inl hmore)

theorem each_eq_error_iff {lower : RecordPath → α → Except Failure β}
    (h : ∀ record, Movable fun path => lower path record) {path : RecordPath} {name : String}
    {records : List α} {failure : Failure} :
    each path name lower records = .error failure ↔
      ∃ front record rest, records = front ++ record :: rest ∧
        (∀ earlier ∈ front, ∃ node, lower {} earlier = .ok node) ∧
        lower (path.item name front.length) record = .error failure := by
  have hfrom := eachFrom_eq_error_iff h path name 0 records failure
  simp only [Nat.zero_add] at hfrom
  exact hfrom

theorem each_singleton (path : RecordPath) (name : String)
    (lower : RecordPath → α → Except Failure β) (record : α) :
    each path name lower [record] = (lower (path.item name 0) record).map fun node => [node] := by
  rw [each, eachFrom]
  cases lower (path.item name 0) record <;> rfl

/-- Behind a record that always fails nothing is looked at. -/
theorem exists_eachFrom_eq_error {lower : RecordPath → α → Except Failure β} {record : α}
    (h : ∀ path, ∃ failure, lower path record = .error failure) (path : RecordPath)
    (name : String) (index : Nat) (front : List α) :
    ∃ failure, ∀ rest,
      eachFrom path name lower index (front ++ record :: rest) = .error failure := by
  induction front generalizing index with
  | nil =>
    obtain ⟨failure, hfails⟩ := h (path.item name index)
    refine ⟨failure, fun rest => ?_⟩
    rw [List.nil_append, eachFrom, hfails]
    rfl
  | cons first more ih =>
    cases hfirst : lower (path.item name index) first with
    | error failure =>
      refine ⟨failure, fun rest => ?_⟩
      rw [List.cons_append, eachFrom, hfirst]
      rfl
    | ok node =>
      obtain ⟨failure, hfails⟩ := ih (index + 1)
      refine ⟨failure, fun rest => ?_⟩
      rw [List.cons_append, eachFrom, hfirst]
      change (eachFrom path name lower (index + 1) (more ++ record :: rest) >>= _) = _
      rw [hfails]
      rfl

/-! ### Records alone

The records of a list are compared with what each of them gives **alone**: with the same lowering at
index zero, whose node is then put in its place in a file. -/

/-- The record gives a file when it is lowered alone. -/
def Passes (alone : α → Except Failure SourceFile) (record : α) : Prop :=
  ∃ file, alone record = .ok file

/-- The failure is that of the first record that fails alone, with the index of that record. -/
def FirstFailure (alone : α → Except Failure SourceFile) (records : List α) (failure : Failure) :
    Prop :=
  ∃ front record rest cause, records = front ++ record :: rest ∧
    (∀ earlier ∈ front, Passes alone earlier) ∧
    alone record = .error cause ∧ failure = cause.renumber front.length

section Alone

variable {lower : RecordPath → α → Except Failure β} {name : String} {place : β → SourceFile}
  {alone : α → Except Failure SourceFile}

/-- Lowering alone: at index zero, with the node put in its place. -/
structure LowersAlone (lower : RecordPath → α → Except Failure β) (name : String)
    (place : β → SourceFile) (alone : α → Except Failure SourceFile) : Prop where
  movable : ∀ record, Movable fun path => lower path record
  injective : Function.Injective place
  alone_eq : ∀ record, alone record = (lower (RecordPath.item {} name 0) record).map place

namespace LowersAlone

variable (h : LowersAlone lower name place alone)

include h

theorem eq_ok_iff (path : RecordPath) (record : α) (node : β) :
    lower path record = .ok node ↔ alone record = .ok (place node) := by
  rw [(h.movable record).eq_ok_iff path, ← (h.movable record).eq_ok_iff (RecordPath.item {} name 0),
    h.alone_eq]
  cases lower (RecordPath.item {} name 0) record with
  | error failure => simp [Except.map]
  | ok other =>
    refine ⟨fun heq => congrArg (Except.map place) heq, fun heq => ?_⟩
    rw [h.injective (Except.ok.inj heq)]

theorem passes_iff (record : α) : Passes alone record ↔ ∃ node, lower {} record = .ok node := by
  constructor
  · rintro ⟨file, hfile⟩
    rw [h.alone_eq] at hfile
    cases hlower : lower (RecordPath.item {} name 0) record with
    | error failure =>
      rw [hlower] at hfile
      exact absurd hfile (by simp [Except.map])
    | ok node => exact ⟨node, ((h.movable record).eq_ok_iff _).mp hlower⟩
  · rintro ⟨node, hnode⟩
    exact ⟨place node, (h.eq_ok_iff {} record node).mp hnode⟩

theorem eq_error_iff (record : α) (failure : Failure) :
    lower (RecordPath.item {} name 0) record = .error failure ↔ alone record = .error failure := by
  rw [h.alone_eq]
  cases lower (RecordPath.item {} name 0) record <;> simp [Except.map]

/-- A list of records gives the nodes that they give alone. -/
theorem each_eq_ok_iff {records : List α} {nodes : List β} :
    each {} name lower records = .ok nodes ↔
      List.Forall₂ (fun record node => alone record = .ok (place node)) records nodes :=
  Lowering.each_eq_ok_iff h.eq_ok_iff

/-- A list of records fails as the first of them that fails alone. -/
theorem each_eq_error_iff {records : List α} {failure : Failure} :
    each {} name lower records = .error failure ↔ FirstFailure alone records failure := by
  rw [Lowering.each_eq_error_iff h.movable]
  constructor
  · rintro ⟨front, record, rest, hsplit, hfront, hfails⟩
    have hindex := (h.movable record).at_index name front.length
    rw [hfails] at hindex
    cases hzero : lower (RecordPath.item {} name 0) record with
    | ok node =>
      rw [hzero] at hindex
      exact absurd hindex (by rintro ⟨⟩)
    | error cause =>
      rw [hzero] at hindex
      refine ⟨front, record, rest, cause, hsplit, ?_, ?_, Except.error.inj hindex⟩
      · exact fun earlier hmem => (h.passes_iff earlier).mpr (hfront earlier hmem)
      · exact (h.eq_error_iff record cause).mp hzero
  · rintro ⟨front, record, rest, cause, hsplit, hfront, hfails, rfl⟩
    refine ⟨front, record, rest, hsplit, ?_, ?_⟩
    · exact fun earlier hmem => (h.passes_iff earlier).mp (hfront earlier hmem)
    · rw [(h.movable record).at_index, (h.eq_error_iff record cause).mpr hfails]
      rfl

/-- A list of records gives nodes exactly when each of them passes alone. -/
theorem exists_each_eq_ok_iff {records : List α} :
    (∃ nodes, each {} name lower records = .ok nodes) ↔
      ∀ record ∈ records, Passes alone record := by
  constructor
  · rintro ⟨nodes, hnodes⟩
    rw [h.each_eq_ok_iff] at hnodes
    induction hnodes with
    | nil => exact fun _ hmem => absurd hmem List.not_mem_nil
    | cons hfirst _ ih => exact List.forall_mem_cons.mpr ⟨⟨_, hfirst⟩, ih⟩
  · intro hpass
    cases hresult : each {} name lower records with
    | ok nodes => exact ⟨nodes, rfl⟩
    | error failure =>
      -- there would be a first record that fails, but none does
      obtain ⟨front, record, rest, cause, rfl, -, hfails, -⟩ := h.each_eq_error_iff.mp hresult
      obtain ⟨file, hfile⟩ := hpass record (by simp)
      rw [hfails] at hfile
      exact absurd hfile (by simp)

/-- Behind a record that fails alone nothing is looked at. -/
theorem exists_each_eq_error {record : α} (hfails : ¬Passes alone record) (front : List α) :
    ∃ failure, ∀ rest, each {} name lower (front ++ record :: rest) = .error failure := by
  refine exists_eachFrom_eq_error (fun path => ?_) {} name 0 front
  cases hlower : lower path record with
  | error failure => exact ⟨failure, rfl⟩
  | ok node => exact absurd ⟨_, (h.eq_ok_iff path record node).mp hlower⟩ hfails

end LowersAlone

end Alone

end Lowering

end DartSource
