import DartSource.Member.Rank

/-!
# Arranging by rank is a stable sort

`byRank` is settled by what it does within each rank: it keeps the items of a rank in their order
(`filter_byRank`), and two lists that agree rank by rank are arranged alike (`byRank_congr`). An
arranged list with more items behind it is therefore arranged as if nothing had been arranged
before (`byRank_byRank_append`). As long as the ranks stay below the count, nothing is lost or
repeated (`byRank_perm`).
-/

namespace DartSource

variable {α : Type} {rank : α → Nat}

theorem byRank_zero (items : List α) : byRank rank 0 items = [] := rfl

/-- One more rank puts its items behind those of the ranks before. -/
theorem byRank_succ (count : Nat) (items : List α) :
    byRank rank (count + 1) items =
      byRank rank count items ++ items.filter fun item => rank item == count := by
  unfold byRank
  rw [List.range_succ, List.flatMap_append, List.flatMap_singleton]

/-- Items that agree rank by rank are arranged alike. -/
theorem byRank_congr {items others : List α} (count : Nat)
    (h : ∀ r < count,
      items.filter (fun item => rank item == r) = others.filter fun item => rank item == r) :
    byRank rank count items = byRank rank count others := by
  induction count with
  | zero => rfl
  | succ count ih =>
    rw [byRank_succ, byRank_succ, ih fun r hr => h r (Nat.lt_succ_of_lt hr),
      h count (Nat.lt_succ_self count)]

/-- Of the items of a rank that is not arranged there are none. -/
theorem filter_byRank_of_le {count r : Nat} (hr : count ≤ r) (items : List α) :
    (byRank rank count items).filter (fun item => rank item == r) = [] := by
  induction count with
  | zero => rfl
  | succ count ih =>
    rw [byRank_succ, List.filter_append, ih (Nat.le_of_succ_le hr), List.nil_append,
      List.filter_filter, List.filter_eq_nil_iff]
    intro item _ h
    simp only [Bool.and_eq_true, beq_iff_eq] at h
    omega

/-- The items of a rank keep their order. -/
theorem filter_byRank {count r : Nat} (hr : r < count) (items : List α) :
    (byRank rank count items).filter (fun item => rank item == r) =
      items.filter fun item => rank item == r := by
  induction count with
  | zero => exact absurd hr (Nat.not_lt_zero r)
  | succ count ih =>
    rw [byRank_succ, List.filter_append]
    by_cases heq : r = count
    · -- the last rank: nothing of it was arranged before
      subst heq
      rw [filter_byRank_of_le (Nat.le_refl r), List.nil_append, List.filter_filter]
      simp only [Bool.and_self]
    · -- an earlier rank: the last one adds nothing to it
      rw [ih (by omega), List.filter_filter]
      have hnone : items.filter (fun item => rank item == r && rank item == count) = [] := by
        rw [List.filter_eq_nil_iff]
        intro item _ h
        simp only [Bool.and_eq_true, beq_iff_eq] at h
        omega
      rw [hnone, List.append_nil]

/-- **Arranging twice is arranging once**, also when more items come in between. -/
theorem byRank_byRank_append (count : Nat) (items more : List α) :
    byRank rank count (byRank rank count items ++ more) = byRank rank count (items ++ more) := by
  refine byRank_congr count fun r hr => ?_
  rw [List.filter_append, List.filter_append, filter_byRank hr]

/-- Arranging takes the items whose rank is below the count, each as often as it is there. -/
theorem byRank_perm_filter (count : Nat) (items : List α) :
    (byRank rank count items).Perm (items.filter fun item => decide (rank item < count)) := by
  induction count with
  | zero => simp [byRank_zero]
  | succ count ih =>
    rw [byRank_succ]
    refine (ih.append_right _).trans ?_
    -- the items below `count + 1` fall into those below `count` and those of rank `count`
    have hbelow : (items.filter fun item => decide (rank item < count + 1)).filter
        (fun item => decide (rank item < count)) =
        items.filter fun item => decide (rank item < count) := by
      rw [List.filter_filter]
      refine List.filter_congr fun item _ => ?_
      rw [Bool.eq_iff_iff]
      simp only [Bool.and_eq_true, decide_eq_true_eq]
      omega
    have hat : (items.filter fun item => decide (rank item < count + 1)).filter
        (fun item => !decide (rank item < count)) =
        items.filter fun item => rank item == count := by
      rw [List.filter_filter]
      refine List.filter_congr fun item _ => ?_
      rw [Bool.eq_iff_iff]
      simp only [Bool.and_eq_true, Bool.not_eq_true', decide_eq_true_eq, decide_eq_false_iff_not,
        beq_iff_eq]
      omega
    rw [← hbelow, ← hat]
    exact List.filter_append_perm _ _

/-- Arranging changes nothing but the order when all ranks are below the count. -/
theorem byRank_perm {count : Nat} {items : List α} (h : ∀ item ∈ items, rank item < count) :
    (byRank rank count items).Perm items := by
  have hall : (items.filter fun item => decide (rank item < count)) = items := by
    rw [List.filter_eq_self]
    exact fun item hitem => decide_eq_true (h item hitem)
  have hperm : (byRank rank count items).Perm
      (items.filter fun item => decide (rank item < count)) := byRank_perm_filter count items
  rwa [hall] at hperm

end DartSource
