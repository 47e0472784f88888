import Mathlib.Algebra.BigOperators.Group.List.Basic
import Mathlib.Algebra.Order.BigOperators.Group.List
import Mathlib.Algebra.Order.Ring.Nat
import Mathlib.Algebra.Ring.Int.Defs
import Mathlib.Data.List.Forall2
import Mathlib.Data.List.Infix
import Tabletop.Proofs.Grouping
import Tabletop.Saturation

/-!
# Sums of bounded numbers

Damage is added up in 32 bits and stops at the bounds, attack bonuses are added up in 32 bits and
wrap around.  Both are compared with sums of integers here.

* A sum that stops at the bounds is exact as long as no partial sum leaves the range: `Unsaturated`
  says so, and `toInt_satSum` is the exactness.  Enough for it is that the values are small and few
  (`unsaturated_of_natAbs_le`).
* Exact or not, a sum that stops at the bounds grows with its values (`satSum_mono`).
* A sum that wraps around is exact as soon as the whole sum is within the range, whatever its
  partial sums are (`toInt_wrapSum`).
* Grouping a list and adding up the groups gives the sum of the list (`groupSum_groupInOrder`).
-/

namespace Tabletop

/-- Whether an integer is a signed integer of 32 bits. -/
def FitsInt32 (n : Int) : Prop :=
  -2147483648 ≤ n ∧ n ≤ 2147483647

instance (n : Int) : Decidable (FitsInt32 n) :=
  inferInstanceAs (Decidable (_ ∧ _))

lemma fitsInt32_toInt (v : Int32) : FitsInt32 v.toInt := by
  have hge := v.le_toInt
  have hlt := v.toInt_lt
  unfold FitsInt32
  omega

lemma toInt_max (a b : Int32) : (max a b).toInt = max a.toInt b.toInt := by
  have hmax : max a b = if a ≤ b then b else a := rfl
  rw [hmax]
  split
  · rename_i hle
    rw [Int32.le_iff_toInt_le] at hle
    omega
  · rename_i hnot
    rw [Int32.le_iff_toInt_le] at hnot
    omega

lemma toInt_min (a b : Int32) : (min a b).toInt = min a.toInt b.toInt := by
  have hmin : min a b = if a ≤ b then a else b := rfl
  rw [hmin]
  split
  · rename_i hle
    rw [Int32.le_iff_toInt_le] at hle
    omega
  · rename_i hnot
    rw [Int32.le_iff_toInt_le] at hnot
    omega

lemma bmod_of_fits {n : Int} (h : FitsInt32 n) : n.bmod (2 ^ 32) = n := by
  obtain ⟨hge, hle⟩ := h
  apply Int.bmod_eq_of_le <;> omega

lemma toInt_add_of_fits {a b : Int32} (h : FitsInt32 (a.toInt + b.toInt)) :
    (a + b).toInt = a.toInt + b.toInt := by
  rw [Int32.toInt_add, bmod_of_fits h]

lemma toInt_sub_of_fits {a b : Int32} (h : FitsInt32 (a.toInt - b.toInt)) :
    (a - b).toInt = a.toInt - b.toInt := by
  rw [Int32.toInt_sub, bmod_of_fits h]

lemma toInt_toInt32 {n : UInt32} (h : n.toNat < 2 ^ 31) : n.toInt32.toInt = n.toNat := by
  refine BitVec.toInt_eq_toNat_of_lt ?_
  show 2 * n.toNat < 2 ^ 32
  omega

lemma toInt32_mono {n m : UInt32} (h : n ≤ m) (hm : m.toNat < 2 ^ 31) : n.toInt32 ≤ m.toInt32 := by
  rw [UInt32.le_iff_toNat_le] at h
  rw [Int32.le_iff_toInt_le, toInt_toInt32 (h.trans_lt hm), toInt_toInt32 hm]
  exact Int.ofNat_le.2 h

/-- The sum of 32-bit integers as an integer. -/
def exactSum (values : List Int32) : Int :=
  (values.map Int32.toInt).sum

lemma exactSum_cons (v : Int32) (values : List Int32) :
    exactSum (v :: values) = v.toInt + exactSum values := by
  rw [exactSum, List.map_cons, List.sum_cons]
  rfl

lemma exactSum_append (values values' : List Int32) :
    exactSum (values ++ values') = exactSum values + exactSum values' := by
  rw [exactSum, List.map_append, List.sum_append]
  rfl

lemma natAbs_exactSum_le (values : List Int32) :
    (exactSum values).natAbs ≤ (values.map fun v => v.toInt.natAbs).sum := by
  induction values with
  | nil => exact Nat.le_refl 0
  | cons v values ih =>
      rw [exactSum_cons, List.map_cons, List.sum_cons]
      omega

/-! ## Sums that stop at the bounds -/

/-- Whether a list can be added up from the left without leaving the range of 32 bits. -/
def Unsaturated (values : List Int32) : Prop :=
  ∀ front, front <+: values → FitsInt32 (exactSum front)

instance (values : List Int32) : Decidable (Unsaturated values) :=
  decidable_of_iff (∀ front ∈ values.inits, FitsInt32 (exactSum front)) <| by
    simp only [List.mem_inits, Unsaturated]

lemma toInt_satAdd_of_fits {a b : Int32} (h : FitsInt32 (a.toInt + b.toInt)) :
    (satAdd a b).toInt = a.toInt + b.toInt := by
  obtain ⟨hge, hle⟩ := h
  rw [toInt_satAdd]
  omega

/-- A count is added as a number as long as it is less than half of its range. -/
lemma satAdd_toInt32 (v : Int32) {n : UInt32} (h : n.toNat < 2 ^ 31) :
    satAdd v n.toInt32 = saturate (n.toNat + v.toInt) := by
  rw [satAdd, toInt_toInt32 h, Int.add_comm]

lemma zero_satAdd (v : Int32) : satAdd 0 v = v := by
  have hsum : (0 : Int32).toInt + v.toInt = v.toInt := Int.zero_add _
  have hfits : FitsInt32 ((0 : Int32).toInt + v.toInt) := hsum.symm ▸ fitsInt32_toInt v
  rw [← Int32.toInt_inj, toInt_satAdd_of_fits hfits, hsum]

/-- A sum whose partial sums are all within range is exact. -/
lemma toInt_satSum {values : List Int32} (h : Unsaturated values) :
    (satSum values).toInt = exactSum values := by
  -- Addition goes from the left, so the last value is the one that is added to a sum known exactly.
  induction values using List.reverseRecOn with
  | nil => rfl
  | append_singleton values v ih =>
      have hfront : (satSum values).toInt = exactSum values :=
        ih fun front hfront => h front (hfront.trans (List.prefix_append values [v]))
      have hwhole : exactSum (values ++ [v]) = (satSum values).toInt + v.toInt := by
        rw [exactSum_append, hfront]
        simp [exactSum]
      have hfits := h (values ++ [v]) (List.prefix_refl _)
      rw [hwhole] at hfits ⊢
      have hlast : satSum (values ++ [v]) = satAdd (satSum values) v := by
        rw [satSum, List.foldl_append]
        rfl
      rw [hlast, toInt_satAdd_of_fits hfits]

/-- Values that are small and few are added up without leaving the range. -/
lemma unsaturated_of_natAbs_le {values : List Int32} {bound : Nat}
    (h : ∀ v ∈ values, v.toInt.natAbs ≤ bound) (hfew : values.length * bound ≤ 2147483647) :
    Unsaturated values := by
  intro front hfront
  -- Every partial sum is at most as large as the number of its values times the bound.
  have hfits : ∀ {n : Int}, n.natAbs ≤ 2147483647 → FitsInt32 n := by
    intro n hn
    unfold FitsInt32
    omega
  have hsmall : ∀ n ∈ front.map fun v => v.toInt.natAbs, n ≤ bound := by
    intro n hn
    obtain ⟨v, hv, rfl⟩ := List.mem_map.1 hn
    exact h v (hfront.subset hv)
  refine hfits ?_
  calc
    (exactSum front).natAbs ≤ (front.map fun v => v.toInt.natAbs).sum := natAbs_exactSum_le front
    _ ≤ front.length * bound := by
        have hsum := List.sum_le_card_nsmul _ bound hsmall
        rwa [List.length_map, nsmul_eq_mul, Nat.cast_id] at hsum
    _ ≤ values.length * bound := Nat.mul_le_mul_right bound hfront.length_le
    _ ≤ 2147483647 := hfew

lemma satAdd_mono {a b v w : Int32} (h : a ≤ b) (h' : v ≤ w) : satAdd a v ≤ satAdd b w := by
  rw [Int32.le_iff_toInt_le] at h h' ⊢
  rw [toInt_satAdd, toInt_satAdd]
  omega

/-- Greater values have a greater sum, whether or not it stops at the bounds. -/
lemma satSum_mono {values values' : List Int32} (h : List.Forall₂ (· ≤ ·) values values') :
    satSum values ≤ satSum values' :=
  List.rel_foldl (P := (· ≤ ·)) (R := (· ≤ ·))
    (fun _ _ htotal _ _ hvalue => satAdd_mono htotal hvalue) (Int32.le_refl 0) h

lemma saturate_le {n : Int} {v : Int32} (h : n ≤ v.toInt) : saturate n ≤ v := by
  obtain ⟨hge, hle⟩ := fitsInt32_toInt v
  rw [Int32.le_iff_toInt_le, toInt_saturate]
  omega

lemma le_saturate {n : Int} {v : Int32} (h : v.toInt ≤ n) : v ≤ saturate n := by
  obtain ⟨hge, hle⟩ := fitsInt32_toInt v
  rw [Int32.le_iff_toInt_le, toInt_saturate]
  omega

/-! ## Sums that wrap around -/

/-- A sum that wraps around is the exact sum up to multiples of the range. -/
lemma toInt_wrapSum {α : Type} (value : α → Int32) (xs : List α) (start : Int32) :
    (xs.foldl (fun total x => total + value x) start).toInt =
      (start.toInt + exactSum (xs.map value)).bmod (2 ^ 32) := by
  induction xs generalizing start with
  | nil =>
      have hnone : start.toInt + exactSum ([].map value) = start.toInt := Int.add_zero _
      rw [List.foldl_nil, hnone, bmod_of_fits (fitsInt32_toInt start)]
  | cons x xs ih =>
      rw [List.foldl_cons, ih, Int32.toInt_add, Int.bmod_add_bmod, List.map_cons, exactSum_cons,
        Int.add_assoc]

/-! ## Groups -/

section Groups

variable {κ α : Type} [DecidableEq κ]

/-- A sum over all groups, of a value of each member. -/
def groupSum (value : α → Int) (groups : List (κ × List α)) : Int :=
  (groups.map fun group => (group.2.map value).sum).sum

/-- **Groups add up.**  Whatever the keys are, the groups of a list together have the sum of the
list. -/
lemma groupSum_groupInOrder (value : α → Int) (key : α → κ) (xs : List α) :
    groupSum value (groupInOrder key xs) = (xs.map value).sum := by
  have hperm := (inGroups_groupInOrder key xs).perm.map value
  rw [← hperm.sum_eq, List.map_flatMap, List.flatMap, List.sum_flatten, List.map_map]
  rfl

end Groups

end Tabletop
