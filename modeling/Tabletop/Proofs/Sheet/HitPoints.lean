import Mathlib.Tactic.Lemma
import Tabletop.Proofs.Sums
import Tabletop.Sheet.HitPoints

/-!
# Laws of hit points

Three 32-bit counters interact: damage goes to the temporary hit points first and then to the current
ones, which stop at zero, and healing stops at the maximum.  As long as hit points are in bounds, all
of it is arithmetic of integers cut off at both ends, and the first section says so, one lemma for each
counter and change.

The laws follow from these closed forms alone.  Damage is taken off the sum of current and temporary
hit points (`total_takeDamage`).  Damage in two parts is damage at once, wherever the two parts cross
from temporary to current hit points and from there to zero (`takeDamage_takeDamage`), and healing in
two parts is healing at once (`heal_heal`).

Nothing overflows but a healing that goes beyond 32 bits before it is cut off at the maximum.  `Fits`
excludes that.
-/

namespace Tabletop.Sheet.HitPoints

/-- Whether hit points are within their bounds. -/
structure InBounds (hp : HitPoints) : Prop where
  current_nonneg : 0 ≤ hp.current
  current_le : hp.current ≤ hp.maximum
  temporary_nonneg : 0 ≤ hp.temporary

/-- What can happen to hit points. -/
inductive Change
  | damage (amount : Int32)
  | heal (amount : Int32)
  | addTemporary (amount : Int32)
  | setCurrent (value : Int32)
  | restore
deriving DecidableEq, Repr

/-- The hit points after a change, if there are any. -/
def change? (hp : HitPoints) : Change → Option HitPoints
  | .damage amount => some (hp.takeDamage amount).1
  | .heal amount => some (hp.heal amount).1
  | .addTemporary amount => some (hp.addTemporary amount)
  | .setCurrent value => hp.setCurrent? value
  | .restore => some hp.restore

/-- The hit points after one change after the other. -/
def changes? (hp : HitPoints) (changes : List Change) : Option HitPoints :=
  changes.foldlM change? hp

/-- Whether the addition of a change stays within 32 bits. -/
def Fits (hp : HitPoints) : Change → Prop
  | .heal amount => FitsInt32 (hp.current.toInt + max amount.toInt 0)
  | _ => True

/-- Whether every addition of a sequence of changes stays within 32 bits. -/
def AllFit (hp : HitPoints) : List Change → Prop
  | [] => True
  | change :: changes => hp.Fits change ∧ ∀ hp' ∈ hp.change? change, hp'.AllFit changes

instance (hp : HitPoints) : Decidable hp.InBounds :=
  decidable_of_iff (0 ≤ hp.current ∧ hp.current ≤ hp.maximum ∧ 0 ≤ hp.temporary)
    ⟨fun h => ⟨h.1, h.2.1, h.2.2⟩, fun h => ⟨h.current_nonneg, h.current_le, h.temporary_nonneg⟩⟩

instance (hp : HitPoints) (change : Change) : Decidable (hp.Fits change) := by
  cases change <;> unfold Fits <;> infer_instance

instance decidableAllFit (hp : HitPoints) : ∀ changes, Decidable (hp.AllFit changes)
  | [] => isTrue trivial
  | change :: changes =>
    have := fun hp' => decidableAllFit hp' changes
    inferInstanceAs (Decidable (hp.Fits change ∧ ∀ hp' ∈ hp.change? change, hp'.AllFit changes))

variable {hp : HitPoints}

lemma inBounds_iff :
    hp.InBounds ↔ 0 ≤ hp.current.toInt ∧ hp.current.toInt ≤ hp.maximum.toInt ∧
      0 ≤ hp.temporary.toInt := by
  constructor
  · rintro ⟨hcurrent, hle, htemporary⟩
    rw [Int32.le_iff_toInt_le, Int32.toInt_zero] at hcurrent htemporary
    exact ⟨hcurrent, Int32.le_iff_toInt_le.1 hle, htemporary⟩
  · rintro ⟨hcurrent, hle, htemporary⟩
    refine ⟨?_, Int32.le_iff_toInt_le.2 hle, ?_⟩ <;> rwa [Int32.le_iff_toInt_le, Int32.toInt_zero]

/-- Hit points are known by their three numbers. -/
lemma eq_of_toInt {hp' : HitPoints} (hcurrent : hp.current.toInt = hp'.current.toInt)
    (hmaximum : hp.maximum = hp'.maximum) (htemporary : hp.temporary.toInt = hp'.temporary.toInt) :
    hp = hp' := by
  obtain ⟨current, maximum, temporary⟩ := hp
  obtain ⟨current', maximum', temporary'⟩ := hp'
  obtain rfl : current = current' := Int32.toInt_inj.1 hcurrent
  obtain rfl : maximum = maximum' := hmaximum
  obtain rfl : temporary = temporary' := Int32.toInt_inj.1 htemporary
  rfl

/-! ## What a change does to each number -/

lemma toInt_dealt (amount : Int32) : (max amount 0).toInt = max amount.toInt 0 :=
  toInt_max amount 0

section Damage

variable (h : hp.InBounds) (amount : Int32)
include h

/-- Temporary hit points absorb damage as far as they go. -/
lemma toInt_absorbed :
    (if 0 < hp.temporary then min (max amount 0) hp.temporary else 0).toInt =
      min (max amount.toInt 0) hp.temporary.toInt := by
  obtain ⟨-, -, htemporary⟩ := inBounds_iff.1 h
  split
  · rw [toInt_min, toInt_dealt]
  · rename_i hnone
    rw [Int32.lt_iff_toInt_lt, Int32.toInt_zero] at hnone
    rw [Int32.toInt_zero]
    omega

lemma toInt_temporary_takeDamage :
    (hp.takeDamage amount).1.temporary.toInt =
      max (hp.temporary.toInt - max amount.toInt 0) 0 := by
  obtain ⟨-, -, htemporary⟩ := inBounds_iff.1 h
  have habsorbed := toInt_absorbed h amount
  have hle := (fitsInt32_toInt hp.temporary).2
  unfold takeDamage
  dsimp only
  rw [toInt_sub_of_fits, habsorbed]
  · omega
  · rw [habsorbed]
    unfold FitsInt32
    omega

lemma toInt_current_takeDamage :
    (hp.takeDamage amount).1.current.toInt =
      max (hp.current.toInt - max (max amount.toInt 0 - hp.temporary.toInt) 0) 0 := by
  obtain ⟨hcurrent, -, htemporary⟩ := inBounds_iff.1 h
  have habsorbed := toInt_absorbed h amount
  have hamount := (fitsInt32_toInt amount).2
  have hle := (fitsInt32_toInt hp.current).2
  -- What is not absorbed is not negative, so neither subtraction leaves the range.
  have hremaining : (max amount 0 -
      (if 0 < hp.temporary then min (max amount 0) hp.temporary else 0)).toInt =
        max amount.toInt 0 - min (max amount.toInt 0) hp.temporary.toInt := by
    rw [toInt_sub_of_fits, toInt_dealt, habsorbed]
    rw [toInt_dealt, habsorbed]
    unfold FitsInt32
    omega
  unfold takeDamage
  dsimp only
  rw [toInt_max, toInt_sub_of_fits, hremaining, Int32.toInt_zero]
  · omega
  · rw [hremaining]
    unfold FitsInt32
    omega

end Damage

lemma maximum_takeDamage (hp : HitPoints) (amount : Int32) :
    (hp.takeDamage amount).1.maximum = hp.maximum := rfl

/-- Healing fits as soon as it does not go beyond the greatest number of 32 bits. -/
lemma InBounds.fits_heal (h : hp.InBounds) {amount : Int32}
    (hle : hp.current.toInt + max amount.toInt 0 ≤ 2147483647) : hp.Fits (.heal amount) := by
  obtain ⟨hcurrent, -, -⟩ := inBounds_iff.1 h
  unfold Fits FitsInt32
  omega

lemma maximum_heal (hp : HitPoints) (amount : Int32) :
    (hp.heal amount).1.maximum = hp.maximum := rfl

lemma temporary_heal (hp : HitPoints) (amount : Int32) :
    (hp.heal amount).1.temporary = hp.temporary := rfl

section Healing

variable {amount : Int32} (hfits : hp.Fits (.heal amount))
include hfits

lemma toInt_current_heal :
    (hp.heal amount).1.current.toInt =
      min (hp.current.toInt + max amount.toInt 0) hp.maximum.toInt := by
  have hsum : (hp.current + max amount 0).toInt = hp.current.toInt + max amount.toInt 0 := by
    rw [toInt_add_of_fits, toInt_dealt]
    rwa [toInt_dealt]
  unfold heal
  dsimp only
  rw [toInt_min, hsum]

/-- Healing answers with the rise in hit points. -/
lemma toInt_healed (h : hp.InBounds) :
    (hp.heal amount).2.toInt = (hp.heal amount).1.current.toInt - hp.current.toInt := by
  obtain ⟨hcurrent, hle, -⟩ := inBounds_iff.1 h
  have hafter := toInt_current_heal hfits
  have hmaximum := (fitsInt32_toInt hp.maximum).2
  refine toInt_sub_of_fits ?_
  show FitsInt32 ((hp.heal amount).1.current.toInt - hp.current.toInt)
  unfold FitsInt32
  omega

lemma healed_nonneg (h : hp.InBounds) : 0 ≤ (hp.heal amount).2 := by
  obtain ⟨-, hle, -⟩ := inBounds_iff.1 h
  rw [Int32.le_iff_toInt_le, Int32.toInt_zero, toInt_healed hfits h, toInt_current_heal hfits]
  omega

end Healing

/-! ## Hit points stay in bounds -/

lemma InBounds.takeDamage (h : hp.InBounds) (amount : Int32) :
    (hp.takeDamage amount).1.InBounds := by
  obtain ⟨hcurrent, hle, htemporary⟩ := inBounds_iff.1 h
  rw [inBounds_iff, toInt_current_takeDamage h, toInt_temporary_takeDamage h, maximum_takeDamage]
  omega

lemma InBounds.heal (h : hp.InBounds) {amount : Int32} (hfits : hp.Fits (.heal amount)) :
    (hp.heal amount).1.InBounds := by
  obtain ⟨hcurrent, hle, htemporary⟩ := inBounds_iff.1 h
  rw [inBounds_iff, toInt_current_heal hfits, maximum_heal, temporary_heal]
  omega

/-- **One change** leaves hit points in bounds and the maximum as it was. -/
lemma inBounds_change (h : hp.InBounds) {change : Change} (hfits : hp.Fits change) :
    ∃ hp', hp.change? change = some hp' ∧ hp'.InBounds ∧ hp'.maximum = hp.maximum := by
  obtain ⟨hcurrent, hle, htemporary⟩ := inBounds_iff.1 h
  cases change with
  | damage amount => exact ⟨_, rfl, h.takeDamage amount, rfl⟩
  | heal amount => exact ⟨_, rfl, h.heal hfits, rfl⟩
  | addTemporary amount =>
      refine ⟨_, rfl, inBounds_iff.2 ⟨hcurrent, hle, ?_⟩, rfl⟩
      show 0 ≤ (max hp.temporary amount).toInt
      rw [toInt_max]
      omega
  | setCurrent value =>
      -- Within bounds the maximum is not negative, so setting the hit points does not fail.
      have hmaximum : ¬hp.maximum < 0 := by
        rw [Int32.lt_iff_toInt_lt, Int32.toInt_zero]
        omega
      refine ⟨_, if_neg hmaximum, inBounds_iff.2 ?_, rfl⟩
      dsimp only
      rw [toInt_max, toInt_min, Int32.toInt_zero]
      omega
  | restore =>
      refine ⟨_, rfl, inBounds_iff.2 ⟨hcurrent.trans hle, le_rfl, ?_⟩, rfl⟩
      exact Int32.toInt_zero.ge

/-- So does any number of changes. -/
lemma inBounds_changes (h : hp.InBounds) {changes : List Change} (hfits : hp.AllFit changes) :
    ∃ hp', hp.changes? changes = some hp' ∧ hp'.InBounds ∧ hp'.maximum = hp.maximum := by
  induction changes generalizing hp with
  | nil => exact ⟨hp, rfl, h, rfl⟩
  | cons change changes ih =>
      obtain ⟨hfirst, hrest⟩ := hfits
      obtain ⟨next, hnext, hbounds, hmaximum⟩ := inBounds_change h hfirst
      obtain ⟨last, hlast, hlastBounds, hlastMaximum⟩ := ih hbounds (hrest next hnext)
      refine ⟨last, ?_, hlastBounds, hlastMaximum.trans hmaximum⟩
      rw [changes?, List.foldlM_cons, hnext]
      exact hlast

/-! ## Damage and healing in parts -/

section Parts

variable {a b : Int32} (h : hp.InBounds)
include h

/-- Damage is taken off the sum of current and temporary hit points, as far as that goes. -/
lemma total_takeDamage (ha : 0 ≤ a.toInt) :
    (hp.takeDamage a).1.current.toInt + (hp.takeDamage a).1.temporary.toInt =
      hp.current.toInt + hp.temporary.toInt -
        min a.toInt (hp.current.toInt + hp.temporary.toInt) := by
  obtain ⟨hcurrent, -, htemporary⟩ := inBounds_iff.1 h
  rw [toInt_current_takeDamage h, toInt_temporary_takeDamage h]
  omega

/-- Current hit points are lost only when the temporary ones are used up. -/
lemma temporary_takeDamage_of_ne (hne : (hp.takeDamage a).1.current ≠ hp.current) :
    (hp.takeDamage a).1.temporary = 0 := by
  obtain ⟨hcurrent, -, htemporary⟩ := inBounds_iff.1 h
  rw [ne_eq, ← Int32.toInt_inj, toInt_current_takeDamage h] at hne
  rw [← Int32.toInt_inj, toInt_temporary_takeDamage h, Int32.toInt_zero]
  omega

/-- Damage in two parts is damage at once. -/
lemma takeDamage_takeDamage (ha : 0 ≤ a.toInt) (hb : 0 ≤ b.toInt)
    (hsum : FitsInt32 (a.toInt + b.toInt)) :
    ((hp.takeDamage a).1.takeDamage b).1 = (hp.takeDamage (a + b)).1 := by
  obtain ⟨hcurrent, -, htemporary⟩ := inBounds_iff.1 h
  have hfirst := h.takeDamage a
  have hab := toInt_add_of_fits hsum
  refine eq_of_toInt ?_ (by simp only [maximum_takeDamage]) ?_
  · rw [toInt_current_takeDamage hfirst, toInt_current_takeDamage h, toInt_current_takeDamage h,
      toInt_temporary_takeDamage h, hab]
    omega
  · rw [toInt_temporary_takeDamage hfirst, toInt_temporary_takeDamage h,
      toInt_temporary_takeDamage h, hab]
    omega

/-- Healing in two parts is healing at once, and gives the same amount in all. -/
lemma heal_heal (ha : 0 ≤ a.toInt) (hb : 0 ≤ b.toInt)
    (hsum : FitsInt32 (hp.current.toInt + a.toInt + b.toInt)) :
    ((hp.heal a).1.heal b).1 = (hp.heal (a + b)).1 ∧
      (hp.heal a).2.toInt + ((hp.heal a).1.heal b).2.toInt = (hp.heal (a + b)).2.toInt := by
  obtain ⟨hcurrent, hle, htemporary⟩ := inBounds_iff.1 h
  have hupper := hsum.2
  have hab : (a + b).toInt = a.toInt + b.toInt := by
    refine toInt_add_of_fits ?_
    unfold FitsInt32
    omega
  -- The sum of both parts fits, and so does each of them.
  have hfitsA : hp.Fits (.heal a) := h.fits_heal (by omega)
  have hfitsAB : hp.Fits (.heal (a + b)) := h.fits_heal (by omega)
  have hafterA := toInt_current_heal hfitsA
  have hboundsA : (hp.heal a).1.InBounds := h.heal hfitsA
  have hfitsB : (hp.heal a).1.Fits (.heal b) := hboundsA.fits_heal (by omega)
  have hcurrents : ((hp.heal a).1.heal b).1.current.toInt = (hp.heal (a + b)).1.current.toInt := by
    rw [toInt_current_heal hfitsB, toInt_current_heal hfitsAB, hafterA, maximum_heal, hab]
    omega
  refine ⟨eq_of_toInt hcurrents (by simp only [maximum_heal]) (by simp only [temporary_heal]), ?_⟩
  rw [toInt_healed hfitsA h, toInt_healed hfitsB hboundsA, toInt_healed hfitsAB h, hcurrents]
  omega

/-- Negative amounts change nothing. -/
lemma change_of_neg (ha : a.toInt < 0) :
    (hp.takeDamage a).1 = hp ∧ hp.heal a = (hp, 0) ∧ hp.addTemporary a = hp := by
  obtain ⟨hcurrent, hle, htemporary⟩ := inBounds_iff.1 h
  have hmaximum := (fitsInt32_toInt hp.maximum).2
  -- A negative amount heals by nothing, so the sum stays where it is.
  have hfits : hp.Fits (.heal a) := h.fits_heal (by omega)
  have hcurrents : (hp.heal a).1.current.toInt = hp.current.toInt := by
    rw [toInt_current_heal hfits]
    omega
  refine ⟨eq_of_toInt ?_ rfl ?_, Prod.ext (eq_of_toInt hcurrents rfl rfl) ?_,
    eq_of_toInt rfl rfl ?_⟩
  · rw [toInt_current_takeDamage h]
    omega
  · rw [toInt_temporary_takeDamage h]
    omega
  · rw [← Int32.toInt_inj, toInt_healed hfits h, hcurrents, Int32.toInt_zero]
    omega
  · show (max hp.temporary a).toInt = hp.temporary.toInt
    rw [toInt_max]
    omega

end Parts

/-- Damage says that no hit points are left exactly when that is so. -/
lemma droppedToZero_takeDamage (hp : HitPoints) (amount : Int32) :
    (hp.takeDamage amount).2.droppedToZero = (hp.takeDamage amount).1.isDown := by
  rw [Bool.eq_iff_iff]
  unfold HitPoints.takeDamage isDown
  dsimp only
  rw [beq_iff_eq, decide_eq_true_iff, Int32.le_iff_toInt_le, ← Int32.toInt_inj, toInt_max,
    Int32.toInt_zero]
  omega

end Tabletop.Sheet.HitPoints
