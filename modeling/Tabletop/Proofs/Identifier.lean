import Mathlib.Algebra.Order.Ring.Nat
import Tabletop.Identifier
import Tabletop.Proofs.Text.Numerals

/-!
# Identifiers read back

The written form of an identifier is read as that identifier (`Uuid.parse?_text`).  Both directions
go through the thirty-two digits: `ungroup?_hyphenate` takes the hyphens out again, and
`foldl_hexDigits` puts the number together.
-/

namespace Tabletop.Uuid

open Tabletop.Text

/-! ## Groups -/

lemma length_hyphenate {n : Nat} {ns : List Nat} {cs : List Char}
    (h : cs.length = (n :: ns).sum) :
    (hyphenate (n :: ns) cs).length = cs.length + ns.length := by
  induction ns generalizing n cs with
  | nil =>
      rw [hyphenate, List.length_take, h]
      simp
  | cons m ns ih =>
      rw [List.sum_cons] at h
      have hdrop : (cs.drop n).length = (m :: ns).sum := by
        rw [List.length_drop]
        omega
      have hrest := ih hdrop
      rw [hyphenate, List.length_append, List.length_cons, hrest, List.length_take,
        List.length_drop, List.length_cons]
      omega

/-- Taking the hyphens out gives the digits back. -/
lemma ungroup?_hyphenate {n : Nat} {ns : List Nat} {cs : List Char}
    (h : cs.length = (n :: ns).sum) : ungroup? (n :: ns) (hyphenate (n :: ns) cs) = some cs := by
  -- By induction on the lengths of the groups: one group and its hyphen come off the front, and the
  -- characters left over are as many as the other groups need.
  induction ns generalizing n cs with
  | nil =>
      have hall : cs.take n = cs := List.take_of_length_le (by simp_all)
      have hlength : cs.length = n := by simpa using h
      rw [hyphenate, hall, ungroup?, if_pos hlength]
  | cons m ns ih =>
      rw [List.sum_cons] at h
      have hfront : (cs.take n).length = n := by
        rw [List.length_take]
        omega
      have hdrop : (cs.drop n).length = (m :: ns).sum := by
        rw [List.length_drop]
        omega
      have hrest := ih hdrop
      rw [hyphenate, ungroup?, List.drop_left' hfront, List.take_left' hfront]
      show (ungroup? (m :: ns) (hyphenate (m :: ns) (cs.drop n))).map (cs.take n ++ ·) = some cs
      rw [hrest, Option.map_some, List.take_append_drop]

/-! ## Digits -/

/-- The lowest `k` hexadecimal digits of a number, from the highest of them on. -/
def lowDigits (k n : Nat) : List Nat :=
  (List.range k).map fun i => (n >>> (4 * (k - 1 - i))) % 16

lemma lowDigits_succ (k n : Nat) : lowDigits (k + 1) n = lowDigits k (n / 16) ++ [n % 16] := by
  unfold lowDigits
  rw [List.range_succ, List.map_append]
  congr 1
  · refine List.map_congr_left fun i hi => ?_
    have hlt : i < k := List.mem_range.1 hi
    have hshift : 4 * (k + 1 - 1 - i) = 4 + 4 * (k - 1 - i) := by omega
    rw [hshift, Nat.shiftRight_add, Nat.shiftRight_eq_div_pow n 4]
  · simp

lemma foldl_lowDigits (k n : Nat) :
    (lowDigits k n).foldl (fun n d => 16 * n + d) 0 = n % 16 ^ k := by
  induction k generalizing n with
  | zero => simp [lowDigits, Nat.mod_one]
  | succ k ih =>
      rw [lowDigits_succ, List.foldl_append, ih, Nat.pow_succ, Nat.mul_comm (16 ^ k), Nat.mod_mul]
      simp only [List.foldl_cons, List.foldl_nil]
      omega

variable (u : Uuid)

lemma hexDigits_eq : u.hexDigits = (lowDigits 32 u.bits.toNat).map Nat.digitChar := by
  rw [lowDigits, List.map_map]
  rfl

lemma length_hexDigits : u.hexDigits.length = 32 := by
  rw [hexDigits, List.length_map, List.length_range]

lemma mapM_hexValue? {ds : List Nat} (h : ∀ d ∈ ds, d < 16) :
    (ds.map Nat.digitChar).mapM hexValue? = some ds := by
  induction ds with
  | nil => rfl
  | cons d ds ih =>
      obtain ⟨hd, hds⟩ := List.forall_mem_cons.1 h
      simp [hexValue?_digitChar hd, ih hds]

lemma ofHexDigits?_hexDigits : ofHexDigits? u.hexDigits = some u := by
  have hdigits : ∀ d ∈ lowDigits 32 u.bits.toNat, d < 16 := by
    intro d hd
    obtain ⟨i, -, rfl⟩ := List.mem_map.1 hd
    exact Nat.mod_lt _ (by decide)
  have hbits : BitVec.ofNat 128 (u.bits.toNat % 16 ^ 32) = u.bits := by
    rw [Nat.mod_eq_of_lt (show u.bits.toNat < 16 ^ 32 from u.bits.isLt)]
    simp
  rw [ofHexDigits?, if_pos u.length_hexDigits, hexDigits_eq, mapM_hexValue? hdigits,
    Option.map_some, foldl_lowDigits, hbits]

/-- **Identifiers are read back.** -/
lemma parse?_text : parse? u.text = some u := by
  have hsum : u.hexDigits.length = groups.sum := u.length_hexDigits
  have hlength : (hyphenate groups u.hexDigits).length = 36 := by
    rw [groups, length_hyphenate hsum, u.length_hexDigits]
    rfl
  have hungrouped : ungroup? groups (hyphenate groups u.hexDigits) = some u.hexDigits :=
    ungroup?_hyphenate hsum
  unfold parse?
  rw [text, String.toList_ofList]
  simp only [hlength, Nat.reduceEqDiff, if_false, if_true]
  rw [ofHyphenated?, hungrouped, Option.bind_some, ofHexDigits?_hexDigits]

end Tabletop.Uuid
