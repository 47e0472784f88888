import Mathlib.Tactic.IntervalCases
import Mathlib.Tactic.Lemma
import Tabletop.Text.Blank
import Tabletop.Text.Decimal
import Tabletop.Text.Hexadecimal

/-!
# Numerals

A number that is written in decimal is a numeral, and its value is the number
(`numeralValue_digits`).  A numeral that is read into a machine word has its own value too, as long
as that fits into the word (`numeralWithin?_eq`).
-/

namespace Tabletop.Text

/-! ## Digits -/

lemma toNat_of_isDigit {c : Char} (h : c.isDigit = true) : 48 ≤ c.toNat ∧ c.toNat ≤ 57 := by
  simp only [Char.isDigit, Bool.and_eq_true, decide_eq_true_eq] at h
  exact ⟨UInt32.le_iff_toNat_le.1 h.1, UInt32.le_iff_toNat_le.1 h.2⟩

lemma isBlank_of_isDigit {c : Char} (h : c.isDigit = true) : isBlank c = false := by
  have hc := toNat_of_isDigit h
  simp only [isBlank, Bool.or_eq_false_iff, Bool.and_eq_false_iff, decide_eq_false_iff_not,
    beq_eq_false_iff_ne]
  omega

lemma isDigit_of_mem_digits {n : Nat} {c : Char} (h : c ∈ digits n) : c.isDigit = true :=
  Nat.isDigit_of_mem_toDigits (by decide) (by decide) h

/-- A written number is a numeral, -/
lemma isNumeral_digits (n : Nat) : isNumeral (digits n) = true := by
  have hne : digits n ≠ [] := Nat.toDigits_ne_nil
  have hall : (digits n).all Char.isDigit = true :=
    List.all_eq_true.2 fun c hc => isDigit_of_mem_digits hc
  simp [isNumeral, hne, hall]

/-- and its value is the number. -/
lemma numeralValue_digits (n : Nat) : numeralValue (digits n) = n :=
  Nat.ofDigitChars_ten_toDigits

/-- A written hexadecimal digit is read as its value. -/
lemma hexValue?_digitChar {n : Nat} (h : n < 16) : hexValue? (Nat.digitChar n) = some n := by
  interval_cases n <;> rfl

/-- No zero leads but that of zero itself. -/
lemma digits_ne_zero_cons {n : Nat} (hn : n ≠ 0) (rest : List Char) : digits n ≠ '0' :: rest := by
  induction n using Nat.strongRecOn generalizing rest with
  | _ n ih =>
      unfold digits at ih ⊢
      by_cases hlt : n < 10
      · rw [Nat.toDigits_of_lt_base hlt]
        intro h
        have hzero : Nat.digitChar n = '0' := (List.cons.inj h).1
        interval_cases n <;> simp_all
      · rw [Nat.toDigits_of_base_le (by decide) (Nat.not_lt.1 hlt)]
        intro h
        obtain ⟨c, cs, hdigits⟩ : ∃ c cs, Nat.toDigits 10 (n / 10) = c :: cs :=
          List.exists_cons_of_ne_nil Nat.toDigits_ne_nil
        rw [hdigits, List.cons_append] at h
        obtain rfl : c = '0' := (List.cons.inj h).1
        exact ih (n / 10) (by omega) (by omega) cs hdigits

/-! ## Numerals in words -/

lemma le_foldl_digits (cs : List Char) (n : Nat) :
    n ≤ cs.foldl (fun n c => 10 * n + (c.toNat - '0'.toNat)) n := by
  induction cs generalizing n with
  | nil => exact Nat.le_refl n
  | cons c cs ih =>
      have hstep : n ≤ 10 * n + (c.toNat - '0'.toNat) := by omega
      exact Nat.le_trans hstep (ih _)

lemma foldlM_appendDigit? {bound n : Nat} (hn : n ≤ bound) (cs : List Char) :
    cs.foldlM (appendDigit? bound) n =
      let value := cs.foldl (fun n c => 10 * n + (c.toNat - '0'.toNat)) n
      if value ≤ bound then some value else none := by
  induction cs generalizing n with
  | nil => exact (if_pos hn).symm
  | cons c cs ih =>
      rw [List.foldlM_cons, List.foldl_cons, appendDigit?]
      by_cases hnext : 10 * n + (c.toNat - '0'.toNat) ≤ bound
      · rw [if_pos hnext]
        exact ih hnext
      · have hle := le_foldl_digits cs (10 * n + (c.toNat - '0'.toNat))
        rw [if_neg hnext]
        exact (if_neg (by omega)).symm

/-- A word overflows on the way only if the value of the whole numeral is beyond its bound. -/
lemma numeralWithin?_eq (bound : Nat) (cs : List Char) :
    numeralWithin? bound cs = if numeralValue cs ≤ bound then some (numeralValue cs) else none :=
  foldlM_appendDigit? (Nat.zero_le bound) cs

/-- What refuses every number beyond the bound of a word can be given the value itself. -/
lemma bind_numeralWithin? {α : Type} {bound : Nat} {f : Nat → Option α}
    (hf : ∀ n, bound < n → f n = none) (cs : List Char) :
    (numeralWithin? bound cs).bind f = f (numeralValue cs) := by
  rw [numeralWithin?_eq]
  split
  · rfl
  · rename_i hbound
    exact (hf _ (by omega)).symm

/-! ## Signed numbers -/

lemma toList_ofInt (n : Int) : (ofInt n).toList = intChars n :=
  String.toList_ofList

lemma toList_withSign (n : Int) : (withSign n).toList = signedChars n :=
  String.toList_ofList

end Tabletop.Text
