import Mathlib.Data.List.TakeWhile
import Tabletop.Proofs.Text.Numerals
import Tabletop.Rules.Placeholder

/-!
# Placeholders in a text

A text is substituted in one pass that writes to the end of what it has written, and at a placeholder
takes a sign back that stands there.  This module says where the placeholders of a text are, without
the pass, and what the pass does between them.

* `PlaceholderIn` is a placeholder with all that stands in front of it and behind it.  What follows it
  must not go on with a capital, or the run of capitals would be longer.
* Text without placeholders is written as it is (`substituteFrom_plain`), and a placeholder puts the
  modifier at the end of what is written (`substituteFrom_placeholder`).
* Taking a sign back reaches over blanks and no farther.  So what stands in front of the last
  character that is not blank is never looked at again (`substituteFrom_append`).
-/

namespace Tabletop.Rules

open Tabletop.Sheet Tabletop.Text

/-! ## Where placeholders are -/

/-- A placeholder of an attribute in a text, between what stands in front of it and behind it. -/
structure PlaceholderIn (cs before : List Char) (a : Attribute) (after : List Char) : Prop where
  text_eq : cs = before ++ a.placeholder.toList ++ after
  /-- The run of capitals ends with the abbreviation. -/
  run_ends : ∀ c ∈ after.head?, c.isUpper = false

/-- Whether a placeholder stands anywhere in a text. -/
def HasPlaceholder (cs : List Char) : Prop :=
  ∃ before a after, PlaceholderIn cs before a after

instance (cs before after : List Char) (a : Attribute) :
    Decidable (PlaceholderIn cs before a after) :=
  -- by a look at the one character, not at all characters there are
  haveI : Decidable (∀ c ∈ after.head?, c.isUpper = false) := Option.decidableForallMem _
  decidable_of_iff
    (cs = before ++ a.placeholder.toList ++ after ∧ ∀ c ∈ after.head?, c.isUpper = false)
    ⟨fun h => ⟨h.1, h.2⟩, fun h => ⟨h.text_eq, h.run_ends⟩⟩

variable {a : Attribute} {before after cs rest : List Char}

lemma toList_placeholder (a : Attribute) :
    a.placeholder.toList = '@' :: a.abbreviation.toList := by
  cases a <;> rfl

/-- No run of capitals goes on at a placeholder. -/
lemma isUpper_of_mem_head?_placeholder (a : Attribute) (after : List Char) :
    ∀ c ∈ (a.placeholder.toList ++ after).head?, c.isUpper = false := by
  rw [toList_placeholder]
  rintro _ ⟨⟩
  rfl

lemma isUpper_of_mem_abbreviation {c : Char} (h : c ∈ a.abbreviation.toList) :
    c.isUpper = true := by
  have hall : a.abbreviation.toList.all Char.isUpper = true := by cases a <;> rfl
  exact List.all_eq_true.1 hall c h

lemma ofAbbreviation?_eq_some_iff {letters : List Char} :
    Attribute.ofAbbreviation? letters = some a ↔ letters = a.abbreviation.toList := by
  constructor
  · intro h
    unfold Attribute.ofAbbreviation? at h
    have hname := List.find?_some h
    exact (beq_iff_eq.1 hname).symm
  · rintro rfl
    cases a <;> rfl

lemma takeWhile_of_run_ends (h : ∀ c ∈ rest.head?, c.isUpper = false) :
    rest.takeWhile Char.isUpper = [] := by
  cases rest with
  | nil => rfl
  | cons c rest => exact List.takeWhile_cons_of_neg (by simp [h c rfl])

/-- A run of capitals goes on up to a text that does not begin with one. -/
lemma takeWhile_append_of_run_ends (cs : List Char) (h : ∀ c ∈ rest.head?, c.isUpper = false) :
    (cs ++ rest).takeWhile Char.isUpper = cs.takeWhile Char.isUpper := by
  rw [List.takeWhile_append, takeWhile_of_run_ends h, List.append_nil]
  split
  · rename_i hlength
    exact ((List.takeWhile_prefix _).eq_of_length hlength).symm
  · rfl

lemma takeWhile_abbreviation_append (h : ∀ c ∈ after.head?, c.isUpper = false) :
    (a.abbreviation.toList ++ after).takeWhile Char.isUpper = a.abbreviation.toList := by
  rw [List.takeWhile_append_of_pos fun _ => isUpper_of_mem_abbreviation, takeWhile_of_run_ends h,
    List.append_nil]

/-- What begins with an at sign and the abbreviation of an attribute as its capitals begins with a
placeholder. -/
lemma placeholderIn_of_takeWhile
    (h : cs.takeWhile Char.isUpper = a.abbreviation.toList) :
    PlaceholderIn ('@' :: cs) [] a (cs.dropWhile Char.isUpper) where
  text_eq := by
    rw [List.nil_append, toList_placeholder, ← h, List.cons_append, List.takeWhile_append_dropWhile]
  run_ends := by
    intro c hc
    have hhead := List.head?_dropWhile_not Char.isUpper cs
    rw [Option.mem_def] at hc
    rw [hc] at hhead
    simpa using hhead

lemma HasPlaceholder.cons (c : Char) (h : HasPlaceholder cs) : HasPlaceholder (c :: cs) := by
  obtain ⟨before, a, after, rfl, hends⟩ := h
  exact ⟨c :: before, a, after, rfl, hends⟩

lemma HasPlaceholder.mem (h : HasPlaceholder cs) : '@' ∈ cs := by
  obtain ⟨before, a, after, rfl, -⟩ := h
  rw [toList_placeholder]
  simp

/-! ## The pass over a text -/

section Pass

variable (modifier : Attribute → Int) (written : List Char)

/-- A placeholder puts the modifier at the end of what is written. -/
lemma substituteFrom_placeholder (hends : ∀ c ∈ after.head?, c.isUpper = false) :
    substituteFrom modifier written (a.placeholder.toList ++ after) =
      substituteFrom modifier (putModifier (modifier a) written) after := by
  have htake := takeWhile_abbreviation_append (a := a) hends
  have hdrop : (a.abbreviation.toList ++ after).dropWhile Char.isUpper = after := by
    have hsplit := List.takeWhile_append_dropWhile (p := Char.isUpper)
      (l := a.abbreviation.toList ++ after)
    rw [htake] at hsplit
    exact List.append_cancel_left hsplit
  rw [toList_placeholder, List.cons_append, substituteFrom, if_pos rfl, htake,
    ofAbbreviation?_eq_some_iff.2 rfl]
  dsimp only
  rw [hdrop]

lemma substituteFrom_other {c : Char} (hc : c ≠ '@') (rest : List Char) :
    substituteFrom modifier written (c :: rest) = substituteFrom modifier (c :: written) rest := by
  rw [substituteFrom, if_neg hc]

/-- Text without placeholders is written as it is. -/
lemma substituteFrom_plain (h : ¬HasPlaceholder cs)
    (hends : ∀ c ∈ rest.head?, c.isUpper = false) :
    substituteFrom modifier written (cs ++ rest) =
      substituteFrom modifier (cs.reverse ++ written) rest := by
  induction cs generalizing written with
  | nil => rfl
  | cons c cs ih =>
      -- An at sign starts no placeholder here, since what follows it spells no attribute; so it is
      -- written like any other character.
      have hstep : substituteFrom modifier written (c :: (cs ++ rest)) =
          substituteFrom modifier (c :: written) (cs ++ rest) := by
        by_cases hc : c = '@'
        · subst hc
          rw [substituteFrom, if_pos rfl, takeWhile_append_of_run_ends cs hends]
          cases hname : Attribute.ofAbbreviation? (cs.takeWhile Char.isUpper) with
          | none => rfl
          | some a =>
              have hplaceholder := placeholderIn_of_takeWhile (ofAbbreviation?_eq_some_iff.1 hname)
              exact absurd ⟨[], a, _, hplaceholder⟩ h
        · exact substituteFrom_other modifier written hc _
      rw [List.cons_append, hstep, ih _ fun hcs => h (hcs.cons c), List.reverse_cons,
        List.append_assoc, List.singleton_append]

end Pass

/-! ## What is written stays -/

/-- Whether a text consists of blanks. -/
def AllBlank (cs : List Char) : Prop :=
  ∀ c ∈ cs, isBlank c = true

lemma not_allBlank_of_mem {c : Char} (hmem : c ∈ cs) (hc : isBlank c = false) : ¬AllBlank cs :=
  fun h => Bool.noConfusion ((h c hmem).symm.trans hc)

lemma not_allBlank_append_digits (n : Nat) (rest : List Char) :
    ¬AllBlank ((digits n).reverse ++ rest) := by
  obtain ⟨c, hc⟩ := List.exists_mem_of_ne_nil _ (Nat.toDigits_ne_nil (n := n) (b := 10))
  exact not_allBlank_of_mem (List.mem_append_left _ (List.mem_reverse.2 hc))
    (isBlank_of_isDigit (isDigit_of_mem_digits hc))

/-- A modifier is never blank. -/
lemma not_allBlank_putModifier (value : Int) (written : List Char) :
    ¬AllBlank (putModifier value written) := by
  have hint : ¬AllBlank ((intChars value).reverse ++ written) := by
    unfold intChars
    split
    · rw [List.reverse_cons, List.append_assoc]
      exact not_allBlank_append_digits _ _
    · exact not_allBlank_append_digits _ _
  unfold putModifier
  split
  · split
    · exact not_allBlank_append_digits _ _
    · exact hint
  · exact hint

lemma putModifier_append (h : ¬AllBlank cs) (value : Int) (front : List Char) :
    putModifier value (cs ++ front) = putModifier value cs ++ front := by
  obtain ⟨c, back, hdrop⟩ : ∃ c back, cs.dropWhile isBlank = c :: back :=
    List.exists_cons_of_ne_nil fun hnil => h (List.dropWhile_eq_nil_iff.1 hnil)
  have hdrop' : (cs ++ front).dropWhile isBlank = c :: (back ++ front) := by
    rw [List.dropWhile_append, hdrop]
    rfl
  rw [putModifier, putModifier, hdrop, hdrop']
  dsimp only
  split <;> simp only [List.append_assoc, List.cons_append]

/-- **What is written stays.**  Of what is written, the pass looks back over blanks only. -/
lemma substituteFrom_append (modifier : Attribute → Int) {written : List Char}
    (h : ¬AllBlank written) (front cs : List Char) :
    substituteFrom modifier (written ++ front) cs =
      front.reverse ++ substituteFrom modifier written cs := by
  induction written, cs using substituteFrom.induct modifier with
  | case1 written => rw [substituteFrom, substituteFrom, List.reverse_append]
  | case2 written rest a hname ih =>
      rw [substituteFrom, substituteFrom, if_pos rfl, if_pos rfl, hname]
      dsimp only
      rw [putModifier_append h]
      exact ih (not_allBlank_putModifier _ _)
  | case3 written rest hname ih =>
      rw [substituteFrom, substituteFrom, if_pos rfl, if_pos rfl, hname]
      dsimp only
      exact ih fun hblank => h (List.forall_mem_cons.1 hblank).2
  | case4 written c rest hc ih =>
      rw [substituteFrom_other _ _ hc, substituteFrom_other _ _ hc]
      exact ih fun hblank => h (List.forall_mem_cons.1 hblank).2

end Tabletop.Rules
