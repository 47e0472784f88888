import Tabletop.Proofs.Rules.Placeholder

/-!
# Nothing is left to replace

A substituted text is made of pieces: the text between the placeholders, as it stood, and the
modifiers, each of them digits with a sign or without.  No piece holds a placeholder, but two of them
might make one where they meet, as `@S` and `TR` do.  They do not, since between any two stands a
character that neither begins a placeholder nor goes on with its name: a modifier ends in a digit and
begins with one or with a sign.  This stays so when a modifier takes back the sign before it.

So `Complete` holds of what is written before each placeholder of the pass, and in the end of the whole
text (`not_hasPlaceholder_substituteFrom`).  The pass ends, since each round leaves a shorter rest, and
that is also what `placeholder_induction` is an induction on.  A text without placeholders comes out as
it went in, and with it every text that was substituted before (`substitution_complete`).
-/

namespace Tabletop.Rules

open Tabletop.Sheet Tabletop.Text

variable {before after cs rest written : List Char} {c : Char}

/-! ## Where a text can be cut -/

lemma not_hasPlaceholder_nil : ¬HasPlaceholder [] :=
  fun h => List.not_mem_nil h.mem

/-- A text has a placeholder at its front, or behind its first character. -/
lemma hasPlaceholder_cons_iff :
    HasPlaceholder (c :: cs) ↔
      (c = '@' ∧ (Attribute.ofAbbreviation? (cs.takeWhile Char.isUpper)).isSome = true) ∨
        HasPlaceholder cs := by
  constructor
  · rintro ⟨before, a, after, htext, hends⟩
    cases before with
    | nil =>
        rw [List.nil_append, toList_placeholder, List.cons_append, List.cons.injEq] at htext
        obtain ⟨rfl, rfl⟩ := htext
        rw [takeWhile_abbreviation_append hends, ofAbbreviation?_eq_some_iff.2 rfl]
        exact .inl ⟨rfl, rfl⟩
    | cons d before =>
        obtain ⟨-, rfl⟩ := List.cons.inj htext
        exact .inr ⟨before, a, after, rfl, hends⟩
  · rintro (⟨rfl, hname⟩ | h)
    · obtain ⟨a, ha⟩ := Option.isSome_iff_exists.1 hname
      exact ⟨[], a, _, placeholderIn_of_takeWhile (ofAbbreviation?_eq_some_iff.1 ha)⟩
    · exact h.cons c

instance decidableHasPlaceholder : (cs : List Char) → Decidable (HasPlaceholder cs)
  | [] => .isFalse not_hasPlaceholder_nil
  | _ :: cs =>
    haveI := decidableHasPlaceholder cs
    decidable_of_iff _ hasPlaceholder_cons_iff.symm

/-- Whether a character can be no part of a placeholder. -/
def Separates (c : Char) : Prop :=
  c ≠ '@' ∧ c.isUpper = false

instance (c : Char) : Decidable (Separates c) :=
  inferInstanceAs (Decidable (_ ∧ _))

/-- No placeholder reaches over a character that can be no part of it. -/
lemma hasPlaceholder_append_cons (hc : Separates c) (cs rest : List Char) :
    HasPlaceholder (cs ++ c :: rest) ↔ HasPlaceholder cs ∨ HasPlaceholder rest := by
  induction cs with
  | nil => simp [hasPlaceholder_cons_iff, hc.1, not_hasPlaceholder_nil]
  | cons d cs ih =>
      have hends : ∀ c' ∈ (c :: rest).head?, c'.isUpper = false := by
        rintro _ ⟨⟩
        exact hc.2
      rw [List.cons_append, hasPlaceholder_cons_iff, hasPlaceholder_cons_iff,
        takeWhile_append_of_run_ends cs hends, ih, or_assoc]

/-- Characters behind a text that can be no part of a placeholder make none. -/
lemma hasPlaceholder_append_separators (h : ∀ c ∈ rest, Separates c) :
    HasPlaceholder (cs ++ rest) ↔ HasPlaceholder cs := by
  cases rest with
  | nil => rw [List.append_nil]
  | cons c rest =>
      obtain ⟨hc, hrest⟩ := List.forall_mem_cons.1 h
      have hnone : ¬HasPlaceholder rest := fun hplaceholder => (hrest _ hplaceholder.mem).1 rfl
      rw [hasPlaceholder_append_cons hc, or_iff_left hnone]

/-- A text with a placeholder has a first one. -/
lemma HasPlaceholder.exists_first (h : HasPlaceholder cs) :
    ∃ before a after, PlaceholderIn cs before a after ∧ ¬HasPlaceholder before := by
  induction cs with
  | nil => exact absurd h not_hasPlaceholder_nil
  | cons c cs ih =>
      by_cases hfront :
          c = '@' ∧ (Attribute.ofAbbreviation? (cs.takeWhile Char.isUpper)).isSome = true
      · obtain ⟨rfl, hname⟩ := hfront
        obtain ⟨a, ha⟩ := Option.isSome_iff_exists.1 hname
        exact ⟨[], a, _, placeholderIn_of_takeWhile (ofAbbreviation?_eq_some_iff.1 ha),
          not_hasPlaceholder_nil⟩
      · obtain ⟨before, a, after, ⟨rfl, hends⟩, hbefore⟩ :=
          ih ((hasPlaceholder_cons_iff.1 h).resolve_left hfront)
        refine ⟨c :: before, a, after, ⟨rfl, hends⟩, fun hplaceholder => ?_⟩
        rw [List.append_assoc, takeWhile_append_of_run_ends before
          (isUpper_of_mem_head?_placeholder a after)] at hfront
        exact (hasPlaceholder_cons_iff.1 hplaceholder).elim hfront hbefore

/-- A property of texts holds of all of them if it holds of those without placeholders, and of a text
whenever it holds of what follows its first placeholder. -/
lemma placeholder_induction {motive : List Char → Prop}
    (plain : ∀ cs, ¬HasPlaceholder cs → motive cs)
    (next : ∀ before (a : Attribute) after, ¬HasPlaceholder before →
      (∀ c ∈ after.head?, c.isUpper = false) → motive after →
        motive (before ++ a.placeholder.toList ++ after))
    (cs : List Char) : motive cs := by
  induction hlength : cs.length using Nat.strongRecOn generalizing cs with
  | _ n ih =>
      by_cases h : HasPlaceholder cs
      · obtain ⟨before, a, after, ⟨rfl, hends⟩, hbefore⟩ := h.exists_first
        refine next before a after hbefore hends (ih after.length ?_ after rfl)
        rw [← hlength, toList_placeholder]
        simp only [List.length_append, List.length_cons]
        omega
      · exact plain cs h

/-! ## What the pass writes -/

lemma separates_of_isDigit (h : c.isDigit = true) : Separates c := by
  have hc := toNat_of_isDigit h
  refine ⟨fun hat => ?_, ?_⟩
  · subst hat
    exact absurd h (by decide)
  · rw [← Bool.not_eq_true]
    intro hupper
    have hge := UInt32.le_iff_toNat_le.1 (of_decide_eq_true hupper : 65 ≤ c.val ∧ c.val ≤ 90).1
    have hle : 65 ≤ c.toNat := hge
    omega

lemma separates_of_mem_digits {n : Nat} (h : c ∈ digits n) : Separates c :=
  separates_of_isDigit (isDigit_of_mem_digits h)

/-- Whether a text that is written can be gone on with: it holds no placeholder, and what comes next
makes none with it. -/
structure Complete (written : List Char) : Prop where
  no_placeholder : ¬HasPlaceholder written.reverse
  ends_apart : ∀ c ∈ written.head?, Separates c

lemma complete_nil : Complete [] where
  no_placeholder := not_hasPlaceholder_nil
  ends_apart := nofun

/-- Text without placeholders behind it leaves the whole without. -/
lemma Complete.append (h : Complete written) (hcs : ¬HasPlaceholder cs) :
    ¬HasPlaceholder (written.reverse ++ cs) := by
  cases written with
  | nil => exact hcs
  | cons c written =>
      have hc : Separates c := h.ends_apart c rfl
      have hfront := h.no_placeholder
      rw [List.reverse_cons, hasPlaceholder_append_cons hc] at hfront
      rw [List.reverse_cons, List.append_assoc, List.singleton_append,
        hasPlaceholder_append_cons hc]
      exact not_or.2 ⟨fun hw => hfront (.inl hw), hcs⟩

lemma hasPlaceholder_reverse_cons (hc : Separates c) :
    HasPlaceholder (c :: written).reverse ↔ HasPlaceholder written.reverse := by
  rw [List.reverse_cons, hasPlaceholder_append_separators (by simpa using hc)]

lemma complete_digits (n : Nat) (h : ¬HasPlaceholder written.reverse) :
    Complete ((digits n).reverse ++ written) where
  no_placeholder := by
    rwa [List.reverse_append, List.reverse_reverse,
      hasPlaceholder_append_separators fun _ => separates_of_mem_digits]
  ends_apart := by
    have hne : (digits n).reverse ≠ [] := List.reverse_ne_nil_iff.2 Nat.toDigits_ne_nil
    obtain ⟨c, back, hdigits⟩ := List.exists_cons_of_ne_nil hne
    have hc : c ∈ (digits n).reverse := hdigits ▸ List.mem_cons_self
    rw [hdigits]
    rintro _ ⟨⟩
    exact separates_of_mem_digits (List.mem_reverse.1 hc)

lemma complete_intChars (n : Int) (h : ¬HasPlaceholder written.reverse) :
    Complete ((intChars n).reverse ++ written) := by
  unfold intChars
  split
  · rw [List.reverse_cons, List.append_assoc, List.singleton_append]
    exact complete_digits _ (mt (hasPlaceholder_reverse_cons (by decide)).1 h)
  · exact complete_digits _ h

/-- A modifier leaves no placeholder, also where it takes a sign back. -/
lemma complete_putModifier (value : Int) (h : ¬HasPlaceholder written.reverse) :
    Complete (putModifier value written) := by
  unfold putModifier
  split
  · rename_i sign before hdrop
    split
    · rename_i hsign
      have hseparates : Separates sign := by rcases hsign with rfl | rfl <;> decide
      have hbefore : ¬HasPlaceholder before.reverse := by
        rw [← List.takeWhile_append_dropWhile (p := isBlank) (l := written), hdrop,
          List.reverse_append, List.reverse_cons, List.append_assoc, List.singleton_append,
          hasPlaceholder_append_cons hseparates] at h
        exact fun hplaceholder => h (.inl hplaceholder)
      refine complete_digits _ (mt (hasPlaceholder_reverse_cons ?_).1 hbefore)
      split <;> decide
    · exact complete_intChars value h
  · exact complete_intChars value h

/-! ## Substituted texts -/

/-- A text without placeholders goes behind what is written as it is. -/
lemma substituteFrom_of_plain (modifier : Attribute → Int) (written : List Char)
    (h : ¬HasPlaceholder cs) :
    substituteFrom modifier written cs = written.reverse ++ cs := by
  have hplain : substituteFrom modifier written (cs ++ []) =
      substituteFrom modifier (cs.reverse ++ written) [] :=
    substituteFrom_plain modifier written h nofun
  rwa [List.append_nil, substituteFrom, List.reverse_append, List.reverse_reverse] at hplain

/-- The pass leaves no placeholder behind it. -/
lemma not_hasPlaceholder_substituteFrom (modifier : Attribute → Int) (h : Complete written)
    (cs : List Char) : ¬HasPlaceholder (substituteFrom modifier written cs) := by
  induction cs using placeholder_induction generalizing written with
  | plain cs hcs =>
      rw [substituteFrom_of_plain modifier written hcs]
      exact h.append hcs
  | next before a after hbefore hends ih =>
      rw [List.append_assoc, substituteFrom_plain modifier written hbefore
          (isUpper_of_mem_head?_placeholder a after),
        substituteFrom_placeholder modifier _ hends]
      refine ih (complete_putModifier _ ?_)
      rw [List.reverse_append, List.reverse_reverse]
      exact h.append hbefore

lemma substitute_eq_self {formula : String} (h : ¬HasPlaceholder formula.toList) (c : Character) :
    substitute formula c = formula := by
  rw [substitute, substituteFrom_of_plain c.modifier [] h, List.reverse_nil, List.nil_append,
    String.ofList_toList]

/-- **Substitution is complete.**  Whatever the text and whoever the character, a substituted text holds
no placeholder.  So to substitute it again, for any character, changes nothing, as it changes nothing in
any text without placeholders. -/
theorem substitution_complete (formula : String) (c : Character) :
    ¬HasPlaceholder (substitute formula c).toList ∧
    (∀ c', substitute (substitute formula c) c' = substitute formula c) ∧
    (¬HasPlaceholder formula.toList → substitute formula c = formula) := by
  have hcomplete : ¬HasPlaceholder (substitute formula c).toList := by
    rw [substitute, String.toList_ofList]
    exact not_hasPlaceholder_substituteFrom c.modifier complete_nil _
  exact ⟨hcomplete, substitute_eq_self hcomplete, fun h => substitute_eq_self h c⟩

/-- Names that are cut short or run on, without a placeholder and next to one whose modifier takes a
sign back. -/
theorem substitution_complete_seams :
    let c : Character :=
      { Character.new ⟨⟨1⟩⟩ "Roland" .fighter with attributes := ⟨7, 16, 14, 10, 12, 8⟩ }
    let plain := "@@STRENGTH - @ST @dex+@DE"
    let seamed := "@ST - @STR@DEXX"
    (¬HasPlaceholder plain.toList ∧ substitute plain c = plain) ∧
      substitute seamed c = "@ST +2@DEXX" ∧
      ∀ c', substitute (substitute seamed c) c' = substitute seamed c := by
  intro c plain seamed
  have hplain : ¬HasPlaceholder plain.toList := by decide +kernel
  have hseamed : substitute seamed c = "@ST +2@DEXX" := by
    have hsplit : seamed.toList =
        "@ST - ".toList ++ (Attribute.strength.placeholder.toList ++ "@DEXX".toList) := by
      decide +kernel
    rw [substitute, hsplit,
      substituteFrom_plain _ _ (by decide +kernel) (isUpper_of_mem_head?_placeholder _ _),
      substituteFrom_placeholder _ _ (by simp), substituteFrom_of_plain _ _ (by decide +kernel)]
    decide +kernel
  obtain ⟨-, -, hsame⟩ := substitution_complete plain c
  obtain ⟨-, hagain, -⟩ := substitution_complete seamed c
  exact ⟨⟨hplain, hsame hplain⟩, hseamed, hagain⟩

end Tabletop.Rules
