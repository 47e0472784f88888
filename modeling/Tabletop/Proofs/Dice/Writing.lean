import Tabletop.Proofs.Dice.Drawing

/-!
# Written formulas read back

`Formula.text` writes the terms of a formula without knowing what can be read: a term may have any
32-bit size, and is written all the same.  Reading such a text gives back the terms that are within the
bounds of written formulas, in order, and drops the others without a trace (`terms_parse_text`).

Writer and reader keep signs in different places.  The sign of dice is a field of the term, that of a
flat modifier is part of its value, and a leading plus is not written at all.  What makes every pair of
neighbours come apart again is that all terms but the first are written with a sign in front
(`exists_sign_termChars`), so that each is read as it would be by itself (`terms_termChars`).
-/

namespace Tabletop.Dice

open Tabletop.Text

/-! ## One term -/

lemma isPlain_of_mem_labelChars {d : DiceTerm} : ∀ c ∈ d.labelChars, IsPlain c := by
  intro c hc
  rcases List.mem_append.1 hc with hcount | hsides
  · exact isPlain_of_isDigit (isDigit_of_mem_digits hcount)
  · rcases List.mem_cons.1 hsides with rfl | hsides
    · exact ⟨by decide, by decide, by decide⟩
    · exact isPlain_of_isDigit (isDigit_of_mem_digits hsides)

/-- The label of a group of dice is read as the numbers in it. -/
lemma pieceTerm?_labelChars (sign : Sign) (d : DiceTerm) :
    pieceTerm? sign d.labelChars = diceTerm? sign d.count.toNat d.sides.toNat := by
  have hcount : ∀ c ∈ digits d.count.toNat, isDieMark c = false :=
    fun c hc => isDieMark_of_isDigit (isDigit_of_mem_digits hc)
  have hne : (digits d.count.toNat).isEmpty = false := by
    have hnumeral := isNumeral_digits d.count.toNat
    rw [isNumeral, Bool.and_eq_true] at hnumeral
    simpa using hnumeral.1
  rw [DiceTerm.labelChars, pieceTerm?_mark sign hcount (by decide), isNumeral_digits,
    isNumeral_digits, hne, numeralValue_digits, numeralValue_digits]
  rfl

/-- Dice are read from their own numbers exactly if they are within bounds. -/
lemma diceTerm?_self (d : DiceTerm) :
    diceTerm? d.sign d.count.toNat d.sides.toNat =
      if (Term.dice d).Admissible then some (.dice d) else none := by
  by_cases h : (Term.dice d).Admissible
  · rw [if_pos h]
    exact diceTerm?_eq_some_iff.2 ⟨d, rfl, rfl, rfl, rfl, h⟩
  · rw [if_neg h]
    exact if_neg fun hbounds => h ⟨⟨hbounds.1, hbounds.2.1⟩, hbounds.2.2⟩

namespace Formula

/-- A term, or nothing if it is out of bounds. -/
def admitted (t : Term) : Option Term :=
  if t.Admissible then some t else none

lemma scan_labelChars (d : DiceTerm) :
    scan d.sign [] d.labelChars = (admitted (.dice d)).toList := by
  rw [scan_piece _ isPlain_of_mem_labelChars, pieceTerm?_labelChars, diceTerm?_self]
  rfl

lemma termChars_flat (value : Int32) :
    termChars false (.flat value) = signedChars value.toInt := by
  simp only [termChars, signedChars]
  split <;> rfl

/-- A written term is read as itself if it is within bounds, and as nothing otherwise. -/
lemma terms_termChars (first : Bool) (t : Term) :
    (ofChars (termChars first t)).terms = (admitted t).toList := by
  cases t with
  | dice d =>
      have hlabel := scan_labelChars d
      obtain ⟨count, sides, sign⟩ := d
      cases sign with
      | minus => exact (scan_nil_minus .plus _).trans hlabel
      | plus =>
          cases first with
          | true => exact hlabel
          | false => exact (scan_nil_plus .plus _).trans hlabel
  | flat value =>
      have hvalue : (flatTerm? (Sign.ofInt value.toInt) value.toInt.natAbs).toList =
          (admitted (.flat value)).toList := congrArg _ (flatTerm?_int32 value)
      rw [← hvalue]
      -- In front the sign belongs to the numeral; further on it is the sign that joins the term to
      -- the text.
      cases first with
      | true => exact terms_intChars value.toInt
      | false =>
          rw [termChars_flat]
          exact terms_append_signedChars [] value.toInt

/-- Every term but the first is written with a sign in front. -/
lemma exists_sign_termChars (t : Term) :
    ∃ c body, (c = '+' ∨ c = '-') ∧ termChars false t = c :: body := by
  cases t with
  | dice d =>
      obtain ⟨count, sides, sign⟩ := d
      cases sign with
      | plus => exact ⟨'+', _, .inl rfl, rfl⟩
      | minus => exact ⟨'-', _, .inr rfl, rfl⟩
  | flat value =>
      rw [termChars_flat, signedChars]
      split
      · exact ⟨'-', _, .inr rfl, rfl⟩
      · exact ⟨'+', _, .inl rfl, rfl⟩

/-! ## All terms -/

/-- Behind any text, terms are read one after the other. -/
lemma terms_append_termChars (front : List Char) (ts : List Term) :
    (ofChars (front ++ ts.flatMap (termChars false))).terms =
      (ofChars front).terms ++ ts.filterMap admitted := by
  induction ts generalizing front with
  | nil => simp
  | cons t ts ih =>
      obtain ⟨c, body, hc, hbody⟩ := exists_sign_termChars t
      have hfront : (ofChars (front ++ termChars false t)).terms =
          (ofChars front).terms ++ (admitted t).toList := by
        rw [← terms_termChars false t, hbody]
        exact terms_append_sign hc front body
      rw [List.flatMap_cons, ← List.append_assoc, ih, hfront, List.append_assoc]
      cases h : admitted t with
      | none => rw [List.filterMap_cons_none h, Option.toList_none, List.nil_append]
      | some t' => rw [List.filterMap_cons_some h, Option.toList_some, List.singleton_append]

lemma filterMap_admitted (ts : List Term) :
    ts.filterMap admitted = ts.filter fun t => t.Admissible := by
  rw [← List.filterMap_eq_filter]
  congr 1
  funext t
  simp [admitted, Option.guard]

/-- **Written formulas read back**, up to the terms that are out of bounds. -/
lemma terms_parse_text (f : Formula) :
    (parse f.text).terms = f.terms.filter fun t => t.Admissible := by
  have hchars : (parse f.text).terms = (ofChars f.chars).terms :=
    congrArg (fun cs => (ofChars cs).terms) String.toList_ofList
  rw [hchars, ← filterMap_admitted]
  obtain ⟨ts⟩ := f
  cases ts with
  | nil => rfl
  | cons t ts =>
      rw [chars, terms_append_termChars, terms_termChars]
      cases h : admitted t with
      | none => rw [List.filterMap_cons_none h, Option.toList_none, List.nil_append]
      | some t' => rw [List.filterMap_cons_some h, Option.toList_some, List.singleton_append]

/-- A formula reads back as a whole exactly if all its terms are within bounds. -/
lemma parse_text_eq_iff {f : Formula} :
    parse f.text = f ↔ ∀ t ∈ f.terms, t.Admissible := by
  have hfilter : parse f.text = f ↔ (f.terms.filter fun t => t.Admissible) = f.terms := by
    rw [← terms_parse_text]
    exact ⟨congrArg terms, fun h => by cases f; exact congrArg Formula.mk h⟩
  rw [hfilter, List.filter_eq_self]
  simp only [decide_eq_true_eq]

/-- Doubled, dice within bounds stay so up to half of the greatest count. -/
lemma admissible_doubledTerm_iff {t : Term} (h : t.Admissible) :
    (doubledTerm t).Admissible ↔ ∀ d, t = .dice d → d.count.toNat ≤ 500 := by
  cases t with
  | flat value => exact ⟨nofun, fun _ => h⟩
  | dice d =>
      obtain ⟨⟨hcount, hcount'⟩, hsides⟩ := h
      -- A count within bounds is far from where doubling stops.
      have hdoubled : (saturateCount (2 * d.count.toNat)).toNat = 2 * d.count.toNat :=
        DiceTerm.toNat_count_doubled hcount'
      rw [doubledTerm, Term.Admissible, hdoubled]
      constructor
      · rintro ⟨⟨-, hle⟩, -⟩ d' hd'
        obtain rfl := Term.dice.inj hd'
        have hle' : 2 * d.count.toNat ≤ 1000 := hle
        omega
      · intro hle
        have hle' := hle d rfl
        refine ⟨⟨by omega, ?_⟩, hsides⟩
        show 2 * d.count.toNat ≤ 1000
        omega

lemma mem_dice_iff {f : Formula} {d : DiceTerm} : d ∈ f.dice ↔ .dice d ∈ f.terms := by
  unfold dice
  rw [List.mem_filterMap]
  constructor
  · rintro ⟨t, ht, hd⟩
    cases t with
    | flat value => simp at hd
    | dice d' =>
        obtain rfl := Option.some.inj hd
        exact ht
  · intro h
    exact ⟨_, h, rfl⟩

/-- **Writing and reading are inverse on formulas within bounds.**  Whatever the terms of a formula
are, reading what is written of it gives the terms within bounds, in order and with their signs.  Hence
the terms that are read from a text are within bounds, and writing and reading them again changes
nothing.  The formula that a critical roll shows reads back as the doubled dice exactly if no group had
more than five hundred. -/
theorem parse_written :
    (∀ terms : List Term, (parse (text ⟨terms⟩)).terms = terms.filter fun t => t.Admissible) ∧
    (∀ text : String,
      (∀ t ∈ (parse text).terms, t.Admissible) ∧ parse (parse text).text = parse text) ∧
    ∀ (σ : Type) [DieSource σ] (text : String) (source : σ),
      parse (rollCritical text source).1.roll.formula = (parse text).doubled ↔
        ∀ d ∈ (parse text).dice, d.count.toNat ≤ 500 := by
  have hadmissible : ∀ text : String, ∀ t ∈ (parse text).terms, t.Admissible :=
    fun text t ht => admissible_of_mem_scan ht
  refine ⟨fun terms => terms_parse_text ⟨terms⟩, fun text => ?_, fun σ _ text source => ?_⟩
  · exact ⟨hadmissible text, parse_text_eq_iff.2 (hadmissible text)⟩
  · have hshown : (rollCritical text source).1.roll.formula = (parse text).doubled.text := rfl
    rw [hshown, parse_text_eq_iff, doubled, List.forall_mem_map]
    constructor
    · intro h d hd
      have hmem := mem_dice_iff.1 hd
      exact (admissible_doubledTerm_iff (hadmissible text _ hmem)).1 (h _ hmem) d rfl
    · intro h t ht
      refine (admissible_doubledTerm_iff (hadmissible text t ht)).2 ?_
      rintro d rfl
      exact h d (mem_dice_iff.2 ht)

end Formula

end Tabletop.Dice
