import Tabletop.Proofs.Dice.Reading

/-!
# The grammar of formulas

`Formula.parse` reads a text in one pass, with a buffer for the piece under way and the sign in force,
and never fails.  This module says what it accepts without mentioning that pass.

* `Stands` is the grammar of a single piece: an optional numeral, a die mark and a numeral are dice, a
  numeral alone is a flat modifier, both within the bounds of written formulas.  Numerals may have any
  length, and leading zeros.
* `Reads` is the grammar of a text without blanks: pieces between signs, each under the last sign in
  front of it.  A piece that stands for a term contributes it; any other piece contributes nothing, and
  leaves its neighbours as they are.

The terms of a text are exactly those the grammar gives for it once its blanks are left out
(`parse_grammar`).  The invariant of the pass is `scan_append_plain`: the buffer holds, last character
first, what has been read of the piece since the last sign.
-/

namespace Tabletop.Dice

open Tabletop.Text

/-! ## Pieces -/

/-- The term that a piece between two signs stands for, under the sign in front of it. -/
inductive Stands (sign : Sign) : List Char → Term → Prop
  /-- Dice: the count, which is one if it is left out, a mark, and the sides. -/
  | dice {count sides : List Char} {mark : Char} {d : DiceTerm}
    (count_eq : count = [] ∧ d.count.toNat = 1 ∨
      isNumeral count = true ∧ d.count.toNat = numeralValue count)
    (mark_eq : mark = 'd' ∨ mark = 'D')
    (sides_eq : isNumeral sides = true ∧ d.sides.toNat = numeralValue sides)
    (sign_eq : d.sign = sign) (admissible : (Term.dice d).Admissible) :
    Stands sign (count ++ mark :: sides) (.dice d)
  /-- A flat modifier: its magnitude. -/
  | flat {magnitude : List Char} {value : Int32} (numeral : isNumeral magnitude = true)
    (value_eq : value.toInt = sign.signed (numeralValue magnitude))
    (admissible : (Term.flat value).Admissible) :
    Stands sign magnitude (.flat value)

lemma isDieMark_iff {c : Char} : isDieMark c = true ↔ c = 'd' ∨ c = 'D' := by
  simp [isDieMark]

lemma isDigit_of_isNumeral {cs : List Char} (h : isNumeral cs = true) :
    ∀ c ∈ cs, c.isDigit = true := by
  rw [isNumeral, Bool.and_eq_true] at h
  exact List.all_eq_true.1 h.2

lemma unmarked_of_isNumeral {cs : List Char} (h : isNumeral cs = true) :
    ∀ c ∈ cs, isDieMark c = false :=
  fun c hc => isDieMark_of_isDigit (isDigit_of_isNumeral h c hc)

/-- The count of a group of dice as it is written: nothing for one, or a numeral. -/
lemma count_eq_iff {count : List Char} {n : Nat} :
    (count.isEmpty || isNumeral count) = true ∧ n = (if count.isEmpty then 1 else numeralValue count) ↔
      count = [] ∧ n = 1 ∨ isNumeral count = true ∧ n = numeralValue count := by
  cases count with
  | nil => simp [isNumeral]
  | cons c count => simp

/-- A piece is read as the term that it stands for. -/
lemma pieceTerm?_eq_some_iff {sign : Sign} {piece : List Char} {t : Term} :
    pieceTerm? sign piece = some t ↔ Stands sign piece t := by
  constructor
  · intro h
    -- A piece with a mark can only be dice, and one without a mark only a constant.
    rcases exists_mark_or_unmarked piece with ⟨count, mark, sides, rfl, hcount, hmark⟩ | hnone
    · rw [pieceTerm?_mark sign hcount hmark] at h
      split at h
      · rename_i hshape
        rw [Bool.and_eq_true] at hshape
        obtain ⟨d, rfl, hc, hs, hsign, hd⟩ := diceTerm?_eq_some_iff.1 h
        exact .dice (count_eq_iff.1 ⟨hshape.2, hc⟩) (isDieMark_iff.1 hmark) ⟨hshape.1, hs⟩ hsign hd
      · simp at h
    · rw [pieceTerm?_unmarked sign hnone] at h
      split at h
      · rename_i hnumeral
        obtain ⟨v, rfl, hvalue, hv⟩ := flatTerm?_eq_some_iff.1 h
        exact .flat hnumeral hvalue hv
      · simp at h
  · intro h
    cases h with
    | @dice count sides mark d hcount hmark hsides hsign hd =>
        obtain ⟨hshape, hc⟩ := count_eq_iff.2 hcount
        -- The mark of the grammar is the one the reader looks for, since no count contains another.
        have hunmarked : ∀ c ∈ count, isDieMark c = false := by
          rcases hcount with ⟨rfl, -⟩ | ⟨hnumeral, -⟩
          · exact fun c hc => absurd hc List.not_mem_nil
          · exact unmarked_of_isNumeral hnumeral
        rw [pieceTerm?_mark sign hunmarked (isDieMark_iff.2 hmark), hsides.1, hshape]
        exact diceTerm?_eq_some_iff.2 ⟨_, rfl, hc, hsides.2, hsign, hd⟩
    | flat hnumeral hvalue hv =>
        rw [pieceTerm?_unmarked sign (unmarked_of_isNumeral hnumeral), if_pos hnumeral]
        exact flatTerm?_eq_some_iff.2 ⟨_, rfl, hvalue, hv⟩

/-! ## Texts -/

/-- Whether a character ends a piece. -/
def IsSign (c : Char) : Prop :=
  c = '+' ∨ c = '-'

/-- The terms of a text without blanks, under the sign in front of it. -/
inductive Reads : Sign → List Char → List Term → Prop
  /-- The last piece runs to the end of the text. -/
  | last {sign : Sign} {piece : List Char} {term? : Option Term}
    (unsigned : ∀ c ∈ piece, ¬IsSign c) (stands : ∀ t, term? = some t ↔ Stands sign piece t) :
    Reads sign piece term?.toList
  /-- Any other piece runs to a sign, which is then the sign of what follows. -/
  | cut {sign next : Sign} {piece rest : List Char} {term? : Option Term} {terms : List Term}
    (unsigned : ∀ c ∈ piece, ¬IsSign c) (stands : ∀ t, term? = some t ↔ Stands sign piece t)
    (reads : Reads next rest terms) :
    Reads sign (piece ++ next.symbol :: rest) (term?.toList ++ terms)

lemma pieceTerm?_eq_of_stands {sign : Sign} {piece : List Char} {term? : Option Term}
    (h : ∀ t, term? = some t ↔ Stands sign piece t) : pieceTerm? sign piece = term? :=
  Option.ext fun t => pieceTerm?_eq_some_iff.trans (h t).symm

lemma isPlain_of_unsigned {cs : List Char} (hsign : ∀ c ∈ cs, ¬IsSign c)
    (hblank : ∀ c ∈ cs, isBlank c = false) : ∀ c ∈ cs, IsPlain c :=
  fun c hc => ⟨fun h => hsign c hc (.inl h), fun h => hsign c hc (.inr h), hblank c hc⟩

/-- What the grammar gives for a text, the pass over the text finds. -/
lemma scan_eq_of_reads {sign : Sign} {cs : List Char} {terms : List Term}
    (h : Reads sign cs terms) (hblank : ∀ c ∈ cs, isBlank c = false) :
    scan sign [] cs = terms := by
  induction h with
  | last hsign hstands =>
      rw [scan_piece _ (isPlain_of_unsigned hsign hblank), pieceTerm?_eq_of_stands hstands]
  | @cut sign next piece rest term? terms hsign hstands hreads ih =>
      obtain ⟨hpiece, hrest⟩ := List.forall_mem_append.1 hblank
      have hterms := ih (List.forall_mem_cons.1 hrest).2
      rw [scan_append_plain sign [] (isPlain_of_unsigned hsign hpiece), List.append_nil]
      cases next with
      | plus =>
          rw [Sign.symbol, scan_plus, List.reverse_reverse, pieceTerm?_eq_of_stands hstands, hterms]
      | minus =>
          rw [Sign.symbol, scan_minus, List.reverse_reverse, pieceTerm?_eq_of_stands hstands, hterms]

lemma exists_symbol_of_isSign {c : Char} (h : IsSign c) : ∃ sign : Sign, c = sign.symbol := by
  rcases h with rfl | rfl
  · exact ⟨.plus, rfl⟩
  · exact ⟨.minus, rfl⟩

/-- The grammar gives terms for every text. -/
lemma exists_reads (sign : Sign) (cs : List Char) : ∃ terms, Reads sign cs terms := by
  have hstands : ∀ sign piece t, pieceTerm? sign piece = some t ↔ Stands sign piece t :=
    fun _ _ _ => pieceTerm?_eq_some_iff
  induction cs generalizing sign with
  | nil => exact ⟨_, .last (by simp) (hstands sign [])⟩
  | cons c cs ih =>
      by_cases hc : IsSign c
      · obtain ⟨next, rfl⟩ := exists_symbol_of_isSign hc
        obtain ⟨terms, hterms⟩ := ih next
        have hcut := Reads.cut (List.forall_mem_nil _) (hstands sign []) hterms
        exact ⟨_, hcut⟩
      · -- The character joins the first piece of what follows it, whichever way that piece ends.
        obtain ⟨terms, hterms⟩ := ih sign
        cases hterms with
        | last hsign _ => exact ⟨_, .last (List.forall_mem_cons.2 ⟨hc, hsign⟩) (hstands sign _)⟩
        | cut hsign _ hrest =>
            have hcut := Reads.cut (List.forall_mem_cons.2 ⟨hc, hsign⟩) (hstands sign _) hrest
            exact ⟨_, hcut⟩

/-- The pass over a text steps over its blanks. -/
lemma scan_filter_blank (sign : Sign) (piece cs : List Char) :
    scan sign piece (cs.filter fun c => !isBlank c) = scan sign piece cs := by
  induction cs generalizing sign piece with
  | nil => rfl
  | cons c cs ih =>
      cases hc : isBlank c with
      | true => rw [List.filter_cons_of_neg (by simp [hc]), ih, scan_blank sign piece hc]
      | false =>
          rw [List.filter_cons_of_pos (by simp [hc]), scan, scan]
          simp only [ih]

namespace Formula

/-- **Reading accepts exactly its grammar.**  The terms of a text are those that the grammar gives for
the text without its blanks, and no others.  Hence with a plus between them two texts read as the terms
of the one and then those of the other, whatever the texts are. -/
theorem parse_grammar :
    (∀ (text : String) (terms : List Term), (parse text).terms = terms ↔
      Reads .plus (text.toList.filter fun c => !isBlank c) terms) ∧
    ∀ front back : String,
      parse (front ++ "+" ++ back) = ⟨(parse front).terms ++ (parse back).terms⟩ := by
  refine ⟨fun text terms => ?_, fun front back => ?_⟩
  · have hblank : ∀ c ∈ text.toList.filter fun c => !isBlank c, isBlank c = false := by
      intro c hc
      simpa using (List.mem_filter.1 hc).2
    -- What the grammar gives is unique, because it is what the scan gives; `exists_reads` says that
    -- it gives something.
    have hscan : ∀ {terms}, Reads .plus (text.toList.filter fun c => !isBlank c) terms →
        (parse text).terms = terms := fun hterms =>
      (scan_filter_blank .plus [] text.toList).symm.trans (scan_eq_of_reads hterms hblank)
    refine ⟨?_, hscan⟩
    rintro rfl
    obtain ⟨terms, hterms⟩ := exists_reads .plus (text.toList.filter fun c => !isBlank c)
    rwa [hscan hterms]
  · have htext : (front ++ "+" ++ back).toList = front.toList ++ '+' :: back.toList := by
      rw [String.toList_append, String.toList_append, List.append_assoc]
      rfl
    -- At the start of a text a plus cuts off an empty piece, which stands for nothing.
    have hback : (ofChars ('+' :: back.toList)).terms = (ofChars back.toList).terms :=
      scan_nil_plus .plus back.toList
    have hterms := terms_append_sign (.inl rfl) front.toList back.toList
    rw [← htext, hback] at hterms
    exact congrArg Formula.mk hterms

end Formula

end Tabletop.Dice
