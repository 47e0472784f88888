import Tabletop.Dice.Formula
import Tabletop.Proofs.Text.Numerals

/-!
# Reading formulas

The formula of an attack or of its damage is written by putting shorter texts after one another, and
is then read as a whole.  Reading drops whatever it does not accept, so it is not clear that it gives
back what was written.  This module says what it makes of a text that is put together.

* A sign cuts: what stands in front of it does not change what is read from it on
  (`scan_append_sign`).  So two texts with a plus between them read as the terms of the one and then
  those of the other, and after a minus the second reads as if it began with that minus
  (`terms_plus`, `terms_minus`).
* A piece is dice or a flat modifier by whether it has a die mark, and its numerals count with their
  values: the words they are read into overflow only beyond the bounds of a term (`pieceTerm?_mark`,
  `pieceTerm?_unmarked`).
* A written number reads as that number, as long as it is within the bound of flat modifiers; beyond
  the bound it reads as nothing (`terms_intChars`, `terms_append_signedChars`).
* Whatever the text is, what is read from it is within bounds (`admissible_of_mem_scan`).
-/

namespace Tabletop.Dice

open Tabletop.Text

/-! ## Pieces -/

section Piece

variable (sign : Sign) {count sides piece : List Char} {mark : Char}

lemma diceTerm?_of_count_gt {count : Nat} (h : maxDiceCount < count) (sides : Nat) :
    diceTerm? sign count sides = none :=
  if_neg fun hbounds => absurd hbounds.2.1 (by omega)

lemma diceTerm?_of_sides_gt (count : Nat) {sides : Nat} (h : maxDieSides < sides) :
    diceTerm? sign count sides = none :=
  if_neg fun hbounds => absurd hbounds.2.2.2 (by omega)

lemma flatTerm?_of_gt {magnitude : Nat} (h : maxFlat < magnitude) :
    flatTerm? sign magnitude = none :=
  if_neg (by omega)

/-- A piece has a mark that ends its count, or no mark at all. -/
lemma exists_mark_or_unmarked (piece : List Char) :
    (∃ count mark sides, piece = count ++ mark :: sides ∧
      (∀ c ∈ count, isDieMark c = false) ∧ isDieMark mark = true) ∨
    ∀ c ∈ piece, isDieMark c = false := by
  induction piece with
  | nil => exact .inr (by simp)
  | cons c piece ih =>
      cases hc : isDieMark c with
      | true => exact .inl ⟨[], c, piece, rfl, by simp, hc⟩
      | false =>
          rcases ih with ⟨count, mark, sides, rfl, hcount, hmark⟩ | hnone
          · exact .inl ⟨c :: count, mark, sides, rfl, List.forall_mem_cons.2 ⟨hc, hcount⟩, hmark⟩
          · exact .inr (List.forall_mem_cons.2 ⟨hc, hnone⟩)

/-- A piece with a mark is dice, and its numerals count with their values. -/
lemma pieceTerm?_mark (hcount : ∀ c ∈ count, isDieMark c = false) (hmark : isDieMark mark = true) :
    pieceTerm? sign (count ++ mark :: sides) =
      if isNumeral sides && (count.isEmpty || isNumeral count) then
        diceTerm? sign (if count.isEmpty then 1 else numeralValue count) (numeralValue sides)
      else none := by
  have hpos : ∀ c ∈ count, (!isDieMark c) = true := by simpa using hcount
  have htake : (count ++ mark :: sides).takeWhile (fun c => !isDieMark c) = count := by
    rw [List.takeWhile_append_of_pos hpos]
    simp [hmark]
  have hdrop : (count ++ mark :: sides).dropWhile (fun c => !isDieMark c) = mark :: sides := by
    rw [List.dropWhile_append_of_pos hpos]
    simp [hmark]
  -- A numeral that is too long to be read at all is out of bounds as well, so its value decides in
  -- any case.
  have hsides : ∀ n, (numeralWithin? 4294967295 sides).bind (diceTerm? sign n) =
      diceTerm? sign n (numeralValue sides) := fun n =>
    bind_numeralWithin? (fun m hm => diceTerm?_of_sides_gt sign n (Nat.lt_trans (by decide) hm))
      sides
  rw [pieceTerm?, hdrop, htake]
  dsimp only
  congr 1
  cases count with
  | nil => exact hsides 1
  | cons c count =>
      refine Eq.trans (bind_numeralWithin? ?_ _) (hsides _)
      intro n hn
      exact (hsides n).trans (diceTerm?_of_count_gt sign (Nat.lt_trans (by decide) hn) _)

/-- A piece without a mark is a flat modifier, and its numeral counts with its value. -/
lemma pieceTerm?_unmarked (h : ∀ c ∈ piece, isDieMark c = false) :
    pieceTerm? sign piece =
      if isNumeral piece then flatTerm? sign (numeralValue piece) else none := by
  have hdrop : piece.dropWhile (fun c => !isDieMark c) = [] := by
    have happend : (piece ++ []).dropWhile (fun c => !isDieMark c) = [] :=
      List.dropWhile_append_of_pos (by simpa using h)
    rwa [List.append_nil] at happend
  rw [pieceTerm?, hdrop]
  dsimp only
  rw [bind_numeralWithin? fun n hn => flatTerm?_of_gt sign (Nat.lt_trans (by decide) hn)]

lemma isDieMark_of_isDigit {c : Char} (h : c.isDigit = true) : isDieMark c = false := by
  simp only [isDieMark, Bool.or_eq_false_iff, beq_eq_false_iff_ne]
  constructor <;>
  · rintro rfl
    simp at h

end Piece

/-! ## Signs cut -/

section Scan

variable (sign : Sign) (piece : List Char)

lemma pieceTerm?_nil : pieceTerm? sign [] = none := rfl

lemma scan_plus (rest : List Char) :
    scan sign piece ('+' :: rest) =
      (pieceTerm? sign piece.reverse).toList ++ scan .plus [] rest := by
  rw [scan, if_pos rfl]

lemma scan_minus (rest : List Char) :
    scan sign piece ('-' :: rest) =
      (pieceTerm? sign piece.reverse).toList ++ scan .minus [] rest := by
  rw [scan, if_neg (by decide), if_pos rfl]

lemma scan_blank {c : Char} (h : isBlank c = true) (rest : List Char) :
    scan sign piece (c :: rest) = scan sign piece rest := by
  have hplus : c ≠ '+' := by
    rintro rfl
    simp [isBlank] at h
  have hminus : c ≠ '-' := by
    rintro rfl
    simp [isBlank] at h
  rw [scan, if_neg hplus, if_neg hminus, if_pos h]

/-- A character that is collected into a piece: neither a sign nor blank. -/
def IsPlain (c : Char) : Prop :=
  c ≠ '+' ∧ c ≠ '-' ∧ isBlank c = false

lemma isPlain_of_isDigit {c : Char} (h : c.isDigit = true) : IsPlain c := by
  refine ⟨?_, ?_, isBlank_of_isDigit h⟩
  · rintro rfl
    simp at h
  · rintro rfl
    simp at h

lemma scan_plain {c : Char} (h : IsPlain c) (rest : List Char) :
    scan sign piece (c :: rest) = scan sign (c :: piece) rest := by
  obtain ⟨hplus, hminus, hblank⟩ := h
  rw [scan, if_neg hplus, if_neg hminus, hblank, if_neg Bool.false_ne_true]

/-- Plain characters are collected into the piece that is being read. -/
lemma scan_append_plain {cs : List Char} (h : ∀ c ∈ cs, IsPlain c) (rest : List Char) :
    scan sign piece (cs ++ rest) = scan sign (cs.reverse ++ piece) rest := by
  induction cs generalizing piece with
  | nil => rfl
  | cons c cs ih =>
      obtain ⟨hc, hcs⟩ := List.forall_mem_cons.1 h
      rw [List.cons_append, scan_plain sign piece hc, ih (c :: piece) hcs, List.reverse_cons,
        List.append_assoc, List.singleton_append]

/-- Plain characters alone are one piece. -/
lemma scan_piece {cs : List Char} (h : ∀ c ∈ cs, IsPlain c) :
    scan sign [] cs = (pieceTerm? sign cs).toList := by
  have hscan := scan_append_plain sign [] h []
  rwa [List.append_nil, List.append_nil, scan, List.reverse_reverse] at hscan

/-- At its front, a plus changes nothing for what follows, -/
lemma scan_nil_plus (rest : List Char) : scan sign [] ('+' :: rest) = scan .plus [] rest := by
  rw [scan_plus, List.reverse_nil, pieceTerm?_nil, Option.toList_none, List.nil_append]

/-- and a minus is the sign of what follows. -/
lemma scan_nil_minus (rest : List Char) : scan sign [] ('-' :: rest) = scan .minus [] rest := by
  rw [scan_minus, List.reverse_nil, pieceTerm?_nil, Option.toList_none, List.nil_append]

/-- **Signs cut.**  From a sign on, a text reads as it does on its own. -/
lemma scan_append_sign {c : Char} (hc : c = '+' ∨ c = '-') (front back : List Char) :
    scan sign piece (front ++ c :: back) = scan sign piece front ++ scan .plus [] (c :: back) := by
  -- Whatever sign is in force and whatever piece is under way at the cut, the cut ends both.
  induction front generalizing sign piece with
  | nil =>
      rw [List.nil_append]
      rcases hc with rfl | rfl
      · rw [scan_plus, scan_nil_plus, scan]
      · rw [scan_minus, scan_nil_minus, scan]
  | cons x front ih =>
      rw [List.cons_append, scan, scan]
      split
      · rw [ih, List.append_assoc]
      · split
        · rw [ih, List.append_assoc]
        · split
          · exact ih _ _
          · exact ih _ _

/-- Blanks can be left out wherever they stand. -/
lemma scan_append_blank {c : Char} (hc : isBlank c = true) (front back : List Char) :
    scan sign piece (front ++ c :: back) = scan sign piece (front ++ back) := by
  induction front generalizing sign piece with
  | nil => exact scan_blank sign piece hc back
  | cons x front ih =>
      rw [List.cons_append, List.cons_append, scan, scan]
      simp only [ih]

end Scan

/-! ## What is read is within bounds -/

lemma toNat_ofNat_of_le {n : Nat} (h : n ≤ 1000) : (UInt32.ofNat n).toNat = n := by
  rw [UInt32.toNat_ofNat', Nat.mod_eq_of_lt]
  omega

/-- Dice that are read have the count and the sides of their numerals, and are within bounds. -/
lemma diceTerm?_eq_some_iff {sign : Sign} {count sides : Nat} {t : Term} :
    diceTerm? sign count sides = some t ↔
      ∃ d, t = .dice d ∧ d.count.toNat = count ∧ d.sides.toNat = sides ∧ d.sign = sign ∧
        (Term.dice d).Admissible := by
  unfold diceTerm?
  constructor
  · intro h
    split at h
    · rename_i hbounds
      obtain ⟨hcount, hcount', hsides, hsides'⟩ := hbounds
      have hc : (UInt32.ofNat count).toNat = count := toNat_ofNat_of_le hcount'
      have hs : (UInt32.ofNat sides).toNat = sides := toNat_ofNat_of_le hsides'
      refine ⟨_, (Option.some.inj h).symm, hc, hs, rfl, ?_⟩
      rw [Term.Admissible, hc, hs]
      exact ⟨⟨hcount, hcount'⟩, hsides, hsides'⟩
    · simp at h
  · rintro ⟨d, rfl, rfl, rfl, rfl, ⟨hcount, hcount'⟩, hsides, hsides'⟩
    rw [if_pos ⟨hcount, hcount', hsides, hsides'⟩, UInt32.ofNat_toNat, UInt32.ofNat_toNat]

/-- A magnitude under a sign. -/
def Sign.signed : Sign → Nat → Int
  | .plus, n => n
  | .minus, n => -n

lemma natAbs_signed (sign : Sign) (n : Nat) : (sign.signed n).natAbs = n := by
  cases sign with
  | plus => exact Int.natAbs_natCast n
  | minus => exact (Int.natAbs_neg _).trans (Int.natAbs_natCast n)

/-- A value that is not negative can be put under either sign. -/
lemma toInt_apply {v : Int32} {n : Nat} (h : v.toInt = n) (sign : Sign) :
    (sign.apply v).toInt = sign.signed n := by
  cases sign with
  | plus => exact h
  | minus =>
      have hlt := v.toInt_lt
      rw [Sign.apply, Int32.toInt_neg, h, Int.bmod_eq_of_le (by omega) (by omega)]
      rfl

/-- Within the bound of flat modifiers, applying a sign is exact. -/
lemma toInt_apply_ofNat (sign : Sign) {n : Nat} (h : n ≤ maxFlat) :
    (sign.apply (Int32.ofNat n)).toInt = sign.signed n := by
  have hn : n ≤ 1000000 := h
  refine toInt_apply ?_ sign
  rw [← Int32.ofInt_eq_ofNat, Int32.toInt_ofInt, Int32.size, Int.bmod_eq_of_le] <;> omega

/-- A flat modifier that is read has the value of its numeral, and is within the bound. -/
lemma flatTerm?_eq_some_iff {sign : Sign} {magnitude : Nat} {t : Term} :
    flatTerm? sign magnitude = some t ↔
      ∃ v, t = .flat v ∧ v.toInt = sign.signed magnitude ∧ (Term.flat v).Admissible := by
  unfold flatTerm?
  constructor
  · intro h
    split at h
    · rename_i hbound
      have hvalue := toInt_apply_ofNat sign hbound
      refine ⟨_, (Option.some.inj h).symm, hvalue, ?_⟩
      rwa [Term.Admissible, hvalue, natAbs_signed]
    · simp at h
  · rintro ⟨v, rfl, hvalue, hadmissible⟩
    have hbound : magnitude ≤ maxFlat := by
      rwa [Term.Admissible, hvalue, natAbs_signed] at hadmissible
    have hv : sign.apply (Int32.ofNat magnitude) = v :=
      Int32.toInt_inj.1 ((toInt_apply_ofNat sign hbound).trans hvalue.symm)
    rw [if_pos hbound, hv]

lemma admissible_of_pieceTerm? {sign : Sign} {piece : List Char} {t : Term}
    (h : pieceTerm? sign piece = some t) : t.Admissible := by
  rcases exists_mark_or_unmarked piece with ⟨count, mark, sides, rfl, hcount, hmark⟩ | hnone
  · rw [pieceTerm?_mark sign hcount hmark] at h
    split at h
    · obtain ⟨d, rfl, -, -, -, hd⟩ := diceTerm?_eq_some_iff.1 h
      exact hd
    · simp at h
  · rw [pieceTerm?_unmarked sign hnone] at h
    split at h
    · obtain ⟨v, rfl, -, hv⟩ := flatTerm?_eq_some_iff.1 h
      exact hv
    · simp at h

/-- Every term that is read is within the bounds of written formulas. -/
lemma admissible_of_mem_scan {sign : Sign} {piece cs : List Char} {t : Term}
    (h : t ∈ scan sign piece cs) : t.Admissible := by
  have hpiece : ∀ {sign piece}, t ∈ (pieceTerm? sign piece).toList → t.Admissible :=
    fun h => admissible_of_pieceTerm? (Option.mem_toList.1 h)
  induction cs generalizing sign piece with
  | nil => exact hpiece h
  | cons c cs ih =>
      rw [scan] at h
      split at h
      · exact (List.mem_append.1 h).elim hpiece ih
      · split at h
        · exact (List.mem_append.1 h).elim hpiece ih
        · split at h
          · exact ih h
          · exact ih h

namespace Formula

/-! ## Texts put together -/

lemma terms_parse (text : String) : (parse text).terms = (ofChars text.toList).terms := rfl

/-- From a sign on, a text reads as it does on its own. -/
lemma terms_append_sign {c : Char} (hc : c = '+' ∨ c = '-') (front back : List Char) :
    (ofChars (front ++ c :: back)).terms = (ofChars front).terms ++ (ofChars (c :: back)).terms :=
  scan_append_sign .plus [] hc front back

/-- With a plus between them, two texts read as the terms of the one and then those of the other. -/
lemma terms_plus (front back : List Char) :
    (ofChars (front ++ ' ' :: '+' :: ' ' :: back)).terms =
      (ofChars front).terms ++ (ofChars back).terms := by
  have hback : scan .plus [] ('+' :: ' ' :: back) = scan .plus [] back := by
    rw [scan_nil_plus, scan_blank .plus [] (by decide)]
  have hcut := scan_append_sign .plus [] (.inl rfl) front (' ' :: back)
  rw [hback] at hcut
  exact (scan_append_blank .plus [] (by decide) front _).trans hcut

/-- With a minus between them, the second reads as if it began with that minus. -/
lemma terms_minus (front back : List Char) :
    (ofChars (front ++ ' ' :: '-' :: ' ' :: back)).terms =
      (ofChars front).terms ++ (ofChars ('-' :: back)).terms := by
  have hback : scan .plus [] ('-' :: ' ' :: back) = scan .plus [] ('-' :: back) := by
    rw [scan_nil_minus, scan_nil_minus, scan_blank .minus [] (by decide)]
  have hcut := scan_append_sign .plus [] (.inr rfl) front (' ' :: back)
  rw [hback] at hcut
  exact (scan_append_blank .plus [] (by decide) front _).trans hcut

lemma toList_join (separator : String) (first next : String) (rest : List String) :
    (join separator (first :: next :: rest)).toList =
      first.toList ++ separator.toList ++ (join separator (next :: rest)).toList := by
  rw [join, String.toList_append, String.toList_append]

/-- Texts joined by pluses read as their terms in order. -/
lemma terms_join (texts : List String) :
    (parse (join " + " texts)).terms = texts.flatMap fun text => (parse text).terms := by
  induction texts with
  | nil => rfl
  | cons first rest ih =>
      cases rest with
      | nil => rw [join, List.flatMap_cons, List.flatMap_nil, List.append_nil]
      | cons next rest =>
          rw [List.flatMap_cons, ← ih, terms_parse, toList_join, List.append_assoc]
          exact terms_plus first.toList (join " + " (next :: rest)).toList

/-! ## Written numbers -/

end Formula

/-- The sign of an integer; zero counts as positive. -/
def Sign.ofInt (n : Int) : Sign :=
  if n < 0 then .minus else .plus

/-- A 32-bit integer is its magnitude under its sign. -/
lemma Sign.apply_ofInt (v : Int32) :
    (Sign.ofInt v.toInt).apply (Int32.ofNat v.toInt.natAbs) = v := by
  have hnat : ∀ n : Nat, Int32.ofNat n = Int32.ofInt n := fun n => Int32.ofInt_eq_ofNat.symm
  unfold Sign.ofInt
  split
  · rename_i hneg
    have habs : -(v.toInt.natAbs : Int) = v.toInt := by omega
    rw [Sign.apply, hnat, ← Int32.ofInt_neg, habs, Int32.ofInt_toInt]
  · rename_i hpos
    have habs : (v.toInt.natAbs : Int) = v.toInt := by omega
    rw [Sign.apply, hnat, habs, Int32.ofInt_toInt]

lemma flatTerm?_int32 (v : Int32) :
    flatTerm? (Sign.ofInt v.toInt) v.toInt.natAbs =
      if v.toInt.natAbs ≤ maxFlat then some (.flat v) else none := by
  rw [flatTerm?, Sign.apply_ofInt]

lemma pieceTerm?_digits (sign : Sign) (n : Nat) :
    pieceTerm? sign (digits n) = flatTerm? sign n := by
  have hmark : ∀ c ∈ digits n, isDieMark c = false :=
    fun c hc => isDieMark_of_isDigit (isDigit_of_mem_digits hc)
  rw [pieceTerm?_unmarked sign hmark, isNumeral_digits, numeralValue_digits, if_pos rfl]

lemma scan_written (sign : Sign) (n : Nat) :
    scan sign [] (digits n) = (flatTerm? sign n).toList := by
  rw [scan_piece sign fun c hc => isPlain_of_isDigit (isDigit_of_mem_digits hc),
    pieceTerm?_digits]

namespace Formula

/-- What a written number reads as. -/
lemma terms_intChars (n : Int) :
    (ofChars (intChars n)).terms = (flatTerm? (Sign.ofInt n) n.natAbs).toList := by
  unfold intChars Sign.ofInt
  split
  · exact (scan_nil_minus .plus _).trans (scan_written .minus _)
  · exact scan_written .plus _

/-- What a number written with its sign reads as, behind another text. -/
lemma terms_append_signedChars (front : List Char) (n : Int) :
    (ofChars (front ++ signedChars n)).terms =
      (ofChars front).terms ++ (flatTerm? (Sign.ofInt n) n.natAbs).toList := by
  unfold signedChars Sign.ofInt
  split
  · rw [terms_append_sign (.inr rfl)]
    exact congrArg _ ((scan_nil_minus .plus _).trans (scan_written .minus _))
  · rw [terms_append_sign (.inl rfl)]
    exact congrArg _ ((scan_nil_plus .plus _).trans (scan_written .plus _))

/-- A 32-bit integer within the bound of flat modifiers reads as itself. -/
lemma terms_ofInt {v : Int32} (h : v.toInt.natAbs ≤ maxFlat) :
    (parse (ofInt v.toInt)).terms = [.flat v] := by
  rw [terms_parse, toList_ofInt, terms_intChars, flatTerm?_int32, if_pos h]
  rfl

end Formula

end Tabletop.Dice
