import Tabletop.Proofs.Dice.Grammar

/-!
# Operands

A formula is a row of operands: the pieces between its signs, blanks and all, each under the last sign
in front of it.  `operands` cuts a text into them and reads nothing.

Reading goes operand by operand: the terms of a text are what its operands stand for, one by one and in
order (`terms_operands`).  So a text can be compared with another one that has the same operands but
for a few.  `operand_induction` is the induction for such comparisons: over a text without signs, and
over a text without signs in front of a sign and more text.
-/

namespace Tabletop.Dice

open Tabletop.Text

/-- A piece of a formula between two signs, and the sign that governs it. -/
structure Operand where
  sign : Sign
  text : List Char
deriving DecidableEq, Repr

/-- The operands of a text, given the sign in front of it. -/
def operands (sign : Sign) : List Char → List Operand
  | [] => [⟨sign, []⟩]
  | c :: cs =>
    if c = '+' then ⟨sign, []⟩ :: operands .plus cs
    else if c = '-' then ⟨sign, []⟩ :: operands .minus cs
    else (operands sign cs).modifyHead fun o => { o with text := c :: o.text }

/-- The term that an operand stands for, if any. -/
def Operand.term? (o : Operand) : Option Term :=
  pieceTerm? o.sign (o.text.filter fun c => !isBlank c)

/-- An operand as it is written, with its sign. -/
def Operand.written (o : Operand) : List Char :=
  o.sign.symbol :: o.text

/-- Whether a text holds no sign. -/
def Unsigned (cs : List Char) : Prop :=
  ∀ c ∈ cs, ¬IsSign c

instance : DecidablePred IsSign := fun c =>
  inferInstanceAs (Decidable (c = '+' ∨ c = '-'))

/-! ## Cutting a text -/

lemma isSign_symbol (sign : Sign) : IsSign sign.symbol := by
  cases sign with
  | plus => exact .inl rfl
  | minus => exact .inr rfl

lemma Unsigned.of_append_left {text rest : List Char} (h : Unsigned (text ++ rest)) :
    Unsigned text :=
  fun c hc => h c (List.mem_append_left _ hc)

lemma Unsigned.of_append_right {text rest : List Char} (h : Unsigned (text ++ rest)) :
    Unsigned rest :=
  fun c hc => h c (List.mem_append_right _ hc)

lemma unsigned_or_cut (cs : List Char) :
    Unsigned cs ∨ ∃ text next rest, Unsigned text ∧ cs = text ++ Sign.symbol next :: rest := by
  induction cs with
  | nil => exact .inl (List.forall_mem_nil _)
  | cons c cs ih =>
      by_cases hc : IsSign c
      · obtain ⟨next, rfl⟩ := exists_symbol_of_isSign hc
        exact .inr ⟨[], next, cs, List.forall_mem_nil _, rfl⟩
      · rcases ih with hunsigned | ⟨text, next, rest, htext, rfl⟩
        · exact .inl (List.forall_mem_cons.2 ⟨hc, hunsigned⟩)
        · exact .inr ⟨c :: text, next, rest, List.forall_mem_cons.2 ⟨hc, htext⟩, rfl⟩

/-- Induction on the operands of a text. -/
lemma operand_induction {motive : Sign → List Char → Prop}
    (last : ∀ sign text, Unsigned text → motive sign text)
    (cut : ∀ sign text next rest, Unsigned text → motive next rest →
      motive sign (text ++ next.symbol :: rest))
    (sign : Sign) (cs : List Char) : motive sign cs := by
  induction h : cs.length using Nat.strongRecOn generalizing sign cs with
  | _ n ih =>
      rcases unsigned_or_cut cs with hunsigned | ⟨text, next, rest, htext, rfl⟩
      · exact last sign cs hunsigned
      · have hlt : rest.length < n := by
          rw [List.length_append, List.length_cons] at h
          omega
        exact cut sign text next rest htext (ih _ hlt next rest rfl)

lemma operands_of_unsigned {text : List Char} (h : Unsigned text) (sign : Sign) :
    operands sign text = [⟨sign, text⟩] := by
  induction text with
  | nil => rfl
  | cons c text ih =>
      obtain ⟨hc, htext⟩ := List.forall_mem_cons.1 h
      rw [operands, if_neg fun h => hc (.inl h), if_neg fun h => hc (.inr h), ih htext,
        List.modifyHead_cons]

lemma operands_cut {text : List Char} (h : Unsigned text) (sign next : Sign) (rest : List Char) :
    operands sign (text ++ next.symbol :: rest) = ⟨sign, text⟩ :: operands next rest := by
  induction text with
  | nil => cases next <;> rfl
  | cons c text ih =>
      obtain ⟨hc, htext⟩ := List.forall_mem_cons.1 h
      rw [List.cons_append, operands, if_neg fun h => hc (.inl h), if_neg fun h => hc (.inr h),
        ih htext, List.modifyHead_cons]

/-- Nothing is lost in cutting: put together, the operands are the text, -/
lemma flatMap_written_operands (sign : Sign) (cs : List Char) :
    (operands sign cs).flatMap Operand.written = sign.symbol :: cs := by
  induction sign, cs using operand_induction with
  | last sign text htext =>
      rw [operands_of_unsigned htext, List.flatMap_singleton, Operand.written]
  | cut sign text next rest htext ih =>
      rw [operands_cut htext, List.flatMap_cons, ih, Operand.written, List.cons_append]

/-- and every sign of the text is one in front of an operand. -/
lemma unsigned_of_mem_operands {sign : Sign} {cs : List Char} {o : Operand}
    (h : o ∈ operands sign cs) : Unsigned o.text := by
  induction sign, cs using operand_induction with
  | last sign text htext =>
      rw [operands_of_unsigned htext, List.mem_singleton] at h
      exact h ▸ htext
  | cut sign text next rest htext ih =>
      rw [operands_cut htext] at h
      rcases List.mem_cons.1 h with rfl | hrest
      · exact htext
      · exact ih hrest

/-! ## Reading operand by operand -/

/-- A sign in front governs what follows. -/
lemma scan_symbol (sign next : Sign) (rest : List Char) :
    scan sign [] (next.symbol :: rest) = scan next [] rest := by
  cases next with
  | plus => exact scan_nil_plus sign rest
  | minus => exact scan_nil_minus sign rest

/-- A text without signs is one operand. -/
lemma scan_unsigned {text : List Char} (h : Unsigned text) (sign : Sign) :
    scan sign [] text = (Operand.term? ⟨sign, text⟩).toList := by
  have hplain : ∀ c ∈ text.filter fun c => !isBlank c, IsPlain c := by
    refine isPlain_of_unsigned (fun c hc => h c (List.mem_filter.1 hc).1) fun c hc => ?_
    simpa using (List.mem_filter.1 hc).2
  rw [← scan_filter_blank, scan_piece sign hplain, Operand.term?]

/-- What the operands of a text stand for, when the first is cut off. -/
lemma filterMap_operands_cut {text : List Char} (h : Unsigned text) (sign next : Sign)
    (rest : List Char) (f : Operand → Option Term) :
    (operands sign (text ++ next.symbol :: rest)).filterMap f =
      (f ⟨sign, text⟩).toList ++ (operands next rest).filterMap f := by
  rw [operands_cut h, List.filterMap_cons]
  cases f ⟨sign, text⟩ <;> rfl

lemma filterMap_operands_of_unsigned {text : List Char} (h : Unsigned text) (sign : Sign)
    (f : Operand → Option Term) : (operands sign text).filterMap f = (f ⟨sign, text⟩).toList := by
  rw [operands_of_unsigned h, List.filterMap_cons]
  cases f ⟨sign, text⟩ <;> rfl

lemma scan_operands (sign : Sign) (cs : List Char) :
    scan sign [] cs = (operands sign cs).filterMap Operand.term? := by
  induction sign, cs using operand_induction with
  | last sign text htext =>
      rw [scan_unsigned htext, filterMap_operands_of_unsigned htext]
  | cut sign text next rest htext ih =>
      rw [scan_append_sign sign [] (isSign_symbol next), scan_symbol, scan_unsigned htext, ih,
        filterMap_operands_cut htext]

/-- **The terms of a text are those of its operands.** -/
lemma terms_operands (text : String) :
    (Formula.parse text).terms = (operands .plus text.toList).filterMap Operand.term? :=
  scan_operands .plus text.toList

end Tabletop.Dice
