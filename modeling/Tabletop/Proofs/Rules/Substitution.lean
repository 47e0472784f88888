import Tabletop.Proofs.Dice.Operands
import Tabletop.Proofs.Rules.Placeholder

/-!
# What placeholders mean

Substitution rewrites text, and the text is then read with rules of its own for signs.  Together they
mean what a player expects: a placeholder that is an operand by itself counts as the modifier, under
the sign in front of it (`substituted_read`).

`StandAlone` says of a text that each of its placeholders is a whole operand, in terms of the nearest
characters that are not blank.  Cut at its signs, such a text has operands of two kinds only: a
placeholder among blanks, or no placeholder at all (`lone_or_plain`).

The proof goes along the operands.  What the pass has written is a text that ends in the last sign; an
operand of the first kind turns that sign into the sign of its value and writes the digits behind it,
one of the second kind is copied (`exists_written`).  What is in front of the last sign stays, so the
operands can be read one by one.
-/

namespace Tabletop.Rules

open Tabletop.Dice Tabletop.Sheet Tabletop.Text

/-! ## Placeholders as operands -/

/-- Whether an operand ends where a text begins: its first character that is not blank is a sign, or
there is none. -/
def EndsOperand (cs : List Char) : Prop :=
  ∀ c ∈ (cs.dropWhile isBlank).head?, IsSign c

/-- Whether every placeholder of a text is a whole operand. -/
def StandAlone (cs : List Char) : Prop :=
  ∀ before a after, PlaceholderIn cs before a after → EndsOperand before.reverse ∧ EndsOperand after

instance (cs : List Char) : Decidable (EndsOperand cs) :=
  Option.decidableForallMem (cs.dropWhile isBlank).head?

/-- The attribute of the placeholder that a text is, blanks around it aside. -/
def placeholder? (text : List Char) : Option Attribute :=
  Attribute.all.find? fun a => (trimStart (trimStart text).reverse).reverse == a.placeholder.toList

/-- An integer under a sign. -/
def times : Sign → Int → Int
  | .plus, n => n
  | .minus, n => -n

/-- The term that an operand stands for when placeholders stand for modifiers. -/
def termWith? (modifier : Attribute → Int) (o : Operand) : Option Term :=
  match placeholder? o.text with
  | some a => some (.flat (Int32.ofInt (times o.sign (modifier a))))
  | none => o.term?

variable {a : Attribute} {text cs front back rest : List Char}

lemma trim_placeholder (hfront : AllBlank front) (hback : AllBlank back) :
    (trimStart (trimStart (front ++ a.placeholder.toList ++ back)).reverse).reverse =
      a.placeholder.toList := by
  have hfirst : trimStart (front ++ a.placeholder.toList ++ back) = a.placeholder.toList ++ back := by
    rw [trimStart, List.append_assoc, List.dropWhile_append_of_pos hfront]
    cases a <;> rfl
  have hlast : trimStart (a.placeholder.toList ++ back).reverse = a.placeholder.toList.reverse := by
    rw [trimStart, List.reverse_append, List.dropWhile_append_of_pos fun c hc =>
      hback c (List.mem_reverse.1 hc)]
    cases a <;> rfl
  rw [hfirst, hlast, List.reverse_reverse]

lemma placeholder?_eq_some_iff :
    placeholder? text = some a ↔
      ∃ front back, AllBlank front ∧ AllBlank back ∧
        text = front ++ a.placeholder.toList ++ back := by
  constructor
  · intro h
    unfold placeholder? at h
    have hfound := List.find?_some h
    have htrim := beq_iff_eq.1 hfound
    refine ⟨text.takeWhile isBlank, ((trimStart text).reverse.takeWhile isBlank).reverse,
      fun c hc => List.mem_takeWhile_imp hc,
      fun c hc => List.mem_takeWhile_imp (List.mem_reverse.1 hc), ?_⟩
    rw [← htrim, trimStart, trimStart, List.append_assoc, ← List.reverse_append,
      List.takeWhile_append_dropWhile, List.reverse_reverse, List.takeWhile_append_dropWhile]
  · rintro ⟨front, back, hfront, hback, rfl⟩
    rw [placeholder?, trim_placeholder hfront hback]
    cases a <;> rfl

/-! ## Texts whose placeholders stand alone -/

/-- A placeholder takes four characters. -/
lemma length_placeholder (a : Attribute) : a.placeholder.toList.length = 4 := by
  cases a <;> rfl

/-- It is enough to look at every place of the text and at every attribute. -/
lemma standAlone_iff :
    StandAlone cs ↔ ∀ i ∈ List.range (cs.length + 1), ∀ a ∈ Attribute.all,
      PlaceholderIn cs (cs.take i) a (cs.drop (i + 4)) →
        EndsOperand (cs.take i).reverse ∧ EndsOperand (cs.drop (i + 4)) := by
  constructor
  · intro h i _ a _ hin
    exact h _ a _ hin
  · rintro h before a after ⟨rfl, hends⟩
    -- The place of a placeholder is the length of what stands in front of it.
    have htake : (before ++ a.placeholder.toList ++ after).take before.length = before := by
      rw [List.append_assoc, List.take_left]
    have hlength : before.length + 4 = (before ++ a.placeholder.toList).length := by
      rw [List.length_append, length_placeholder]
    have hdrop : (before ++ a.placeholder.toList ++ after).drop (before.length + 4) = after := by
      rw [hlength, List.drop_left]
    have hi : before.length ∈ List.range ((before ++ a.placeholder.toList ++ after).length + 1) := by
      rw [List.mem_range, List.length_append, ← hlength]
      omega
    have ha : a ∈ Attribute.all := by cases a <;> decide
    have hplace := h before.length hi a ha
    rw [htake, hdrop] at hplace
    exact hplace ⟨rfl, hends⟩

instance (cs : List Char) : Decidable (StandAlone cs) :=
  decidable_of_iff _ standAlone_iff.symm

lemma EndsOperand.of_append (h : EndsOperand (cs ++ rest)) : EndsOperand cs := by
  unfold EndsOperand at h ⊢
  rw [List.dropWhile_append] at h
  cases hdrop : cs.dropWhile isBlank with
  | nil => simp
  | cons c back =>
      rw [hdrop] at h
      simpa using h

/-- Where an operand ends before any sign, there are only blanks. -/
lemma EndsOperand.allBlank (h : EndsOperand cs) (hunsigned : Unsigned cs) : AllBlank cs := by
  rw [AllBlank, ← List.dropWhile_eq_nil_iff]
  cases hdrop : cs.dropWhile isBlank with
  | nil => rfl
  | cons c back =>
      have hmem : c ∈ cs := (List.dropWhile_suffix _).subset (hdrop ▸ List.mem_cons_self)
      have hsign : IsSign c := h c (by rw [hdrop]; rfl)
      exact absurd hsign (hunsigned c hmem)

/-- No run of capitals goes on at a sign. -/
lemma isUpper_of_mem_head?_sign (next : Sign) (rest : List Char) :
    ∀ c ∈ (next.symbol :: rest).head?, c.isUpper = false := by
  rintro _ ⟨⟩
  cases next <;> rfl

namespace StandAlone

lemma left (next : Sign) (h : StandAlone (text ++ next.symbol :: rest)) : StandAlone text := by
  rintro before a after ⟨rfl, hends⟩
  have hends' : ∀ c ∈ (after ++ next.symbol :: rest).head?, c.isUpper = false := by
    cases after with
    | nil => exact isUpper_of_mem_head?_sign next rest
    | cons c after => exact hends
  obtain ⟨hbefore, hafter⟩ := h before a (after ++ next.symbol :: rest)
    ⟨by simp only [List.append_assoc], hends'⟩
  exact ⟨hbefore, hafter.of_append⟩

lemma right (next : Sign) (h : StandAlone (text ++ next.symbol :: rest)) : StandAlone rest := by
  rintro before a after ⟨rfl, hends⟩
  obtain ⟨hbefore, hafter⟩ := h (text ++ next.symbol :: before) a after
    ⟨by simp only [List.append_assoc, List.cons_append], hends⟩
  rw [List.reverse_append, List.reverse_cons, List.append_assoc] at hbefore
  exact ⟨hbefore.of_append, hafter⟩

/-- Each operand is a text of the same kind. -/
lemma of_mem_operands {sign : Sign} {o : Operand} (h : StandAlone cs) (ho : o ∈ operands sign cs) :
    StandAlone o.text := by
  induction sign, cs using operand_induction with
  | last sign text htext =>
      rw [operands_of_unsigned htext, List.mem_singleton] at ho
      exact ho ▸ h
  | cut sign text next rest htext ih =>
      rw [operands_cut htext] at ho
      rcases List.mem_cons.1 ho with rfl | hrest
      · exact h.left next
      · exact ih (h.right next) hrest

end StandAlone

/-- An operand is a placeholder among blanks, or holds no placeholder. -/
lemma lone_or_plain (hunsigned : Unsigned text) (h : StandAlone text) :
    (∃ (a : Attribute) (front back : List Char), AllBlank front ∧ AllBlank back ∧
      text = front ++ a.placeholder.toList ++ back) ∨ ¬HasPlaceholder text := by
  by_cases hplaceholder : HasPlaceholder text
  · obtain ⟨before, a, after, hin⟩ := hplaceholder
    obtain ⟨hbefore, hafter⟩ := h before a after hin
    have hparts : Unsigned (before ++ a.placeholder.toList ++ after) := hin.text_eq ▸ hunsigned
    have hfront := hparts.of_append_left.of_append_left
    have hblank := hbefore.allBlank fun c hc => hfront c (List.mem_reverse.1 hc)
    exact .inl ⟨a, before, after, fun c hc => hblank c (List.mem_reverse.2 hc),
      hafter.allBlank hparts.of_append_right, hin.text_eq⟩
  · exact .inr hplaceholder

/-- So it is for each operand of a text whose placeholders stand alone. -/
lemma lone_or_plain_of_mem {sign : Sign} {o : Operand} (h : StandAlone cs)
    (ho : o ∈ operands sign cs) :
    (∃ a, placeholder? o.text = some a) ∨ ¬HasPlaceholder o.text := by
  rcases lone_or_plain (unsigned_of_mem_operands ho) (h.of_mem_operands ho) with
    ⟨a, front, back, hfront, hback, htext⟩ | hplain
  · exact .inl ⟨a, placeholder?_eq_some_iff.2 ⟨front, back, hfront, hback, htext⟩⟩
  · exact .inr hplain

/-! ## What the pass writes for an operand -/

lemma isUpper_of_isBlank {c : Char} (h : isBlank c = true) : c.isUpper = false := by
  rw [← Bool.not_eq_true]
  intro hupper
  have hcapital : 65 ≤ c.val ∧ c.val ≤ 90 := of_decide_eq_true hupper
  have hge : 65 ≤ c.toNat := UInt32.le_iff_toNat_le.1 hcapital.1
  have hle : c.toNat ≤ 90 := UInt32.le_iff_toNat_le.1 hcapital.2
  simp only [isBlank, Bool.or_eq_true, Bool.and_eq_true, decide_eq_true_eq, beq_iff_eq] at h
  omega

lemma not_hasPlaceholder_of_allBlank (h : AllBlank cs) : ¬HasPlaceholder cs :=
  fun hplaceholder => absurd (h _ hplaceholder.mem) (by decide)

/-- The sign of a modifier under a sign; zero goes with the sign. -/
def foldedSign (sign : Sign) (value : Int) : Sign :=
  match sign with
  | .plus => Sign.ofInt value
  | .minus => if value < 0 then .plus else .minus

section Written

variable (modifier : Attribute → Int) (written : List Char)

/-- A placeholder among blanks: the modifier is put behind the blanks in front of it. -/
lemma substituteFrom_lone (hfront : AllBlank front) (hback : AllBlank back)
    (hends : ∀ c ∈ rest.head?, c.isUpper = false) :
    substituteFrom modifier written (front ++ a.placeholder.toList ++ back ++ rest) =
      substituteFrom modifier
        (back.reverse ++ putModifier (modifier a) (front.reverse ++ written)) rest := by
  have hback_ends : ∀ c ∈ (back ++ rest).head?, c.isUpper = false := by
    cases back with
    | nil => exact hends
    | cons c back =>
        rintro _ ⟨⟩
        exact isUpper_of_isBlank (hback c List.mem_cons_self)
  have hfront_ends := isUpper_of_mem_head?_placeholder a (back ++ rest)
  rw [List.append_assoc, List.append_assoc,
    substituteFrom_plain _ _ (not_hasPlaceholder_of_allBlank hfront) hfront_ends,
    substituteFrom_placeholder _ _ hback_ends,
    substituteFrom_plain _ _ (not_hasPlaceholder_of_allBlank hback) hends]

lemma putModifier_allBlank (h : AllBlank written) (value : Int) :
    putModifier value written = (intChars value).reverse ++ written := by
  rw [putModifier, List.dropWhile_eq_nil_iff.2 h]

/-- A sign in front of blanks is taken back and folded into the modifier. -/
lemma putModifier_sign (hfront : AllBlank front) (value : Int) (sign : Sign) :
    putModifier value (front ++ sign.symbol :: written) =
      (digits value.natAbs).reverse ++ (foldedSign sign value).symbol :: written := by
  have hsign : isBlank sign.symbol = false := by cases sign <;> decide
  have hdrop : (front ++ sign.symbol :: written).dropWhile isBlank = sign.symbol :: written := by
    rw [List.dropWhile_append_of_pos hfront, List.dropWhile_cons_of_neg (by simp [hsign])]
  rw [putModifier, hdrop]
  dsimp only
  rw [if_pos (show sign.symbol = '+' ∨ sign.symbol = '-' from isSign_symbol sign)]
  by_cases hneg : value < 0 <;> cases sign <;> simp [foldedSign, Sign.ofInt, Sign.symbol, hneg]

end Written

/-- At a sign the pass starts anew: what is in front of it stays as it is written. -/
lemma substituteFrom_sign (modifier : Attribute → Int) (written : List Char) (next : Sign)
    (rest : List Char) :
    substituteFrom modifier written (next.symbol :: rest) =
      written.reverse ++ substituteFrom modifier [next.symbol] rest := by
  have hat : next.symbol ≠ '@' := by cases next <;> decide
  have hblank : ¬AllBlank [next.symbol] :=
    not_allBlank_of_mem (List.mem_singleton_self _) (by cases next <;> decide)
  rw [substituteFrom_other _ _ hat]
  exact substituteFrom_append modifier hblank written rest

/-! ## What is read of it -/

lemma filter_trim (hfront : AllBlank front) (hback : AllBlank back) :
    (front ++ cs ++ back).filter (fun c => !isBlank c) = cs.filter fun c => !isBlank c := by
  have hnone : ∀ {blanks : List Char}, AllBlank blanks →
      blanks.filter (fun c => !isBlank c) = [] := by
    intro blanks h
    rw [List.filter_eq_nil_iff]
    exact fun c hc => by simp [h c hc]
  rw [List.filter_append, List.filter_append, hnone hfront, hnone hback, List.nil_append,
    List.append_nil]

lemma scan_trim (hfront : AllBlank front) (hback : AllBlank back) (sign : Sign) :
    scan sign [] (front ++ cs ++ back) = scan sign [] cs := by
  rw [← scan_filter_blank, filter_trim hfront hback, scan_filter_blank]

/-- A placeholder that is not replaced stands for nothing. -/
lemma term?_of_placeholder {o : Operand} (h : placeholder? o.text = some a) : o.term? = none := by
  obtain ⟨front, back, hfront, hback, htext⟩ := placeholder?_eq_some_iff.1 h
  rw [Operand.term?, htext, filter_trim hfront hback]
  cases a <;> rfl

/-- The digits of a modifier, under the sign it is folded with, are the modifier under the sign in
front of the placeholder. -/
lemma flatTerm?_foldedSign (sign : Sign) {value : Int} (h : value.natAbs ≤ maxFlat) :
    flatTerm? (foldedSign sign value) value.natAbs =
      some (.flat (Int32.ofInt (times sign value))) := by
  have hnat : ∀ n : Nat, Int32.ofNat n = Int32.ofInt n := fun n => Int32.ofInt_eq_ofNat.symm
  have happly : (foldedSign sign value).apply (Int32.ofNat value.natAbs) =
      Int32.ofInt (times sign value) := by
    by_cases hneg : value < 0
    · have habs : (value.natAbs : Int) = -value := by omega
      cases sign <;> simp [foldedSign, Sign.ofInt, hneg, Sign.apply, times, hnat, habs]
    · have habs : (value.natAbs : Int) = value := by omega
      cases sign <;> simp [foldedSign, Sign.ofInt, hneg, Sign.apply, times, hnat, habs]
  rw [flatTerm?, if_pos h, happly]

section Operands

variable {modifier : Attribute → Int} (hbound : ∀ a, (modifier a).natAbs ≤ maxFlat)

lemma termWith?_lone (hfront : AllBlank front) (hback : AllBlank back) (sign : Sign) :
    termWith? modifier ⟨sign, front ++ a.placeholder.toList ++ back⟩ =
      some (.flat (Int32.ofInt (times sign (modifier a)))) := by
  have hplaceholder : placeholder? (front ++ a.placeholder.toList ++ back) = some a :=
    placeholder?_eq_some_iff.2 ⟨front, back, hfront, hback, rfl⟩
  rw [termWith?, hplaceholder]

lemma termWith?_plain (h : ¬HasPlaceholder text) (sign : Sign) :
    termWith? modifier ⟨sign, text⟩ = Operand.term? ⟨sign, text⟩ := by
  have hnone : placeholder? text = none := by
    rw [Option.eq_none_iff_forall_ne_some]
    intro a hplaceholder
    obtain ⟨front, back, -, hback, rfl⟩ := placeholder?_eq_some_iff.1 hplaceholder
    refine h ⟨front, a, back, rfl, fun c hc => ?_⟩
    exact isUpper_of_isBlank (hback c (List.mem_of_head? hc))
  rw [termWith?, hnone]

include hbound

/-- The first operand of a text has no sign in front of it. -/
lemma exists_written_first (hunsigned : Unsigned text) (halone : StandAlone text) :
    ∃ written,
      (∀ rest : List Char, (∀ c ∈ rest.head?, c.isUpper = false) →
        substituteFrom modifier [] (text ++ rest) = substituteFrom modifier written rest) ∧
      scan .plus [] written.reverse = (termWith? modifier ⟨.plus, text⟩).toList := by
  rcases lone_or_plain hunsigned halone with ⟨a, front, back, hfront, hback, rfl⟩ | hplain
  · have hblank : AllBlank (front.reverse ++ []) := fun c hc => hfront c (by simpa using hc)
    refine ⟨back.reverse ++ ((intChars (modifier a)).reverse ++ front.reverse), fun rest hrest => ?_,
      ?_⟩
    · rw [substituteFrom_lone _ _ hfront hback hrest, putModifier_allBlank _ hblank,
        List.append_nil]
    · have hread := Formula.terms_intChars (modifier a)
      simp only [List.reverse_append, List.reverse_reverse]
      rw [scan_trim hfront hback, termWith?_lone hfront hback]
      exact hread.trans (congrArg _ (flatTerm?_foldedSign .plus (hbound a)))
  · refine ⟨text.reverse, fun rest hrest => ?_, ?_⟩
    · rw [substituteFrom_plain _ _ hplain hrest, List.append_nil]
    · rw [List.reverse_reverse, scan_unsigned hunsigned, termWith?_plain hplain]

/-- Any other operand may change the sign in front of it. -/
lemma exists_written (hunsigned : Unsigned text) (halone : StandAlone text) (sign : Sign) :
    ∃ (folded : Sign) (written : List Char),
      (∀ rest : List Char, (∀ c ∈ rest.head?, c.isUpper = false) →
        substituteFrom modifier [sign.symbol] (text ++ rest) =
          substituteFrom modifier (written ++ [folded.symbol]) rest) ∧
      scan folded [] written.reverse = (termWith? modifier ⟨sign, text⟩).toList := by
  -- An operand is a placeholder among blanks, whose modifier takes part in the sign, or it has none
  -- and is copied.
  rcases lone_or_plain hunsigned halone with ⟨a, front, back, hfront, hback, rfl⟩ | hplain
  · have hblank : AllBlank front.reverse := fun c hc => hfront c (List.mem_reverse.1 hc)
    have hnone : AllBlank [] := List.forall_mem_nil _
    refine ⟨foldedSign sign (modifier a), back.reverse ++ (digits (modifier a).natAbs).reverse,
      fun rest hrest => ?_, ?_⟩
    · rw [substituteFrom_lone _ _ hfront hback hrest, putModifier_sign _ hblank, List.append_assoc]
    · calc scan (foldedSign sign (modifier a)) []
            (back.reverse ++ (digits (modifier a).natAbs).reverse).reverse
        _ = scan (foldedSign sign (modifier a)) [] ([] ++ digits (modifier a).natAbs ++ back) := by
            rw [List.reverse_append, List.reverse_reverse, List.reverse_reverse, List.nil_append]
        _ = scan (foldedSign sign (modifier a)) [] (digits (modifier a).natAbs) :=
            scan_trim hnone hback _
        _ = (flatTerm? (foldedSign sign (modifier a)) (modifier a).natAbs).toList :=
            scan_written _ _
        _ = (termWith? modifier ⟨sign, front ++ a.placeholder.toList ++ back⟩).toList := by
            rw [flatTerm?_foldedSign sign (hbound a), termWith?_lone hfront hback]
  · refine ⟨sign, text.reverse, fun rest hrest => substituteFrom_plain _ _ hplain hrest, ?_⟩
    rw [List.reverse_reverse, scan_unsigned hunsigned, termWith?_plain hplain]

/-- From a sign on, a substituted text begins with a sign, and reads as its operands. -/
lemma exists_read_from_sign (sign : Sign) (cs : List Char) (h : StandAlone cs) :
    ∃ (folded : Sign) (tail : List Char),
      substituteFrom modifier [sign.symbol] cs = folded.symbol :: tail ∧
      scan folded [] tail = (operands sign cs).filterMap (termWith? modifier) := by
  -- By induction on the operands.  The sign in force goes into the statement, because writing an
  -- operand may change the sign that has been written in front of it.
  induction sign, cs using operand_induction with
  | last sign text htext =>
      obtain ⟨folded, written, hwritten, hread⟩ := exists_written hbound htext h sign
      refine ⟨folded, written.reverse, ?_, ?_⟩
      · have hend := hwritten [] (by simp)
        rw [List.append_nil, substituteFrom, List.reverse_append] at hend
        exact hend
      · rw [hread, filterMap_operands_of_unsigned htext]
  | cut sign text next rest htext ih =>
      obtain ⟨folded, written, hwritten, hread⟩ := exists_written hbound htext (h.left next) sign
      obtain ⟨folded', tail, htail, hrest⟩ := ih (h.right next)
      refine ⟨folded, written.reverse ++ folded'.symbol :: tail, ?_, ?_⟩
      · rw [hwritten _ (isUpper_of_mem_head?_sign next rest),
          substituteFrom_sign, htail, List.reverse_append]
        rfl
      · rw [scan_append_sign folded [] (isSign_symbol folded'), scan_symbol, hread, hrest,
          filterMap_operands_cut htext]

/-- The terms of a substituted text are those of its operands, with placeholders for modifiers. -/
lemma scan_substituteFrom (h : StandAlone cs) :
    scan .plus [] (substituteFrom modifier [] cs) =
      (operands .plus cs).filterMap (termWith? modifier) := by
  rcases unsigned_or_cut cs with hunsigned | ⟨text, next, rest, htext, rfl⟩
  · obtain ⟨written, hwritten, hread⟩ := exists_written_first hbound hunsigned h
    have hend := hwritten [] (by simp)
    rw [List.append_nil, substituteFrom] at hend
    rw [hend, hread, filterMap_operands_of_unsigned hunsigned]
  · obtain ⟨written, hwritten, hread⟩ := exists_written_first hbound htext (h.left next)
    obtain ⟨folded, tail, htail, hrest⟩ := exists_read_from_sign hbound next rest (h.right next)
    rw [hwritten _ (isUpper_of_mem_head?_sign next rest), substituteFrom_sign,
      htail, scan_append_sign .plus [] (isSign_symbol folded), scan_symbol, hread, hrest,
      filterMap_operands_cut htext]

end Operands

/-! ## Substituted formulas -/

/-- The modifiers of a character are far below what a formula may hold. -/
lemma natAbs_modifier_le (c : Character) (a : Attribute) : (c.modifier a).natAbs ≤ maxFlat := by
  have hscore : ∀ score : UInt8, (scoreModifier score).natAbs ≤ maxFlat := by
    intro score
    have hlt := score.toNat_lt
    rw [scoreModifier, Int.fdiv_eq_ediv_of_nonneg _ (by decide), maxFlat]
    omega
  exact hscore _

/-- An integer within the bound of a flat modifier is the same in 32 bits, under either sign. -/
lemma toInt_times {n : Int} (h : n.natAbs ≤ maxFlat) (sign : Sign) :
    (Int32.ofInt (times sign n)).toInt = times sign n := by
  unfold maxFlat at h
  apply Int32.toInt_ofInt_of_le <;> cases sign <;> simp only [times] <;> omega

/-- **Placeholders mean modifiers.**  When each placeholder of a formula is a whole operand, the
substituted formula reads as the formula does, operand by operand, except that a placeholder is the
flat modifier of the character under the sign in front of it, where it was nothing before. -/
theorem substituted_read (c : Character) (formula : String) (h : StandAlone formula.toList) :
    let os := operands .plus formula.toList
    (os.flatMap Operand.written = '+' :: formula.toList ∧ ∀ o ∈ os, Unsigned o.text) ∧
    (∀ o ∈ os, (∃ a, placeholder? o.text = some a) ∨ ¬HasPlaceholder o.text) ∧
    (Formula.parse formula).terms = os.filterMap Operand.term? ∧
    (Formula.parse (substitute formula c)).terms = os.filterMap (termWith? c.modifier) ∧
    (∀ o ∈ os, ∀ a, placeholder? o.text = some a → o.term? = none ∧
      ∃ value : Int32, value.toInt = times o.sign (c.modifier a) ∧
        termWith? c.modifier o = some (.flat value)) ∧
    ∀ o ∈ os, ¬HasPlaceholder o.text → termWith? c.modifier o = o.term? := by
  intro os
  have hbound := natAbs_modifier_le c
  refine ⟨⟨flatMap_written_operands .plus _, fun o ho => unsigned_of_mem_operands ho⟩,
    fun o ho => lone_or_plain_of_mem h ho, terms_operands formula, ?_, ?_, ?_⟩
  · have hread := scan_substituteFrom hbound h
    rw [Formula.parse, substitute, String.toList_ofList]
    exact hread
  · intro o _ a ha
    refine ⟨term?_of_placeholder ha, _, toInt_times (hbound a) o.sign, ?_⟩
    rw [termWith?, ha]
  · exact fun o _ hplain => termWith?_plain hplain o.sign

/-- Scores far out of bounds, and a formula with a modifier of each sign under several signs. -/
theorem substituted_read_signs :
    let c : Character :=
      { Character.new ⟨⟨1⟩⟩ "Roland" .fighter with attributes := ⟨255, 0, 14, 10, 12, 8⟩ }
    let formula := "@DEX - @CHA +-  @STR+1d6 - @INT\t"
    StandAlone formula.toList ∧
    (Formula.parse (substitute formula c)).terms =
      [.flat (-5), .flat 1, .flat (-122), .dice ⟨1, 6, .plus⟩, .flat 0] := by
  intro c formula
  have halone : StandAlone formula.toList := by decide +kernel
  obtain ⟨-, -, -, hterms, -⟩ := substituted_read c formula halone
  refine ⟨halone, hterms.trans ?_⟩
  decide +kernel

end Tabletop.Rules
