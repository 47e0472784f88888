import Mathlib.Data.List.DropRight
import Tabletop.Json.Parser
import Tabletop.Json.Printer
import Tabletop.Proofs.Text.Numerals

/-!
# Documents read back

An indented document is read back as the value it was written from (`parse?_pretty`).  That is not
so for every value: the reader gives up on containers that are nested too deeply and takes no number
for an integer that it could not hold as a double.  `Writable` bounds both, and leaves out what is no
value at all.

The reader is bounded by a number of steps, for which the length of the text is enough.  So the
statement that carries the induction, `ReadsBack`, is about every text that goes on after a value and
every bound that is not less than the length of the value.
-/

namespace Tabletop.Json

open Tabletop.Text

/-- A value that can be written and read back: without unreadable parts and numbers that are no
integers, its integers of at most 64 bits, and containers nested no deeper than `height`. -/
inductive Writable : Nat → Json → Prop
  | null (height : Nat) : Writable height .null
  | bool (height : Nat) (b : Bool) : Writable height (.bool b)
  | int (height : Nat) {n : Int} (bound : n.natAbs < 2 ^ 64) : Writable height (.int n)
  | str (height : Nat) (s : String) : Writable height (.str s)
  | arr {height : Nat} {items : List Json} (each : ∀ item ∈ items, Writable height item) :
    Writable (height + 1) (.arr items)
  | obj {height : Nat} {members : List (String × Json)}
    (each : ∀ member ∈ members, Writable height member.2) : Writable (height + 1) (.obj members)

/-! ## Strings -/

/-- A unit below the surrogates stands for the character with its number. -/
lemma assemble?_unit {n : Nat} (h : n < 0xD800) (pieces : List StringPiece) :
    assemble? (.unit n :: pieces) = (assemble? pieces).map (Char.ofNat n :: ·) := by
  have hhigh : isHighSurrogate n = false := by
    simp only [isHighSurrogate, Bool.and_eq_false_iff, decide_eq_false_iff_not]
    omega
  have hlow : isLowSurrogate n = false := by
    simp only [isLowSurrogate, Bool.and_eq_false_iff, decide_eq_false_iff_not]
    omega
  cases pieces with
  | nil => simp [assemble?, hhigh, hlow]
  | cons piece pieces => cases piece <;> simp [assemble?, hhigh, hlow]

/-- An escaped character is one piece of a string, and stands for that character. -/
lemma exists_piece_escapeChar (c : Char) {cs rest : List Char} {pieces : List StringPiece}
    (h : stringPieces cs = some (pieces, rest)) :
    ∃ piece, stringPieces (escapeChar c ++ cs) = some (piece :: pieces, rest) ∧
      assemble? (piece :: pieces) = (assemble? pieces).map (c :: ·) := by
  -- The pieces for the letters that a backslash may escape differ only in the letter.
  have hletter : ∀ e d, escapedChar? e = some d → e ≠ 'u' →
      stringPieces ('\\' :: e :: cs) = some (.char d :: pieces, rest) := by
    intro e d he hu
    rw [stringPieces.eq_4 _ _ fun _ _ _ _ _ hu' => absurd hu' hu]
    simp [he, h]
  unfold escapeChar
  split
  · rename_i hc
    exact ⟨.char c, hc ▸ hletter '"' '"' rfl (by decide), assemble?.eq_2 c pieces⟩
  split
  · rename_i hc
    exact ⟨.char c, hc ▸ hletter '\\' '\\' rfl (by decide), assemble?.eq_2 c pieces⟩
  split
  · rename_i hc
    exact ⟨.char c, hc ▸ hletter 'n' '\n' rfl (by decide), assemble?.eq_2 c pieces⟩
  split
  · rename_i hc
    exact ⟨.char c, hc ▸ hletter 'r' '\r' rfl (by decide), assemble?.eq_2 c pieces⟩
  split
  · rename_i hc
    exact ⟨.char c, hc ▸ hletter 't' '\t' rfl (by decide), assemble?.eq_2 c pieces⟩
  split
  · rename_i hc
    obtain rfl : c = '\x08' := Char.toNat_inj.1 hc
    exact ⟨.char '\x08', hletter 'b' '\x08' rfl (by decide), assemble?.eq_2 _ pieces⟩
  split
  · rename_i hc
    obtain rfl : c = '\x0c' := Char.toNat_inj.1 hc
    exact ⟨.char '\x0c', hletter 'f' '\x0c' rfl (by decide), assemble?.eq_2 _ pieces⟩
  split
  · rename_i hc
    -- A control character has a code of at most two hexadecimal digits.
    have hdigits : fourDigits? '0' '0' (Nat.digitChar (c.toNat / 16))
        (Nat.digitChar (c.toNat % 16)) = some c.toNat := by
      have hvalue : c.toNat / 16 * 16 + c.toNat % 16 = c.toNat := by omega
      have hzero : hexValue? '0' = some 0 := rfl
      simp [fourDigits?, hzero, hexValue?_digitChar (n := c.toNat / 16) (by omega),
        hexValue?_digitChar (n := c.toNat % 16) (by omega), hvalue]
    refine ⟨.unit c.toNat, ?_, ?_⟩
    · simp [stringPieces.eq_3, hdigits, h]
    · rw [assemble?_unit (by omega), Char.ofNat_toNat]
  · rename_i hquote hslash _ _ _ _ _ hcontrol
    -- What is left is neither a quote nor a backslash nor a control character, so it stands for
    -- itself.
    refine ⟨.char c, ?_, assemble?.eq_2 c pieces⟩
    rw [List.singleton_append, stringPieces.eq_5 c cs (fun hc => hquote hc)
      (fun _ _ _ _ _ hc => absurd hc hslash) fun _ _ hc => absurd hc hslash]
    simp [hcontrol, h]

lemma exists_pieces (cs rest : List Char) :
    ∃ pieces, stringPieces (cs.flatMap escapeChar ++ '"' :: rest) = some (pieces, rest) ∧
      assemble? pieces = some cs := by
  induction cs with
  | nil => exact ⟨[], stringPieces.eq_2 rest, rfl⟩
  | cons c cs ih =>
      obtain ⟨pieces, hpieces, hassemble⟩ := ih
      obtain ⟨piece, hpiece, hcons⟩ := exists_piece_escapeChar c hpieces
      refine ⟨piece :: pieces, ?_, ?_⟩
      · rw [List.flatMap_cons, List.append_assoc, hpiece]
      · rw [hcons, hassemble, Option.map_some]

/-- A written string is read back. -/
lemma string?_written (s : String) (rest : List Char) :
    string? (s.toList.flatMap escapeChar ++ '"' :: rest) = some (some s, rest) := by
  obtain ⟨pieces, hpieces, hassemble⟩ := exists_pieces s.toList rest
  simp [string?, hpieces, hassemble]

/-! ## Numbers -/

/-- What may stand behind a value: nothing, a comma or a new line. -/
def IsTail (rest : List Char) : Prop :=
  ∀ c ∈ rest.head?, c = ',' ∨ c = '\n'

lemma isTail_nil : IsTail [] := nofun

lemma isTail_comma (rest : List Char) : IsTail (',' :: rest) := by
  rintro c ⟨⟩
  exact .inl rfl

lemma isTail_newLine (level : Nat) (rest : List Char) : IsTail (newLine level ++ rest) := by
  rintro c ⟨⟩
  exact .inr rfl

section Number

variable {rest : List Char}

lemma digitRun_append {cs : List Char} (h : ∀ c ∈ cs, c.isDigit = true) (hrest : IsTail rest) :
    digitRun (cs ++ rest) = (cs, rest) := by
  have hnone : rest.takeWhile Char.isDigit = [] ∧ rest.dropWhile Char.isDigit = rest := by
    cases rest with
    | nil => exact ⟨rfl, rfl⟩
    | cons c rest =>
        have hc : c.isDigit = false := by
          rcases hrest c rfl with rfl | rfl <;> rfl
        simp [hc]
  rw [digitRun, List.takeWhile_append_of_pos h, List.dropWhile_append_of_pos h, hnone.1, hnone.2,
    List.append_nil]

lemma integerDigits?_digits (n : Nat) (hrest : IsTail rest) :
    integerDigits? (digits n ++ rest) = some (digits n, rest) := by
  by_cases hn : n = 0
  · subst hn
    rfl
  -- The digits of any other number do not start with a zero, so the reader takes all of them.
  · have hrun : digitRun (digits n ++ rest) = (digits n, rest) :=
      digitRun_append (fun c hc => isDigit_of_mem_digits hc) hrest
    obtain ⟨c, cs, hdigits⟩ : ∃ c cs, digits n = c :: cs :=
      List.exists_cons_of_ne_nil Nat.toDigits_ne_nil
    have hc : c ≠ '0' := by
      rintro rfl
      exact digits_ne_zero_cons hn cs hdigits
    rw [hdigits, List.cons_append] at hrun ⊢
    unfold integerDigits?
    split
    · rename_i h
      exact absurd (List.cons.inj h).1 hc
    · rw [hrun]
      rfl

lemma fractionDigits?_tail (hrest : IsTail rest) : fractionDigits? rest = some (none, rest) := by
  cases rest with
  | nil => rfl
  | cons c rest => rcases hrest c rfl with rfl | rfl <;> rfl

lemma exponent?_tail (hrest : IsTail rest) : exponent? rest = some (none, rest) := by
  cases rest with
  | nil => rfl
  | cons c rest => rcases hrest c rfl with rfl | rfl <;> rfl

lemma leadingDigits_of_lt (cs : List Char) (n : Nat)
    (h : cs.foldl (fun n c => 10 * n + (c.toNat - '0'.toNat)) n < 1 <<< 64) :
    leadingDigits n cs = (cs.foldl (fun n c => 10 * n + (c.toNat - '0'.toNat)) n, 0) := by
  induction cs generalizing n with
  | nil => rfl
  | cons c cs ih =>
      have hle := le_foldl_digits cs (10 * n + (c.toNat - '0'.toNat))
      have hnext : 10 * n + (c.toNat - '0'.toNat) < 1 <<< 64 := Nat.lt_of_le_of_lt hle h
      rw [leadingDigits, if_pos hnext]
      exact ih _ h

/-- Rounding to 53 bits at most doubles a number. -/
lemma nearestDouble_le (n : Nat) : nearestDouble n ≤ 2 * n := by
  by_cases hn : n = 0
  · subst hn
    decide
  · have hunit : 1 <<< (n.log2 - 52) ≤ n := by
      rw [Nat.one_shiftLeft]
      exact Nat.le_trans (Nat.pow_le_pow_right (by decide) (Nat.sub_le _ _)) (Nat.log2_self_le hn)
    have hquotient : n / 1 <<< (n.log2 - 52) * 1 <<< (n.log2 - 52) ≤ n := Nat.div_mul_le_self _ _
    unfold nearestDouble
    dsimp only
    split
    · rw [Nat.add_mul, Nat.one_mul]
      omega
    · omega

/-- No number of 64 bits is beyond the doubles. -/
lemma isBeyondDoubles_digits {n : Nat} (h : n < 2 ^ 64) :
    isBeyondDoubles (digits n) [] 0 = false := by
  have hleading : leadingDigits 0 (digits n) = (n, 0) := by
    have hvalue := numeralValue_digits n
    rw [numeralValue] at hvalue
    rw [leadingDigits_of_lt _ _ (by rw [hvalue]; exact h), hvalue]
  have hone : nearestDouble (tenTo 0) = 1 := by decide
  have hbound : 2 ^ 65 ≤ doubleBound := by decide +kernel
  have hnearest := nearestDouble_le n
  have hproduct : ¬ doubleBound ≤ nearestDouble n * nearestDouble (tenTo 0) := by
    rw [hone]
    omega
  simp [isBeyondDoubles, hleading, leadingDigits, hproduct]

lemma number?_of_start (negative : Bool) {n : Nat} {cs : List Char}
    (hhead : (cs.head? == some '-') = negative)
    (hstart : (if negative then cs.drop 1 else cs) = digits n ++ rest)
    (hzero : negative = true → n ≠ 0) (hn : n < 2 ^ 64) (hrest : IsTail rest) :
    number? cs = some (.int (if negative then -n else n), rest) := by
  have hplain : (negative && digits n == ['0']) = false := by
    cases negative with
    | false => rfl
    | true => simpa using digits_ne_zero_cons (hzero rfl) []
  unfold number?
  simp only [hhead, hstart, integerDigits?_digits n hrest, fractionDigits?_tail hrest,
    exponent?_tail hrest, Option.bind_eq_bind, Option.bind_some, Option.getD_none,
    isBeyondDoubles_digits hn, Option.isSome_none, Bool.false_or, hplain, numeralValue_digits]
  rfl

/-- A written integer of at most 64 bits is read back. -/
lemma number?_intChars {n : Int} (hn : n.natAbs < 2 ^ 64) (hrest : IsTail rest) :
    number? (intChars n ++ rest) = some (.int n, rest) := by
  unfold intChars
  split
  · rename_i hneg
    have habs : (-(n.natAbs : Int)) = n := by omega
    rw [List.cons_append, number?_of_start true rfl rfl (fun _ => by omega) hn hrest, if_pos rfl,
      habs]
  · rename_i hpos
    have habs : (n.natAbs : Int) = n := by omega
    -- Without a minus the number starts with a digit, so that no sign is taken off.
    have hhead : ((digits n.natAbs ++ rest).head? == some '-') = false := by
      obtain ⟨c, cs, hdigits⟩ : ∃ c cs, digits n.natAbs = c :: cs :=
        List.exists_cons_of_ne_nil Nat.toDigits_ne_nil
      have hc : c.isDigit = true := isDigit_of_mem_digits (hdigits ▸ List.mem_cons_self)
      rw [hdigits]
      refine beq_eq_false_iff_ne.2 ?_
      rintro ⟨⟩
      simp at hc
    rw [number?_of_start false hhead rfl nofun hn hrest, if_neg Bool.false_ne_true, habs]

end Number

/-! ## Blanks -/

lemma skipBlanks_skipBlanks (cs : List Char) : skipBlanks (skipBlanks cs) = skipBlanks cs :=
  List.dropWhile_idempotent _ cs

lemma skipBlanks_newLine (level : Nat) (cs : List Char) :
    skipBlanks (newLine level ++ cs) = skipBlanks cs := by
  unfold skipBlanks newLine
  refine List.dropWhile_append_of_pos fun c hc => ?_
  rcases List.mem_cons.1 hc with rfl | hc
  · rfl
  · rw [List.eq_of_mem_replicate hc]
    rfl

section Blanks

variable (fuel depth : Nat) (cs : List Char)

lemma value?_skipBlanks : value? fuel depth (skipBlanks cs) = value? fuel depth cs := by
  cases fuel with
  | zero => rw [value?.eq_1, value?.eq_1]
  | succ fuel => rw [value?.eq_2, value?.eq_2, skipBlanks_skipBlanks]

lemma items?_skipBlanks : items? fuel depth (skipBlanks cs) = items? fuel depth cs := by
  cases fuel with
  | zero => rw [items?.eq_1, items?.eq_1]
  | succ fuel => rw [items?.eq_2, items?.eq_2, value?_skipBlanks]

lemma members?_skipBlanks : members? fuel depth (skipBlanks cs) = members? fuel depth cs := by
  cases fuel with
  | zero => rw [members?.eq_1, members?.eq_1]
  | succ fuel => rw [members?.eq_2, members?.eq_2, skipBlanks_skipBlanks]

lemma value?_newLine (level : Nat) :
    value? fuel depth (newLine level ++ cs) = value? fuel depth cs := by
  rw [← value?_skipBlanks, skipBlanks_newLine, value?_skipBlanks]

lemma value?_space : value? fuel depth (' ' :: cs) = value? fuel depth cs := by
  rw [← value?_skipBlanks, ← value?_skipBlanks _ _ cs]
  rfl

end Blanks

/-! ## Containers -/

section Container

variable {fuel depth : Nat} {cs rest : List Char}

/-- No item is read where an array is closed. -/
lemma items?_of_closed (h : skipBlanks cs = ']' :: rest) : items? fuel depth cs = none := by
  rw [← items?_skipBlanks, h]
  cases fuel with
  | zero => rw [items?.eq_1]
  | succ fuel =>
      rw [items?.eq_2]
      cases fuel with
      | zero => rw [value?.eq_1]; rfl
      | succ fuel =>
          rw [value?.eq_2]
          rfl

lemma members?_of_closed (h : skipBlanks cs = '\x7d' :: rest) : members? fuel depth cs = none := by
  cases fuel with
  | zero => rw [members?.eq_1]
  | succ fuel =>
      rw [members?.eq_2, h]
      rfl

lemma value?_quote (fuel depth : Nat) (cs : List Char) :
    value? (fuel + 1) depth ('"' :: cs) =
      (string? cs).map fun (s, rest) =>
        (match s with | some s => .str s | none => .unreadable, rest) := by
  rw [value?.eq_2]
  rfl

lemma value?_bracket (fuel depth : Nat) (cs : List Char) :
    value? (fuel + 1) depth ('[' :: cs) =
      match skipBlanks cs with
      | ']' :: rest => some (atDepth depth (.arr []), rest)
      | rest => (items? fuel (depth + 1) rest).map fun (items, rest) =>
        (atDepth depth (.arr items), rest) := by
  rw [value?.eq_2]
  rfl

lemma value?_brace (fuel depth : Nat) (cs : List Char) :
    value? (fuel + 1) depth ('\x7b' :: cs) =
      match skipBlanks cs with
      | '\x7d' :: rest => some (atDepth depth (.obj []), rest)
      | rest => (members? fuel (depth + 1) rest).map fun (members, rest) =>
        (atDepth depth (ofMembers members), rest) := by
  rw [value?.eq_2]
  rfl

lemma value?_arr {items : List Json} (h : items? fuel (depth + 1) cs = some (items, rest))
    (hdepth : depth < maxDepth) :
    value? (fuel + 1) depth ('[' :: cs) = some (.arr items, rest) := by
  rw [value?_bracket]
  split
  · rename_i hclosed
    rw [items?_of_closed hclosed] at h
    simp at h
  · rw [items?_skipBlanks, h, Option.map_some]
    dsimp only
    rw [atDepth, if_pos hdepth]

lemma ofMembers_some (members : List (String × Json)) :
    ofMembers (members.map fun member => (some member.1, member.2)) = .obj members := by
  have hall : (members.map fun member => (some member.1, member.2)).mapM
      (fun member : Option String × Json => member.1.map fun name => (name, member.2)) =
        some members := by
    induction members with
    | nil => rfl
    | cons member members ih => simp [ih]
  rw [ofMembers, hall]

lemma value?_obj {members : List (String × Json)}
    (h : members? fuel (depth + 1) cs =
      some (members.map fun member => (some member.1, member.2), rest))
    (hdepth : depth < maxDepth) :
    value? (fuel + 1) depth ('\x7b' :: cs) = some (.obj members, rest) := by
  rw [value?_brace]
  split
  · rename_i hclosed
    rw [members?_of_closed hclosed] at h
    simp at h
  · rw [members?_skipBlanks, h, Option.map_some]
    dsimp only
    rw [ofMembers_some, atDepth, if_pos hdepth]

end Container

/-! ### One element after the other -/

section Elements

variable {cs cs' rest : List Char} {item : Json} {depth fuel level : Nat}

/-- The last item of an array. -/
lemma items?_last (h : value? fuel depth cs = some (item, cs'))
    (hclose : skipBlanks cs' = ']' :: rest) :
    items? (fuel + 1) depth (newLine level ++ cs) = some ([item], rest) := by
  simp only [items?.eq_2, value?_newLine, h, Option.bind_eq_bind, Option.bind_some, hclose]
  rfl

/-- An item before others. -/
lemma items?_next (h : value? fuel depth cs = some (item, cs')) {back : List Char}
    (hcomma : skipBlanks cs' = ',' :: back) {others : List Json}
    (hothers : items? fuel depth back = some (others, rest)) :
    items? (fuel + 1) depth (newLine level ++ cs) = some (item :: others, rest) := by
  simp only [items?.eq_2, value?_newLine, h, Option.bind_eq_bind, Option.bind_some, hcomma, hothers]
  rfl

lemma literal?_stringChars (name : String) (cs : List Char) :
    literal? ['"'] (skipBlanks (stringChars name ++ cs)) =
      some (name.toList.flatMap escapeChar ++ '"' :: cs) := by
  rw [stringChars, List.cons_append, List.append_assoc]
  rfl

lemma literal?_colon (cs : List Char) : literal? [':'] (skipBlanks (':' :: cs)) = some cs := rfl

variable {name : String}

/-- The last member of an object. -/
lemma members?_last (h : value? fuel depth cs = some (item, cs'))
    (hclose : skipBlanks cs' = '\x7d' :: rest) :
    members? (fuel + 1) depth (newLine level ++ (stringChars name ++ ':' :: ' ' :: cs)) =
      some ([(some name, item)], rest) := by
  simp only [members?.eq_2, skipBlanks_newLine, literal?_stringChars, Option.bind_eq_bind,
    Option.bind_some, string?_written, literal?_colon, value?_space, h, hclose]
  rfl

/-- A member before others. -/
lemma members?_next (h : value? fuel depth cs = some (item, cs')) {back : List Char}
    (hcomma : skipBlanks cs' = ',' :: back) {others : List (Option String × Json)}
    (hothers : members? fuel depth back = some (others, rest)) :
    members? (fuel + 1) depth (newLine level ++ (stringChars name ++ ':' :: ' ' :: cs)) =
      some ((some name, item) :: others, rest) := by
  simp only [members?.eq_2, skipBlanks_newLine, literal?_stringChars, Option.bind_eq_bind,
    Option.bind_some, string?_written, literal?_colon, value?_space, h, hcomma, hothers]
  rfl

end Elements

/-! ## Values -/

/-- Whether a value inside `depth` containers is read back, at any level of indentation, whatever
follows it, and with any number of steps that is not less than its length. -/
def ReadsBack (depth : Nat) (j : Json) : Prop :=
  ∀ fuel level rest, (prettyChars level j).length ≤ fuel → IsTail rest →
    value? fuel depth (prettyChars level j ++ rest) = some (j, rest)

section ReadsBack

variable {depth : Nat}

lemma items?_pretty {items : List Json} (hne : items ≠ [])
    (h : ∀ item ∈ items, ReadsBack depth item) {fuel level : Nat}
    (hfuel : (prettyItems level items).length ≤ fuel) (rest : List Char) :
    items? fuel depth (prettyItems level items ++ rest) = some (items, rest) := by
  -- By induction on the items.  The length of what is written bounds the fuel: every item starts
  -- with a break of the line, so what is left is shorter.
  induction items generalizing fuel with
  | nil => simp at hne
  | cons item items ih =>
      obtain ⟨hitem, hitems⟩ := List.forall_mem_cons.1 h
      cases items with
      | nil =>
          simp only [prettyItems, List.length_append, List.length_cons, newLine] at hfuel
          obtain ⟨fuel, rfl⟩ := Nat.exists_eq_add_one_of_ne_zero (n := fuel) (by omega)
          have hread := hitem fuel level (newLine (level - 1) ++ ']' :: rest) (by omega)
            (isTail_newLine _ _)
          have hclose : skipBlanks (newLine (level - 1) ++ ']' :: rest) = ']' :: rest :=
            skipBlanks_newLine _ _
          simp only [prettyItems, List.append_assoc, List.singleton_append]
          exact items?_last hread hclose
      | cons next items =>
          simp only [prettyItems, List.length_append, List.length_cons, newLine] at hfuel
          obtain ⟨fuel, rfl⟩ := Nat.exists_eq_add_one_of_ne_zero (n := fuel) (by omega)
          have hread := hitem fuel level (',' :: (prettyItems level (next :: items) ++ rest))
            (by omega) (isTail_comma _)
          have hcomma : skipBlanks (',' :: (prettyItems level (next :: items) ++ rest)) =
              ',' :: (prettyItems level (next :: items) ++ rest) := rfl
          have hlength : (prettyItems level (next :: items)).length ≤ fuel := by omega
          have hnext := ih (by simp) hitems hlength
          simp only [prettyItems.eq_3, List.append_assoc, List.cons_append]
          exact items?_next hread hcomma hnext

lemma members?_pretty {members : List (String × Json)} (hne : members ≠ [])
    (h : ∀ member ∈ members, ReadsBack depth member.2) {fuel level : Nat}
    (hfuel : (prettyMembers level members).length ≤ fuel) (rest : List Char) :
    members? fuel depth (prettyMembers level members ++ rest) =
      some (members.map fun member => (some member.1, member.2), rest) := by
  induction members generalizing fuel with
  | nil => simp at hne
  | cons member members ih =>
      obtain ⟨hmember, hmembers⟩ := List.forall_mem_cons.1 h
      cases members with
      | nil =>
          simp only [prettyMembers, List.length_append, List.length_cons, newLine] at hfuel
          obtain ⟨fuel, rfl⟩ := Nat.exists_eq_add_one_of_ne_zero (n := fuel) (by omega)
          have hread := hmember fuel level (newLine (level - 1) ++ '\x7d' :: rest) (by omega)
            (isTail_newLine _ _)
          have hclose : skipBlanks (newLine (level - 1) ++ '\x7d' :: rest) = '\x7d' :: rest :=
            skipBlanks_newLine _ _
          simp only [prettyMembers, List.append_assoc, List.cons_append, List.nil_append]
          exact members?_last hread hclose
      | cons next members =>
          simp only [prettyMembers, List.length_append, List.length_cons, newLine] at hfuel
          obtain ⟨fuel, rfl⟩ := Nat.exists_eq_add_one_of_ne_zero (n := fuel) (by omega)
          have hread := hmember fuel level (',' :: (prettyMembers level (next :: members) ++ rest))
            (by omega) (isTail_comma _)
          have hcomma : skipBlanks (',' :: (prettyMembers level (next :: members) ++ rest)) =
              ',' :: (prettyMembers level (next :: members) ++ rest) := rfl
          have hlength : (prettyMembers level (next :: members)).length ≤ fuel := by omega
          have hnext := ih (by simp) hmembers hlength
          simp only [prettyMembers.eq_3, List.append_assoc, List.cons_append]
          exact members?_next hread hcomma hnext

/-! ### One value -/

/-- A value that takes one step is read back if any bound but none will do. -/
lemma readsBack_of_succ {j : Json}
    (h : ∀ fuel level rest, IsTail rest →
      value? (fuel + 1) depth (prettyChars level j ++ rest) = some (j, rest))
    (hlength : ∀ level, prettyChars level j ≠ []) : ReadsBack depth j := by
  intro fuel level rest hfuel hrest
  have hpos := List.length_pos_iff.2 (hlength level)
  obtain ⟨fuel, rfl⟩ := Nat.exists_eq_add_one_of_ne_zero (n := fuel) (by omega)
  exact h fuel level rest hrest

lemma readsBack_null : ReadsBack depth .null :=
  readsBack_of_succ (fun _ _ _ _ => by simp only [value?.eq_2]; rfl) nofun

lemma readsBack_bool (b : Bool) : ReadsBack depth (.bool b) := by
  cases b with
  | true => exact readsBack_of_succ (fun _ _ _ _ => by simp only [value?.eq_2]; rfl) nofun
  | false => exact readsBack_of_succ (fun _ _ _ _ => by simp only [value?.eq_2]; rfl) nofun

lemma readsBack_str (s : String) : ReadsBack depth (.str s) := by
  refine readsBack_of_succ (fun fuel level rest _ => ?_) nofun
  have hchars : prettyChars level (.str s) ++ rest =
      '"' :: (s.toList.flatMap escapeChar ++ '"' :: rest) := by
    show stringChars s ++ rest = _
    rw [stringChars, List.cons_append, List.append_assoc]
    rfl
  rw [hchars, value?_quote, string?_written]
  rfl

/-- What starts like a number is read as one. -/
lemma value?_of_number {c : Char} (hc : c = '-' ∨ c.isDigit = true) (fuel : Nat) (cs : List Char) :
    value? (fuel + 1) depth (c :: cs) = number? (c :: cs) := by
  -- Neither a blank nor any other kind of value starts with a minus or a digit.
  have hne : ∀ d, d ≠ '-' → d.isDigit = false → c ≠ d := by
    rintro d hminus hdigit rfl
    rcases hc with rfl | hc
    · exact hminus rfl
    · simp [hc] at hdigit
  have hblank : skipBlanks (c :: cs) = c :: cs := by
    simp [skipBlanks, hne ' ' (by decide) rfl, hne '\n' (by decide) rfl, hne '\r' (by decide) rfl,
      hne '\t' (by decide) rfl]
  rw [value?.eq_2, hblank]
  split
  · rename_i h
    simp at h
  iterate 6
    · rename_i h
      exact absurd (List.cons.inj h).1 (hne _ (by decide) rfl)
  · rfl

lemma readsBack_int {n : Int} (hn : n.natAbs < 2 ^ 64) : ReadsBack depth (.int n) := by
  -- The reader tells numbers apart by their first character, so it is enough to know that one.
  have hstart : ∃ c cs, intChars n = c :: cs ∧ (c = '-' ∨ c.isDigit = true) := by
    unfold intChars
    split
    · exact ⟨'-', _, rfl, .inl rfl⟩
    · obtain ⟨c, cs, hdigits⟩ : ∃ c cs, digits n.natAbs = c :: cs :=
        List.exists_cons_of_ne_nil Nat.toDigits_ne_nil
      exact ⟨c, cs, hdigits, .inr (isDigit_of_mem_digits (hdigits ▸ List.mem_cons_self))⟩
  obtain ⟨c, cs, hchars, hc⟩ := hstart
  refine readsBack_of_succ (fun fuel level rest hrest => ?_) fun level h => ?_
  · show value? (fuel + 1) depth (intChars n ++ rest) = _
    have hnumber := number?_intChars hn hrest
    rw [hchars, List.cons_append] at hnumber ⊢
    rw [value?_of_number hc, hnumber]
  · have hnil : intChars n = [] := h
    rw [hchars] at hnil
    simp at hnil

lemma readsBack_arr {items : List Json} (hdepth : depth < maxDepth)
    (h : ∀ item ∈ items, ReadsBack (depth + 1) item) : ReadsBack depth (.arr items) := by
  cases items with
  | nil =>
      refine readsBack_of_succ (fun fuel level rest _ => ?_) nofun
      have hempty : value? (fuel + 1) depth ('[' :: ']' :: rest) =
          some (atDepth depth (.arr []), rest) := value?_bracket _ _ _
      rwa [atDepth, if_pos hdepth] at hempty
  | cons item items =>
      intro fuel level rest hfuel _
      simp only [prettyChars, List.length_cons] at hfuel
      obtain ⟨fuel, rfl⟩ := Nat.exists_eq_add_one_of_ne_zero (n := fuel) (by omega)
      have hlength : (prettyItems (level + 1) (item :: items)).length ≤ fuel := by omega
      exact value?_arr (items?_pretty (by simp) h hlength rest) hdepth

lemma readsBack_obj {members : List (String × Json)} (hdepth : depth < maxDepth)
    (h : ∀ member ∈ members, ReadsBack (depth + 1) member.2) : ReadsBack depth (.obj members) := by
  cases members with
  | nil =>
      refine readsBack_of_succ (fun fuel level rest _ => ?_) nofun
      have hempty : value? (fuel + 1) depth ('\x7b' :: '\x7d' :: rest) =
          some (atDepth depth (.obj []), rest) := value?_brace _ _ _
      rwa [atDepth, if_pos hdepth] at hempty
  | cons member members =>
      intro fuel level rest hfuel _
      simp only [prettyChars, List.length_cons] at hfuel
      obtain ⟨fuel, rfl⟩ := Nat.exists_eq_add_one_of_ne_zero (n := fuel) (by omega)
      have hlength : (prettyMembers (level + 1) (member :: members)).length ≤ fuel := by omega
      exact value?_obj (members?_pretty (by simp) h hlength rest) hdepth

end ReadsBack

/-- Every value that can be written is read back where there is room for its containers. -/
lemma Writable.readsBack {height : Nat} {j : Json} (h : Writable height j) {depth : Nat}
    (hdepth : depth + height ≤ maxDepth) : ReadsBack depth j := by
  induction h generalizing depth with
  | null => exact readsBack_null
  | bool height b => exact readsBack_bool b
  | int height hn => exact readsBack_int hn
  | str height s => exact readsBack_str s
  | arr each ih =>
      exact readsBack_arr (by omega) fun item hitem => ih item hitem (by omega)
  | obj each ih =>
      exact readsBack_obj (by omega) fun member hmember => ih member hmember (by omega)

/-- **Documents are read back.**  The document of a value that can be written is read as that
value. -/
theorem parse?_pretty {j : Json} (h : Writable maxDepth j) : parse? j.pretty = some j := by
  have hread := h.readsBack (Nat.le_of_eq (Nat.zero_add maxDepth)) ((prettyChars 0 j).length + 1) 0 []
    (Nat.le_succ _) isTail_nil
  rw [List.append_nil] at hread
  rw [parse?, pretty, String.toList_ofList, hread]
  rfl

end Tabletop.Json
