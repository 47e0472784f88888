import Mathlib.Data.List.Basic
import Tabletop.Proofs.Text.Numerals
import Tabletop.Time.Rfc3339

/-!
# Instants read back

The written form of an instant is read as that instant (`Instant.parse?_text`), in every year of the
calendar and in leap seconds too: a leap second is written as the sixtieth of its minute, and the
reader turns it into the second half of the fifty-ninth again.

A part of fixed width is read without regard to what follows it (`number?_padded`).  The year may be
longer than four digits, so there it matters that a hyphen follows.
-/

namespace Tabletop.Time

open Tabletop.Text

/-! ## Padded numbers -/

section Padded

variable {width n : Nat}

lemma isDigit_of_mem_padded {c : Char} (h : c ∈ padded width n) : c.isDigit = true := by
  rcases List.mem_append.1 h with hzero | hdigit
  · rw [List.eq_of_mem_replicate hzero]
    rfl
  · exact isDigit_of_mem_digits hdigit

lemma foldl_replicate_zero (k : Nat) :
    (List.replicate k '0').foldl (fun n c => 10 * n + (c.toNat - '0'.toNat)) 0 = 0 := by
  induction k with
  | zero => rfl
  | succ k ih =>
      rw [List.replicate_succ, List.foldl_cons]
      exact ih

lemma numeralValue_padded : numeralValue (padded width n) = n := by
  have hdigits := numeralValue_digits n
  unfold numeralValue at hdigits ⊢
  rw [padded, List.foldl_append, foldl_replicate_zero, hdigits]

lemma length_padded (hwidth : 0 < width) (hn : n < 10 ^ width) : (padded width n).length = width := by
  have hle : (digits n).length ≤ width := (Nat.length_toDigits_le_iff (by decide) hwidth).2 hn
  rw [padded, List.length_append, List.length_replicate]
  omega

lemma padded_ne_nil : padded width n ≠ [] := by
  have hne : digits n ≠ [] := Nat.toDigits_ne_nil
  simp [padded, hne]

/-- A run of digits ends where a limit of digits is reached, or in front of what is no digit. -/
lemma takeWhile_take_append {limit : Nat} {cs rest : List Char}
    (hcs : ∀ c ∈ cs, c.isDigit = true) (hlimit : cs.length ≤ limit)
    (hrest : cs.length = limit ∨ ∀ c ∈ rest.head?, c.isDigit = false) :
    ((cs ++ rest).take limit).takeWhile Char.isDigit = cs := by
  have hnil : (rest.take (limit - cs.length)).takeWhile Char.isDigit = [] := by
    rcases hrest with hfull | hstop
    · rw [hfull, Nat.sub_self]
      rfl
    · cases rest with
      | nil => simp
      | cons c rest =>
          cases limit - cs.length with
          | zero => rfl
          | succ k => simp [hstop c rfl]
  rw [List.take_append, List.take_of_length_le hlimit, List.takeWhile_append_of_pos hcs, hnil,
    List.append_nil]

lemma number?_append {limit : Nat} {cs rest : List Char} (hcs : ∀ c ∈ cs, c.isDigit = true)
    (hne : cs ≠ []) (hlimit : cs.length ≤ limit)
    (hrest : cs.length = limit ∨ ∀ c ∈ rest.head?, c.isDigit = false) :
    number? limit (cs ++ rest) = some (numeralValue cs, rest) := by
  have hempty : cs.isEmpty = false := by simpa using hne
  simp only [number?, takeWhile_take_append hcs hlimit hrest, hempty, List.drop_left]
  rfl

/-- A padded number is read whatever follows it. -/
lemma number?_padded (hwidth : 0 < width) (hn : n < 10 ^ width) (rest : List Char) :
    number? width (padded width n ++ rest) = some (n, rest) := by
  have hlength := length_padded hwidth hn
  have hread : number? width (padded width n ++ rest) =
      some (numeralValue (padded width n), rest) :=
    number?_append (fun _ hc => isDigit_of_mem_padded hc) padded_ne_nil (Nat.le_of_eq hlength)
      (.inl hlength)
  rwa [numeralValue_padded] at hread

lemma exists_padded_cons (width n : Nat) :
    ∃ c cs, padded width n = c :: cs ∧ c.isDigit = true := by
  have hne : padded width n ≠ [] := padded_ne_nil
  obtain ⟨c, cs, h⟩ := List.exists_cons_of_ne_nil hne
  exact ⟨c, cs, h, isDigit_of_mem_padded (h ▸ List.mem_cons_self)⟩

/-- No blank leads a padded number. -/
lemma trimStart_padded (width n : Nat) (rest : List Char) :
    trimStart (padded width n ++ rest) = padded width n ++ rest := by
  obtain ⟨c, cs, h, hc⟩ := exists_padded_cons width n
  rw [h, List.cons_append, trimStart]
  exact List.dropWhile_cons_of_neg (by simp [isBlank_of_isDigit hc])

end Padded

/-! ## Parts of an instant -/

lemma part?_padded {n : Nat} (hn : n < 100) (rest : List Char) :
    part? (padded 2 n ++ rest) = some (n, rest) := by
  rw [part?, trimStart_padded, number?_padded (by decide) hn]

lemma separator?_part {c : Char} (hc : isBlank c = false) {n : Nat} (hn : n < 100)
    (rest : List Char) :
    (separator? c (c :: (padded 2 n ++ rest))).bind part? = some (n, rest) := by
  have hstart : trimStart (c :: (padded 2 n ++ rest)) = c :: (padded 2 n ++ rest) :=
    List.dropWhile_cons_of_neg (by simp [hc])
  simp only [separator?, hstart, if_true, Option.bind_some, part?_padded hn]

lemma year?_yearChars (year : Int) (rest : List Char) :
    year? (yearChars year ++ '-' :: rest) = some (year, '-' :: rest) := by
  have hhyphen : ∀ c ∈ ('-' :: rest).head?, c.isDigit = false := by
    rintro c ⟨⟩
    rfl
  -- With a sign in front a year may have any number of digits, so all of them are taken.
  have hsigned : ∀ n, number? (padded 4 n ++ '-' :: rest).length (padded 4 n ++ '-' :: rest) =
      some (n, '-' :: rest) := by
    intro n
    have hread : number? (padded 4 n ++ '-' :: rest).length (padded 4 n ++ '-' :: rest) =
        some (numeralValue (padded 4 n), '-' :: rest) :=
      number?_append (fun _ hc => isDigit_of_mem_padded hc) padded_ne_nil (by simp) (.inr hhyphen)
    rwa [numeralValue_padded] at hread
  unfold yearChars
  split
  · rename_i hrange
    have hread : number? 4 (padded 4 year.toNat ++ '-' :: rest) =
        some (year.toNat, '-' :: rest) :=
      number?_padded (by decide) (by omega) ('-' :: rest)
    have hstart := trimStart_padded 4 year.toNat ('-' :: rest)
    have hyear : (year.toNat : Int) = year := by omega
    obtain ⟨c, cs, hpadded, hc⟩ := exists_padded_cons 4 year.toNat
    rw [hpadded, List.cons_append] at hread hstart ⊢
    unfold year?
    rw [hstart]
    split
    -- A written year starts with a digit, so the first two ways to read one do not apply.
    · rename_i h
      simp [(List.cons.inj h).1] at hc
    · rename_i h
      simp [(List.cons.inj h).1] at hc
    · rw [hread, Option.map_some]
      dsimp only
      rw [hyear]
  · split
    · rename_i hneg
      have hyear : -(year.natAbs : Int) = year := by omega
      show (number? (padded 4 year.natAbs ++ '-' :: rest).length
        (padded 4 year.natAbs ++ '-' :: rest)).map _ = _
      rw [hsigned, Option.map_some]
      dsimp only
      rw [hyear]
    · rename_i hpos
      have hyear : (year.natAbs : Int) = year := by omega
      show (number? (padded 4 year.natAbs ++ '-' :: rest).length
        (padded 4 year.natAbs ++ '-' :: rest)).map _ = _
      rw [hsigned, Option.map_some]
      dsimp only
      rw [hyear]

lemma nanoseconds?_padded {width n : Nat} (hwidth : 0 < width) (hle : width ≤ 9)
    (hn : n < 10 ^ width) :
    nanoseconds? ('.' :: (padded width n ++ ['Z'])) = some (n * 10 ^ (9 - width), ['Z']) := by
  have hdigits : ∀ c ∈ padded width n, c.isDigit = true := fun _ hc => isDigit_of_mem_padded hc
  have hzulu : ∀ c ∈ ['Z'].head?, c.isDigit = false := by
    rintro c ⟨⟩
    rfl
  have hlength := length_padded hwidth hn
  have hread := number?_append hdigits padded_ne_nil (hlength ▸ hle) (.inr hzulu)
  have hkept := takeWhile_take_append hdigits (hlength ▸ hle) (.inr hzulu)
  rw [numeralValue_padded] at hread
  show (number? 9 (padded width n ++ ['Z'])).map _ = _
  rw [hread, Option.map_some, hkept, hlength, List.dropWhile_append_of_pos hdigits]
  rfl

lemma nanoseconds?_decimalChars {nano : Nat} (h : nano < 1000000000) :
    nanoseconds? (decimalChars nano ++ ['Z']) = some (nano, ['Z']) := by
  unfold decimalChars
  split
  · rename_i hzero
    rw [hzero]
    rfl
  split
  · have hnano : nano / 1000000 * 10 ^ (9 - 3) = nano := by omega
    rw [List.cons_append, nanoseconds?_padded (by decide) (by decide) (by omega), hnano]
  split
  · have hnano : nano / 1000 * 10 ^ (9 - 6) = nano := by omega
    rw [List.cons_append, nanoseconds?_padded (by decide) (by decide) (by omega), hnano]
  · rw [List.cons_append, nanoseconds?_padded (by decide) (by decide) (by omega)]
    simp

/-! ## The instant -/

namespace Instant

variable (t : Instant)

lemma ofLocal?_self : ofLocal? t.date t.second t.nano 0 = some t := by
  have hday : t.second < 86400 := t.isTimeOfDay.1
  have hparts : ofParts? t.date t.second t.nano = some t := dif_pos t.isTimeOfDay
  unfold ofLocal?
  simp only [Int.sub_zero]
  rw [if_neg (by omega), if_pos (by omega), Int.toNat_natCast, hparts]

/-- The sixtieth second of a minute is the second half of the one before. -/
lemma ofLocal?_written :
    (if t.second % 60 + t.nano / 1000000000 = 60 then
      ofLocal? t.date (t.second / 3600 * 3600 + t.second / 60 % 60 * 60 + 59)
        (t.nano % 1000000000 + 1000000000) 0
    else
      ofLocal? t.date (t.second / 3600 * 3600 + t.second / 60 % 60 * 60 +
        (t.second % 60 + t.nano / 1000000000)) (t.nano % 1000000000) 0) = some t := by
  obtain ⟨-, hnano, hleap⟩ := t.isTimeOfDay
  rw [← t.ofLocal?_self]
  by_cases h : 1000000000 ≤ t.nano
  · have hlast := hleap h
    rw [if_pos (by omega)]
    congr 1 <;> omega
  · rw [if_neg (by omega)]
    congr 1 <;> omega

/-- **Instants are read back.** -/
lemma parse?_text : parse? t.text = some t := by
  obtain ⟨hday, hnano, hleap⟩ := t.isTimeOfDay
  obtain ⟨-, -, -, hmonth, -, hdate⟩ := t.date.isDay
  have hdays : daysInMonth t.date.year t.date.month ≤ 31 := by
    unfold daysInMonth
    split <;> split <;> omega
  have hofParts : Date.ofParts? t.date.year t.date.month t.date.day = some t.date :=
    dif_pos t.date.isDay
  have hbounds : ¬ (23 < t.second / 3600 ∨ 59 < t.second / 60 % 60 ∨
      60 < t.second % 60 + t.nano / 1000000000) := by
    omega
  have hhyphen : isBlank '-' = false := by decide
  have hcolon : isBlank ':' = false := by decide
  have hoffset : offset? (trimStart ['Z']) = some (0, []) := by decide
  unfold parse?
  simp only [text, String.toList_ofList, List.append_assoc, List.cons_append]
  -- The parts one after the other, each leaving the rest of the text to the next.
  refine Option.bind_eq_some_iff.2 ⟨_, year?_yearChars _ _, ?_⟩
  refine Option.bind_eq_some_iff.2 ⟨_, separator?_part hhyphen (by omega) _, ?_⟩
  refine Option.bind_eq_some_iff.2 ⟨_, separator?_part hhyphen (by omega) _, ?_⟩
  refine Option.bind_eq_some_iff.2 ⟨_, part?_padded (by omega) _, ?_⟩
  refine Option.bind_eq_some_iff.2 ⟨_, separator?_part hcolon (by omega) _, ?_⟩
  refine Option.bind_eq_some_iff.2 ⟨_, separator?_part hcolon (by omega) _, ?_⟩
  refine Option.bind_eq_some_iff.2 ⟨_, nanoseconds?_decimalChars (Nat.mod_lt _ (by decide)), ?_⟩
  refine Option.bind_eq_some_iff.2 ⟨_, hoffset, ?_⟩
  have hrest : ¬ (!(trimStart []).isEmpty) = true := by decide
  rw [if_neg hrest, if_neg hbounds]
  refine Option.bind_eq_some_iff.2 ⟨_, hofParts, ?_⟩
  exact t.ofLocal?_written

end Instant

end Tabletop.Time
