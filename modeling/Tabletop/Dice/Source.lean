/-!
# Sources of die results

A `DieSource` produces die results from a state.  A fair source answers between one and the number
of sides, whatever die it is asked for; `IsFair` says so.

`ScriptedDice` is the source that replays a list of results.  When the list has run out its last
value repeats, and every value is brought into the range of the die that is rolled.
-/

namespace Tabletop.Dice

/-- A source of die results with state `σ`. -/
class DieSource (σ : Type) where
  /-- The result of a die with the given number of sides, and the state after it. -/
  roll : UInt32 → σ → UInt32 × σ

/-- Whether a source answers within the range of every die that has a side. -/
def IsFair (σ : Type) [DieSource σ] : Prop :=
  ∀ (sides : UInt32) (s : σ), 1 ≤ sides.toNat →
    1 ≤ (DieSource.roll sides s).1.toNat ∧ (DieSource.roll sides s).1.toNat ≤ sides.toNat

/-- The results of a number of equal dice, taken one after the other, and the state after them. -/
def rollDice {σ : Type} [DieSource σ] (count : Nat) (sides : UInt32) (source : σ) :
    List UInt32 × σ :=
  match count with
  | 0 => ([], source)
  | count + 1 =>
    let (first, source) := DieSource.roll sides source
    let (rest, source) := rollDice count sides source
    (first :: rest, source)

theorem length_rollDice {σ : Type} [DieSource σ] (count : Nat) (sides : UInt32) (source : σ) :
    (rollDice count sides source).1.length = count := by
  induction count generalizing source with
  | zero => rfl
  | succ n ih => simp [rollDice, ih]

/-- Fair dice stay within range however many are rolled. -/
theorem inRange_of_mem_rollDice {σ : Type} [DieSource σ] (fair : IsFair σ) {count : Nat}
    {sides : UInt32} {source : σ} {r : UInt32} (h : 1 ≤ sides.toNat)
    (hr : r ∈ (rollDice count sides source).1) : 1 ≤ r.toNat ∧ r.toNat ≤ sides.toNat := by
  induction count generalizing source with
  | zero => simp [rollDice] at hr
  | succ n ih =>
    rcases List.mem_cons.1 hr with rfl | hr
    · exact fair sides source h
    · exact ih hr

/-! ## Scripted dice -/

/-- A value brought between one and the number of sides; a die without sides shows one. -/
def clampToDie (sides value : UInt32) : UInt32 :=
  UInt32.ofNat (max 1 (min (max 1 sides.toNat) value.toNat))

theorem toNat_clampToDie (sides value : UInt32) :
    (clampToDie sides value).toNat = max 1 (min (max 1 sides.toNat) value.toNat) := by
  have := value.toNat_lt
  rw [clampToDie, UInt32.toNat_ofNat', Nat.mod_eq_of_lt]
  omega

theorem one_le_clampToDie (sides value : UInt32) : 1 ≤ (clampToDie sides value).toNat := by
  rw [toNat_clampToDie]
  omega

theorem clampToDie_le {sides : UInt32} (value : UInt32) (h : 1 ≤ sides.toNat) :
    (clampToDie sides value).toNat ≤ sides.toNat := by
  rw [toNat_clampToDie]
  omega

/-- A die source that replays a script. -/
structure ScriptedDice where
  /-- The results still to come. -/
  script : List UInt32
  /-- The last result taken from the script. -/
  last : Option UInt32
  /-- How many dice have been rolled. -/
  rolled : Nat
deriving DecidableEq, Repr, Inhabited

namespace ScriptedDice

/-- A source that starts at the front of a script. -/
def ofList (script : List UInt32) : ScriptedDice :=
  ⟨script, none, 0⟩

/-- The source with one more result at the end of its script. -/
def push (dice : ScriptedDice) (value : UInt32) : ScriptedDice :=
  { dice with script := dice.script ++ [value] }

/-- How many results are still in the script. -/
def remaining (dice : ScriptedDice) : Nat :=
  dice.script.length

/-- The next result of a script and the source after it. -/
def next (dice : ScriptedDice) (sides : UInt32) : UInt32 × ScriptedDice :=
  match dice.script with
  | value :: script => (clampToDie sides value, ⟨script, some value, dice.rolled + 1⟩)
  | [] => (clampToDie sides (dice.last.getD 1), { dice with rolled := dice.rolled + 1 })

end ScriptedDice

instance : DieSource ScriptedDice where
  roll sides dice := dice.next sides

theorem isFair_scriptedDice : IsFair ScriptedDice := by
  intro sides dice h
  change 1 ≤ (dice.next sides).1.toNat ∧ (dice.next sides).1.toNat ≤ sides.toNat
  unfold ScriptedDice.next
  split <;> exact ⟨one_le_clampToDie _ _, clampToDie_le _ h⟩

end Tabletop.Dice
