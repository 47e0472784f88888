import Tabletop.Proofs.Sheet.Bounds
import Tabletop.Save.Record

/-!
# Saved pools are within their bounds

A document may say of a pool that it holds more than its maximum; the reader lowers it.  Hence
every sheet that is read has bounded pools, whatever the document says
(`SavedCharacter.bounded_of_ofJson?`).

The readers are records of fields, so the argument needs one lemma for each way a field is read: a
value that comes out was read from some piece of the document.
-/

namespace Tabletop.Json

variable {α : Type} {read : Json → Option α}

/-- The first step of a reader that succeeds. -/
lemma exists_of_bind {β : Type} {x : Option α} {f : α → Option β} {b : β}
    (h : (x >>= f) = some b) : ∃ a, x = some a ∧ f a = some b :=
  Option.bind_eq_some_iff.1 h

lemma Slot.exists_of_required {x : Slot} {a : α} (h : x.required read = some a) :
    ∃ j, read j = some a := by
  cases x with
  | given j => exact ⟨j, h⟩
  | omitted => simp [Slot.required] at h
  | cut => simp [Slot.required] at h

/-- An optional value that is there was read. -/
lemma Slot.exists_of_withDefault {x : Slot} {a : α}
    (h : x.withDefault none (nullable read) = some (some a)) : ∃ j, read j = some a := by
  cases x with
  | given j =>
      simp only [Slot.withDefault] at h
      unfold nullable at h
      split at h
      · simp at h
      · obtain ⟨b, hb, hab⟩ := Option.map_eq_some_iff.1 h
        obtain rfl := Option.some.inj hab
        exact ⟨_, hb⟩
  | omitted => simp [Slot.withDefault] at h
  | cut => simp [Slot.withDefault] at h

lemma exists_of_mapM {items : List Json} {as : List α} (h : items.mapM read = some as) :
    ∀ a ∈ as, ∃ j, read j = some a := by
  induction items generalizing as with
  | nil =>
      obtain rfl : as = [] := by simpa [eq_comm] using h
      simp
  | cons j items ih =>
      rw [List.mapM_cons] at h
      obtain ⟨a, ha, h⟩ := exists_of_bind h
      obtain ⟨rest, hrest, h⟩ := exists_of_bind h
      obtain rfl : a :: rest = as := Option.some.inj h
      intro b hb
      rcases List.mem_cons.1 hb with rfl | hb
      · exact ⟨j, ha⟩
      · exact ih hrest b hb

lemma exists_of_list? {j : Json} {as : List α} (h : list? read j = some as) :
    ∀ a ∈ as, ∃ j, read j = some a := by
  cases j with
  | arr items => exact exists_of_mapM h
  | _ => simp [list?] at h

end Tabletop.Json

namespace Tabletop.Sheet

open Tabletop.Json
  (exists_of_bind Slot.exists_of_required Slot.exists_of_withDefault exists_of_list?)

lemma Pool.bounded_of_ofJson? {j : Json} {p : Pool} (h : Pool.ofJson? j = some p) :
    p.Bounded := by
  unfold Pool.ofJson? at h
  obtain ⟨slot, -, h⟩ := exists_of_bind h
  obtain ⟨current, -, h⟩ := exists_of_bind h
  obtain ⟨max, -, h⟩ := exists_of_bind h
  obtain rfl := Option.some.inj h
  exact Pool.bounded_set _ _

lemma Ability.bounded_of_ofJson? {j : Json} {a : Ability} (h : Ability.ofJson? j = some a) :
    a.Bounded := by
  unfold Ability.ofJson? at h
  obtain ⟨slot, -, h⟩ := exists_of_bind h
  obtain ⟨id, -, h⟩ := exists_of_bind h
  obtain ⟨name, -, h⟩ := exists_of_bind h
  obtain ⟨kind, -, h⟩ := exists_of_bind h
  obtain ⟨tags, -, h⟩ := exists_of_bind h
  obtain ⟨trigger, -, h⟩ := exists_of_bind h
  obtain ⟨recharge, -, h⟩ := exists_of_bind h
  obtain ⟨uses, huses, h⟩ := exists_of_bind h
  obtain ⟨duration, hduration, h⟩ := exists_of_bind h
  obtain ⟨active, -, h⟩ := exists_of_bind h
  obtain ⟨effect, -, h⟩ := exists_of_bind h
  obtain rfl := Option.some.inj h
  -- The reader of pools clamps, and an ability has no other bounds.
  refine ⟨?_, ?_⟩
  · intro u hu
    obtain rfl : uses = some u := hu
    obtain ⟨j, hj⟩ := Slot.exists_of_withDefault huses
    exact Pool.bounded_of_ofJson? hj
  · intro d hd
    obtain rfl : duration = some d := hd
    obtain ⟨j, hj⟩ := Slot.exists_of_withDefault hduration
    exact Pool.bounded_of_ofJson? hj

lemma ActiveEffect.bounded_of_ofJson? {j : Json} {e : ActiveEffect}
    (h : ActiveEffect.ofJson? j = some e) : e.duration.Bounded := by
  unfold ActiveEffect.ofJson? at h
  obtain ⟨slot, -, h⟩ := exists_of_bind h
  obtain ⟨id, -, h⟩ := exists_of_bind h
  obtain ⟨source, -, h⟩ := exists_of_bind h
  obtain ⟨name, -, h⟩ := exists_of_bind h
  obtain ⟨duration, hduration, h⟩ := exists_of_bind h
  obtain ⟨effect, -, h⟩ := exists_of_bind h
  obtain rfl := Option.some.inj h
  obtain ⟨j, hj⟩ := Slot.exists_of_required hduration
  exact Pool.bounded_of_ofJson? hj

lemma Character.bounded_of_ofJson? {j : Json} {c : Character}
    (h : Character.ofJson? j = some c) : c.Bounded := by
  unfold Character.ofJson? at h
  obtain ⟨slot, -, h⟩ := exists_of_bind h
  obtain ⟨id, -, h⟩ := exists_of_bind h
  obtain ⟨name, -, h⟩ := exists_of_bind h
  obtain ⟨cls, -, h⟩ := exists_of_bind h
  obtain ⟨template, -, h⟩ := exists_of_bind h
  obtain ⟨level, -, h⟩ := exists_of_bind h
  obtain ⟨attributes, -, h⟩ := exists_of_bind h
  obtain ⟨hitPoints, -, h⟩ := exists_of_bind h
  obtain ⟨items, -, h⟩ := exists_of_bind h
  obtain ⟨abilities, habilities, h⟩ := exists_of_bind h
  obtain ⟨effects, heffects, h⟩ := exists_of_bind h
  obtain ⟨log, -, h⟩ := exists_of_bind h
  obtain ⟨turn, -, h⟩ := exists_of_bind h
  obtain ⟨preferences, -, h⟩ := exists_of_bind h
  obtain rfl := Option.some.inj h
  -- Only abilities and effects have pools in them.
  obtain ⟨ja, hja⟩ := Slot.exists_of_required habilities
  obtain ⟨je, hje⟩ := Slot.exists_of_required heffects
  refine ⟨?_, ?_⟩
  · intro a ha
    obtain ⟨j, hj⟩ := exists_of_list? hja a ha
    exact Ability.bounded_of_ofJson? hj
  · intro e he
    obtain ⟨j, hj⟩ := exists_of_list? hje e he
    exact ActiveEffect.bounded_of_ofJson? hj

end Tabletop.Sheet

namespace Tabletop.Save

open Tabletop.Json (exists_of_bind Slot.exists_of_required)

/-- The sheet in a saved document has bounded pools. -/
lemma SavedCharacter.bounded_of_ofJson? {j : Json} {saved : SavedCharacter}
    (h : SavedCharacter.ofJson? j = some saved) : saved.character.Bounded := by
  unfold SavedCharacter.ofJson? at h
  obtain ⟨slot, -, h⟩ := exists_of_bind h
  obtain ⟨version, -, h⟩ := exists_of_bind h
  obtain ⟨savedAt, -, h⟩ := exists_of_bind h
  obtain ⟨c, hc, h⟩ := exists_of_bind h
  obtain ⟨metadata, -, h⟩ := exists_of_bind h
  obtain rfl := Option.some.inj h
  obtain ⟨jc, hjc⟩ := Slot.exists_of_required hc
  exact Sheet.Character.bounded_of_ofJson? hjc

end Tabletop.Save
