import Mathlib.Logic.Basic
import Tabletop.Proofs.Sheet.Bounds

/-!
# One ability at a time

Every operation on a roster looks abilities up by identifier, and touches the active effects through
the identifier of their source.  A `Slot` is all that such an operation sees of one identifier: the
ability that bears it and the effects that come from it.

`Character.slot` is the view of a sheet under an identifier.  The lemmas of the second section say
what each change of a sheet does to every slot: a change of one ability leaves the slots of all the
others alone, and the end of a turn or a rest changes each slot by a rule that looks at no other.

None of this needs the identifiers of a roster to be distinct: a look-up and a change both go to the
first match.  Distinctness (`Character.Distinct`) is what makes the slots together the whole sheet,
`slot_of_mem`.
-/

namespace Tabletop.Sheet

open Tabletop.Play

/-- What a sheet holds under one identifier. -/
structure Slot where
  /-- The ability that bears the identifier. -/
  ability : Option Ability
  /-- The active effects that come from it. -/
  effects : List ActiveEffect

/-- An effect brought in step with the ability it comes from; it ends with the ability. -/
def follow (source : Option Ability) (e : ActiveEffect) : Option ActiveEffect :=
  match source with
  | some a => if a.active then some { e with duration := e.duration.set a.turnsRemaining } else none
  | none => none

/-- A slot after one more turn. -/
def Slot.tick (x : Slot) : Slot :=
  ⟨x.ability.map tickAbility, x.effects.filterMap (follow (x.ability.map tickAbility))⟩

/-- A slot after a rest. -/
def Slot.rest (x : Slot) (kind : RestKind) : Slot :=
  ⟨x.ability.map (restAbility kind), []⟩

/-! ## A turn in one slot -/

lemma follow_of_active {a : Ability} (h : a.active = true) (e : ActiveEffect) :
    follow (some a) e = some { e with duration := e.duration.set a.turnsRemaining } :=
  if_pos h

lemma follow_of_inactive {a : Ability} (h : a.active = false) (e : ActiveEffect) :
    follow (some a) e = none := by
  simp [follow, h]

/-- An effect stays exactly if its source is active, and then shows the turns of its source. -/
lemma follow_eq_some_iff {source : Option Ability} {e e' : ActiveEffect} :
    follow source e = some e' ↔
      ∃ a, source = some a ∧ a.active = true ∧
        e' = { e with duration := e.duration.set a.turnsRemaining } := by
  cases source with
  | none => simp [follow]
  | some a =>
      cases h : a.active with
      | true =>
          rw [follow_of_active h]
          constructor
          · intro he
            exact ⟨a, rfl, h, (Option.some.inj he).symm⟩
          · rintro ⟨_, ⟨⟩, -, rfl⟩
            rfl
      | false =>
          rw [follow_of_inactive h]
          simp [h]

/-- A turn is a tick for an ability that runs. -/
lemma Slot.tick_of_running {a : Ability} (h : a.isRunning = true) (es : List ActiveEffect) :
    tick ⟨some a, es⟩ = ⟨some a.tick, es.filterMap (follow (some a.tick))⟩ := by
  rw [tick, Option.map_some, tickAbility, if_pos h]

/-- No other ability is changed by a turn. -/
lemma Slot.tick_of_not_running {a : Ability} (h : a.isRunning = false) (es : List ActiveEffect) :
    tick ⟨some a, es⟩ = ⟨some a, es.filterMap (follow (some a))⟩ := by
  rw [tick, Option.map_some, tickAbility, h, if_neg Bool.false_ne_true]

namespace Character

/-- What a sheet holds under an identifier. -/
def slot (c : Character) (id : AbilityId) : Slot :=
  ⟨c.ability? id, c.activeEffects.filter fun e => e.source == id⟩

/-- The identifiers of the abilities on a roster. -/
def ids (c : Character) : List AbilityId :=
  c.abilities.map Ability.id

/-- Whether no two abilities share an identifier. -/
def Distinct (c : Character) : Prop :=
  c.ids.Nodup

instance (c : Character) : Decidable c.Distinct :=
  inferInstanceAs (Decidable c.ids.Nodup)

/-! ## From the sheet to its slots and back -/

variable {c : Character} {id other : AbilityId}

/-- The slot under which an ability is found. -/
lemma slot_of_found {a : Ability} (h : c.ability? id = some a) :
    c.slot id = ⟨some a, (c.slot id).effects⟩ :=
  congrArg (Slot.mk · _) h

lemma id_of_slot {a : Ability} (h : (c.slot id).ability = some a) : a.id = id := by
  simpa using List.find?_some h

lemma mem_of_slot {a : Ability} (h : (c.slot id).ability = some a) : a ∈ c.abilities :=
  List.mem_of_find?_eq_some h

lemma source_of_mem_slot {e : ActiveEffect} (h : e ∈ (c.slot id).effects) : e.source = id := by
  simpa using (List.mem_filter.1 h).2

/-- Every effect stands in the slot of its source. -/
lemma mem_effects_iff {e : ActiveEffect} :
    e ∈ c.activeEffects ↔ e ∈ (c.slot e.source).effects := by
  simp [slot]

lemma find?_of_mem {l : List Ability} {a : Ability} (hl : (l.map Ability.id).Nodup) (h : a ∈ l) :
    l.find? (fun b => b.id == a.id) = some a := by
  induction l with
  | nil => simp at h
  | cons b l ih =>
      simp only [List.map_cons, List.nodup_cons] at hl
      rcases List.mem_cons.1 h with rfl | h
      · simp
      · have hne : b.id ≠ a.id := fun heq => hl.1 (heq ▸ List.mem_map_of_mem h)
        simpa [hne] using ih hl.2 h

/-- With distinct identifiers every ability is found under its own. -/
lemma slot_of_mem (hc : c.Distinct) {a : Ability} (h : a ∈ c.abilities) :
    (c.slot a.id).ability = some a :=
  find?_of_mem hc h

/-! ## What the changes of a sheet do to a slot -/

/-- A change of anything but abilities and effects is seen by no slot. -/
lemma slot_congr {c c' : Character} (ha : c'.abilities = c.abilities)
    (he : c'.activeEffects = c.activeEffects) (id : AbilityId) : c'.slot id = c.slot id := by
  rw [slot, slot, ability?, ability?, ha, he]

@[simp] lemma slot_record (c : Character) (stamp : Stamp) (event : LogEvent) (id : AbilityId) :
    (record c stamp event).character.slot id = c.slot id := rfl

lemma find?_updateFirst (id other : AbilityId) {f : Ability → Ability}
    (hf : ∀ a, (f a).id = a.id) (l : List Ability) :
    (updateFirst (fun a => a.id == id) f l).find? (fun a => a.id == other) =
      if other = id then (l.find? fun a => a.id == other).map f
      else l.find? fun a => a.id == other := by
  induction l with
  | nil => simp [updateFirst]
  | cons a l ih =>
      by_cases hid : a.id = id
      · by_cases ho : other = id
        · simp [updateFirst, hid, ho, hf]
        · have hne : id ≠ other := fun h => ho h.symm
          simp [updateFirst, hid, ho, hf, hne]
      · by_cases ha : a.id = other
        · have ho : other ≠ id := ha ▸ hid
          simp [updateFirst, ha, ho]
        · simpa [updateFirst, hid, ha] using ih

/-- Where identifiers are distinct, the first match is the only one. -/
lemma updateFirst_eq_map {l : List Ability} (hl : (l.map Ability.id).Nodup) (id : AbilityId)
    (f : Ability → Ability) :
    updateFirst (fun a => a.id == id) f l = l.map fun a => if a.id == id then f a else a := by
  induction l with
  | nil => rfl
  | cons b l ih =>
      obtain ⟨hb, hl⟩ := List.nodup_cons.1 hl
      rw [List.map_cons, updateFirst]
      split
      · rename_i h
        have hothers : l.map (fun a => if a.id == id then f a else a) = l := by
          refine (List.map_congr_left fun a ha => ?_).trans (List.map_id l)
          have hne : a.id ≠ id := by
            rintro rfl
            exact hb (eq_of_beq h ▸ List.mem_map_of_mem ha)
          simp [hne]
        rw [hothers]
      · rw [ih hl]

lemma slot_updateAbility {f : Ability → Ability} (hf : ∀ a, (f a).id = a.id) :
    (c.updateAbility id f).slot other =
      if other = id then ⟨(c.slot other).ability.map f, (c.slot other).effects⟩
      else c.slot other := by
  have h := find?_updateFirst id other hf c.abilities
  by_cases ho : other = id
  · rw [if_pos ho] at h ⊢
    exact congrArg (Slot.mk · _) h
  · rw [if_neg ho] at h ⊢
    exact congrArg (Slot.mk · _) h

lemma filter_dropEffects (id other : AbilityId) (l : List ActiveEffect) :
    (l.filter fun e => e.source != id).filter (fun e => e.source == other) =
      if other = id then [] else l.filter fun e => e.source == other := by
  rw [List.filter_filter]
  split
  · rename_i ho
    rw [List.filter_eq_nil_iff]
    intro e _
    simp [ho]
  · rename_i ho
    refine List.filter_congr fun e _ => ?_
    by_cases he : e.source = other
    · simp [he, ho]
    · simp [he]

lemma slot_dropEffects :
    (c.dropEffects id).slot other =
      if other = id then ⟨(c.slot other).ability, []⟩ else c.slot other := by
  have h := filter_dropEffects id other c.activeEffects
  by_cases ho : other = id
  · rw [if_pos ho] at h ⊢
    exact congrArg (Slot.mk _) h
  · rw [if_neg ho] at h ⊢
    exact congrArg (Slot.mk _) h

/-- A new effect joins the slot of its source. -/
lemma slot_addEffect (e : ActiveEffect) :
    ({ c with activeEffects := c.activeEffects ++ [e] } : Character).slot other =
      if other = e.source then ⟨(c.slot other).ability, (c.slot other).effects ++ [e]⟩
      else c.slot other := by
  by_cases ho : other = e.source
  · rw [if_pos ho]
    simp [slot, ability?, ho]
  · have hne : e.source ≠ other := fun h => ho h.symm
    rw [if_neg ho]
    simp [slot, ability?, hne]

/-- A granted ability appears in its slot unless the identifier is taken already. -/
lemma slot_addAbility (a : Ability) :
    (addAbility c id a).slot other =
      if other = id then
        ⟨(c.slot other).ability.or (some { a.fresh with id := id }), (c.slot other).effects⟩
      else c.slot other := by
  by_cases ho : other = id
  · rw [if_pos ho]
    simp [slot, ability?, addAbility, List.find?_append, ho]
  · have hne : id ≠ other := fun h => ho h.symm
    rw [if_neg ho]
    simp [slot, ability?, addAbility, List.find?_append, hne]

lemma find?_filter_ne (id other : AbilityId) (l : List Ability) :
    (l.filter fun a => a.id != id).find? (fun a => a.id == other) =
      if other = id then none else l.find? fun a => a.id == other := by
  rw [List.find?_filter]
  split
  · rename_i ho
    simp [ho]
  · rename_i ho
    congr 1
    funext a
    by_cases ha : a.id = other
    · simp [ha, ho]
    · simp [ha]

/-- A removed ability leaves its slot empty. -/
lemma slot_filter_abilities :
    ({ c.dropEffects id with abilities := c.abilities.filter fun a => a.id != id } :
      Character).slot other =
      if other = id then ⟨none, []⟩ else c.slot other := by
  have ha := find?_filter_ne id other c.abilities
  have he := filter_dropEffects id other c.activeEffects
  by_cases ho : other = id
  · rw [if_pos ho] at ha he ⊢
    exact congrArg₂ Slot.mk ha he
  · rw [if_neg ho] at ha he ⊢
    exact congrArg₂ Slot.mk ha he

/-! ### Changes of the whole roster -/

lemma find?_map (id : AbilityId) {f : Ability → Ability} (hf : ∀ a, (f a).id = a.id)
    (l : List Ability) :
    (l.map f).find? (fun a => a.id == id) = (l.find? fun a => a.id == id).map f := by
  rw [List.find?_map]
  congr 2
  funext a
  simp [hf]

lemma filter_followSource (id : AbilityId) (abilities : List Ability) (l : List ActiveEffect) :
    (l.filterMap (followSource abilities)).filter (fun e => e.source == id) =
      (l.filter fun e => e.source == id).filterMap
        (follow (abilities.find? fun a => a.id == id)) := by
  have hfollow : ∀ e : ActiveEffect,
      followSource abilities e = follow (abilities.find? fun a => a.id == e.source) e :=
    fun _ => rfl
  -- By induction on the effects.  Following its source keeps the source of an effect, so it does
  -- not matter whether a slot is taken before or after.
  induction l with
  | nil => rfl
  | cons e l ih =>
      by_cases he : e.source = id
      · rw [List.filter_cons_of_pos (by simpa using he)]
        rw [List.filterMap_cons, List.filterMap_cons, hfollow e, he]
        cases h : follow (abilities.find? fun a => a.id == id) e with
        | none => exact ih
        | some e' =>
            obtain ⟨a, -, -, rfl⟩ := follow_eq_some_iff.1 h
            rw [List.filter_cons_of_pos (by simpa using he), ih]
      · rw [List.filter_cons_of_neg (by simpa using he)]
        rw [List.filterMap_cons]
        cases h : followSource abilities e with
        | none => exact ih
        | some e' =>
            rw [hfollow] at h
            obtain ⟨a, -, -, rfl⟩ := follow_eq_some_iff.1 h
            rw [List.filter_cons_of_neg (by simpa using he), ih]

/-- The end of a turn reaches every slot by the same rule, which looks at no other slot. -/
lemma slot_endTurn (stamp : Stamp) :
    (endTurn c stamp).character.slot id = (c.slot id).tick := by
  have ha := find?_map id Ability.tickAbility_id c.abilities
  have he := filter_followSource id (c.abilities.map tickAbility) c.activeEffects
  rw [ha] at he
  exact congrArg₂ Slot.mk ha he

lemma slot_takeRest (kind : RestKind) (stamp : Stamp) :
    (takeRest c kind stamp).character.slot id = (c.slot id).rest kind :=
  congrArg (Slot.mk · []) (find?_map id (Ability.restAbility_id · kind) c.abilities)

/-! ## What the changes of a sheet do to the identifiers -/

/-- What the change leaves alone on the first match, it leaves alone everywhere. -/
lemma map_updateFirst {α β : Type} {p : α → Bool} {f : α → α} {g : α → β} {l : List α}
    (h : ∀ a, l.find? p = some a → g (f a) = g a) : (updateFirst p f l).map g = l.map g := by
  induction l with
  | nil => rfl
  | cons a l ih =>
      unfold updateFirst
      cases hp : p a with
      | true => simp [h a (List.find?_cons_of_pos hp)]
      | false =>
          have hrest : ∀ b, l.find? p = some b → g (f b) = g b := by
            intro b hb
            refine h b ?_
            rwa [List.find?_cons_of_neg (by simp [hp])]
          simp [ih hrest]

lemma ids_updateAbility {f : Ability → Ability} (hf : ∀ a, (f a).id = a.id) :
    (c.updateAbility id f).ids = c.ids :=
  map_updateFirst fun a _ => hf a

lemma ids_endTurn (stamp : Stamp) : (endTurn c stamp).character.ids = c.ids := by
  simp [ids, endTurn, record, Function.comp_def]

lemma ids_takeRest (kind : RestKind) (stamp : Stamp) :
    (takeRest c kind stamp).character.ids = c.ids := by
  simp [ids, takeRest, record, Function.comp_def]

end Character

end Tabletop.Sheet
