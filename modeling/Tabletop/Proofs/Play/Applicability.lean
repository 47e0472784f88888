import Mathlib.Data.List.FinRange
import Mathlib.Data.List.Forall2
import Tabletop.Proofs.Play.Availability
import Tabletop.Proofs.Play.WellFormedness
import Tabletop.Proofs.Rules.Matching

/-!
# Which abilities apply to an action

An ability that applies to an action does so in one of three roles: it is passive, it is active, or it
is available to be chosen.  `Role.Fits` says which abilities play a role, and `Triggered` which of them
an action triggers, in terms of the meaning of tags (`Matches`) and not of the search for them.

The three lists are parts of the roster: each holds the abilities of one role at their positions, in the
order of the roster (`standsAt_part`).  As no ability fits two roles, the lists share no position, even
where a roster holds equal abilities.

What is triggered depends on tags and triggers as sets only (`triggered_mono`), and on nothing that
happens in play; `applicable_classified` puts all this together with what well-formedness adds.
-/

namespace Tabletop.Rules

open Tabletop.Dice Tabletop.Play Tabletop.Sheet

/-! ## Roles -/

/-- How an ability applies to an action. -/
inductive Role
  | passive | active | available
deriving DecidableEq, Repr

/-- Whether an ability plays a role as soon as it is triggered. -/
def Role.Fits : Role → Ability → Prop
  | .passive, a => a.kind = .passive
  | .active, a => a.kind = .duration ∧ a.active = true
  | .available, a => a.kind = .instant ∧ ∃ u, a.uses = some u ∧ 0 < u.current

/-- The test by which the abilities of a role are picked. -/
def Role.test : Role → Ability → Bool
  | .passive => fun a => a.kind == .passive
  | .active => Ability.isRunning
  | .available => isAvailable

/-- The abilities that apply in a role. -/
def ApplicableEffects.part (e : ApplicableEffects) : Role → List Ability
  | .passive => e.passives
  | .active => e.actives
  | .available => e.available

/-- Whether an action with the given tags triggers an ability: it has triggers and an effect, and one
of its triggers matches a tag. -/
def Triggered (tags : List String) (a : Ability) : Prop :=
  a.trigger ≠ [] ∧ a.effect ≠ none ∧ ∃ trigger ∈ a.trigger, ∃ tag ∈ tags, Matches tag trigger

variable {tags more : List String} {a b : Ability} {r r' : Role}

lemma Role.test_iff : r.test a = true ↔ r.Fits a := by
  cases r with
  | passive => exact beq_iff_eq
  | active => exact a.isRunning_iff
  | available =>
      rw [test, isAvailable_iff, Fits]
      refine and_congr_right fun _ => ?_
      cases hu : a.uses with
      | none => simp
      | some u =>
          rw [← Bool.not_eq_true, Ability.isOutOfUses_iff hu]
          simp [UInt32.lt_iff_toNat_lt, Nat.pos_iff_ne_zero]

/-- No ability plays two roles: the three ask for different kinds. -/
lemma Role.Fits.unique (h : r.Fits a) (h' : r'.Fits a) : r = r' := by
  cases r <;> cases r' <;> simp_all [Role.Fits]

lemma triggered_iff : isTriggered tags a = true ↔ Triggered tags a := by
  rw [isTriggered, Bool.and_eq_true, matchesAnyTrigger_iff, Option.isSome_iff_ne_none]
  constructor
  · rintro ⟨heffect, tag, htag, trigger, htrigger, h⟩
    exact ⟨List.ne_nil_of_mem htrigger, heffect, trigger, htrigger, tag, htag, h⟩
  · rintro ⟨-, heffect, trigger, htrigger, tag, htag, h⟩
    exact ⟨heffect, tag, htag, trigger, htrigger, h⟩

/-- What some tags trigger, more tags trigger; and more triggers are triggered by the same tags. -/
lemma triggered_mono (h : Triggered tags a) (htags : tags ⊆ more) (htriggers : a.trigger ⊆ b.trigger)
    (heffect : b.effect = a.effect) : Triggered more b := by
  obtain ⟨-, ha, trigger, htrigger, tag, htag, hmatch⟩ := h
  exact ⟨List.ne_nil_of_mem (htriggers htrigger), heffect ▸ ha, trigger, htriggers htrigger, tag,
    htags htag, hmatch⟩

/-! ## Parts of a roster -/

/-- Whether an ability is listed for a role when an action with the given tags is made. -/
def Role.picks (r : Role) (tags : List String) (a : Ability) : Bool :=
  r.test a && isTriggered tags a

lemma picks_iff : r.picks tags a = true ↔ Triggered tags a ∧ r.Fits a := by
  rw [Role.picks, Bool.and_eq_true, Role.test_iff, triggered_iff, and_comm]

lemma part_eq (tags : List String) (roster : List Ability) (r : Role) :
    (applicableEffects tags roster).part r = roster.filter (r.picks tags) := by
  cases r <;> exact List.filter_filter

lemma mem_part_iff {roster : List Ability} :
    a ∈ (applicableEffects tags roster).part r ↔ a ∈ roster ∧ Triggered tags a ∧ r.Fits a := by
  rw [part_eq, List.mem_filter, picks_iff]

/-- Whether a list holds the abilities at some positions of a roster, in the order of the roster. -/
structure StandsAt (roster part : List Ability) (positions : List (Fin roster.length)) : Prop where
  ordered : positions.Pairwise (· < ·)
  part_eq : part = positions.map roster.get

/-- The positions of the abilities that are listed for a role. -/
def Role.positions (r : Role) (tags : List String) (roster : List Ability) :
    List (Fin roster.length) :=
  (List.finRange roster.length).filter fun i => r.picks tags (roster.get i)

lemma mem_positions_iff {roster : List Ability} {i : Fin roster.length} :
    i ∈ r.positions tags roster ↔ Triggered tags (roster.get i) ∧ r.Fits (roster.get i) := by
  rw [Role.positions, List.mem_filter, and_iff_right (List.mem_finRange i), picks_iff]

lemma standsAt_part (tags : List String) (roster : List Ability) (r : Role) :
    StandsAt roster ((applicableEffects tags roster).part r) (r.positions tags roster) where
  ordered := (List.pairwise_lt_finRange _).filter _
  part_eq := by
    have hfilter : ((List.finRange roster.length).map roster.get).filter (r.picks tags) =
        (r.positions tags roster).map roster.get := List.filter_map
    rwa [List.map_get_finRange, ← Rules.part_eq] at hfilter

/-! ## Tags and triggers are sets -/

/-- Whether two abilities differ in the order and the repetitions of their triggers at most. -/
def Retriggered (a b : Ability) : Prop :=
  b = { a with trigger := b.trigger } ∧ ∀ trigger, trigger ∈ b.trigger ↔ trigger ∈ a.trigger

lemma Retriggered.triggered_iff (h : Retriggered a b) : Triggered tags a ↔ Triggered tags b := by
  obtain ⟨hb, hsame⟩ := h
  have heffect : b.effect = a.effect := by rw [hb]
  constructor
  · exact fun h => triggered_mono h (List.Subset.refl _) (fun t => (hsame t).2) heffect
  · exact fun h => triggered_mono h (List.Subset.refl _) (fun t => (hsame t).1) heffect.symm

lemma Retriggered.picks_iff (h : Retriggered a b) (r : Role) :
    r.picks tags a = true ↔ r.picks tags b = true := by
  have htest : r.test b = r.test a := by
    rw [h.1]
    cases r <;> rfl
  rw [Role.picks, Role.picks, Bool.and_eq_true, Bool.and_eq_true, Rules.triggered_iff,
    Rules.triggered_iff, h.triggered_iff, htest]

/-- **Which abilities apply to an action.**  Each of the three lists holds the abilities of its role at
some positions of the roster, in order.  Different roles share no position, and a position belongs to a
role exactly if the ability there is triggered and fits it.

Only the set of tags matters, and of the triggers of each ability only their set; with more tags, no
ability is lost.  On a well-formed sheet, each active ability that applies has exactly one active
effect, and each available one can be used. -/
theorem applicable_classified :
    (∀ (tags : List String) (roster : List Ability),
      ∃ positions : Role → List (Fin roster.length),
        (∀ r, StandsAt roster ((applicableEffects tags roster).part r) (positions r)) ∧
        (∀ r r', r ≠ r' → (positions r).Disjoint (positions r')) ∧
        ∀ r i, i ∈ positions r ↔ Triggered tags (roster.get i) ∧ r.Fits (roster.get i)) ∧
    (∀ (tags tags' : List String) (roster : List Ability), (∀ tag, tag ∈ tags ↔ tag ∈ tags') →
      applicableEffects tags roster = applicableEffects tags' roster) ∧
    (∀ (tags : List String) (roster roster' : List Ability), List.Forall₂ Retriggered roster roster' →
      ∀ r, List.Forall₂ Retriggered ((applicableEffects tags roster).part r)
        ((applicableEffects tags roster').part r)) ∧
    (∀ (tags more : List String) (roster : List Ability), tags ⊆ more →
      ∀ r, ((applicableEffects tags roster).part r).Sublist ((applicableEffects more roster).part r)) ∧
    ∀ (c : Character) (tags : List String), c.WellFormed →
      (∀ a ∈ (applicableEffects tags c.abilities).actives,
        ∃ e, (c.activeEffects.filter fun e => e.source == a.id) = [e]) ∧
      ∀ a ∈ (applicableEffects tags c.abilities).available, ∀ stamp,
        ∃ t, useAbility c a.id stamp = .ok t := by
  refine ⟨fun tags roster => ?_, fun tags tags' roster hsame => ?_,
    fun tags roster roster' hroster r => ?_, fun tags more roster hmore r => ?_,
    fun c tags hc => ⟨fun a ha => ?_, fun a ha stamp => ?_⟩⟩
  · refine ⟨fun r => r.positions tags roster, standsAt_part tags roster, fun r r' hne i hi hi' => ?_,
      fun r i => mem_positions_iff⟩
    exact hne ((mem_positions_iff.1 hi).2.unique (mem_positions_iff.1 hi').2)
  -- The tags are only ever asked whether one of them matches, so two ways to list them are two
  -- inclusions of sets.
  · have htriggered : isTriggered tags = isTriggered tags' := by
      funext a
      rw [Bool.eq_iff_iff, triggered_iff, triggered_iff]
      constructor
      · exact fun h => triggered_mono h (fun t => (hsame t).1) (List.Subset.refl _) rfl
      · exact fun h => triggered_mono h (fun t => (hsame t).2) (List.Subset.refl _) rfl
    rw [applicableEffects, applicableEffects, htriggered]
  · rw [part_eq, part_eq]
    exact List.rel_filter (fun a b hab => hab.picks_iff r) hroster
  · rw [part_eq, part_eq]
    refine List.monotone_filter_right roster fun a ha => ?_
    obtain ⟨htriggered, hfits⟩ := picks_iff.1 ha
    exact picks_iff.2 ⟨triggered_mono htriggered hmore (List.Subset.refl _) rfl, hfits⟩
  -- On a well-formed sheet the slot of a running ability holds exactly one effect.
  · obtain ⟨hmem, -, hfits⟩ := mem_part_iff (r := .active) |>.1 ha
    have hrun : a.isRunning = true := (Ability.isRunning_iff a).2 hfits
    obtain ⟨e, he, -⟩ := (hc.slot a.id).running a (Character.slot_of_mem hc.distinct hmem) hrun
    exact ⟨e, he⟩
  · obtain ⟨hmem, -, hfits⟩ := mem_part_iff (r := .available) |>.1 ha
    obtain ⟨hkind, -, hleft⟩ := isAvailable_iff.1 (Role.test_iff.2 hfits)
    exact (exists_useAbility_iff hc.distinct hmem hkind stamp).2 hleft

/-- A barbarian who has learned to smite and to handle swords rages, and strikes with a sword. -/
theorem applicable_classified_rage :
    let ops : List (Fresh × Operation ScriptedDice) :=
      [(.numbered 7, .addAbility (divineSmite (numbered 7))),
        (.numbered 8, .addAbility (swordMastery (numbered 8))),
        (.numbered 9, .activateAbility (numbered 0))]
    let c := (barbarianSession.run ops).character
    let tags := ["sword", "melee"]
    let e := applicableEffects tags c.abilities
    let retriggered := c.abilities.map fun a => { a with trigger := a.trigger ++ a.trigger }
    (c.WellFormed ∧ e.passives.map Ability.name = ["Sword Mastery"] ∧
      e.actives.map Ability.name = ["Rage"] ∧ e.available.map Ability.name = ["Divine Smite"]) ∧
    e = applicableEffects ["melee", "sword", "melee"] c.abilities ∧
    (∀ r, List.Forall₂ Retriggered (e.part r) ((applicableEffects tags retriggered).part r)) ∧
    (∀ r, (e.part r).Sublist ((applicableEffects ("magic" :: tags) c.abilities).part r)) ∧
    (∀ a ∈ e.actives, ∃ e, (c.activeEffects.filter fun e => e.source == a.id) = [e]) ∧
    ∀ a ∈ e.available, ∀ stamp, ∃ t, useAbility c a.id stamp = .ok t := by
  intro ops c tags e retriggered
  obtain ⟨-, htags, htriggers, hmore, hwell⟩ := applicable_classified
  have hc : c.WellFormed := by decide +kernel
  have hpassives : e.passives.map Ability.name = ["Sword Mastery"] := by decide +kernel
  have hactives : e.actives.map Ability.name = ["Rage"] := by decide +kernel
  have havailable : e.available.map Ability.name = ["Divine Smite"] := by decide +kernel
  have hretriggered : List.Forall₂ Retriggered c.abilities retriggered :=
    List.forall₂_map_right_iff.2 (List.forall₂_same.2 fun a _ => ⟨rfl, fun t => by simp⟩)
  exact ⟨⟨hc, hpassives, hactives, havailable⟩, htags tags _ c.abilities (by simp [tags, or_comm]),
    htriggers tags c.abilities retriggered hretriggered,
    hmore tags ("magic" :: tags) c.abilities (List.subset_cons_self _ _), hwell c tags hc⟩

end Tabletop.Rules
