import Tabletop.Play.Resume
import Tabletop.Proofs.Play.Life
import Tabletop.Proofs.Save.Document
import Tabletop.Proofs.Save.FileSystem

/-!
# Saving and resuming loses nothing

A session that is saved and taken up again goes on where it was.  Two things could be lost on the
way.  The reader of a save lowers pools to their maxima, and a new session may write its settings
over a preference of the character.  Neither changes anything because of an invariant of play:
`Character.Resumable` says that the pools of a sheet are within their bounds and that its
preferences are given ones.  Every operation keeps it (`resumable_step`), hence every run
(`resumable_run`).

The bounds do not depend on the identifiers being distinct, nor on abilities and effects agreeing:
whatever sheet play starts from, if only its pools are bounded, it can be put down and taken up.
-/

namespace Tabletop.Sheet

open Tabletop.Play

/-- What holds of all elements still does when the first that satisfies a condition is changed in a
way that keeps it. -/
lemma forall_mem_updateFirst {α : Type} {P : α → Prop} {p : α → Bool} {f : α → α} {l : List α}
    (hl : ∀ a ∈ l, P a) (hf : ∀ a, P a → P (f a)) : ∀ a ∈ updateFirst p f l, P a := by
  induction l with
  | nil => exact hl
  | cons a l ih =>
      obtain ⟨ha, hl⟩ := List.forall_mem_cons.1 hl
      unfold updateFirst
      split
      · exact List.forall_mem_cons.2 ⟨hf a ha, hl⟩
      · exact List.forall_mem_cons.2 ⟨ha, ih hl⟩

/-- A sheet that is read back from its save as it is, and that a session with settings in accord
with the preferences takes up as it is. -/
structure Character.Resumable (preferences : Preferences) (c : Character) : Prop where
  bounded : c.Bounded
  preferences : c.preferences = preferences

namespace Character.Resumable

variable {p : Preferences} {c : Character} {id : AbilityId} {stamp : Stamp} {t : Transition}

/-- Only abilities, effects and preferences matter. -/
lemma congr {c' : Character} (h : c.Resumable p) (habilities : c'.abilities = c.abilities)
    (heffects : c'.activeEffects = c.activeEffects)
    (hpreferences : c'.preferences = c.preferences) : c'.Resumable p where
  bounded := ⟨habilities ▸ h.bounded.abilities, heffects ▸ h.bounded.effects⟩
  preferences := hpreferences.trans h.preferences

lemma record (h : c.Resumable p) (stamp : Stamp) (event : LogEvent) :
    (Play.record c stamp event).character.Resumable p :=
  h.congr rfl rfl rfl

lemma updateAbility (h : c.Resumable p) {f : Ability → Ability}
    (hf : ∀ a, a.Bounded → (f a).Bounded) : (c.updateAbility id f).Resumable p where
  bounded := ⟨forall_mem_updateFirst h.bounded.abilities hf, h.bounded.effects⟩
  preferences := h.preferences

lemma dropEffects (h : c.Resumable p) : (c.dropEffects id).Resumable p where
  bounded := ⟨h.bounded.abilities, fun e he => h.bounded.effects e (List.mem_of_mem_filter he)⟩
  preferences := h.preferences

/-! ## Every operation keeps it -/

/-- A granted ability is bounded whatever its pools were. -/
lemma addAbility (h : c.Resumable p) (a : Ability) : (Play.addAbility c id a).Resumable p where
  bounded := ⟨List.forall_mem_append.2 ⟨h.bounded.abilities,
    List.forall_mem_singleton.2 ⟨a.bounded_fresh.uses, a.bounded_fresh.duration⟩⟩,
    h.bounded.effects⟩
  preferences := h.preferences

lemma removeAbility {c' : Character} (h : c.Resumable p) (hc' : Play.removeAbility c id = .ok c') :
    c'.Resumable p := by
  obtain ⟨a, -, rfl⟩ := removeAbility_eq_ok_iff.1 hc'
  exact ⟨⟨fun b hb => h.bounded.abilities b (List.mem_of_mem_filter hb),
    h.dropEffects.bounded.effects⟩, h.preferences⟩

lemma useAbility (h : c.Resumable p) (ht : Play.useAbility c id stamp = .ok t) :
    t.character.Resumable p := by
  obtain ⟨a, -, -, -, rfl⟩ := useAbility_eq_ok_iff.1 ht
  exact (h.updateAbility fun _ => Ability.bounded_spendUse).record _ _

/-- The new effect starts with a full pool. -/
lemma activateAbility {effect : EffectId} (h : c.Resumable p)
    (ht : Play.activateAbility c id effect stamp = .ok t) : t.character.Resumable p := by
  obtain ⟨a, -, -, -, -, rfl⟩ := activateAbility_eq_ok_iff.1 ht
  have hstarted : ((c.updateAbility id Ability.start).dropEffects id).Resumable p :=
    (h.updateAbility fun _ => Ability.bounded_start).dropEffects
  exact ⟨⟨hstarted.bounded.abilities, List.forall_mem_append.2
    ⟨hstarted.bounded.effects, List.forall_mem_singleton.2 (Pool.bounded_full _)⟩⟩,
    hstarted.preferences⟩

lemma deactivateAbility (h : c.Resumable p) (ht : Play.deactivateAbility c id stamp = .ok t) :
    t.character.Resumable p := by
  obtain ⟨a, -, -, -, rfl⟩ := deactivateAbility_eq_ok_iff.1 ht
  exact (h.updateAbility fun _ => Ability.bounded_stop).dropEffects.record _ _

/-- The turns left of an ability are stored in the pool of its effect, which lowers them. -/
lemma endTurn (h : c.Resumable p) : (Play.endTurn c stamp).character.Resumable p := by
  refine ⟨⟨?_, ?_⟩, h.preferences⟩
  · exact List.forall_mem_map.2 fun a ha => Ability.bounded_tickAbility (h.bounded.abilities a ha)
  · intro e' he'
    obtain ⟨e, -, hfollow⟩ := List.mem_filterMap.1 he'
    unfold followSource at hfollow
    split at hfollow
    · split at hfollow
      · obtain rfl := Option.some.inj hfollow
        exact Pool.bounded_set _ _
      · simp at hfollow
    · simp at hfollow

lemma takeRest (h : c.Resumable p) (kind : RestKind) :
    (Play.takeRest c kind stamp).character.Resumable p where
  bounded := ⟨List.forall_mem_map.2 fun a ha =>
    Ability.bounded_restAbility (h.bounded.abilities a ha) kind, List.forall_mem_nil _⟩
  preferences := h.preferences

lemma spendChosen {stamps : Nat → Stamp} {chosen : List AbilityId} {spent : Character}
    (h : c.Resumable p) (hspent : Play.spendChosen c stamps chosen = .ok spent) :
    spent.Resumable p :=
  spendChosen_induction (P := Resumable p) hspent h fun hd ht => hd.useAbility ht

end Character.Resumable

end Tabletop.Sheet

namespace Tabletop.Play

open Tabletop.Dice Tabletop.Save Tabletop.Sheet
open Tabletop.Time (Instant)

variable {σ : Type} [DieSource σ] {s : Session} {p : Preferences}

/-! ## Runs -/

lemma resumable_step (h : s.character.Resumable p) (fresh : Fresh) (op : Operation σ) :
    (s.step fresh op).2.character.Resumable p := by
  -- One case per operation: pools stay bounded, and nothing touches the preferences.
  cases haccepts : s.accepts fresh op with
  | false => rwa [step_eq_self haccepts]
  | true =>
      cases op with
      | addAbility a => exact h.addAbility a
      | removeAbility id =>
          obtain ⟨c', hc', hcharacter⟩ := exists_of_removal haccepts
          exact hcharacter ▸ h.removeAbility hc'
      | useAbility id =>
          obtain ⟨t, ht, hcharacter⟩ := exists_of_commit haccepts
          exact hcharacter ▸ h.useAbility ht
      | activateAbility id =>
          obtain ⟨t, ht, hcharacter⟩ := exists_of_commit haccepts
          exact hcharacter ▸ h.activateAbility ht
      | deactivateAbility id =>
          obtain ⟨t, ht, hcharacter⟩ := exists_of_commit haccepts
          exact hcharacter ▸ h.deactivateAbility ht
      | endTurn => exact h.endTurn
      | rest kind => exact h.takeRest kind
      | attack request dice =>
          obtain ⟨spent, stamp, account, hspent, hcharacter⟩ := exists_of_attack haccepts
          exact hcharacter ▸ (h.spendChosen hspent).record _ _
      | _ => exact h.congr rfl rfl rfl

lemma resumable_run (h : s.character.Resumable p) (ops : List (Fresh × Operation σ)) :
    (s.run ops).character.Resumable p := by
  induction ops generalizing s with
  | nil => exact h
  | cons op ops ih => exact ih (resumable_step h op.1 op.2)

/-- No operation changes the settings. -/
lemma config_step (s : Session) (fresh : Fresh) (op : Operation σ) :
    (s.step fresh op).2.config = s.config := by
  -- Neither a transition nor a refusal carries settings.
  have hcommit : ∀ r, (s.commit r : Except SessionError (Reply σ) × Session).2.config =
      s.config := by
    intro r
    cases r <;> rfl
  cases op with
  | removeAbility id =>
      simp only [Session.step]
      split <;> rfl
  | useAbility id => exact hcommit _
  | activateAbility id => exact hcommit _
  | deactivateAbility id => exact hcommit _
  | attack request dice =>
      simp only [Session.step]
      split
      · rename_i hattack
        obtain ⟨spent, stamp, account, -, rfl⟩ := attack_eq_ok hattack
        rfl
      · rename_i hattack
        rw [attack_eq_error hattack]
  | _ => rfl

lemma config_run (s : Session) (ops : List (Fresh × Operation σ)) :
    (s.run ops).config = s.config := by
  induction ops generalizing s with
  | nil => rfl
  | cons op ops ih => exact (ih _).trans (config_step s op.1 op.2)

/-! ## Sessions of a character -/

/-- What a session makes of the preferences of its character. -/
def SessionConfig.adjust (config : SessionConfig) (p : Preferences) : Preferences :=
  { p with logRetention := config.logRetention.getD p.logRetention }

lemma Session.new_eq (c : Character) (config : SessionConfig) :
    Session.new c config = ⟨{ c with preferences := config.adjust c.preferences }, config⟩ := by
  unfold Session.new SessionConfig.adjust
  cases config.logRetention <;> rfl

/-- Settings have their say once. -/
lemma SessionConfig.adjust_adjust (config : SessionConfig) (p : Preferences) :
    config.adjust (config.adjust p) = config.adjust p := by
  unfold SessionConfig.adjust
  cases config.logRetention <;> rfl

/-- A session whose settings are in accord with the preferences of its character is the session of
that character. -/
lemma Session.new_character (hadjusted : s.config.adjust s.character.preferences =
    s.character.preferences) : Session.new s.character s.config = s := by
  rw [Session.new_eq, hadjusted]

/-- A character with bounded pools is read back from its save. -/
lemma read_of_bounded {c : Character} (hc : c.Bounded) (now : Instant) :
    SavedCharacter.read (SavedCharacter.ofCharacter c now).document =
      .ok (SavedCharacter.ofCharacter c now) := by
  have hclamped : (SavedCharacter.ofCharacter c now).clamped = SavedCharacter.ofCharacter c now :=
    congrArg (fun c' => { SavedCharacter.ofCharacter c now with character := c' })
      (Character.clamped_eq_self_iff.2 hc)
  rw [SavedCharacter.read_document rfl, hclamped]

/-- A session is taken up again from the document of a character. -/
lemma Session.load_of_read {fs : FileSystem} {path document : String} {saved : SavedCharacter}
    (hfile : fs.read path = .ok document) (hread : SavedCharacter.read document = .ok saved)
    (config : SessionConfig) :
    Session.load fs path config = .ok (Session.new saved.character config) := by
  have hload : Save.load fs path = .ok saved := by
    rw [Save.load, hfile]
    simp only [hread]
  rw [Session.load, hload]

lemma store_of_save {now : Instant} {fs fs' : FileSystem} {path : String}
    (h : s.save now fs = (.ok path, fs')) :
    store fs path (SavedCharacter.ofCharacter s.character now) = (.ok (), fs') := by
  unfold Session.save at h
  rcases hstore : store fs s.savePath (SavedCharacter.ofCharacter s.character now) with
    ⟨result, stored⟩
  rw [hstore] at h
  obtain ⟨hresult, rfl⟩ := Prod.mk.inj h
  cases result with
  | ok _ =>
      obtain rfl := Except.ok.inj hresult
      exact hstore
  | error e => simp [Except.map] at hresult

/-- **Saving and resuming loses nothing.**  Take any character with bounded pools, any settings, and
any run of operations, accepted or rejected.  If saving succeeds, then the session taken up again
from the returned path, as long as the file there is what was written, is the very session that was
saved, so every later operation gives the same answer and the same session.  Under other settings it
is the session of that character, with what rests do to the log replaced by what the settings say
about it; settings that say nothing about it replace nothing. -/
theorem resume_saved {c : Character} (hc : c.Bounded) (config : SessionConfig)
    (ops : List (Fresh × Operation σ)) (now : Instant) {fs fs' later : FileSystem} {path : String}
    (hsave : ((Session.new c config).run ops).save now fs = (.ok path, fs'))
    (hlater : later.read path = fs'.read path) :
    let s := (Session.new c config).run ops
    Session.load later path config = .ok s ∧
    ∀ other : SessionConfig, Session.load later path other =
      .ok ⟨{ s.character with
        preferences := { s.character.preferences with
          logRetention := other.logRetention.getD s.character.preferences.logRetention } },
        other⟩ := by
  intro s
  have hstart : (Session.new c config).character.Resumable (config.adjust c.preferences) := by
    rw [Session.new_eq]
    exact ⟨⟨hc.abilities, hc.effects⟩, rfl⟩
  have hs : s.character.Resumable (config.adjust c.preferences) := resumable_run hstart ops
  have hconfig : s.config = config := by
    rw [config_run, Session.new_eq]
  have hfile : later.read path =
      .ok (SavedCharacter.ofCharacter s.character now).document :=
    hlater.trans (read_of_store (store_of_save hsave))
  have hload : ∀ other, Session.load later path other = .ok (Session.new s.character other) :=
    Session.load_of_read hfile (read_of_bounded hs.bounded now)
  refine ⟨?_, fun other => ?_⟩
  -- The settings had their say when the play began, and no operation took it back.
  · have hadjusted : s.config.adjust s.character.preferences = s.character.preferences := by
      rw [hconfig, hs.preferences, SessionConfig.adjust_adjust]
    rw [hload, ← hconfig, Session.new_character hadjusted]
  · rw [hload, Session.new_eq]
    rfl

/-- A barbarian rages, ends a turn, rests, rages again and is hurt, under settings that clear the
log on a rest; the save of that can be taken up. -/
theorem resume_saved_rage :
    let c := sampleBarbarian (numbered 100) "Grog" numbered (numbered 200)
    let config : SessionConfig := ⟨10, .normal, some .clearOnRest, "saves"⟩
    let ops : List (Fresh × Operation ScriptedDice) :=
      [(.numbered 1, .activateAbility (numbered 0)), (.numbered 2, .endTurn),
        (.numbered 3, .rest .long), (.numbered 4, .activateAbility (numbered 0)),
        (.numbered 5, .takeDamage 3)]
    let s := (Session.new c config).run ops
    let now : Instant := ⟨⟨2024, 5, 1, by decide⟩, 12, 0, by decide⟩
    c.Bounded ∧ ∃ fs', s.save now .empty = (.ok "saves/Grog.json", fs') ∧
      Session.load fs' "saves/Grog.json" config = .ok s := by
  intro c config ops s now
  have hc : c.Bounded := by decide +kernel
  have hpath : (s.save now .empty).1 = .ok "saves/Grog.json" := by decide +kernel
  rcases hsave : s.save now .empty with ⟨result, fs'⟩
  rw [hsave] at hpath
  obtain rfl : result = .ok "saves/Grog.json" := hpath
  exact ⟨hc, fs', rfl, (resume_saved hc config ops now hsave rfl).1⟩

end Tabletop.Play
