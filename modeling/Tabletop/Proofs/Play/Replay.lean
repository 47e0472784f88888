import Mathlib.Data.List.Nodup
import Tabletop.Proofs.Play.WellFormedness

/-!
# The log tells it all

The combat log is a complete record of what becomes of the abilities.  `Standing.after` replays an
event on a roster and a turn counter; it knows nothing of the operations, only what an event means.
Replaying what a run has written gives the roster and the turn counter at the end of the run
(`replay_run`).

`Character.Recorded` relates two sheets by the entries between them.  Every operation that leaves
the roster and the log in place is recorded (`recorded_step`): a change of abilities comes with an
entry, and what comes without one, like damage or a refusal, changes no ability.

The replay states the rules of a turn and of a rest without regard to the countdowns it may meet.  It
is well-formedness that makes the operations agree with it: a running ability has a countdown, which
is within its bounds, and the countdown of an inactive one is empty.
-/

namespace Tabletop.Sheet

open Tabletop.Play

/-! ## Replaying -/

/-- The roster of a character and the turn it is in. -/
structure Standing where
  abilities : List Ability
  turn : UInt32
deriving DecidableEq, Repr

/-- The part of a sheet that the log tells about. -/
def Character.standing (c : Character) : Standing :=
  ⟨c.abilities, c.turn⟩

/-- An ability with a use spent, if its uses are limited, active, and its duration filled. -/
def Ability.launched (a : Ability) : Ability :=
  { a with uses := a.uses.map Pool.spend, active := true, duration := some a.countdown.refill }

/-- An ability inactive and drained. -/
def Ability.ended (a : Ability) : Ability :=
  { a with active := false, duration := a.duration.map Pool.drain }

/-- An ability with one turn less; it ends when none is left. -/
def Ability.aged (a : Ability) : Ability :=
  let left := a.duration.map Pool.spend
  { a with duration := left, active := left.any fun d => !d.isEmpty }

/-- An ability ended.  A long rest gives its uses back, whatever it recharges on, and a short rest
does if it recharges on short rests. -/
def Ability.rested (kind : RestKind) (a : Ability) : Ability :=
  { a.ended with
    uses :=
      match kind, a.recharge with
      | .long, _ => a.uses.map Pool.refill
      | .short, .shortRest => a.uses.map Pool.refill
      | .short, _ => a.uses }

namespace Standing

/-- Some abilities changed. -/
def change (x : Standing) (p : Ability → Bool) (f : Ability → Ability) : Standing :=
  { x with abilities := x.abilities.map fun a => if p a then f a else a }

/-- What an event says has become of abilities and turn. -/
def after (x : Standing) : LogEvent → Standing
  | .attack _ => x
  | .abilityUsed _ used => x.change (fun a => used.contains a.id) Ability.spendUse
  | .abilityActivated _ _ used => x.change (fun a => used.contains a.id) Ability.launched
  | .abilityDeactivated name => x.change (fun a => a.name == name) Ability.ended
  | .endTurn _ => { x.change Ability.isRunning Ability.aged with turn := x.turn + 1 }
  | .rest kind => { x.change (fun _ => true) (Ability.rested kind) with turn := 0 }

/-- The entries of a log replayed, oldest first. -/
def replay (x : Standing) (entries : List LogEntry) : Standing :=
  entries.foldl (fun y entry => y.after entry.event) x

variable {x : Standing} {p q : Ability → Bool} {f g : Ability → Ability}

lemma replay_append (entries entries' : List LogEntry) :
    x.replay (entries ++ entries') = (x.replay entries).replay entries' :=
  List.foldl_append

lemma change_congr (hp : ∀ a ∈ x.abilities, p a = q a)
    (hf : ∀ a ∈ x.abilities, p a = true → f a = g a) : x.change p f = x.change q g := by
  unfold change
  congr 1
  refine List.map_congr_left fun a ha => ?_
  rw [← hp a ha]
  split
  · rename_i h
    exact hf a ha h
  · rfl

/-- The names on a roster. -/
def names (x : Standing) : List String :=
  x.abilities.map Ability.name

lemma names_change (hf : ∀ a, (f a).name = a.name) : (x.change p f).names = x.names := by
  unfold names change
  rw [List.map_map]
  refine List.map_congr_left fun a _ => ?_
  show (if p a then f a else a).name = a.name
  split
  · exact hf a
  · rfl

/-- No event renames an ability. -/
lemma names_after (event : LogEvent) : (x.after event).names = x.names := by
  cases event with
  | attack record => rfl
  | _ => exact names_change fun _ => rfl

lemma names_replay (entries : List LogEntry) : (x.replay entries).names = x.names := by
  induction entries generalizing x with
  | nil => rfl
  | cons entry entries ih => exact ih.trans (names_after entry.event)

end Standing

/-! ## What the operations do to an ability -/

namespace Ability

variable {a : Ability}

/-- A turn takes one from the countdown of a running ability, if there is one and it is bounded. -/
lemma tick_eq_aged (hbounded : a.Bounded) {d : Pool} (hd : a.duration = some d) :
    a.tick = a.aged := by
  have hcountdown : a.countdown = d := by rw [countdown, hd, Option.getD_some]
  have hspend : d.spend = ⟨a.turnsAfterTick, d.max⟩ := by
    unfold Pool.spend turnsAfterTick
    rw [hcountdown]
    split
    · rename_i h
      rw [← h]
    · rfl
  -- It is for this that the countdown has to be bounded: setting a pool would clamp it otherwise.
  have hduration := tick_duration hbounded
  rw [hcountdown, ← hspend] at hduration
  have hactive : a.tick.active = !d.spend.isEmpty := by
    rw [hspend]
    exact (decide_not ..).trans (congrArg _ (beq_eq_decide ..).symm)
  have hleft : a.duration.map Pool.spend = some d.spend := congrArg (Option.map _) hd
  unfold aged
  rw [hleft]
  show { a with duration := a.tick.duration, active := a.tick.active } = _
  rw [hduration, hactive]
  rfl

/-- A drained pool stays as it is when it is drained. -/
lemma ended_of_idle (hidle : a.active = false) (hdrained : a.turnsRemaining = 0) :
    a.ended = a := by
  have hduration : a.duration.map Pool.drain = a.duration := by
    unfold turnsRemaining at hdrained
    cases hd : a.duration with
    | none => rfl
    | some d =>
        rw [hd] at hdrained
        have hcurrent : d.current = 0 := hdrained
        rw [Option.map_some, Pool.drain, ← hcurrent]
  unfold ended
  rw [hduration, ← hidle]

/-- The operations find the tier of an ability where the replay does. -/
lemma rested_eq (kind : RestKind) (a : Ability) :
    a.rested kind = { a.ended with
      uses := if rechargesOn a.recharge kind then a.uses.map Pool.refill else a.uses } := by
  unfold rested
  cases kind with
  | long => rfl
  | short => cases a.recharge <;> rfl

/-- A rest ends every ability and refills by tier, if inactive abilities have no turns left. -/
lemma restAbility_eq_rested (kind : RestKind) (h : a.active = false → a.turnsRemaining = 0) :
    restAbility kind a = a.rested kind := by
  rw [rested_eq]
  unfold restAbility
  split
  · rfl
  · split
    · rfl
    · rename_i hidle
      have hidle := Bool.eq_false_iff.2 hidle
      rw [ended_of_idle hidle (h hidle)]

end Ability

namespace Character

variable {c c' c'' : Character} {id : AbilityId}

/-! ## One change of the roster -/

/-- Changing the ability of an identifier is a change of the standing. -/
lemma standing_updateAbility (hc : c.Distinct) (f : Ability → Ability) :
    (c.updateAbility id f).standing = c.standing.change (fun a => a.id == id) f :=
  congrArg (Standing.mk · c.turn) (updateFirst_eq_map hc id f)

/-! ## Recorded changes -/

/-- Two sheets and the entries that the log of the second has more than that of the first: they tell
what has become of abilities and turn. -/
structure Recorded (c : Character) (entries : List LogEntry) (c' : Character) : Prop where
  log : c'.combatLog.entries = c.combatLog.entries ++ entries
  replay : c.standing.replay entries = c'.standing
  preferences : c'.preferences = c.preferences

namespace Recorded

variable {entries entries' : List LogEntry}

lemma refl (c : Character) : Recorded c [] c :=
  ⟨(List.append_nil _).symm, rfl, rfl⟩

lemma trans (h : Recorded c entries c') (h' : Recorded c' entries' c'') :
    Recorded c (entries ++ entries') c'' := by
  refine ⟨?_, ?_, h'.preferences.trans h.preferences⟩
  · rw [h'.log, h.log, List.append_assoc]
  · rw [Standing.replay_append, h.replay, h'.replay]

/-- An event is recorded if it tells what has become of the standing. -/
lemma of_record {event : LogEvent} (stamp : Stamp) (hlog : c'.combatLog = c.combatLog)
    (hafter : c.standing.after event = c'.standing) (hpreferences : c'.preferences = c.preferences) :
    Recorded c [(record c' stamp event).entry] (record c' stamp event).character := by
  refine ⟨?_, hafter, hpreferences⟩
  rw [← hlog]
  rfl

/-- Recorded changes rename no ability. -/
lemma names (h : Recorded c entries c') : c'.standing.names = c.standing.names := by
  rw [← h.replay, Standing.names_replay]

end Recorded

end Character

end Tabletop.Sheet

namespace Tabletop.Play

open Tabletop.Dice Tabletop.Sheet

/-! ## Every operation is recorded -/

lemma contains_singleton (i id : AbilityId) : [id].contains i = (i == id) := by
  simp [beq_eq_decide]

section OneOperation

variable {c : Character} {id : AbilityId} {stamp : Stamp} {t : Transition}

lemma recorded_useAbility (hc : c.Distinct) (h : useAbility c id stamp = .ok t) :
    c.Recorded [t.entry] t.character := by
  obtain ⟨a, -, -, -, rfl⟩ := useAbility_eq_ok_iff.1 h
  refine Character.Recorded.of_record stamp rfl ?_ rfl
  rw [Character.standing_updateAbility hc]
  exact Standing.change_congr (fun b _ => contains_singleton b.id id) fun _ _ _ => rfl

lemma recorded_activateAbility {effect : EffectId} (hc : c.Distinct)
    (h : activateAbility c id effect stamp = .ok t) : c.Recorded [t.entry] t.character := by
  obtain ⟨a, -, -, -, -, rfl⟩ := activateAbility_eq_ok_iff.1 h
  refine Character.Recorded.of_record stamp rfl ?_ rfl
  show _ = (c.updateAbility id Ability.start).standing
  rw [Character.standing_updateAbility hc]
  exact Standing.change_congr (fun b _ => contains_singleton b.id id) fun _ _ _ => rfl

/-- The entry of a deactivation names the ability, which tells enough where names are distinct. -/
lemma recorded_deactivateAbility (hc : c.Distinct) (hnames : c.standing.names.Nodup)
    (h : deactivateAbility c id stamp = .ok t) : c.Recorded [t.entry] t.character := by
  obtain ⟨a, ha, -, -, rfl⟩ := deactivateAbility_eq_ok_iff.1 h
  refine Character.Recorded.of_record stamp rfl ?_ rfl
  show _ = (c.updateAbility id Ability.stop).standing
  rw [Character.standing_updateAbility hc]
  refine Standing.change_congr (fun b hb => ?_) fun _ _ _ => rfl
  have hmem : a ∈ c.abilities := List.mem_of_find?_eq_some ha
  have hid : a.id = id := by simpa using List.find?_some ha
  have hiff : b.name = a.name ↔ b.id = id := by
    constructor
    · intro hname
      rw [List.inj_on_of_nodup_map hnames hb hmem hname, hid]
    · intro hsame
      rw [List.inj_on_of_nodup_map hc hb hmem (hsame.trans hid.symm)]
  rw [Bool.eq_iff_iff, beq_iff_eq, beq_iff_eq, hiff]

/-- Spending the chosen abilities of an attack writes an entry for each. -/
lemma recorded_spendChosen {stamps : Nat → Stamp} {chosen : List AbilityId} {spent : Character}
    (hc : c.Distinct) (h : spendChosen c stamps chosen = .ok spent) :
    ∃ entries, c.Recorded entries spent := by
  -- By induction on the choice.  A use keeps the identifiers distinct, so the entry of the next one
  -- still names a single ability.
  induction chosen generalizing c stamps with
  | nil =>
      obtain rfl := Except.ok.inj h
      exact ⟨[], .refl c⟩
  | cons i chosen ih =>
      unfold spendChosen at h
      split at h
      · rename_i t ht
        have hids : t.character.ids = c.ids := by
          obtain ⟨a, -, -, -, rfl⟩ := useAbility_eq_ok_iff.1 ht
          exact Character.ids_updateAbility Ability.spendUse_id
        have hdistinct : t.character.Distinct := by
          rwa [Character.Distinct, hids]
        obtain ⟨entries, hrest⟩ := ih hdistinct h
        exact ⟨_, (recorded_useAbility hc ht).trans hrest⟩
      · simp at h

/-- A turn is recorded: what runs has a bounded countdown, because its effect is a copy of it. -/
lemma recorded_endTurn (hc : c.WellFormed) (stamp : Stamp) :
    c.Recorded [(endTurn c stamp).entry] (endTurn c stamp).character := by
  refine Character.Recorded.of_record stamp rfl (congrArg (Standing.mk · _) ?_) rfl
  refine List.map_congr_left fun a ha => ?_
  show (if a.isRunning then a.aged else a) = tickAbility a
  unfold tickAbility
  split
  · rename_i hrun
    obtain ⟨e, he, hsource⟩ := hc.running a ha hrun
    have hduration := (hc.mirrors e he a ha hsource.symm).duration
    exact (Ability.tick_eq_aged (hc.bounded.abilities a ha) hduration).symm
  · rfl

/-- A rest is recorded if it keeps the log. -/
lemma recorded_takeRest (hc : c.WellFormed) (hkeep : c.preferences.logRetention = .keep)
    (kind : RestKind) (stamp : Stamp) :
    c.Recorded [(takeRest c kind stamp).entry] (takeRest c kind stamp).character := by
  have hlog : logForRest c = c.combatLog := by rw [logForRest, hkeep]
  refine Character.Recorded.of_record stamp hlog (congrArg (Standing.mk · _) ?_) rfl
  refine List.map_congr_left fun a ha => ?_
  exact (Ability.restAbility_eq_rested kind (hc.drained a ha)).symm

end OneOperation

/-- Whether an operation leaves the list of abilities and the log in place: all do but granting,
removing and clearing the log. -/
def Operation.isRecorded {σ : Type} : Operation σ → Bool
  | .addAbility _ | .removeAbility _ | .clearCombatLog => false
  | _ => true

/-- A sheet whose log is a complete record: it is well-formed, no two abilities share a name, and
rests keep the log. -/
structure Replayable (c : Character) : Prop where
  wellFormed : c.WellFormed
  names : (c.abilities.map Ability.name).Nodup
  keep : c.preferences.logRetention = .keep

instance (c : Character) : Decidable (Replayable c) :=
  decidable_of_iff
    (c.WellFormed ∧ (c.abilities.map Ability.name).Nodup ∧ c.preferences.logRetention = .keep)
    ⟨fun h => ⟨h.1, h.2.1, h.2.2⟩, fun h => ⟨h.wellFormed, h.names, h.keep⟩⟩

variable {σ : Type} [DieSource σ] {s : Session} {fresh : Fresh} {op : Operation σ}

/-- **One operation.**  Whatever an operation does to the abilities, it writes down. -/
lemma recorded_step (fresh : Fresh) (hs : Replayable s.character) (hop : op.isRecorded = true) :
    ∃ entries, s.character.Recorded entries (s.step fresh op).2.character := by
  -- One case per operation.  Deactivation is told by a name, so this case needs the names to be
  -- distinct; the others name identifiers.
  have hc := hs.wellFormed.distinct
  cases h : s.accepts fresh op with
  | false =>
      rw [step_eq_self h]
      exact ⟨[], .refl _⟩
  | true =>
      cases op with
      | addAbility a => simp [Operation.isRecorded] at hop
      | removeAbility id => simp [Operation.isRecorded] at hop
      | clearCombatLog => simp [Operation.isRecorded] at hop
      | useAbility id =>
          obtain ⟨t, ht, hcharacter⟩ := exists_of_commit h
          exact ⟨_, hcharacter ▸ recorded_useAbility hc ht⟩
      | activateAbility id =>
          obtain ⟨t, ht, hcharacter⟩ := exists_of_commit h
          exact ⟨_, hcharacter ▸ recorded_activateAbility hc ht⟩
      | deactivateAbility id =>
          obtain ⟨t, ht, hcharacter⟩ := exists_of_commit h
          exact ⟨_, hcharacter ▸ recorded_deactivateAbility hc hs.names ht⟩
      | endTurn => exact ⟨_, recorded_endTurn hs.wellFormed _⟩
      | rest kind => exact ⟨_, recorded_takeRest hs.wellFormed hs.keep kind _⟩
      | attack request dice =>
          obtain ⟨spent, stamp, account, hspent, hcharacter⟩ := exists_of_attack h
          obtain ⟨entries, hentries⟩ := recorded_spendChosen hc hspent
          exact ⟨_, hcharacter ▸ hentries.trans (.of_record stamp rfl rfl rfl)⟩
      | _ => exact ⟨[], (List.append_nil _).symm, rfl, rfl⟩

/-- Recorded operations keep a sheet replayable. -/
lemma replayable_step (hs : Replayable s.character) (hop : op.isRecorded = true) :
    Replayable (s.step fresh op).2.character := by
  obtain ⟨entries, hentries⟩ := recorded_step fresh hs hop
  have hgranted : granted [(fresh, op)] = [] := by
    cases op with
    | addAbility a => simp [Operation.isRecorded] at hop
    | _ => rfl
  have hfresh : s.FreshFor [(fresh, op)] := by
    rw [Session.FreshFor, hgranted, List.append_nil]
    exact hs.wellFormed.distinct
  refine ⟨wellFormed_run hs.wellFormed hfresh, ?_, ?_⟩
  · have hnames : (s.step fresh op).2.character.abilities.map Ability.name =
        s.character.abilities.map Ability.name := hentries.names
    rw [hnames]
    exact hs.names
  · rw [hentries.preferences, hs.keep]

lemma recorded_run {ops : List (Fresh × Operation σ)} (hs : Replayable s.character)
    (hops : ∀ op ∈ ops, op.2.isRecorded = true) :
    ∃ entries, s.character.Recorded entries (s.run ops).character := by
  induction ops generalizing s with
  | nil => exact ⟨[], .refl _⟩
  | cons op ops ih =>
      obtain ⟨hop, hops⟩ := List.forall_mem_cons.1 hops
      obtain ⟨entries, hentries⟩ := recorded_step op.1 hs hop
      obtain ⟨entries', hentries'⟩ := ih (replayable_step hs hop) hops
      exact ⟨entries ++ entries', hentries.trans hentries'⟩

/-- **The log is a complete record.**  Take a well-formed sheet on which no two abilities share a
name and whose log is kept by rests, and any run of operations, accepted or rejected, that neither
grants nor removes an ability nor clears the log.  The run writes entries to the end of the log, and
replaying them on the roster and the turn counter of the start gives those of the end, in every
detail. -/
theorem replay_run {ops : List (Fresh × Operation σ)} (hs : s.character.WellFormed)
    (hnames : (s.character.abilities.map Ability.name).Nodup)
    (hkeep : s.character.preferences.logRetention = .keep)
    (hops : ∀ op ∈ ops, op.2.isRecorded = true) :
    ∃ entries,
      (s.run ops).character.combatLog.entries = s.character.combatLog.entries ++ entries ∧
      s.character.standing.replay entries = (s.run ops).character.standing := by
  obtain ⟨entries, hentries⟩ := recorded_run ⟨hs, hnames, hkeep⟩ hops
  exact ⟨entries, hentries.log, hentries.replay⟩

/-- A paladin who has learnt to rage does so twice, smites twice in one attack, tries a third smite in
vain, and rests.  Two entries are written by the attack before its own, and none by the refusal. -/
theorem replay_run_rage :
    let smite : AbilityId := numbered 0
    let fury : AbilityId := numbered 50
    let s := (paladinSession.step (.numbered 50)
      (.addAbility (rage smite) : Operation ScriptedDice)).2
    let ops : List (Fresh × Operation ScriptedDice) :=
      [(.numbered 1, .activateAbility fury), (.numbered 2, .endTurn),
        (.numbered 3, .attack ⟨numbered 200, [smite, smite], none, none⟩ (.ofList [12, 5, 4, 3])),
        (.numbered 9, .useAbility smite), (.numbered 10, .takeDamage 3),
        (.numbered 11, .deactivateAbility fury), (.numbered 12, .rest .long),
        (.numbered 13, .activateAbility fury), (.numbered 14, .endTurn)]
    (s.character.WellFormed ∧ (s.character.abilities.map Ability.name).Nodup ∧
      s.character.preferences.logRetention = .keep ∧ ∀ op ∈ ops, op.2.isRecorded = true) ∧
    ∃ entries, (s.run ops).character.combatLog.entries = entries ∧ entries.length = 9 ∧
      s.character.standing.replay entries = (s.run ops).character.standing := by
  intro smite fury s ops
  have hs : s.character.WellFormed := by decide +kernel
  have hnames : (s.character.abilities.map Ability.name).Nodup := by decide +kernel
  have hkeep : s.character.preferences.logRetention = .keep := by decide +kernel
  have hops : ∀ op ∈ ops, op.2.isRecorded = true := by decide +kernel
  have hlength : (s.run ops).character.combatLog.entries.length = 9 := by decide +kernel
  have hempty : s.character.combatLog.entries = [] := by decide +kernel
  obtain ⟨entries, hlog, hreplay⟩ := replay_run hs hnames hkeep hops
  rw [hempty, List.nil_append] at hlog
  exact ⟨⟨hs, hnames, hkeep, hops⟩, entries, hlog, hlog ▸ hlength, hreplay⟩

end Tabletop.Play
