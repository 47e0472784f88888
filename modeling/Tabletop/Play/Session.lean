import Tabletop.Play.Attack

/-!
# Sessions

A session is a character being played under some settings.  `Operation` lists what can be done in
one, and `Session.step` does it: it answers with a `Reply` or the reason why the operation was
rejected, and gives the session after it.  A rejected operation leaves the session as it was.

## Fresh things

New identifiers and times come from outside, as `Fresh`.  Nothing here depends on what they are.
-/

namespace Tabletop.Play

open Tabletop.Dice Tabletop.Rules Tabletop.Sheet

/-- A character being played. -/
structure Session where
  character : Character
  config : SessionConfig
deriving DecidableEq, Repr

/-- The new identifiers and times an operation may need. -/
structure Fresh where
  /-- The identifier of a granted ability. -/
  ability : AbilityId
  /-- The identifier of a new active effect. -/
  effect : EffectId
  /-- The stamps of new log entries, in the order in which they are written. -/
  stamps : Nat → Stamp

/-- Why an operation was rejected. -/
inductive SessionError
  | attack (error : AttackError)
  | usage (error : UsageError)
deriving DecidableEq, Repr

/-- The message of an error. -/
def SessionError.message : SessionError → String
  | .attack error => error.message
  | .usage error => error.message

/-- What can be done in a session.  An attack brings the source of its dice. -/
inductive Operation (σ : Type)
  | addAbility (ability : Ability)
  | removeAbility (id : AbilityId)
  | useAbility (id : AbilityId)
  | activateAbility (id : AbilityId)
  | deactivateAbility (id : AbilityId)
  | endTurn
  | rest (kind : RestKind)
  | clearCombatLog
  | takeDamage (amount : Int32)
  | heal (amount : Int32)
  | addTemporary (amount : Int32)
  | attack (request : AttackRequest) (dice : σ)

/-- The answer to an operation. -/
inductive Reply (σ : Type)
  /-- An ability was granted. -/
  | granted (id : AbilityId)
  /-- It was written to the log. -/
  | logged (entry : LogEntry)
  /-- Damage was taken. -/
  | damaged (taken : DamageTaken)
  /-- Hit points came back. -/
  | healed (amount : Int32)
  /-- An attack was made, which left the source of its dice as given. -/
  | attacked (outcome : AttackOutcome) (dice : σ)
  /-- There is nothing to say. -/
  | done

namespace Session

/-- A session of a character; the settings may override what rests do to the log. -/
def new (c : Character) (config : SessionConfig) : Session :=
  match config.logRetention with
  | none => ⟨c, config⟩
  | some retention =>
    ⟨{ c with preferences := { c.preferences with logRetention := retention } }, config⟩

/-- The session with another character. -/
def withCharacter (s : Session) (c : Character) : Session :=
  { s with character := c }

/-- The abilities that apply to an attack with an item. -/
def applicable (s : Session) (item : ItemId) : Except AttackError ApplicableEffects :=
  match s.character.item? item with
  | some i => .ok (applicableEffects i.actionTags s.character.abilities)
  | none => .error (.itemNotFound item)

/-- Makes an attack: what happened, the session after it, and the source after its dice. -/
def attack {σ : Type} [DieSource σ] (s : Session) (request : AttackRequest)
    (stamps : Nat → Stamp) (dice : σ) : Except AttackError AttackOutcome × Session × σ :=
  match prepareAttack s.character request stamps with
  | .error e => (.error e, s, dice)
  | .ok prepared =>
    match resolveAttack s.character prepared (request.mode.getD s.config.rollMode)
        (request.targetAc.getD s.config.targetAc) (stamps request.chosen.length) dice with
    | (.error e, dice) => (.error e, s, dice)
    | (.ok (outcome, c), dice) => (.ok outcome, s.withCharacter c, dice)

/-- The session after a transition, and the entry it wrote. -/
def commit {σ : Type} (s : Session) :
    Except UsageError Transition → Except SessionError (Reply σ) × Session
  | .error e => (.error (.usage e), s)
  | .ok t => (.ok (.logged t.entry), s.withCharacter t.character)

/-- The answer to an operation, and the session after it. -/
def step {σ : Type} [DieSource σ] (s : Session) (fresh : Fresh) :
    Operation σ → Except SessionError (Reply σ) × Session
  | .addAbility a =>
    (.ok (.granted fresh.ability), s.withCharacter (Play.addAbility s.character fresh.ability a))
  | .removeAbility id =>
    match Play.removeAbility s.character id with
    | .ok c => (.ok .done, s.withCharacter c)
    | .error e => (.error (.usage e), s)
  | .useAbility id => s.commit (Play.useAbility s.character id (fresh.stamps 0))
  | .activateAbility id =>
    s.commit (Play.activateAbility s.character id fresh.effect (fresh.stamps 0))
  | .deactivateAbility id => s.commit (Play.deactivateAbility s.character id (fresh.stamps 0))
  | .endTurn => s.commit (.ok (Play.endTurn s.character (fresh.stamps 0)))
  | .rest kind => s.commit (.ok (takeRest s.character kind (fresh.stamps 0)))
  | .clearCombatLog => (.ok .done, s.withCharacter (Play.clearCombatLog s.character))
  | .takeDamage amount =>
    let (hp, taken) := s.character.hitPoints.takeDamage amount
    (.ok (.damaged taken), s.withCharacter { s.character with hitPoints := hp })
  | .heal amount =>
    let (hp, healed) := s.character.hitPoints.heal amount
    (.ok (.healed healed), s.withCharacter { s.character with hitPoints := hp })
  | .addTemporary amount =>
    (.ok .done, s.withCharacter
      { s.character with hitPoints := s.character.hitPoints.addTemporary amount })
  | .attack request dice =>
    match s.attack request fresh.stamps dice with
    | (.ok outcome, s, dice) => (.ok (.attacked outcome dice), s)
    | (.error e, s, _) => (.error (.attack e), s)

/-- The session after a run of operations, accepted or rejected, each with its fresh things. -/
def run {σ : Type} [DieSource σ] (s : Session) (ops : List (Fresh × Operation σ)) : Session :=
  ops.foldl (fun s op => (s.step op.1 op.2).2) s

end Session

end Tabletop.Play
