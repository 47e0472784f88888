import Mathlib.Data.List.Perm.Basic
import Tabletop.Proofs.Play.AttackChange

/-!
# Operations on different abilities are independent

Using, activating, deactivating and removing all look one ability up by identifier, and change the
roster, the list of active effects and the log of the whole sheet.  Done to two different abilities
they come to the same in either order (`steps_commute`), up to what nobody chose: the order of new
effects and entries, and their fresh identifiers and times.

Sixteen pairs of operations, accepted or refused, need not be compared one by one.  Each operation
is an `Edit`, which knows what becomes of one ability, whether its effects end, and what is started
and written; a refusal is the edit that changes nothing.  Which edit it is depends on the ability
under the identifier alone (`isEditOf_of_target`), and an edit leaves every other ability where it
is (`ability?_apply`).  So the second operation finds what it would have found at first, and all
that is left is that two edits commute, one field of the sheet after the other.

None of this needs the sheet to be well-formed.
-/

namespace Tabletop.Sheet

/-- What an active effect is, whatever its own identifier. -/
def ActiveEffect.content (e : ActiveEffect) : AbilityId × String × Pool × Option AbilityEffect :=
  (e.source, e.name, e.duration, e.effect)

/-- Whether two sheets that came from the same one are the same, up to the order in which effects
were created and entries written since, and up to their identifiers and times. -/
structure Character.Reordered (start c c' : Character) : Prop where
  /-- All else is the same, the roster with its order. -/
  sheet : c' = { c with activeEffects := c'.activeEffects, combatLog := c'.combatLog }
  effects : (c.activeEffects.map ActiveEffect.content).Perm
    (c'.activeEffects.map ActiveEffect.content)
  log : ∃ new new', c.combatLog.entries = start.combatLog.entries ++ new ∧
    c'.combatLog.entries = start.combatLog.entries ++ new' ∧
    (new.map LogEntry.content).Perm (new'.map LogEntry.content)

end Tabletop.Sheet

namespace Tabletop.Play

open Tabletop.Dice Tabletop.Sheet

/-! ## Changes of a list that do not meet -/

section UpdateFirst

variable {α : Type} {p q : α → Bool} {f g : α → α}

lemma updateFirst_self (p : α → Bool) (l : List α) : updateFirst p (fun a => a) l = l := by
  induction l with
  | nil => rfl
  | cons a l ih => simp only [updateFirst, ih, ite_self]

/-- Two changes of first matches commute when neither makes or unmakes a match of the other. -/
lemma updateFirst_comm (hpq : ∀ a, p a = true → q a = false) (hf : ∀ a, q (f a) = q a)
    (hg : ∀ a, p (g a) = p a) (l : List α) :
    updateFirst p f (updateFirst q g l) = updateFirst q g (updateFirst p f l) := by
  induction l with
  | nil => rfl
  | cons a l ih =>
      cases hp : p a with
      | true => simp [updateFirst, hp, hpq a hp, hf]
      | false => cases hq : q a <;> simp [updateFirst, hp, hq, hg, ih]

/-- A change of the first match does not meet a filter that drops no match. -/
lemma filter_updateFirst (hpq : ∀ a, p a = true → q a = true) (hf : ∀ a, q (f a) = q a)
    (l : List α) : (updateFirst p f l).filter q = updateFirst p f (l.filter q) := by
  induction l with
  | nil => rfl
  | cons a l ih =>
      cases hp : p a with
      | true => simp [updateFirst, hp, hpq a hp, hf]
      | false => cases hq : q a <;> simp [updateFirst, hp, hq, ih]

/-- A change of the first match is not seen by a filter that drops all matches. -/
lemma filter_updateFirst_of_dropped (hpq : ∀ a, p a = true → q a = false)
    (hf : ∀ a, q (f a) = q a) (l : List α) : (updateFirst p f l).filter q = l.filter q := by
  induction l with
  | nil => rfl
  | cons a l ih =>
      cases hp : p a with
      | true => simp [updateFirst, hp, hpq a hp, hf]
      | false => cases hq : q a <;> simp [updateFirst, hp, hq, ih]

end UpdateFirst

/-! ## Edits -/

/-- What an operation on one ability does. -/
structure Edit where
  /-- How it is answered: refused, or accepted with the event that is written to the log. -/
  answer : Except UsageError (Option LogEvent)
  /-- What becomes of the ability, if it stays on the roster. -/
  change : Option (Ability → Ability)
  /-- Whether the effects that come from it end. -/
  ends : Bool
  /-- The ability a new effect is a copy of. -/
  starts : Option Ability

namespace Edit

/-- The edit of a refused operation, which changes nothing. -/
def refused (e : UsageError) : Edit :=
  ⟨.error e, some fun a => a, false, none⟩

/-- Whether an edit is about the ability with an identifier and no other. -/
structure About (edit : Edit) (id : AbilityId) : Prop where
  change : ∀ f ∈ edit.change, ∀ a, (f a).id = a.id
  starts : ∀ a ∈ edit.starts, a.id = id

/-- The roster after an edit. -/
def roster (edit : Edit) (id : AbilityId) (abilities : List Ability) : List Ability :=
  match edit.change with
  | some f => updateFirst (fun a => a.id == id) f abilities
  | none => abilities.filter fun a => a.id != id

/-- The effects an edit leaves in place. -/
def kept (edit : Edit) (id : AbilityId) (effects : List ActiveEffect) : List ActiveEffect :=
  if edit.ends then effects.filter fun e => e.source != id else effects

/-- The effects an edit creates. -/
def created (edit : Edit) (effect : EffectId) : List ActiveEffect :=
  (edit.starts.map (ActiveEffect.ofAbility effect)).toList

/-- The entries an edit writes. -/
def written (edit : Edit) (stamp : Stamp) (turn : UInt32) : List LogEntry :=
  match edit.answer with
  | .ok (some event) => [LogEntry.ofEvent stamp turn event]
  | _ => []

/-- The sheet after an edit. -/
def apply (edit : Edit) (id : AbilityId) (fresh : Fresh) (c : Character) : Character :=
  { c with
    abilities := edit.roster id c.abilities
    activeEffects := edit.kept id c.activeEffects ++ edit.created fresh.effect
    combatLog := ⟨c.combatLog.entries ++ edit.written (fresh.stamps 0) c.turn⟩ }

/-- What the answer to an edit says. -/
def told (edit : Edit) (turn : UInt32) : Except SessionError (Option (UInt32 × LogEvent)) :=
  match edit.answer with
  | .error e => .error (.usage e)
  | .ok event => .ok (event.map (turn, ·))

variable {edit edit' : Edit} {id other : AbilityId}

lemma about_refused (e : UsageError) (id : AbilityId) : (refused e).About id where
  change := by
    rintro _ ⟨⟩ a
    rfl
  starts a ha := absurd ha (Option.not_mem_none a)

lemma apply_refused (e : UsageError) (id : AbilityId) (fresh : Fresh) (c : Character) :
    (refused e).apply id fresh c = c := by
  simp [apply, refused, roster, kept, created, written, updateFirst_self]

lemma About.source_of_created (h : edit.About id) {effect : EffectId} {e : ActiveEffect}
    (he : e ∈ edit.created effect) : e.source = id := by
  obtain ⟨a, ha, rfl⟩ := Option.map_eq_some_iff.1 (Option.mem_toList.1 he)
  exact h.starts a ha

/-! ### What an edit leaves alone -/

lemma filter_roster (h : edit.About id) (abilities : List Ability) :
    (edit.roster id abilities).filter (fun a => a.id != id) =
      abilities.filter fun a => a.id != id := by
  unfold roster
  split
  · rename_i f hf
    refine filter_updateFirst_of_dropped (fun a ha => ?_) (fun a => ?_) abilities
    · simpa using ha
    · rw [h.change f hf]
  · rw [List.filter_filter]
    simp

lemma filter_effects (h : edit.About id) (effect : EffectId) (effects : List ActiveEffect) :
    (edit.kept id effects ++ edit.created effect).filter (fun e => e.source != id) =
      effects.filter fun e => e.source != id := by
  have hkept : (edit.kept id effects).filter (fun e => e.source != id) =
      effects.filter fun e => e.source != id := by
    unfold kept
    split
    · rw [List.filter_filter]
      simp
    · rfl
  have hcreated : (edit.created effect).filter (fun e => e.source != id) = [] := by
    rw [List.filter_eq_nil_iff]
    intro e he
    simp [h.source_of_created he]
  rw [List.filter_append, hkept, hcreated, List.append_nil]

/-- An edit does not change what is found under another identifier. -/
lemma ability?_apply (h : edit.About id) (hother : other ≠ id) (fresh : Fresh) (c : Character) :
    (edit.apply id fresh c).ability? other = c.ability? other := by
  show (edit.roster id c.abilities).find? _ = c.abilities.find? _
  unfold roster
  split
  · rename_i f hf
    rw [Character.find?_updateFirst id other (h.change f hf), if_neg hother]
  · rw [Character.find?_filter_ne, if_neg hother]

/-! ### Edits commute -/

lemma roster_comm (h : edit.About id) (h' : edit'.About other) (hother : other ≠ id)
    (abilities : List Ability) :
    edit'.roster other (edit.roster id abilities) =
      edit.roster id (edit'.roster other abilities) := by
  have hmatch : ∀ a : Ability, (a.id == id) = true → (a.id == other) = false := by
    intro a ha
    simpa [eq_of_beq ha] using hother.symm
  have hmatch' : ∀ a : Ability, (a.id == other) = true → (a.id == id) = false := by
    intro a ha
    simpa [eq_of_beq ha] using hother
  unfold roster
  -- An edit changes an ability in place or drops it, so there are four ways for two of them to
  -- meet.
  cases hf : edit.change with
  | none =>
      cases hg : edit'.change with
      | none => exact List.filter_comm _ _ _
      | some g =>
          have hgid := h'.change g hg
          refine (filter_updateFirst (fun a ha => ?_) (fun a => ?_) abilities).symm
          · simp [bne, hmatch' a ha]
          · rw [hgid]
  | some f =>
      have hfid := h.change f hf
      cases hg : edit'.change with
      | none =>
          refine filter_updateFirst (fun a ha => ?_) (fun a => ?_) abilities
          · simp [bne, hmatch a ha]
          · rw [hfid]
      | some g =>
          have hgid := h'.change g hg
          refine updateFirst_comm hmatch' (fun a => ?_) (fun a => ?_) abilities
          · rw [hgid]
          · rw [hfid]

lemma kept_comm (effects : List ActiveEffect) :
    edit'.kept other (edit.kept id effects) = edit.kept id (edit'.kept other effects) := by
  unfold kept
  split
  · split
    · exact List.filter_comm _ _ _
    · rfl
  · rfl

/-- What an edit creates stays when another ability is edited. -/
lemma kept_append_created (h : edit.About id) (hother : other ≠ id) (effect : EffectId)
    (effects : List ActiveEffect) :
    edit'.kept other (effects ++ edit.created effect) =
      edit'.kept other effects ++ edit.created effect := by
  unfold kept
  split
  · have hcreated : (edit.created effect).filter (fun e => e.source != other) =
        edit.created effect := by
      rw [List.filter_eq_self]
      intro e he
      simpa [h.source_of_created he] using hother.symm
    rw [List.filter_append, hcreated]
  · rfl

lemma content_created (effect effect' : EffectId) :
    (edit.created effect).map ActiveEffect.content =
      (edit.created effect').map ActiveEffect.content := by
  unfold created
  cases edit.starts <;> rfl

lemma content_written (stamp stamp' : Stamp) (turn : UInt32) :
    (edit.written stamp turn).map LogEntry.content =
      (edit.written stamp' turn).map LogEntry.content := by
  unfold written
  split <;> rfl

/-- Two edits of different abilities come to the same in either order. -/
lemma reordered_apply (h : edit.About id) (h' : edit'.About other) (hother : other ≠ id)
    (f f' g g' : Fresh) (c : Character) :
    c.Reordered (edit'.apply other f' (edit.apply id f c))
      (edit.apply id g (edit'.apply other g' c)) where
  sheet := by
    have hroster := roster_comm h h' hother c.abilities
    simp only [apply, hroster]
  effects := by
    show (edit'.kept other (edit.kept id c.activeEffects ++ edit.created f.effect) ++
        edit'.created f'.effect).map ActiveEffect.content |>.Perm
      ((edit.kept id (edit'.kept other c.activeEffects ++ edit'.created g'.effect) ++
        edit.created g.effect).map ActiveEffect.content)
    -- What the first edit creates is about its own ability, so the second edit keeps it.
    rw [kept_append_created h hother, kept_append_created h' hother.symm, kept_comm]
    simp only [List.map_append, List.append_assoc]
    rw [content_created g.effect f.effect, content_created g'.effect f'.effect]
    exact List.perm_append_comm.append_left _
  log := by
    refine ⟨edit.written (f.stamps 0) c.turn ++ edit'.written (f'.stamps 0) c.turn,
      edit'.written (g'.stamps 0) c.turn ++ edit.written (g.stamps 0) c.turn,
      List.append_assoc _ _ _, List.append_assoc _ _ _, ?_⟩
    rw [List.map_append, List.map_append, content_written (g.stamps 0) (f.stamps 0),
      content_written (g'.stamps 0) (f'.stamps 0)]
    exact List.perm_append_comm

end Edit

/-! ## Every operation on one ability is an edit -/

section Operations

variable {σ : Type}

/-- The ability that an operation on one ability is about. -/
def Operation.target? : Operation σ → Option AbilityId
  | .removeAbility id | .useAbility id | .activateAbility id | .deactivateAbility id => some id
  | _ => none

/-- What an answer says that is in the log; an operation that writes nothing is only accepted. -/
def Reply.told : Reply σ → Option (UInt32 × LogEvent)
  | .logged entry => some entry.content
  | _ => none

/-- Whether an answer and the session after it are those of an edit. -/
structure Edit.Answers (edit : Edit) (id : AbilityId) (fresh : Fresh) (s : Session)
    (answer : Except SessionError (Reply σ) × Session) : Prop where
  told : answer.1.map Reply.told = edit.told s.character.turn
  session : answer.2 = s.withCharacter (edit.apply id fresh s.character)

lemma Edit.answers_refused (e : UsageError) (id : AbilityId) (fresh : Fresh) (s : Session) :
    (Edit.refused e).Answers id fresh s
      ((.error (.usage e), s) : Except SessionError (Reply σ) × Session) where
  told := rfl
  session := by rw [Edit.apply_refused, Session.withCharacter]

/-- What a check of the ability under an identifier finds is settled by that ability. -/
lemma readyAbility_congr {c c' : Character} {id : AbilityId} (h : c'.ability? id = c.ability? id)
    (kind : AbilityKind) : readyAbility c' id kind = readyAbility c id kind := by
  simp only [readyAbility, findAbility, h]

lemma activeAbility_congr {c c' : Character} {id : AbilityId} (h : c'.ability? id = c.ability? id) :
    activeAbility c' id = activeAbility c id := by
  simp only [activeAbility, findAbility, h]

/-- An operation that writes an event is the edit with its event, its roster and its effects. -/
lemma Edit.answers_record {edit : Edit} {id : AbilityId} {fresh : Fresh} {s : Session}
    {event : LogEvent} (hanswer : edit.answer = .ok (some event)) {c : Character}
    (hc : c = { s.character with
      abilities := edit.roster id s.character.abilities
      activeEffects := edit.kept id s.character.activeEffects ++ edit.created fresh.effect }) :
    edit.Answers id fresh s
      (s.commit (.ok (record c (fresh.stamps 0) event)) :
        Except SessionError (Reply σ) × Session) where
  told := by
    rw [hc, Edit.told, hanswer]
    rfl
  session := by
    have hwritten : edit.written (fresh.stamps 0) s.character.turn =
        [LogEntry.ofEvent (fresh.stamps 0) s.character.turn event] := by
      rw [Edit.written, hanswer]
    rw [hc, Edit.apply, hwritten]
    rfl

variable [DieSource σ]

/-- Whether an operation is the same edit of one ability on every sheet that holds what a given
sheet holds under the identifier. -/
def Operation.IsEditOf (op : Operation σ) (id : AbilityId) (c : Character) : Prop :=
  ∃ edit : Edit, edit.About id ∧ ∀ (s : Session) (fresh : Fresh),
    s.character.ability? id = c.ability? id → edit.Answers id fresh s (s.step fresh op)

section

variable (c : Character) (id : AbilityId)

lemma isEditOf_removeAbility : (Operation.removeAbility id : Operation σ).IsEditOf id c := by
  cases hfound : c.ability? id with
  | none =>
      refine ⟨.refused (.abilityNotFound id), Edit.about_refused _ _, fun s fresh hs => ?_⟩
      have hrefused : removeAbility s.character id = .error (.abilityNotFound id) := by
        simp only [removeAbility, findAbility, hs, hfound]
      simp only [Session.step, hrefused]
      exact Edit.answers_refused _ _ _ _
  | some a =>
      refine ⟨⟨.ok none, none, true, none⟩, ⟨fun f hf => absurd hf (Option.not_mem_none f),
        fun a ha => absurd ha (Option.not_mem_none a)⟩, fun s fresh hs => ?_⟩
      have hremoved := removeAbility_eq_ok_iff.2 ⟨a, hs.trans hfound, rfl⟩
      simp only [Session.step, hremoved]
      refine ⟨rfl, congrArg s.withCharacter ?_⟩
      simp only [Edit.apply, Edit.roster, Edit.kept, Edit.created, Edit.written,
        Character.dropEffects, Option.map_none, Option.toList_none, List.append_nil, if_true]

lemma isEditOf_useAbility : (Operation.useAbility id : Operation σ).IsEditOf id c := by
  cases hready : readyAbility c id .instant with
  | error e =>
      refine ⟨.refused e, Edit.about_refused _ _, fun s fresh hs => ?_⟩
      rw [Session.step, useAbility, readyAbility_congr hs, hready]
      exact Edit.answers_refused _ _ _ _
  | ok a =>
      refine ⟨⟨.ok (some (.abilityUsed a.name [id])), some Ability.spendUse, false, none⟩,
        ⟨?_, fun a ha => absurd ha (Option.not_mem_none a)⟩, fun s fresh hs => ?_⟩
      · rintro _ ⟨⟩
        exact Ability.spendUse_id
      · rw [Session.step, useAbility, readyAbility_congr hs, hready]
        refine Edit.answers_record rfl ?_
        simp only [Edit.roster, Edit.kept, Edit.created, Character.updateAbility,
          Option.map_none, Option.toList_none, List.append_nil, Bool.false_eq_true, if_false]

lemma isEditOf_activateAbility : (Operation.activateAbility id : Operation σ).IsEditOf id c := by
  cases hready : readyAbility c id .duration with
  | error e =>
      refine ⟨.refused e, Edit.about_refused _ _, fun s fresh hs => ?_⟩
      rw [Session.step, activateAbility, readyAbility_congr hs, hready]
      exact Edit.answers_refused _ _ _ _
  | ok a =>
      have hid : a.id = id := Character.id_of_slot (readyAbility_eq_ok_iff.1 hready).1
      -- Accepted, an activation is the edit that starts the ability, drops what is left of an
      -- earlier activation, and creates the new effect.
      refine ⟨⟨.ok (some (.abilityActivated a.name a.countdown.max [id])), some Ability.start, true,
        some a.start⟩, ⟨?_, ?_⟩, fun s fresh hs => ?_⟩
      · rintro _ ⟨⟩
        exact Ability.start_id
      · rintro _ ⟨⟩
        exact hid
      · have hturns : (ActiveEffect.ofAbility fresh.effect a.start).duration.max =
            a.countdown.max := rfl
        rw [Session.step, activateAbility, readyAbility_congr hs, hready]
        dsimp only
        rw [hturns]
        refine Edit.answers_record rfl ?_
        simp only [Edit.roster, Edit.kept, Edit.created, Character.updateAbility,
          Character.dropEffects, Option.map_some, Option.toList_some, if_true]

lemma isEditOf_deactivateAbility :
    (Operation.deactivateAbility id : Operation σ).IsEditOf id c := by
  cases hactive : activeAbility c id with
  | error e =>
      refine ⟨.refused e, Edit.about_refused _ _, fun s fresh hs => ?_⟩
      rw [Session.step, deactivateAbility, activeAbility_congr hs, hactive]
      exact Edit.answers_refused _ _ _ _
  | ok a =>
      refine ⟨⟨.ok (some (.abilityDeactivated a.name)), some Ability.stop, true, none⟩,
        ⟨?_, fun a ha => absurd ha (Option.not_mem_none a)⟩, fun s fresh hs => ?_⟩
      · rintro _ ⟨⟩
        exact Ability.stop_id
      · rw [Session.step, deactivateAbility, activeAbility_congr hs, hactive]
        refine Edit.answers_record rfl ?_
        simp only [Edit.roster, Edit.kept, Edit.created, Character.updateAbility,
          Character.dropEffects, Option.map_none, Option.toList_none, List.append_nil, if_true]

/-- **Every operation on one ability is an edit.**  What it does is settled by the ability under the
identifier, whatever else is on the sheet. -/
lemma isEditOf_of_target {op : Operation σ} {id : AbilityId} (hop : op.target? = some id) :
    op.IsEditOf id c := by
  cases op with
  | removeAbility i =>
      obtain rfl := Option.some.inj hop
      exact isEditOf_removeAbility c i
  | useAbility i =>
      obtain rfl := Option.some.inj hop
      exact isEditOf_useAbility c i
  | activateAbility i =>
      obtain rfl := Option.some.inj hop
      exact isEditOf_activateAbility c i
  | deactivateAbility i =>
      obtain rfl := Option.some.inj hop
      exact isEditOf_deactivateAbility c i
  | _ => simp [Operation.target?] at hop

end

/-- **Operations on different abilities are independent.**  Two operations that each use, activate,
deactivate or remove one ability, and not the same, are answered alike in either order: refused for
the same reason, or accepted with the same entry.  Both orders leave the same sheet, up to the order
in which effects were created and entries written, and their fresh identifiers and times.  Whatever
becomes of its own ability, an operation leaves all the others on the roster, and the effects that
come from them, as they are. -/
theorem steps_commute {op op' : Operation σ} {id id' : AbilityId} (hop : op.target? = some id)
    (hop' : op'.target? = some id') (hne : id ≠ id') (s : Session) (f f' g g' : Fresh) :
    let first := (s.step f op).2
    let first' := (s.step g' op').2
    let both := (first.step f' op').2
    let both' := (first'.step g op).2
    ((first'.step g op).1.map Reply.told = (s.step f op).1.map Reply.told ∧
      (first.step f' op').1.map Reply.told = (s.step g' op').1.map Reply.told) ∧
    (s.character.Reordered both.character both'.character ∧ both'.config = both.config) ∧
    (first.character.abilities.filter (fun a => a.id != id) =
        s.character.abilities.filter (fun a => a.id != id) ∧
      first.character.activeEffects.filter (fun e => e.source != id) =
        s.character.activeEffects.filter (fun e => e.source != id)) := by
  intro first first' both both'
  obtain ⟨edit, habout, hedit⟩ := isEditOf_of_target s.character hop
  obtain ⟨edit', habout', hedit'⟩ := isEditOf_of_target s.character hop'
  -- Each operation is one edit on every sheet that has its ability as it is here.  The edit of the
  -- other leaves that ability alone, so it may come first.
  have hfirst := hedit s f rfl
  have hfirst' := hedit' s g' rfl
  have hfound' : first.character.ability? id' = s.character.ability? id' := by
    show (s.step f op).2.character.ability? id' = _
    rw [hfirst.session]
    exact Edit.ability?_apply habout hne.symm f s.character
  have hfound : first'.character.ability? id = s.character.ability? id := by
    show (s.step g' op').2.character.ability? id = _
    rw [hfirst'.session]
    exact Edit.ability?_apply habout' hne g' s.character
  have hboth := hedit' first f' hfound'
  have hboth' := hedit first' g hfound
  -- The answers are entries, which tell the turn; no edit changes it.
  have hturn : first.character.turn = s.character.turn := by
    show (s.step f op).2.character.turn = _
    rw [hfirst.session]
    rfl
  have hturn' : first'.character.turn = s.character.turn := by
    show (s.step g' op').2.character.turn = _
    rw [hfirst'.session]
    rfl
  refine ⟨⟨?_, ?_⟩, ⟨?_, ?_⟩, ?_, ?_⟩
  · rw [hboth'.told, hfirst.told, hturn']
  · rw [hboth.told, hfirst'.told, hturn]
  · show s.character.Reordered (first.step f' op').2.character (first'.step g op).2.character
    rw [hboth.session, hboth'.session]
    show s.character.Reordered (edit'.apply id' f' (s.step f op).2.character)
      (edit.apply id g (s.step g' op').2.character)
    rw [hfirst.session, hfirst'.session]
    exact Edit.reordered_apply habout habout' hne.symm f f' g g' s.character
  · show (first'.step g op).2.config = (first.step f' op').2.config
    rw [hboth.session, hboth'.session]
    show (s.step g' op').2.config = (s.step f op).2.config
    rw [hfirst.session, hfirst'.session]
    rfl
  · show (s.step f op).2.character.abilities.filter _ = _
    rw [hfirst.session]
    exact Edit.filter_roster habout s.character.abilities
  · show (s.step f op).2.character.activeEffects.filter _ = _
    rw [hfirst.session]
    exact Edit.filter_effects habout f.effect s.character.activeEffects

/-- A barbarian with two ways to rage starts both: the effects stand in the order in which they were
created, and nothing else tells which rage came first. -/
theorem steps_commute_rages :
    let s := (barbarianSession.step (.numbered 7)
      (.addAbility (rage (numbered 0)) : Operation ScriptedDice)).2
    let op : Operation ScriptedDice := .activateAbility (numbered 0)
    let op' : Operation ScriptedDice := .activateAbility (numbered 7)
    let both := ((s.step (.numbered 8) op).2.step (.numbered 9) op').2.character
    let both' := ((s.step (.numbered 8) op').2.step (.numbered 9) op).2.character
    (op.target? = some (numbered 0) ∧ op'.target? = some (numbered 7) ∧
      (numbered 0 : AbilityId) ≠ numbered 7) ∧
    both.activeEffects.map ActiveEffect.source = [numbered 0, numbered 7] ∧
    both'.activeEffects.map ActiveEffect.source = [numbered 7, numbered 0] ∧
    s.character.Reordered both both' := by
  intro s op op' both both'
  have hop : op.target? = some (numbered 0) := rfl
  have hop' : op'.target? = some (numbered 7) := rfl
  have hne : (numbered 0 : AbilityId) ≠ numbered 7 := by decide
  have hboth : both.activeEffects.map ActiveEffect.source = [numbered 0, numbered 7] := by
    decide +kernel
  have hboth' : both'.activeEffects.map ActiveEffect.source = [numbered 7, numbered 0] := by
    decide +kernel
  have hcommute := steps_commute hop hop' hne s (.numbered 8) (.numbered 9) (.numbered 9)
    (.numbered 8)
  exact ⟨⟨hop, hop', hne⟩, hboth, hboth', hcommute.2.1.1⟩

end Operations

end Tabletop.Play
