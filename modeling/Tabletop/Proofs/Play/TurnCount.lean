import Mathlib.Data.List.DropRight
import Tabletop.Proofs.Play.Life

/-!
# The turn counter and the log

The turn a character is in is counted twice: by the counter on the sheet, and by the ends of turns
that its log shows since the last rest.  `Character.InStep` says that the two agree, and that the
entries of the log are stamped accordingly.  It is an invariant of play as long as the counter does
not run over (`inStep_run`, `turn_count`).

Whatever an operation does, as far as the log is concerned it writes some entries, after it has wiped
the log clean or not.  Writing is the one step of the argument (`InStep.write`): an entry is written
with the turn of the sheet on it, so the sheet has to be in the turn that the entry leads to before
it is written.  That is why the counter goes up before the end of a turn is written, and goes to zero
before a rest is.

The entries before the last rest of a saved log may be stamped in any way, so the invariant has to
leave them out; `InStep` takes what the entries it speaks about have to satisfy as a parameter.  The
log of a new character is stamped throughout.
-/

namespace Tabletop.Sheet

open Tabletop.Play

/-! ## Turns ended since a rest -/

/-- Whether an event is the end of a turn. -/
def LogEvent.isEndTurn : LogEvent → Bool
  | .endTurn _ => true
  | _ => false

/-- Whether an event is a rest. -/
def LogEvent.isRest : LogEvent → Bool
  | .rest _ => true
  | _ => false

/-- The turns ended since the last rest after an event, if there were `n` before it. -/
def LogEvent.turnsAfter (n : Nat) : LogEvent → Nat
  | .endTurn _ => n + 1
  | .rest _ => 0
  | _ => n

/-- The entries after the last rest, or all if there is none. -/
def sinceRest (entries : List LogEntry) : List LogEntry :=
  entries.rtakeWhile fun e => !e.event.isRest

/-- How many turns have ended since the last rest. -/
def turnsSinceRest (entries : List LogEntry) : Nat :=
  (sinceRest entries).countP fun e => e.event.isEndTurn

/-- Whether there is no rest among some entries. -/
def WithoutRest (entries : List LogEntry) : Prop :=
  ∀ e ∈ entries, e.event.isRest = false

lemma turnsSinceRest_concat (entries : List LogEntry) (entry : LogEntry) :
    turnsSinceRest (entries ++ [entry]) = entry.event.turnsAfter (turnsSinceRest entries) := by
  unfold turnsSinceRest sinceRest
  rw [List.rtakeWhile_concat]
  cases h : entry.event <;>
    simp [LogEvent.isRest, LogEvent.isEndTurn, LogEvent.turnsAfter, h, List.countP_append]

/-- Between two rests the number of ended turns only grows. -/
lemma turnsSinceRest_le (front : List LogEntry) {entries : List LogEntry}
    (h : WithoutRest entries) : turnsSinceRest front ≤ turnsSinceRest (front ++ entries) := by
  induction entries generalizing front with
  | nil => rw [List.append_nil]
  | cons entry entries ih =>
      obtain ⟨hentry, hentries⟩ := List.forall_mem_cons.1 h
      have hstep : turnsSinceRest front ≤ turnsSinceRest (front ++ [entry]) := by
        rw [turnsSinceRest_concat]
        cases hevent : entry.event with
        | rest kind => simp [LogEvent.isRest, hevent] at hentry
        | endTurn updates => exact Nat.le_succ _
        | _ => exact Nat.le_refl _
      rw [List.append_cons]
      exact hstep.trans (ih (front ++ [entry]) hentries)

namespace Character

/-! ## Counter and log in step -/

/-- A turn counter and a log that agree: the counter shows how many turns have ended since the last
rest; so do the stamps of all entries from which on the log satisfies `p`, the entry itself counted;
and rests are stamped with zero. -/
structure InStep (p : List LogEntry → Prop) (c : Character) : Prop where
  turn : c.turn.toNat = turnsSinceRest c.combatLog.entries
  stamps : ∀ front entry back, c.combatLog.entries = front ++ entry :: back → p (entry :: back) →
    entry.turn.toNat = turnsSinceRest (front ++ [entry])
  rests : ∀ entry ∈ c.combatLog.entries, entry.event.isRest = true → entry.turn = 0

namespace InStep

variable {p : List LogEntry → Prop} {c c' : Character}

lemma congr (h : c.InStep p) (hlog : c'.combatLog = c.combatLog) (hturn : c'.turn = c.turn) :
    c'.InStep p := by
  obtain ⟨hcount, hstamps, hrests⟩ := h
  rw [← hturn, ← hlog] at hcount
  rw [← hlog] at hstamps hrests
  exact ⟨hcount, hstamps, hrests⟩

/-- An empty log agrees with a counter at zero. -/
lemma of_empty (hlog : c.combatLog = .empty) (hturn : c.turn = 0) : c.InStep p := by
  refine ⟨?_, ?_, ?_⟩
  · rw [hlog, hturn]
    rfl
  · intro front entry back h
    rw [hlog] at h
    simp [CombatLog.empty] at h
  · intro entry h
    rw [hlog] at h
    simp [CombatLog.empty] at h

/-- **Writing an entry.**  A sheet that is in the turn to which an event leads writes it down. -/
lemma write (hp : ∀ entries entry, p (entries ++ [entry]) → p entries) (h : c.InStep p)
    {event : LogEvent} (stamp : Stamp) (hlog : c'.combatLog = c.combatLog)
    (hturn : c'.turn.toNat = event.turnsAfter c.turn.toNat) :
    (record c' stamp event).character.InStep p := by
  obtain ⟨hcount, hstamps, hrests⟩ := h
  have hentries : (record c' stamp event).character.combatLog.entries =
      c.combatLog.entries ++ [(record c' stamp event).entry] := by
    rw [← hlog]
    rfl
  have hnext : c'.turn.toNat =
      turnsSinceRest (c.combatLog.entries ++ [(record c' stamp event).entry]) := by
    rw [turnsSinceRest_concat, ← hcount]
    exact hturn
  refine ⟨?_, ?_, ?_⟩
  · rw [hentries]
    exact hnext
  · intro front entry back hsplit hback
    rw [hentries] at hsplit
    -- The entry is the new one, or an old one after which one more has been written.
    rcases List.eq_nil_or_concat back with rfl | ⟨back, last, rfl⟩
    · obtain ⟨rfl, hlast⟩ := List.append_inj' hsplit rfl
      obtain rfl := List.singleton_inj.1 hlast
      exact hnext
    · rw [List.concat_eq_append, ← List.cons_append] at hsplit hback
      rw [← List.append_assoc] at hsplit
      exact hstamps front entry back (List.append_inj' hsplit rfl).1 (hp _ _ hback)
  · intro entry hentry hrest
    rw [hentries] at hentry
    rcases List.mem_append.1 hentry with hold | hnew
    · exact hrests entry hold hrest
    · obtain rfl := List.mem_singleton.1 hnew
      cases event with
      | rest kind => exact UInt32.toNat_inj.1 hturn
      | _ => simp [record, LogEntry.ofEvent, LogEvent.isRest] at hrest

/-- Between two rests stamps never decrease. -/
lemma turn_le (h : c.InStep p) {front mid back : List LogEntry} {entry later : LogEntry}
    (hsplit : c.combatLog.entries = front ++ entry :: (mid ++ later :: back))
    (hentry : p (entry :: (mid ++ later :: back))) (hlater : p (later :: back))
    (hmid : WithoutRest (mid ++ [later])) : entry.turn ≤ later.turn := by
  have hsplit' : c.combatLog.entries = (front ++ entry :: mid) ++ later :: back := by
    simp [hsplit]
  have hbetween : front ++ entry :: mid ++ [later] = front ++ [entry] ++ (mid ++ [later]) := by
    simp
  rw [UInt32.le_iff_toNat_le, h.stamps _ _ _ hsplit hentry, h.stamps _ _ _ hsplit' hlater,
    hbetween]
  exact turnsSinceRest_le _ hmid

end InStep

end Character

end Tabletop.Sheet

namespace Tabletop.Play

open Tabletop.Dice Tabletop.Sheet

/-! ## Every operation keeps counter and log in step -/

lemma toNat_add_one {n : UInt32} (h : n.toNat + 1 < 2 ^ 32) : (n + 1).toNat = n.toNat + 1 := by
  rw [UInt32.toNat_add, UInt32.toNat_one, Nat.mod_eq_of_lt h]

section OneOperation

variable {p : List LogEntry → Prop} (hp : ∀ entries entry, p (entries ++ [entry]) → p entries)
  {c : Character} {id : AbilityId} {stamp : Stamp} {t : Transition}

include hp

lemma inStep_useAbility (hc : c.InStep p) (h : useAbility c id stamp = .ok t) :
    t.character.InStep p ∧ t.character.turn = c.turn := by
  obtain ⟨a, -, -, -, rfl⟩ := useAbility_eq_ok_iff.1 h
  exact ⟨hc.write hp stamp rfl rfl, rfl⟩

lemma inStep_activateAbility {effect : EffectId} (hc : c.InStep p)
    (h : activateAbility c id effect stamp = .ok t) :
    t.character.InStep p ∧ t.character.turn = c.turn := by
  obtain ⟨a, -, -, -, -, rfl⟩ := activateAbility_eq_ok_iff.1 h
  exact ⟨hc.write hp stamp rfl rfl, rfl⟩

lemma inStep_deactivateAbility (hc : c.InStep p) (h : deactivateAbility c id stamp = .ok t) :
    t.character.InStep p ∧ t.character.turn = c.turn := by
  obtain ⟨a, -, -, -, rfl⟩ := deactivateAbility_eq_ok_iff.1 h
  exact ⟨hc.write hp stamp rfl rfl, rfl⟩

lemma inStep_spendChosen {stamps : Nat → Stamp} {chosen : List AbilityId} {spent : Character}
    (hc : c.InStep p) (h : spendChosen c stamps chosen = .ok spent) :
    spent.InStep p ∧ spent.turn = c.turn := by
  refine spendChosen_induction (P := fun d => d.InStep p ∧ d.turn = c.turn) h ⟨hc, rfl⟩ ?_
  rintro d id stamp t ⟨hd, hturn⟩ ht
  obtain ⟨hused, hturn'⟩ := inStep_useAbility hp hd ht
  exact ⟨hused, hturn'.trans hturn⟩

/-- The end of a turn is written in the turn that begins. -/
lemma inStep_endTurn (hc : c.InStep p) (hfew : c.turn.toNat + 1 < 2 ^ 32) :
    (endTurn c stamp).character.InStep p :=
  hc.write hp stamp rfl (toNat_add_one hfew)

/-- A rest is written in turn zero, after the log is wiped or not. -/
lemma inStep_takeRest (hc : c.InStep p) (kind : RestKind) :
    (takeRest c kind stamp).character.InStep p := by
  cases hretention : c.preferences.logRetention with
  | keep =>
      have hlog : logForRest c = c.combatLog := by rw [logForRest, hretention]
      exact hc.write hp stamp hlog rfl
  | clearOnRest =>
      have hlog : logForRest c = .empty := by rw [logForRest, hretention]
      have hwiped : (clearCombatLog c).InStep p := .of_empty rfl rfl
      exact hwiped.write hp stamp hlog rfl

end OneOperation

/-- The turns ended since the last rest after an operation, if there were `n` before it.  Clearing
the log starts the count again, as a rest does. -/
def Operation.turnsAfter {σ : Type} (n : Nat) : Operation σ → Nat
  | .endTurn => n + 1
  | .rest _ | .clearCombatLog => 0
  | _ => n

/-- Whether a run ends fewer than `2 ^ 32` turns between rests, if `n` were ended before it. -/
def FewTurns {σ : Type} (n : Nat) : List (Fresh × Operation σ) → Prop
  | [] => True
  | op :: ops => op.2.turnsAfter n < 2 ^ 32 ∧ FewTurns (op.2.turnsAfter n) ops

instance decidableFewTurns {σ : Type} (n : Nat) :
    (ops : List (Fresh × Operation σ)) → Decidable (FewTurns n ops)
  | [] => inferInstanceAs (Decidable True)
  | op :: ops =>
    have := decidableFewTurns (op.2.turnsAfter n) ops
    inferInstanceAs
      (Decidable (op.2.turnsAfter n < 2 ^ 32 ∧ FewTurns (op.2.turnsAfter n) ops))

variable {σ : Type} [DieSource σ] {s : Session} {p : List LogEntry → Prop}

/-- What moves the counter is never refused. -/
lemma turnsAfter_of_refused {fresh : Fresh} {op : Operation σ} (h : s.accepts fresh op = false)
    (n : Nat) : op.turnsAfter n = n := by
  cases op with
  | endTurn => exact Bool.noConfusion (show true = false from h)
  | rest kind => exact Bool.noConfusion (show true = false from h)
  | clearCombatLog => exact Bool.noConfusion (show true = false from h)
  | _ => rfl

/-- **One operation.**  The counter counts it, and stays in step with the log. -/
lemma inStep_step (hp : ∀ entries entry, p (entries ++ [entry]) → p entries) (fresh : Fresh)
    {op : Operation σ} (hs : s.character.InStep p)
    (hfew : op.turnsAfter s.character.turn.toNat < 2 ^ 32) :
    (s.step fresh op).2.character.InStep p ∧
      (s.step fresh op).2.character.turn.toNat = op.turnsAfter s.character.turn.toNat := by
  have hkeep : ∀ {c' : Character}, c'.InStep p ∧ c'.turn = s.character.turn →
      c'.InStep p ∧ c'.turn.toNat = s.character.turn.toNat :=
    fun h => ⟨h.1, congrArg UInt32.toNat h.2⟩
  -- One case per operation: those that write do so in the turn they lead to; of the others only
  -- clearing the log moves the counter, and it leaves no entry to be in step with.
  cases h : s.accepts fresh op with
  | false =>
      rw [step_eq_self h]
      exact ⟨hs, (turnsAfter_of_refused h _).symm⟩
  | true =>
      cases op with
      | removeAbility id =>
          obtain ⟨c', hc', hcharacter⟩ := exists_of_removal h
          obtain ⟨a, -, rfl⟩ := removeAbility_eq_ok_iff.1 hc'
          exact hkeep (hcharacter ▸ ⟨hs.congr rfl rfl, rfl⟩)
      | useAbility id =>
          obtain ⟨t, ht, hcharacter⟩ := exists_of_commit h
          exact hkeep (hcharacter ▸ inStep_useAbility hp hs ht)
      | activateAbility id =>
          obtain ⟨t, ht, hcharacter⟩ := exists_of_commit h
          exact hkeep (hcharacter ▸ inStep_activateAbility hp hs ht)
      | deactivateAbility id =>
          obtain ⟨t, ht, hcharacter⟩ := exists_of_commit h
          exact hkeep (hcharacter ▸ inStep_deactivateAbility hp hs ht)
      | endTurn => exact ⟨inStep_endTurn hp hs hfew, toNat_add_one hfew⟩
      | rest kind => exact ⟨inStep_takeRest hp hs kind, rfl⟩
      | clearCombatLog => exact ⟨.of_empty rfl rfl, rfl⟩
      | attack request dice =>
          obtain ⟨spent, stamp, account, hspent, hcharacter⟩ := exists_of_attack h
          obtain ⟨hstep, hturn⟩ := inStep_spendChosen hp hs hspent
          exact hkeep (hcharacter ▸ ⟨hstep.write hp stamp rfl rfl, hturn⟩)
      | _ => exact hkeep ⟨hs.congr rfl rfl, rfl⟩

lemma inStep_run (hp : ∀ entries entry, p (entries ++ [entry]) → p entries)
    {ops : List (Fresh × Operation σ)} (hs : s.character.InStep p)
    (hfew : FewTurns s.character.turn.toNat ops) : (s.run ops).character.InStep p := by
  induction ops generalizing s with
  | nil => exact hs
  | cons op ops ih =>
      obtain ⟨hop, hops⟩ := hfew
      obtain ⟨hstep, hturn⟩ := inStep_step hp op.1 hs hop
      rw [← hturn] at hops
      exact ih hstep hops

/-! ## The log only grows at its end -/

/-- Whether an operation writes exactly one entry when it is accepted, and answers with it. -/
def Operation.isLogged {σ : Type} : Operation σ → Bool
  | .useAbility _ | .activateAbility _ | .deactivateAbility _ | .endTurn | .rest _ => true
  | _ => false

/-- Whether an operation takes the entries away that are in the log of a character. -/
def Operation.wipes {σ : Type} (c : Character) : Operation σ → Bool
  | .clearCombatLog => true
  | .rest _ => c.preferences.logRetention == .clearOnRest
  | _ => false

lemma entries_spendChosen {c : Character} {stamps : Nat → Stamp} {chosen : List AbilityId}
    {spent : Character} (h : spendChosen c stamps chosen = .ok spent) :
    c.combatLog.entries <+: spent.combatLog.entries := by
  refine spendChosen_induction (P := fun d => c.combatLog.entries <+: d.combatLog.entries) h
    (List.prefix_refl _) fun hd ht => ?_
  obtain ⟨a, -, -, -, rfl⟩ := useAbility_eq_ok_iff.1 ht
  exact hd.trans (List.prefix_append _ _)

lemma entries_takeRest (c : Character) (kind : RestKind) (stamp : Stamp) :
    (takeRest c kind stamp).character.combatLog.entries =
      (if c.preferences.logRetention == .clearOnRest then [] else c.combatLog.entries) ++
        [(takeRest c kind stamp).entry] := by
  show (logForRest c).entries ++ _ = _
  unfold logForRest
  cases c.preferences.logRetention <;> rfl

omit [DieSource σ] in
lemma entries_of_commit {r : Except UsageError Transition} {kept : List LogEntry}
    (h : (s.commit r : Except SessionError (Reply σ) × Session).1.isOk = true)
    (hr : ∀ t, r = .ok t → t.character.combatLog.entries = kept ++ [t.entry]) :
    ∃ entry, (s.commit r : Except SessionError (Reply σ) × Session).1 = .ok (.logged entry) ∧
      (s.commit r : Except SessionError (Reply σ) × Session).2.character.combatLog.entries =
        kept ++ [entry] := by
  cases r with
  | error e => simp [Session.commit, Except.isOk, Except.toBool] at h
  | ok t => exact ⟨t.entry, rfl, hr t rfl⟩

/-- Using, activating, deactivating, ending a turn and resting write the entry they answer with. -/
lemma entries_of_isLogged {fresh : Fresh} {op : Operation σ} (hop : op.isLogged = true)
    (h : s.accepts fresh op = true) :
    ∃ entry, (s.step fresh op).1 = .ok (.logged entry) ∧
      (s.step fresh op).2.character.combatLog.entries =
        (if op.wipes s.character then [] else s.character.combatLog.entries) ++ [entry] := by
  cases op with
  | useAbility id =>
      refine entries_of_commit h fun t ht => ?_
      obtain ⟨a, -, -, -, rfl⟩ := useAbility_eq_ok_iff.1 ht
      rfl
  | activateAbility id =>
      refine entries_of_commit h fun t ht => ?_
      obtain ⟨a, -, -, -, -, rfl⟩ := activateAbility_eq_ok_iff.1 ht
      rfl
  | deactivateAbility id =>
      refine entries_of_commit h fun t ht => ?_
      obtain ⟨a, -, -, -, rfl⟩ := deactivateAbility_eq_ok_iff.1 ht
      rfl
  | endTurn => exact ⟨_, rfl, rfl⟩
  | rest kind => exact ⟨_, rfl, entries_takeRest s.character kind _⟩
  | _ => simp [Operation.isLogged] at hop

/-- An operation that does not wipe the log leaves what is in it. -/
lemma entries_prefix_step (fresh : Fresh) {op : Operation σ} (hop : op.wipes s.character = false) :
    s.character.combatLog.entries <+: (s.step fresh op).2.character.combatLog.entries := by
  cases h : s.accepts fresh op with
  | false =>
      have hsame : (s.step fresh op).2.character = s.character :=
        congrArg Session.character (step_eq_self h)
      exact hsame ▸ List.prefix_refl _
  | true =>
      -- An operation that is logged puts its entry behind the log; of the others only an attack
      -- writes, and only to the end.
      cases hlogged : op.isLogged with
      | true =>
          obtain ⟨entry, -, hentries⟩ := entries_of_isLogged hlogged h
          rw [hentries, hop, if_neg Bool.false_ne_true]
          exact List.prefix_append _ _
      | false =>
          cases op with
          | removeAbility id =>
              obtain ⟨c', hc', hcharacter⟩ := exists_of_removal h
              obtain ⟨a, -, rfl⟩ := removeAbility_eq_ok_iff.1 hc'
              exact hcharacter ▸ List.prefix_refl _
          | clearCombatLog => simp [Operation.wipes] at hop
          | attack request dice =>
              obtain ⟨spent, stamp, account, hspent, hcharacter⟩ := exists_of_attack h
              exact hcharacter ▸ (entries_spendChosen hspent).trans (List.prefix_append _ _)
          | addAbility _ | takeDamage _ | heal _ | addTemporary _ => exact List.prefix_refl _
          | _ => simp [Operation.isLogged] at hlogged

/-- **The turn counter and the log agree.**  Take a sheet on which the counter shows the turns ended
since the last rest, every later entry is stamped with the turns ended by then, and rests with zero.
It stays such a sheet along every run that ends fewer than `2 ^ 32` turns between rests, and stamps
never decrease after the last rest.  In the log of a new character all entries are stamped like this,
also between earlier rests.

Every operation leaves the old log as the front of the new one, unless it clears the log or is a rest
that does; the log is then empty, or consists of the rest.  Using, activating, deactivating, ending a
turn and resting add one entry, with which they answer; what is refused adds none. -/
theorem turn_count :
    (∀ (s : Session) (ops : List (Fresh × Operation σ)), s.character.InStep WithoutRest →
      FewTurns s.character.turn.toNat ops →
      let c := (s.run ops).character
      c.InStep WithoutRest ∧
      ∀ front entry mid later back,
        c.combatLog.entries = front ++ entry :: (mid ++ later :: back) →
        WithoutRest (entry :: (mid ++ later :: back)) → entry.turn ≤ later.turn) ∧
    (∀ (id : CharacterId) (name : String) (characterClass : CharacterClass)
      (config : SessionConfig) (ops : List (Fresh × Operation σ)), FewTurns 0 ops →
      let c := ((Session.new (Character.new id name characterClass) config).run ops).character
      c.InStep WithoutRest ∧ c.InStep (fun _ => True) ∧
      ∀ front entry mid later back,
        c.combatLog.entries = front ++ entry :: (mid ++ later :: back) →
        WithoutRest (mid ++ [later]) → entry.turn ≤ later.turn) ∧
    ∀ (s : Session) (fresh : Fresh) (op : Operation σ),
      let c := s.character
      let c' := (s.step fresh op).2.character
      (op.wipes c = false → c.combatLog.entries <+: c'.combatLog.entries) ∧
      (op = .clearCombatLog → c'.combatLog.entries = [] ∧ c'.turn = 0) ∧
      (∀ kind, op = .rest kind → c.preferences.logRetention = .clearOnRest →
        ∃ entry, c'.combatLog.entries = [entry] ∧ entry.event = .rest kind ∧ entry.turn = 0) ∧
      (op.isLogged = true → s.accepts fresh op = true →
        ∃ entry, (s.step fresh op).1 = .ok (.logged entry) ∧
          c'.combatLog.entries = (if op.wipes c then [] else c.combatLog.entries) ++ [entry]) ∧
      (s.accepts fresh op = false → c' = c) := by
  have hwithout : ∀ entries entry, WithoutRest (entries ++ [entry]) → WithoutRest entries :=
    fun entries entry h e he => h e (List.mem_append_left _ he)
  refine ⟨fun s ops hs hfew => ?_, fun id name characterClass config ops hfew => ?_,
    fun s fresh op => ⟨entries_prefix_step fresh, ?_, ?_, entries_of_isLogged, ?_⟩⟩
  · have hrun := inStep_run hwithout hs hfew
    refine ⟨hrun, fun front entry mid later back hsplit hlate => ?_⟩
    -- Two entries of a log without a rest behind the first: neither the later entry nor what is
    -- between them is a rest.
    have hmid : WithoutRest (mid ++ [later]) := by
      intro e he
      have hmem : e ∈ entry :: (mid ++ later :: back) := by
        rcases List.mem_append.1 he with he | he <;> simp_all
      exact hlate e hmem
    have hlater : WithoutRest (later :: back) :=
      fun e he => hlate e (List.mem_cons_of_mem _ (List.mem_append_right _ he))
    exact hrun.turn_le hsplit hlate hlater hmid
  -- The log of a new character is empty, so whatever is asked of its entries holds.
  · have hnew : ∀ p : List LogEntry → Prop,
        (Session.new (Character.new id name characterClass) config).character.InStep p := by
      intro p
      unfold Session.new
      split <;> exact .of_empty rfl rfl
    have hturn :
        (Session.new (Character.new id name characterClass) config).character.turn = 0 := by
      unfold Session.new
      split <;> rfl
    rw [← UInt32.toNat_zero, ← hturn] at hfew
    have hrun := inStep_run (fun _ _ h => h) (hnew fun _ => True) hfew
    exact ⟨inStep_run hwithout (hnew _) hfew, hrun, fun front entry mid later back hsplit hmid =>
      hrun.turn_le hsplit trivial trivial hmid⟩
  · rintro rfl
    exact ⟨rfl, rfl⟩
  · rintro kind rfl hretention
    refine ⟨(takeRest s.character kind (fresh.stamps 0)).entry, ?_, rfl, rfl⟩
    have hentries := entries_takeRest s.character kind (fresh.stamps 0)
    rwa [hretention] at hentries
  · intro h
    rw [step_eq_self h]

/-- A barbarian rages, ends a turn, attacks, ends another turn, rests, and ends one more: the last turn
is the first since the rest, by the counter and by the log. -/
theorem turn_count_rage :
    let s := barbarianSession
    let fury : Operation ScriptedDice := .activateAbility (numbered 0)
    let ops : List (Fresh × Operation ScriptedDice) :=
      [(.numbered 1, fury), (.numbered 2, .endTurn),
        (.numbered 3, .attack (.ofItem (numbered 200)) (.ofList [15, 6])), (.numbered 5, .endTurn),
        (.numbered 6, .rest .long), (.numbered 7, .endTurn)]
    let c := (s.run ops).character
    (s.character.InStep WithoutRest ∧ FewTurns s.character.turn.toNat ops ∧
      fury.isLogged = true ∧ s.accepts (.numbered 1) fury = true) ∧
    (c.combatLog.entries.map LogEntry.turn = [0, 1, 1, 2, 0, 1] ∧ c.turn = 1) ∧
    c.InStep WithoutRest ∧
    ∃ entry, (s.step (.numbered 1) fury).1 = .ok (.logged entry) ∧
      (s.step (.numbered 1) fury).2.character.combatLog.entries = [entry] := by
  intro s fury ops c
  have hs : s.character.InStep WithoutRest := .of_empty rfl rfl
  have hfew : FewTurns s.character.turn.toNat ops := by decide +kernel
  have haccepts : s.accepts (.numbered 1) fury = true := by decide +kernel
  have hstamps : c.combatLog.entries.map LogEntry.turn = [0, 1, 1, 2, 0, 1] := by decide +kernel
  have hturn : c.turn = 1 := by decide +kernel
  obtain ⟨hrun, -, hstep⟩ := turn_count (σ := ScriptedDice)
  obtain ⟨-, -, -, hlogged, -⟩ := hstep s (.numbered 1) fury
  exact ⟨⟨hs, hfew, rfl, haccepts⟩, ⟨hstamps, hturn⟩, (hrun s ops hs hfew).1, hlogged rfl haccepts⟩

end Tabletop.Play
