import Tabletop.Dice.D20
import Tabletop.Proofs.Dice.Range

/-!
# Rolls of a twenty-sided die

A formula is rolled with advantage or disadvantage by taking its twenty-sided die out, and so not
every formula can be.  Which ones can depends on the whole list of terms: there has to be one group
of twenty-sided dice, it has to be a single die, and added (`rollD20_verdict`).

Taking the die out changes the order in which the dice leave the source, and it changes the order of
the sum: the die is added last instead of where it stands.  For a formula that begins with its die
the first makes no difference, and the second makes none as long as no sum can stop at a bound
(`rollD20_normal`).
-/

namespace Tabletop.Dice

/-! ## The die that is kept -/

/-- Replacing a result by each one that is better ends with one that is as good as all. -/
lemma foldl_replace {α : Type} (better asGood : α → α → Prop) [DecidableRel better]
    (hrefl : ∀ a, asGood a a) (htrans : ∀ {a b c}, asGood a b → asGood b c → asGood a c)
    (hbetter : ∀ {a b}, better b a → asGood b a) (hnot : ∀ {a b}, ¬better b a → asGood a b)
    (a : α) (as : List α) :
    as.foldl (fun a b => if better b a then b else a) a ∈ a :: as ∧
      ∀ b ∈ a :: as, asGood (as.foldl (fun a b => if better b a then b else a) a) b := by
  induction as generalizing a with
  | nil => simpa using hrefl a
  | cons b as ih =>
      rw [List.foldl_cons]
      -- The best so far is compared with one more, and the rest goes on from the better of the two.
      by_cases hb : better b a
      · rw [if_pos hb]
        obtain ⟨hmem, hall⟩ := ih b
        exact ⟨.tail a hmem, List.forall_mem_cons.2
          ⟨htrans (hall b (.head as)) (hbetter hb), hall⟩⟩
      · rw [if_neg hb]
        obtain ⟨hmem, hall⟩ := ih a
        obtain ⟨ha, hrest⟩ := List.forall_mem_cons.1 hall
        refine ⟨?_, List.forall_mem_cons.2
          ⟨ha, List.forall_mem_cons.2 ⟨htrans ha (hnot hb), hrest⟩⟩⟩
        rcases List.mem_cons.1 hmem with hself | hlater
        · exact List.mem_cons.2 (.inl hself)
        · exact .tail a (.tail b hlater)

/-- Whether a mode keeps a result among others: with disadvantage none of them is less, otherwise none
is greater. -/
def RollMode.Keeps (mode : RollMode) (rolls : List UInt32) (kept : UInt32) : Prop :=
  kept ∈ rolls ∧ ∀ r ∈ rolls,
    match mode with
    | .disadvantage => kept ≤ r
    | _ => r ≤ kept

lemma keeps_keep (mode : RollMode) {rolls : List UInt32} (h : rolls ≠ []) :
    mode.Keeps rolls (mode.keep rolls) := by
  cases rolls with
  | nil => exact absurd rfl h
  | cons r rolls =>
      have hleast := foldl_replace (· < ·) (· ≤ ·) UInt32.le_refl UInt32.le_trans UInt32.le_of_lt
        UInt32.not_lt.1 r rolls
      have hgreatest := foldl_replace (· > ·) (· ≥ ·) UInt32.le_refl
        (fun hab hbc => UInt32.le_trans hbc hab) UInt32.le_of_lt UInt32.not_lt.1 r rolls
      cases mode with
      | disadvantage => exact hleast
      | normal => exact hgreatest
      | advantage => exact hgreatest

/-! ## Taking the die out -/

namespace Formula

variable {f : Formula}

/-- The groups of twenty-sided dice of a formula, in order. -/
def twenties (f : Formula) : List DiceTerm :=
  f.dice.filter fun d => d.sides = 20

/-- Whether a formula has twenty-sided dice, but none that could be rolled twice: several groups of
them, or a group that is subtracted or has not one die. -/
def Ambiguous (f : Formula) : Prop :=
  2 ≤ f.twenties.length ∨ ∃ d, f.twenties = [d] ∧ (d.sign = .minus ∨ d.count ≠ 1)

lemma filter_isD20Term (terms : List Term) :
    terms.filter isD20Term = (twenties ⟨terms⟩).map .dice := by
  induction terms with
  | nil => rfl
  | cons t terms ih =>
      cases t with
      | flat value => exact ih
      | dice d =>
          have hdice : dice ⟨.dice d :: terms⟩ = d :: dice ⟨terms⟩ := rfl
          unfold twenties at ih ⊢
          by_cases hsides : d.sides = 20
          · simp [hdice, isD20Term, hsides, ih]
          · simp [hdice, isD20Term, hsides, ih]

lemma mem_twenties_iff {d : DiceTerm} : d ∈ f.twenties ↔ .dice d ∈ f.terms ∧ d.sides = 20 := by
  rw [twenties, List.mem_filter, mem_dice_iff, decide_eq_true_eq]

lemma of_twenties_cons {d : DiceTerm} {ds : List DiceTerm} (h : f.twenties = d :: ds) :
    f.terms ≠ [] ∧ d.sides = 20 := by
  obtain ⟨hmem, hsides⟩ := mem_twenties_iff.1 (h ▸ List.mem_cons_self : d ∈ f.twenties)
  exact ⟨List.ne_nil_of_mem hmem, hsides⟩

lemma twenties_of_empty (h : f.terms = []) : f.twenties = [] := by
  rw [twenties, dice, h]
  rfl

lemma Ambiguous.twenties_ne_nil (h : f.Ambiguous) : f.twenties ≠ [] := by
  intro hnone
  rcases h with hmany | ⟨d, hone, -⟩
  · simp [hnone] at hmany
  · simp [hnone] at hone

lemma not_ambiguous_of_single (h : f.twenties = [⟨1, 20, .plus⟩]) : ¬f.Ambiguous := by
  rintro (hmany | ⟨d, hone, hwrong⟩)
  · simp [h] at hmany
  · obtain rfl := List.singleton_injective (h.symm.trans hone)
    simp at hwrong

/-- Either there is no twenty-sided die, or there are some that cannot be rolled twice, or a single
added die. -/
lemma twenties_cases (f : Formula) :
    f.twenties = [] ∨ f.Ambiguous ∨ f.twenties = [⟨1, 20, .plus⟩] := by
  match htwenties : f.twenties with
  | [] => exact .inl rfl
  | [⟨count, sides, sign⟩] =>
      have hsides : sides = 20 := (of_twenties_cons htwenties).2
      by_cases hcount : count = 1
      · cases sign with
        | plus => exact .inr (.inr (by rw [hcount, hsides]))
        | minus => exact .inr (.inl (.inr ⟨_, htwenties, .inl rfl⟩))
      · exact .inr (.inl (.inr ⟨_, htwenties, .inr hcount⟩))
  | d :: d' :: ds =>
      have htwo : 2 ≤ f.twenties.length := by simp [htwenties]
      exact .inr (.inl (.inl htwo))

lemma splitD20_of_empty (h : f.terms = []) : f.splitD20 = .error (.emptyFormula f.text) := by
  rw [splitD20, h]
  rfl

lemma splitD20_of_none (hterms : f.terms ≠ []) (h : f.twenties = []) :
    f.splitD20 = .error (.missingD20 f.text) := by
  rw [splitD20, if_neg (by simpa using hterms), filter_isD20Term, h]
  rfl

lemma splitD20_of_ambiguous (h : f.Ambiguous) : f.splitD20 = .error (.ambiguousD20 f.text) := by
  rcases h with hmany | ⟨d, hone, hwrong⟩
  · match htwenties : f.twenties with
    | [] => simp [htwenties] at hmany
    | [d] => simp [htwenties] at hmany
    | d :: d' :: ds =>
        have hterms := (of_twenties_cons htwenties).1
        rw [splitD20, if_neg (by simpa using hterms), filter_isD20Term, htwenties]
        rfl
  · have hterms := (of_twenties_cons hone).1
    have hsingle : (d.isSingleD20 && d.sign == .plus) = false := by
      rcases hwrong with hsign | hcount
      · simp [hsign]
      · simp [DiceTerm.isSingleD20, hcount]
    rw [splitD20, if_neg (by simpa using hterms), filter_isD20Term, hone]
    exact if_neg (Bool.eq_false_iff.1 hsingle)

/-- A single added die is taken out, wherever it stands. -/
lemma splitD20_append {front back : List Term} (hfront : ∀ t ∈ front, isD20Term t = false)
    (hback : ∀ t ∈ back, isD20Term t = false) :
    splitD20 ⟨front ++ .dice ⟨1, 20, .plus⟩ :: back⟩ =
      .ok (⟨1, 20, .plus⟩, ⟨front ++ back⟩) := by
  have hnone : ∀ {terms : List Term}, (∀ t ∈ terms, isD20Term t = false) →
      terms.filter isD20Term = [] := by
    intro terms h
    simpa [List.filter_eq_nil_iff] using h
  have hfilter : (front ++ .dice ⟨1, 20, .plus⟩ :: back).filter isD20Term =
      [.dice ⟨1, 20, .plus⟩] := by
    rw [List.filter_append, hnone hfront, List.filter_cons_of_pos rfl, hnone hback]
    rfl
  -- The die is taken out by its place, which is the number of the terms in front of it.
  have hindex : (front ++ .dice ⟨1, 20, .plus⟩ :: back).findIdx isD20Term = front.length := by
    have hpast : front.findIdx isD20Term = front.length := List.findIdx_eq_length.2 hfront
    rw [List.findIdx_append, hpast, if_neg (Nat.lt_irrefl _), List.findIdx_cons]
    exact Nat.zero_add _
  have herase : (front ++ .dice ⟨1, 20, .plus⟩ :: back).eraseIdx front.length = front ++ back := by
    rw [List.eraseIdx_append_of_length_le (Nat.le_refl _), Nat.sub_self]
    rfl
  rw [splitD20, if_neg (by simp), hfilter, hindex, herase]
  rfl

lemma exists_splitD20 (h : f.twenties = [⟨1, 20, .plus⟩]) :
    ∃ front back, f.terms = front ++ .dice ⟨1, 20, .plus⟩ :: back ∧
      f.splitD20 = .ok (⟨1, 20, .plus⟩, ⟨front ++ back⟩) := by
  have hfilter : f.terms.filter isD20Term = [.dice ⟨1, 20, .plus⟩] := by
    rw [filter_isD20Term]
    exact congrArg (List.map Term.dice) h
  obtain ⟨front, back, hterms, hfront, -, hback⟩ := List.filter_eq_cons_iff.1 hfilter
  refine ⟨front, back, hterms, ?_⟩
  have hf : f = ⟨front ++ .dice ⟨1, 20, .plus⟩ :: back⟩ := congrArg Formula.mk hterms
  rw [hf]
  exact splitD20_append (by simpa using hfront) (by simpa using hback)

end Formula

/-! ## Rolling the die and the rest -/

section Source

variable {σ : Type} [DieSource σ] {text : String} {mode : RollMode} {source : σ}

lemma rollD20_of_error {e : DiceError} (h : (Formula.parse text).splitD20 = .error e) :
    rollD20 text mode source = (.error e, source) := by
  unfold rollD20
  rw [h]

/-- The result for a formula whose die is taken out: the die is rolled as the mode says, and then the
rest. -/
def D20Roll.taken (text : String) (mode : RollMode) (rolls : List UInt32) (rest : RollResult) :
    D20Roll :=
  { mode := mode
    formula := text
    rolls := rolls
    chosen := mode.keep rolls
    remainder := rest
    modifier := rest.total
    total := satAdd rest.total (mode.keep rolls).toInt32 }

lemma rollD20_of_split {d : DiceTerm} {others : Formula}
    (h : (Formula.parse text).splitD20 = .ok (d, others)) :
    rollD20 text mode source =
      let rolled := rollDice mode.diceCount 20 source
      (.ok (.taken text mode rolled.1 (others.roll rolled.2).1), (others.roll rolled.2).2) := by
  unfold rollD20
  rw [h]
  rfl

lemma yields_die (mode : RollMode) (source : σ) :
    Yields source (List.replicate (if mode = .normal then 1 else 2) 20)
      (rollDice mode.diceCount 20 source).1 (rollDice mode.diceCount 20 source).2 := by
  have hcount : mode.diceCount = if mode = .normal then 1 else 2 := by cases mode <;> rfl
  have hyields := yields_rollDice mode.diceCount 20 source
  rwa [hcount] at hyields ⊢

lemma keeps_die (mode : RollMode) (source : σ) :
    mode.Keeps (rollDice mode.diceCount 20 source).1
      (mode.keep (rollDice mode.diceCount 20 source).1) := by
  refine keeps_keep mode (List.ne_nil_of_length_pos ?_)
  rw [length_rollDice]
  cases mode <;> decide

lemma keep_inRange (fair : IsFair σ) (mode : RollMode) (source : σ) :
    1 ≤ (mode.keep (rollDice mode.diceCount 20 source).1).toNat ∧
      (mode.keep (rollDice mode.diceCount 20 source).1).toNat ≤ 20 :=
  inRange_of_mem_rollDice fair (by decide) (keeps_die mode source).1

/-- **Which formulas can be rolled by their die, and to what.**  The roll fails for a formula without
terms, for one with terms but no twenty-sided dice, and for one whose twenty-sided dice are several
groups, or are subtracted, or are not one die, and for no other.  If it fails, no die is rolled.

Otherwise the formula is the rest with a single added die put back at its place.  The die is rolled
first, wherever it stands, once in normal mode and twice in the others.  The greatest result is kept,
or the least with disadvantage.  Then the rest is rolled, term by term, on the source as the die left
it; its total is the modifier, and the sum of the modifier and the kept result is the total, which
stops at the bounds of 32 bits.  What is kept of fair dice is small enough to be added as a number. -/
theorem rollD20_verdict (text : String) (mode : RollMode) (source : σ) :
    let f := Formula.parse text
    let run := rollD20 text mode source
    (∀ shown, run.1 = .error (.emptyFormula shown) ↔ f.terms = [] ∧ f.text = shown) ∧
    (∀ shown, run.1 = .error (.missingD20 shown) ↔
      (f.terms ≠ [] ∧ f.twenties = []) ∧ f.text = shown) ∧
    (∀ shown, run.1 = .error (.ambiguousD20 shown) ↔ f.Ambiguous ∧ f.text = shown) ∧
    (∀ e, run.1 = .error e → run.2 = source) ∧
    ((∃ r, run.1 = .ok r) ↔ f.twenties = [⟨1, 20, .plus⟩]) ∧
    ∀ r, run.1 = .ok r → ∃ front back between,
      f.terms = front ++ .dice ⟨1, 20, .plus⟩ :: back ∧
      Yields source (List.replicate (if mode = .normal then 1 else 2) 20) r.rolls between ∧
      mode.Keeps r.rolls r.chosen ∧
      (r.remainder, run.2) = Formula.roll ⟨front ++ back⟩ between ∧
      r.modifier = r.remainder.total ∧
      r.total = satAdd r.modifier r.chosen.toInt32 ∧
      (r.chosen.toNat < 2 ^ 31 → r.total = saturate (r.chosen.toNat + r.modifier.toInt)) ∧
      (IsFair σ → 1 ≤ r.chosen.toNat ∧ r.chosen.toNat ≤ 20) ∧
      r.mode = mode ∧ r.formula = text := by
  intro f run
  -- One case for each answer: no terms at all, no such die, an ambiguous one, and a single one.
  by_cases hterms : f.terms = []
  · have hrun : run = (.error (.emptyFormula f.text), source) :=
      rollD20_of_error (Formula.splitD20_of_empty hterms)
    have hnone := Formula.twenties_of_empty hterms
    have hclear : ¬f.Ambiguous := fun h => h.twenties_ne_nil hnone
    simp [hrun, hterms, hnone, hclear]
  · rcases f.twenties_cases with hnone | hambiguous | hsingle
    · have hrun : run = (.error (.missingD20 f.text), source) :=
        rollD20_of_error (Formula.splitD20_of_none hterms hnone)
      have hclear : ¬f.Ambiguous := fun h => h.twenties_ne_nil hnone
      simp [hrun, hterms, hnone, hclear]
    · have hrun : run = (.error (.ambiguousD20 f.text), source) :=
        rollD20_of_error (Formula.splitD20_of_ambiguous hambiguous)
      have hsingle : f.twenties ≠ [⟨1, 20, .plus⟩] :=
        fun h => Formula.not_ambiguous_of_single h hambiguous
      simp [hrun, hterms, hambiguous.twenties_ne_nil, hsingle, hambiguous]
    · obtain ⟨front, back, hplace, hsplit⟩ := Formula.exists_splitD20 hsingle
      have hclear := Formula.not_ambiguous_of_single hsingle
      have hrun : run = _ := rollD20_of_split hsplit
      refine ⟨?_, ?_, ?_, ?_, ?_, ?_⟩
      · simp [hrun, hterms]
      · simp [hrun, hsingle]
      · simp [hrun, hclear]
      · simp [hrun]
      · simp [hrun, hsingle]
      · intro r hr
        rw [hrun] at hr ⊢
        obtain rfl := Except.ok.inj hr
        exact ⟨front, back, _, hplace, yields_die mode source, keeps_die mode source, rfl, rfl,
          rfl, fun hsmall => satAdd_toInt32 _ hsmall, fun fair => keep_inRange fair mode source, rfl,
          rfl⟩

/-- With advantage a die that stands in the middle is rolled first, and a second group of
twenty-sided dice refuses the roll. -/
theorem rollD20_verdict_middle :
    let dice := ScriptedDice.ofList [7, 15, 3, 4, 2]
    let run := rollD20 "2d6 + 1d20 - 1d4" .advantage dice
    let refused := rollD20 "1d20 + 2d20" .advantage dice
    (∃ r front back between, run.1 = .ok r ∧
      front ++ .dice ⟨1, 20, .plus⟩ :: back =
        [.dice ⟨2, 6, .plus⟩, .dice ⟨1, 20, .plus⟩, .dice ⟨1, 4, .minus⟩] ∧
      Yields dice [20, 20] r.rolls between ∧ RollMode.advantage.Keeps r.rolls r.chosen ∧
      (r.remainder, run.2) = Formula.roll ⟨front ++ back⟩ between ∧
      r.total = satAdd r.remainder.total r.chosen.toInt32) ∧
    refused.1 = .error (.ambiguousD20 "1d20+2d20") ∧ refused.2 = dice := by
  intro dice run refused
  have hterms : (Formula.parse "2d6 + 1d20 - 1d4").terms =
      [.dice ⟨2, 6, .plus⟩, .dice ⟨1, 20, .plus⟩, .dice ⟨1, 4, .minus⟩] := by
    decide
  have hsingle : (Formula.parse "2d6 + 1d20 - 1d4").twenties = [⟨1, 20, .plus⟩] := by decide
  have hambiguous : (Formula.parse "1d20 + 2d20").Ambiguous := .inl (by decide)
  have hshown : (Formula.parse "1d20 + 2d20").text = "1d20+2d20" := by decide
  obtain ⟨-, -, -, -, hrolled, hresult⟩ := rollD20_verdict "2d6 + 1d20 - 1d4" .advantage dice
  obtain ⟨-, -, hrefused, hunchanged, -⟩ := rollD20_verdict "1d20 + 2d20" .advantage dice
  obtain ⟨r, hr⟩ := hrolled.2 hsingle
  obtain ⟨front, back, between, hplace, hyields, hkeeps, hrest, hmodifier, htotal, -⟩ :=
    hresult r hr
  have herror := (hrefused "1d20+2d20").2 ⟨hambiguous, hshown⟩
  exact ⟨⟨r, front, back, between, hr, hplace.symm.trans hterms, hyields, hkeeps, hrest,
    hmodifier ▸ htotal⟩, herror, hunchanged _ herror⟩

/-! ## Formulas that begin with their die -/

lemma isD20Term_eq_false {terms : List Term} (h : ∀ d, .dice d ∈ terms → d.sides ≠ 20) :
    ∀ t ∈ terms, Formula.isD20Term t = false := by
  intro t ht
  cases t with
  | flat value => rfl
  | dice d => exact beq_eq_false_iff_ne.2 (h d ht)

lemma yields_roll (f : Formula) (source : σ) :
    Yields source (sidesOf 1 f.dice) (f.roll source).1.drawn.flatten (f.roll source).2 := by
  have hyields := yields_drawDice 1 f.dice source
  rwa [← drawn_roll f source] at hyields

lemma toInt_subtotal_single {n : UInt32} (h : n.toNat ≤ 20) :
    (subtotal [n]).toInt = n.toInt32.toInt := by
  have hsum : (subtotal [n]).toInt = pips [n] :=
    toInt_subtotal (List.forall_mem_singleton.2 h) (by rw [List.length_singleton]; decide)
  rw [hsum, toInt_toInt32 (by omega)]
  rfl

/-- Added last, the die makes the same total as it makes in front, since neither sum stops at a
bound. -/
lemma satAdd_componentsTotal (fair : IsFair σ) {rest : List Term}
    (hterms : ∀ t ∈ (.dice ⟨1, 20, .plus⟩ :: rest : List Term), t.Admissible)
    (hfew : (.dice ⟨1, 20, .plus⟩ :: rest : List Term).length ≤ 2147) (source : σ) :
    let die := rollDice 1 20 source
    satAdd (componentsTotal (rollTerms rest die.2).1) (RollMode.normal.keep die.1).toInt32 =
      componentsTotal (rollTerms (.dice ⟨1, 20, .plus⟩ :: rest) source).1 := by
  intro die
  obtain ⟨hdie, hrest⟩ := List.forall_mem_cons.1 hterms
  -- With so few terms neither the sum of all nor that of the rest stops at a bound, so that both
  -- are sums of integers, in which the order does not matter.
  have hwhole := toInt_componentsTotal (by decide) hterms (sumsTo_written fair hterms source)
    (by omega)
  rw [List.length_cons] at hfew
  have hpart := toInt_componentsTotal (by decide) hrest (sumsTo_written fair hrest die.2) (by omega)
  have hshown : (subtotal die.1).toInt = (RollMode.normal.keep die.1).toInt32.toInt :=
    toInt_subtotal_single (fair 20 source (by decide)).2
  have hcons : exactSum ((rollTerms (.dice ⟨1, 20, .plus⟩ :: rest) source).1.map
        RollComponent.total) =
      (subtotal die.1).toInt + exactSum ((rollTerms rest die.2).1.map RollComponent.total) :=
    exactSum_cons _ _
  have hsum : (componentsTotal (rollTerms rest die.2).1).toInt +
      (RollMode.normal.keep die.1).toInt32.toInt =
        (componentsTotal (rollTerms (.dice ⟨1, 20, .plus⟩ :: rest) source).1).toInt := by
    rw [hwhole, hcons, hshown, hpart, Int.add_comm]
  rw [← Int32.toInt_inj, toInt_satAdd_of_fits (hsum.symm ▸ fitsInt32_toInt _), hsum]

/-- **Rolled by its die or as a whole.**  A formula that begins with a single added twenty-sided die,
has no other and at most 2147 terms is rolled in normal mode as it is rolled as a whole, with fair
dice: the same dice are drawn from the source in the same order, and leave it in the same state, the
kept result is the natural one, the rest has the components behind the first, and the total is the
same. -/
theorem rollD20_normal (fair : IsFair σ) {rest : List Term} (source : σ)
    (hstart : (Formula.parse text).terms = .dice ⟨1, 20, .plus⟩ :: rest)
    (hother : ∀ d, .dice d ∈ rest → d.sides ≠ 20)
    (hfew : (Formula.parse text).terms.length ≤ 2147) :
    let plain := rollText text source
    ∃ r, rollD20 text .normal source = (.ok r, plain.2) ∧
      r.total = plain.1.total ∧
      r.rolls :: r.remainder.drawn = plain.1.drawn ∧
      Yields source (sidesOf 1 (Formula.parse text).dice) plain.1.drawn.flatten plain.2 ∧
      plain.1.naturalD20 = some r.chosen ∧
      r.remainder.components = plain.1.components.tail := by
  intro plain
  -- The die is the first of its formula, so the split leaves exactly the terms behind it.
  have hparse : Formula.parse text = ⟨[] ++ .dice ⟨1, 20, .plus⟩ :: rest⟩ :=
    congrArg Formula.mk hstart
  have hsplit : (Formula.parse text).splitD20 = .ok (⟨1, 20, .plus⟩, ⟨rest⟩) := by
    rw [hparse]
    exact Formula.splitD20_append (List.forall_mem_nil _) (isD20Term_eq_false hother)
  have hterms : ∀ t ∈ (Formula.parse text).terms, t.Admissible := fun t => admissible_of_mem_scan
  rw [hstart] at hterms hfew
  have hplain : plain = (Formula.mk (.dice ⟨1, 20, .plus⟩ :: rest)).roll source :=
    congrArg (Formula.roll · source) hparse
  have hrun : rollD20 text .normal source = _ := rollD20_of_split hsplit
  rw [hparse, hplain]
  exact ⟨_, hrun, satAdd_componentsTotal fair hterms hfew source, rfl, yields_roll _ source, rfl, rfl⟩

end Source

/-- A thrust that adds two dice and has a penalty. -/
theorem rollD20_normal_thrust :
    let text := "1d20 + 2d6 - 3"
    let rest : List Term := [.dice ⟨2, 6, .plus⟩, .flat (-3)]
    let dice := ScriptedDice.ofList [12, 5, 6]
    let plain := rollText text dice
    IsFair ScriptedDice ∧
      ((Formula.parse text).terms = .dice ⟨1, 20, .plus⟩ :: rest ∧
        ∀ d, .dice d ∈ rest → d.sides ≠ 20) ∧
      ∃ r, rollD20 text .normal dice = (.ok r, plain.2) ∧ r.total = plain.1.total ∧
        r.total.toInt = 12 + 11 - 3 ∧ r.rolls :: r.remainder.drawn = [[12], [5, 6]] ∧
        r.remainder.components = plain.1.components.tail := by
  intro text rest dice plain
  have hstart : (Formula.parse text).terms = .dice ⟨1, 20, .plus⟩ :: rest := by decide
  have hother : ∀ d, .dice d ∈ rest → d.sides ≠ 20 := by
    intro d hd
    obtain rfl : d = ⟨2, 6, .plus⟩ := by simpa [rest] using hd
    decide
  have hvalue : plain.1.total.toInt = 12 + 11 - 3 ∧ plain.1.drawn = [[12], [5, 6]] := by decide
  obtain ⟨r, hrun, htotal, hdrawn, -, -, hrest⟩ :=
    rollD20_normal isFair_scriptedDice dice hstart hother (by rw [hstart]; decide)
  exact ⟨isFair_scriptedDice, ⟨hstart, hother⟩, r, hrun, htotal,
    (congrArg Int32.toInt htotal).trans hvalue.1, hdrawn.trans hvalue.2, hrest⟩

end Tabletop.Dice
