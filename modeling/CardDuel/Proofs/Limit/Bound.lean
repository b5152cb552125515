/-
This file shows that no effect is used more often than its limit allows, and that the records of uses
count what the log tells.
-/

import CardDuel.Proofs.Move.Play
import CardDuel.Proofs.Move.Tale

namespace CardDuel

/-- This tells whether an event is the use of an effect of a card. -/
def GameEvent.isUseOf (card : InstanceId) (effect : Nat) : GameEvent → Bool
  | effectActivated other index _ => other = card && index = effect
  | _ => false

theorem GameEvent.isOfEffect_of_isUseOf {card : InstanceId} {effect : Nat} {event : GameEvent}
    (uses : event.isUseOf card effect = true) : event.isOfEffect = true := by
  cases event <;> simp [isUseOf, isOfEffect] at uses ⊢

/-- What is allowed once per turn is allowed only before its first use in the turn. -/
theorem Activations.check_oncePerTurn {activations : Activations} {card : InstanceId} {effect : Nat}
    {result : Unit} (allowed : activations.check card effect (some .oncePerTurn) = .ok result) :
    activations.countThisTurn card effect = 0 := by
  simpa [check] using allowed

/-- What is allowed once per duel is allowed only before its first use. -/
theorem Activations.check_oncePerDuel {activations : Activations} {card : InstanceId} {effect : Nat}
    {result : Unit} (allowed : activations.check card effect (some .oncePerDuel) = .ok result) :
    activations.countThisDuel card effect = 0 := by
  simpa [check] using allowed

namespace GameState

/-- This is how often the log tells of the use of an effect of a card. -/
def uses (state : GameState) (card : InstanceId) (effect : Nat) : Nat :=
  state.log.countP fun entry => entry.event.isUseOf card effect

theorem uses_eq (state : GameState) (card : InstanceId) (effect : Nat) :
    state.uses card effect = state.tale.countP (GameEvent.isUseOf card effect) :=
  (state.countP_tale fun _ => GameEvent.isOfEffect_of_isUseOf).symm

theorem uses_of_tale {before after : GameState} (same : after.tale = before.tale)
    (card : InstanceId) (effect : Nat) : after.uses card effect = before.uses card effect := by
  rw [uses_eq, uses_eq, same]

/-- A resolution is no use. -/
theorem uses_spent (state : GameState) (catalog : Catalog) (link : ChainLink) (card : InstanceId)
    (effect : Nat) : (state.spent catalog link).uses card effect = state.uses card effect := by
  obtain ⟨aborted, told, notes⟩ := tale_spent state catalog link
  rw [uses_eq, uses_eq, told]
  rcases notes with rfl | ⟨_, _, _, _, rfl⟩
  · simp [GameEvent.isUseOf]
  · simp [GameEvent.isUseOf]

/-- This tells that the records count the uses of which the log tells. -/
structure Counted (state : GameState) : Prop where
  keyed : state.activations.Keyed
  thisDuel : ∀ card effect,
    state.activations.countThisDuel card effect = .ofNat (state.uses card effect)
  thisTurn : ∀ card effect, ∃ count ≤ state.uses card effect,
    state.activations.countThisTurn card effect = .ofNat count

/-- This tells that no effect was used more often than its limit allows. -/
def Limited (state : GameState) (catalog : Catalog) : Prop :=
  ∀ card found index effect, state.card? card = some found →
    catalog.effect? found.card index = some effect →
      (effect.limit = some .oncePerTurn → state.activations.countThisTurn card index ≤ 1) ∧
      (effect.limit = some .oncePerDuel → state.activations.countThisDuel card index ≤ 1)

variable {rules : Rules} {ways : Placement → Prop} {before after : GameState}

namespace Counted

theorem of_uses (counted : before.Counted) (activations : after.activations = before.activations)
    (uses : ∀ card effect, after.uses card effect = before.uses card effect) : after.Counted := by
  refine ⟨activations ▸ counted.keyed, ?_, ?_⟩
  · intro card effect
    rw [activations, uses]
    exact counted.thisDuel card effect
  · intro card effect
    rw [activations, uses]
    exact counted.thisTurn card effect

theorem same (counted : before.Counted) (activations : after.activations = before.activations)
    (tale : after.tale = before.tale) : after.Counted :=
  counted.of_uses activations (uses_of_tale tale)

theorem resetTurn (counted : before.Counted) :
    ({ before with activations := before.activations.resetTurn } : GameState).Counted := by
  refine ⟨counted.keyed.resetTurn, fun card effect => ?_, fun card effect => ⟨0, Nat.zero_le _, ?_⟩⟩
  · exact (Activations.countThisDuel_resetTurn card effect).trans (counted.thisDuel card effect)
  · exact Activations.countThisTurn_resetTurn card effect

/-- A use adds one to the counts and to the log. -/
theorem use (counted : before.Counted) {link : ChainLink}
    (activations : after.activations = before.activations.record link.source link.effect)
    (tale : ∃ number, after.tale = before.tale ++
      [.effectActivated link.source link.effect link.controller,
        .chainLinkAdded number link.source link.speed.value]) : after.Counted := by
  obtain ⟨number, told⟩ := tale
  have more (card : InstanceId) (effect : Nat) : after.uses card effect =
      before.uses card effect + if (card, effect) = (link.source, link.effect) then 1 else 0 := by
    rw [uses_eq, uses_eq, told, List.countP_append]
    congr 1
    by_cases same : (card, effect) = (link.source, link.effect)
    · obtain ⟨rfl, rfl⟩ := Prod.mk.inj same
      simp [GameEvent.isUseOf]
    · have other : ¬(link.source = card ∧ link.effect = effect) :=
        fun ⟨source, index⟩ => same (by rw [source, index])
      simp [GameEvent.isUseOf, other, same]
  refine ⟨activations ▸ counted.keyed.record _ _, ?_, ?_⟩
  · intro card effect
    rw [activations, Activations.countThisDuel_record, counted.thisDuel, more]
    split <;> simp
  · intro card effect
    obtain ⟨count, few, same⟩ := counted.thisTurn card effect
    rw [activations, Activations.countThisTurn_record, same, more]
    split
    · exact ⟨count + 1, by omega, by simp⟩
    · exact ⟨count, by omega, by simp⟩

end Counted

/-- Every act counts what it tells of. -/
theorem Act.counted (act : Act rules ways before after) (counted : before.Counted) : after.Counted := by
  cases act with
  | deed deed =>
    have quiet := (Deeds.of_deed deed).quiet
    exact counted.same quiet.activations quiet.tale
  | aside aside => exact counted.same aside.activations aside.tale
  | note remark =>
    exact counted.same rfl (tale_record_plain before (GameEvent.isOfEffect_of_isRemark remark))
  | enter free phase => exact counted.same rfl (tale_record_plain _ rfl)
  | newTurn free seat => exact counted.resetTurn.same rfl (tale_passTurn before seat)
  | attack aim peaceful there aimed => exact counted.same rfl (tale_record_plain _ rfl)
  | conclude waits deeds ends =>
    exact counted.same deeds.quiet.activations (conclude_tale deeds ends)
  | finish running result => exact counted.same rfl (tale_record_plain _ rfl)
  | use may first placing second =>
    exact counted.use (use_activations first placing second) ⟨_, use_tale first placing second⟩
  | answer same => exact counted.same rfl rfl
  | @resolve link chain running popped =>
    exact counted.of_uses (activations_spent _ rules.catalog link)
      (uses_spent { before with chain := chain } rules.catalog link)
  | clear drained priority => exact counted.same rfl rfl

/-- A move counts the uses of which it tells. -/
theorem Move.counted (move : Move rules ways before after) (counted : before.Counted) :
    after.Counted := by
  cases move with
  | act act => exact act.counted counted
  | offer events window => exact counted.same rfl rfl
  | drop ended => exact counted.same rfl rfl

/-! Limits -/

namespace Limited

variable {catalog : Catalog}

theorem same (limited : before.Limited catalog) (shifts : Shifts before after)
    (activations : after.activations = before.activations) : after.Limited catalog := by
  intro card found index effect known listed
  obtain ⟨old, there, printed⟩ := shifts.printed_before known
  rw [activations]
  exact limited card old index effect there (printed ▸ listed)

theorem resetTurn (limited : before.Limited catalog) :
    ({ before with activations := before.activations.resetTurn } : GameState).Limited catalog := by
  intro card found index effect known listed
  constructor
  · intro _
    show before.activations.resetTurn.countThisTurn card index ≤ 1
    rw [Activations.countThisTurn_resetTurn]
    decide
  · intro once
    show before.activations.resetTurn.countThisDuel card index ≤ 1
    rw [Activations.countThisDuel_resetTurn]
    exact (limited card found index effect known listed).2 once

/-- A use that the limit of its effect allows keeps all limits. -/
theorem use (limited : before.Limited catalog) (shifts : Shifts before after) {link : ChainLink}
    (may : before.MayUse catalog link)
    (activations : after.activations = before.activations.record link.source link.effect) :
    after.Limited catalog := by
  intro card found index effect known listed
  obtain ⟨old, there, printed⟩ := shifts.printed_before known
  have early := limited card old index effect there (printed ▸ listed)
  rw [activations, Activations.countThisTurn_record, Activations.countThisDuel_record]
  by_cases own : (card, index) = (link.source, link.effect)
  · -- The limit was checked for this very effect.
    obtain ⟨rfl, rfl⟩ := Prod.mk.inj own
    obtain ⟨source, used, present, card, named, allowed, _⟩ := may.allowed
    obtain rfl := Option.some.inj (there.symm.trans present)
    rw [card, printed, listed] at named
    obtain rfl := Option.some.inj named
    constructor
    · intro once
      rw [once] at allowed
      simp [Activations.check_oncePerTurn allowed]
    · intro once
      rw [once] at allowed
      simp [Activations.check_oncePerDuel allowed]
  · simpa [own] using early

end Limited

/-- Every act keeps the limits. -/
theorem Act.limited (act : Act rules ways before after) (limited : before.Limited rules.catalog) :
    after.Limited rules.catalog := by
  have shifts := act.shifts
  cases act with
  | deed deed => exact limited.same shifts (Deeds.of_deed deed).quiet.activations
  | aside aside => exact limited.same shifts aside.activations
  | newTurn free seat =>
    have still : Still { before with activations := before.activations.resetTurn }
        (before.passTurn seat) := ⟨(Still.passTurn before seat).standings, (Still.passTurn before seat).zones⟩
    exact limited.resetTurn.same (.of_still still) rfl
  | conclude waits deeds ends => exact limited.same shifts deeds.quiet.activations
  | use may first placing second =>
    exact limited.use shifts may (use_activations first placing second)
  | @resolve link chain running popped =>
    exact limited.same shifts (activations_spent _ rules.catalog link)
  | _ => exact limited.same shifts rfl

/-- A move keeps all limits. -/
theorem Move.limited (move : Move rules ways before after) (limited : before.Limited rules.catalog) :
    after.Limited rules.catalog := by
  cases move with
  | act act => exact act.limited limited
  | offer events window => exact limited.same (.of_still ⟨rfl, fun _ => rfl⟩) rfl
  | drop ended => exact limited.same (.of_still ⟨rfl, fun _ => rfl⟩) rfl

end GameState

namespace DuelSetup

variable {setup : DuelSetup} {requests : List Request} {duel : Duel}

/-- The uses of every reached state are counted. -/
theorem Run.counted (run : setup.Run requests duel) : duel.state.Counted := by
  refine run.moves.keeps (fun move => move.counted) ?_
  obtain ⟨unused, untold, _⟩ := setup.withDecks_unused
  refine ⟨by simp [unused, Activations.Keyed, Activations.empty], fun card effect => ?_,
    fun card effect => ⟨0, Nat.zero_le _, ?_⟩⟩
  · rw [unused, GameState.uses, untold]
    rfl
  · rw [unused]
    rfl

/-- Every reached state keeps the limits. -/
theorem Run.limited (run : setup.Run requests duel) :
    duel.state.Limited setup.rules.catalog := by
  refine run.moves.keeps (fun move => move.limited) ?_
  intro card found index effect _ _
  rw [setup.withDecks_unused.1]
  have none : (0 : UInt32) ≤ 1 := by decide
  exact ⟨fun _ => none, fun _ => none⟩

/--
No effect of a card is ever used more often than its limit allows. Each effect has at most one record,
and a record does not count more uses this turn than this duel as long as the uses fit into its numbers.
-/
theorem Run.keeps_limits (run : setup.Run requests duel) :
    (∀ card found index effect, duel.state.card? card = some found →
      setup.rules.catalog.effect? found.card index = some effect →
        (effect.limit = some .oncePerTurn →
          duel.state.activations.countThisTurn card index ≤ 1) ∧
        (effect.limit = some .oncePerDuel →
          duel.state.activations.countThisDuel card index ≤ 1)) ∧
    (duel.state.activations.records.map fun record => (record.card, record.effect)).Nodup ∧
    ∀ record ∈ duel.state.activations.records, record.thisTurn ≤ record.thisDuel ∨
      UInt32.size ≤ duel.state.uses record.card record.effect := by
  have counted := run.counted
  refine ⟨run.limited, counted.keyed, ?_⟩
  intro record member
  have found := counted.keyed.find?_eq member
  obtain ⟨count, few, turn⟩ := counted.thisTurn record.card record.effect
  have total := counted.thisDuel record.card record.effect
  rw [Activations.countThisTurn, found] at turn
  rw [Activations.countThisDuel, found] at total
  change record.thisTurn = .ofNat count at turn
  change record.thisDuel = .ofNat _ at total
  rcases Nat.lt_or_ge (duel.state.uses record.card record.effect) UInt32.size with fits | large
  · left
    rw [turn, total, UInt32.le_iff_toNat_le, UInt32.toNat_ofNat_of_lt' fits,
      UInt32.toNat_ofNat_of_lt' (Nat.lt_of_le_of_lt few fits)]
    exact few
  · exact .inr large

/-- This is a duel in which each player has one monster whose summon must be answered once per turn. -/
def lanterns : DuelSetup where
  rules := ⟨⟨[⟨⟨1⟩, "Lantern", .monster 1 100 100,
    [{ CardEffect.plain .trigger .one (.act (.gainLife 1) .controller) with
      limit := some .oncePerTurn
      trigger := some ⟨.summoned, .this, .either, false⟩ }], [], none⟩]⟩,
    { DuelConfig.standard with startingHand := 1 }⟩
  decks := .replicate [⟨1⟩]
  seed := 0
  shuffle := false
  firstPlayer := .first

/-- The effect of a summoned lantern is counted once and is within its limit. -/
theorem lanterns_keep_limits :
    ∃ duel, lanterns.Run [.act .first (.normalSummon ⟨0⟩ [])] duel ∧
      duel.state.activations.records = [⟨⟨0⟩, 0, 1, 1⟩] ∧
      duel.state.activations.countThisTurn ⟨0⟩ 0 ≤ 1 ∧
      ∀ record ∈ duel.state.activations.records, record.thisTurn ≤ record.thisDuel := by
  have played : (lanterns.play? [.act .first (.normalSummon ⟨0⟩ [])]).any (fun duel =>
      decide (duel.state.activations.records = [⟨⟨0⟩, 0, 1, 1⟩] ∧
        (duel.state.card? ⟨0⟩).map CardInstance.card = some ⟨1⟩ ∧
        duel.state.uses ⟨0⟩ 0 = 1)) = true := by
    decide +kernel
  obtain ⟨duel, followed, facts⟩ := (Option.any_eq_true _ _).mp played
  obtain ⟨records, printed, once⟩ := of_decide_eq_true facts
  have run : lanterns.Run [.act .first (.normalSummon ⟨0⟩ [])] duel := .of_play followed
  obtain ⟨limited, _, total⟩ := run.keeps_limits
  obtain ⟨found, known, card⟩ := Option.map_eq_some_iff.mp printed
  refine ⟨duel, run, records, ?_, fun record member => (total record member).resolve_right ?_⟩
  · exact (limited ⟨0⟩ found 0 _ known (by rw [card]; rfl)).1 rfl
  · rw [records] at member
    obtain rfl := List.mem_singleton.mp member
    rw [once]
    decide

end DuelSetup

end CardDuel
