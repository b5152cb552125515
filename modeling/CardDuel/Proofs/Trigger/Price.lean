/-
This file compares what triggers pay by themselves with what players may pay. Life points count in the same
way. But a trigger that costs its own card is paid even if that card has left play, which no player may do; then
the card is told to go to the graveyard from there.
-/

import CardDuel.Proofs.Catalog.Faultless
import CardDuel.Proofs.Table.Setup
import CardDuel.Proofs.Trigger.Payment

namespace CardDuel

namespace GameState

variable {before state : GameState} {catalog : Catalog} {trigger : TriggeredEffect} {effect : CardEffect}
  {found : CardInstance} {card : InstanceId} {player : Seat}

/-- This tells that an effect costs its own card although that card has left play. -/
def Buried (state : GameState) (effect : CardEffect) (card : InstanceId) : Prop :=
  (∃ cost ∈ effect.cost, cost.resource = .this) ∧ state.leftPlay card = true

theorem Buried.lifePrice (buried : state.Buried effect card) : effect.lifePrice = 0 := by
  obtain ⟨⟨cost, price, own⟩, _⟩ := buried
  simp [CardEffect.lifePrice, Option.mem_def.mp price, Cost.life, own]

/-- Without naming a card a player pays life points, or a card that is still in play. -/
theorem checkCost_nil_iff
    (alone : ∀ cost ∈ effect.cost, cost.resource = .lifePoints ∨ cost.resource = .this) :
    state.checkCost effect.cost player card [] = .ok () ↔
      effect.lifePrice ≤ state.lives player ∧ ¬state.Buried effect card := by
  rw [checkCost.eq_def, CardEffect.lifePrice, Buried]
  cases price : effect.cost with
  | none => simp [pure_eq_ok]
  | some cost =>
    rcases alone cost price with life | own
    · simp [Cost.cardsNamed, Cost.life, life, lives, ite_throw_eq_ok, pure_eq_ok]
    · simp [Cost.cardsNamed, Cost.life, own, ite_throw_eq_ok, pure_eq_ok]

theorem checkCost_of_buried (buried : state.Buried effect card) :
    state.checkCost effect.cost player card [] = .error (.cannotPayCost .cardLeft) := by
  obtain ⟨⟨cost, price, own⟩, left⟩ := buried
  have named : cost.cardsNamed = 0 := by rw [Cost.cardsNamed, own]
  rw [checkCost.eq_def, Option.mem_def.mp price]
  simp only [List.length_nil, Option.map_some, Option.getD_some, named, ne_eq, not_true, if_false, own,
    left, if_true]
  rfl

/-- A trigger that costs no other card is paid when a player could pay, and when its own card has left play. -/
theorem payable_or_buried_iff
    (alone : ∀ cost ∈ effect.cost, cost.resource = .lifePoints ∨ cost.resource = .this) :
    state.checkCost effect.cost player card [] = .ok () ∨ state.Buried effect card ↔
      effect.lifePrice ≤ state.lives player := by
  rw [checkCost_nil_iff alone]
  constructor
  · rintro (⟨enough, _⟩ | buried)
    · exact enough
    · rw [buried.lifePrice]
      exact UInt32.zero_le
  · intro enough
    by_cases buried : state.Buried effect card
    · exact .inr buried
    · exact .inl ⟨enough, buried⟩

/-- A card that has left play lies in the graveyard or is banished. -/
theorem leftPlay_iff (known : state.card? card = some found) :
    state.leftPlay card = true ↔ found.zone = .graveyard ∨ found.zone = .banished := by
  simp [leftPlay, known]

/-- This is what a trigger that costs its own card tells of when it goes on the chain. -/
theorem log_chainTrigger (consistent : state.Consistent)
    (known : state.card? trigger.source = some found)
    (printed : catalog.effect? trigger.card trigger.effect = some effect)
    (fast : state.chain.canActivate trigger.speed = .ok ())
    (own : ∃ cost ∈ effect.cost, cost.resource = .this) :
    (chainTrigger catalog state trigger).log.map LoggedEvent.event =
      state.log.map LoggedEvent.event ++ [.cardMoved trigger.source found.zone .graveyard,
        .effectActivated trigger.source trigger.effect trigger.controller,
        .chainLinkAdded (state.chain.links.length + 1) trigger.source trigger.speed.value] := by
  obtain ⟨cost, price, own⟩ := own
  obtain ⟨paid, made⟩ := toGraveyard_ok (consistent.lists _) known
  have paying : state.payTriggerCost effect.cost trigger = .ok paid := by
    simp only [payTriggerCost, Option.mem_def.mp price, own, reduceCtorEq, if_false]
    exact made
  have chain := payTriggerCost_chain paying
  obtain ⟨origin, middle, moved, rfl⟩ := toGraveyard_eq_ok.mp made
  obtain ⟨other, _, same, rfl, _, _, rfl⟩ := relocate_cases moved
  obtain rfl : found = other := Option.some.inj (known.symm.trans same)
  rw [chainTrigger_paid printed fast paying, linked, countedFor, ← chain]
  simp [record, arrived, modifyCard, setZones, modifyPlayer, triggerLink]

/--
In a catalog that was read from a text, a trigger that was collected goes on the chain, unless it is too slow,
exactly if a player could pay its cost there or if it costs its own card and that card has left play. Otherwise
nothing changes. A card that is paid after it has left play is told to go from there to the graveyard.
-/
theorem chainTrigger_paid_or_buried {text : String} {load : CatalogLoad} {events : List GameEvent}
    (read : CatalogLoad.parse text = .ok load)
    (collected : trigger ∈ state.collectTriggers load.catalog events) (consistent : before.Consistent)
    (same : before.cards.map CardInstance.identity = state.cards.map CardInstance.identity) :
    ∃ effect, load.catalog.effect? trigger.card trigger.effect = some effect ∧
      (before.chain.canActivate trigger.speed = .ok () →
        before.checkCost effect.cost trigger.controller trigger.source [] = .ok () ∨
          before.Buried effect trigger.source →
        Chains before (chainTrigger load.catalog before trigger) trigger effect.lifePrice) ∧
      (¬(before.chain.canActivate trigger.speed = .ok () ∧
          (before.checkCost effect.cost trigger.controller trigger.source [] = .ok () ∨
            before.Buried effect trigger.source)) →
        chainTrigger load.catalog before trigger = before) ∧
      (before.chain.canActivate trigger.speed = .ok () → before.Buried effect trigger.source →
        before.checkCost effect.cost trigger.controller trigger.source [] =
            .error (.cannotPayCost .cardLeft) ∧
          ∃ zone, (zone = .graveyard ∨ zone = .banished) ∧
            (chainTrigger load.catalog before trigger).log.map LoggedEvent.event =
              before.log.map LoggedEvent.event ++ [.cardMoved trigger.source zone .graveyard,
                .effectActivated trigger.source trigger.effect trigger.controller,
                .chainLinkAdded (before.chain.links.length + 1) trigger.source trigger.speed.value]) := by
  obtain ⟨card, effect, spec, follows⟩ := collectTriggers_follows collected
  have printed : load.catalog.effect? trigger.card trigger.effect = some effect :=
    follows.printed ▸ follows.known
  have alone := CatalogLoad.parse_paysAlone read printed follows.kind
  obtain ⟨found, known⟩ : ∃ found, before.card? trigger.source = some found := by
    have listed : card.identity ∈ before.cards.map CardInstance.identity := by
      rw [same]
      exact List.mem_map_of_mem follows.there
    obtain ⟨found, there, identity⟩ := List.mem_map.mp listed
    have id : found.id = card.id := congrArg CardIdentity.id identity
    exact ⟨found, follows.source ▸ id ▸ consistent.numbered.card?_id there⟩
  refine ⟨effect, printed, ?_, ?_, ?_⟩
  · intro fast able
    exact chainTrigger_chains consistent known printed fast ((payable_or_buried_iff alone).mp able)
  · intro refused
    rw [payable_or_buried_iff alone] at refused
    exact chainTrigger_skipped printed refused
  · intro fast buried
    exact ⟨checkCost_of_buried buried, found.zone, (leftPlay_iff known).mp buried.2,
      log_chainTrigger consistent known printed fast buried.1⟩

end GameState

namespace DuelSetup

/-- This is the text of a catalog with one monster. When it goes to the graveyard, it pays itself. -/
def phoenixText : String :=
  "[\x7b\"id\":1,\"name\":\"Phoenix\",\"kind\":\"monster\",\"level\":1,\"atk\":1,\"def\":1," ++
  "\"effects\":[\x7b\"type\":\"trigger\"," ++
  "\"trigger\":\x7b\"event\":\"sent_to_graveyard\",\"subject\":\"self\"\x7d," ++
  "\"cost\":\x7b\"resource\":\"self\"\x7d," ++
  "\"effect\":\x7b\"action\":\"gain_life\",\"amount\":1\x7d\x7d]\x7d]"

/-- This is a duel in which each player has two monsters of a catalog and may keep one in the hand. -/
def phoenixes (catalog : Catalog) : DuelSetup where
  rules := ⟨catalog, { DuelConfig.standard with
    startingHand := 1, handLimit := 1, firstPlayerDraws := true }⟩
  decks := .replicate [⟨1⟩, ⟨1⟩]
  seed := 0
  shuffle := false
  firstPlayer := .first

/--
After the first player has discarded a phoenix, it is told to arrive in the graveyard from there, and that lets
it follow again. No player could pay it, but it goes on the chain once more.
-/
theorem phoenixes_pay_again :
    ∃ load duel trigger, CatalogLoad.parse phoenixText = .ok load ∧
      (phoenixes load.catalog).Run [.act .first .endTurn] duel ∧
      duel.state.pendingEvents = [.cardMoved ⟨0⟩ .graveyard .graveyard] ∧
      trigger ∈ duel.state.collectTriggers load.catalog duel.state.pendingEvents ∧
      trigger.optional = false ∧
      duel.state.checkCost (some ⟨.this, 1⟩) trigger.controller trigger.source [] =
        .error (.cannotPayCost .cardLeft) ∧
      (GameState.chainTrigger load.catalog duel.state trigger).chain.links.length = 2 := by
  have played : (CatalogLoad.parse phoenixText).toOption.any (fun load =>
      ((phoenixes load.catalog).play? [.act .first .endTurn]).any fun duel =>
        (duel.state.collectTriggers load.catalog duel.state.pendingEvents).head?.any fun trigger =>
          decide (duel.state.pendingEvents = [.cardMoved ⟨0⟩ .graveyard .graveyard] ∧
            trigger.optional = false ∧ duel.state.chain.canActivate trigger.speed = .ok () ∧
            (load.catalog.effect? trigger.card trigger.effect).map CardEffect.cost =
              some (some ⟨.this, 1⟩) ∧
            duel.state.leftPlay trigger.source = true ∧ duel.state.chain.links.length = 1)) = true := by
    decide +kernel
  obtain ⟨load, read, follows⟩ := any_toOption_iff.mp played
  obtain ⟨duel, followed, first⟩ := (Option.any_eq_true _ _).mp follows
  obtain ⟨trigger, head, facts⟩ := (Option.any_eq_true _ _).mp first
  obtain ⟨arrived, mandatory, fast, price, left, one⟩ := of_decide_eq_true facts
  have run : (phoenixes load.catalog).Run [.act .first .endTurn] duel := .of_play followed
  have fits : (phoenixes load.catalog).Fits := by
    show 2 + 2 < UInt32.size
    decide
  have collected := List.mem_of_head? head
  obtain ⟨effect, printed, chains, _, told⟩ :=
    GameState.chainTrigger_paid_or_buried read collected (run.consistent fits) rfl
  have cost : effect.cost = some ⟨.this, 1⟩ := by simpa [printed] using price
  have buried : duel.state.Buried effect trigger.source := ⟨⟨_, cost, rfl⟩, left⟩
  obtain ⟨moves, links⟩ := (chains fast (.inr buried)).links
  refine ⟨load, duel, trigger, read, run, arrived, collected, mandatory, ?_, ?_⟩
  · exact cost ▸ (told fast buried).1
  · rw [links, List.length_append, one]
    rfl

end DuelSetup

end CardDuel
