/-
This file tells what triggers pay when they go on the chain by themselves. Where the table and the zones
agree, a trigger is skipped only if its controller has not enough life points or a faster link waits. One that
costs its own card sends it to the graveyard from wherever it is.
-/

import CardDuel.Proofs.Flow.Loss
import CardDuel.Proofs.Flow.Trigger
import CardDuel.Proofs.Legal.Changes
import Mathlib.Logic.Function.Basic

namespace CardDuel

def Cost.life (cost : Cost) : UInt32 :=
  if cost.resource = .lifePoints then cost.amount else 0

def CardEffect.lifePrice (effect : CardEffect) : UInt32 := (effect.cost.map Cost.life).getD 0

/-- This is the link of a trigger with its number and the move count of its source. -/
def TriggeredEffect.link (trigger : TriggeredEffect) (number : Nat) (moves : UInt32) : ChainLink :=
  ⟨number, trigger.source, moves, trigger.card, trigger.effect, trigger.controller, trigger.speed, [],
    false⟩

namespace GameState

variable {before after state paid next : GameState} {catalog : Catalog} {trigger : TriggeredEffect}
  {effect : CardEffect} {found : CardInstance} {card : InstanceId}

def lives (state : GameState) (seat : Seat) : UInt32 := (state.player seat).life

theorem SameLife.lives (same : SameLife before after) : after.lives = before.lives :=
  funext fun seat => (same seat).1

theorem lives_setLife (state : GameState) (player : Seat) (life : UInt32) :
    (Change.setLife state player life).lives = Function.update state.lives player life := by
  funext seat
  rw [lives, Change.setLife, player_modifyPlayer]
  by_cases own : seat = player
  · simp [own]
  · simp [own, lives]

/-! Costs of triggers -/

/-- This tells that a player paid life points and that otherwise no more than cards moved. -/
structure Pays (before after : GameState) (player : Seat) (price : UInt32) : Prop where
  enough : price ≤ before.lives player
  lives : after.lives = Function.update before.lives player (before.lives player - price)
  shifts : Shifts before after

/-- Where no life is paid, the price is zero. -/
theorem Pays.free (same : SameLife before after) (shifts : Shifts before after) (player : Seat) :
    Pays before after player 0 where
  enough := UInt32.zero_le
  lives := by
    rw [same.lives, UInt32.sub_zero]
    exact (Function.update_eq_self player before.lives).symm
  shifts := shifts

theorem payLife_pays {player : Seat} {amount : UInt32} (enough : amount ≤ state.lives player)
    (made : state.applyChange (.payLife player amount) = .ok next) : Pays state next player amount := by
  have shifts := (applyChange_edits made).shifts
  obtain rfl := Except.ok.inj (mapError_eq_ok.mp made)
  refine ⟨enough, ?_, shifts⟩
  have left : Change.subtractLife (state.player player).life amount = state.lives player - amount :=
    if_pos enough
  rw [left]
  exact lives_setLife state player _

theorem toGraveyard_pays (made : state.applyChange (.toGraveyard card) = .ok next) (player : Seat) :
    Pays state next player 0 := by
  have shifts := (applyChange_edits made).shifts
  obtain ⟨origin, middle, moved, rfl⟩ := toGraveyard_eq_ok.mp made
  have same : SameLife state (middle.record (.cardMoved card origin .graveyard)) :=
    (SameLife.relocate moved).trans fun _ => ⟨rfl, rfl⟩
  exact .free same shifts player

/-- Whoever pays for a trigger has the life points that it costs and loses just these. -/
theorem payTriggerCost_pays (paying : state.payTriggerCost effect.cost trigger = .ok paid) :
    Pays state paid trigger.controller effect.lifePrice := by
  rw [CardEffect.lifePrice]
  rw [payTriggerCost.eq_def] at paying
  cases price : effect.cost with
  | none =>
    simp only [price] at paying
    obtain rfl := Except.ok.inj paying
    exact .free (.refl state) (.refl state) _
  | some cost =>
    simp only [price, Option.map_some, Option.getD_some, Cost.life] at paying ⊢
    by_cases life : cost.resource = .lifePoints
    · rw [if_pos life, ite_error_eq_ok] at paying
      rw [if_pos life]
      exact payLife_pays (UInt32.not_lt.mp paying.1) paying.2
    · rw [if_neg life] at paying ⊢
      exact toGraveyard_pays paying _

theorem payTriggerCost_chain (paying : state.payTriggerCost effect.cost trigger = .ok paid) :
    paid.chain = state.chain := by
  rw [payTriggerCost.eq_def] at paying
  split at paying
  · exact congrArg chain (Except.ok.inj paying).symm
  · split at paying
    · obtain rfl := Except.ok.inj (mapError_eq_ok.mp (ite_error_eq_ok.mp paying).2)
      rfl
    · obtain ⟨_, _, moved, rfl⟩ := toGraveyard_eq_ok.mp paying
      obtain ⟨_, _, _, _, _, _, rfl⟩ := relocate_cases moved
      rfl

/-- In a consistent state a trigger can be paid if its controller has enough life points. -/
theorem payTriggerCost_ok (consistent : state.Consistent) (known : state.card? trigger.source = some found)
    (enough : effect.lifePrice ≤ state.lives trigger.controller) :
    ∃ paid, state.payTriggerCost effect.cost trigger = .ok paid := by
  rw [CardEffect.lifePrice] at enough
  rw [payTriggerCost.eq_def]
  cases price : effect.cost with
  | none => exact ⟨state, rfl⟩
  | some cost =>
    simp only [price, Option.map_some, Option.getD_some, Cost.life] at enough ⊢
    by_cases life : cost.resource = .lifePoints
    · rw [if_pos life] at enough ⊢
      have rich : ¬(state.player trigger.controller).life < cost.amount := UInt32.not_lt.mpr enough
      rw [if_neg rich]
      exact ⟨_, rfl⟩
    · rw [if_neg life]
      exact toGraveyard_ok (consistent.lists _) known

/-! Triggers that go on the chain -/

/-- A trigger that is paid while no faster link waits goes on the chain. -/
theorem chainTrigger_paid (printed : catalog.effect? trigger.card trigger.effect = some effect)
    (fast : state.chain.canActivate trigger.speed = .ok ())
    (paying : state.payTriggerCost effect.cost trigger = .ok paid) :
    chainTrigger catalog state trigger =
      (paid.countedFor trigger).linked (paid.triggerLink trigger) := by
  have fits : (paid.countedFor trigger).chain.canActivate trigger.speed = .ok () := by
    rw [← payTriggerCost_chain paying] at fast
    exact fast
  have pushed : (paid.countedFor trigger).pushLink (paid.triggerLink trigger) =
      .ok ((paid.countedFor trigger).linked (paid.triggerLink trigger)) :=
    pushLink_eq_ok.mpr ⟨fits, rfl⟩
  simp only [chainTrigger, printed, activateTrigger_eq_ok.mpr ⟨paid, paying, pushed⟩]

/-- A trigger that its controller cannot pay, or that is too slow, is skipped and changes nothing. -/
theorem chainTrigger_skipped (printed : catalog.effect? trigger.card trigger.effect = some effect)
    (refused : ¬(state.chain.canActivate trigger.speed = .ok () ∧
      effect.lifePrice ≤ state.lives trigger.controller)) :
    chainTrigger catalog state trigger = state := by
  have fails : ∀ next, state.activateTrigger effect.cost trigger ≠ .ok next := by
    intro next activated
    obtain ⟨paid, paying, pushed⟩ := activateTrigger_eq_ok.mp activated
    have fast : paid.chain.canActivate trigger.speed = .ok () := (pushLink_eq_ok.mp pushed).1
    rw [payTriggerCost_chain paying] at fast
    exact refused ⟨fast, (payTriggerCost_pays paying).enough⟩
  simp only [chainTrigger, printed]
  split
  · next next activated => exact absurd activated (fails next)
  · rfl

/-- This tells that a trigger was paid and put on top of the chain. -/
structure Chains (before after : GameState) (trigger : TriggeredEffect) (price : UInt32) : Prop
    extends Pays before after trigger.controller price where
  links : ∃ moves, after.chain.links =
    before.chain.links ++ [trigger.link (before.chain.links.length + 1) moves]
  waits : after.chain.status = .awaitingResponse

/--
In a consistent state a trigger goes on the chain if it is fast enough and its controller has enough life
points.
-/
theorem chainTrigger_chains (consistent : state.Consistent)
    (known : state.card? trigger.source = some found)
    (printed : catalog.effect? trigger.card trigger.effect = some effect)
    (fast : state.chain.canActivate trigger.speed = .ok ())
    (enough : effect.lifePrice ≤ state.lives trigger.controller) :
    Chains state (chainTrigger catalog state trigger) trigger effect.lifePrice := by
  obtain ⟨paid, paying⟩ := payTriggerCost_ok consistent known enough
  have spent := payTriggerCost_pays paying
  rw [chainTrigger_paid printed fast paying]
  refine ⟨⟨enough, spent.lives, spent.shifts.then_still ⟨rfl, fun _ => rfl⟩⟩, ?_, rfl⟩
  rw [← payTriggerCost_chain paying]
  exact ⟨_, rfl⟩

end GameState

end CardDuel
