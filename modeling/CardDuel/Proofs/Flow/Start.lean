/-
This file follows the start of a turn: what both players did is forgotten, and after at most one draw the
first main phase begins, unless the draw was due from an empty deck. If nothing waits then, nothing more
happens by itself.
-/

import CardDuel.Proofs.Flow.Settled
import CardDuel.Proofs.Table.Pile
import CardDuel.Proofs.Table.Posture

namespace CardDuel

/-- These are the zones of a player whose deck is in an order, after cards were drawn from it. -/
def PlayerZones.dealt (zones : PlayerZones) (order : List InstanceId) (count : Nat) : PlayerZones :=
  { zones with
    deck := (order.reverse.drop count).reverse
    hand := zones.hand ++ order.reverse.take count }

namespace PlayerZones

variable {zones : PlayerZones} {rest : List InstanceId} {card : InstanceId}

theorem dealt_zero (zones : PlayerZones) : zones.dealt zones.deck 0 = zones := by
  simp [dealt]

theorem dealt_of_empty (empty : zones.deck = []) (count : Nat) :
    zones.dealt zones.deck count = zones := by
  obtain ⟨deck, hand, monsters, spells, graveyard, banished⟩ := zones
  obtain rfl : deck = [] := empty
  simp [dealt]

/-- One card that is dealt comes from the top of the deck to the hand. -/
theorem dealt_one (deck : zones.deck = rest ++ [card]) : zones.dealt zones.deck 1 =
    { zones with deck := rest, hand := zones.hand ++ [card] } := by
  simp [dealt, deck]

/-- Two deals from one deck are one deal. -/
theorem dealt_dealt (zones : PlayerZones) (order : List InstanceId) (first second : Nat) :
    (zones.dealt order first).dealt (zones.dealt order first).deck second =
      zones.dealt order (first + second) := by
  simp [dealt, List.take_add]

end PlayerZones

namespace GameState

variable {state before middle after : GameState} {rules : Rules} {seat : Seat}
  {rest : List InstanceId} {card : InstanceId}

/-- This tells that no card has done anything this turn. -/
def Rested (state : GameState) : Prop := ∀ found ∈ state.cards, found.isRested = true

theorem Rested.refresh (rested : state.Rested) (catalog : Catalog) :
    (state.refresh catalog).Rested := by
  intro found member
  have same : (state.refresh catalog).cards.map CardInstance.isRested =
      state.cards.map CardInstance.isRested := map_cards_refresh (fun _ => rfl) state catalog
  have flag : found.isRested ∈ state.cards.map CardInstance.isRested :=
    same ▸ List.mem_map_of_mem member
  obtain ⟨old, early, equal⟩ := List.mem_map.mp flag
  rw [← equal]
  exact rested old early

/-! What stays from the draw on -/

def deckedOut (state : GameState) (seat : Seat) : GameState :=
  state.modifyPlayer seat fun entry => { entry with deckOut := true }

/-- This tells what the draw and the phases after it leave alone when a turn starts. -/
structure StartFrame (before after : GameState) : Prop where
  lives : ∀ seat, (after.player seat).life = (before.player seat).life
  summons : ∀ seat, (after.player seat).normalSummonUsed = (before.player seat).normalSummonUsed
  rested : before.Rested → after.Rested
  turn : after.turn = before.turn
  turnPlayer : after.turnPlayer = before.turnPlayer
  chain : after.chain = before.chain
  activations : after.activations = before.activations
  granted : ∀ modifier ∈ after.granted, modifier ∈ before.granted
  events : after.pendingEvents = before.pendingEvents
  attack : after.pendingAttack = before.pendingAttack

namespace StartFrame

theorem refl (state : GameState) : StartFrame state state :=
  ⟨fun _ => rfl, fun _ => rfl, id, rfl, rfl, rfl, rfl, fun _ => id, rfl, rfl⟩

theorem trans (first : StartFrame before middle) (second : StartFrame middle after) :
    StartFrame before after where
  lives := fun seat => (second.lives seat).trans (first.lives seat)
  summons := fun seat => (second.summons seat).trans (first.summons seat)
  rested := fun rested => second.rested (first.rested rested)
  turn := second.turn.trans first.turn
  turnPlayer := second.turnPlayer.trans first.turnPlayer
  chain := second.chain.trans first.chain
  activations := second.activations.trans first.activations
  granted := fun modifier member => first.granted modifier (second.granted modifier member)
  events := second.events.trans first.events
  attack := second.attack.trans first.attack

theorem deckedOut (state : GameState) (seat : Seat) : StartFrame state (state.deckedOut seat) := by
  refine ⟨?_, ?_, id, rfl, rfl, rfl, rfl, fun _ => id, rfl, rfl⟩
  · intro other
    rw [GameState.deckedOut, player_modifyPlayer]
    split <;> rfl
  · intro other
    rw [GameState.deckedOut, player_modifyPlayer]
    split <;> rfl

theorem drewTop (state : GameState) (seat : Seat) (rest : List InstanceId) (card : InstanceId) :
    StartFrame state (state.drewTop seat rest card) := by
  refine ⟨fun other => (SameLife.setZones state seat _ other).1, ?_, ?_, rfl, rfl, rfl, rfl, fun _ => id, rfl,
    rfl⟩
  · intro other
    show ((state.setZones seat _).player other).normalSummonUsed = _
    rw [setZones, player_modifyPlayer]
    split <;> rfl
  · intro rested found member
    obtain ⟨place, there⟩ := List.mem_iff_getElem?.mp member
    have modified : (state.cards.modify card.index fun entry =>
        entry.relocate .hand none .faceDown)[place]? = some found := there
    rw [List.getElem?_modify] at modified
    obtain ⟨old, early, rfl⟩ := Option.map_eq_some_iff.mp modified
    split
    · rfl
    · exact rested old (List.mem_of_getElem? early)

theorem refresh (state : GameState) (catalog : Catalog) : StartFrame state (state.refresh catalog) :=
  ⟨fun _ => rfl, fun _ => rfl, fun rested => rested.refresh catalog, rfl, rfl, rfl, rfl,
    fun _ => List.mem_of_mem_filter, rfl, rfl⟩

theorem enterPhase (state : GameState) (phase : Phase) : StartFrame state (state.enterPhase phase) :=
  ⟨fun _ => rfl, fun _ => rfl, id, rfl, rfl, rfl, rfl, fun _ => id, rfl, rfl⟩

theorem lostBy (state : GameState) (loser : Seat) : StartFrame state (state.lostBy loser) :=
  ⟨fun _ => rfl, fun _ => rfl, id, rfl, rfl, rfl, rfl, fun _ => id, rfl, rfl⟩

end StartFrame

/-! The start of a turn -/

/-- This is the state in the draw phase of a new turn before the draw. -/
def begun (state : GameState) : GameState := (state.passTurn state.nextPlayer).enterPhase .draw

/-- The beginning of a turn moves no card. -/
theorem zones_begun (state : GameState) (seat : Seat) : state.begun.zones seat = state.zones seat :=
  (Still.passTurn state state.nextPlayer).zones seat

/-- The beginning of a turn gives its player the normal summon back. -/
theorem player_begun (state : GameState) (seat : Seat) : state.begun.player seat =
    { state.player seat with normalSummonUsed := false } :=
  PerSeat.get_map state.players _ seat

/-- After the beginning of a turn no card has acted in it. -/
theorem begun_rested (state : GameState) : state.begun.Rested := by
  intro found member
  obtain ⟨old, _, rfl⟩ := List.mem_map.mp member
  rfl

/-- A settled state is settled at the beginning of a turn. -/
theorem Settled.begun (settled : state.Settled) : state.begun.Settled :=
  (settled.passTurn state.nextPlayer).same rfl rfl rfl

/-- A settled state is settled after the draw of a turn. -/
theorem Settled.drewTop (settled : state.Settled) (deck : (state.zones seat).deck = rest ++ [card]) :
    (state.drewTop seat rest card).Settled := by
  have moved := relocate_top (settled.consistent.lists .deck) deck rfl .hand rfl (by decide) .faceDown
  exact (settled.relocate moved).same rfl rfl rfl

theorem Still.deckedOut (state : GameState) (seat : Seat) : Still state (state.deckedOut seat) :=
  .modifyPlayer state seat fun _ => rfl

/-- A player without a card to draw is the only loser if nobody had lost. -/
theorem losers_deckedOut (clean : state.losers = []) (seat : Seat) :
    (state.deckedOut seat).losers = [seat] := by
  have other : seat.opponent ∉ state.losers := by
    rw [clean]
    exact List.not_mem_nil
  refine losers_eq_singleton ?_ ?_
  · rw [mem_losers, GameState.deckedOut, player_modifyPlayer, if_pos rfl]
    exact .inr rfl
  · rw [mem_losers] at other ⊢
    rwa [GameState.deckedOut, player_modifyPlayer, if_neg seat.opponent_ne]

theorem drawn_eq (state : GameState) (rules : Rules) : state.drawn rules =
    if state.begun.drawsThisTurn rules.config then state.begun.drawForTurn state.nextPlayer
    else state.begun := rfl

/-- This tells how a turn begins for a player who may have to draw. -/
structure Begins (before after : GameState) (player : Seat) (draws : Bool) : Prop where
  frame : StartFrame before.begun after
  zones : ∀ seat, after.zones seat = (before.zones seat).dealt (before.zones seat).deck
    (if seat = player ∧ draws then 1 else 0)
  outcome : after.outcome =
    if draws ∧ (before.zones player).deck = [] then some (.winner player.opponent) else none
  phase : after.phase = if draws ∧ (before.zones player).deck = [] then .draw else .main1

/-- A turn goes on to its first main phase if its draw leaves the duel settled. -/
theorem startTurn_of_settled (settled : (state.drawn rules).Settled) (running : state.outcome = none) :
    state.startTurn rules =
      (((state.drawn rules).refresh rules.catalog).enterPhase .standby).enterPhase .main1 := by
  have goesOn : ((state.drawn rules).refresh rules.catalog).outcome = none :=
    (drawn_frame state rules).outcome.trans running
  rw [startTurn_eq, settled.sweep_eq, goesOn]
  rfl

/-- A draw that leaves the duel settled changes what it has changed, and nothing follows from it. -/
theorem startTurn_goesOn {drawn : GameState} (same : state.drawn rules = drawn)
    (settled : drawn.Settled) (running : state.outcome = none)
    (frame : StartFrame state.begun drawn) :
    StartFrame state.begun (state.startTurn rules) ∧
      (∀ seat, (state.startTurn rules).zones seat = drawn.zones seat) ∧
      (state.startTurn rules).outcome = none ∧ (state.startTurn rules).phase = .main1 := by
  have goesOn : drawn.outcome = none := same ▸ (drawn_frame state rules).outcome.trans running
  rw [← same] at settled
  rw [startTurn_of_settled settled running, same]
  exact ⟨((frame.trans (.refresh _ _)).trans (.enterPhase _ _)).trans (.enterPhase _ _),
    fun _ => rfl, goesOn, rfl⟩

/-- A player who has to draw from an empty deck loses, and the turn stops. -/
theorem startTurn_of_empty (settled : state.Settled) (running : state.outcome = none)
    (drawn : state.drawn rules = state.begun.deckedOut state.nextPlayer) :
    state.startTurn rules =
      ((state.begun.deckedOut state.nextPlayer).refresh rules.catalog).lostBy state.nextPlayer := by
  have lost : ((state.begun.deckedOut state.nextPlayer).refresh rules.catalog).losers =
      [state.nextPlayer] := losers_deckedOut (settled.begun.judged running) _
  have goesOn : ((state.begun.deckedOut state.nextPlayer).refresh rules.catalog).outcome = none :=
    running
  have unmarked : (state.begun.deckedOut state.nextPlayer).marked = [] := settled.begun.unmarked
  rw [startTurn_eq, drawn, sweep_of_unmarked unmarked, checkLoss_of_loser goesOn lost]
  rfl

/-- A turn without a draw begins where the last one ended. -/
theorem Settled.begins_without (settled : state.Settled) (running : state.outcome = none)
    (draws : state.begun.drawsThisTurn rules.config = false) :
    Begins state (state.startTurn rules) state.nextPlayer false := by
  have drawn : state.drawn rules = state.begun := by
    rw [drawn_eq, draws]
    rfl
  obtain ⟨frame, zones, outcome, phase⟩ := startTurn_goesOn drawn settled.begun running (.refl _)
  refine ⟨frame, ?_, by simpa using outcome, by simpa using phase⟩
  intro seat
  rw [zones, zones_begun, if_neg (by simp), PlayerZones.dealt_zero]

/-- A turn begins with the top card of the deck. -/
theorem Settled.begins_drawing (settled : state.Settled) (running : state.outcome = none)
    (draws : state.begun.drawsThisTurn rules.config = true)
    (deck : (state.zones state.nextPlayer).deck = rest ++ [card]) :
    Begins state (state.startTurn rules) state.nextPlayer true := by
  have begunDeck : (state.begun.zones state.nextPlayer).deck = rest ++ [card] := by
    rw [zones_begun, deck]
  have drawn : state.drawn rules = state.begun.drewTop state.nextPlayer rest card := by
    rw [drawn_eq, if_pos draws, drawForTurn_eq (settled.begun.consistent.lists .deck) begunDeck]
  obtain ⟨frame, zones, outcome, phase⟩ :=
    startTurn_goesOn drawn (settled.begun.drewTop begunDeck) running (.drewTop _ _ _ _)
  refine ⟨frame, ?_, by simpa [deck] using outcome, by simpa [deck] using phase⟩
  intro seat
  rw [zones, zones_drewTop, zones_begun, zones_begun]
  by_cases own : seat = state.nextPlayer
  · rw [if_pos own, if_pos ⟨own, rfl⟩, own, PlayerZones.dealt_one deck]
  · rw [if_neg own, if_neg (fun both => own both.1), PlayerZones.dealt_zero]

/-- A turn whose draw is due from an empty deck stops there. -/
theorem Settled.begins_empty (settled : state.Settled) (running : state.outcome = none)
    (draws : state.begun.drawsThisTurn rules.config = true)
    (empty : (state.zones state.nextPlayer).deck = []) :
    Begins state (state.startTurn rules) state.nextPlayer true := by
  have top : (state.begun.zones state.nextPlayer).topOfDeck? = none := by
    rw [zones_begun, PlayerZones.topOfDeck?, empty]
    rfl
  have drawn : state.drawn rules = state.begun.deckedOut state.nextPlayer := by
    rw [drawn_eq, if_pos draws, drawForTurn, top]
    rfl
  have same (seat : Seat) : (state.begun.deckedOut state.nextPlayer).zones seat = state.zones seat :=
    ((Still.deckedOut state.begun _).zones seat).trans (zones_begun state seat)
  rw [startTurn_of_empty settled running drawn]
  refine ⟨((StartFrame.deckedOut _ _).trans (.refresh _ _)).trans (.lostBy _ _),
    fun seat => (same seat).trans ?_, by simp [empty]; rfl, by simp [empty]; rfl⟩
  by_cases own : seat = state.nextPlayer
  · rw [own, PlayerZones.dealt_of_empty empty]
  · rw [if_neg (fun both => own both.1), PlayerZones.dealt_zero]

/-- From a settled state a turn begins with at most one draw. -/
theorem Settled.begins (settled : state.Settled) (running : state.outcome = none) (rules : Rules) :
    Begins state (state.startTurn rules) state.nextPlayer
      (state.begun.drawsThisTurn rules.config) := by
  cases draws : state.begun.drawsThisTurn rules.config with
  | false => exact settled.begins_without running draws
  | true =>
    rcases List.eq_nil_or_concat (state.zones state.nextPlayer).deck with empty | ⟨rest, card, deck⟩
    · exact settled.begins_empty running draws empty
    · rw [List.concat_eq_append] at deck
      exact settled.begins_drawing running draws deck

/-! Quiet states -/

/-- Nothing happens by itself if nothing waits. -/
theorem settle_of_quiet (quiet : state.pendingEvents = []) (free : state.pendingAttack = none)
    (catalog : Catalog) :
    state.settle catalog = if state.outcome.isSome then state.clearWaiting else state := by
  have still : state.settleStep? catalog = none := by
    rw [settleStep?, quiet, free]
    exact ite_self none
  rw [settle, maxSettleSteps, settleWithin, still]

/-- Settling moves no card if neither events nor an attack wait. -/
theorem zones_settle_of_quiet (quiet : state.pendingEvents = []) (free : state.pendingAttack = none)
    (catalog : Catalog) (seat : Seat) : (state.settle catalog).zones seat = state.zones seat := by
  rw [settle_of_quiet quiet free]
  split <;> rfl

/-- Settling decides nothing if neither events nor an attack wait. -/
theorem outcome_settle_of_quiet (quiet : state.pendingEvents = []) (free : state.pendingAttack = none)
    (catalog : Catalog) : (state.settle catalog).outcome = state.outcome := by
  rw [settle_of_quiet quiet free]
  split <;> rfl

end GameState

end CardDuel
