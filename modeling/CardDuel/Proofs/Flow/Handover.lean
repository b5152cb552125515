/-
This file tells exactly what the end of a turn does: the hand is cut down to its limit, what was granted for
the turn ends, what the players did in it is forgotten, and the other player begins with a draw.
-/

import CardDuel.Proofs.Flow.Start
import CardDuel.Proofs.Flow.Turn

namespace CardDuel

namespace GameState

variable {state next : GameState} {rules : Rules} {seat : Seat} {limit : Nat}

/-! Settled states -/

/-- A settled state stays settled when cards are discarded to the limit. -/
theorem Settled.discardToLimit (settled : state.Settled) (seat : Seat) (limit : Nat) :
    (state.discardToLimit seat limit).Settled := by
  refine List.foldlRecOn (motive := Settled) _ (discardExcess seat) settled ?_
  intro before settled card _
  rw [discardExcess]
  split
  · next made =>
    simp only [Change.toGraveyard, Change.apply, bind_eq_ok, pure_eq_ok] at made
    obtain ⟨⟨_, middle⟩, moved, rfl⟩ := made
    exact (settled.relocate moved).same rfl rfl rfl
  · exact settled

/-- A settled state stays settled through the end of a turn. -/
theorem Settled.wound (settled : state.Settled) (rules : Rules) : (state.wound rules).Settled :=
  have ending : (state.enterPhase .ending).Settled := settled.same rfl rfl rfl
  (ending.discardToLimit state.turnPlayer rules.config.handLimit).same rfl rfl rfl

/-- This is a state at the end of a turn just before the next one starts. -/
def handing (state : GameState) (rules : Rules) : GameState :=
  (state.wound rules).refresh rules.catalog

/-- The end of a turn in a settled state always leads to the start of the next one. -/
theorem Settled.endTurn_eq (settled : state.Settled) (running : state.outcome = none)
    (playing : state.phase.isPlayable = true) :
    state.endTurn rules = .ok ((state.handing rules).startTurn rules) := by
  refine (endTurn_eq_ok state rules).mpr ⟨playing, ?_⟩
  have swept : (state.wound rules).sweep rules.catalog = state.handing rules :=
    (settled.wound rules).sweep_eq rules.catalog
  have goesOn : (state.handing rules).outcome = none := (wound_frame state rules).outcome.trans running
  rw [swept, goesOn, if_neg (by simp)]

/-- This tells what the end of a turn does before the next one starts. -/
structure Winds (limit : Nat) (before after : GameState) : Prop where
  zones : ∀ seat, after.zones seat =
    if seat = before.turnPlayer then (before.zones before.turnPlayer).limited limit
    else before.zones seat
  lives : ∀ seat, (after.player seat).life = (before.player seat).life
  turn : after.turn = before.turn
  turnPlayer : after.turnPlayer = before.turnPlayer
  outcome : after.outcome = before.outcome
  activations : after.activations = before.activations
  granted : ∀ modifier ∈ after.granted, modifier.duration ≠ .endOfTurn

/-- The end of a turn of a settled state discards to the limit and leaves the rest alone. -/
theorem Settled.winds (settled : state.Settled) (rules : Rules) :
    Winds rules.config.handLimit state (state.handing rules) := by
  have ending : (state.enterPhase .ending).Settled := settled.same rfl rfl rfl
  obtain ⟨cards, events, log, discarded⟩ := discardToLimit_eq (ending.consistent.lists .hand)
    state.turnPlayer rules.config.handLimit
  rw [handing, GameState.wound, discarded]
  refine ⟨?_, ?_, rfl, rfl, rfl, rfl, ?_⟩
  · intro seat
    exact zones_setZones state state.turnPlayer seat _
  · intro seat
    exact (SameLife.setZones state state.turnPlayer _ seat).1
  · intro modifier live
    have kept := List.mem_of_mem_filter live
    exact of_decide_eq_true (List.mem_filter.mp kept).2

/-! Handovers -/

/-- This tells that the turn went to the other player, who drew a card or lost for want of one. -/
structure HandsOver (limit : Nat) (before after : GameState) : Prop where
  turn : after.turn = before.turn + 1
  turnPlayer : after.turnPlayer = before.turnPlayer.opponent
  discards : after.zones before.turnPlayer = { before.zones before.turnPlayer with
    hand := (before.zones before.turnPlayer).hand.take limit
    graveyard := (before.zones before.turnPlayer).graveyard ++
      ((before.zones before.turnPlayer).hand.drop limit).reverse }
  draws : ∀ rest card, (before.zones before.turnPlayer.opponent).deck = rest ++ [card] →
    after.outcome = none ∧ after.phase = .main1 ∧
    after.zones before.turnPlayer.opponent = { before.zones before.turnPlayer.opponent with
      deck := rest, hand := (before.zones before.turnPlayer.opponent).hand ++ [card] }
  stops : (before.zones before.turnPlayer.opponent).deck = [] →
    after.outcome = some (.winner before.turnPlayer) ∧ after.phase = .draw ∧
    after.zones before.turnPlayer.opponent = before.zones before.turnPlayer.opponent
  lives : ∀ seat, (after.player seat).life = (before.player seat).life
  summons : ∀ seat, (after.player seat).normalSummonUsed = false
  rested : ∀ found ∈ after.cards, found.summonedThisTurn = false ∧ found.setThisTurn = false ∧
    found.hasAttacked = false ∧ found.positionChanged = false
  thisTurn : ∀ card effect, after.activations.countThisTurn card effect = 0
  thisDuel : ∀ card effect, after.activations.countThisDuel card effect =
    before.activations.countThisDuel card effect
  granted : ∀ modifier ∈ after.granted, modifier.duration ≠ .endOfTurn
  chain : after.chain = .idle before.turnPlayer.opponent

/-- A counter of turns that does not come round gives the turn to the other player, who has to draw. -/
theorem counted_turn (positive : state.turn ≠ 0) (small : state.turn + 1 ≠ 0) (config : DuelConfig) :
    state.nextPlayer = state.turnPlayer.opponent ∧ state.begun.drawsThisTurn config = true := by
  refine ⟨if_neg positive, ?_⟩
  have later : state.turn + 1 > 1 := by
    have counted : state.turn.toNat ≠ 0 := fun zero => positive (UInt32.toNat_inj.mp zero)
    have bounded : (state.turn + 1).toNat ≠ 0 := fun zero => small (UInt32.toNat_inj.mp zero)
    have sum : (state.turn + 1).toNat = (state.turn.toNat + 1) % 2 ^ 32 :=
      UInt32.toNat_add state.turn 1
    have limit : state.turn.toNat < 2 ^ 32 := state.turn.toNat_lt
    rw [gt_iff_lt, UInt32.lt_iff_toNat_lt]
    show 1 < (state.turn + 1).toNat
    omega
  show (decide (state.turn + 1 > 1) || config.firstPlayerDraws) = true
  simp [later]

/-- The next turn starts with a handover unless the counter of turns comes round. -/
theorem Settled.handsOver (settled : state.Settled) (running : state.outcome = none)
    (positive : state.turn ≠ 0) (small : state.turn + 1 ≠ 0) (rules : Rules) :
    HandsOver rules.config.handLimit state ((state.handing rules).startTurn rules) := by
  have winds := settled.winds rules
  have calm : (state.handing rules).Settled := (settled.wound rules).refresh rules.catalog
  have goesOn : (state.handing rules).outcome = none := winds.outcome.trans running
  have begins := calm.begins goesOn rules
  obtain ⟨next, draws⟩ := counted_turn (winds.turn ▸ positive) (winds.turn ▸ small) rules.config
  rw [next, draws, winds.turnPlayer] at begins
  have own : (state.handing rules).zones state.turnPlayer =
      (state.zones state.turnPlayer).limited rules.config.handLimit := by
    rw [winds.zones, if_pos rfl]
  have other : (state.handing rules).zones state.turnPlayer.opponent =
      state.zones state.turnPlayer.opponent := by
    rw [winds.zones, if_neg state.turnPlayer.opponent_ne]
  exact
    { turn := begins.frame.turn.trans (congrArg (· + 1) winds.turn)
      turnPlayer := begins.frame.turnPlayer.trans (next.trans (congrArg Seat.opponent winds.turnPlayer))
      discards := by
        rw [begins.zones, if_neg fun both => state.turnPlayer.opponent_ne both.1.symm,
          PlayerZones.dealt_zero, own]
        rfl
      draws := fun rest card deck => by
        have more : (state.zones state.turnPlayer.opponent).deck ≠ [] := by simp [deck]
        rw [begins.outcome, begins.phase, begins.zones, other, if_neg fun both => more both.2,
          if_neg fun both => more both.2, if_pos ⟨rfl, rfl⟩, PlayerZones.dealt_one deck]
        exact ⟨rfl, rfl, rfl⟩
      stops := fun empty => by
        rw [begins.outcome, begins.phase, begins.zones, other, if_pos ⟨rfl, empty⟩,
          if_pos ⟨rfl, empty⟩, PlayerZones.dealt_of_empty empty, Seat.opponent_opponent]
        exact ⟨rfl, rfl, rfl⟩
      lives := fun seat => by
        rw [begins.frame.lives, player_begun]
        exact winds.lives seat
      summons := fun seat => by rw [begins.frame.summons, player_begun]
      rested := fun found member => by
        have rests := begins.frame.rested (begun_rested _) found member
        simpa [CardInstance.isRested, and_assoc] using rests
      thisTurn := fun card effect => by
        rw [begins.frame.activations]
        exact Activations.countThisTurn_resetTurn card effect
      thisDuel := fun card effect => by
        rw [begins.frame.activations, ← winds.activations]
        exact Activations.countThisDuel_resetTurn card effect
      granted := fun modifier member => winds.granted modifier (begins.frame.granted modifier member)
      chain := by
        rw [begins.frame.chain, ← winds.turnPlayer, ← next]
        rfl }

end GameState

namespace DuelSetup

open GameState

variable {setup : DuelSetup} {requests : List Request} {duel : Duel}

/-- While a player may act in a duel that goes on, nothing waits for a sweep. -/
theorem Run.settled (fits : setup.Fits) (run : setup.Run requests duel)
    (running : duel.state.outcome = none) (opened : duel.state.isOpen = true) :
    duel.state.Settled where
  consistent := run.consistent fits
  unmarked := run.unmarked.marked_eq_nil
  judged := fun _ => by
    obtain ⟨idle, _⟩ := isOpen_iff.mp opened
    have unlinked := (run.atRest.running running).1.links_eq_nil idle
    apply List.eq_nil_iff_forall_not_mem.mpr
    intro player lost
    obtain ⟨_, link, member, _⟩ := run.told running player lost
    rw [unlinked] at member
    exact List.not_mem_nil member

/--
When nothing waits for an answer, the turn player can end the turn, and the turn is handed over to the
other player. The only exception is a counter of turns that has come round, which takes more than four
billion requests.
-/
theorem Run.endTurn_exact (fits : setup.Fits) (run : setup.Run requests duel)
    (running : duel.state.outcome = none) (opened : duel.state.isOpen = true) :
    ∃ next, duel.state.endTurn duel.rules = .ok next ∧
      duel.state.dispatch duel.rules duel.state.turnPlayer .endTurn = .ok next ∧
      (HandsOver duel.rules.config.handLimit duel.state next ∨
        (duel.state.turn = 0 ∨ duel.state.turn + 1 = 0) ∧ UInt32.size ≤ requests.length + 2) := by
  have settled := run.settled fits running opened
  have playing := (run.atRest.running running).1.playing
  have ended : duel.state.endTurn duel.rules =
      .ok ((duel.state.handing duel.rules).startTurn duel.rules) := settled.endTurn_eq running playing
  have may : duel.state.openTurn duel.state.turnPlayer = .ok () := openTurn_eq_ok.mpr ⟨rfl, opened⟩
  refine ⟨_, ended, bind_eq_ok.mpr ⟨(), may, ended⟩, ?_⟩
  by_cases round : duel.state.turn = 0 ∨ duel.state.turn + 1 = 0
  · refine .inr ⟨round, ?_⟩
    by_contra short
    obtain ⟨positive, bounded⟩ := run.turn_bounds (by omega)
    rcases round with zero | last
    · rw [zero] at positive
      exact absurd positive (by decide)
    · have sum : (duel.state.turn + 1).toNat = (duel.state.turn.toNat + 1) % UInt32.size :=
        UInt32.toNat_add duel.state.turn 1
      rw [last, Nat.mod_eq_of_lt (by omega)] at sum
      cases sum
  · obtain ⟨positive, small⟩ := not_or.mp round
    exact .inl (settled.handsOver running positive small duel.rules)

/-- In this duel of sentries a player may keep only one card in the hand. -/
def hoarders : DuelSetup :=
  { sentries with rules := ⟨sentries.rules.catalog, { sentries.rules.config with handLimit := 1 }⟩ }

/--
Among hoarders the second player has to discard the drawn card, and the first player draws. Among heralds
the second player has nothing to draw, and the first player wins by ending the turn.
-/
theorem hoarders_endTurn_exact : ∃ duel next card,
    hoarders.Fits ∧ hoarders.Run [.act .first .endTurn] duel ∧ duel.state.outcome = none ∧
      duel.state.isOpen = true ∧ duel.state.turnPlayer = .second ∧
      (duel.state.zones .second).hand.length = 2 ∧ duel.state.endTurn duel.rules = .ok next ∧
      next.turn = duel.state.turn + 1 ∧ next.turnPlayer = .first ∧
      (next.zones .second).hand = (duel.state.zones .second).hand.take 1 ∧
      (next.zones .first).hand = (duel.state.zones .first).hand ++ [card] ∧
      next.phase = .main1 ∧ next.outcome = none ∧
    ∃ start last, heralds.Fits ∧ heralds.Run [] start ∧ start.state.outcome = none ∧
      start.state.isOpen = true ∧ start.state.endTurn start.rules = .ok last ∧
      last.outcome = some (.winner .first) ∧ last.phase = .draw := by
  have fits : hoarders.Fits := by
    show 2 + 2 < UInt32.size
    decide
  have fitsToo : heralds.Fits := by
    show 1 + 1 < UInt32.size
    decide
  have played : (hoarders.play? [.act .first .endTurn]).any (fun duel =>
      decide (duel.state.outcome = none ∧ duel.state.isOpen = true ∧
        duel.state.turnPlayer = .second ∧ (duel.state.zones .second).hand.length = 2 ∧
        (duel.state.zones .first).deck = [⟨0⟩] ∧ duel.state.turn = 2)) = true := by
    decide +kernel
  have begun : (heralds.play? []).any (fun duel =>
      decide (duel.state.outcome = none ∧ duel.state.isOpen = true ∧
        duel.state.turnPlayer = .first ∧ (duel.state.zones .second).deck = [] ∧
        duel.state.turn = 1)) = true := by
    decide +kernel
  obtain ⟨duel, reached, facts⟩ := (Option.any_eq_true _ _).mp played
  obtain ⟨running, opened, second, held, deck, turn⟩ := of_decide_eq_true facts
  obtain ⟨start, reachedToo, factsToo⟩ := (Option.any_eq_true _ _).mp begun
  obtain ⟨runs, openedToo, first, empty, turnToo⟩ := of_decide_eq_true factsToo
  have run : hoarders.Run [.act .first .endTurn] duel := .of_play reached
  have runToo : heralds.Run [] start := .of_play reachedToo
  obtain ⟨next, ended, _, handed | ⟨round, _⟩⟩ := run.endTurn_exact fits running opened
  · obtain ⟨last, endedToo, _, handedToo | ⟨round, _⟩⟩ := runToo.endTurn_exact fitsToo runs openedToo
    · have limit : duel.rules.config.handLimit = 1 := by
        rw [run.rules]
        rfl
      have discards := handed.discards
      have draws := handed.draws [] ⟨0⟩
      have player := handed.turnPlayer
      have stops := handedToo.stops
      rw [second] at discards draws player
      rw [first] at stops
      obtain ⟨goesOn, phase, drew⟩ := draws deck
      obtain ⟨won, stopped, _⟩ := stops empty
      refine ⟨duel, next, ⟨0⟩, fits, run, running, opened, second, held, ended, handed.turn, player, ?_,
        ?_, phase, goesOn, start, last, fitsToo, runToo, runs, openedToo, endedToo, won, stopped⟩
      · rw [discards, limit]
      · exact congrArg PlayerZones.hand drew
    · rw [turnToo] at round
      exact absurd round (by decide)
  · rw [turn] at round
    exact absurd round (by decide)

end DuelSetup

end CardDuel
