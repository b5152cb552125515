/-
This file shows what the log leaves out: the move of a spell or trap that is played from the hand, and
nothing else. Read as it stands, the log misses exactly the requests that play a card from the hand.
-/

import CardDuel.Proofs.Chain.Spent
import CardDuel.Proofs.Log.Replay

namespace CardDuel

/-- This tells whether an event is an entry: it puts a card somewhere and does not name its old zone. -/
def GameEvent.isEntry : GameEvent → Bool
  | cardDrawn .. | summoned .. | cardSet .. => true
  | _ => false

/--
If one reading of events has a card among the spells at first and another one has it in the hand, then they
still do at the end, as long as no event is an entry.
-/
theorem Reading.Replays.differ {reading other : Reading} {first second third fourth : Layout}
    {events : List GameEvent} {card : InstanceId} (full : reading.Replays first events third)
    (literal : other.literal.Replays second events fourth)
    (none : ∀ event ∈ events, event.isEntry = false) (spells : first card = some .spells)
    (hand : second card = some .hand) : third card = some .spells ∧ fourth card = some .hand := by
  induction full generalizing second with
  | nil =>
    cases literal
    exact ⟨spells, hand⟩
  | @cons layout after event rest fits others ih =>
    obtain ⟨neutral, remain⟩ := List.forall_mem_cons.mp none
    cases literal with
    | cons fitsToo othersToo =>
      -- A move of this very card would have to start in both zones.
      have kept : reading.read layout event card = some .spells ∧
          other.literal.read second event card = some .hand := by
        cases event with
        | cardMoved moved origin destination =>
          have away : card ≠ moved := by
            rintro rfl
            have one := fits card origin destination rfl
            have two := fitsToo card origin destination rfl
            rw [spells] at one
            rw [hand, ← one] at two
            simp at two
          simp [read, Function.update_of_ne away, spells, hand]
        | effectActivated played index player =>
          refine ⟨?_, hand⟩
          rw [read]
          split
          · next plays =>
            have away : card ≠ played := by
              rintro rfl
              simp [spells] at plays
            rw [Function.update_of_ne away, spells]
          · exact spells
        | cardDrawn | summoned | cardSet => cases neutral
        | _ => exact ⟨spells, hand⟩
      exact ih othersToo remain kept.1 kept.2

namespace GameState

variable {before middle after state next : GameState} {catalog : Catalog} {player : Seat}
  {card : InstanceId}

/-- This tells that the log grows by events none of which is an entry. -/
def Parting (before after : GameState) : Prop :=
  ∃ told, after.log.map LoggedEvent.event = before.log.map LoggedEvent.event ++ told ∧
    ∀ event ∈ told, event.isEntry = false

namespace Parting

theorem quiet (log : after.log = before.log) : Parting before after := ⟨[], by simp [log], by simp⟩

theorem refl (state : GameState) : Parting state state := quiet rfl

theorem trans (first : Parting before middle) (second : Parting middle after) :
    Parting before after := by
  obtain ⟨early, same, none⟩ := first
  obtain ⟨late, sameToo, noneToo⟩ := second
  refine ⟨early ++ late, by rw [sameToo, same, List.append_assoc], ?_⟩
  intro event member
  exact (List.mem_append.mp member).elim (none event) (noneToo event)

theorem record {event : GameEvent} (log : middle.log = before.log) (leaves : event.isEntry = false) :
    Parting before (middle.record event) :=
  ⟨[event], by simp [GameState.record, log], List.forall_mem_singleton.mpr leaves⟩

/-- Costs, recomputations and destructions tell of no entry. -/
theorem of_deeds {may : GameState → Change → Prop}
    (pays : ∀ state change, may state change →
      (∃ card, change = .toGraveyard card) ∨ ∃ player amount, change = .payLife player amount)
    (deeds : Deeds may before after) : Parting before after := by
  have moved {state next : GameState} {card : InstanceId} {zone origin : Zone} {place : Place}
      {position : Position} (moved : state.relocate card zone place position = .ok (origin, next)) :
      Parting state (next.record (.cardMoved card origin zone)) :=
    .record (log_relocate moved).1 rfl
  induction deeds with
  | refl => exact .refl before
  | tail _ deed ih =>
    refine ih.trans ?_
    cases deed with
    | change change allowed made =>
      rcases pays _ change allowed with ⟨card, rfl⟩ | ⟨player, amount, rfl⟩
      · simp only [Change.toGraveyard, Change.apply, bind_eq_ok, pure_eq_ok] at made
        obtain ⟨⟨_, next⟩, goes, rfl⟩ := made
        exact moved goes
      · obtain rfl := Except.ok.inj made
        exact .record rfl rfl
    | refresh catalog => exact .quiet rfl
    | destroy entry =>
      obtain ⟨card, cause⟩ := entry
      rw [destroyMarked]
      split
      · next goes => exact (moved goes).trans (.record rfl rfl)
      · exact .quiet rfl

theorem sweep (state : GameState) (catalog : Catalog) : Parting state (state.sweep catalog) := by
  have deeds : Deeds (fun _ _ => False) state (state.destroyAllMarked catalog) :=
    state.destroyAllMarked_deeds catalog
  refine (of_deeds (fun _ _ given => given.elim) deeds).trans ?_
  rw [GameState.sweep, checkLoss]
  split
  · rw [endDuel]
    split
    · exact .refl _
    · exact .record rfl rfl
  · exact .refl _

end Parting

/-- A cost takes cards away, which is told with their old zones. -/
theorem costChanges_parting {cost : Option Cost} {paid : List InstanceId}
    (pays : state.applyChanges (costChanges player card paid cost) = .ok next) :
    Parting state next := by
  refine .of_deeds (fun _ _ given => given) (applyChanges_deeds ?_ pays)
  intro _ change member
  rcases mem_costChanges member with taken | ⟨amount, same⟩
  · exact .inl taken
  · exact .inr ⟨player, amount, same⟩

/-- A player may pass if that was so before. -/
theorem Course.canPass_eq (course : Course before after) : after.canPass = before.canPass := by
  have links := congrArg List.isEmpty course.links
  rw [List.isEmpty_map, List.isEmpty_map] at links
  rw [canPass, canPass, Chain.isEmpty, Chain.isEmpty, links, course.window]

theorem canPass_sweep (state : GameState) (catalog : Catalog) :
    (state.sweep catalog).canPass = state.canPass := (sweep_course state catalog).canPass_eq

/-- A player may pass when there is a new link. -/
theorem canPass_linked (state : GameState) (link : ChainLink) :
    (state.linked link).canPass = true := by
  have links : (state.linked link).chain.links =
      state.chain.links ++ [{ link with number := state.chain.links.length + 1 }] := rfl
  simp [canPass, Chain.isEmpty, links]

/-- Nothing happens by itself while a player may pass. -/
theorem log_settle (passes : state.canPass = true) :
    (state.settle catalog).log = state.log := by
  rw [settle, maxSettleSteps, settleWithin]
  split
  · rfl
  · rw [settleStep?_of_canPass passes]

/-- What follows from an action after which a player may pass is only a sweep. -/
theorem handedBack_parting (passes : state.canPass = true) :
    Parting state (state.handedBack catalog) := by
  refine (Parting.sweep state catalog).trans (.quiet (log_settle ?_))
  rw [canPass_sweep, passes]

/-- No event tells that a card which is activated in the hand goes onto the field. -/
theorem log_placed {before placed : GameState} {kind : CardKind} {effect : CardEffect}
    {found : CardInstance} {placement : Placement}
    (possible : Places state player found kind effect placement) (hand : found.zone = .hand)
    (activates : effect.kind = .activate)
    (places : before.applyChanges (placementChanges card placement) = .ok placed) :
    placed.log = before.log := by
  cases possible with
  | stay otherwise => exact absurd activates otherwise
  | flip _ _ spells => simp [hand] at spells
  | fromHand =>
    simp only [placementChanges, applyChanges_singleton, applyChange, mapError_eq_ok, Change.apply,
      bind_eq_ok, pure_eq_ok] at places
    obtain ⟨_, _, ⟨_, middle⟩, moved, rfl⟩ := places
    exact (log_relocate moved).1

/-- An activation from the hand is told first, and no event after it is an entry. -/
theorem activate_plays {index : Nat} {targets paid : List InstanceId} {found : CardInstance}
    {effect : CardEffect} (known : state.card? card = some found) (hand : found.zone = .hand)
    (listed : catalog.effect? found.card index = some effect) (activates : effect.kind = .activate)
    (activated : state.activate catalog player card index targets paid = .ok next) :
    Parting (state.record (.effectActivated card index player)) next ∧ next.canPass = true := by
  obtain ⟨plan, checked, _, placed, places, payed, pays, source, _, _, pushed, rfl⟩ :=
    activate_eq_ok.mp activated
  obtain ⟨_, rfl⟩ := pushLink_eq_ok.mp pushed
  obtain ⟨other, template, _, ⟨there, _⟩, printed, offered, _, _, placedFor⟩ :=
    checkActivation_eq_ok checked
  obtain rfl := Option.some.inj (known.symm.trans there)
  rw [Catalog.effect?, printed, Option.bind_some, offered] at listed
  obtain rfl := Option.some.inj listed
  have played : Parting (state.record (.effectActivated card index player)) placed :=
    .quiet (log_placed (placementFor_places placedFor) hand activates places)
  have chained : Parting payed ((payed.noteActivation card index).linked
      ((payed.noteActivation card index).linkOf source card index player plan.effect.speed
        targets)) := .record rfl rfl
  refine ⟨((played.trans (costChanges_parting pays)).trans chained).trans (.sweep _ catalog), ?_⟩
  rw [canPass_sweep, canPass_linked]

end GameState

namespace Duel

open GameState

/-- This tells that a request is the activation of a spell or trap that is in the hand. -/
def PlaysFromHand (duel : Duel) (request : Request) : Prop :=
  ∃ player card index targets paid found effect,
    request = .act player (.activateEffect card index targets paid) ∧
    duel.state.card? card = some found ∧ found.zone = .hand ∧
    duel.rules.catalog.effect? found.card index = some effect ∧ effect.kind = .activate

variable {duel after : Duel} {request : Request} {report : StepReport}

/-- A report tells what was added to the log. -/
theorem events_of_served (served : duel.serve request = .ok (report, after)) :
    report.events = after.state.log.drop duel.state.log.length := by
  cases request with
  | act player action =>
    obtain ⟨next, _, same⟩ := map_eq_ok.mp served
    obtain ⟨rfl, rfl⟩ := Prod.mk.inj same
    rfl
  | timeout player =>
    obtain ⟨next, _, same⟩ := map_eq_ok.mp served
    obtain ⟨rfl, rfl⟩ := Prod.mk.inj same
    rfl

/-- The report of a request tells what it added to the log. -/
theorem told_of_served (served : duel.serve request = .ok (report, after)) {told : List GameEvent}
    (log : after.state.log.map LoggedEvent.event = duel.state.log.map LoggedEvent.event ++ told) :
    report.events.map LoggedEvent.event = told := by
  rw [events_of_served served, List.map_drop, log, ← duel.state.log.length_map LoggedEvent.event,
    List.drop_left]

/-- A play from the hand is told as an activation, and no event after it is an entry. -/
theorem told_of_playsFromHand (plays : duel.PlaysFromHand request)
    (served : duel.serve request = .ok (report, after)) :
    ∃ card index player rest,
      report.events.map LoggedEvent.event = .effectActivated card index player :: rest ∧
      (∀ event ∈ rest, event.isEntry = false) ∧ duel.state.layout card = some .hand ∧
      (Reading.of duel.state duel.rules.catalog).plays card index = true := by
  obtain ⟨player, card, index, targets, paid, found, effect, rfl, known, hand, listed, activates⟩ :=
    plays
  obtain ⟨_, acted, dispatched, handed⟩ := step_eq_ok.mp (perform_eq_ok served).1
  obtain ⟨_, activated⟩ := ite_error_eq_ok.mp dispatched
  obtain ⟨played, passes⟩ := activate_plays known hand listed activates activated
  obtain ⟨rest, log, none⟩ := played.trans (handedBack_parting passes)
  rw [handed, GameState.record, List.map_append, List.append_assoc] at log
  refine ⟨card, index, player, rest, told_of_served served log, none, ?_, ?_⟩
  · rw [layout_eq known, hand]
  · simp [Reading.of, known, listed, activates]

/-- A reading that knows the cards leads from the zones before a request to those after it. -/
theorem replays_of_served {rules : Rules} {ways : Placement → Prop} {reading : Reading}
    (reads : Reads reading rules.catalog ways duel.state)
    (served : duel.serve request = .ok (report, after))
    (moves : Moves rules ways duel.state after.state) :
    reading.Replays duel.state.layout (report.events.map LoggedEvent.event) after.state.layout := by
  obtain ⟨events, strokes⟩ := moves.struck
  rw [told_of_served served strokes.events_log]
  exact (strokes.traces reads).replays

end Duel

namespace DuelSetup

open GameState

variable {setup : DuelSetup} {requests : List Request} {request : Request} {duel after : Duel}
  {report : StepReport}

/--
The events that are reported for a request lead from the zones before it to the zones after it, with every
move starting in the zone in which its card is, if the activation of a spell or trap in the hand is read as
its move onto the field. Read without that rule, they do so unless the request is such an activation.
-/
theorem Run.replays_zones (run : setup.Run requests duel)
    (served : duel.serve request = .ok (report, after)) :
    (Reading.of duel.state setup.rules.catalog).Replays duel.state.layout
        (report.events.map LoggedEvent.event) after.state.layout ∧
      ((Reading.of duel.state setup.rules.catalog).literal.Replays duel.state.layout
          (report.events.map LoggedEvent.event) after.state.layout ↔
        ¬duel.PlaysFromHand request) := by
  have full := Duel.replays_of_served (duel.state.reads_of setup.rules.catalog fun _ => True) served
    (run.serve_moves trivial (fun _ _ _ _ _ _ _ _ => trivial) served)
  refine ⟨full, ?_, ?_⟩
  · intro literal plays
    obtain ⟨card, index, player, rest, told, none, hand, known⟩ :=
      Duel.told_of_playsFromHand plays served
    rw [run.rules] at known
    rw [told] at full literal
    cases full with
    | cons _ others =>
      cases literal with
      | cons _ othersToo =>
        -- Only one of the readings moves the card, and nothing after that makes up for it.
        rw [Reading.read, if_pos ⟨known, hand⟩] at others
        rw [Reading.read, if_neg (by simp [Reading.literal])] at othersToo
        obtain ⟨spells, stillHand⟩ :=
          others.differ othersToo none (Function.update_self card _ _) hand
        simp [spells] at stillHand
  · intro otherwise
    refine Duel.replays_of_served (duel.state.reads_literal setup.rules.catalog) served
      (run.serve_moves (by simp) ?_ served)
    rintro player card index targets paid rfl plan checked fromHand
    obtain ⟨found, template, _, ⟨known, _⟩, printed, offered, _, _, placed⟩ :=
      checkActivation_eq_ok checked
    have possible := placementFor_places placed
    rw [fromHand] at possible
    cases possible with
    | fromHand activates _ hand _ =>
      have listed : duel.rules.catalog.effect? found.card index = some plan.effect := by
        rw [run.rules, Catalog.effect?, printed]
        exact offered
      exact otherwise ⟨player, card, index, targets, paid, found, plan.effect, rfl, known, hand,
        listed, activates⟩

/-- A candle that is activated goes from the hand onto the field, but no event tells of that. -/
theorem candles_move_untold :
    ∃ start report lit, candles.Run [] start ∧
      start.serve (.act .first (.activateEffect ⟨0⟩ 0 [] [])) = .ok (report, lit) ∧
      start.state.layout ⟨0⟩ = some .hand ∧ lit.state.layout ⟨0⟩ = some .spells ∧
      report.events.map LoggedEvent.event =
        [.effectActivated ⟨0⟩ 0 .first, .chainLinkAdded 1 ⟨0⟩ 1] ∧
      ¬(Reading.of start.state candles.rules.catalog).literal.Replays start.state.layout
        (report.events.map LoggedEvent.event) lit.state.layout := by
  have played : candles.build.toOption.any (fun start =>
      (start.serve (.act .first (.activateEffect ⟨0⟩ 0 [] []))).toOption.any fun (report, lit) =>
        decide ((start.state.card? ⟨0⟩).any (fun found =>
            found.zone = .hand && found.card = ⟨1⟩) = true ∧
          lit.state.layout ⟨0⟩ = some .spells ∧
          report.events.map LoggedEvent.event =
            [.effectActivated ⟨0⟩ 0 .first, .chainLinkAdded 1 ⟨0⟩ 1])) = true := by
    decide +kernel
  obtain ⟨start, built, goesOn⟩ := any_toOption_iff.mp played
  obtain ⟨⟨report, lit⟩, served, facts⟩ := any_toOption_iff.mp goesOn
  obtain ⟨held, spells, told⟩ := of_decide_eq_true facts
  obtain ⟨found, known, held⟩ := (Option.any_eq_true _ _).mp held
  simp only [Bool.and_eq_true, decide_eq_true_eq] at held
  obtain ⟨hand, printed⟩ := held
  have run : candles.Run [] start := .start built
  refine ⟨start, report, lit, run, served, ?_, spells, told, ?_⟩
  · rw [layout_eq known, hand]
  · intro literal
    refine (run.replays_zones served).2.mp literal ⟨.first, ⟨0⟩, 0, [], [], found,
      .plain .activate .one (.act (.gainLife 1) .controller), rfl, known, hand, ?_, rfl⟩
    rw [run.rules, printed]
    rfl

end DuelSetup

end CardDuel
