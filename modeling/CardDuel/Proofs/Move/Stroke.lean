/-
This file takes moves apart into strokes, each with what it tells of: a lawful deed, a step of an
activation, a new turn, or something that touches neither zones nor life points. A stroke says nothing about
the chain; what the log tells of zones, life points and turns follows by cases of strokes.
-/

import CardDuel.Proofs.Move.Handling
import CardDuel.Proofs.Move.Play
import CardDuel.Proofs.Move.Tale

namespace CardDuel

/-- This tells whether an event is neither about zones nor about life points, turns or activations. -/
def GameEvent.isSilent : GameEvent → Bool
  | turnStarted .. | cardDrawn .. | cardSet .. | damage .. | lifeGained .. | lifePaid .. | cardMoved ..
  | effectActivated .. => false
  | summoned _ _ kind => kind = .flip
  | _ => true

/-- A remark is silent. -/
theorem GameEvent.isSilent_of_isRemark {event : GameEvent} (remark : event.isRemark = true) :
    event.isSilent = true := by
  cases event with
  | summoned => exact remark
  | turnStarted | cardDrawn | cardSet | damage | lifeGained | lifePaid | cardMoved
  | effectActivated => cases remark
  | _ => rfl

/-- No turn starts in silence. -/
theorem GameEvent.isTurnStart_of_isSilent {event : GameEvent} (silent : event.isSilent = true) :
    event.isTurnStart = false := by
  cases event with
  | turnStarted => cases silent
  | _ => rfl

/-- This is what is told when the effect of a link is activated. -/
def ChainLink.announcement (link : ChainLink) : GameEvent :=
  .effectActivated link.source link.effect link.controller

namespace GameState

structure SameTable (before after : GameState) : Prop where
  cards : after.cards = before.cards
  players : after.players = before.players
  turn : after.turn = before.turn
  log : after.log = before.log

/-- This is the smallest thing that happens in a duel, with what is told of it. -/
inductive Stroke (catalog : Catalog) (ways : Placement → Prop) :
    GameState → List GameEvent → GameState → Prop where
  | handle {before after : GameState} {events : List GameEvent}
      (handling : Handling before events after) : Stroke catalog ways before events after
  | announce {before : GameState} {link : ChainLink} {found : CardInstance}
      (known : before.card? link.source = some found) (printed : link.card = found.card)
      (otherwise : ∀ effect,
        catalog.effect? link.card link.effect = some effect → effect.kind ≠ .activate) :
      Stroke catalog ways before [link.announcement] (before.record link.announcement)
  | enter {before after : GameState} {link : ChainLink} {found : CardInstance} {origin : Zone}
      (allowed : ways .fromHand) (known : before.card? link.source = some found)
      (printed : link.card = found.card) (activates : catalog.Activates link)
      (hand : found.zone = .hand)
      (moved : (before.record link.announcement).relocate link.source .spells .top .faceUp =
        .ok (origin, after)) : Stroke catalog ways before [link.announcement] after
  | reveal {before : GameState} {link : ChainLink} {found : CardInstance}
      (known : before.card? link.source = some found) (printed : link.card = found.card)
      (activates : catalog.Activates link) (spells : found.zone = .spells) :
      Stroke catalog ways before [link.announcement, .positionChanged link.source .faceUp]
        (((before.record link.announcement).modifyCard link.source
          fun entry => { entry with position := .faceUp }).record
            (.positionChanged link.source .faceUp))
  | aside {before after : GameState} (aside : Aside before after) :
      Stroke catalog ways before [] after
  | tell (state : GameState) {event : GameEvent} (silent : event.isSilent = true) :
      Stroke catalog ways state [event] (state.record event)
  | newTurn (state : GameState) (seat : Seat) :
      Stroke catalog ways state [.turnStarted seat (state.turn + 1)] (state.passTurn seat)
  | rearrange {before after : GameState} (same : SameTable before after) :
      Stroke catalog ways before [] after

/-- A stroke adds to the log of its turn, or a new turn begins. -/
theorem Stroke.tells {catalog : Catalog} {ways : Placement → Prop} {before after : GameState}
    {events : List GameEvent} (stroke : Stroke catalog ways before events after) :
    Logs before events after ∨ ∃ seat, events = [.turnStarted seat (before.turn + 1)] ∧
      after = before.passTurn seat := by
  cases stroke with
  | handle handling => exact .inl handling.tells
  | announce known printed otherwise => exact .inl (.record rfl rfl rfl)
  | enter allowed known printed activates hand moved =>
    obtain ⟨log, turn⟩ := log_relocate moved
    exact .inl ⟨log, turn, by simp [ChainLink.announcement, GameEvent.isTurnStart]⟩
  | reveal known printed activates spells =>
    exact .inl ⟨rfl, rfl, by simp [ChainLink.announcement, GameEvent.isTurnStart]⟩
  | aside aside => exact .inl (.nothing aside.log aside.turn)
  | tell silent => exact .inl (.record rfl rfl (GameEvent.isTurnStart_of_isSilent silent))
  | newTurn seat => exact .inr ⟨seat, rfl, rfl⟩
  | rearrange same => exact .inl (.nothing same.log same.turn)

/-- These are strokes one after the other, with all that is told of them. -/
inductive Strokes (catalog : Catalog) (ways : Placement → Prop) :
    GameState → List GameEvent → GameState → Prop where
  | refl (state : GameState) : Strokes catalog ways state [] state
  | tail {before middle after : GameState} {events more : List GameEvent}
      (earlier : Strokes catalog ways before events middle)
      (stroke : Stroke catalog ways middle more after) :
      Strokes catalog ways before (events ++ more) after

/-- This tells that one state follows from another by strokes. -/
def Struck (catalog : Catalog) (ways : Placement → Prop) (before after : GameState) : Prop :=
  ∃ events, Strokes catalog ways before events after

variable {catalog : Catalog} {ways : Placement → Prop} {before middle after : GameState}
  {events more : List GameEvent}

namespace Strokes

theorem of_stroke (stroke : Stroke catalog ways before events after) :
    Strokes catalog ways before events after := .tail (.refl before) stroke

theorem trans (first : Strokes catalog ways before events middle)
    (second : Strokes catalog ways middle more after) :
    Strokes catalog ways before (events ++ more) after := by
  induction second with
  | refl => rwa [List.append_nil]
  | tail _ stroke ih =>
    rw [← List.append_assoc]
    exact .tail ih stroke

/-- The events of the log are those before and those that strokes tell of. -/
theorem events_log (strokes : Strokes catalog ways before events after) :
    after.log.map LoggedEvent.event = before.log.map LoggedEvent.event ++ events := by
  induction strokes with
  | refl => simp
  | tail _ stroke ih =>
    rw [← List.append_assoc, ← ih]
    rcases stroke.tells with tells | ⟨seat, rfl, rfl⟩
    · exact tells.events_log
    · simp [passTurn, record]

/-- What every stroke keeps is kept by strokes one after the other. -/
theorem keeps {kept : GameState → Prop} (strokes : Strokes catalog ways before events after)
    (each : ∀ {before events after}, Stroke catalog ways before events after →
      kept before → kept after) (start : kept before) : kept after := by
  induction strokes with
  | refl => exact start
  | tail _ stroke ih => exact each stroke ih

end Strokes

namespace Struck

theorem refl (state : GameState) : Struck catalog ways state state := ⟨[], .refl state⟩

theorem trans (first : Struck catalog ways before middle) (second : Struck catalog ways middle after) :
    Struck catalog ways before after :=
  ⟨_, first.choose_spec.trans second.choose_spec⟩

theorem of_stroke (stroke : Stroke catalog ways before events after) :
    Struck catalog ways before after := ⟨events, .of_stroke stroke⟩

/-- What is told by two runs of strokes is told by the run of both. -/
theorem rearrange (cards : after.cards = before.cards) (players : after.players = before.players)
    (turn : after.turn = before.turn) (log : after.log = before.log) :
    Struck catalog ways before after := of_stroke (.rearrange ⟨cards, players, turn, log⟩)

theorem tell (state : GameState) {event : GameEvent} (silent : event.isSilent = true) :
    Struck catalog ways state (state.record event) := of_stroke (.tell state silent)

/-- Deeds that the catalog may make are made of strokes. -/
theorem of_deeds (deeds : Deeds catalog.MayMake before after) :
    Struck catalog ways before after := by
  induction deeds with
  | refl => exact .refl before
  | tail _ deed ih =>
    obtain ⟨events, handling⟩ := deed.handling
    exact ih.trans (of_stroke (.handle handling))

end Struck

/-- An activation is announced, and a spell or trap is played or revealed with it. -/
theorem Placing.struck {link : ChainLink} {way : Placement} {found : CardInstance}
    (known : before.card? link.source = some found) (printed : link.card = found.card)
    (placing : Placing catalog link way (before.record link.announcement) after)
    (allowed : ways way) : Struck catalog ways before after := by
  cases placing with
  | stay _ otherwise => exact .of_stroke (.announce known printed otherwise)
  | enter activates knownToo hand made =>
    obtain rfl := Option.some.inj (known.symm.trans knownToo)
    simp only [Change.apply, bind_eq_ok, pure_eq_ok] at made
    obtain ⟨_, _, ⟨origin, next⟩, moved, rfl⟩ := made
    exact .of_stroke (.enter allowed known printed activates hand moved)
  | turn activates knownToo spells made =>
    obtain rfl := Option.some.inj (known.symm.trans knownToo)
    simp only [Change.apply, bind_eq_ok, pure_eq_ok, onField_eq_ok] at made
    obtain ⟨_, ⟨_, _, _, rfl⟩, rfl⟩ := made
    exact .of_stroke (.reveal known printed activates spells)

/-- A spent card is spent by strokes. -/
theorem spent_struck (state : GameState) (catalog : Catalog) (link : ChainLink) :
    Struck catalog ways state (state.spent catalog link) := by
  have carried : Struck catalog ways state (state.carryOut catalog link).1 := by
    rcases carryOut_cases state catalog link with deeds | ⟨_, _, _, _, same⟩
    · exact .of_deeds deeds
    · rw [same]
      exact .tell state rfl
  exact (carried.trans (.tell _ rfl)).trans (.of_deeds (spent_deeds state catalog link))

variable {rules : Rules}

/-- Every act is made of strokes. -/
theorem Act.struck (act : Act rules ways before after) : Struck rules.catalog ways before after := by
  cases act with
  | deed deed => exact .of_deeds (.of_deed deed)
  | aside aside => exact .of_stroke (.aside aside)
  | note remark => exact .tell before (GameEvent.isSilent_of_isRemark remark)
  | enter free phase =>
    have entered : Struck rules.catalog ways before { before with phase := phase } :=
      .rearrange rfl rfl rfl rfl
    exact entered.trans (.tell _ rfl)
  | newTurn free seat => exact .of_stroke (.newTurn before seat)
  | @attack card attacker target aim peaceful there aimed =>
    have declared : Struck rules.catalog ways before
        { before with pendingAttack := some (.declare attacker target) } := .rearrange rfl rfl rfl rfl
    exact declared.trans (.tell _ rfl)
  | conclude waits deeds ends =>
    have freed : Struck rules.catalog ways before { before with pendingAttack := none } :=
      .rearrange rfl rfl rfl rfl
    refine (freed.trans (.of_deeds deeds)).trans (.tell _ ?_)
    rcases ends with rfl | rfl
    · rfl
    · rfl
  | finish running result =>
    have ended : Struck rules.catalog ways before { before with outcome := some result } :=
      .rearrange rfl rfl rfl rfl
    exact ended.trans (.tell _ rfl)
  | @use early placed late link way may first placing second held allowed =>
    obtain ⟨found, effect, known, printed, _⟩ := may.allowed
    obtain ⟨same, there, stays⟩ := first.shifts.printed known
    have begun : Struck rules.catalog ways before late :=
      ((Struck.of_deeds first).trans
        (placing.struck there (printed.trans stays.symm) allowed)).trans (.of_deeds second)
    have counted : Struck rules.catalog ways late { late with
        activations := late.activations.record link.source link.effect
        chain := (late.used link).chain } := .rearrange rfl rfl rfl rfl
    exact (begun.trans counted).trans (.tell _ rfl)
  | answer same => exact .rearrange rfl rfl rfl rfl
  | @resolve link chain running popped =>
    have taken : Struck rules.catalog ways before { before with chain := chain } :=
      .rearrange rfl rfl rfl rfl
    exact taken.trans (spent_struck _ rules.catalog link)
  | clear drained priority => exact .rearrange rfl rfl rfl rfl

/-- Every move is made of strokes. -/
theorem Move.struck (move : Move rules ways before after) :
    Struck rules.catalog ways before after := by
  cases move with
  | act act => exact act.struck
  | offer events window => exact .rearrange rfl rfl rfl rfl
  | drop ended => exact .rearrange rfl rfl rfl rfl

/-- Moves are made of strokes. -/
theorem Moves.struck (moves : Moves rules ways before after) :
    Struck rules.catalog ways before after := by
  induction moves with
  | refl => exact .refl before
  | tail _ move ih => exact ih.trans move.struck

end GameState

end CardDuel
