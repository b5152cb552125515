/-
This file says once what can happen in a duel. Acts are lawful deeds on the table, uses of effects,
resolutions of links, turns and attacks; moves are acts, or change what waits for an answer. Properties of
whole runs follow by cases of them.
-/

import CardDuel.Proofs.Flow.Frame
import CardDuel.Proofs.Table.Anchor

namespace CardDuel

namespace GameEvent

/-- This tells whether an event is about the use of an effect or about its link. -/
def isOfEffect : GameEvent → Bool
  | effectActivated .. | chainLinkAdded .. | chainLinkResolved .. | effectAborted .. => true
  | _ => false

/-- This tells whether an event is told by itself, apart from the table, from effects and from attacks. -/
def isRemark : GameEvent → Bool
  | summoned _ _ kind => kind = .flip
  | chainResolved _ | priorityPassed _ | windowOpened _ | windowClosed | handLimitDiscard .. => true
  | _ => false

variable {event : GameEvent}

/-- What is told of the table is not about an effect. -/
theorem isOfEffect_of_isTabled (table : event.isTabled = true) : event.isOfEffect = false := by
  cases event <;> simp [isTabled, isOfEffect] at table ⊢

/-- A remark is not about an effect. -/
theorem isOfEffect_of_isRemark (remark : event.isRemark = true) : event.isOfEffect = false := by
  cases event <;> simp [isRemark, isOfEffect] at remark ⊢

/-- A remark is not about an attack. -/
theorem isOfAttack_of_isRemark (remark : event.isRemark = true) : event.isOfAttack = false := by
  cases event <;> simp [isRemark, isOfAttack] at remark ⊢

end GameEvent

/-- This tells that a modifier lasts as long as some effect of the catalog asks for. -/
def Catalog.MayGrant (catalog : Catalog) (modifier : Modifier) : Prop :=
  modifier.duration = .untilLeavesField ∨
    ∃ card index effect, catalog.effect? card index = some effect ∧
      ∃ instruction ∈ effect.root.instructions,
        instruction.duration? = some modifier.duration

/-- This tells that only the marks of an attack and of a change of position are new on a card. -/
structure CardInstance.Noted (before after : CardInstance) : Prop where
  same : after = { before with
    hasAttacked := after.hasAttacked, positionChanged := after.positionChanged }
  offField : before.isOnField = false → after = before

theorem CardInstance.Noted.refl (card : CardInstance) : card.Noted card := ⟨rfl, fun _ => rfl⟩

/--
This tells that the rules allow a change in a state: only monsters of the field are turned, only monsters
are set among monsters and only other cards among spells, and nobody pays more life than is there.
-/
def Change.Lawful (state : GameState) : Change → Prop
  | .setMonster card => ∀ found, state.card? card = some found → found.isMonster = true
  | .placeSpell card faceUp =>
    faceUp = false ∧ ∀ found, state.card? card = some found → found.isMonster = false
  | .changePosition card position => position.isUpright = true ∧
    ∀ found, state.card? card = some found → found.zone = .monsters
  | .payLife player amount => amount ≤ (state.player player).life
  | change => change.isPlain = true

/-- A plain change is lawful in every state. -/
theorem Change.Lawful.of_plain {state : GameState} {change : Change} (plain : change.isPlain = true) :
    change.Lawful state := by
  cases change <;> simp_all [Lawful, isPlain]

/-- This tells that a change is lawful and grants only what some effect of the catalog asks for. -/
structure Catalog.MayMake (catalog : Catalog) (state : GameState) (change : Change) : Prop where
  lawful : change.Lawful state
  granted : ∀ modifier ∈ change.modifier?, catalog.MayGrant modifier

namespace Catalog.MayMake

variable {catalog : Catalog} {state : GameState} {change : Change} {modifier : Modifier}

/-- A lawful change that gives no modifier may be made. -/
theorem free (lawful : change.Lawful state) (free : change.modifier? = none) :
    catalog.MayMake state change := ⟨lawful, by simp [free]⟩

/-- A plain change that gives no modifier may be made in every state. -/
theorem plain (state : GameState) (change : Change) (plain : change.isPlain = true)
    (free : change.modifier? = none) : catalog.MayMake state change := .free (.of_plain plain) free

/-- A modifier may be granted when a change that gives it may be made. -/
theorem grants (grants : GameState.Grants catalog.MayMake modifier) : catalog.MayGrant modifier :=
  grants.choose_spec.granted modifier rfl

end Catalog.MayMake

/-- This tells that a link is the activation of a spell or trap. -/
structure Catalog.Activates (catalog : Catalog) (link : ChainLink) : Prop where
  kind : ∃ effect, catalog.effect? link.card link.effect = some effect ∧ effect.kind = .activate
  spell : ∀ template, catalog.get? link.card = some template → template.kind.isMonster = false

namespace GameState

/-- This is a state after a use was counted and its link was put on the chain. -/
def used (state : GameState) (link : ChainLink) : GameState :=
  ({ state with activations := state.activations.record link.source link.effect }).linked link

/-- This is a state after the effect of a link was carried out and told of. -/
def carried (state : GameState) (catalog : Catalog) (link : ChainLink) : GameState :=
  (state.carryOut catalog link).1.record
    (.chainLinkResolved link.number link.source (state.carryOut catalog link).2)

/-- This is a state after a resolved spell or trap that does not stay was sent to the graveyard. -/
def spent (state : GameState) (catalog : Catalog) (link : ChainLink) : GameState :=
  (state.carried catalog link).finishActivation catalog link

/-- This tells that nothing changes but marks, durations and how often was passed. -/
structure Aside (before after : GameState) : Prop where
  still : Still before after
  noted : ∀ (place : Nat) (new : CardInstance), after.cards[place]? = some new →
    ∃ old, before.cards[place]? = some old ∧ CardInstance.Noted old new
  lives : ∀ seat, (after.player seat).life = (before.player seat).life
  turn : after.turn = before.turn
  phase : after.phase = before.phase
  turnPlayer : after.turnPlayer = before.turnPlayer
  chain : after.chain = before.chain
  attack : after.pendingAttack = before.pendingAttack
  events : after.pendingEvents = before.pendingEvents
  activations : after.activations = before.activations
  log : after.log = before.log
  outcome : after.outcome = before.outcome
  window : ResponseWindow.Kept before.window after.window
  granted : ∀ modifier ∈ after.granted, modifier ∈ before.granted

namespace Aside

variable {state : GameState}

/-- New marks on cards of the field and on players are aside. -/
theorem marks {cards : List CardInstance} {players : PerSeat PlayerState}
    (still : Still state { state with cards := cards, players := players })
    (noted : ∀ (place : Nat) (new : CardInstance), cards[place]? = some new →
      ∃ old, state.cards[place]? = some old ∧ CardInstance.Noted old new)
    (lives : ∀ seat, (players.get seat).life = (state.player seat).life) :
    Aside state { state with cards := cards, players := players } :=
  ⟨still, noted, lives, rfl, rfl, rfl, rfl, rfl, rfl, rfl, rfl, rfl, .refl _, fun _ member => member⟩

/-- The marks of a player are aside. -/
theorem modifyPlayer (state : GameState) (seat : Seat) {update : PlayerState → PlayerState}
    (zones : ∀ player, (update player).zones = player.zones)
    (life : ∀ player, (update player).life = player.life) :
    Aside state (state.modifyPlayer seat update) := by
  refine .marks (.modifyPlayer state seat zones) (fun place new there => ⟨new, there, .refl new⟩) ?_
  intro other
  refine (congrArg PlayerState.life (state.player_modifyPlayer seat other update)).trans ?_
  split
  · exact life _
  · rfl

/-- The marks of a card on the field are aside. -/
theorem modifyCard (state : GameState) {card : InstanceId} {change : CardInstance → CardInstance}
    (standing : ∀ found, state.card? card = some found → found.isOnField = true)
    (noted : ∀ found, change found = { found with
      hasAttacked := (change found).hasAttacked
      positionChanged := (change found).positionChanged }) :
    Aside state (state.modifyCard card change) := by
  refine .marks (.modifyCard state card change ?_) ?_ fun _ => rfl
  · intro found
    rw [noted found]
    rfl
  · intro place new there
    rw [List.getElem?_modify] at there
    obtain ⟨old, early, same⟩ := Option.map_eq_some_iff.mp there
    refine ⟨old, early, ?_⟩
    by_cases here : card.index = place
    · subst here
      rw [if_pos rfl] at same
      refine ⟨same ▸ noted old, ?_⟩
      intro away
      simp [standing old early] at away
    · rw [if_neg here] at same
      exact same ▸ .refl old

theorem setWindow {window : Option ResponseWindow} (kept : ResponseWindow.Kept state.window window) :
    Aside state { state with window := window } :=
  ⟨⟨rfl, fun _ => rfl⟩, fun _ new there => ⟨new, there, .refl new⟩, fun _ => rfl, rfl, rfl, rfl, rfl,
    rfl, rfl, rfl, rfl, rfl, kept, fun _ member => member⟩

theorem setVersion (version : UInt64) : Aside state { state with version := version } :=
  ⟨⟨rfl, fun _ => rfl⟩, fun _ new there => ⟨new, there, .refl new⟩, fun _ => rfl, rfl, rfl, rfl, rfl,
    rfl, rfl, rfl, rfl, rfl, .refl _, fun _ member => member⟩

/-- The end of a duration touches only marks, durations and passes. -/
theorem expire (duration : Duration) : Aside state (state.expire duration) :=
  ⟨⟨rfl, fun _ => rfl⟩, fun _ new there => ⟨new, there, .refl new⟩, fun _ => rfl, rfl, rfl, rfl, rfl,
    rfl, rfl, rfl, rfl, rfl, .refl _, fun _ member => (List.mem_filter.mp member).1⟩

end Aside

structure Free (state : GameState) : Prop where
  unlinked : state.chain.links = []
  peaceful : state.pendingAttack = none

/-- A state that is free stays so as long as the duel is where it was. -/
theorem Free.course {before after : GameState} (free : before.Free) (course : Course before after) :
    after.Free :=
  ⟨course.links_eq_nil_iff.mpr free.unlinked, course.attack_eq_none free.peaceful⟩

/-- This tells that it is a main phase of a player's own turn in which nothing waits. -/
structure Leisure (state : GameState) (player : Seat) : Prop extends Free state where
  closed : state.window = none
  own : player = state.turnPlayer
  main : state.phase.isMain = true

/-- This tells that the effect of a link may be used now, on targets that exist. -/
structure MayUse (state : GameState) (catalog : Catalog) (link : ChainLink) : Prop where
  allowed : ∃ found effect, state.card? link.source = some found ∧ link.card = found.card ∧
    catalog.effect? link.card link.effect = some effect ∧
    state.activations.check link.source link.effect effect.limit = .ok () ∧
    (link.targets = [] ∧ effect.kind = .trigger ∨ link.targets.length = effect.targetCount)
  timely : ∀ effect, catalog.effect? link.card link.effect = some effect →
    link.speed = effect.speed ∧
      (effect.kind = .trigger ∨ effect.speed ≠ .one ∨ state.Leisure link.controller)
  aimed : ∀ target ∈ link.targets, state.Knows target.card

/--
This is what becomes of the card of a link when its effect is used. A spell or trap that is activated comes
face-up from the hand, or is turned face-up on the field; any other card stays as it is.
-/
inductive Placing (catalog : Catalog) (link : ChainLink) :
    Placement → GameState → GameState → Prop where
  | stay (state : GameState) (otherwise : ∀ effect,
      catalog.effect? link.card link.effect = some effect → effect.kind ≠ .activate) :
      Placing catalog link .stay state state
  | enter {before after : GameState} {found : CardInstance} (activates : catalog.Activates link)
      (known : before.card? link.source = some found) (hand : found.zone = .hand)
      (made : (Change.placeSpell link.source true).apply before = .ok after) :
      Placing catalog link .fromHand before after
  | turn {before after : GameState} {found : CardInstance} (activates : catalog.Activates link)
      (known : before.card? link.source = some found) (spells : found.zone = .spells)
      (made : (Change.changePosition link.source .faceUp).apply before = .ok after) :
      Placing catalog link .flip before after

/-- This is one thing that happens in a duel while no window opens, with some ways to place cards. -/
inductive Act (rules : Rules) (ways : Placement → Prop) : GameState → GameState → Prop where
  | deed {before after : GameState} (deed : Deed rules.catalog.MayMake before after) :
      Act rules ways before after
  | aside {before after : GameState} (aside : Aside before after) : Act rules ways before after
  | note (state : GameState) {event : GameEvent} (remark : event.isRemark = true) :
      Act rules ways state (state.record event)
  | enter (state : GameState) (free : state.Free) (phase : Phase) :
      Act rules ways state (state.enterPhase phase)
  | newTurn (state : GameState) (free : state.Free) (seat : Seat) :
      Act rules ways state (state.passTurn seat)
  | attack (state : GameState) {card : InstanceId} {attacker : CardInstance}
      {target : Option CardInstance} (aim : Option InstanceId) (peaceful : state.pendingAttack = none)
      (there : state.card? card = some attacker) (aimed : ∀ card ∈ target, card ∈ state.cards) :
      Act rules ways state ({ state with pendingAttack := some (.declare attacker target) }.record
        (.attackDeclared card aim))
  | conclude {before late : GameState} {attack : PendingAttack} {event : GameEvent}
      (waits : before.pendingAttack = some attack)
      (deeds : Deeds rules.catalog.MayMake { before with pendingAttack := none } late)
      (ends : event = .attackCancelled attack.attacker ∨
        event = .battleResolved attack.attacker attack.target) :
      Act rules ways before (late.record event)
  | finish {state : GameState} (running : state.outcome = none) (result : GameResult) :
      Act rules ways state ({ state with outcome := some result }.record (.gameEnded result))
  | use {before early placed late : GameState} {link : ChainLink} {way : Placement}
      (may : before.MayUse rules.catalog link)
      (first : Deeds rules.catalog.MayMake before early)
      (placing : Placing rules.catalog link way
        (early.record (.effectActivated link.source link.effect link.controller)) placed)
      (second : Deeds rules.catalog.MayMake placed late)
      (held : ∀ found, late.card? link.source = some found → link.sourceMoves = found.moves)
      (allowed : ways way) : Act rules ways before (late.used link)
  | answer (state : GameState) {chain : Chain} (same : chain.links = state.chain.links) :
      Act rules ways state { state with chain := chain }
  | resolve {state : GameState} {link : ChainLink} {chain : Chain}
      (running : state.outcome = none) (popped : state.chain.pop? = some (link, chain)) :
      Act rules ways state ({ state with chain := chain }.spent rules.catalog link)
  | clear {state : GameState} (drained : state.outcome = none → state.chain.links = [])
      (priority : Seat) : Act rules ways state { state with chain := .idle priority }

def Acts (rules : Rules) (ways : Placement → Prop) : GameState → GameState → Prop :=
  Relation.ReflTransGen (Act rules ways)

/-- This is one thing that happens in a duel: an act, or a change of what waits for an answer. -/
inductive Move (rules : Rules) (ways : Placement → Prop) : GameState → GameState → Prop where
  | act {before after : GameState} (act : Act rules ways before after) : Move rules ways before after
  | offer (state : GameState) (events : List GameEvent) (window : Option ResponseWindow) :
      Move rules ways state { state with pendingEvents := events, window := window }
  | drop {state : GameState} (ended : state.outcome.isSome = true) :
      Move rules ways state state.clearWaiting

def Moves (rules : Rules) (ways : Placement → Prop) : GameState → GameState → Prop :=
  Relation.ReflTransGen (Move rules ways)

variable {rules : Rules} {ways : Placement → Prop} {before middle after state : GameState}

namespace Acts

theorem refl (state : GameState) : Acts rules ways state state := Relation.ReflTransGen.refl

theorem trans (first : Acts rules ways before middle) (second : Acts rules ways middle after) :
    Acts rules ways before after := Relation.ReflTransGen.trans first second

/-- One act is a run of acts. -/
theorem of_act (act : Act rules ways before after) : Acts rules ways before after :=
  Relation.ReflTransGen.single act

theorem of_aside (aside : Aside before after) : Acts rules ways before after := of_act (.aside aside)

/-- Deeds that the catalog may make are one act. -/
theorem of_deeds (deeds : Deeds rules.catalog.MayMake before after) : Acts rules ways before after := by
  induction deeds with
  | refl => exact refl before
  | tail _ deed ih => exact ih.trans (of_act (.deed deed))

/-- A remark can be made at any time. -/
theorem note (state : GameState) {event : GameEvent} (remark : event.isRemark = true) :
    Acts rules ways state (state.record event) := of_act (.note state remark)

/-- A fold of steps that are acts is made of acts. -/
theorem foldl {α : Type} {step : GameState → α → GameState}
    (each : ∀ state item, Acts rules ways state (step state item)) (items : List α)
    (state : GameState) : Acts rules ways state (items.foldl step state) := by
  refine List.foldlRecOn (motive := Acts rules ways state) items step (refl state) ?_
  intro before acts item _
  exact acts.trans (each before item)

end Acts

namespace Moves

theorem refl (state : GameState) : Moves rules ways state state := Relation.ReflTransGen.refl

theorem trans (first : Moves rules ways before middle) (second : Moves rules ways middle after) :
    Moves rules ways before after := Relation.ReflTransGen.trans first second

/-- One move is a run of moves. -/
theorem of_move (move : Move rules ways before after) : Moves rules ways before after :=
  Relation.ReflTransGen.single move

/-- Acts are moves that open no window. -/
theorem of_acts (acts : Acts rules ways before after) : Moves rules ways before after := by
  induction acts with
  | refl => exact refl before
  | tail _ act ih => exact ih.trans (of_move (.act act))

/-- What every move keeps is kept by moves one after the other. -/
theorem keeps {kept : GameState → Prop} (moves : Moves rules ways before after)
    (each : ∀ {before after}, Move rules ways before after → kept before → kept after)
    (start : kept before) : kept after := by
  induction moves with
  | refl => exact start
  | tail _ move ih => exact each move ih

end Moves

/-! The cards -/

/-- Deeds only shift cards. -/
theorem Deeds.shifts {may : GameState → Change → Prop} (deeds : Deeds may before after) :
    Shifts before after := deeds.edits.shifts

/-- Deeds leave the duel where it is. -/
theorem Deeds.frame {may : GameState → Change → Prop} (deeds : Deeds may before after) :
    Frame before after := deeds.edits.frame

/-- A card is placed by deeds that grant nothing. -/
theorem Placing.deeds {catalog : Catalog} {link : ChainLink} {way : Placement}
    (placing : Placing catalog link way before after) :
    Deeds (fun _ change => change.modifier? = none) before after := by
  cases placing with
  | stay otherwise => exact .refl before
  | enter activates known hand made => exact .change rfl made
  | turn activates known spells made => exact .change rfl made

/-- A spent card is at most edited. -/
theorem spent_edits (state : GameState) (catalog : Catalog) (link : ChainLink) :
    Edits state (state.spent catalog link) :=
  ((state.carryOut_edits catalog link).trans (.note _ _)).trans (finishActivation_edits _ catalog link)

/-- Whatever is done is made of steps of the cards. -/
theorem Act.shifts (act : Act rules ways before after) : Shifts before after := by
  cases act with
  | deed deed => exact (Deeds.of_deed deed).shifts
  | aside aside => exact .of_still aside.still
  | note remark => exact .of_still (.record before _)
  | enter free phase => exact .of_still (.enterPhase before phase)
  | newTurn free seat => exact .of_still (.passTurn before seat)
  | attack aim peaceful there aimed => exact .of_still ⟨rfl, fun _ => rfl⟩
  | conclude waits deeds ends =>
    have freed : Still before { before with pendingAttack := none } := ⟨rfl, fun _ => rfl⟩
    exact ((Shifts.of_still freed).trans deeds.shifts).then_still (.record _ _)
  | finish running result => exact .of_still ⟨rfl, fun _ => rfl⟩
  | use may first placing second =>
    exact (((first.shifts.then_still (.record _ _)).trans placing.deeds.shifts).trans
      second.shifts).then_still ⟨rfl, fun _ => rfl⟩
  | answer same => exact .of_still ⟨rfl, fun _ => rfl⟩
  | @resolve link chain running popped =>
    have freed : Still before { before with chain := chain } := ⟨rfl, fun _ => rfl⟩
    exact (Shifts.of_still freed).trans (spent_edits _ rules.catalog link).shifts
  | clear drained priority => exact .of_still ⟨rfl, fun _ => rfl⟩

/-- A move only shifts cards. -/
theorem Move.shifts (move : Move rules ways before after) : Shifts before after := by
  cases move with
  | act act => exact act.shifts
  | offer events window => exact .of_still ⟨rfl, fun _ => rfl⟩
  | drop ended => exact .of_still ⟨rfl, fun _ => rfl⟩

/-- Moves only shift cards. -/
theorem Moves.shifts (moves : Moves rules ways before after) : Shifts before after := by
  induction moves with
  | refl => exact .refl before
  | tail _ move ih => exact ih.trans move.shifts

end GameState

end CardDuel
