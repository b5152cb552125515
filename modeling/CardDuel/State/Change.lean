/-
This file defines the changes that effects and actions make to the table. A change happens as a
whole or not at all.
-/

import CardDuel.State.Basic

namespace CardDuel

/-- This is one change of the table. -/
inductive Change where
  | moveCard (card : InstanceId) (destination : Zone) (place : Place)
  | draw (player : Seat) (card : InstanceId)
  | shuffleDeck (player : Seat)
  | summon (card : InstanceId) (position : Position) (kind : SummonKind)
  | setMonster (card : InstanceId)
  | placeSpell (card : InstanceId) (faceUp : Bool)
  | changePosition (card : InstanceId) (position : Position)
  | damage (player : Seat) (amount : UInt32) (byBattle : Bool)
  | gainLife (player : Seat) (amount : UInt32)
  | payLife (player : Seat) (amount : UInt32)
  | grant (modifier : Modifier)
  | markDestroyed (card : InstanceId) (cause : Destruction)
  | negateLink (number : Nat)
  | negateAttack
deriving DecidableEq

namespace Change

def toGraveyard (card : InstanceId) : Change := moveCard card .graveyard .top

/-- This is a sum of life points, held below the largest value. -/
def addLife (life amount : UInt32) : UInt32 :=
  if life.toNat + amount.toNat < UInt32.size then life + amount else 0xFFFFFFFF

/-- This is a difference of life points, held above zero. -/
def subtractLife (life amount : UInt32) : UInt32 := if amount ≤ life then life - amount else 0

def setLife (state : GameState) (player : Seat) (life : UInt32) : GameState :=
  state.modifyPlayer player fun entry => { entry with life := life }

/-- This makes a change that needs a card on the field. -/
def onField (state : GameState) (card : InstanceId) (change : CardInstance → CardInstance) :
    Except Violation GameState := do
  let found ← state.requireCard card
  if found.isOnField then return state.modifyCard card change
  else throw (.notOnField card)

def markSet (state : GameState) (card : InstanceId) (owner : Seat) : GameState :=
  (state.modifyCard card fun entry => { entry with setThisTurn := true }).record
    (.cardSet card owner)

def apply (change : Change) (state : GameState) : Except Violation GameState :=
  match change with
  | moveCard card destination place => do
    let (origin, next) ← state.relocate card destination place (.inPile destination)
    return next.record (.cardMoved card origin destination)
  | draw player card => do
    if (state.zones player).topOfDeck? ≠ some card then throw (.notInZone card .deck)
    let (_, next) ← state.relocate card .hand .top .faceDown
    return next.record (.cardDrawn player card)
  | shuffleDeck player =>
    let (zones, shuffler) := (state.zones player).shuffleDeck state.shuffler
    .ok (({ state with shuffler := shuffler }.setZones player zones).record (.deckShuffled player))
  | summon card position kind => do
    let found ← state.requireCard card
    if !found.isMonster then throw (.notAMonster card)
    let (_, next) ← state.relocate card .monsters .top position
    return (next.modifyCard card fun entry => { entry with summonedThisTurn := true }).record
      (.summoned card found.owner kind)
  | setMonster card => do
    let found ← state.requireCard card
    let (_, next) ← state.relocate card .monsters .top .faceDownDefense
    return markSet next card found.owner
  | placeSpell card faceUp => do
    let found ← state.requireCard card
    let (_, next) ← state.relocate card .spells .top (if faceUp then .faceUp else .faceDown)
    return if faceUp then next else markSet next card found.owner
  | changePosition card position => do
    let next ← onField state card fun entry => { entry with position := position }
    return next.record (.positionChanged card position)
  | damage player amount byBattle =>
    let life := (state.player player).life
    let dealt := min amount life
    let next := setLife state player (life - dealt)
    .ok (if dealt > 0 then next.record (.damage player dealt byBattle) else next)
  | gainLife player amount =>
    .ok ((setLife state player (addLife (state.player player).life amount)).record
      (.lifeGained player amount))
  | payLife player amount =>
    .ok ((setLife state player (subtractLife (state.player player).life amount)).record
      (.lifePaid player amount))
  | grant modifier => .ok { state with granted := state.granted ++ [modifier] }
  | markDestroyed card cause =>
    onField state card fun entry =>
      { entry with destruction := some (entry.destruction.getD cause) }
  | negateLink number =>
    match state.chain.negate? number with
    | some chain => .ok { state with chain := chain }
    | none => .error .noPreviousLink
  | negateAttack =>
    match state.pendingAttack with
    | some attack =>
      .ok ({ state with pendingAttack := none }.record (.attackNegated attack.attacker))
    | none => .error .noAttack

/-- This makes changes one after the other and stops at the first that is not possible. -/
def applyUntil (state : GameState) : List Change → GameState × Option Violation
  | [] => (state, none)
  | change :: rest =>
    match change.apply state with
    | .ok next => applyUntil next rest
    | .error violation => (state, some violation)

/-- This makes all of several changes, or none. -/
def applyAll (changes : List Change) (state : GameState) : Except Violation GameState :=
  match applyUntil state changes with
  | (next, none) => .ok next
  | (_, some violation) => .error violation

/-- This makes each of several changes that is possible and skips the others. -/
def applyPossible (changes : List Change) (state : GameState) : GameState :=
  changes.foldl (fun current change =>
    match change.apply current with
    | .ok next => next
    | .error _ => current) state

end Change

end CardDuel
