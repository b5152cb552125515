/-
This file relates events, changes and modifiers to JSON.
-/

import CardDuel.State.Change
import CardDuel.Wire.Card

namespace CardDuel

instance : Tagged SummonKind where
  tags := [("Normal", .normal), ("Tribute", .tribute), ("Special", .special), ("Flip", .flip)]

instance : Tagged EffectOutcome where
  tags := [("Applied", .applied), ("Negated", .negated), ("Aborted", .aborted)]

instance : ToJson GameResult where
  toJson
    | .winner player => .tagged "Winner" (toJson player)
    | .draw => .string "Draw"

instance : FromJson GameResult where
  fromJson? value := do
    match ← value.alternative? with
    | ("Winner", some content) => (fromJson? content).map GameResult.winner
    | ("Draw", none) | ("Draw", some .null) => some .draw
    | _ => none

namespace GameEvent

def json : GameEvent → Json
  | turnStarted player turn =>
    .variant "TurnStarted" [("player", toJson player), ("turn", toJson turn)]
  | phaseChanged phase => .variant "PhaseChanged" [("phase", toJson phase)]
  | cardDrawn player card =>
    .variant "CardDrawn" [("player", toJson player), ("card", toJson card)]
  | summoned card player kind =>
    .variant "Summoned" [("card", toJson card), ("player", toJson player), ("kind", toJson kind)]
  | cardSet card player => .variant "CardSet" [("card", toJson card), ("player", toJson player)]
  | positionChanged card position =>
    .variant "PositionChanged" [("card", toJson card), ("position", toJson position)]
  | attackDeclared attacker target =>
    .variant "AttackDeclared" [("attacker", toJson attacker), ("target", toJson target)]
  | attackNegated attacker => .variant "AttackNegated" [("attacker", toJson attacker)]
  | attackCancelled attacker => .variant "AttackCancelled" [("attacker", toJson attacker)]
  | battleResolved attacker target =>
    .variant "BattleResolved" [("attacker", toJson attacker), ("target", toJson target)]
  | damage player amount byBattle =>
    .variant "Damage"
      [("player", toJson player), ("amount", toJson amount), ("by_battle", toJson byBattle)]
  | lifeGained player amount =>
    .variant "LifeGained" [("player", toJson player), ("amount", toJson amount)]
  | lifePaid player amount =>
    .variant "LifePaid" [("player", toJson player), ("amount", toJson amount)]
  | cardMoved card origin destination =>
    .variant "CardMoved"
      [("card", toJson card), ("from", toJson origin), ("to", toJson destination)]
  | destroyed card byBattle =>
    .variant "Destroyed" [("card", toJson card), ("by_battle", toJson byBattle)]
  | deckShuffled player => .variant "DeckShuffled" [("player", toJson player)]
  | effectActivated card effect player =>
    .variant "EffectActivated"
      [("card", toJson card), ("effect", toJson effect), ("player", toJson player)]
  | chainLinkAdded number card speed =>
    .variant "ChainLinkAdded"
      [("number", toJson number), ("card", toJson card), ("speed", toJson speed)]
  | chainLinkResolved number card outcome =>
    .variant "ChainLinkResolved"
      [("number", toJson number), ("card", toJson card), ("outcome", toJson outcome)]
  | effectAborted number card reason =>
    .variant "EffectAborted"
      [("number", toJson number), ("card", toJson card), ("reason", toJson reason)]
  | chainResolved length => .variant "ChainResolved" [("length", toJson length)]
  | priorityPassed player => .variant "PriorityPassed" [("player", toJson player)]
  | windowOpened holder => .variant "WindowOpened" [("holder", toJson holder)]
  | windowClosed => .string "WindowClosed"
  | handLimitDiscard player card =>
    .variant "HandLimitDiscard" [("player", toJson player), ("card", toJson card)]
  | gameEnded result => .variant "GameEnded" [("result", toJson result)]

def ofTag? (tag : String) : Option GameEvent :=
  if tag = "WindowClosed" then some windowClosed else none

def ofFields? (tag : String) (fields : List (String × Json)) : Option GameEvent := do
  match tag with
  | "TurnStarted" => return turnStarted (← Json.get? fields "player") (← Json.get? fields "turn")
  | "PhaseChanged" => return phaseChanged (← Json.get? fields "phase")
  | "CardDrawn" => return cardDrawn (← Json.get? fields "player") (← Json.get? fields "card")
  | "Summoned" =>
    return summoned (← Json.get? fields "card") (← Json.get? fields "player")
      (← Json.get? fields "kind")
  | "CardSet" => return cardSet (← Json.get? fields "card") (← Json.get? fields "player")
  | "PositionChanged" =>
    return positionChanged (← Json.get? fields "card") (← Json.get? fields "position")
  | "AttackDeclared" =>
    return attackDeclared (← Json.get? fields "attacker") (← Json.get? fields "target")
  | "AttackNegated" => return attackNegated (← Json.get? fields "attacker")
  | "AttackCancelled" => return attackCancelled (← Json.get? fields "attacker")
  | "BattleResolved" =>
    return battleResolved (← Json.get? fields "attacker") (← Json.get? fields "target")
  | "Damage" =>
    return damage (← Json.get? fields "player") (← Json.get? fields "amount")
      (← Json.get? fields "by_battle")
  | "LifeGained" => return lifeGained (← Json.get? fields "player") (← Json.get? fields "amount")
  | "LifePaid" => return lifePaid (← Json.get? fields "player") (← Json.get? fields "amount")
  | "CardMoved" =>
    return cardMoved (← Json.get? fields "card") (← Json.get? fields "from")
      (← Json.get? fields "to")
  | "Destroyed" => return destroyed (← Json.get? fields "card") (← Json.get? fields "by_battle")
  | "DeckShuffled" => return deckShuffled (← Json.get? fields "player")
  | "EffectActivated" =>
    return effectActivated (← Json.get? fields "card") (← Json.get? fields "effect")
      (← Json.get? fields "player")
  | "ChainLinkAdded" =>
    return chainLinkAdded (← Json.get? fields "number") (← Json.get? fields "card")
      (← Json.get? fields "speed")
  | "ChainLinkResolved" =>
    return chainLinkResolved (← Json.get? fields "number") (← Json.get? fields "card")
      (← Json.get? fields "outcome")
  | "EffectAborted" =>
    return effectAborted (← Json.get? fields "number") (← Json.get? fields "card")
      (← Json.get? fields "reason")
  | "ChainResolved" => return chainResolved (← Json.get? fields "length")
  | "PriorityPassed" => return priorityPassed (← Json.get? fields "player")
  | "WindowOpened" => return windowOpened (← Json.get? fields "holder")
  | "HandLimitDiscard" =>
    return handLimitDiscard (← Json.get? fields "player") (← Json.get? fields "card")
  | "GameEnded" => return gameEnded (← Json.get? fields "result")
  | _ => none

end GameEvent

instance : ToJson GameEvent := ⟨GameEvent.json⟩

instance : FromJson GameEvent := ⟨Json.choose? GameEvent.ofTag? GameEvent.ofFields?, none⟩

instance : ToJson LoggedEvent where
  toJson entry := .array [toJson entry.seq, toJson entry.turn, toJson entry.event]

instance : ToJson Alteration where
  toJson
    | .negate => .string "Negate"
    | .delta stat amount => .variant "Delta" [("stat", toJson stat), ("amount", toJson amount)]
    | .override stat value => .variant "Override" [("stat", toJson stat), ("value", toJson value)]

namespace Alteration

def ofTag? (tag : String) : Option Alteration := if tag = "Negate" then some negate else none

def ofFields? (tag : String) (fields : List (String × Json)) : Option Alteration := do
  match tag with
  | "Delta" => return delta (← Json.get? fields "stat") (← Json.get? fields "amount")
  | "Override" => return override (← Json.get? fields "stat") (← Json.get? fields "value")
  | _ => none

end Alteration

instance : FromJson Alteration := ⟨Json.choose? Alteration.ofTag? Alteration.ofFields?, none⟩

instance : ToJson Modifier where
  toJson modifier := .record
    [("source", toJson modifier.source), ("target", toJson modifier.target),
      ("kind", toJson modifier.alteration), ("duration", toJson modifier.duration),
      ("target_moves", toJson modifier.targetMoves)]

instance : FromJson Modifier where
  fromJson? value := do
    let fields ← value.fieldsNamed? ["source", "target", "kind", "duration", "target_moves"]
    return {
      source := ← Json.get? fields "source"
      target := ← Json.get? fields "target"
      alteration := ← Json.get? fields "kind"
      duration := ← Json.get? fields "duration"
      targetMoves := ← Json.get? fields "target_moves" }

namespace Change

def ofFields? (tag : String) (fields : List (String × Json)) : Option Change := do
  match tag with
  | "MoveCard" =>
    return moveCard (← Json.get? fields "card") (← Json.get? fields "to")
      (← Json.get? fields "place")
  | "Draw" => return draw (← Json.get? fields "player") (← Json.get? fields "card")
  | "Summon" =>
    return summon (← Json.get? fields "card") (← Json.get? fields "position")
      (← Json.get? fields "kind")
  | "SetMonster" => return setMonster (← Json.get? fields "card")
  | "Place" => return placeSpell (← Json.get? fields "card") (← Json.get? fields "face_up")
  | "ChangePosition" =>
    return changePosition (← Json.get? fields "card") (← Json.get? fields "position")
  | "Damage" =>
    return damage (← Json.get? fields "player") (← Json.get? fields "amount")
      (← Json.get? fields "by_battle")
  | "GainLife" => return gainLife (← Json.get? fields "player") (← Json.get? fields "amount")
  | "PayLife" => return payLife (← Json.get? fields "player") (← Json.get? fields "amount")
  | "MarkDestroyed" =>
    return markDestroyed (← Json.get? fields "card") (← Json.get? fields "cause")
  | _ => none

end Change

instance : FromJson Change where
  fromJson? value := do
    match ← value.alternative? with
    | ("NegateAttack", none) | ("NegateAttack", some .null) => some .negateAttack
    | ("ShuffleDeck", some content) => (fromJson? content).map Change.shuffleDeck
    | ("Grant", some content) => (fromJson? content).map Change.grant
    | ("NegateLink", some content) => (fromJson? content).map Change.negateLink
    | (tag, some content) => Change.ofFields? tag (← content.members?)
    | _ => none

end CardDuel
