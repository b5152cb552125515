/-
This file tells exactly what it means to move the top card of a pile to another pile. Draws take cards
off the top of a deck one after the other, and the hand limit takes the newest cards off a hand.
-/

import CardDuel.Play.Turn
import CardDuel.Proofs.Table.Shift

namespace CardDuel

/-- These are the zones of a player after the newest cards over a limit were discarded from the hand. -/
def PlayerZones.limited (zones : PlayerZones) (limit : Nat) : PlayerZones :=
  { zones with
    hand := zones.hand.take limit
    graveyard := zones.graveyard ++ (zones.hand.drop limit).reverse }

namespace GameState

variable {state : GameState} {origin : Zone} {rest : List InstanceId} {card : InstanceId}
  {seat : Seat}

/-- This is the state after the top card of one pile went to the top of another one. -/
def topMoved (state : GameState) (seat : Seat) (origin zone : Zone) (rest : List InstanceId)
    (card : InstanceId) (position : Position) : GameState :=
  let zones := state.zones seat
  (state.setZones seat ((zones.setPile origin rest).setPile zone (zones.cards zone ++ [card]))).modifyCard
    card fun entry => entry.relocate zone none position

/-- The top card of a pile that lists its cards rightly can go to the top of any other pile. -/
theorem relocate_top (lists : state.Lists origin)
    (top : (state.zones seat).cards origin = rest ++ [card]) (loose : origin.isField = false)
    (zone : Zone) (pile : zone.isField = false) (away : zone ≠ origin) (position : Position) :
    state.relocate card zone .top position =
      .ok (origin, state.topMoved seat origin zone rest card position) := by
  have held : card ∈ (state.zones seat).cards origin := by simp [top]
  obtain ⟨found, known, rfl, rfl⟩ := (lists.listed seat card).mp held
  obtain ⟨next, moved⟩ : ∃ next, state.relocate card zone .top position = .ok (found.zone, next) :=
    relocate_ok known held fun field => by simp [pile] at field
  obtain ⟨same, remaining, knownToo, _, _, removed, rfl⟩ := relocate_cases moved
  obtain rfl := Option.some.inj (known.symm.trans knownToo)
  have once : (rest ++ [card]).Nodup := top ▸ lists.once found.owner
  have last : card ∉ rest := fun member =>
    (List.nodup_append.mp once).2.2 card member card (List.mem_singleton_self card) rfl
  have left : ((state.zones found.owner).cards found.zone).erase card = rest := by
    rw [top, List.erase_append_right _ last, List.erase_cons_head, List.append_nil]
  obtain ⟨_, _, given, _⟩ | ⟨_, _, rfl⟩ := PlayerZones.remove?_cases removed
  · exact absurd (PlayerZones.isField_of_row? given) (by simp [loose])
  · rw [moved, left, arrived, PlayerZones.insert, PlayerZones.row?_eq_none_iff.mpr pile,
      PlayerZones.cards_setPile_of_ne _ away, pile]
    rfl

/-! Draws -/

def drewTop (state : GameState) (seat : Seat) (rest : List InstanceId) (card : InstanceId) :
    GameState :=
  (state.topMoved seat .deck .hand rest card .faceDown).record (.cardDrawn seat card)

/-- A drawn card changes only deck and hand of its player. -/
theorem zones_drewTop (state : GameState) (seat other : Seat) (rest : List InstanceId)
    (card : InstanceId) : (state.drewTop seat rest card).zones other =
      if other = seat then
        { state.zones seat with deck := rest, hand := (state.zones seat).hand ++ [card] }
      else state.zones other :=
  zones_setZones state seat other _

/-- The top card of a deck can be drawn. -/
theorem draw_eq (lists : state.Lists .deck) (deck : (state.zones seat).deck = rest ++ [card]) :
    (Change.draw seat card).apply state = .ok (state.drewTop seat rest card) := by
  have top : (state.zones seat).topOfDeck? = some card := by
    rw [PlayerZones.topOfDeck?, deck, List.getLast?_concat]
  have moved := relocate_top lists deck rfl .hand rfl (by decide) .faceDown
  rw [Change.apply, top, moved, if_neg (not_not_intro rfl)]
  rfl

/-- A player who must draw draws the top card. -/
theorem drawForTurn_eq (lists : state.Lists .deck)
    (deck : (state.zones seat).deck = rest ++ [card]) :
    state.drawForTurn seat = state.drewTop seat rest card := by
  have top : (state.zones seat).topOfDeck? = some card := by
    rw [PlayerZones.topOfDeck?, deck, List.getLast?_concat]
  rw [drawForTurn, top]
  dsimp only
  rw [Change.applyPossible, List.foldl_cons, List.foldl_nil, draw_eq lists deck]

/-! Discards -/

theorem setZones_self (state : GameState) (seat : Seat) :
    state.setZones seat (state.zones seat) = state := by
  cases seat <;> rfl

def discardedNewest (state : GameState) (seat : Seat) (rest : List InstanceId) (card : InstanceId) :
    GameState :=
  ((state.topMoved seat .hand .graveyard rest card .faceUp).record
    (.cardMoved card .hand .graveyard)).record (.handLimitDiscard seat card)

/-- In a hand that is listed rightly the newest card is discarded. -/
theorem discardExcess_eq (lists : state.Lists .hand)
    (hand : (state.zones seat).hand = rest ++ [card]) :
    discardExcess seat state card = state.discardedNewest seat rest card := by
  have moved := relocate_top lists hand rfl .graveyard rfl (by decide) .faceUp
  have buried : (Change.toGraveyard card).apply state =
      .ok ((state.topMoved seat .hand .graveyard rest card .faceUp).record
        (.cardMoved card .hand .graveyard)) := by
    rw [Change.toGraveyard, Change.apply, show Position.inPile .graveyard = .faceUp from rfl, moved]
    rfl
  rw [discardExcess, buried]
  rfl

/-- Discards take the newest cards of a hand one after the other, and leave the rest of the duel alone. -/
theorem foldl_discardExcess {kept : List InstanceId} (thrown : List InstanceId) {state : GameState}
    (lists : state.Lists .hand) (hand : (state.zones seat).hand = kept ++ thrown.reverse) :
    ∃ cards events log, thrown.foldl (discardExcess seat) state =
      { state.setZones seat { state.zones seat with
          hand := kept, graveyard := (state.zones seat).graveyard ++ thrown } with
        cards := cards, pendingEvents := events, log := log } := by
  induction thrown generalizing state with
  | nil =>
    refine ⟨state.cards, state.pendingEvents, state.log, ?_⟩
    rw [List.reverse_nil, List.append_nil] at hand
    rw [List.append_nil, ← hand]
    exact (state.setZones_self seat).symm
  | cons card others ih =>
    have newest : (state.zones seat).hand = (kept ++ others.reverse) ++ [card] := by
      rw [hand, List.reverse_cons, List.append_assoc]
    have moved := relocate_top lists newest rfl .graveyard rfl (by decide) .faceUp
    have zones : (state.discardedNewest seat (kept ++ others.reverse) card).zones seat =
        { state.zones seat with
          hand := kept ++ others.reverse, graveyard := (state.zones seat).graveyard ++ [card] } :=
      (zones_setZones state seat seat _).trans (if_pos rfl)
    have listed : (state.discardedNewest seat (kept ++ others.reverse) card).Lists .hand :=
      ((Shifts.of_move moved).lists lists).still ⟨rfl, fun _ => rfl⟩
    obtain ⟨cards, events, log, same⟩ := ih listed (by rw [zones])
    refine ⟨cards, events, log, ?_⟩
    rw [List.foldl_cons, discardExcess_eq lists newest, same, zones]
    simp only [List.append_assoc, List.singleton_append]
    cases seat <;> rfl

/-- A hand keeps its oldest cards, and the others come on the graveyard with the newest first. -/
theorem discardToLimit_eq (lists : state.Lists .hand) (seat : Seat) (limit : Nat) :
    ∃ cards events log, state.discardToLimit seat limit =
      { state.setZones seat ((state.zones seat).limited limit) with
        cards := cards, pendingEvents := events, log := log } := by
  have newest : (state.zones seat).newestInHand ((state.zones seat).hand.length - limit) =
      ((state.zones seat).hand.drop limit).reverse := by
    rw [PlayerZones.newestInHand, List.take_reverse]
    congr 1
    rcases Nat.le_total limit (state.zones seat).hand.length with longer | fits
    · rw [Nat.sub_sub_self longer]
    · rw [Nat.sub_eq_zero_of_le fits, Nat.sub_zero, List.drop_length, List.drop_of_length_le fits]
  rw [discardToLimit, newest]
  refine foldl_discardExcess _ lists ?_
  rw [List.reverse_reverse, List.take_append_drop]

end GameState

end CardDuel
