/-
This file shows that views keep secrets: two states that differ only in what a player may not see give this
player the same view.
-/

import CardDuel.Duel.View
import CardDuel.Proofs.Table.Posture
import Mathlib.Data.List.Forall2

namespace CardDuel

namespace CardInstance

variable {viewer : Seat} {left right : CardInstance}

/--
This tells whether a player may not see the face of a card. No face is seen in a deck, and the faces of the
opponent's cards are not seen in the hand and where they lie face-down on the field.
-/
def isHiddenFrom (card : CardInstance) (viewer : Seat) : Bool :=
  card.zone = .deck ||
    card.owner ≠ viewer && (card.zone = .hand || card.isOnField && !card.position.isFaceUp)

/-- This is what is known of a card without its face: whose card it is, where it is and how it lies. -/
def back (card : CardInstance) : InstanceId × Seat × Zone × Option Nat × Position :=
  (card.id, card.owner, card.zone, card.slot, card.position)

/-- This tells that two cards differ in nothing that a player may see. -/
def AlikeFor (viewer : Seat) (left right : CardInstance) : Prop :=
  left = right ∨ left.isHiddenFrom viewer = true ∧ left.back = right.back

instance : Decidable (AlikeFor viewer left right) := inferInstanceAs (Decidable (_ ∨ _))

theorem AlikeFor.back_eq (alike : AlikeFor viewer left right) : left.back = right.back := by
  rcases alike with rfl | ⟨_, same⟩
  · rfl
  · exact same

theorem AlikeFor.trans {third : CardInstance} (first : AlikeFor viewer left right)
    (second : AlikeFor viewer right third) : AlikeFor viewer left third := by
  rcases first with rfl | ⟨hidden, same⟩
  · exact second
  · exact .inr ⟨hidden, same.trans second.back_eq⟩

/-- A face that is shown only to those who may see it looks the same. -/
theorem AlikeFor.view_eq (alike : AlikeFor viewer left right) {visible : Bool}
    (fair : visible = true → left.isHiddenFrom viewer = false) :
    CardView.of visible left = CardView.of visible right := by
  rcases alike with rfl | ⟨hidden, same⟩
  · rfl
  · simp only [back, Prod.mk.injEq] at same
    obtain ⟨id, owner, _, _, position⟩ := same
    cases visible with
    | false => simp [CardView.of, id, owner, position]
    | true => simp [fair rfl] at hidden

end CardInstance

namespace GameState

variable {viewer : Seat} {left right : GameState}

/--
This tells that two states differ in nothing that a player may see: only the order of the decks and the faces
of hidden cards can be different.
-/
structure AlikeFor (viewer : Seat) (left right : GameState) : Prop where
  cards : List.Forall₂ (CardInstance.AlikeFor viewer) left.cards right.cards
  decks : ∀ seat, (left.zones seat).deck.Perm (right.zones seat).deck
  players : ∀ seat, right.player seat = { left.player seat with
    zones := { left.zones seat with deck := (right.zones seat).deck } }
  rest : right = { left with cards := right.cards, players := right.players }

namespace AlikeFor

theorem trans {third : GameState} (first : AlikeFor viewer left right)
    (second : AlikeFor viewer right third) : AlikeFor viewer left third := by
  refine ⟨?_, fun seat => (first.decks seat).trans (second.decks seat), ?_, ?_⟩
  · have forward := List.forall₂_iff_get.mp first.cards
    have onward := List.forall₂_iff_get.mp second.cards
    exact List.forall₂_iff_get.mpr ⟨forward.1.trans onward.1, fun place inside beyond =>
      (forward.2 place inside (forward.1 ▸ inside)).trans (onward.2 place (forward.1 ▸ inside) beyond)⟩
  · intro seat
    rw [second.players seat, GameState.zones, first.players seat]
  · rw [second.rest, first.rest]

/-- A deck in another order looks the same. -/
theorem of_reorder (state : GameState) (seat : Seat) {deck : List InstanceId}
    (reordered : (state.zones seat).deck.Perm deck) :
    state.AlikeFor viewer (state.setZones seat { state.zones seat with deck := deck }) := by
  refine ⟨List.forall₂_same.mpr fun _ _ => .inl rfl, ?_, ?_, rfl⟩
  · intro other
    rw [zones_setZones]
    split
    · next same => exact same ▸ reordered
    · exact .refl _
  · intro other
    rw [zones_setZones, setZones, player_modifyPlayer]
    split
    · next same => rw [same]
    · rfl

/-- A hidden card with another face looks the same. -/
theorem of_disguise (state : GameState) (card : InstanceId) (change : CardInstance → CardInstance)
    (unseen : ∀ found, state.card? card = some found →
      found.isHiddenFrom viewer = true ∧ found.back = (change found).back) :
    state.AlikeFor viewer (state.modifyCard card change) := by
  refine ⟨?_, fun seat => .refl _, fun seat => rfl, rfl⟩
  refine List.forall₂_iff_get.mpr ⟨(List.length_modify ..).symm, ?_⟩
  intro place inside _
  simp only [modifyCard, List.get_eq_getElem, List.getElem_modify]
  split
  · next here => exact .inr (unseen _ (by rw [card?, here, List.getElem?_eq_getElem inside]))
  · exact .inl rfl

theorem card_alike (alike : AlikeFor viewer left right) {card : InstanceId} {found : CardInstance}
    (known : left.card? card = some found) :
    ∃ other, right.card? card = some other ∧ found.AlikeFor viewer other := by
  obtain ⟨sameLength, alikeAt⟩ := List.forall₂_iff_get.mp alike.cards
  obtain ⟨inside, rfl⟩ := List.getElem?_eq_some_iff.mp known
  have insideToo : card.index < right.cards.length := sameLength ▸ inside
  exact ⟨right.cards[card.index], List.getElem?_eq_getElem insideToo,
    alikeAt card.index inside insideToo⟩

/-- A listed card looks the same in both states if its face is shown only to those who may see it. -/
theorem view_eq (alike : AlikeFor viewer left right) {zone : Zone} (lists : left.Lists zone)
    {player : Seat} {card : InstanceId} (listed : card ∈ (left.zones player).cards zone)
    (visible : CardInstance → Bool)
    (fair : ∀ found, found.owner = player → found.zone = zone → visible found = true →
      found.isHiddenFrom viewer = false)
    (outside : ∀ found other : CardInstance, found.back = other.back → visible found = visible other) :
    (left.card? card).map (fun found => CardView.of (visible found) found) =
      (right.card? card).map fun found => CardView.of (visible found) found := by
  obtain ⟨found, known, owned, placed⟩ := (lists.listed player card).mp listed
  obtain ⟨other, knownToo, same⟩ := alike.card_alike known
  rw [known, knownToo, Option.map_some, Option.map_some, ← outside found other same.back_eq,
    same.view_eq (fair found owned placed)]

section Sides

variable (alike : AlikeFor viewer left right) (lists : ∀ zone, zone ≠ .deck → left.Lists zone)
  (player : Seat)

include alike lists

/-- A pile looks the same if its faces are shown only to those who may see them. -/
theorem pile_eq (zone : Zone) (away : zone ≠ .deck) (visible : Bool)
    (fair : ∀ found : CardInstance, found.owner = player → found.zone = zone → visible = true →
      found.isHiddenFrom viewer = false) :
    (((left.zones player).cards zone).filterMap fun card =>
        (left.card? card).map (CardView.of visible)) =
      ((left.zones player).cards zone).filterMap fun card =>
        (right.card? card).map (CardView.of visible) :=
  List.filterMap_congr fun _ listed =>
    alike.view_eq (lists zone away) listed (fun _ => visible) fair fun _ _ _ => rfl

/-- A row of the field looks the same: a face is shown to its owner and, face-up, to everyone. -/
theorem row_eq (zone : Zone) {row : List (Option InstanceId)}
    (given : (left.zones player).row? zone = some row) :
    (row.map fun slot => (slot.bind left.card?).map fun card =>
        CardView.of (decide (viewer = player) || card.position.isFaceUp) card) =
      row.map fun slot => (slot.bind right.card?).map fun card =>
        CardView.of (decide (viewer = player) || card.position.isFaceUp) card := by
  have field := PlayerZones.isField_of_row? given
  have away : zone ≠ .deck := by
    rintro rfl
    simp [Zone.isField] at field
  apply List.map_congr_left
  intro slot member
  cases slot with
  | none => rfl
  | some card =>
    have listed : card ∈ (left.zones player).cards zone := by
      rw [PlayerZones.cards_of_row? given]
      exact List.mem_filterMap.mpr ⟨some card, member, rfl⟩
    refine alike.view_eq (lists zone away) listed
      (fun card => decide (viewer = player) || card.position.isFaceUp) ?_ ?_
    · rintro found rfl placed shown
      simp only [Bool.or_eq_true, decide_eq_true_eq] at shown
      have notInHand : zone ≠ .hand := by
        rintro rfl
        simp [Zone.isField] at field
      rcases shown with rfl | faceUp
      · simp [CardInstance.isHiddenFrom, placed, away]
      · simp [CardInstance.isHiddenFrom, placed, away, notInHand, faceUp]
    · intro found other same
      simp only [CardInstance.back, Prod.mk.injEq] at same
      obtain ⟨_, _, _, _, position⟩ := same
      simp only [position]

/-- Each side of the table looks the same. -/
theorem playerView_eq : PlayerView.of left viewer player = PlayerView.of right viewer player := by
  have hand := alike.pile_eq lists player .hand (by decide) (decide (viewer = player))
    (by
      rintro found rfl placed own
      simp [CardInstance.isHiddenFrom, placed, of_decide_eq_true own])
  have monsters := alike.row_eq lists player .monsters rfl
  have spells := alike.row_eq lists player .spells rfl
  have graveyard := alike.pile_eq lists player .graveyard (by decide) true
    (by simp +contextual [CardInstance.isHiddenFrom, CardInstance.isOnField, Zone.isField])
  have banished := alike.pile_eq lists player .banished (by decide) true
    (by simp +contextual [CardInstance.isHiddenFrom, CardInstance.isOnField, Zone.isField])
  have other := alike.players player
  have zones : right.zones player = { left.zones player with deck := (right.zones player).deck } :=
    congrArg PlayerState.zones other
  unfold PlayerView.of
  simp only [PlayerView.mk.injEq, true_and]
  refine ⟨by rw [other], (alike.decks player).length_eq, ?_, ?_, ?_, ?_, ?_, by rw [other]⟩
  all_goals rw [zones]
  · exact hand
  · exact monsters
  · exact spells
  · exact graveyard
  · exact banished

end Sides

end AlikeFor

end GameState

open GameState

/--
What a player may not see does not change the view of this player: if the zones list the cards that the table
puts there, as in every run, two states that differ only in the order of the decks and in the faces of hidden
cards give the same view.
-/
theorem DuelView.of_eq_of_alike {viewer : Seat} {left right : GameState}
    (lists : ∀ zone, zone ≠ .deck → left.Lists zone) (alike : left.AlikeFor viewer right) :
    DuelView.of left viewer = DuelView.of right viewer := by
  have own := alike.playerView_eq lists viewer
  have opponent := alike.playerView_eq lists viewer.opponent
  have rest := alike.rest
  unfold DuelView.of
  rw [own, opponent]
  simp only [DuelView.mk.injEq, true_and]
  refine ⟨?_, ?_, ?_, ?_, ?_, ?_, ?_, ?_, ?_⟩
  all_goals rw [rest]
  all_goals rfl

namespace DuelSetup

/--
The second player sees neither the order of the first player's deck nor the set card: with another order and
another card the view is the same.
-/
theorem sentries_keep_secrets :
    let setup := { sentries with decks := .replicate [⟨1⟩, ⟨1⟩, ⟨1⟩] }
    ∃ duel other, setup.Run [.act .first (.setCard ⟨2⟩ [])] duel ∧
      (duel.state.zones .first).deck = [⟨0⟩, ⟨1⟩] ∧ (other.zones .first).deck = [⟨1⟩, ⟨0⟩] ∧
      (duel.state.card? ⟨2⟩).map (·.card) = some ⟨1⟩ ∧ (other.card? ⟨2⟩).map (·.card) = some ⟨7⟩ ∧
      DuelView.of duel.state .second = DuelView.of other .second := by
  intro setup
  have played : (setup.play? [.act .first (.setCard ⟨2⟩ [])]).any (fun duel =>
      decide ((duel.state.zones .first).deck = [⟨0⟩, ⟨1⟩]) &&
        (duel.state.card? ⟨2⟩).any fun found => decide (found.card = ⟨1⟩) &&
          found.isHiddenFrom .second) = true := by
    decide +kernel
  obtain ⟨duel, followed, facts⟩ := (Option.any_eq_true _ _).mp played
  obtain ⟨deck, found, known, facts⟩ := by simpa [Option.any_eq_true] using facts
  obtain ⟨printed, hidden⟩ := facts
  have run : setup.Run [.act .first (.setCard ⟨2⟩ [])] duel := .of_play followed
  have reordered : duel.state.AlikeFor .second
      (duel.state.setZones .first { duel.state.zones .first with deck := [⟨1⟩, ⟨0⟩] }) :=
    .of_reorder duel.state .first (deck ▸ List.Perm.swap _ _ _)
  let disguise (card : CardInstance) : CardInstance :=
    { card with card := ⟨7⟩, current := .zero, moves := 0, hasAttacked := true }
  have disguised : AlikeFor .second
      (duel.state.setZones .first { duel.state.zones .first with deck := [⟨1⟩, ⟨0⟩] }) _ :=
    .of_disguise _ ⟨2⟩ disguise fun other knownToo => by
      obtain rfl := Option.some.inj (known.symm.trans knownToo)
      exact ⟨hidden, rfl⟩
  refine ⟨duel, _, run, deck, ?_, by simp [known, printed], ?_,
    DuelView.of_eq_of_alike (fun _ away => run.lists away) (reordered.trans disguised)⟩
  · simp [zones_setZones]
  · have same : (duel.state.setZones .first
        { duel.state.zones .first with deck := [⟨1⟩, ⟨0⟩] }).card? ⟨2⟩ = some found := known
    simp [card?_modifyCard, same, disguise]

end DuelSetup

end CardDuel
