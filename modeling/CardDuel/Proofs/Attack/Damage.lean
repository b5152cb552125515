/-
This file tells what a battle comes to by the values of the cards that fight: which of them are destroyed, and
which player has to pay life points. It then follows the changes of a battle through a sweep.
-/

import CardDuel.Play.Battle
import CardDuel.Proofs.Continuous.Fresh
import CardDuel.Proofs.Flow.Burial
import CardDuel.Proofs.Flow.Settled

namespace CardDuel

/-! Values -/

/-- This is the table of battles: which cards are destroyed, and what a player has to pay for the battle. -/
inductive Clash (attacker : CardInstance) :
    Option CardInstance → List InstanceId → Option (Seat × UInt32) → Prop where
  | direct : Clash attacker none [] (some (attacker.owner.opponent, attacker.current.attack))
  | pierced {defender : CardInstance} (defends : defender.position = .faceUpDefense)
      (stronger : defender.current.defense < attacker.current.attack) :
      Clash attacker (some defender) [defender.id] none
  | repelled {defender : CardInstance} {cost : UInt32} (defends : defender.position = .faceUpDefense)
      (weaker : attacker.current.attack < defender.current.defense)
      (rest : attacker.current.attack.toNat + cost.toNat = defender.current.defense.toNat) :
      Clash attacker (some defender) [] (some (attacker.owner, cost))
  | held {defender : CardInstance} (defends : defender.position = .faceUpDefense)
      (equal : attacker.current.attack = defender.current.defense) : Clash attacker (some defender) [] none
  | won {defender : CardInstance} {cost : UInt32} (fights : defender.position = .faceUpAttack)
      (stronger : defender.current.attack < attacker.current.attack)
      (rest : defender.current.attack.toNat + cost.toNat = attacker.current.attack.toNat) :
      Clash attacker (some defender) [defender.id] (some (defender.owner, cost))
  | lost {defender : CardInstance} {cost : UInt32} (fights : defender.position = .faceUpAttack)
      (weaker : attacker.current.attack < defender.current.attack)
      (rest : attacker.current.attack.toNat + cost.toNat = defender.current.attack.toNat) :
      Clash attacker (some defender) [attacker.id] (some (attacker.owner, cost))
  | tied {defender : CardInstance} (fights : defender.position = .faceUpAttack)
      (equal : attacker.current.attack = defender.current.attack) :
      Clash attacker (some defender) [attacker.id, defender.id] none

/-- Only the cards that fight are destroyed by a battle. -/
theorem Clash.fighter {attacker : CardInstance} {defender : Option CardInstance}
    {fallen : List InstanceId} {due : Option (Seat × UInt32)} (clash : Clash attacker defender fallen due)
    {card : InstanceId} (falls : card ∈ fallen) :
    card = attacker.id ∨ ∃ found, defender = some found ∧ card = found.id := by
  cases clash with
  | direct | repelled | held => cases falls
  | pierced | won => exact .inr ⟨_, rfl, List.mem_singleton.mp falls⟩
  | lost => exact .inl (List.mem_singleton.mp falls)
  | tied => exact (List.mem_cons.mp falls).imp_right fun other => ⟨_, rfl, List.mem_singleton.mp other⟩

/-- The difference of two values is what the lower one lacks. -/
theorem toNat_add_sub_of_lt {low high : UInt32} (less : low < high) :
    low.toNat + (high - low).toNat = high.toNat := by
  rw [UInt32.toNat_sub_of_le _ _ (UInt32.le_of_lt less)]
  exact Nat.add_sub_of_le (Nat.le_of_lt (UInt32.lt_iff_toNat_lt.mp less))

/-- A battle against nothing or a card that is shown goes by the table. -/
theorem between_clash {attacker : CardInstance} {defender : Option CardInstance}
    (shown : ∀ found ∈ defender, found.position = .faceUpAttack ∨ found.position = .faceUpDefense) :
    Clash attacker defender (BattleOutcome.between attacker defender).destroyed
      (BattleOutcome.between attacker defender).damage := by
  cases defender with
  | none => exact .direct
  | some defender =>
    rcases shown defender rfl with fights | defends
    · have value : defender.battleValue = defender.current.attack := by
        rw [CardInstance.battleValue, fights]
        rfl
      rw [BattleOutcome.between, value, fights]
      rcases eq_or_ne attacker.current.attack defender.current.attack with equal | different
      · simpa [Position.isDefense, equal] using Clash.tied fights equal
      · rcases UInt32.lt_or_lt_of_ne different with weaker | stronger
        · simpa [Position.isDefense, weaker, UInt32.lt_asymm weaker]
            using Clash.lost fights weaker (toNat_add_sub_of_lt weaker)
        · simpa [Position.isDefense, stronger] using Clash.won fights stronger (toNat_add_sub_of_lt stronger)
    · have value : defender.battleValue = defender.current.defense := by
        rw [CardInstance.battleValue, defends]
        rfl
      rw [BattleOutcome.between, value, defends]
      rcases eq_or_ne attacker.current.attack defender.current.defense with equal | different
      · simpa [Position.isDefense, equal] using Clash.held defends equal
      · rcases UInt32.lt_or_lt_of_ne different with weaker | stronger
        · simpa [Position.isDefense, weaker, UInt32.lt_asymm weaker]
            using Clash.repelled defends weaker (toNat_add_sub_of_lt weaker)
        · simpa [Position.isDefense, stronger] using Clash.pierced defends stronger

namespace CardInstance

/-- This is a card with a mark for destruction by battle if it is among some cards. -/
def strike (fallen : List InstanceId) (card : CardInstance) : CardInstance :=
  if card.id ∈ fallen then { card with destruction := some (card.destruction.getD .battle) } else card

variable {card : CardInstance} {fallen : List InstanceId}

theorem id_strike (fallen : List InstanceId) (card : CardInstance) : (card.strike fallen).id = card.id := by
  rw [strike]
  split <;> rfl

theorem standing_strike (fallen : List InstanceId) (card : CardInstance) :
    (card.strike fallen).standing = card.standing := by
  rw [strike]
  split <;> rfl

theorem moves_strike (fallen : List InstanceId) (card : CardInstance) :
    (card.strike fallen).moves = card.moves := by
  rw [strike]
  split <;> rfl

theorem strike_cons (first : InstanceId) (fallen : List InstanceId) (card : CardInstance) :
    (card.strike [first]).strike fallen = card.strike (first :: fallen) := by
  rw [strike, id_strike, strike, strike]
  by_cases falls : card.id ∈ fallen <;> by_cases same : card.id = first <;> simp [falls, same]

/-- A battle marks cards of the field that bore no mark. -/
theorem mark?_strike (unmarked : card.mark? = none)
    (field : card.id ∈ fallen → card.isOnField = true) :
    (card.strike fallen).mark? = if card.id ∈ fallen then some .battle else none := by
  rw [strike]
  split
  · next falls =>
    rw [mark?, if_pos (field falls)] at unmarked
    rw [mark?, unmarked]
    exact if_pos (field falls)
  · exact unmarked

end CardInstance

namespace GameState

variable {state next : GameState} {catalog : Catalog} {attack : PendingAttack} {seat : Seat}
  {card : InstanceId} {found : CardInstance} {fallen : List InstanceId} {due : Option (Seat × UInt32)}

/-! The changes of a battle -/

def struck (state : GameState) (fallen : List InstanceId) : GameState :=
  { state with cards := state.cards.map (CardInstance.strike fallen) }

/-- This is a state in which a player has paid for a battle, down to nothing at the most. -/
def charged (state : GameState) : Option (Seat × UInt32) → GameState
  | none => state
  | some (seat, cost) =>
    Change.setLife state seat ((state.player seat).life - min cost (state.player seat).life)

/-- This is what is told of the payment. -/
def chargeNews (state : GameState) (due : Option (Seat × UInt32)) : List GameEvent :=
  due.toList.flatMap fun (seat, cost) =>
    let paid := min cost (state.player seat).life
    if 0 < paid then [.damage seat paid true] else []

/-- A changed card is a change of one card of the list. -/
theorem modifyCard_eq_map (numbered : state.Numbered) (card : InstanceId)
    (change : CardInstance → CardInstance) : state.modifyCard card change = { state with
      cards := state.cards.map fun found => if found.id = card then change found else found } := by
  have cards : (state.modifyCard card change).cards =
      state.cards.map fun found => if found.id = card then change found else found := by
    apply List.ext_getElem?
    intro spot
    rw [getElem?_modifyCard, List.getElem?_map]
    cases there : state.cards[spot]? with
    | none => exact ite_self none
    | some found =>
      have place := numbered spot found there
      by_cases here : found.id = card
      · rw [if_pos (by rw [← here, place])]
        simp [here]
      · rw [if_neg fun same => here (InstanceId.index_inj.mp (place.trans same))]
        simp [here]
  show ({ state with cards := (state.modifyCard card change).cards } : GameState) = _
  rw [cards]

theorem card?_struck (state : GameState) (fallen : List InstanceId) (card : InstanceId) :
    (state.struck fallen).card? card = (state.card? card).map (CardInstance.strike fallen) :=
  List.getElem?_map

/-- Marked cards stay where they are. -/
theorem Still.struck (state : GameState) (fallen : List InstanceId) : Still state (state.struck fallen) := by
  refine ⟨?_, fun _ => rfl⟩
  rw [GameState.struck, List.map_map]
  exact List.map_congr_left fun card _ => card.standing_strike fallen

/-- Cards of the field can be marked by a battle. -/
theorem applyPossible_marks (consistent : state.Consistent)
    (field : ∀ card ∈ fallen, ∃ found, state.card? card = some found ∧ found.isOnField = true) :
    Change.applyPossible (fallen.map fun card => .markDestroyed card .battle) state =
      state.struck fallen := by
  induction fallen generalizing state with
  | nil =>
    have same : state.cards.map (CardInstance.strike []) = state.cards :=
      (List.map_congr_left fun card _ => by simp [CardInstance.strike]).trans (List.map_id _)
    rw [GameState.struck, same]
    rfl
  | cons card rest ih =>
    obtain ⟨found, known, onField⟩ := field card (List.mem_cons_self ..)
    have marked : (Change.markDestroyed card .battle).apply state = .ok (state.struck [card]) := by
      rw [Change.apply]
      refine onField_eq_ok.mpr ⟨found, known, onField, ?_⟩
      rw [modifyCard_eq_map consistent.numbered, GameState.struck]
      simp [CardInstance.strike]
    have later : ∀ other ∈ rest, ∃ found, (state.struck [card]).card? other = some found ∧
        found.isOnField = true := by
      intro other falls
      obtain ⟨old, early, inside⟩ := field other (List.mem_cons_of_mem _ falls)
      refine ⟨old.strike [card], by rw [card?_struck, early]; rfl, ?_⟩
      rw [CardInstance.isOnField, show (old.strike [card]).zone = old.zone from
        congrArg (fun standing => standing.2.1) (old.standing_strike [card])]
      exact inside
    have both : (state.struck [card]).struck rest = state.struck (card :: rest) := by
      simp only [GameState.struck, List.map_map]
      congr 1
      exact List.map_congr_left fun found _ => found.strike_cons card rest
    rw [List.map_cons, Change.applyPossible, List.foldl_cons, marked]
    exact (ih ((Shifts.of_still (.struck state [card])).consistent consistent) later).trans both

/-- A player pays what is due and can be paid. -/
theorem applyPossible_damage (state : GameState) (due : Option (Seat × UInt32)) :
    Change.applyPossible (due.toList.map fun (seat, cost) => .damage seat cost true) state =
      (state.charged due).recordAll (state.chargeNews due) := by
  rcases due with - | ⟨seat, cost⟩
  · rfl
  · simp only [Option.toList_some, List.map_cons, List.map_nil, Change.applyPossible, List.foldl_cons,
      List.foldl_nil, Change.apply, charged, chargeNews, List.flatMap_cons, List.flatMap_nil, List.append_nil]
    split
    · rfl
    · rfl

/-! What a battle leaves -/

def owed : Option (Seat × UInt32) → Seat → Nat
  | none, _ => 0
  | some (payer, cost), seat => if seat = payer then cost.toNat else 0

/-- This is what is told of the cards that fall in a battle, in the order of the table. -/
def casualties (state : GameState) (fallen : List InstanceId) : List GameEvent :=
  state.cards.flatMap fun card =>
    if card.id ∈ fallen then [.cardMoved card.id .monsters .graveyard, .destroyed card.id true] else []

/--
This tells that a battle was fought: what is due is paid as far as the life points reach, the fallen cards are
in the graveyard and all others are as they were, and the duel is over if a player has no life points left.
-/
structure Fought (catalog : Catalog) (attack : PendingAttack) (fallen : List InstanceId)
    (due : Option (Seat × UInt32)) (before after : GameState) : Prop where
  lives : ∀ seat, (after.player seat).life.toNat + min (owed due seat) (before.player seat).life.toNat =
    (before.player seat).life.toNat
  zones : ∀ seat, after.zones seat =
    (before.zones seat).bury ((before.cards.map CardInstance.id).filter (· ∈ fallen))
  buried : ∀ card ∈ fallen, ∃ old new, before.card? card = some old ∧ after.card? card = some new ∧
    new.identity = old.identity ∧ new.zone = .graveyard ∧ new.slot = none ∧ new.moves = old.moves + 1
  kept : ∀ card ∉ fallen,
    (after.card? card).map CardInstance.bare = (before.card? card).map CardInstance.bare
  told : Logs before (before.chargeNews due ++ .battleResolved attack.attacker attack.target ::
    (before.casualties fallen ++ after.outcome.toList.map .gameEnded)) after
  lost : ∀ seat cost, due = some (seat, cost) → (before.player seat).life ≤ cost →
    after.outcome = some (.winner seat.opponent)
  goesOn : (∀ seat cost, due = some (seat, cost) → cost < (before.player seat).life) →
    after.outcome = none
  fresh : after.Fresh catalog

def fought (state : GameState) (attack : PendingAttack) (fallen : List InstanceId)
    (due : Option (Seat × UInt32)) : GameState :=
  (((state.struck fallen).charged due).recordAll (state.chargeNews due)).record
    (.battleResolved attack.attacker attack.target)

theorem charged_eq (state : GameState) (due : Option (Seat × UInt32)) : ∃ players,
    state.charged due = { state with players := players } := by
  rcases due with - | ⟨seat, cost⟩
  · exact ⟨_, rfl⟩
  · exact ⟨_, rfl⟩

/-- A battle changes only players and marks, and tells of it. -/
theorem fought_eq (state : GameState) (attack : PendingAttack) (fallen : List InstanceId)
    (due : Option (Seat × UInt32)) : ∃ pending log,
    state.fought attack fallen due =
      { (state.struck fallen).charged due with pendingEvents := pending, log := log } := by
  obtain ⟨pending, log, same⟩ :=
    ((state.struck fallen).charged due).recordAll_eq (state.chargeNews due)
  rw [fought, same]
  exact ⟨_, _, rfl⟩

theorem cards_fought (state : GameState) (attack : PendingAttack) (fallen : List InstanceId)
    (due : Option (Seat × UInt32)) :
    (state.fought attack fallen due).cards = state.cards.map (CardInstance.strike fallen) := by
  obtain ⟨_, _, same⟩ := state.fought_eq attack fallen due
  obtain ⟨_, charged⟩ := (state.struck fallen).charged_eq due
  rw [same, charged]
  rfl

/-- The cards after a battle are those before, up to their marks. -/
theorem card?_fought (state : GameState) (attack : PendingAttack) (fallen : List InstanceId)
    (due : Option (Seat × UInt32)) (card : InstanceId) :
    (state.fought attack fallen due).card? card =
      (state.card? card).map (CardInstance.strike fallen) := by
  rw [card?, cards_fought, List.getElem?_map]
  rfl

theorem outcome_fought (state : GameState) (attack : PendingAttack) (fallen : List InstanceId)
    (due : Option (Seat × UInt32)) : (state.fought attack fallen due).outcome = state.outcome := by
  obtain ⟨_, _, same⟩ := state.fought_eq attack fallen due
  obtain ⟨_, charged⟩ := (state.struck fallen).charged_eq due
  rw [same, charged]
  rfl

theorem player_fought (state : GameState) (attack : PendingAttack) (fallen : List InstanceId)
    (due : Option (Seat × UInt32)) (seat : Seat) :
    (state.fought attack fallen due).player seat = (state.charged due).player seat := by
  obtain ⟨_, _, same⟩ := state.fought_eq attack fallen due
  rw [same]
  rcases due with - | ⟨payer, cost⟩
  · rfl
  · rfl

theorem Still.fought (state : GameState) (attack : PendingAttack) (fallen : List InstanceId)
    (due : Option (Seat × UInt32)) : Still state (state.fought attack fallen due) := by
  have charged : Still (state.struck fallen) ((state.struck fallen).charged due) := by
    rcases due with - | ⟨payer, cost⟩
    · exact .refl _
    · exact .setLife _ _ _
  obtain ⟨_, _, same⟩ := state.fought_eq attack fallen due
  rw [same]
  exact ((Still.struck state fallen).trans charged).trans ⟨rfl, fun _ => rfl⟩

/-- The changes of a battle are told before its end. -/
theorem fought_logs (state : GameState) (attack : PendingAttack) (fallen : List InstanceId)
    (due : Option (Seat × UInt32)) :
    Logs state (state.chargeNews due ++ [.battleResolved attack.attacker attack.target])
      (state.fought attack fallen due) := by
  obtain ⟨_, charged⟩ := (state.struck fallen).charged_eq due
  have log : ((state.struck fallen).charged due).log = state.log := by
    rw [charged]
    rfl
  have turn : ((state.struck fallen).charged due).turn = state.turn := by
    rw [charged]
    rfl
  refine (Logs.recordAll log turn ?_).trans (.record rfl rfl rfl)
  intro event member
  rcases due with - | ⟨payer, cost⟩
  · cases member
  · simp only [chargeNews, Option.toList_some, List.flatMap_cons, List.flatMap_nil, List.append_nil] at member
    split at member
    · obtain rfl := List.mem_singleton.mp member
      rfl
    · cases member

/-- The damage of a battle is taken from a player as far as there is life. -/
theorem life_charged (state : GameState) (due : Option (Seat × UInt32)) (seat : Seat) :
    ((state.charged due).player seat).life.toNat + min (owed due seat) (state.player seat).life.toNat =
      (state.player seat).life.toNat := by
  rcases due with - | ⟨payer, cost⟩
  · simp [charged, owed]
  · rw [charged, Change.setLife, player_modifyPlayer, owed]
    by_cases pays : seat = payer
    · subst pays
      have enough : min cost (state.player seat).life ≤ (state.player seat).life := by
        rw [UInt32.le_iff_toNat_le, UInt32.toNat_min]
        exact Nat.min_le_right _ _
      simp only [if_true, UInt32.toNat_sub_of_le _ _ enough, UInt32.toNat_min]
      omega
    · simp [pays]

theorem deckOut_charged (state : GameState) (due : Option (Seat × UInt32)) (seat : Seat) :
    ((state.charged due).player seat).deckOut = (state.player seat).deckOut := by
  rcases due with - | ⟨payer, cost⟩
  · rfl
  · rw [charged, Change.setLife, player_modifyPlayer]
    split <;> rfl

section Settled

variable (settled : state.Settled) (falls : ∀ card ∈ fallen, ∃ found, state.card? card = some found ∧
  found.zone = .monsters)

include settled

/-- Only a player who has to pay all that is left loses by a battle. -/
theorem Settled.mem_losers_fought (running : state.outcome = none) :
    seat ∈ (state.fought attack fallen due).losers ↔
      ∃ cost, due = some (seat, cost) ∧ (state.player seat).life ≤ cost := by
  have alive : seat ∉ state.losers := by simp [settled.judged running]
  rw [mem_losers, not_or, ← UInt32.toNat_inj] at alive
  obtain ⟨life, deck⟩ := alive
  have paid := state.life_charged due seat
  rw [mem_losers, player_fought, deckOut_charged, or_iff_left deck, ← UInt32.toNat_inj]
  rcases due with - | ⟨payer, cost⟩
  · simpa [charged, ← UInt32.toNat_inj] using life
  · by_cases pays : seat = payer
    · subst pays
      rw [owed, if_pos rfl] at paid
      simp only [UInt32.toNat_zero, Option.some.injEq, Prod.mk.injEq, true_and, exists_eq_left',
        UInt32.le_iff_toNat_le] at life ⊢
      omega
    · rw [owed, if_neg pays, Nat.zero_min, Nat.add_zero] at paid
      simp [paid, Ne.symm pays, ← UInt32.toNat_inj] at life ⊢
      exact life

include falls

/-- A card that falls is marked for battle, and no other card is marked. -/
theorem Settled.mark?_struck (member : found ∈ state.cards) :
    (found.strike fallen).mark? = if found.id ∈ fallen then some .battle else none := by
  apply CardInstance.mark?_strike (marked_eq_nil_iff.mp settled.unmarked found member)
  intro named
  obtain ⟨same, known, monsters⟩ := falls found.id named
  obtain rfl := Option.some.inj ((settled.consistent.numbered.card?_id member).symm.trans known)
  rw [CardInstance.isOnField, monsters]
  rfl

/-- The marked cards after a battle are those that fall. -/
theorem Settled.marked_fought : (state.fought attack fallen due).marked.map Prod.fst =
    (state.cards.map CardInstance.id).filter (· ∈ fallen) := by
  have fell : state.cards.filter (Option.isSome ∘ CardInstance.mark? ∘ CardInstance.strike fallen) =
      state.cards.filter ((· ∈ fallen) ∘ CardInstance.id) := by
    apply List.filter_congr
    intro found member
    simp only [Function.comp_apply, settled.mark?_struck falls member]
    split <;> simp_all
  rw [marked_ids, cards_fought, List.filter_map, List.map_map, List.filter_map]
  exact (List.map_congr_left fun found _ => found.id_strike fallen).trans
    (congrArg (List.map CardInstance.id) fell)

theorem Settled.obituaries_fought :
    (state.fought attack fallen due).cards.flatMap CardInstance.obituary = state.casualties fallen := by
  rw [cards_fought, List.flatMap_map, casualties]
  apply List.flatMap_congr
  intro found member
  rw [CardInstance.obituary, settled.mark?_struck falls member]
  split
  · next named =>
    obtain ⟨same, known, monsters⟩ := falls found.id named
    obtain rfl := Option.some.inj ((settled.consistent.numbered.card?_id member).symm.trans known)
    have zone : (found.strike fallen).zone = .monsters :=
      (congrArg (fun standing => standing.2.1) (found.standing_strike fallen)).trans monsters
    simp [found.id_strike, zone]
  · rfl

/-- A card that fell in a battle is in the graveyard after a sweep. -/
theorem Settled.buried_fought (fell : card ∈ fallen) : ∃ old new, state.card? card = some old ∧
    ((state.fought attack fallen due).sweep catalog).card? card = some new ∧
      new.identity = old.identity ∧ new.zone = .graveyard ∧ new.slot = none ∧
      new.moves = old.moves + 1 := by
  obtain ⟨old, known, monsters⟩ := falls card fell
  have consistent := (Shifts.of_still (.fought state attack fallen due)).consistent settled.consistent
  have struck : (state.fought attack fallen due).card? card = some (old.strike fallen) := by
    rw [card?_fought, known]
    rfl
  obtain ⟨new, there, bare⟩ := card?_sweep consistent catalog struck
  have mark := settled.mark?_struck falls (List.mem_of_getElem? known)
  rw [settled.consistent.numbered.id_eq known, if_pos fell] at mark
  have goes : (old.strike fallen).razed = (old.strike fallen).relocate .graveyard none .faceUp := by
    rw [CardInstance.razed, mark]
    rfl
  have identity : (old.strike fallen).identity = old.identity :=
    congrArg Prod.fst (old.standing_strike fallen)
  rw [goes] at bare
  exact ⟨old, new, known, there,
    (congrArg CardInstance.identity bare).trans ((CardInstance.identity_relocate ..).trans identity),
    congrArg CardInstance.zone bare, congrArg CardInstance.slot bare,
    (congrArg CardInstance.moves bare).trans (congrArg (· + 1) (old.moves_strike fallen))⟩

omit falls in
/-- A battle and a sweep leave every card as it was that did not fall. -/
theorem Settled.kept_fought (stays : card ∉ fallen) :
    (((state.fought attack fallen due).sweep catalog).card? card).map CardInstance.bare =
      (state.card? card).map CardInstance.bare := by
  have consistent := (Shifts.of_still (.fought state attack fallen due)).consistent settled.consistent
  have bare := congrArg (fun cards => cards[card.index]?) (bare_sweep consistent catalog)
  rw [List.getElem?_map, List.getElem?_map] at bare
  refine Eq.trans bare ?_
  show ((state.fought attack fallen due).card? card).map (fun card => card.razed.bare) = _
  rw [card?_fought]
  cases known : state.card? card with
  | none => rfl
  | some old =>
    have same : old.strike fallen = old := by
      rw [CardInstance.strike, settled.consistent.numbered.id_eq known, if_neg stays]
    have unmarked := marked_eq_nil_iff.mp settled.unmarked old (List.mem_of_getElem? known)
    rw [Option.map_some, Option.map_some, same, CardInstance.razed_of_unmarked unmarked]
    rfl

/-- In a settled state the changes of a battle and a sweep are a battle that was fought. -/
theorem Settled.fought (running : state.outcome = none) : Fought catalog attack fallen due state
    ((state.fought attack fallen due).sweep catalog) := by
  have still := Still.fought state attack fallen due
  have consistent := (Shifts.of_still still).consistent settled.consistent
  have goesOn := (state.outcome_fought attack fallen due).trans running
  have judged : ((state.fought attack fallen due).sweep catalog).outcome =
      resultFor? (state.fought attack fallen due).losers := by
    rw [sweep_outcome, goesOn, Option.none_or, (SameLife.destroyAllMarked _ catalog).losers]
  have loses (seat : Seat) : seat ∈ (state.fought attack fallen due).losers ↔
      ∃ cost, due = some (seat, cost) ∧ (state.player seat).life ≤ cost :=
    settled.mem_losers_fought running
  refine ⟨?lives, ?zones, fun card => settled.buried_fought falls, fun card => settled.kept_fought, ?told, ?lost,
    ?goesOn, sweep_fresh _ catalog⟩
  case lives =>
    intro seat
    rw [(SameLife.sweep _ catalog seat).1, player_fought]
    exact state.life_charged due seat
  case zones =>
    intro seat
    rw [zones_sweep consistent, still.zones, settled.marked_fought falls]
  case told =>
    have swept := sweep_logs consistent catalog
    rw [settled.obituaries_fought falls, if_pos goesOn] at swept
    have whole := (state.fought_logs attack fallen due).trans swept
    rwa [List.append_assoc, List.singleton_append] at whole
  case lost =>
    intro seat cost pays short
    have spared : seat.opponent ∉ (state.fought attack fallen due).losers := by
      intro other
      obtain ⟨_, paysToo, _⟩ := (loses seat.opponent).mp other
      rw [pays] at paysToo
      exact seat.opponent_ne (congrArg Prod.fst (Option.some.inj paysToo)).symm
    rw [judged, losers_eq_singleton ((loses seat).mpr ⟨cost, pays, short⟩) spared]
    rfl
  case goesOn =>
    intro enough
    have nobody : (state.fought attack fallen due).losers = [] := by
      rw [List.eq_nil_iff_forall_not_mem]
      intro seat member
      obtain ⟨cost, pays, short⟩ := (loses seat).mp member
      exact UInt32.not_lt.mpr short (enough seat cost pays)
    rw [judged, nobody]
    rfl

end Settled

end GameState

end CardDuel
