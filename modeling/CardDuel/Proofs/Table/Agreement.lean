/-
This file defines when the card table and the zones tell the same, and shows that moving a card and
shuffling a deck keep this so.
-/

import CardDuel.Proofs.Accepted
import CardDuel.Proofs.Table.Zones
import CardDuel.State.Basic
import Mathlib.Data.List.Nodup

namespace CardDuel

/-- This holds what never changes about a physical card. -/
structure CardIdentity where
  id : InstanceId
  card : CardId
  category : Category
  owner : Seat
  base : StatLine
deriving DecidableEq

namespace CardInstance

def identity (card : CardInstance) : CardIdentity :=
  ⟨card.id, card.card, card.category, card.owner, card.base⟩

/-- This is a card's identity with its zone and its place in a row. -/
def standing (card : CardInstance) : CardIdentity × Zone × Option Nat :=
  (card.identity, card.zone, card.slot)

@[simp] theorem identity_relocate (card : CardInstance) (zone : Zone) (slot : Option Nat)
    (position : Position) : (card.relocate zone slot position).identity = card.identity := by
  unfold relocate
  dsimp only
  split <;> rfl

@[simp] theorem zone_relocate (card : CardInstance) (zone : Zone) (slot : Option Nat)
    (position : Position) : (card.relocate zone slot position).zone = zone := by
  unfold relocate
  dsimp only
  split <;> rfl

@[simp] theorem slot_relocate (card : CardInstance) (zone : Zone) (slot : Option Nat)
    (position : Position) : (card.relocate zone slot position).slot = slot := by
  unfold relocate
  dsimp only
  split <;> rfl

@[simp] theorem position_relocate (card : CardInstance) (zone : Zone) (slot : Option Nat)
    (position : Position) : (card.relocate zone slot position).position = position := by
  unfold relocate
  dsimp only
  split <;> rfl

@[simp] theorem destruction_relocate (card : CardInstance) (zone : Zone) (slot : Option Nat)
    (position : Position) : (card.relocate zone slot position).destruction = none := by
  unfold relocate
  dsimp only
  split <;> rfl

@[simp] theorem owner_relocate (card : CardInstance) (zone : Zone) (slot : Option Nat)
    (position : Position) : (card.relocate zone slot position).owner = card.owner :=
  congrArg CardIdentity.owner (card.identity_relocate zone slot position)

end CardInstance

/-- This is the number of places in a row of the field. -/
def DuelConfig.slots (config : DuelConfig) : Zone → Nat
  | .monsters => config.monsterZones
  | .spells => config.spellZones
  | _ => 0

namespace GameState

/-- This tells that the card table and the zones of both players agree. -/
structure Agrees (config : DuelConfig) (state : GameState) : Prop where
  numbered : ∀ (place : Nat) (found : CardInstance),
    state.cards[place]? = some found → found.id.index = place
  listed : ∀ (seat : Seat) (zone : Zone) (card : InstanceId),
    card ∈ (state.zones seat).cards zone ↔
      ∃ found, state.card? card = some found ∧ found.owner = seat ∧ found.zone = zone
  once : ∀ (seat : Seat) (zone : Zone), ((state.zones seat).cards zone).Nodup
  inRow : ∀ (card : InstanceId) (found : CardInstance) (row : List (Option InstanceId)),
    state.card? card = some found → (state.zones found.owner).row? found.zone = some row →
      ∃ slot, found.slot = some slot ∧ row[slot]? = some (some card)
  inPile : ∀ (card : InstanceId) (found : CardInstance),
    state.card? card = some found → found.zone.isField = false → found.slot = none
  rows : ∀ (seat : Seat) (zone : Zone) (row : List (Option InstanceId)),
    (state.zones seat).row? zone = some row → row.length = config.slots zone

/-- This tells that the zones of one kind list exactly the cards that the table puts there. -/
structure Lists (state : GameState) (zone : Zone) : Prop where
  listed : ∀ (seat : Seat) (card : InstanceId), card ∈ (state.zones seat).cards zone ↔
    ∃ found, state.card? card = some found ∧ found.owner = seat ∧ found.zone = zone
  once : ∀ seat : Seat, ((state.zones seat).cards zone).Nodup

/-- In a state that agrees with its configuration every zone lists its cards. -/
theorem Agrees.lists {config : DuelConfig} {state : GameState} (agrees : state.Agrees config)
    (zone : Zone) : state.Lists zone :=
  ⟨fun seat => agrees.listed seat zone, fun seat => agrees.once seat zone⟩

def Numbered (state : GameState) : Prop :=
  ∀ (place : Nat) (found : CardInstance), state.cards[place]? = some found → found.id.index = place

namespace Numbered

variable {state : GameState}

/-- In a numbered table the card that is found has the number that was asked for. -/
theorem id_eq (numbered : state.Numbered) {card : InstanceId} {found : CardInstance}
    (known : state.card? card = some found) : found.id = card :=
  InstanceId.index_inj.mp (numbered card.index found known)

/-- In a numbered table every card is found by its own number. -/
theorem card?_id (numbered : state.Numbered) {found : CardInstance} (member : found ∈ state.cards) :
    state.card? found.id = some found := by
  obtain ⟨place, present⟩ := List.mem_iff_getElem?.mp member
  rw [card?, numbered place found present]
  exact present

/-- The cards of the table are numbered from zero on. -/
theorem indices (numbered : state.Numbered) :
    state.cards.map (fun card => card.id.index) = List.range state.cards.length := by
  apply List.ext_getElem?
  intro place
  rw [List.getElem?_map]
  cases present : state.cards[place]? with
  | none =>
    have outside := List.getElem?_eq_none_iff.mp present
    simp [outside]
  | some found =>
    obtain ⟨inside, _⟩ := List.getElem?_eq_some_iff.mp present
    simp [inside, numbered place found present]

/-- In a numbered table no two cards share a number. -/
theorem nodup_ids (numbered : state.Numbered) : (state.cards.map CardInstance.id).Nodup := by
  have distinct : ((state.cards.map CardInstance.id).map InstanceId.index).Nodup := by
    rw [List.map_map]
    exact numbered.indices ▸ List.nodup_range
  exact List.Nodup.of_map InstanceId.index distinct

end Numbered

/-- This tells that no card is moved from one state to another. -/
structure Still (before after : GameState) : Prop where
  standings : after.cards.map CardInstance.standing = before.cards.map CardInstance.standing
  zones : ∀ seat, after.zones seat = before.zones seat

namespace Still

variable {before middle after : GameState}

theorem refl (state : GameState) : Still state state := ⟨rfl, fun _ => rfl⟩

theorem trans (first : Still before middle) (second : Still middle after) : Still before after :=
  ⟨second.standings.trans first.standings,
    fun seat => (second.zones seat).trans (first.zones seat)⟩

/-- Each card stands where it stood. -/
theorem card_at (still : Still before after) {place : Nat} {found : CardInstance}
    (present : after.cards[place]? = some found) :
    ∃ old, before.cards[place]? = some old ∧ old.standing = found.standing := by
  have same := congrArg (fun standings => standings[place]?) still.standings
  simp only [List.getElem?_map, present, Option.map_some] at same
  exact Option.map_eq_some_iff.mp same.symm

theorem symm (still : Still before after) : Still after before :=
  ⟨still.standings.symm, fun seat => (still.zones seat).symm⟩

/-- A change of one card that leaves its standing alone moves no card. -/
theorem modifyCard (state : GameState) (card : InstanceId) (change : CardInstance → CardInstance)
    (same : ∀ found, (change found).standing = found.standing) :
    Still state (state.modifyCard card change) := by
  refine ⟨?_, fun _ => rfl⟩
  apply List.ext_getElem?
  intro place
  simp only [GameState.modifyCard, List.getElem?_map, List.getElem?_modify]
  cases state.cards[place]? with
  | none => simp
  | some found =>
    by_cases here : card.index = place
    · simp [here, same]
    · simp [here]

theorem identities (still : Still before after) :
    after.cards.map CardInstance.identity = before.cards.map CardInstance.identity := by
  have first := congrArg (List.map Prod.fst) still.standings
  rw [List.map_map, List.map_map] at first
  exact first

end Still

section Relocation

variable {state next : GameState} {card : InstanceId} {zone origin : Zone} {place : Place}
  {position : Position}

/-- This is the state after a card was put into a zone of a player with the given zones. -/
def arrived (state : GameState) (owner : Seat) (remaining : PlayerZones) (card : InstanceId)
    (zone : Zone) (place : Place) (position : Position) : GameState :=
  (state.setZones owner (remaining.insert zone card place).1).modifyCard card fun entry =>
    entry.relocate zone (if zone.isField then (remaining.insert zone card place).2 else none)
      position

/-- The rules find exactly the cards of the table. -/
theorem requireCard_eq_ok {found : CardInstance} :
    state.requireCard card = .ok found ↔ state.card? card = some found := by
  rw [requireCard]
  cases state.card? card with
  | none => simp
  | some other => simp

/-- This is what a move does: the card leaves its zone, enters another one and is noted there. -/
theorem relocate_cases (moved : state.relocate card zone place position = .ok (origin, next)) :
    ∃ found remaining, state.card? card = some found ∧ origin = found.zone ∧
      (state.zones found.owner).HasRoom zone ∧
      (state.zones found.owner).remove? found.zone card = some remaining ∧
      next = state.arrived found.owner remaining card zone place position := by
  simp only [relocate, bind_eq_ok, guard_eq_ok] at moved
  obtain ⟨found, present, free, rest⟩ := moved
  refine ⟨found, ?_⟩
  have known : state.card? card = some found := requireCard_eq_ok.mp present
  split at rest
  · simp [throw_eq_ok] at rest
  · next remaining removed =>
    simp only [pure_eq_ok, Prod.mk.injEq] at rest
    refine ⟨remaining, known, rest.1.symm, ?_, removed, rest.2.symm⟩
    intro field
    simpa [field, Option.isSome_iff_ne_none, Option.isNone_iff_eq_none] using free

/-- A card that is where the table says can move to any zone with room. -/
theorem relocate_ok {found : CardInstance} (known : state.card? card = some found)
    (present : card ∈ (state.zones found.owner).cards found.zone)
    (room : (state.zones found.owner).HasRoom zone) :
    ∃ next, state.relocate card zone place position = .ok (found.zone, next) := by
  obtain ⟨remaining, removed⟩ := PlayerZones.remove?_isSome present
  refine ⟨state.arrived found.owner remaining card zone place position, ?_⟩
  simp only [relocate, bind_eq_ok, guard_eq_ok, requireCard_eq_ok]
  refine ⟨found, known, ?_, ?_⟩
  · rintro ⟨field, full⟩
    have free := room field
    simp [Option.isNone_iff_eq_none.mp full] at free
  · rw [removed]
    rfl

/-- A relocation changes no identity. -/
theorem relocate_identities (moved : state.relocate card zone place position = .ok (origin, next)) :
    next.cards.map CardInstance.identity = state.cards.map CardInstance.identity := by
  obtain ⟨found, remaining, _, _, _, _, rfl⟩ := relocate_cases moved
  apply List.ext_getElem?
  intro index
  simp only [arrived, modifyCard, cards_setZones, List.getElem?_map, List.getElem?_modify]
  cases state.cards[index]? with
  | none => simp
  | some found =>
    by_cases here : card.index = index
    · simp [here]
    · simp [here]

/-- This is the card at a number after a move. -/
theorem card?_arrived (state : GameState) (owner : Seat) (remaining : PlayerZones)
    (card : InstanceId) (zone : Zone) (place : Place) (position : Position) (other : InstanceId) :
    (state.arrived owner remaining card zone place position).card? other =
      if other = card then (state.card? card).map fun entry => entry.relocate zone
        (if zone.isField then (remaining.insert zone card place).2 else none) position
      else state.card? other := by
  rw [arrived, card?_modifyCard]
  by_cases same : other = card
  · simp only [same, if_true]
    rfl
  · simp only [same, if_false]
    rfl

/-- An arrival puts one card into one zone of its owner, and changes no other zone. -/
theorem zones_arrived (state : GameState) (owner : Seat) (remaining : PlayerZones)
    (card : InstanceId) (zone : Zone) (place : Place) (position : Position) (seat : Seat) :
    (state.arrived owner remaining card zone place position).zones seat =
      if seat = owner then (remaining.insert zone card place).1 else state.zones seat := by
  rw [arrived, zones_modifyCard, zones_setZones]

namespace Lists

variable {found : CardInstance} {remaining : PlayerZones}

/-- A card is listed in its zone. -/
theorem present (lists : state.Lists found.zone) (known : state.card? card = some found) :
    card ∈ (state.zones found.owner).cards found.zone :=
  (lists.listed found.owner card).mpr ⟨found, known, rfl, rfl⟩

/-- A card is listed in no zone but its own. -/
theorem absent (lists : state.Lists zone) (known : state.card? card = some found)
    (different : zone ≠ found.zone) : card ∉ (state.zones found.owner).cards zone := by
  intro present
  obtain ⟨other, knownToo, _, placed⟩ := (lists.listed found.owner card).mp present
  obtain rfl : found = other := Option.some.inj (known.symm.trans knownToo)
  exact different placed.symm

/-- Where no card moves, a zone lists its cards as before. -/
theorem still {before after : GameState} (lists : before.Lists zone) (still : Still before after) :
    after.Lists zone := by
  constructor
  · intro seat card
    rw [still.zones seat, lists.listed seat card]
    constructor
    · rintro ⟨old, knownOld, rfl, rfl⟩
      obtain ⟨found, present, same⟩ := still.symm.card_at knownOld
      exact ⟨found, present, congrArg (fun standing => standing.1.owner) same,
        congrArg (fun standing => standing.2.1) same⟩
    · rintro ⟨found, present, rfl, rfl⟩
      obtain ⟨old, knownOld, same⟩ := still.card_at present
      exact ⟨old, knownOld, congrArg (fun standing => standing.1.owner) same,
        congrArg (fun standing => standing.2.1) same⟩
  · intro seat
    rw [still.zones seat]
    exact lists.once seat

/-- After a card was taken out, the zones of its owner list all other cards as before. -/
theorem mem_remaining (lists : state.Lists zone) (known : state.card? card = some found)
    (removed : (state.zones found.owner).remove? found.zone card = some remaining)
    (other : InstanceId) :
    other ∈ remaining.cards zone ↔
      other ≠ card ∧ other ∈ (state.zones found.owner).cards zone := by
  by_cases home : zone = found.zone
  · subst home
    have shuffled := PlayerZones.remove?_perm removed
    have distinct := shuffled.nodup_iff.mp (lists.once found.owner)
    rw [shuffled.mem_iff, List.mem_cons]
    constructor
    · intro member
      refine ⟨?_, .inr member⟩
      rintro rfl
      exact (List.nodup_cons.mp distinct).1 member
    · rintro ⟨different, rfl | member⟩
      · exact absurd rfl different
      · exact member
  · rw [PlayerZones.remove?_cards_of_ne removed home]
    constructor
    · intro member
      refine ⟨?_, member⟩
      rintro rfl
      exact lists.absent known home member
    · exact And.right

/-- What remains of a zone holds each of its cards once. -/
theorem nodup_remaining (lists : state.Lists zone)
    (removed : (state.zones found.owner).remove? found.zone card = some remaining) :
    (remaining.cards zone).Nodup := by
  by_cases home : zone = found.zone
  · subst home
    have shuffled := PlayerZones.remove?_perm removed
    exact (List.nodup_cons.mp (shuffled.nodup_iff.mp (lists.once found.owner))).2
  · rw [PlayerZones.remove?_cards_of_ne removed home]
    exact lists.once found.owner

variable {target : Zone}

/-- After a move a zone lists exactly the cards that the table puts there. -/
theorem listed_arrived (lists : state.Lists target) (known : state.card? card = some found)
    (removed : (state.zones found.owner).remove? found.zone card = some remaining)
    (room : remaining.HasRoom zone) (seat : Seat) (other : InstanceId) :
    other ∈ ((state.arrived found.owner remaining card zone place position).zones seat).cards target ↔
      ∃ entry, (state.arrived found.owner remaining card zone place position).card? other =
        some entry ∧ entry.owner = seat ∧ entry.zone = target := by
  have entered := PlayerZones.insert_perm card place room
  have kept := lists.mem_remaining known removed other
  rw [zones_arrived, card?_arrived]
  by_cases own : other = card
  · subst own
    simp only [if_true, known, Option.map_some, Option.some.injEq]
    by_cases owner : seat = found.owner
    · subst owner
      simp only [if_true]
      by_cases here : target = zone
      · subst here
        simp [entered.mem_iff]
      · rw [PlayerZones.insert_cards_of_ne _ place room here, kept]
        simp [Ne.symm here]
    · simp only [owner, if_false, lists.listed seat other, known, Option.some.injEq]
      constructor
      · rintro ⟨_, rfl, same, _⟩
        exact absurd same.symm owner
      · rintro ⟨_, rfl, same, _⟩
        exact absurd (same.symm.trans (found.owner_relocate _ _ _)) owner
  · simp only [own, if_false]
    rw [← lists.listed seat other]
    by_cases owner : seat = found.owner
    · subst owner
      simp only [if_true]
      by_cases here : target = zone
      · subst here
        simp [entered.mem_iff, kept, own]
      · rw [PlayerZones.insert_cards_of_ne _ place room here, kept]
        simp [own]
    · simp [owner]

/-- After a move a zone lists no card twice. -/
theorem once_arrived (lists : state.Lists target) (known : state.card? card = some found)
    (removed : (state.zones found.owner).remove? found.zone card = some remaining)
    (room : remaining.HasRoom zone) (seat : Seat) :
    (((state.arrived found.owner remaining card zone place position).zones seat).cards
      target).Nodup := by
  rw [zones_arrived]
  by_cases owner : seat = found.owner
  · simp only [owner, if_true]
    by_cases here : target = zone
    · subst here
      have entered := PlayerZones.insert_perm card place room
      rw [entered.nodup_iff, List.nodup_cons]
      refine ⟨?_, lists.nodup_remaining removed⟩
      rw [lists.mem_remaining known removed card]
      simp
    · rw [PlayerZones.insert_cards_of_ne _ place room here]
      exact lists.nodup_remaining removed
  · simp only [owner, if_false]
    exact lists.once seat

/-- A move keeps the lists of every zone right. -/
theorem relocate (lists : state.Lists target)
    (moved : state.relocate card zone place position = .ok (origin, next)) : next.Lists target := by
  obtain ⟨found, remaining, known, _, free, removed, rfl⟩ := relocate_cases moved
  have room : remaining.HasRoom zone := free.remove? removed
  exact ⟨lists.listed_arrived known removed room, lists.once_arrived known removed room⟩

end Lists

end Relocation

namespace Agrees

variable {config : DuelConfig} {state next : GameState} {card : InstanceId}
  {found : CardInstance}

theorem id_eq (agrees : state.Agrees config) (known : state.card? card = some found) :
    found.id = card := Numbered.id_eq agrees.numbered known

theorem card?_id (agrees : state.Agrees config) (member : found ∈ state.cards) :
    state.card? found.id = some found := Numbered.card?_id agrees.numbered member

theorem nodup_ids (agrees : state.Agrees config) : (state.cards.map CardInstance.id).Nodup :=
  Numbered.nodup_ids agrees.numbered

/-- A card is listed in its zone. -/
theorem present (agrees : state.Agrees config) (known : state.card? card = some found) :
    card ∈ (state.zones found.owner).cards found.zone := (agrees.lists found.zone).present known

/-- Where no card moves, the table and the zones agree as before. -/
theorem still {before after : GameState} (agrees : before.Agrees config)
    (still : Still before after) : after.Agrees config := by
  refine ⟨?_, ?_, ?_, ?_, ?_, ?_⟩
  · intro place found present
    obtain ⟨old, knownOld, same⟩ := still.card_at present
    have id : old.id = found.id := congrArg (fun standing => standing.1.id) same
    rw [← id]
    exact agrees.numbered place old knownOld
  · exact fun seat zone => ((agrees.lists zone).still still).listed seat
  · exact fun seat zone => ((agrees.lists zone).still still).once seat
  · intro card found row present given
    obtain ⟨old, knownOld, same⟩ := still.card_at present
    have owner : old.owner = found.owner := congrArg (fun standing => standing.1.owner) same
    have zone : old.zone = found.zone := congrArg (fun standing => standing.2.1) same
    have slot : old.slot = found.slot := congrArg (fun standing => standing.2.2) same
    rw [still.zones, ← owner, ← zone] at given
    rw [← slot]
    exact agrees.inRow card old row knownOld given
  · intro card found present hidden
    obtain ⟨old, knownOld, same⟩ := still.card_at present
    have zone : old.zone = found.zone := congrArg (fun standing => standing.2.1) same
    have slot : old.slot = found.slot := congrArg (fun standing => standing.2.2) same
    rw [← slot]
    exact agrees.inPile card old knownOld (zone ▸ hidden)
  · intro seat zone row given
    rw [still.zones seat] at given
    exact agrees.rows seat zone row given

section Relocation

variable {zone origin : Zone} {place : Place} {position : Position} {remaining : PlayerZones}

/-- A row of the owner after a move keeps its length and every other card in its place. -/
theorem row_arrived (removed : (state.zones found.owner).remove? found.zone card = some remaining)
    (room : remaining.HasRoom zone) {other : Zone} {after : List (Option InstanceId)}
    (given : (remaining.insert zone card place).1.row? other = some after) :
    ∃ before, (state.zones found.owner).row? other = some before ∧
      Row.KeepsOthers card before after := by
  cases start : (state.zones found.owner).row? other with
  | none =>
    have hidden := PlayerZones.row?_eq_none_iff.mp start
    exact absurd (PlayerZones.isField_of_row? given) (by simp [hidden])
  | some before =>
    obtain ⟨middle, midway, first⟩ := PlayerZones.remove?_row removed start
    obtain ⟨last, ending, second⟩ := PlayerZones.insert_row card place room midway
    obtain rfl : last = after := Option.some.inj (ending.symm.trans given)
    exact ⟨before, rfl, first.trans second⟩

/-- After a move every card on the field stands in the place that the table tells. -/
theorem inRow_arrived (agrees : state.Agrees config) (known : state.card? card = some found)
    (removed : (state.zones found.owner).remove? found.zone card = some remaining)
    (room : remaining.HasRoom zone) (other : InstanceId) (entry : CardInstance)
    (row : List (Option InstanceId)) :
    (state.arrived found.owner remaining card zone place position).card? other = some entry →
      ((state.arrived found.owner remaining card zone place position).zones entry.owner).row?
        entry.zone = some row →
        ∃ slot, entry.slot = some slot ∧ row[slot]? = some (some other) := by
  rw [zones_arrived, card?_arrived]
  by_cases own : other = card
  · subst own
    simp only [if_true, known, Option.map_some, Option.some.injEq]
    rintro rfl given
    simp only [CardInstance.owner_relocate, if_true, CardInstance.zone_relocate] at given
    have field := PlayerZones.isField_of_row? given
    obtain ⟨held, slot, told, holds, stands⟩ :=
      PlayerZones.insert_slot other place room field
    obtain rfl : held = row := Option.some.inj (holds.symm.trans given)
    exact ⟨slot, by simp [field, told], stands⟩
  · simp only [own, if_false]
    intro knownOther given
    by_cases owner : entry.owner = found.owner
    · simp only [owner, if_true] at given
      obtain ⟨before, start, kept⟩ := row_arrived removed room given
      rw [← owner] at start
      obtain ⟨slot, told, stands⟩ := agrees.inRow other entry before knownOther start
      exact ⟨slot, told, kept.2 slot other own stands⟩
    · simp only [owner, if_false] at given
      exact agrees.inRow other entry row knownOther given

/-- A move keeps the table and the zones in agreement. -/
theorem relocate (agrees : state.Agrees config)
    (moved : state.relocate card zone place position = .ok (origin, next)) :
    next.Agrees config := by
  have identities := relocate_identities moved
  obtain ⟨found, remaining, known, _, free, removed, rfl⟩ := relocate_cases moved
  have room : remaining.HasRoom zone := free.remove? removed
  refine ⟨?_, fun seat target => ((agrees.lists target).relocate moved).listed seat,
    fun seat target => ((agrees.lists target).relocate moved).once seat,
    agrees.inRow_arrived known removed room, ?_, ?_⟩
  · intro index entry present
    have same := congrArg (fun identities => identities[index]?) identities
    simp only [List.getElem?_map, present, Option.map_some] at same
    obtain ⟨old, knownOld, equal⟩ := Option.map_eq_some_iff.mp same.symm
    have id : old.id = entry.id := congrArg CardIdentity.id equal
    rw [← id]
    exact agrees.numbered index old knownOld
  · intro other entry
    rw [card?_arrived]
    by_cases own : other = card
    · subst own
      simp only [if_true, known, Option.map_some, Option.some.injEq]
      rintro rfl hidden
      simp only [CardInstance.zone_relocate] at hidden
      simp [hidden]
    · simp only [own, if_false]
      exact agrees.inPile other entry
  · intro seat target row
    rw [zones_arrived]
    by_cases owner : seat = found.owner
    · simp only [owner, if_true]
      intro given
      obtain ⟨before, start, kept⟩ := row_arrived removed room given
      exact kept.1.trans (agrees.rows found.owner target before start)
    · simp only [owner, if_false]
      exact agrees.rows seat target row

end Relocation

end Agrees

end GameState

end CardDuel
