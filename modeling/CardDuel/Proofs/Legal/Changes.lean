/-
This file shows that changes which were checked before cannot fail: any card can go to the graveyard,
and a tribute leaves a place for the monster that follows it.
-/

import CardDuel.Proofs.Dispatch
import CardDuel.Proofs.Table.Play

namespace CardDuel

namespace GameState

variable {state next : GameState} {config : DuelConfig} {seat : Seat} {card : InstanceId}
  {found : CardInstance} {zone : Zone}

/-- Every card stays on the table and stays the same card. -/
theorem Shifts.card_at {before after : GameState} (shifts : Shifts before after)
    (known : before.card? card = some found) :
    ∃ kept, after.card? card = some kept ∧ kept.identity = found.identity := by
  have same := congrArg (fun identities => identities[card.index]?) shifts.identities
  have present : before.cards[card.index]? = some found := known
  simp only [List.getElem?_map, present, Option.map_some] at same
  exact Option.map_eq_some_iff.mp same

/-- Several changes are made exactly when a first part and then the others are. -/
theorem applyChanges_append {first others : List Change} :
    state.applyChanges (first ++ others) = .ok next ↔
      ∃ middle, state.applyChanges first = .ok middle ∧ middle.applyChanges others = .ok next := by
  rw [applyChanges, List.foldlM_append, bind_eq_ok]
  exact Iff.rfl

theorem applyChanges_singleton {change : Change} :
    state.applyChanges [change] = .ok next ↔ state.applyChange change = .ok next := by
  simp [applyChanges]

/-! Single changes -/

/-- Going to the graveyard is a move, and it is told. -/
theorem toGraveyard_eq_ok : state.applyChange (.toGraveyard card) = .ok next ↔
    ∃ origin middle, state.relocate card .graveyard .top (.inPile .graveyard) = .ok (origin, middle) ∧
      middle.record (.cardMoved card origin .graveyard) = next := by
  simp only [applyChange, mapError_eq_ok, Change.toGraveyard, Change.apply, bind_eq_ok, pure_eq_ok,
    Prod.exists]

/-- A card that its zone lists can go to the graveyard. -/
theorem toGraveyard_ok (lists : state.Lists found.zone) (known : state.card? card = some found) :
    ∃ next, state.applyChange (.toGraveyard card) = .ok next := by
  have moved : ∃ middle, state.relocate card .graveyard .top (.inPile .graveyard) =
      .ok (found.zone, middle) :=
    relocate_ok known (lists.present known) fun field => by simp [Zone.isField] at field
  obtain ⟨middle, moved⟩ := moved
  exact ⟨_, toGraveyard_eq_ok.mpr ⟨_, middle, moved, rfl⟩⟩

section Single

variable (agrees : state.Agrees config) (known : state.card? card = some found)
include agrees known

/-- A monster can be summoned to a row with room. -/
theorem summon_ok (monster : found.isMonster = true)
    (room : (state.zones found.owner).HasRoom .monsters) (position : Position)
    (kind : SummonKind) : ∃ next, state.applyChange (.summon card position kind) = .ok next := by
  have moved : ∃ middle, state.relocate card .monsters .top position = .ok (found.zone, middle) :=
    relocate_ok known (agrees.present known) room
  obtain ⟨middle, moved⟩ := moved
  simp only [applyChange, mapError_eq_ok, Change.apply, bind_eq_ok, pure_eq_ok, guard_eq_ok,
    requireCard_eq_ok]
  exact ⟨_, found, known, by simp [monster], _, moved, rfl⟩

/-- A monster can be set in a row with room. -/
theorem setMonster_ok (room : (state.zones found.owner).HasRoom .monsters) :
    ∃ next, state.applyChange (.setMonster card) = .ok next := by
  have moved : ∃ middle, state.relocate card .monsters .top .faceDownDefense =
      .ok (found.zone, middle) := relocate_ok known (agrees.present known) room
  obtain ⟨middle, moved⟩ := moved
  simp only [applyChange, mapError_eq_ok, Change.apply, bind_eq_ok, pure_eq_ok, requireCard_eq_ok]
  exact ⟨_, found, known, _, moved, rfl⟩

/-- A spell or trap can be placed in a row with room. -/
theorem placeSpell_ok (room : (state.zones found.owner).HasRoom .spells) (faceUp : Bool) :
    ∃ next, state.applyChange (.placeSpell card faceUp) = .ok next := by
  have moved : ∃ middle, state.relocate card .spells .top
      (if faceUp then .faceUp else .faceDown) = .ok (found.zone, middle) :=
    relocate_ok known (agrees.present known) room
  obtain ⟨middle, moved⟩ := moved
  simp only [applyChange, mapError_eq_ok, Change.apply, bind_eq_ok, pure_eq_ok, requireCard_eq_ok]
  exact ⟨_, found, known, _, moved, rfl⟩

omit agrees in
/-- A card of the field can be turned. -/
theorem changePosition_ok (standing : found.isOnField = true) (position : Position) :
    ∃ next, state.applyChange (.changePosition card position) = .ok next := by
  simp only [applyChange, mapError_eq_ok, Change.apply, bind_eq_ok, pure_eq_ok, onField_eq_ok]
  exact ⟨_, _, ⟨found, known, standing, rfl⟩, rfl⟩

end Single

/-! Cards that go to the graveyard -/

/-- Going to the graveyard is leaving one zone and entering one pile. -/
theorem toGraveyard_zones (made : state.applyChange (.toGraveyard card) = .ok next) :
    ∃ found remaining, state.card? card = some found ∧
      (state.zones found.owner).remove? found.zone card = some remaining ∧
      ∀ seat, next.zones seat = if seat = found.owner
        then (remaining.insert .graveyard card .top).1 else state.zones seat := by
  obtain ⟨_, middle, moved, rfl⟩ := toGraveyard_eq_ok.mp made
  obtain ⟨found, remaining, known, _, _, removed, rfl⟩ := relocate_cases moved
  refine ⟨found, remaining, known, removed, ?_⟩
  intro seat
  rw [zones_record, zones_arrived]

/-- A card that goes to the graveyard leaves all room as it was. -/
theorem toGraveyard_room (made : state.applyChange (.toGraveyard card) = .ok next)
    (room : (state.zones seat).HasRoom zone) : (next.zones seat).HasRoom zone := by
  obtain ⟨found, remaining, _, removed, zones⟩ := toGraveyard_zones made
  rw [zones]
  by_cases own : seat = found.owner
  · rw [if_pos own]
    rw [own] at room
    exact (room.remove? removed).insert card .top rfl
  · rw [if_neg own]
    exact room

/-- A card that went to the graveyard left a place in its row. -/
theorem toGraveyard_frees (made : state.applyChange (.toGraveyard card) = .ok next)
    (known : state.card? card = some found) : (next.zones found.owner).HasRoom found.zone := by
  obtain ⟨other, remaining, knownToo, removed, zones⟩ := toGraveyard_zones made
  obtain rfl : found = other := Option.some.inj (known.symm.trans knownToo)
  rw [zones, if_pos rfl]
  exact (PlayerZones.hasRoom_of_remove? removed).insert card .top rfl

/-- Known cards can go to the graveyard one after the other. -/
theorem toGraveyards_ok (agrees : state.Agrees config) {cards : List InstanceId}
    (known : ∀ card ∈ cards, ∃ found, state.card? card = some found) :
    ∃ next, state.applyChanges (cards.map .toGraveyard) = .ok next := by
  induction cards generalizing state with
  | nil => exact ⟨state, rfl⟩
  | cons card rest ih =>
    obtain ⟨found, here⟩ := known card List.mem_cons_self
    obtain ⟨middle, made⟩ := toGraveyard_ok (agrees.lists _) here
    have shifts := (applyChange_edits made).shifts
    have kept : ∀ other ∈ rest, ∃ found, middle.card? other = some found := by
      intro other member
      obtain ⟨old, knownOld⟩ := known other (List.mem_cons_of_mem card member)
      obtain ⟨same, knownNow, _⟩ := shifts.card_at knownOld
      exact ⟨same, knownNow⟩
    obtain ⟨next, others⟩ := ih (shifts.agrees agrees) kept
    refine ⟨next, ?_⟩
    simp only [applyChanges, List.map_cons, List.foldlM_cons, bind_eq_ok]
    exact ⟨middle, made, others⟩

theorem toGraveyards_room {cards : List InstanceId}
    (made : state.applyChanges (cards.map .toGraveyard) = .ok next)
    (room : (state.zones seat).HasRoom zone) : (next.zones seat).HasRoom zone := by
  induction cards generalizing state with
  | nil =>
    obtain rfl : state = next := by simpa [applyChanges, pure_eq_ok] using made
    exact room
  | cons card rest ih =>
    simp only [applyChanges, List.map_cons, List.foldlM_cons, bind_eq_ok] at made
    obtain ⟨middle, first, others⟩ := made
    exact ih others (toGraveyard_room first room)

/-- Tributes leave a place in the row in which they stood. -/
theorem tributes_room {tributes : List InstanceId} (some : tributes ≠ [])
    (standing : ∀ tribute ∈ tributes, ∃ found, state.card? tribute = .some found ∧
      found.owner = seat ∧ found.zone = zone)
    (made : state.applyChanges (tributes.map .toGraveyard) = .ok next) :
    (next.zones seat).HasRoom zone := by
  cases tributes with
  | nil => exact absurd rfl some
  | cons tribute rest =>
    obtain ⟨found, known, rfl, rfl⟩ := standing tribute List.mem_cons_self
    simp only [applyChanges, List.map_cons, List.foldlM_cons, bind_eq_ok] at made
    obtain ⟨middle, first, others⟩ := made
    exact toGraveyards_room others (toGraveyard_frees first known)

end GameState

end CardDuel
