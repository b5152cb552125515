/-
This file tells what a sweep makes of the zones: every marked card leaves its row for the top of its owner's
graveyard, in the order of the table, and all else stays where it lies.
-/

import CardDuel.Proofs.Flow.Sweep

namespace CardDuel

/-- This is a row in which the places of some cards were emptied. -/
def cleared (fallen : List InstanceId) (row : List (Option InstanceId)) : List (Option InstanceId) :=
  row.map fun place => place.filter fun card => !fallen.contains card

section Cleared

variable {fallen : List InstanceId} {row : List (Option InstanceId)} {card : InstanceId}

/-- A row without the fallen cards is cleared of nothing. -/
theorem cleared_of_absent (absent : ∀ card ∈ fallen, some card ∉ row) : cleared fallen row = row := by
  refine (List.map_congr_left ?_).trans (List.map_id row)
  intro place member
  cases place with
  | none => rfl
  | some card =>
    have stays : card ∉ fallen := fun falls => absent card falls member
    simp [Option.filter, stays]

/-- A row that is cleared of one card and then of others is cleared of all of them. -/
theorem cleared_cleared (row : List (Option InstanceId)) (card : InstanceId)
    (fallen : List InstanceId) : cleared fallen (cleared [card] row) = cleared (card :: fallen) row := by
  rw [cleared, cleared, List.map_map]
  apply List.map_congr_left
  intro place _
  cases place with
  | none => rfl
  | some other => by_cases same : other = card <;> simp [Option.filter, same]

/-- To empty the place of a card that stands once in a row is to clear the row of the card. -/
theorem set_none_eq_cleared (once : (row.filterMap id).Nodup) {slot : Nat}
    (there : row[slot]? = some (some card)) : row.set slot none = cleared [card] row := by
  induction row generalizing slot with
  | nil => simp at there
  | cons place rest ih =>
    cases slot with
    | zero =>
      obtain rfl : place = some card := by simpa using there
      have alone : card ∉ rest.filterMap id := (List.nodup_cons.mp once).1
      have absent : cleared [card] rest = rest := cleared_of_absent fun other falls member => by
        obtain rfl := List.mem_singleton.mp falls
        exact alone (List.mem_filterMap.mpr ⟨_, member, rfl⟩)
      rw [List.set_cons_zero, cleared, List.map_cons]
      exact congrArg₂ List.cons (by simp [Option.filter]) absent.symm
    | succ slot =>
      have later : rest[slot]? = some (some card) := by simpa using there
      have member : card ∈ rest.filterMap id :=
        List.mem_filterMap.mpr ⟨_, List.mem_of_getElem? later, rfl⟩
      have others : (rest.filterMap id).Nodup := by
        cases place with
        | none => exact once
        | some other => exact (List.nodup_cons.mp once).2
      rw [List.set_cons_succ, ih others later, cleared, cleared, List.map_cons]
      refine congrArg₂ List.cons ?_ rfl
      cases place with
      | none => rfl
      | some other =>
        have different : other ≠ card := fun same => (List.nodup_cons.mp once).1 (same ▸ member)
        simp [Option.filter, different]

end Cleared

namespace PlayerZones

/-- These are the zones of a player after those of some cards that are on the field were buried one by one. -/
def bury (zones : PlayerZones) (fallen : List InstanceId) : PlayerZones :=
  { zones with
    monsters := cleared fallen zones.monsters
    spells := cleared fallen zones.spells
    graveyard := zones.graveyard ++ fallen.filter fun card => card ∈ zones.field }

variable {zones : PlayerZones} {card : InstanceId} {fallen : List InstanceId}

theorem mem_cards_monsters : card ∈ zones.cards .monsters ↔ some card ∈ zones.monsters := by
  simp [cards]

theorem mem_cards_spells : card ∈ zones.cards .spells ↔ some card ∈ zones.spells := by
  simp [cards]

/-- Zones without the fallen cards bury nothing. -/
theorem bury_of_absent (absent : ∀ card ∈ fallen, card ∉ zones.field) : zones.bury fallen = zones := by
  have monsters : cleared fallen zones.monsters = zones.monsters :=
    cleared_of_absent fun card falls member =>
      absent card falls (List.mem_append_left _ (mem_cards_monsters.mpr member))
  have spells : cleared fallen zones.spells = zones.spells :=
    cleared_of_absent fun card falls member =>
      absent card falls (List.mem_append_right _ (mem_cards_spells.mpr member))
  have none : fallen.filter (fun card => card ∈ zones.field) = [] :=
    List.filter_eq_nil_iff.mpr fun card falls => by simpa using absent card falls
  rw [bury, monsters, spells, none, List.append_nil]

/-- A card that did not fall stays on the field. -/
theorem mem_field_bury {other : InstanceId} (different : other ∉ fallen) :
    other ∈ (zones.bury fallen).field ↔ other ∈ zones.field := by
  have same (row : List (Option InstanceId)) : some other ∈ cleared fallen row ↔ some other ∈ row := by
    simp [cleared, different]
  rw [field, field, List.mem_append, List.mem_append, mem_cards_monsters, mem_cards_monsters,
    mem_cards_spells, mem_cards_spells]
  exact or_congr (same zones.monsters) (same zones.spells)

/-- To bury several cards is to bury them one after the other. -/
theorem bury_cons (new : card ∉ fallen) : (zones.bury [card]).bury fallen = zones.bury (card :: fallen) := by
  have later : fallen.filter (fun other => other ∈ (zones.bury [card]).field) =
      fallen.filter fun other => other ∈ zones.field := by
    apply List.filter_congr
    intro other falls
    have different : other ∉ [card] := fun same => new (List.mem_singleton.mp same ▸ falls)
    exact decide_eq_decide.mpr (mem_field_bury different)
  have graves : (zones.bury [card]).graveyard ++ fallen.filter (fun other => other ∈ zones.field) =
      zones.graveyard ++ (card :: fallen).filter fun other => other ∈ zones.field := by
    rw [bury, List.append_assoc, ← List.filter_append, List.singleton_append]
  rw [bury, later, graves]
  simp only [bury, cleared_cleared]

/-- A card that leaves its only place on the field for the graveyard is buried. -/
theorem insert_graveyard_of_remove? {zone : Zone} {remaining : PlayerZones}
    (removed : zones.remove? zone card = some remaining) (onField : zone.isField = true)
    (once : (zones.cards zone).Nodup) (only : ∀ other ≠ zone, card ∉ zones.cards other) :
    (remaining.insert .graveyard card .top).1 = zones.bury [card] := by
  have held : card ∈ zones.cards zone :=
    (remove?_perm removed).mem_iff.mpr (List.mem_cons_self ..)
  have listed : card ∈ zones.field := by
    cases zone with
    | monsters => exact List.mem_append_left _ held
    | spells => exact List.mem_append_right _ held
    | deck | hand | graveyard | banished => cases onField
  have still {row : List (Option InstanceId)} (absent : some card ∉ row) : cleared [card] row = row :=
    cleared_of_absent fun other falls => List.mem_singleton.mp falls ▸ absent
  obtain ⟨row, slot, given, there, rfl⟩ | ⟨pile, _⟩ := remove?_cases removed
  · cases zone with
    | monsters =>
      obtain rfl : zones.monsters = row := Option.some.inj given
      have spells := still fun member => only .spells (by decide) (mem_cards_spells.mpr member)
      rw [set_none_eq_cleared once there, bury, spells]
      simp [insert, row?, setRow, setPile, cards, listed]
    | spells =>
      obtain rfl : zones.spells = row := Option.some.inj given
      have monsters := still fun member => only .monsters (by decide) (mem_cards_monsters.mpr member)
      rw [set_none_eq_cleared once there, bury, monsters]
      simp [insert, row?, setRow, setPile, cards, listed]
    | deck | hand | graveyard | banished => cases onField
  · rw [onField] at pile
    cases pile

end PlayerZones

namespace GameState

variable {state next : GameState} {catalog : Catalog} {card : InstanceId} {found : CardInstance}

/-- In a consistent state the field of a player holds exactly the player's cards on the field. -/
theorem Consistent.mem_field_iff (consistent : state.Consistent) {seat : Seat} :
    card ∈ (state.zones seat).field ↔
      ∃ found, state.card? card = some found ∧ found.owner = seat ∧ found.isOnField = true := by
  rw [PlayerZones.field, List.mem_append, (consistent.lists _).listed, (consistent.lists _).listed]
  constructor
  · rintro (⟨found, known, own, zone⟩ | ⟨found, known, own, zone⟩)
    · exact ⟨found, known, own, by rw [CardInstance.isOnField, zone]; rfl⟩
    · exact ⟨found, known, own, by rw [CardInstance.isOnField, zone]; rfl⟩
  · rintro ⟨found, known, own, field⟩
    rw [CardInstance.isOnField] at field
    cases zone : found.zone with
    | monsters => exact .inl ⟨found, known, own, zone⟩
    | spells => exact .inr ⟨found, known, own, zone⟩
    | deck | hand | graveyard | banished =>
      rw [zone] at field
      cases field

/-- A card of the field that goes to the graveyard leaves an empty place. -/
theorem zones_of_burial (consistent : state.Consistent) {origin : Zone} {position : Position}
    (known : state.card? card = some found) (field : found.isOnField = true)
    (moved : state.relocate card .graveyard .top position = .ok (origin, next)) (seat : Seat) :
    next.zones seat = (state.zones seat).bury [card] := by
  obtain ⟨same, remaining, knownToo, _, _, removed, rfl⟩ := relocate_cases moved
  obtain rfl := Option.some.inj (known.symm.trans knownToo)
  rw [zones_arrived]
  split
  · next own =>
    subst own
    refine PlayerZones.insert_graveyard_of_remove? removed field ((consistent.lists _).once _) ?_
    intro zone different member
    obtain ⟨same, there, _, rfl⟩ := ((consistent.lists zone).listed found.owner card).mp member
    obtain rfl := Option.some.inj (known.symm.trans there)
    exact different rfl
  · next other =>
    refine (PlayerZones.bury_of_absent ?_).symm
    intro buried falls member
    obtain rfl := List.mem_singleton.mp falls
    obtain ⟨same, there, own, _⟩ := consistent.mem_field_iff.mp member
    obtain rfl := Option.some.inj (known.symm.trans there)
    exact other own.symm

/-- In a state with numbered cards a mark is named by the card that bears it. -/
theorem mem_marked (numbered : state.Numbered) {entry : InstanceId × Destruction}
    (marked : entry ∈ state.marked) :
    ∃ found, state.card? entry.1 = some found ∧ found.mark? = some entry.2 := by
  rw [marked_eq] at marked
  obtain ⟨found, member, named⟩ := List.mem_filterMap.mp marked
  obtain ⟨cause, mark, rfl⟩ := Option.map_eq_some_iff.mp named
  exact ⟨found, numbered.card?_id member, mark⟩

/-- The marks name the cards that bear them, in the order of the table. -/
theorem marked_ids (state : GameState) : state.marked.map Prod.fst =
    (state.cards.filter fun card => card.mark?.isSome).map CardInstance.id := by
  rw [marked_eq]
  induction state.cards with
  | nil => rfl
  | cons card rest ih =>
    cases mark : card.mark? with
    | none => simpa [List.filterMap_cons, mark] using ih
    | some cause => simpa [List.filterMap_cons, mark] using ih

/-- The destruction of the marked cards buries them in the order of the table. -/
theorem zones_foldl_destroyMarked {entries : List (InstanceId × Destruction)}
    (consistent : state.Consistent) (given : state.marked = entries) (seat : Seat) :
    (entries.foldl destroyMarked state).zones seat =
      (state.zones seat).bury (entries.map Prod.fst) := by
  induction entries generalizing state with
  | nil => exact (PlayerZones.bury_of_absent fun _ none => by cases none).symm
  | cons entry rest ih =>
    have once : (entry.1 :: rest.map Prod.fst).Nodup := by
      rw [← List.map_cons, ← given, marked_ids]
      exact consistent.numbered.nodup_ids.sublist (List.filter_sublist.map CardInstance.id)
    obtain ⟨found, known, mark⟩ := mem_marked consistent.numbered (given ▸ List.mem_cons_self ..)
    have field : found.isOnField = true := by
      by_contra away
      rw [CardInstance.mark?, if_neg away] at mark
      cases mark
    obtain ⟨next, moved⟩ : ∃ next, state.relocate entry.1 .graveyard .top .faceUp =
        .ok (found.zone, next) :=
      relocate_ok known ((consistent.lists _).present known) fun pile => by cases pile
    have first : (state.destroyMarked entry).zones seat = (state.zones seat).bury [entry.1] := by
      rw [destroyMarked, moved]
      exact zones_of_burial consistent known field moved seat
    rw [List.foldl_cons, ih ((state.destroyMarked_shifts entry).consistent consistent)
      (marked_destroyMarked consistent given), first]
    exact PlayerZones.bury_cons (List.nodup_cons.mp once).1

/-- A sweep buries the marked cards in the order of the table, and every other card stays in its zone. -/
theorem zones_sweep (consistent : state.Consistent) (catalog : Catalog) (seat : Seat) :
    (state.sweep catalog).zones seat = (state.zones seat).bury (state.marked.map Prod.fst) := by
  have fresh : (state.refresh catalog).Consistent :=
    (Shifts.of_still (.refresh state catalog)).consistent consistent
  rw [sweep, (Still.checkLoss _).zones, destroyAllMarked_eq consistent.clearable,
    (Still.refresh _ catalog).zones, razedRound,
    zones_foldl_destroyMarked fresh rfl, marked_refresh, (Still.refresh state catalog).zones]

end GameState

end CardDuel
