/-
This file says what putting a card into the zones of a player and taking it out does to the lists of
the zones: one zone gains or loses this card, and no other card moves.
-/

import CardDuel.Zone.Table
import Mathlib.Data.List.Basic

namespace CardDuel

/-! Rows -/

namespace Row

/-- This tells that all cards but one stand where they stood. -/
def KeepsOthers (card : InstanceId) (before after : List (Option InstanceId)) : Prop :=
  after.length = before.length ∧
    ∀ (slot : Nat) (other : InstanceId), other ≠ card →
      before[slot]? = some (some other) → after[slot]? = some (some other)

theorem KeepsOthers.refl (card : InstanceId) (row : List (Option InstanceId)) :
    KeepsOthers card row row := ⟨rfl, fun _ _ _ stands => stands⟩

theorem KeepsOthers.trans {card : InstanceId} {before middle after : List (Option InstanceId)}
    (first : KeepsOthers card before middle) (second : KeepsOthers card middle after) :
    KeepsOthers card before after :=
  ⟨second.1.trans first.1, fun slot other different stands =>
    second.2 slot other different (first.2 slot other different stands)⟩

/-- Only the card in a place is affected by what is written there. -/
theorem KeepsOthers.set {card : InstanceId} {row : List (Option InstanceId)} {slot : Nat}
    {held : Option InstanceId} (value : Option InstanceId) (present : row[slot]? = some held)
    (own : ∀ other, held = some other → other = card) :
    KeepsOthers card row (row.set slot value) := by
  refine ⟨List.length_set, ?_⟩
  intro place other different stands
  by_cases same : slot = place
  · subst place
    rw [present] at stands
    exact absurd (own other (Option.some.inj stands)) different
  · rw [List.getElem?_set_ne same]
    exact stands

/-- A card in a free place is added to the cards of its row. -/
theorem perm_set_some {row : List (Option InstanceId)} {slot : Nat} (card : InstanceId)
    (free : row[slot]? = some none) :
    ((row.set slot (some card)).filterMap id).Perm (card :: row.filterMap id) := by
  induction row generalizing slot with
  | nil => simp at free
  | cons head rest ih =>
    cases slot with
    | zero =>
      obtain rfl : head = none := by simpa using free
      simp
    | succ slot =>
      have inner := ih (by simpa using free)
      cases head with
      | none => simpa using inner
      | some other => simpa using (inner.cons other).trans (.swap card other _)

/-- A card that leaves its place is lost to the cards of its row. -/
theorem perm_set_none {row : List (Option InstanceId)} {slot : Nat} {card : InstanceId}
    (taken : row[slot]? = some (some card)) :
    (row.filterMap id).Perm (card :: (row.set slot none).filterMap id) := by
  obtain ⟨inside, stands⟩ := List.getElem?_eq_some_iff.mp taken
  have freed : (row.set slot none)[slot]? = some none := by simp [inside]
  have restored : (row.set slot none).set slot (some card) = row := by
    rw [List.set_set, ← stands]
    exact List.set_getElem_self inside
  simpa [restored] using perm_set_some card freed

end Row

namespace PlayerZones

variable {zones filled remaining : PlayerZones} {zone other : Zone} {card : InstanceId}

/-! Lists of zones -/

/-- The zones without a row are those outside the field. -/
theorem row?_eq_none_iff : zones.row? zone = none ↔ zone.isField = false := by
  cases zone <;> simp [row?, Zone.isField]

/-- A zone with a row is on the field. -/
theorem isField_of_row? {row : List (Option InstanceId)} (given : zones.row? zone = some row) :
    zone.isField = true := by
  cases zone <;> simp [row?, Zone.isField] at given ⊢

/-- The cards of a zone with a row are the cards in its places. -/
theorem cards_of_row? {row : List (Option InstanceId)} (given : zones.row? zone = some row) :
    zones.cards zone = row.filterMap id := by
  cases zone <;> simp [row?] at given <;> simp [cards, given]

/-- A written row is read back. -/
theorem row?_setRow_self (row : List (Option InstanceId)) (field : zone.isField = true) :
    (zones.setRow zone row).row? zone = some row := by
  cases zone <;> simp [Zone.isField] at field <;> rfl

/-- A written row changes no other row. -/
theorem row?_setRow_of_ne (row : List (Option InstanceId)) (different : other ≠ zone) :
    (zones.setRow zone row).row? other = zones.row? other := by
  cases zone <;> cases other <;> simp_all [setRow, row?]

/-- A written row changes no other zone. -/
theorem cards_setRow_of_ne (row : List (Option InstanceId)) (different : other ≠ zone) :
    (zones.setRow zone row).cards other = zones.cards other := by
  cases zone <;> cases other <;> simp_all [setRow, cards]

/-- A written pile is read back. -/
theorem cards_setPile_self (pile : List InstanceId) (hidden : zone.isField = false) :
    (zones.setPile zone pile).cards zone = pile := by
  cases zone <;> simp [Zone.isField] at hidden <;> rfl

/-- A written pile changes no other zone. -/
theorem cards_setPile_of_ne (pile : List InstanceId) (different : other ≠ zone) :
    (zones.setPile zone pile).cards other = zones.cards other := by
  cases zone <;> cases other <;> simp_all [setPile, cards]

/-- A written pile changes no row. -/
theorem row?_setPile (pile : List InstanceId) :
    (zones.setPile zone pile).row? other = zones.row? other := by
  cases zone <;> cases other <;> rfl

/-! Taking a card out -/

/-- Taking a card out means to empty its place in a row, or to erase it from a pile. -/
theorem remove?_cases (removed : zones.remove? zone card = some remaining) :
    (∃ row slot, zones.row? zone = some row ∧ row[slot]? = some (some card) ∧
      remaining = zones.setRow zone (row.set slot none)) ∨
    (zone.isField = false ∧ card ∈ zones.cards zone ∧
      remaining = zones.setPile zone ((zones.cards zone).erase card)) := by
  rw [remove?] at removed
  split at removed
  · next row given =>
    obtain ⟨slot, found, rfl⟩ := Option.map_eq_some_iff.mp removed
    obtain ⟨inside, stands, _⟩ := List.findIdx?_eq_some_iff_getElem.mp found
    exact .inl ⟨row, slot, given, by simpa [inside] using stands, rfl⟩
  · next pile =>
    split at removed
    · next contained =>
      exact .inr ⟨row?_eq_none_iff.mp pile, by simpa [contains] using contained,
        (Option.some.inj removed).symm⟩
    · simp at removed

/-- A card that is in a zone can be removed from it. -/
theorem remove?_isSome (present : card ∈ zones.cards zone) :
    ∃ remaining, zones.remove? zone card = some remaining := by
  rw [remove?]
  split
  · next row given =>
    rw [cards_of_row? given] at present
    have listed : some card ∈ row := by simpa using present
    cases found : row.idxOf? (some card) with
    | none => exact absurd listed (List.idxOf?_eq_none_iff.mp found)
    | some slot => exact ⟨_, rfl⟩
  · exact ⟨_, by rw [if_pos (by simpa [contains] using present)]⟩

/-- A removed card is lost to its zone, and nothing else. -/
theorem remove?_perm (removed : zones.remove? zone card = some remaining) :
    (zones.cards zone).Perm (card :: remaining.cards zone) := by
  obtain ⟨row, slot, given, taken, rfl⟩ | ⟨pile, present, rfl⟩ := remove?_cases removed
  · rw [cards_of_row? given, cards_of_row? (row?_setRow_self _ (isField_of_row? given))]
    exact Row.perm_set_none taken
  · rw [cards_setPile_self _ pile]
    exact List.perm_cons_erase present

/-- A removed card changes no other zone. -/
theorem remove?_cards_of_ne (removed : zones.remove? zone card = some remaining)
    (different : other ≠ zone) : remaining.cards other = zones.cards other := by
  obtain ⟨_, _, _, _, rfl⟩ | ⟨_, _, rfl⟩ := remove?_cases removed
  · exact cards_setRow_of_ne _ different
  · exact cards_setPile_of_ne _ different

/-- A removed card changes nothing but its own place in any row. -/
theorem remove?_row (removed : zones.remove? zone card = some remaining)
    {before : List (Option InstanceId)} (given : zones.row? other = some before) :
    ∃ after, remaining.row? other = some after ∧ Row.KeepsOthers card before after := by
  obtain ⟨row, slot, own, taken, rfl⟩ | ⟨_, _, rfl⟩ := remove?_cases removed
  · by_cases same : other = zone
    · subst other
      obtain rfl : before = row := Option.some.inj (given.symm.trans own)
      refine ⟨_, row?_setRow_self _ (isField_of_row? own), .set none taken ?_⟩
      intro held stands
      exact (Option.some.inj stands).symm
    · exact ⟨before, (row?_setRow_of_ne _ same).trans given, .refl card before⟩
  · exact ⟨before, (row?_setPile _).trans given, .refl card before⟩

/-! Putting a card in -/

def HasRoom (zones : PlayerZones) (zone : Zone) : Prop :=
  zone.isField = true → ((zones.freeSlot? zone).isSome = true)

/-- The slot that is found is free. -/
theorem freeSlot?_eq_some {row : List (Option InstanceId)} {slot : Nat}
    (given : zones.row? zone = some row) (found : zones.freeSlot? zone = some slot) :
    row[slot]? = some none := by
  rw [freeSlot?, given, Option.bind_some] at found
  obtain ⟨inside, free, _⟩ := List.findIdx?_eq_some_iff_getElem.mp found
  rw [List.getElem?_eq_getElem inside]
  exact congrArg some (Option.isNone_iff_eq_none.mp free)

/-- A free slot is found as long as there is one. -/
theorem freeSlot?_isSome_iff {row : List (Option InstanceId)}
    (given : zones.row? zone = some row) :
    (zones.freeSlot? zone).isSome = true ↔ none ∈ row := by
  rw [freeSlot?, given, Option.bind_some, List.findIdx?_isSome, List.any_eq_true]
  simp

/-- Taking a card out leaves every empty place empty. -/
theorem HasRoom.remove? (room : zones.HasRoom other)
    (removed : zones.remove? zone card = some remaining) : remaining.HasRoom other := by
  intro field
  have free := room field
  obtain ⟨row, slot, own, taken, rfl⟩ | ⟨_, _, rfl⟩ := remove?_cases removed
  · by_cases same : other = zone
    · subst other
      rw [freeSlot?_isSome_iff (row?_setRow_self _ field)]
      exact List.mem_of_getElem? (i := slot)
        (by simp [(List.getElem?_eq_some_iff.mp taken).1])
    · rw [freeSlot?, row?_setRow_of_ne _ same]
      exact free
  · rw [freeSlot?, row?_setPile]
    exact free

/-- Taking a card out of a row makes room in it. -/
theorem hasRoom_of_remove? (removed : zones.remove? zone card = some remaining) :
    remaining.HasRoom zone := by
  intro field
  obtain ⟨row, slot, own, taken, rfl⟩ | ⟨pile, _, rfl⟩ := remove?_cases removed
  · rw [freeSlot?_isSome_iff (row?_setRow_self _ field)]
    exact List.mem_of_getElem? (i := slot) (by simp [(List.getElem?_eq_some_iff.mp taken).1])
  · simp [field] at pile

/-- Putting a card in means to fill an empty place of a row, or to extend a pile. -/
theorem insert_cases (card : InstanceId) (place : Place) (room : zones.HasRoom zone) :
    (∃ row slot, zones.row? zone = some row ∧ row[slot]? = some none ∧
      zones.insert zone card place = (zones.setRow zone (row.set slot (some card)), some slot)) ∨
    (zone.isField = false ∧ ∃ pile slot, pile.Perm (card :: zones.cards zone) ∧
      zones.insert zone card place = (zones.setPile zone pile, some slot)) := by
  rw [insert.eq_def]
  split
  · next row given =>
    obtain ⟨slot, found⟩ := Option.isSome_iff_exists.mp (room (isField_of_row? given))
    rw [found]
    exact .inl ⟨row, slot, given, freeSlot?_eq_some given found, rfl⟩
  · next given =>
    refine .inr ⟨row?_eq_none_iff.mp given, ?_⟩
    cases place with
    | top => exact ⟨_, _, List.perm_append_singleton card _, rfl⟩
    | bottom => exact ⟨_, _, .refl _, rfl⟩

/-- A card that is put into a zone with room is added to it, and nothing else. -/
theorem insert_perm (card : InstanceId) (place : Place) (room : zones.HasRoom zone) :
    ((zones.insert zone card place).1.cards zone).Perm (card :: zones.cards zone) := by
  obtain ⟨row, slot, given, free, same⟩ | ⟨hidden, pile, slot, shuffled, same⟩ :=
    insert_cases card place room
  · rw [same, cards_of_row? given, cards_of_row? (row?_setRow_self _ (isField_of_row? given))]
    exact Row.perm_set_some card free
  · rw [same, cards_setPile_self _ hidden]
    exact shuffled

/-- A card that is put into a zone changes no other zone. -/
theorem insert_cards_of_ne (card : InstanceId) (place : Place) (room : zones.HasRoom zone)
    (different : other ≠ zone) :
    (zones.insert zone card place).1.cards other = zones.cards other := by
  obtain ⟨_, _, _, _, same⟩ | ⟨_, _, _, _, same⟩ := insert_cases card place room
  · rw [same]
    exact cards_setRow_of_ne _ different
  · rw [same]
    exact cards_setPile_of_ne _ different

/-- A card that is put into a zone changes nothing but its own place in any row. -/
theorem insert_row (card : InstanceId) (place : Place) (room : zones.HasRoom zone)
    {before : List (Option InstanceId)} (given : zones.row? other = some before) :
    ∃ after, (zones.insert zone card place).1.row? other = some after ∧
      Row.KeepsOthers card before after := by
  obtain ⟨row, slot, own, free, same⟩ | ⟨_, _, _, _, same⟩ :=
    insert_cases card place room
  · by_cases equal : other = zone
    · subst other
      obtain rfl : before = row := Option.some.inj (given.symm.trans own)
      refine ⟨_, by rw [same, row?_setRow_self _ (isField_of_row? own)], .set _ free ?_⟩
      intro held stands
      simp at stands
    · exact ⟨before, by rw [same, row?_setRow_of_ne _ equal, given], .refl card before⟩
  · exact ⟨before, by rw [same, row?_setPile, given], .refl card before⟩

/-- A card that is put on a pile takes no place in a row. -/
theorem HasRoom.insert (room : zones.HasRoom other) (card : InstanceId) (place : Place)
    (pile : zone.isField = false) : (zones.insert zone card place).1.HasRoom other := by
  have free : zones.HasRoom zone := fun field => absurd field (by simp [pile])
  obtain ⟨_, _, given, _, _⟩ | ⟨_, _, _, _, same⟩ := insert_cases card place free
  · simp [isField_of_row? given] at pile
  · intro field
    rw [same, freeSlot?, row?_setPile]
    exact room field

/-- The place that is told for a card in a row is the one where it stands. -/
theorem insert_slot (card : InstanceId) (place : Place) (room : zones.HasRoom zone)
    (field : zone.isField = true) :
    ∃ row slot, (zones.insert zone card place).2 = some slot ∧
      (zones.insert zone card place).1.row? zone = some row ∧ row[slot]? = some (some card) := by
  obtain ⟨row, slot, own, free, same⟩ | ⟨hidden, _, _, _, _⟩ :=
    insert_cases card place room
  · refine ⟨row.set slot (some card), slot, by rw [same], ?_, ?_⟩
    · rw [same, row?_setRow_self _ field]
    · simp [(List.getElem?_eq_some_iff.mp free).1]
  · simp [field] at hidden

end PlayerZones

end CardDuel
