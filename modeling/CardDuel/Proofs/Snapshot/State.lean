/-
This file shows that the bytes of a state are read exactly as they are written: every state comes back from its
bytes, and bytes that hold a state begin with those that are written for it.
-/

import CardDuel.Proofs.Snapshot.Event
import CardDuel.Snapshot.State

namespace CardDuel

open Codec (FitsAll)

/-- This tells that the counts of a link and the number of its targets have 64 bits. -/
structure ChainLink.Storable (link : ChainLink) : Prop where
  number : link.number < UInt64.size
  effect : link.effect < UInt64.size
  targets : link.targets.length < UInt64.size

def TriggeredEffect.Storable (trigger : TriggeredEffect) : Prop := trigger.effect < UInt64.size

structure ResponseWindow.Storable (window : ResponseWindow) : Prop where
  events : FitsAll GameEvent.Storable window.events
  optional : FitsAll TriggeredEffect.Storable window.optional

def ActivationRecord.Storable (record : ActivationRecord) : Prop := record.effect < UInt64.size

/--
This tells that a state can be stored: all of its counts and places and the lengths of all of its lists and
texts have 64 bits.
-/
structure GameState.Storable (state : GameState) : Prop where
  zones : ∀ seat, (state.zones seat).Storable
  cards : FitsAll CardInstance.Storable state.cards
  links : FitsAll ChainLink.Storable state.chain.links
  window : ∀ window ∈ state.window, window.Storable
  pendingEvents : FitsAll GameEvent.Storable state.pendingEvents
  granted : state.granted.length < UInt64.size
  active : state.active.length < UInt64.size
  activations : FitsAll ActivationRecord.Storable state.activations.records
  log : FitsAll (fun entry => entry.event.Storable) state.log

namespace Snapshot

open Codec

theorem speed_exact : speed.Exact fun _ => True :=
  record_exact byte_exact (fun _ => rfl) fun _ => rfl

theorem boundTarget_exact : boundTarget.Exact fun _ => True :=
  (record_exact (pair_exact instanceId_exact word32_exact) (fun _ => rfl) fun _ => rfl).congr
    fun _ => by simp

theorem chainLink_exact : chainLink.Exact ChainLink.Storable := by
  have fields := pair_exact size_exact (pair_exact instanceId_exact (pair_exact word32_exact
    (pair_exact cardId_exact (pair_exact size_exact (pair_exact seat_exact (pair_exact speed_exact
    (pair_exact (list_exact boundTarget_exact) bool_exact)))))))
  apply (record_exact fields (fun _ => rfl) fun _ => rfl).congr
  intro link
  simp only [fitsAll_true, true_and, and_true]
  exact ⟨fun ⟨number, effect, targets⟩ => ⟨number, effect, targets⟩,
    fun ⟨number, effect, targets⟩ => ⟨number, effect, targets⟩⟩

theorem chainStatus_exact : chainStatus.Exact fun _ => True :=
  oneOf_exact (by decide) (fun value => by cases value <;> decide) (by decide)

theorem chain_exact : chain.Exact fun chain => FitsAll ChainLink.Storable chain.links :=
  (record_exact (pair_exact (list_exact chainLink_exact) (pair_exact chainStatus_exact
    (pair_exact seat_exact byte_exact))) (fun _ => rfl) fun _ => rfl).congr fun _ => by simp

theorem triggeredEffect_exact : triggeredEffect.Exact TriggeredEffect.Storable :=
  (record_exact (pair_exact instanceId_exact (pair_exact word32_exact (pair_exact cardId_exact
    (pair_exact size_exact (pair_exact seat_exact (pair_exact speed_exact bool_exact))))))
    (fun _ => rfl) fun _ => rfl).congr fun _ => by simp [TriggeredEffect.Storable]

theorem window_exact : window.Exact ResponseWindow.Storable := by
  have fields := pair_exact (list_exact gameEvent_exact) (pair_exact
    (list_exact triggeredEffect_exact) (pair_exact seat_exact byte_exact))
  apply (record_exact fields (fun _ => rfl) fun _ => rfl).congr
  intro window
  simp only [and_true]
  exact ⟨fun ⟨events, optional⟩ => ⟨events, optional⟩, fun ⟨events, optional⟩ => ⟨events, optional⟩⟩

theorem pendingAttack_exact : pendingAttack.Exact fun _ => True :=
  (record_exact (pair_exact instanceId_exact (pair_exact word32_exact (pair_exact
    (option_exact instanceId_exact) word32_exact))) (fun _ => rfl) fun _ => rfl).congr
    fun _ => by simp

theorem activationRecord_exact : activationRecord.Exact ActivationRecord.Storable :=
  (record_exact (pair_exact instanceId_exact (pair_exact size_exact (pair_exact word32_exact
    word32_exact))) (fun _ => rfl) fun _ => rfl).congr fun _ => by simp [ActivationRecord.Storable]

theorem activations_exact :
    activations.Exact fun activations => FitsAll ActivationRecord.Storable activations.records :=
  record_exact (list_exact activationRecord_exact) (fun _ => rfl) fun _ => rfl

theorem gameState_exact : gameState.Exact GameState.Storable := by
  have fields := pair_exact word64_exact (pair_exact word32_exact (pair_exact phase_exact
    (pair_exact seat_exact (pair_exact (perSeat_exact playerState_exact)
    (pair_exact (list_exact cardInstance_exact) (pair_exact chain_exact
    (pair_exact (option_exact window_exact) (pair_exact (option_exact pendingAttack_exact)
    (pair_exact (list_exact gameEvent_exact) (pair_exact (list_exact modifier_exact)
    (pair_exact (list_exact modifier_exact) (pair_exact activations_exact
    (pair_exact (option_exact gameResult_exact) (pair_exact (list_exact loggedEvent_exact)
    shuffler_exact))))))))))))))
  apply (record_exact fields (fun _ => rfl) fun _ => rfl).congr
  intro state
  simp only [fitsAll_true, implies_true, true_and, and_true]
  constructor
  · rintro ⟨⟨first, second⟩, cards, links, window, events, granted, active, activations, log⟩
    refine ⟨?_, cards, links, window, events, granted, active, activations, log⟩
    intro seat
    cases seat with
    | first => exact first
    | second => exact second
  · rintro ⟨zones, cards, links, window, events, granted, active, activations, log⟩
    exact ⟨⟨zones .first, zones .second⟩, cards, links, window, events, granted, active,
      activations, log⟩

end Snapshot

/--
A state is read from bytes if and only if it can be stored and the bytes begin with its own bytes. So every
state that can be stored comes back from its bytes, only what follows them is not looked at, and no other
bytes hold the state.
-/
theorem GameState.ofBytes?_eq_some_iff {bytes : List UInt8} {state : GameState} :
    ofBytes? bytes = some state ↔ state.Storable ∧ state.toBytes <+: bytes := by
  rw [ofBytes?, Option.map_eq_some_iff]
  constructor
  · rintro ⟨⟨_, rest⟩, read, rfl⟩
    obtain ⟨storable, whole⟩ := (Snapshot.gameState_exact _ _ _).mp read
    exact ⟨storable, rest, whole.symm⟩
  · rintro ⟨storable, rest, rfl⟩
    exact ⟨(state, rest), Snapshot.gameState_exact.decode_encode storable rest, rfl⟩

end CardDuel
