/-
This file defines the runs of a duel: it is set up, and then requests are served one after the other.
-/

import CardDuel.Duel.Basic
import CardDuel.Proofs.Dispatch

namespace CardDuel

/-- This is something that is asked of a duel. -/
inductive Request where
  | act (player : Seat) (action : Action)
  | timeout (player : Seat)
deriving DecidableEq

namespace Duel

def serve (duel : Duel) : Request → Except Rejection (StepReport × Duel)
  | .act player action => duel.perform player action
  | .timeout player => duel.forceTimeout player

variable {duel after : Duel} {report : StepReport} {player : Seat} {action : Action}

theorem perform_eq_ok (performed : duel.perform player action = .ok (report, after)) :
    duel.state.step duel.rules player action = .ok after.state ∧ after.rules = duel.rules := by
  obtain ⟨next, stepped, same⟩ := map_eq_ok.mp performed
  obtain ⟨_, rfl⟩ := Prod.mk.inj same
  exact ⟨stepped, rfl⟩

theorem forceTimeout_eq_ok (forced : duel.forceTimeout player = .ok (report, after)) :
    duel.state.timeout duel.rules player = .ok after.state ∧ after.rules = duel.rules := by
  obtain ⟨next, stepped, same⟩ := map_eq_ok.mp forced
  obtain ⟨_, rfl⟩ := Prod.mk.inj same
  exact ⟨stepped, rfl⟩

/-- A request that is served is one step; a player who is out of time passes or ends the turn. -/
theorem serve_eq_ok {request : Request} (served : duel.serve request = .ok (report, after)) :
    after.rules = duel.rules ∧ ∃ player action,
      duel.state.step duel.rules player action = .ok after.state ∧
        (request = .act player action ∨ action = .passPriority ∨ action = .endTurn) := by
  cases request with
  | act player action =>
    obtain ⟨stepped, same⟩ := perform_eq_ok served
    exact ⟨same, player, action, stepped, .inl rfl⟩
  | timeout player =>
    obtain ⟨timed, same⟩ := forceTimeout_eq_ok served
    obtain ⟨action, given, stepped⟩ := GameState.timeout_eq_ok timed
    exact ⟨same, player, action, stepped, .inr given⟩

end Duel

namespace DuelSetup

/-- This is a duel after requests, all of which were served. -/
inductive Run (setup : DuelSetup) : List Request → Duel → Prop where
  | start {duel : Duel} (built : setup.build = .ok duel) : Run setup [] duel
  | next {requests : List Request} {request : Request} {duel after : Duel} {report : StepReport}
      (earlier : Run setup requests duel) (served : duel.serve request = .ok (report, after)) :
      Run setup (requests ++ [request]) after

variable {setup : DuelSetup} {requests : List Request} {duel : Duel}

theorem checkDeck_eq_ok {player : Seat} {result : Unit} :
    setup.checkDeck player = .ok result ↔
      (∀ card ∈ setup.decks.get player, (setup.rules.catalog.get? card).isSome) ∧
        setup.rules.config.startingHand ≤ (setup.decks.get player).length := by
  rw [checkDeck]
  split
  · next card missing =>
    have member := List.mem_of_find?_eq_some missing
    have unknown : (setup.rules.catalog.get? card).isSome = false := by
      simpa [Catalog.contains] using List.find?_some missing
    refine ⟨fun accepted => by simp at accepted, ?_⟩
    intro ⟨known, _⟩
    exact absurd (known card member) (by simp [unknown])
  · next complete =>
    rw [ite_error_eq_ok]
    simp only [List.find?_eq_none, Catalog.contains, Bool.not_eq_true', Bool.not_eq_false] at complete
    rw [Nat.not_lt]
    exact ⟨fun ⟨enough, _⟩ => ⟨complete, enough⟩, fun ⟨_, enough⟩ => ⟨enough, rfl⟩⟩

/-- This is a duel that is set up: its options and decks are sound, and the first turn begins. -/
theorem build_eq_ok :
    setup.build = .ok duel ↔
      setup.rules.config.validate = .ok () ∧ setup.checkDeck .first = .ok () ∧
        setup.checkDeck .second = .ok () ∧
      ∃ dealt, (Seat.startingWith setup.firstPlayer).foldlM setup.dealHand setup.withDecks =
          .ok dealt ∧
        ⟨setup.rules, (dealt.startTurn setup.rules).settle setup.rules.catalog⟩ = duel := by
  simp only [build, bind_eq_ok, pure_eq_ok, mapError_eq_ok, Unique.exists_iff]

namespace Run

theorem rules (run : setup.Run requests duel) : duel.rules = setup.rules := by
  induction run with
  | start built =>
    obtain ⟨_, _, _, _, _, rfl⟩ := build_eq_ok.mp built
    rfl
  | next _ served ih => exact (Duel.serve_eq_ok served).1.trans ih

theorem built (run : setup.Run requests duel) : ∃ start, setup.build = .ok start := by
  induction run with
  | start built => exact ⟨_, built⟩
  | next _ _ ih => exact ih

/-- What holds of the first state and is kept by every step holds of all states. -/
theorem keeps {kept : GameState → Prop} (run : setup.Run requests duel)
    (start : ∀ {duel : Duel}, setup.build = .ok duel → kept duel.state)
    (step : ∀ {state next : GameState} {player : Seat} {action : Action},
      state.step setup.rules player action = .ok next → kept state → kept next) :
    kept duel.state := by
  induction run with
  | start built => exact start built
  | next earlier served ih =>
    obtain ⟨_, player, action, stepped, _⟩ := Duel.serve_eq_ok served
    rw [earlier.rules] at stepped
    exact step stepped ih

end Run

/-- This serves requests one after the other, as long as they are served. -/
def followUp? (duel : Duel) (requests : List Request) : Option Duel :=
  requests.foldlM (fun duel request => (duel.serve request).toOption.map Prod.snd) duel

/-- This is the duel after requests, if all of them are served. -/
def play? (setup : DuelSetup) (requests : List Request) : Option Duel :=
  setup.build.toOption.bind fun start => followUp? start requests

theorem Run.followUp {earlier : List Request} {after : Duel} (run : setup.Run earlier duel)
    (followed : followUp? duel requests = some after) : setup.Run (earlier ++ requests) after := by
  induction requests generalizing earlier duel with
  | nil =>
    obtain rfl := Option.some.inj followed
    rwa [List.append_nil]
  | cons request requests ih =>
    rw [followUp?, List.foldlM_cons] at followed
    obtain ⟨middle, answered, rest⟩ := Option.bind_eq_some_iff.mp followed
    obtain ⟨⟨report, next⟩, served, rfl⟩ := Option.map_eq_some_iff.mp answered
    rw [List.append_cons]
    exact ih (run.next (toOption_eq_some.mp served)) rest

/-- What is played is a run. -/
theorem Run.of_play (played : setup.play? requests = some duel) : setup.Run requests duel := by
  obtain ⟨start, built, followed⟩ := Option.bind_eq_some_iff.mp played
  exact (Run.start (toOption_eq_some.mp built)).followUp followed

/-- The duel of a run follows from its start. -/
theorem Run.followed (run : setup.Run requests duel) :
    ∃ start, setup.build = .ok start ∧ followUp? start requests = some duel := by
  induction run with
  | start built => exact ⟨_, built, rfl⟩
  | @next requests request duel after report earlier served ih =>
    obtain ⟨start, built, followed⟩ := ih
    refine ⟨start, built, ?_⟩
    rw [followUp?] at followed ⊢
    rw [List.foldlM_append, followed]
    simp [served, Except.toOption]

/-- A run that begins with the requests of another one goes on from its duel. -/
theorem Run.continued (run : setup.Run requests duel) {more : List Request} {after : Duel}
    (later : setup.Run (requests ++ more) after) : followUp? duel more = some after := by
  obtain ⟨start, built, followed⟩ := run.followed
  obtain ⟨same, builtToo, followedToo⟩ := later.followed
  obtain rfl := Except.ok.inj (built.symm.trans builtToo)
  rw [followUp?] at followed followedToo
  rw [List.foldlM_append, followed] at followedToo
  exact followedToo

/-- This is a duel in which each player has two copies of one monster. -/
def sentries : DuelSetup where
  rules := ⟨⟨[⟨⟨1⟩, "Sentry", .monster 4 1200 800, [], [], none⟩]⟩,
    { DuelConfig.standard with startingHand := 1 }⟩
  decks := .replicate [⟨1⟩, ⟨1⟩]
  seed := 0
  shuffle := false
  firstPlayer := .first

end DuelSetup

end CardDuel
