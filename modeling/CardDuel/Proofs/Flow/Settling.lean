/-
This file follows a duel that settles. There are few rounds of what happens by itself, and the state at the end
is over, waits for an answer or has nothing left to happen. The rounds come to an end if the sweep after a battle
does, and so they always do when the cards are numbered by their places.
-/

import CardDuel.Proofs.Flow.Sweep

namespace CardDuel

/-! Rounds -/

/-- This tells that rounds lead from a state to one that has no further round, and what they were. -/
inductive Rounds {State Label : Type} (round? : State → Option (Label × State)) :
    State → List Label → State → Prop where
  | rest {state : State} (still : round? state = none) : Rounds round? state [] state
  | round {state next last : State} {label : Label} {labels : List Label}
      (taken : round? state = some (label, next)) (later : Rounds round? next labels last) :
      Rounds round? state (label :: labels) last

namespace Rounds

variable {State Label : Type} {round? : State → Option (Label × State)} {state last other : State}
  {labels others : List Label}

/-- Rounds come to one end in one way. -/
theorem unique (rounds : Rounds round? state labels last) (again : Rounds round? state others other) :
    labels = others ∧ last = other := by
  induction rounds generalizing others with
  | rest still =>
    cases again with
    | rest _ => exact ⟨rfl, rfl⟩
    | round taken _ => cases still.symm.trans taken
  | round taken _ ih =>
    cases again with
    | rest still => cases still.symm.trans taken
    | round same later =>
      cases taken.symm.trans same
      obtain ⟨rfl, rfl⟩ := ih later
      exact ⟨rfl, rfl⟩

/-- After the last round there is no further one. -/
theorem still (rounds : Rounds round? state labels last) : round? last = none := by
  induction rounds with
  | rest still => exact still
  | round _ _ ih => exact ih

/-- Where there is no round, none is made. -/
theorem labels_eq_nil (rounds : Rounds round? state labels last) (still : round? state = none) :
    labels = [] :=
  (rounds.unique (.rest still)).1

end Rounds

/-- This is the window after a pass of its holder, if it stays open. -/
def ResponseWindow.declined? (window : ResponseWindow) : Option ResponseWindow :=
  match window.pass window.holder with
  | .ok (.priorityTo _, next) => some next
  | _ => none

namespace GameState

/-! Automatic passes -/

/-- This passes for the holder of a window who has no answer; the label is the player who passes. -/
def automaticPass? (catalog : Catalog) (state : GameState) : Option (Seat × GameState) :=
  match state.window with
  | none => none
  | some window =>
    if state.hasResponse catalog window.holder then none
    else some (window.holder, { state with window := window.declined? })

variable {state next last : GameState} {catalog : Catalog} {window : ResponseWindow}

/-- To advance a window is to pass once and to go on. -/
theorem advanceWindow_succ (passes : Nat) (state : GameState) :
    advanceWindow catalog (passes + 1) state =
      ((automaticPass? catalog state).elim state fun passed =>
        advanceWindow catalog passes passed.2) := by
  rw [advanceWindow, automaticPass?]
  cases opened : state.window with
  | none => rfl
  | some window =>
    by_cases answers : state.hasResponse catalog window.holder = true
    · simp only [if_pos answers, Option.elim_none]
    · simp only [if_neg answers, Option.elim_some, ResponseWindow.declined?]
      rcases window.pass window.holder with refused | ⟨_ | _, remaining⟩
      · cases passes <;> rfl
      · rfl
      · cases passes <;> rfl

/-- As many passes as there are rounds bring a window to the end of the rounds. -/
theorem advanceWindow_of_rounds {players : List Seat}
    (rounds : Rounds (automaticPass? catalog) state players last) {passes : Nat}
    (enough : players.length ≤ passes) : advanceWindow catalog passes state = last := by
  induction rounds generalizing passes with
  | rest still =>
    cases passes with
    | zero => rfl
    | succ passes => rw [advanceWindow_succ, still, Option.elim_none]
  | round taken _ ih =>
    cases passes with
    | zero => simp at enough
    | succ passes =>
      rw [advanceWindow_succ, taken, Option.elim_some]
      exact ih (by simpa using enough)

/-- Without a window nobody passes by itself. -/
theorem automaticPass?_of_closed (closed : state.window = none) :
    automaticPass? catalog state = none := by
  rw [automaticPass?, closed]

/-- A window in which one pass is left is closed by one automatic pass, or its holder can answer. -/
theorem rounds_of_declined (catalog : Catalog) (opened : state.window = some window)
    (closes : window.declined? = none) :
    ∃ players last, Rounds (automaticPass? catalog) state players last ∧ players.length ≤ 1 := by
  cases taken : automaticPass? catalog state with
  | none => exact ⟨[], state, .rest taken, Nat.zero_le 1⟩
  | some passed =>
    obtain ⟨player, next⟩ := passed
    have closed : next.window = none := by
      simp only [automaticPass?, opened, closes] at taken
      split at taken
      · cases taken
      · cases taken
        rfl
    exact ⟨[player], next, .round taken (.rest (automaticPass?_of_closed closed)), Nat.le_refl 1⟩

/-- A fresh window takes two automatic passes at most. -/
theorem rounds_of_fresh (state : GameState) (catalog : Catalog) (events : List GameEvent)
    (optional : List TriggeredEffect) (holder : Seat) :
    ∃ players last, Rounds (automaticPass? catalog)
      { state with window := some (.fresh events optional holder) } players last ∧
        players.length ≤ 2 := by
  cases taken : automaticPass? catalog
      { state with window := some (.fresh events optional holder) } with
  | none => exact ⟨[], _, .rest taken, Nat.zero_le 2⟩
  | some passed =>
    obtain ⟨player, next⟩ := passed
    have handed : ∃ window, next.window = some window ∧ window.declined? = none := by
      simp only [automaticPass?] at taken
      split at taken
      · cases taken
      · cases taken
        refine ⟨⟨events, optional, holder.opponent, 1⟩, ?_, ?_⟩
        · simp [ResponseWindow.declined?, ResponseWindow.pass, ResponseWindow.fresh]
        · simp [ResponseWindow.declined?, ResponseWindow.pass]
    obtain ⟨window, opened, closes⟩ := handed
    obtain ⟨players, last, rounds, few⟩ := rounds_of_declined catalog opened closes
    exact ⟨player :: players, last, .round taken rounds, Nat.succ_le_succ few⟩

/-! What happens by itself -/

/-- This is something that happens by itself in a duel. -/
inductive Happening where
  | window
  | attack
deriving DecidableEq

/-- This lets the next thing happen while the duel goes on and nobody can pass. -/
def settleRound? (catalog : Catalog) (state : GameState) : Option (Happening × GameState) :=
  if state.outcome.isSome || state.canPass then none
  else if state.pendingEvents ≠ [] then some (.window, state.openWindow catalog)
  else if state.pendingAttack.isSome then some (.attack, state.resolveAttack catalog)
  else none

/-- This clears what waits in a duel that is over. -/
def finish (state : GameState) : GameState :=
  if state.outcome.isSome then state.clearWaiting else state

/-- Nothing happens by itself exactly in a duel that is over, waits for a pass or has nothing pending. -/
theorem settleRound?_eq_none_iff : settleRound? catalog state = none ↔
    state.outcome.isSome = true ∨ state.canPass = true ∨
      state.pendingEvents = [] ∧ state.pendingAttack = none := by
  rw [settleRound?]
  by_cases ended : state.outcome.isSome = true
  · simp [ended]
  · by_cases waits : state.canPass = true
    · simp [waits]
    · by_cases quiet : state.pendingEvents = []
      · by_cases attacked : state.pendingAttack = none
        · simp [quiet, attacked]
        · simp [ended, waits, quiet, attacked, Option.isSome_iff_ne_none]
      · simp [ended, waits, quiet]

/-- Nothing is settled while a player is asked. -/
theorem settleRound?_of_canPass (waits : state.canPass = true) :
    settleRound? catalog state = none :=
  settleRound?_eq_none_iff.mpr (.inr (.inl waits))

/-- A window is opened for pending events, and an attack is resolved when there are none. -/
theorem settleRound?_eq_some {happening : Happening}
    (taken : settleRound? catalog state = some (happening, next)) :
    happening = .window ∧ state.pendingEvents ≠ [] ∧ next = state.openWindow catalog ∨
      happening = .attack ∧ state.pendingEvents = [] ∧ state.pendingAttack.isSome = true ∧
        next = state.resolveAttack catalog := by
  rw [settleRound?] at taken
  split at taken
  · cases taken
  · split at taken
    · next waiting =>
      cases taken
      exact .inl ⟨rfl, waiting, rfl⟩
    · next quiet =>
      split at taken
      · next attacked =>
        cases taken
        exact .inr ⟨rfl, by simpa using quiet, attacked, rfl⟩
      · cases taken

/-- To settle is to let one thing happen and to go on. -/
theorem settleWithin_succ (steps : Nat) (state : GameState) :
    settleWithin catalog (steps + 1) state =
      ((settleRound? catalog state).elim state.finish fun happened =>
        settleWithin catalog steps happened.2) := by
  rw [settleWithin, settleRound?, settleStep?, finish]
  by_cases ended : state.outcome.isSome = true
  · simp [ended]
  · by_cases waits : state.canPass = true
    · simp [ended, waits]
    · by_cases quiet : state.pendingEvents = []
      · by_cases attacked : state.pendingAttack.isSome = true
        · simp [ended, waits, quiet, attacked]
        · simp [ended, waits, quiet, attacked]
      · simp [ended, waits, quiet]

/-- Somebody can pass after a round, or it leaves less to happen. -/
theorem settleRound?_waits {happening : Happening}
    (taken : settleRound? catalog state = some (happening, next)) :
    next.canPass = true ∨ next.waits < state.waits := by
  obtain ⟨_, waiting, rfl⟩ | ⟨_, quiet, attacked, rfl⟩ := settleRound?_eq_some taken
  · exact openWindow_waits waiting
  · exact .inr (resolveAttack_waits quiet attacked)

/-- Enough steps bring every state to the end of its rounds. -/
theorem settleWithin_rounds (catalog : Catalog) (steps : Nat) {state : GameState}
    (enough : state.canPass = true ∨ state.waits ≤ steps) :
    ∃ happenings last, Rounds (settleRound? catalog) state happenings last ∧
      settleWithin catalog steps state = last.finish := by
  -- Each round leaves less to wait for, so the steps last as long as there are rounds.
  induction steps generalizing state with
  | zero =>
    have rest := enough.imp_right fun few => waits_eq_zero_iff.mp (Nat.le_zero.mp few)
    exact ⟨[], state, .rest (settleRound?_eq_none_iff.mpr (.inr rest)), rfl⟩
  | succ steps ih =>
    rw [settleWithin_succ]
    cases taken : settleRound? catalog state with
    | none => exact ⟨[], state, .rest taken, rfl⟩
    | some happened =>
      obtain ⟨happening, next⟩ := happened
      have few : state.waits ≤ steps + 1 := enough.resolve_left fun waits => by
        cases taken.symm.trans (settleRound?_of_canPass waits)
      have fewer := (settleRound?_waits taken).imp_right fun less => (by omega : next.waits ≤ steps)
      obtain ⟨happenings, last, rounds, settled⟩ := ih fewer
      exact ⟨happening :: happenings, last, .round taken rounds, settled⟩

/-! How often -/

/-- This bounds how many windows are opened: one for pending events, and one after an attack. -/
def windowsLeft (state : GameState) : Nat :=
  (if state.pendingEvents = [] then 0 else 1) + (if state.pendingAttack.isSome then 1 else 0)

/-- This bounds how many attacks are resolved. -/
def attacksLeft (state : GameState) : Nat :=
  if state.pendingAttack.isSome then 1 else 0

/-- An opened window waits for a pass, or nothing has come of the events and the attack is as before. -/
theorem openWindow_quiet (state : GameState) (catalog : Catalog) :
    (state.openWindow catalog).canPass = true ∨
      (state.openWindow catalog).pendingEvents = [] ∧
        (state.openWindow catalog).pendingAttack = state.pendingAttack := by
  obtain ⟨window, _, same⟩ := state.openWindow_eq catalog
  cases passes : (state.openWindow catalog).canPass with
  | true => exact .inl rfl
  | false =>
    right
    obtain ⟨unlinked, _⟩ := canPass_eq_false_iff.mp passes
    rw [same, links_announceWindow] at unlinked
    have quiet := (state.triggered_cases catalog).resolve_right fun linked => linked unlinked
    rw [same, quiet, announceWindow]
    split
    · exact ⟨rfl, rfl⟩
    · exact ⟨rfl, rfl⟩

/-- At most one window is opened for pending events and one after an attack, and the attack is one. -/
theorem settleRounds_count {happenings : List Happening}
    (rounds : Rounds (settleRound? catalog) state happenings last) :
    happenings.count .window ≤ state.windowsLeft ∧ happenings.count .attack ≤ state.attacksLeft := by
  induction rounds with
  | rest _ => exact ⟨Nat.zero_le _, Nat.zero_le _⟩
  | @round state _ _ _ later taken rounds ih =>
    obtain ⟨rfl, waiting, rfl⟩ | ⟨rfl, _, attacked, rfl⟩ := settleRound?_eq_some taken
    · have others : (Happening.window :: later).count .attack = later.count .attack :=
        List.count_cons_of_ne (by decide)
      rw [List.count_cons_self, others]
      rcases state.openWindow_quiet catalog with passes | ⟨quiet, same⟩
      · -- A pass is waited for, so this was the last round.
        obtain rfl := rounds.labels_eq_nil (settleRound?_of_canPass passes)
        exact ⟨by simp [windowsLeft, waiting], Nat.zero_le _⟩
      · have windows : (state.openWindow catalog).windowsLeft + 1 = state.windowsLeft := by
          rw [windowsLeft, windowsLeft, quiet, same, if_pos rfl, if_neg waiting, Nat.add_comm,
            Nat.zero_add]
        have attacks : (state.openWindow catalog).attacksLeft = state.attacksLeft := by
          rw [attacksLeft, attacksLeft, same]
        omega
    · have others : (Happening.attack :: later).count .window = later.count .window :=
        List.count_cons_of_ne (by decide)
      rw [List.count_cons_self, others]
      have finished := (state.resolveAttack_course catalog).2
      have attacks : (state.resolveAttack catalog).attacksLeft + 1 = state.attacksLeft := by
        rw [attacksLeft, attacksLeft, finished, attacked]
        rfl
      have windows : (state.resolveAttack catalog).windowsLeft ≤ state.windowsLeft := by
        rw [windowsLeft, windowsLeft, finished, attacked]
        split <;> simp
      omega

/-- At most two windows are still to be opened. -/
theorem windowsLeft_le (state : GameState) : state.windowsLeft ≤ 2 := by
  rw [windowsLeft]
  split <;> split <;> decide

/-- At most one attack waits. -/
theorem attacksLeft_le (state : GameState) : state.attacksLeft ≤ 1 := by
  rw [attacksLeft]
  split <;> decide

/-! The end -/

/-- This tells why nothing more happens by itself: the duel is over, a pass is waited for, or all is done. -/
inductive Halted (state : GameState) : Prop where
  | over (ended : state.outcome.isSome = true) (chain : state.chain = .idle state.turnPlayer)
      (window : state.window = none) (attack : state.pendingAttack = none)
      (events : state.pendingEvents = [])
  | waiting (running : state.outcome = none) (asked : state.chain.links ≠ [] ∨ state.window.isSome = true)
  | quiet (running : state.outcome = none) (chain : state.chain.links = []) (window : state.window = none)
      (attack : state.pendingAttack = none) (events : state.pendingEvents = [])

/-- Where no round is left, the finished state has halted. -/
theorem finish_halted (rest : settleRound? catalog state = none) : state.finish.Halted := by
  rw [finish]
  split
  · next ended => exact .over ended rfl rfl rfl rfl
  · next goesOn =>
    have running : state.outcome = none := by simpa using goesOn
    cases passes : state.canPass with
    | true =>
      refine .waiting running ?_
      simpa [canPass, Chain.isEmpty] using passes
    | false =>
      obtain ⟨unlinked, closed⟩ := canPass_eq_false_iff.mp passes
      have done := (settleRound?_eq_none_iff.mp rest).resolve_left goesOn
      obtain ⟨events, attack⟩ := done.resolve_left (by simp [passes])
      exact .quiet running unlinked closed attack events

/-! Battles -/

/-- This is the state that is swept after the battle of the pending attack, if there is a battle. -/
def battle? (state : GameState) (catalog : Catalog) : Option GameState :=
  match state.pendingAttack with
  | none => none
  | some attack =>
    let cleared := { state with pendingAttack := none }
    if cleared.stillStands attack.attacker attack.attackerMoves && cleared.targetStands attack then
      let revealed := cleared.revealTarget catalog attack.target
      (revealed.card? attack.attacker).map fun attacker =>
        let outcome := BattleOutcome.between attacker (attack.target.bind revealed.card?)
        (Change.applyPossible outcome.changes revealed).record
          (.battleResolved attack.attacker attack.target)
    else none

/-- This tells what a pending attack comes to. The sweep after a battle goes on until no card is marked. -/
inductive Resolves (catalog : Catalog) (state next : GameState) : Prop where
  | battle {battled : GameState} (fought : state.battle? catalog = some battled)
      (swept : Sweeps catalog battled next)
  | calm (calm : state.battle? catalog = none) (same : next = state.resolveAttack catalog)

/-- An attack that comes to a battle is resolved by the battle and a sweep. -/
theorem resolveAttack_of_battle {battled : GameState} (fought : state.battle? catalog = some battled) :
    state.resolveAttack catalog = battled.sweep catalog := by
  rw [battle?] at fought
  rw [resolveAttack]
  cases pending : state.pendingAttack with
  | none => simp [pending] at fought
  | some attack =>
    simp only [pending] at fought
    dsimp only
    split at fought
    · next stands =>
      obtain ⟨attacker, known, rfl⟩ := Option.map_eq_some_iff.mp fought
      rw [if_pos stands, fight, known]
    · cases fought

/-- A battle only moves cards. -/
theorem battle?_shifts {battled : GameState} (fought : state.battle? catalog = some battled) :
    Shifts state battled := by
  rw [battle?] at fought
  split at fought
  · cases fought
  · next attack _ =>
    dsimp only at fought
    split at fought
    · obtain ⟨attacker, _, rfl⟩ := Option.map_eq_some_iff.mp fought
      have cleared : Still state { state with pendingAttack := none } := ⟨rfl, fun _ => rfl⟩
      have revealed := (revealTarget_edits { state with pendingAttack := none } catalog attack.target).shifts
      have changed := (Change.applyPossible_edits (BattleOutcome.between attacker (attack.target.bind
        (revealTarget { state with pendingAttack := none } catalog attack.target).card?)).changes
        (revealTarget { state with pendingAttack := none } catalog attack.target)).shifts
      exact (((Shifts.of_still cleared).trans revealed).trans changed).then_still (.record _ _)
    · cases fought

/-- An attack comes to an end exactly if the battle leaves no mark stuck, and then as it is resolved. -/
theorem resolves_iff : Resolves catalog state next ↔
    (∀ battled ∈ state.battle? catalog, battled.Clearable) ∧ next = state.resolveAttack catalog := by
  constructor
  · intro resolves
    cases resolves with
    | battle fought swept =>
      obtain ⟨clearable, rfl⟩ := sweeps_iff.mp swept
      refine ⟨?_, (resolveAttack_of_battle fought).symm⟩
      intro other member
      obtain rfl := Option.some.inj (fought.symm.trans member)
      exact clearable
    | calm calm same => exact ⟨fun other member => by simp [calm] at member, same⟩
  · rintro ⟨clearable, rfl⟩
    cases fought : state.battle? catalog with
    | none => exact .calm fought rfl
    | some battled =>
      refine .battle fought (sweeps_iff.mpr ⟨clearable battled fought, ?_⟩)
      exact resolveAttack_of_battle fought

/--
This tells what happens by itself until a duel waits, and the state in which it waits. Nothing bounds the rounds
but what they do.
-/
inductive Settles (catalog : Catalog) : GameState → List Happening → GameState → Prop where
  | ended {state : GameState} (decided : state.outcome.isSome = true) :
      Settles catalog state [] state.clearWaiting
  | asked {state : GameState} (running : state.outcome = none) (waits : state.canPass = true) :
      Settles catalog state [] state
  | window {state last : GameState} {happenings : List Happening} (running : state.outcome = none)
      (free : state.canPass = false) (events : state.pendingEvents ≠ [])
      (later : Settles catalog (state.openWindow catalog) happenings last) :
      Settles catalog state (.window :: happenings) last
  | attack {state next last : GameState} {happenings : List Happening} (running : state.outcome = none)
      (free : state.canPass = false) (events : state.pendingEvents = [])
      (attacked : state.pendingAttack.isSome = true) (resolves : Resolves catalog state next)
      (later : Settles catalog next happenings last) :
      Settles catalog state (.attack :: happenings) last
  | quiet {state : GameState} (running : state.outcome = none) (free : state.canPass = false)
      (events : state.pendingEvents = []) (attack : state.pendingAttack = none) :
      Settles catalog state [] state

/-- This is the state that is swept after the battle to which a duel comes by itself, if it comes to one. -/
def comingBattle? (state : GameState) (catalog : Catalog) : Option GameState :=
  if state.outcome.isSome || state.canPass then none
  else if state.pendingEvents = [] then state.battle? catalog
  else if (state.openWindow catalog).canPass then none
  else (state.openWindow catalog).battle? catalog

/-- A window that nobody can answer does not change what battle is coming. -/
theorem comingBattle?_openWindow (running : state.outcome = none) (free : state.canPass = false)
    (events : state.pendingEvents ≠ []) :
    (state.openWindow catalog).comingBattle? catalog = state.comingBattle? catalog := by
  rw [comingBattle?, comingBattle?, openWindow_outcome, running, free, if_neg events]
  cases passes : (state.openWindow catalog).canPass with
  | true => rfl
  | false =>
    obtain ⟨quiet, _⟩ := (state.openWindow_quiet catalog).resolve_left (by simp [passes])
    rw [if_pos quiet]
    rfl

/-- Without an attack no battle comes. -/
theorem comingBattle?_of_noAttack (peace : state.pendingAttack = none) :
    state.comingBattle? catalog = none := by
  have calm {state : GameState} (peace : state.pendingAttack = none) : state.battle? catalog = none := by
    rw [battle?, peace]
  rw [comingBattle?]
  split
  · rfl
  · split
    · exact calm peace
    · split
      · rfl
      · next free =>
        obtain ⟨_, same⟩ := (state.openWindow_quiet catalog).resolve_left free
        exact calm (same.trans peace)

namespace Settles

variable {happenings : List Happening}

/-- What happens by itself are the rounds that are counted above. -/
theorem rounds (settles : Settles catalog state happenings last) :
    ∃ halted, Rounds (settleRound? catalog) state happenings halted ∧ last = halted.finish := by
  induction settles with
  | @ended state decided =>
    exact ⟨state, .rest (settleRound?_eq_none_iff.mpr (.inl decided)), by rw [finish, if_pos decided]⟩
  | @asked state running waits =>
    exact ⟨state, .rest (settleRound?_of_canPass waits), by simp [finish, running]⟩
  | window running free events later ih =>
    obtain ⟨halted, rounds, same⟩ := ih
    refine ⟨halted, .round ?_ rounds, same⟩
    simp [settleRound?, running, free, events]
  | attack running free events attacked resolves later ih =>
    obtain ⟨halted, rounds, same⟩ := ih
    obtain ⟨_, rfl⟩ := resolves_iff.mp resolves
    refine ⟨halted, .round ?_ rounds, same⟩
    simp [settleRound?, running, free, events, attacked]
  | @quiet state running free events attack =>
    refine ⟨state, .rest (settleRound?_eq_none_iff.mpr (.inr (.inr ⟨events, attack⟩))), ?_⟩
    simp [finish, running]

/-- A duel that settles comes to no battle that leaves a mark stuck. -/
theorem clearable (settles : Settles catalog state happenings last) :
    ∀ battled ∈ state.comingBattle? catalog, battled.Clearable := by
  induction settles with
  | ended decided => simp [comingBattle?, decided]
  | asked running waits => simp [comingBattle?, waits]
  | window running free events later ih =>
    rw [comingBattle?_openWindow running free events] at ih
    exact ih
  | attack running free events attacked resolves later ih =>
    rw [comingBattle?, running, free, if_pos events]
    exact (resolves_iff.mp resolves).1
  | quiet running free events attack => simp [comingBattle?_of_noAttack attack]

end Settles

/-- The rounds settle a duel that comes to no battle that leaves a mark stuck. -/
theorem settles_of_rounds {happenings : List Happening}
    (rounds : Rounds (settleRound? catalog) state happenings last)
    (clearable : ∀ battled ∈ state.comingBattle? catalog, battled.Clearable) :
    Settles catalog state happenings last.finish := by
  induction rounds with
  | @rest state still =>
    rw [finish]
    split
    · next decided => exact .ended decided
    · next goesOn =>
      have running : state.outcome = none := by simpa using goesOn
      rcases settleRound?_eq_none_iff.mp still with ended | waits | ⟨events, attack⟩
      · exact absurd ended goesOn
      · exact .asked running waits
      · cases passes : state.canPass with
        | true => exact .asked running passes
        | false => exact .quiet running passes events attack
  | @round state next last happening happenings taken later ih =>
    have goesOn : ¬(state.outcome.isSome = true ∨ state.canPass = true) := fun stops => by
      rcases stops with ended | waits
      · cases taken.symm.trans (settleRound?_eq_none_iff.mpr (.inl ended))
      · cases taken.symm.trans (settleRound?_of_canPass waits)
    obtain ⟨goesOn, free⟩ := not_or.mp goesOn
    have running : state.outcome = none := by simpa using goesOn
    have free : state.canPass = false := by simpa using free
    obtain ⟨rfl, events, rfl⟩ | ⟨rfl, events, attacked, rfl⟩ := settleRound?_eq_some taken
    · rw [← comingBattle?_openWindow running free events] at clearable
      exact .window running free events (ih clearable)
    · have fought : state.comingBattle? catalog = state.battle? catalog := by
        rw [comingBattle?, running, free, if_pos events]
        rfl
      rw [fought] at clearable
      have resolves : Resolves catalog state (state.resolveAttack catalog) :=
        resolves_iff.mpr ⟨clearable, rfl⟩
      -- No battle comes after the attack, so nothing is asked of the rest.
      refine .attack running free events attacked resolves (ih ?_)
      simp [comingBattle?_of_noAttack (state.resolveAttack_course catalog).2]

/-- A battle of numbered cards leaves no mark stuck. -/
theorem Numbered.comingBattle (numbered : state.Numbered) (catalog : Catalog) :
    ∀ battled ∈ state.comingBattle? catalog, battled.Clearable := by
  intro battled member
  rw [comingBattle?] at member
  split at member
  · cases member
  · split at member
    · exact ((battle?_shifts member).numbered_iff.mpr numbered).clearable
    · split at member
      · cases member
      · have opened := (openWindow_shifts state catalog).numbered_iff.mpr numbered
        exact ((battle?_shifts member).numbered_iff.mpr opened).clearable

/--
A duel settles exactly if the battle to which it comes, if there is one, leaves no mark stuck; when the cards are
numbered by their places, it always settles. At most two windows are opened and at most one attack is resolved,
and in the end the duel is over and nothing waits, or a chain or a window waits, or neither an event nor an attack
is left. Every fresh window takes at most two automatic passes.
-/
theorem settle_exact (state : GameState) (catalog : Catalog) :
    ((∃ happenings last, Settles catalog state happenings last) ↔
      ∀ battled ∈ state.comingBattle? catalog, battled.Clearable) ∧
    (state.Numbered → ∃ happenings, Settles catalog state happenings (state.settle catalog)) ∧
    (∀ happenings last, Settles catalog state happenings last →
      last = state.settle catalog ∧ last.Halted ∧
        happenings.count .window ≤ 2 ∧ happenings.count .attack ≤ 1) ∧
    (∀ (events : List GameEvent) (optional : List TriggeredEffect) (holder : Seat),
      let opened := { state with window := some (.fresh events optional holder) }
      ∃ players, Rounds (automaticPass? catalog) opened players
          (advanceWindow catalog maxPasses opened) ∧ players.length ≤ 2) := by
  obtain ⟨happenings, halted, rounds, settled⟩ :=
    settleWithin_rounds catalog maxSettleSteps (.inr state.waits_le)
  have settles (clearable : ∀ battled ∈ state.comingBattle? catalog, battled.Clearable) :
      Settles catalog state happenings (state.settle catalog) := by
    rw [settle, settled]
    exact settles_of_rounds rounds clearable
  refine ⟨⟨?_, ?_⟩, ?_, ?_, ?_⟩
  · rintro ⟨others, last, ends⟩
    exact ends.clearable
  · intro clearable
    exact ⟨happenings, state.settle catalog, settles clearable⟩
  · intro numbered
    exact ⟨happenings, settles (numbered.comingBattle catalog)⟩
  · intro others last ends
    obtain ⟨other, again, rfl⟩ := ends.rounds
    obtain ⟨rfl, rfl⟩ := rounds.unique again
    obtain ⟨windows, attacks⟩ := settleRounds_count rounds
    exact ⟨settled.symm, finish_halted rounds.still, Nat.le_trans windows state.windowsLeft_le,
      Nat.le_trans attacks state.attacksLeft_le⟩
  · intro events optional holder
    obtain ⟨players, ended, passed, few⟩ := state.rounds_of_fresh catalog events optional holder
    have same := advanceWindow_of_rounds passed (show players.length ≤ maxPasses from few.step)
    exact ⟨players, same ▸ passed, few⟩

/--
This is a table on which a sentry is attacked that has the number of another one, which in turn has a number that
no card has.
-/
def impostors : GameState :=
  let table := Change.applyPossible [.summon ⟨0⟩ .faceUpAttack .normal, .summon ⟨2⟩ .faceUpAttack .normal,
    .summon ⟨3⟩ .faceUpAttack .normal] DuelSetup.sentries.withDecks
  let renamed := (table.modifyCard ⟨3⟩ fun found => { found with id := ⟨2⟩ }).modifyCard ⟨2⟩ fun found =>
    { found with id := ⟨9⟩ }
  { renamed with pendingAttack := some ⟨⟨0⟩, 1, some ⟨3⟩, 1⟩, pendingEvents := [] }

/-- The battle of the impostors marks a card whose number leads nowhere, and the sweep never ends. -/
theorem impostors_never_settle :
    ¬∃ happenings last, Settles DuelSetup.sentries.rules.catalog impostors happenings last := by
  intro settles
  have clearable := (settle_exact impostors DuelSetup.sentries.rules.catalog).1.mp settles
  have stuck : (impostors.comingBattle? DuelSetup.sentries.rules.catalog).any
      (fun battled => decide (battled.Stuck 2)) = true := by decide
  obtain ⟨battled, member, stuck⟩ := (Option.any_eq_true _ _).mp stuck
  exact clearable battled member 2 (of_decide_eq_true stuck)

end GameState

end CardDuel
