/-
This file opens computations that can be refused: when one is accepted, so were all of its steps.
-/

namespace CardDuel

variable {ε ε' α β : Type}

/-- A sequence is accepted exactly when its first step and the rest are. -/
theorem bind_eq_ok {first : Except ε α} {rest : α → Except ε β} {result : β} :
    (first >>= rest) = .ok result ↔ ∃ value, first = .ok value ∧ rest value = .ok result := by
  cases first with
  | error problem => simp [bind, Except.bind]
  | ok value => simp [bind, Except.bind]

/-- A guarded computation is accepted exactly when the guard does not refuse and the rest is. -/
theorem guard_eq_ok {refused : Prop} [Decidable refused] {problem : ε}
    {rest : Unit → Except ε β} {result : β} :
    (if refused then throw problem >>= rest else rest ()) = .ok result ↔
      ¬refused ∧ rest () = .ok result := by
  by_cases holds : refused
  · simp [holds, bind, Except.bind, throw, throwThe, MonadExceptOf.throw]
  · simp [holds]

/-- A check that is made only when it is needed is passed when it is needed. -/
theorem when_eq_ok {needed : Prop} [Decidable needed] {check : Except ε Unit}
    {rest : Unit → Except ε β} {result : β} :
    (if needed then check >>= rest else rest ()) = .ok result ↔
      (needed → check = .ok ()) ∧ rest () = .ok result := by
  by_cases holds : needed
  · cases check with
    | error problem => simp [holds, bind, Except.bind]
    | ok value => simp [holds, bind, Except.bind]
  · simp [holds]

/-- A final guard is accepted exactly when it does not refuse. -/
theorem ite_error_eq_ok {refused : Prop} [Decidable refused] {problem : ε}
    {rest : Except ε β} {result : β} :
    (if refused then .error problem else rest) = .ok result ↔
      ¬refused ∧ rest = .ok result := by
  by_cases holds : refused
  · simp [holds]
  · simp [holds]

theorem ite_throw_eq_ok {refused : Prop} [Decidable refused] {problem : ε}
    {rest : Except ε β} {result : β} :
    (if refused then throw problem else rest) = .ok result ↔ ¬refused ∧ rest = .ok result :=
  ite_error_eq_ok

/-- A demand is accepted exactly when it is met and the rest is. -/
theorem ite_ok_error_eq_ok {met : Prop} [Decidable met] {problem : ε}
    {rest : Except ε β} {result : β} :
    (if met then rest else .error problem) = .ok result ↔ met ∧ rest = .ok result := by
  by_cases holds : met
  · simp [holds]
  · simp [holds]

theorem pure_eq_ok {value result : α} :
    (pure value : Except ε α) = .ok result ↔ value = result := by
  simp [pure, Except.pure]

theorem throw_eq_ok {problem : ε} {result : α} :
    (throw problem : Except ε α) = .ok result ↔ False := by
  simp [throw, throwThe, MonadExceptOf.throw]

theorem mapError_eq_ok {attempt : Except ε α} {name : ε → ε'} {result : α} :
    attempt.mapError name = .ok result ↔ attempt = .ok result := by
  cases attempt with
  | error problem =>
    show Except.error (name problem) = .ok result ↔ Except.error problem = .ok result
    simp
  | ok value =>
    show Except.ok value = .ok result ↔ Except.ok value = .ok result
    simp

theorem map_eq_ok {attempt : Except ε α} {change : α → β} {result : β} :
    attempt.map change = .ok result ↔ ∃ value, attempt = .ok value ∧ change value = result := by
  cases attempt with
  | error problem => simp [Except.map]
  | ok value => simp [Except.map]

theorem isOk_iff {attempt : Except ε α} : attempt.isOk = true ↔ ∃ value, attempt = .ok value := by
  cases attempt with
  | error problem => simp [Except.isOk, Except.toBool]
  | ok value => simp [Except.isOk, Except.toBool]

/-! Refusals -/

/-- A sequence is refused exactly when its first step is, or that is accepted and the rest is not. -/
theorem bind_eq_error {first : Except ε α} {rest : α → Except ε β} {problem : ε} :
    (first >>= rest) = .error problem ↔
      first = .error problem ∨ ∃ value, first = .ok value ∧ rest value = .error problem := by
  cases first with
  | error other => simp [bind, Except.bind]
  | ok value => simp [bind, Except.bind]

theorem mapError_eq_error {attempt : Except ε α} {name : ε → ε'} {problem : ε'} :
    attempt.mapError name = .error problem ↔ ∃ reason, attempt = .error reason ∧ name reason = problem := by
  cases attempt with
  | error reason =>
    show Except.error (name reason) = .error problem ↔ _
    simp
  | ok value =>
    show Except.ok value = .error problem ↔ _
    simp

theorem pure_eq_error {value : α} {problem : ε} :
    (pure value : Except ε α) = .error problem ↔ False := by
  simp [pure, Except.pure]

theorem toOption_eq_some {attempt : Except ε α} {value : α} :
    attempt.toOption = some value ↔ attempt = .ok value := by
  cases attempt with
  | error problem => simp [Except.toOption]
  | ok other => simp [Except.toOption]

/-- A check of an accepted result finds that result. -/
theorem any_toOption_iff {attempt : Except ε α} {check : α → Bool} :
    attempt.toOption.any check = true ↔ ∃ value, attempt = .ok value ∧ check value = true := by
  cases attempt with
  | error problem => simp [Except.toOption]
  | ok value => simp [Except.toOption]

end CardDuel
