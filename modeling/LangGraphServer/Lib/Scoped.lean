set_option autoImplicit false

namespace Scoped

variable {σ ε α : Type}

-- What code does: it ends or raises, and leaves a state behind.
abbrev Action (σ ε : Type) := σ → Except ε Unit × σ

-- A generator function with one `yield`, given the code that runs there. It says whether it
-- came to its `yield`.
abbrev Generator (σ ε : Type) := Action σ ε → σ → Except ε Bool × σ

def contextManager (missing : ε) (generator : Generator σ ε) (body : Action σ ε) : Action σ ε := fun start =>
  match generator body start with
  | (.ok true, after) => (.ok (), after)
  | (.ok false, after) => (.error missing, after)
  | (.error error, after) => (.error error, after)

def tryFinally (body : σ → Except ε α × σ) (cleanup : Action σ ε) : σ → Except ε α × σ := fun start =>
  match cleanup (body start).2 with
  | (.ok _, after) => ((body start).1, after)
  | (.error error, after) => (.error error, after)

-- An object that code can run within. Leaving it may raise, or suppress what was raised.
structure Manager (σ ε α : Type) where
  enter : σ → Except ε α × σ
  leave : Except ε Unit → σ → Except ε Bool × σ

-- `yields` says for what is entered whether the code gets to a `yield`.
def Manager.around (manager : Manager σ ε α) (yields : α → Bool) (body : α → Action σ ε) (start : σ) :
    Except ε Bool × σ :=
  match manager.enter start with
  | (.error error, entered) => (.error error, entered)
  | (.ok value, entered) =>
      match manager.leave (body value entered).1 (body value entered).2 with
      | (.error error, after) => (.error error, after)
      | (.ok suppresses, after) =>
          match (body value entered).1 with
          | .ok _ => (.ok (yields value), after)
          | .error error => if suppresses = true then (.ok (yields value), after) else (.error error, after)

theorem context_manager_leaves (missing : ε) (generator : Generator σ ε) (body : Action σ ε) (start : σ) :
    (contextManager missing generator body start).2 = (generator body start).2 := by
  rw [contextManager]
  split <;> simp [*]

theorem context_manager_ended (missing : ε) (generator : Generator σ ε) (body : Action σ ε) (start : σ)
    (ended : (contextManager missing generator body start).1 = .ok ()) : (generator body start).1 = .ok true := by
  rw [contextManager] at ended
  split at ended
  next reached => rw [reached]
  next => cases ended
  next => cases ended

theorem try_finally_leaves (body : σ → Except ε α × σ) (cleanup : Action σ ε) (start : σ) :
    (tryFinally body cleanup start).2 = (cleanup (body start).2).2 := by
  rw [tryFinally]
  split <;> simp [*]

theorem try_finally_ended (body : σ → Except ε α × σ) (cleanup : Action σ ε) (start : σ) (value : α)
    (ended : (tryFinally body cleanup start).1 = .ok value) : (body start).1 = .ok value := by
  rw [tryFinally] at ended
  split at ended
  · exact ended
  · cases ended

-- What is entered is left whatever the code within does; that the code came to its `yield` is
-- said only where it gets to one.
theorem around_leaves (manager : Manager σ ε α) (yields : α → Bool) (body : α → Action σ ε) (start : σ) :
    (∃ error entered, manager.enter start = (.error error, entered) ∧
      manager.around yields body start = (.error error, entered)) ∨
    ∃ value entered, manager.enter start = (.ok value, entered) ∧
      (manager.around yields body start).2 = (manager.leave (body value entered).1 (body value entered).2).2 ∧
      ∀ reached, (manager.around yields body start).1 = .ok reached → yields value = reached := by
  cases opening : manager.enter start with
  | mk answer entered =>
      cases answer with
      | error error => exact Or.inl ⟨error, entered, rfl, by rw [Manager.around, opening]⟩
      | ok value =>
          refine Or.inr ⟨value, entered, rfl, ?_⟩
          rw [Manager.around, opening]
          dsimp only
          cases left : manager.leave (body value entered).1 (body value entered).2 with
          | mk answer after =>
              cases answer with
              | error error => exact ⟨rfl, fun reached ended => by cases ended⟩
              | ok suppresses =>
                  cases (body value entered).1 with
                  | ok done => exact ⟨rfl, fun reached ended => Except.ok.inj ended⟩
                  | error error =>
                      cases suppresses with
                      | true => exact ⟨rfl, fun reached ended => Except.ok.inj ended⟩
                      | false => exact ⟨rfl, fun reached ended => by cases ended⟩

end Scoped
