import LangGraphServer.Lib.Pool
import LangGraphServer.Lib.Run

set_option autoImplicit false

namespace Coroutine

variable {I : Interface} {State Id : Type} {α β : Type}

namespace Machine

variable (machine : Machine I State Id) (id : Id)

-- A coroutine that has the machine to itself and at which nothing is thrown. A generator
-- is read to its end, and one that is let go of is closed at once.
def alone {α : Type} : Coro I α → State → State × Except I.Error α
  | .ret value, state => (state, .ok value)
  | .raise error, state => (state, .error error)
  | .await op resume, state =>
      alone (resume (machine.perform id op state).2) (machine.perform id op state).1
  | .yield _ next _, state => alone next state
  | .abandon left rest, state => alone rest (alone left state).1

@[simp] theorem alone_ret (value : α) (state : State) :
    machine.alone id (.ret value : Coro I α) state = (state, .ok value) := rfl

@[simp] theorem alone_raise (error : I.Error) (state : State) :
    machine.alone id (.raise error : Coro I α) state = (state, .error error) := rfl

theorem alone_await (op : I.Op) (resume : Except I.Error (I.Res op) → Coro I α) (state : State) :
    machine.alone id (.await op resume) state =
      machine.alone id (resume (machine.perform id op state).2) (machine.perform id op state).1 := rfl

theorem alone_handle (program : Coro I α) (next : Except I.Error α → Coro I β) (state : State) :
    machine.alone id (program.handle next) state =
      machine.alone id (next (machine.alone id program state).2) (machine.alone id program state).1 := by
  induction program generalizing state with
  | ret value => rfl
  | raise error => rfl
  | await op resume ih => exact ih (machine.perform id op state).2 next (machine.perform id op state).1
  | yield item more closing moreIh _ => exact moreIh next state
  | abandon left rest _ restIh => exact restIh next (machine.alone id left state).1

theorem alone_bind (program : Coro I α) (next : α → Coro I β) (state : State) :
    machine.alone id (program >>= next) state =
      match (machine.alone id program state).2 with
      | .ok value => machine.alone id (next value) (machine.alone id program state).1
      | .error error => ((machine.alone id program state).1, .error error) := by
  refine (machine.alone_handle id program _ state).trans ?_
  cases (machine.alone id program state).2 with
  | ok value => rfl
  | error error => rfl

theorem alone_bind_ok (program : Coro I α) (next : α → Coro I β) (state after : State) (value : α)
    (first : machine.alone id program state = (after, .ok value)) :
    machine.alone id (program >>= next) state = machine.alone id (next value) after := by
  rw [alone_bind, first]

theorem alone_bind_error (program : Coro I α) (next : α → Coro I β) (state after : State) (error : I.Error)
    (first : machine.alone id program state = (after, .error error)) :
    machine.alone id (program >>= next) state = (after, .error error) := by
  rw [alone_bind, first]

theorem alone_bind_answer (program : Coro I α) (next : α → Coro I β) (state last : State) (answer : β)
    (ended : machine.alone id (program >>= next) state = (last, .ok answer)) :
    ∃ after value, machine.alone id program state = (after, .ok value) ∧
      machine.alone id (next value) after = (last, .ok answer) := by
  rw [alone_bind] at ended
  cases reached : machine.alone id program state with
  | mk after outcome =>
      rw [reached] at ended
      cases outcome with
      | ok value => exact ⟨after, value, rfl, ended⟩
      | error error => cases ended

theorem alone_bind_failure (program : Coro I α) (next : α → Coro I β) (state last : State) (error : I.Error)
    (ended : machine.alone id (program >>= next) state = (last, .error error)) :
    machine.alone id program state = (last, .error error) ∨ ∃ after value,
      machine.alone id program state = (after, .ok value) ∧
        machine.alone id (next value) after = (last, .error error) := by
  rw [alone_bind] at ended
  cases reached : machine.alone id program state with
  | mk after outcome =>
      rw [reached] at ended
      cases outcome with
      | ok value => exact Or.inr ⟨after, value, rfl, ended⟩
      | error given =>
          cases ended
          exact Or.inl rfl

@[simp] theorem alone_of_except (outcome : Except I.Error α) (state : State) :
    machine.alone id (Coro.ofExcept outcome) state = (state, outcome) := by
  cases outcome <;> rfl

@[simp] theorem alone_perform (op : I.Op) (state : State) :
    machine.alone id (Coro.perform op) state = machine.perform id op state := by
  rw [Coro.perform, alone_await, alone_of_except]

theorem alone_catch (program : Coro I α) (handler : I.Error → Coro I α) (state : State) :
    machine.alone id (program.tryCatch handler) state =
      match (machine.alone id program state).2 with
      | .ok value => ((machine.alone id program state).1, .ok value)
      | .error error => machine.alone id (handler error) (machine.alone id program state).1 := by
  refine (machine.alone_handle id program _ state).trans ?_
  cases (machine.alone id program state).2 with
  | ok value => rfl
  | error error => rfl

theorem alone_is_a_run (allowed : I.Op → Prop) (program : Coro I α) (uses : program.Uses allowed)
    (pool : Pool I State Id) (position : Nat) (found : pool.tasks[position]? = some (id, program.void)) :
    ∃ turns : List (Turn I), (∀ turn ∈ turns, turn.task = position ∧ turn.failure = none) ∧
      Transition.run machine.step pool turns = ⟨(machine.alone id program pool.shared).1,
        pool.tasks.set position (id, (Coro.ofExcept (machine.alone id program pool.shared).2).void)⟩ := by
  induction program generalizing pool with
  | ret value =>
      refine ⟨[], by simp, ?_⟩
      obtain ⟨within, here⟩ := List.getElem?_eq_some_iff.mp found
      have same := List.set_getElem_self within
      rw [here] at same
      exact congrArg (Pool.mk pool.shared) same.symm
  | raise error =>
      refine ⟨[], by simp, ?_⟩
      obtain ⟨within, here⟩ := List.getElem?_eq_some_iff.mp found
      have same := List.set_getElem_self within
      rw [here] at same
      exact congrArg (Pool.mk pool.shared) same.symm
  | await op resume ih =>
      have stepped : machine.step pool ⟨position, none⟩ = ⟨(machine.perform id op pool.shared).1,
          pool.tasks.set position (id, (resume (machine.perform id op pool.shared).2).void)⟩ := by
        rw [step, found]
        rfl
      obtain ⟨within, _⟩ := List.getElem?_eq_some_iff.mp found
      obtain ⟨turns, own, reached⟩ := ih (machine.perform id op pool.shared).2 (uses.2 _)
        (machine.step pool ⟨position, none⟩) (by rw [stepped, List.getElem?_set_self within])
      refine ⟨⟨position, none⟩ :: turns, ?_, ?_⟩
      · intro turn listed
        rcases List.mem_cons.mp listed with rfl | later
        · exact ⟨rfl, rfl⟩
        · exact own turn later
      · refine reached.trans ?_
        rw [stepped, List.set_set, alone_await]
  | yield item next closing => exact uses.elim
  | abandon left rest => exact uses.elim

theorem calm_step_is_alone (allowed : I.Op → Prop) (program : Coro I α) (uses : program.Uses allowed)
    (next : Except I.Error α → Coro I Unit) (state : State) (stops : (next (machine.alone id program state).2).Ended)
    (turn : Turn I) (calm : turn.failure = none) :
    ∃ now rest, machine.step ⟨state, [(id, program.handle next)]⟩ turn = ⟨now, [(id, Coro.handle rest next)]⟩ ∧
      rest.Uses allowed ∧ machine.alone id rest now = machine.alone id program state := by
  have idle : ∀ program : Coro I Unit, program.Ended →
      machine.step ⟨state, [(id, program)]⟩ turn = ⟨state, [(id, program)]⟩ := by
    intro program ended
    rw [step]
    split
    · rename_i other op resume found
      cases List.mem_singleton.mp (List.mem_of_getElem? found)
      exact ended.elim
    · rename_i other left rest found
      cases List.mem_singleton.mp (List.mem_of_getElem? found)
      exact ended.elim
    · rfl
  cases program with
  | ret value => exact ⟨state, .ret value, idle _ stops, trivial, rfl⟩
  | raise error => exact ⟨state, .raise error, idle _ stops, trivial, rfl⟩
  | await op resume =>
      by_cases mine : turn.task = 0
      · refine ⟨_, resume (machine.perform id op state).2, ?_, uses.2 _, rfl⟩
        refine (machine.step_await ⟨state, [(id, (Coro.await op resume).handle next)]⟩ turn id op
          (fun answer => (resume answer).handle next) (by rw [mine]; rfl) calm).trans ?_
        rw [mine]
        rfl
      · refine ⟨state, .await op resume, ?_, uses, rfl⟩
        rw [step, List.getElem?_eq_none (by rw [List.length_singleton]; omega)]
  | yield item more closing => exact uses.elim
  | abandon left rest => exact uses.elim

theorem calm_run_is_alone (allowed : I.Op → Prop) (program : Coro I α) (uses : program.Uses allowed)
    (next : Except I.Error α → Coro I Unit) (state : State) (stops : (next (machine.alone id program state).2).Ended)
    (turns : List (Turn I)) (calm : ∀ turn ∈ turns, turn.failure = none)
    (complete : ∀ task ∈ (Transition.run machine.step ⟨state, [(id, program.handle next)]⟩ turns).tasks, task.2.Ended) :
    Transition.run machine.step ⟨state, [(id, program.handle next)]⟩ turns =
      ⟨(machine.alone id program state).1, [(id, next (machine.alone id program state).2)]⟩ := by
  induction turns generalizing program state with
  | nil =>
      have ended := complete _ (List.mem_singleton_self _)
      cases program with
      | ret value => rfl
      | raise error => rfl
      | await op resume => exact ended.elim
      | yield item more closing => exact uses.elim
      | abandon left rest => exact uses.elim
  | cons turn later ih =>
      obtain ⟨now, rest, stepped, still, same⟩ :=
        machine.calm_step_is_alone id allowed program uses next state stops turn (calm turn List.mem_cons_self)
      change ∀ task ∈ (Transition.run machine.step (machine.step ⟨state, [(id, program.handle next)]⟩ turn)
        later).tasks, _ at complete
      change Transition.run machine.step (machine.step ⟨state, [(id, program.handle next)]⟩ turn) later = _
      rw [stepped] at complete ⊢
      rw [← same] at stops ⊢
      exact ih rest still now stops (fun turn listed => calm turn (List.mem_cons_of_mem _ listed)) complete

end Machine

end Coroutine
