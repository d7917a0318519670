import LangGraphServer.Lib.Coroutine

set_option autoImplicit false

namespace Coroutine

-- How one operation acts on the shared state, and what becomes of it when an exception is
-- thrown into the task that awaits it: its trace in the state and the work that goes on
-- without the task. Work that is left behind runs under the task's helper identity.
structure Machine (I : Interface) (State Id : Type) where
  perform : Id → (op : I.Op) → State → State × Except I.Error (I.Res op)
  interruptible : Id → I.Op → I.Error → Bool
  struck : Id → I.Op → I.Error → State → State
  leftover : Id → I.Op → List (Coro I Unit)
  helper : Id → Id
  helper_idem : ∀ id, helper (helper id) = helper id

structure Pool (I : Interface) (State Id : Type) where
  shared : State
  tasks : List (Id × Coro I Unit)

-- The scheduler picks a task; with a failure it throws that exception at the await.
structure Turn (I : Interface) where
  task : Nat
  failure : Option I.Error

variable {I : Interface} {State Id : Type}

namespace Machine

variable (machine : Machine I State Id)

def step (pool : Pool I State Id) (turn : Turn I) : Pool I State Id :=
  match pool.tasks[turn.task]? with
  | some (id, .await op resume) =>
      match turn.failure with
      | none =>
          let (after, answer) := machine.perform id op pool.shared
          ⟨after, pool.tasks.set turn.task (id, resume answer)⟩
      | some error =>
          if machine.interruptible id op error then
            ⟨machine.struck id op error pool.shared,
              pool.tasks.set turn.task (id, resume (.error error)) ++
                (machine.leftover id op).map (fun left => (machine.helper id, left))⟩
          else pool
  | some (id, .abandon left rest) =>
      ⟨pool.shared, pool.tasks.set turn.task (id, rest) ++ [(machine.helper id, left)]⟩
  | _ => pool

theorem step_await (pool : Pool I State Id) (turn : Turn I) (id : Id) (op : I.Op)
    (resume : Except I.Error (I.Res op) → Coro I Unit)
    (found : pool.tasks[turn.task]? = some (id, .await op resume)) (calm : turn.failure = none) :
    machine.step pool turn = ⟨(machine.perform id op pool.shared).1,
      pool.tasks.set turn.task (id, resume (machine.perform id op pool.shared).2)⟩ := by
  rw [step, found]
  simp only [calm]

theorem step_struck (pool : Pool I State Id) (turn : Turn I) (id : Id) (op : I.Op)
    (resume : Except I.Error (I.Res op) → Coro I Unit)
    (error : I.Error) (found : pool.tasks[turn.task]? = some (id, .await op resume))
    (failing : turn.failure = some error)
    (possible : machine.interruptible id op error = true) :
    machine.step pool turn = ⟨machine.struck id op error pool.shared, pool.tasks.set turn.task
      (id, resume (.error error)) ++ (machine.leftover id op).map (fun left => (machine.helper id, left))⟩ := by
  rw [step, found]
  simp only [failing, possible, if_true]

theorem step_abandon (pool : Pool I State Id) (turn : Turn I) (id : Id) (left rest : Coro I Unit)
    (found : pool.tasks[turn.task]? = some (id, .abandon left rest)) :
    machine.step pool turn = ⟨pool.shared, pool.tasks.set turn.task (id, rest) ++ [(machine.helper id, left)]⟩ := by
  rw [step, found]

theorem uses_step (allowed : I.Op → Prop) (quiet : ∀ id op, allowed op → machine.leftover id op = [])
    (pool : Pool I State Id) (uses : ∀ task ∈ pool.tasks, task.2.Uses allowed) (turn : Turn I) :
    ∀ task ∈ (machine.step pool turn).tasks, task.2.Uses allowed := by
  intro task member
  rw [step] at member
  split at member
  · rename_i id op resume found
    obtain ⟨may, further⟩ := uses _ (List.mem_of_getElem? found)
    have moved : ∀ answer, task ∈ pool.tasks.set turn.task (id, resume answer) → task.2.Uses allowed := by
      intro answer listed
      rcases List.mem_or_eq_of_mem_set listed with old | rfl
      · exact uses task old
      · exact further answer
    split at member
    · exact moved _ member
    · split at member
      · rw [quiet id op may, List.map_nil, List.append_nil] at member
        exact moved _ member
      · exact uses task member
  · rename_i id left rest found
    exact (uses _ (List.mem_of_getElem? found)).elim
  · exact uses task member

theorem awaits_step (allowed : I.Op → Prop) (inv : State → Prop)
    (leaves : ∀ id op, allowed op → ∀ left ∈ machine.leftover id op, left.Awaits allowed)
    (performs : ∀ id op state, allowed op → inv state → inv (machine.perform id op state).1)
    (strikes : ∀ id op error state, allowed op → inv state → inv (machine.struck id op error state))
    (pool : Pool I State Id)
    (awaits : ∀ task ∈ pool.tasks, task.2.Awaits allowed) (held : inv pool.shared) (turn : Turn I) :
    (∀ task ∈ (machine.step pool turn).tasks, task.2.Awaits allowed) ∧ inv (machine.step pool turn).shared := by
  have replaced : ∀ (id : Id) (program : Coro I Unit) (spawned : List (Id × Coro I Unit)), program.Awaits allowed →
      (∀ task ∈ spawned, task.2.Awaits allowed) →
      ∀ task ∈ pool.tasks.set turn.task (id, program) ++ spawned, task.2.Awaits allowed := by
    intro id program spawned own further task member
    rcases List.mem_append.mp member with old | new
    · rcases List.mem_or_eq_of_mem_set old with earlier | rfl
      · exact awaits task earlier
      · exact own
    · exact further task new
  rw [step]
  split
  · rename_i id op resume found
    obtain ⟨may, further⟩ := awaits _ (List.mem_of_getElem? found)
    split
    · refine ⟨fun task member => ?_, performs id op pool.shared may held⟩
      exact replaced id _ [] (further _) (fun _ listed => by cases listed) task (List.mem_append_left _ member)
    · split
      · refine ⟨replaced id _ _ (further _) (fun task listed => ?_), strikes id op _ pool.shared may held⟩
        obtain ⟨left, member, rfl⟩ := List.mem_map.mp listed
        exact leaves id op may left member
      · exact ⟨awaits, held⟩
  · rename_i id left rest found
    obtain ⟨leaving, going⟩ := awaits _ (List.mem_of_getElem? found)
    refine ⟨replaced id rest [(machine.helper id, left)] going (fun task listed => ?_), held⟩
    cases List.mem_singleton.mp listed
    exact leaving
  · exact ⟨awaits, held⟩

end Machine

end Coroutine
