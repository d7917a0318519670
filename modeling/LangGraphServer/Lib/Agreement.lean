import LangGraphServer.Lib.Pool
import LangGraphServer.Lib.Run

set_option autoImplicit false

namespace Coroutine

variable {I : Interface} {State Id : Type} {α β : Type}

namespace Coro

-- Two coroutines that differ only behind answers that are not good.
inductive Agree (good : (op : I.Op) → Except I.Error (I.Res op) → Prop) : Coro I α → Coro I α → Prop where
  | same (program : Coro I α) : Agree good program program
  | await (op : I.Op) (first second : Except I.Error (I.Res op) → Coro I α)
      (further : ∀ answer, good op answer → Agree good (first answer) (second answer)) :
      Agree good (.await op first) (.await op second)

-- A coroutine that is no generator, with what holds of its outcomes along good answers.
def Answered (good : (op : I.Op) → Except I.Error (I.Res op) → Prop) (ends : Except I.Error α → Prop) : Coro I α → Prop
  | .ret value => ends (.ok value)
  | .raise error => ends (.error error)
  | .await op resume => ∀ answer, good op answer → Answered good ends (resume answer)
  | .yield _ _ _ => False
  | .abandon _ _ => False

variable (good : (op : I.Op) → Except I.Error (I.Res op) → Prop)

theorem agree_handle (first second : Coro I α) (next : Except I.Error α → Coro I β) (agree : Agree good first second) :
    Agree good (first.handle next) (second.handle next) := by
  induction agree with
  | same program => exact .same _
  | await op first second _ ih => exact .await op _ _ (fun answer fine => ih answer fine)

theorem agree_bind (first second : Coro I α) (next : α → Coro I β) (agree : Agree good first second) :
    Agree good (first >>= next) (second >>= next) := agree_handle good first second _ agree

theorem agree_finally (first second : Coro I α) (cleanup : Coro I Unit) (agree : Agree good first second) :
    Agree good (first.tryFinally cleanup) (second.tryFinally cleanup) := agree_handle good first second _ agree

theorem agree_void (first second : Coro I α) (agree : Agree good first second) : Agree good first.void second.void :=
  agree_handle good first second _ agree

theorem answered_handle (program : Coro I α) (first second : Except I.Error α → Coro I β)
    (ends : Except I.Error α → Prop)
    (answered : Answered good ends program) (agree : ∀ outcome, ends outcome → Agree good (first outcome)
      (second outcome)) :
    Agree good (program.handle first) (program.handle second) := by
  induction program with
  | ret value => exact agree _ answered
  | raise error => exact agree _ answered
  | await op resume ih =>
      exact .await op _ _ (fun answer fine => ih answer first second ends (answered answer fine) agree)
  | yield item next closing => exact answered.elim
  | abandon left rest => exact answered.elim

theorem answered_bind (program : Coro I α) (first second : α → Coro I β) (ends : α → Prop)
    (answered : Answered good (fun outcome => ∀ value, outcome = .ok value → ends value) program)
    (agree : ∀ value, ends value → Agree good (first value) (second value)) :
    Agree good (program >>= first) (program >>= second) := by
  refine answered_handle good program _ _ _ answered (fun outcome ended => ?_)
  cases outcome with
  | ok value => exact agree value (ended value rfl)
  | error error => exact .same _

theorem answered_of_uses (allowed : I.Op → Prop) (program : Coro I α) (ends : Except I.Error α → Prop)
    (uses : program.Uses allowed) (any : ∀ outcome, ends outcome) : Answered good ends program := by
  induction program with
  | ret value => exact any _
  | raise error => exact any _
  | await op resume ih => exact fun answer _ => ih answer ends (uses.2 answer) any
  | yield item next closing => exact uses.elim
  | abandon left rest => exact uses.elim

def outcome? : Coro I α → Option (Except I.Error α)
  | .ret value => some (.ok value)
  | .raise error => some (.error error)
  | _ => none

theorem agree_outcome (first second : Coro I α) (agree : Agree good first second) :
    first.outcome? = second.outcome? := by
  cases agree with
  | same program => rfl
  | await op first second further => rfl

end Coro

-- Two pools that agree place by place; what is good may depend on the place.
structure PoolsAgree (good : Nat → (op : I.Op) → Except I.Error (I.Res op) → Prop)
    (first second : Pool I State Id) : Prop where
  shared : first.shared = second.shared
  size : first.tasks.length = second.tasks.length
  tasks : ∀ position id program, first.tasks[position]? = some (id, program) →
    ∃ other, second.tasks[position]? = some (id, other) ∧ Coro.Agree (good position) program other

theorem pools_agree_outcomes (good : Nat → (op : I.Op) → Except I.Error (I.Res op) → Prop)
    (first second : Pool I State Id)
    (agree : PoolsAgree good first second) : first.tasks.map (fun task => (task.1, task.2.outcome?)) =
      second.tasks.map (fun task => (task.1, task.2.outcome?)) := by
  refine List.ext_getElem? (fun position => ?_)
  rw [List.getElem?_map, List.getElem?_map]
  cases found : first.tasks[position]? with
  | none =>
      have beyond := List.getElem?_eq_none_iff.mp found
      rw [List.getElem?_eq_none_iff.mpr (agree.size ▸ beyond)]
  | some task =>
      obtain ⟨id, program⟩ := task
      obtain ⟨other, foundToo, same⟩ := agree.tasks position id program found
      rw [foundToo, Option.map_some, Option.map_some, Coro.agree_outcome (good position) program other same]

namespace Machine

variable (machine : Machine I State Id) (good : Nat → (op : I.Op) → Except I.Error (I.Res op) → Prop)

def Fine (pool : Pool I State Id) (turn : Turn I) : Prop :=
  ∀ id op resume, pool.tasks[turn.task]? = some (id, .await op resume) → match turn.failure with
    | none => good turn.task op (machine.perform id op pool.shared).2
    | some error => good turn.task op (.error error)

theorem pools_agree_set (first second : Pool I State Id) (agree : PoolsAgree good first second) (shared : State)
    (position : Nat) (id : Id) (program other : Coro I Unit) (same : Coro.Agree (good position) program other)
    (found : position < first.tasks.length) (left : List (Id × Coro I Unit)) :
    PoolsAgree good ⟨shared, first.tasks.set position (id, program) ++ left⟩
      ⟨shared, second.tasks.set position (id, other) ++ left⟩ := by
  refine ⟨rfl, ?_, fun place owner task listed => ?_⟩
  · simp only [List.length_append, List.length_set, agree.size]
  · by_cases within : place < first.tasks.length
    · rw [List.getElem?_append_left (by rw [List.length_set]; exact within), List.getElem?_set] at listed
      rw [List.getElem?_append_left (by rw [List.length_set, ← agree.size]; exact within), List.getElem?_set]
      by_cases here : position = place
      · subst here
        rw [if_pos rfl, if_pos found, Option.some.injEq, Prod.mk.injEq] at listed
        rw [if_pos rfl, if_pos (agree.size ▸ found)]
        exact ⟨other, by rw [listed.1], listed.2 ▸ same⟩
      · rw [if_neg here] at listed
        rw [if_neg here]
        exact agree.tasks place owner task listed
    · rw [List.getElem?_append_right (by rw [List.length_set]; exact Nat.le_of_not_lt within), List.length_set]
        at listed
      rw [List.getElem?_append_right (by rw [List.length_set, ← agree.size]; exact Nat.le_of_not_lt within),
        List.length_set, ← agree.size]
      exact ⟨task, listed, .same task⟩

theorem step_agrees (first second : Pool I State Id) (agree : PoolsAgree good first second) (turn : Turn I)
    (fine : machine.Fine good first turn) : PoolsAgree good (machine.step first turn) (machine.step second turn) := by
  cases found : first.tasks[turn.task]? with
  | none =>
      have beyond := List.getElem?_eq_none_iff.mp found
      have beyondToo : second.tasks[turn.task]? = none := List.getElem?_eq_none_iff.mpr (agree.size ▸ beyond)
      rw [step, step, found, beyondToo]
      exact agree
  | some task =>
      obtain ⟨id, program⟩ := task
      obtain ⟨other, foundToo, same⟩ := agree.tasks turn.task id program found
      obtain ⟨within, _⟩ := List.getElem?_eq_some_iff.mp found
      cases same with
      | same program =>
          cases program with
          | ret value =>
              rw [step, step, found, foundToo]
              exact agree
          | raise error =>
              rw [step, step, found, foundToo]
              exact agree
          | yield item next closing =>
              rw [step, step, found, foundToo]
              exact agree
          | abandon left rest =>
              rw [step, step, found, foundToo, agree.shared]
              exact pools_agree_set good first second agree _ _ id rest rest (.same rest) within _
          | await op resume =>
              rw [step, step, found, foundToo]
              dsimp only
              cases turn.failure with
              | none =>
                  rw [agree.shared]
                  have moved := pools_agree_set good first second agree
                    (machine.perform id op second.shared).1 turn.task id
                    (resume (machine.perform id op second.shared).2) _ (.same _) within []
                  simpa only [List.append_nil] using moved
              | some error =>
                  rw [agree.shared]
                  dsimp only
                  split
                  · exact pools_agree_set good first second agree _ _ id _ _ (.same _) within _
                  · exact agree
      | await op resume otherResume further =>
          have answered := fine id op resume found
          rw [step, step, found, foundToo]
          dsimp only
          cases failed : turn.failure with
          | none =>
              rw [failed] at answered
              dsimp only at answered
              rw [agree.shared] at answered ⊢
              have moved := pools_agree_set good first second agree (machine.perform id op second.shared).1
                turn.task id _ _ (further _ answered) within []
              simpa only [List.append_nil] using moved
          | some error =>
              rw [failed] at answered
              rw [agree.shared]
              dsimp only
              split
              · exact pools_agree_set good first second agree _ _ id _ _ (further _ answered) within _
              · exact agree

theorem run_agrees (first second : Pool I State Id) (agree : PoolsAgree good first second) (turns : List (Turn I))
    (fine : Transition.Meets machine.step (machine.Fine good) first turns) :
    PoolsAgree good (Transition.run machine.step first turns) (Transition.run machine.step second turns) := by
  induction turns generalizing first second with
  | nil => exact agree
  | cons turn rest ih => exact ih _ _ (machine.step_agrees good first second agree turn fine.1) fine.2

end Machine

end Coroutine
