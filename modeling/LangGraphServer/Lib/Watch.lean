import LangGraphServer.Lib.Pool
import LangGraphServer.Lib.Run

set_option autoImplicit false

namespace Coroutine

variable {I : Interface} {State Id Ghost : Type}

def Pool.seen (pool : Pool I (State × Ghost) Id) : Pool I State Id := ⟨pool.shared.1, pool.tasks⟩

namespace Machine

variable (machine : Machine I State Id) (observe : Id → (op : I.Op) → Except I.Error (I.Res op) → Ghost → Ghost)

-- The machine with a ghost that remembers what its tasks were answered.
def watched : Machine I (State × Ghost) Id where
  perform id op state :=
    (((machine.perform id op state.1).1, observe id op (machine.perform id op state.1).2 state.2),
      (machine.perform id op state.1).2)
  interruptible := machine.interruptible
  struck id op error state := (machine.struck id op error state.1, state.2)
  leftover := machine.leftover
  helper := machine.helper
  helper_idem := machine.helper_idem

theorem watched_step (pool : Pool I (State × Ghost) Id) (turn : Turn I) :
    ((machine.watched observe).step pool turn).seen = machine.step pool.seen turn := by
  rw [step, step]
  have tasks : pool.seen.tasks = pool.tasks := rfl
  rw [tasks]
  cases pool.tasks[turn.task]? with
  | none => rfl
  | some task =>
      obtain ⟨id, program⟩ := task
      cases program with
      | await op resume =>
          cases turn.failure with
          | none => rfl
          | some error =>
              show Pool.seen (if machine.interruptible id op error = true then _ else _) =
                if machine.interruptible id op error = true then _ else _
              split
              · rfl
              · rfl
      | ret value => rfl
      | raise error => rfl
      | yield item next closing => rfl
      | abandon left rest => rfl

theorem watched_run (start : Pool I (State × Ghost) Id) (turns : List (Turn I)) :
    (Transition.run (machine.watched observe).step start turns).seen =
      Transition.run machine.step start.seen turns := by
  induction turns generalizing start with
  | nil => rfl
  | cons turn rest ih =>
      refine (ih _).trans ?_
      rw [watched_step]
      rfl

theorem meets_watched (cond : Pool I State Id → Turn I → Prop) (start : Pool I (State × Ghost) Id)
    (turns : List (Turn I)) :
    Transition.Meets (machine.watched observe).step (fun pool turn => cond pool.seen turn) start turns ↔
      Transition.Meets machine.step cond start.seen turns := by
  induction turns generalizing start with
  | nil => rfl
  | cons turn rest ih =>
      refine and_congr Iff.rfl ((ih _).trans ?_)
      rw [watched_step]

theorem always_watched (holds : Pool I State Id → Prop) (start : Pool I (State × Ghost) Id) (turns : List (Turn I)) :
    Transition.Always (machine.watched observe).step (fun pool => holds pool.seen) start turns ↔
      Transition.Always machine.step holds start.seen turns := by
  induction turns generalizing start with
  | nil => rfl
  | cons turn rest ih =>
      refine and_congr Iff.rfl ((ih _).trans ?_)
      rw [watched_step]

end Machine

end Coroutine
