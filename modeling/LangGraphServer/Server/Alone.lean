import LangGraphServer.Lib.Sequential
import LangGraphServer.Server.StoreRules

set_option autoImplicit false

namespace LangGraphServer

open Collections Coroutine

namespace ServerState

def latest (persistent : Bool) (state : ServerState) (threadId : String) : Option CheckpointItem :=
  if persistent = true then state.agetTuple (checkpointConfig threadId none "") else none

def threadExists (persistent : Bool) (state : ServerState) (threadId : String) : Bool :=
  (state.store.getThread threadId).isSome || (state.latest persistent threadId).isSome

end ServerState

section Alone

variable (platform : Platform) (config : ServerConfig) (context : RequestContext) (id : TaskId)

-- What a coroutine does when nothing else happens.
def aloneIn {α : Type} (program : Coro Api α) (state : ServerState) : ServerState × Except ServerError α :=
  (serverMachine platform config.checkpointer.isSome).alone id program state

-- It is the run of a server with that task only, to which every such run comes at its end.
theorem alone_in_runs {α : Type} (allowed : ServerOp → Prop) (program : Coro Api α) (uses : program.Uses allowed)
    (state : ServerState) :
    (∃ turns, Transition.run (serverMachine platform config.checkpointer.isSome).step
      ⟨state, [(id, program.void)]⟩ turns = ⟨(aloneIn platform config id program state).1,
        [(id, (attempt (aloneIn platform config id program state).2).void)]⟩) ∧
    ∀ turns : List (Turn Api), (∀ turn ∈ turns, turn.failure = none) →
      (∀ task ∈ (Transition.run (serverMachine platform config.checkpointer.isSome).step
        ⟨state, [(id, program.void)]⟩ turns).tasks, task.2.Ended) →
      (Transition.run (serverMachine platform config.checkpointer.isSome).step
        ⟨state, [(id, program.void)]⟩ turns).shared =
        (aloneIn platform config id program state).1 := by
  constructor
  · obtain ⟨turns, _, reached⟩ := (serverMachine platform config.checkpointer.isSome).alone_is_a_run id
      allowed program uses ⟨state, [(id, program.void)]⟩ 0 rfl
    exact ⟨turns, reached⟩
  · intro turns calm complete
    exact congrArg Pool.shared ((serverMachine platform config.checkpointer.isSome).calm_run_is_alone id allowed
      program uses _ state (by split <;> trivial) turns calm complete)

def recordFor (state : ServerState) (threadId : String) (metadata : Option Metadata) : Thread :=
  match state.latest config.checkpointer.isSome threadId with
  | some item => { threadOfItem platform context threadId item with values := .empty }
  | none => ⟨threadId, context.now .created, context.now .created, metadata.getD .empty, "idle", .empty⟩

theorem thread_from_checkpoint_alone (threadId : String) (state : ServerState) :
    aloneIn platform config id (threadFromCheckpoint platform config context threadId) state =
      (state, .ok ((state.latest config.checkpointer.isSome threadId).map
        (threadOfItem platform context threadId))) := by
  rw [threadFromCheckpoint, ServerState.latest]
  cases config.checkpointer with
  | none => rfl
  | some saver => rfl

theorem alone_then {α β : Type} (program : Coro Api α) (next : α → Coro Api β) (state after : ServerState) (value : α)
    (first : aloneIn platform config id program state = (after, .ok value)) :
    aloneIn platform config id (program >>= next) state = aloneIn platform config id (next value) after :=
  (serverMachine platform config.checkpointer.isSome).alone_bind_ok id program next state after value first

theorem alone_fails {α β : Type} (program : Coro Api α) (next : α → Coro Api β) (state after : ServerState)
    (error : ServerError) (first : aloneIn platform config id program state = (after, .error error)) :
    aloneIn platform config id (program >>= next) state = (after, .error error) :=
  (serverMachine platform config.checkpointer.isSome).alone_bind_error id program next state after error first

theorem alone_answers {α β : Type} (program : Coro Api α) (next : α → Coro Api β)
    (state last : ServerState) (answer : β)
    (ended : aloneIn platform config id (program >>= next) state = (last, .ok answer)) :
    ∃ after value, aloneIn platform config id program state = (after, .ok value) ∧
      aloneIn platform config id (next value) after = (last, .ok answer) :=
  (serverMachine platform config.checkpointer.isSome).alone_bind_answer id program next state last answer ended

theorem alone_failed {α β : Type} (program : Coro Api α) (next : α → Coro Api β) (state last : ServerState)
    (error : ServerError) (ended : aloneIn platform config id (program >>= next) state = (last, .error error)) :
    aloneIn platform config id program state = (last, .error error) ∨ ∃ after value,
      aloneIn platform config id program state = (after, .ok value) ∧
        aloneIn platform config id (next value) after = (last, .error error) :=
  (serverMachine platform config.checkpointer.isSome).alone_bind_failure id program next state last error ended

theorem attempt_alone {α : Type} (outcome : Except ServerError α) (state : ServerState) :
    aloneIn platform config id (attempt outcome) state = (state, outcome) :=
  (serverMachine platform config.checkpointer.isSome).alone_of_except id outcome state

theorem thread_exists_alone (threadId : String) (state : ServerState) :
    aloneIn platform config id (threadExists platform config context threadId) state =
      (state, .ok (state.threadExists config.checkpointer.isSome threadId)) := by
  rw [ServerState.threadExists]
  refine (alone_then platform config id _ _ state state (state.store.getThread threadId) rfl).trans ?_
  cases state.store.getThread threadId with
  | some thread => rfl
  | none =>
      refine (alone_then platform config id _ _ state state _
        (thread_from_checkpoint_alone platform config context id threadId state)).trans ?_
      rw [Option.isSome_map, Option.isSome_none, Bool.false_or]
      rfl

theorem record_id (state : ServerState) (threadId : String) (metadata : Option Metadata) :
    (recordFor platform config context state threadId metadata).threadId = threadId := by
  rw [recordFor]
  split <;> rfl

theorem put_thread_alone (thread answer : Thread) (state : ServerState) :
    aloneIn platform config id (perform (.putThread thread) >>= fun _ => pure answer) state =
      ({ state with store := (state.store.putThread platform thread).1 },
        (state.store.putThread platform thread).2.map (fun _ => answer)) := by
  generalize written : state.store.putThread platform thread = put
  obtain ⟨store, outcome⟩ := put
  have performed : aloneIn platform config id (perform (.putThread thread)) state =
      ({ state with store := store }, outcome) := by
    refine ((serverMachine platform config.checkpointer.isSome).alone_perform id _ state).trans ?_
    simp only [serverMachine, ServerState.perform, written]
  cases outcome with
  | ok done => exact alone_then platform config id _ _ state _ done performed
  | error error => exact alone_fails platform config id _ _ state _ error performed

theorem get_or_create_thread_alone (threadId : String) (metadata : Option Metadata) (state : ServerState) :
    aloneIn platform config id (getOrCreateThread platform config context (some threadId) metadata) state =
      match state.store.getThread threadId with
      | some existing => (state, .ok existing)
      | none =>
          ({ state with store := (state.store.putThread platform
            (recordFor platform config context state threadId metadata)).1 },
            (state.store.putThread platform (recordFor platform config context state threadId metadata)).2.map (fun _ =>
              ((state.latest config.checkpointer.isSome threadId).map (threadOfItem platform context threadId)).getD
                (recordFor platform config context state threadId metadata))) := by
  refine (alone_then platform config id _ _ state state (state.store.getThread threadId) rfl).trans ?_
  cases state.store.getThread threadId with
  | some thread => rfl
  | none =>
      refine (alone_then platform config id _ _ state state _
        (thread_from_checkpoint_alone platform config context id threadId state)).trans ?_
      rw [recordFor]
      cases state.latest config.checkpointer.isSome threadId with
      | some item => exact put_thread_alone platform config id _ _ state
      | none => exact put_thread_alone platform config id _ _ state

end Alone

end LangGraphServer
