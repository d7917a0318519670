import LangGraphServer.Server.OwnerRuns

set_option autoImplicit false

namespace LangGraphServer

open Collections Coroutine

-- An update that copies a checkpoint, which LangGraph writes without the config's metadata.
def Request.Copies : Request → Prop
  | .updateState _ body => body.asNode = copyNode
  | _ => False

section Sequences

variable (platform : Platform) (config : ServerConfig)

-- What a request, its turns and the work it leaves behind come to.
def requestRun (state : ServerState) (context : RequestContext) (request : Request) (turns : List (Turn Api)) :
    Pool Api ServerState TaskId :=
  Transition.run (serverMachine platform config.checkpointer.isSome).step
    ⟨state, serveAll platform config [(context, request)]⟩ turns

-- Complete requests, one after another. Between them thread records may be lost, up to all
-- of them with everything else that a process holds; the saver keeps what it has.
inductive InSequence : ServerState → Prop where
  | fresh (state : ServerState) (unsaved : state.saved = .empty) : InSequence state
  | request (before : ServerState) (earlier : InSequence before) (context : RequestContext) (request : Request)
      (turns : List (Turn Api)) (written : ¬ request.Copies)
        (complete : ∀ task ∈ (requestRun platform config before context request turns).tasks, task.2.Ended) :
      InSequence (requestRun platform config before context request turns).shared
  | lost (before after : ServerState) (earlier : InSequence before)
      (records : ∀ query, after.store.threads.get? query = before.store.threads.get? query ∨
        after.store.threads.get? query = none)
      (saved : after.saved = before.saved) : InSequence after

variable {platform config}

theorem shrinks_keep_durable (persistent : Bool) (id : TaskId) (op : ServerOp) (state : ServerState)
    (shrinks : Shrinks op) (durable : Durable state) : Durable (state.perform platform persistent id op).1 := by
  have calmly : Calm op → Durable (state.perform platform persistent id op).1 := by
    intro calm
    obtain ⟨owners, saved, _⟩ := calm_keeps platform persistent id op state calm
    exact durable_shrunk durable (fun query => Or.inl (owners query))
      (fun query => Or.inl (items_same_saved _ _ saved query))
  cases op
  case claimAssistant query assistantId => exact shrinks.elim
  case aput config item => exact shrinks.elim
  case deleteThread query =>
    refine durable_shrunk durable (fun other => ?_) (fun _ => Or.inl rfl)
    have owner := state.store.delete_thread_owner query other
    by_cases here : other = query
    · exact Or.inr (owner.trans (if_pos here))
    · exact Or.inl (owner.trans (if_neg here))
  case deleteCheckpoints query =>
    refine durable_shrunk durable (fun _ => Or.inl rfl) (fun other => ?_)
    have items := items_delete_checkpoints state query other
    by_cases here : other = query
    · exact Or.inr (items.trans (if_pos here))
    · exact Or.inl (items.trans (if_neg here))
  case begin graphOf =>
    refine durable_shrunk durable (fun _ => Or.inl ?_) (fun _ => Or.inl ?_) <;> simp only [ServerState.perform] <;>
      split <;> rfl
  case note entry => exact durable_shrunk durable (fun _ => Or.inl rfl) (fun _ => Or.inl rfl)
  all_goals exact calmly trivial

theorem shrinks_leave (op : ServerOp) (shrinks : Shrinks op) : ∀ left ∈ leftover op, left.Awaits Shrinks := by
  intro left listed
  cases op
  case aput config item => exact shrinks.elim
  case deleteCheckpoints query =>
    cases List.mem_singleton.mp listed
    exact ⟨trivial, fun _ => ⟨trivial, fun _ => trivial⟩⟩
  case release lease =>
    cases List.mem_singleton.mp listed
    exact ⟨trivial, fun _ => trivial⟩
  all_goals cases listed

theorem shrinking_run_durable (state : ServerState) (context : RequestContext) (request : Request)
    (turns : List (Turn Api))
    (shrinks : (serve platform config context request).Awaits Shrinks) (durable : Durable state) :
    Durable (requestRun platform config state context request turns).shared := by
  have kept := Transition.run_keeps (serverMachine platform config.checkpointer.isSome).step
    (fun pool => (∀ task ∈ pool.tasks, task.2.Awaits Shrinks) ∧ Durable pool.shared)
    (fun pool turn held => (serverMachine platform config.checkpointer.isSome).awaits_step Shrinks Durable
      (fun _ => shrinks_leave) (fun id op state => shrinks_keep_durable config.checkpointer.isSome id op state)
      (fun id op error state _ durable => ?_) pool held.1 held.2 turn)
    ⟨state, serveAll platform config [(context, request)]⟩ ⟨fun task listed => ?_, durable⟩ turns
  · exact kept.2
  · obtain ⟨store, saved, _, _⟩ := struck_frame id op error state
    refine durable_shrunk durable (fun query => Or.inl ?_) (fun query => Or.inl (items_same_saved _ _ saved query))
    exact congrArg (fun kept : InMemoryThreadStore => kept.getAssistantId query) store
  · cases List.mem_singleton.mp listed
    exact Coro.awaits_void _ shrinks

variable (platform config)

theorem run_heeds (marking : Marking config) (saver : SaverKind) (persists : config.checkpointer = some saver)
    (state : ServerState) (durable : Durable state)
    (context : RequestContext) (kind : RunKind) (threadId : String) (body : RunCreate) (turns : List (Turn Api)) :
    ∃ census, Heeds platform (fun owner => owner = body.assistantId) threadId (EndsOwning body.assistantId) state
      (requestRun platform config state context (runRequest kind threadId body) turns) census := by
  rw [requestRun, persists]
  refine heeds_run platform state durable (serve platform config context (runRequest kind threadId body)).void ?_ turns
  exact run_follows platform config context marking saver persists kind body rfl

theorem update_heeds (marking : Marking config) (saver : SaverKind) (persists : config.checkpointer = some saver)
    (state : ServerState) (durable : Durable state) (context : RequestContext) (threadId : String) (body : StateUpdate)
    (written : body.asNode ≠ copyNode) (turns : List (Turn Api)) :
    ∃ census, Heeds platform (fun _ => True) threadId (fun _ _ => True) state
      (requestRun platform config state context (.updateState threadId body) turns) census := by
  rw [requestRun, persists]
  exact heeds_run platform state durable _
    (update_follows platform config context marking saver persists (fun _ => trivial) body written _ _
      (fun _ _ => trivial)) turns

theorem request_keeps_durable (marking : Marking config) (saver : SaverKind)
    (persists : config.checkpointer = some saver)
    (state : ServerState) (durable : Durable state) (context : RequestContext) (request : Request)
    (written : ¬ request.Copies) (turns : List (Turn Api)) :
    Durable (requestRun platform config state context request turns).shared := by
  have plain : (serve platform config context request).Uses Plain →
    Durable (requestRun platform config state context request turns).shared :=
    fun uses => shrinking_run_durable state context request turns
      (Coro.awaits_uses (I := Api) Plain plain_shrinks _ uses) durable
  cases request with
  | createThread body =>
      exact plain (Coro.uses_bind (I := Api) Plain _ _ (create_thread_uses platform config context body)
        (fun _ => trivial))
  | getThread threadId =>
      exact plain (Coro.uses_bind (I := Api) Plain _ _ (get_thread_uses platform config context threadId)
        (fun _ => trivial))
  | getState threadId =>
      exact plain (Coro.uses_bind (I := Api) Plain _ _ (get_state_uses platform config context threadId)
        (fun _ => trivial))
  | getStateCheckpoint threadId checkpoint =>
      exact plain (Coro.uses_bind (I := Api) Plain _ _
        (get_state_checkpoint_uses platform config context threadId checkpoint)
        (fun _ => trivial))
  | getHistory threadId body =>
      exact plain (Coro.uses_bind (I := Api) Plain _ _ (get_history_uses platform config context threadId body)
        (fun _ => trivial))
  | deleteThread threadId =>
      exact shrinking_run_durable state context _ turns
        (Coro.awaits_bind _ _ (delete_thread_shrinks config) (fun _ => trivial)) durable
  | updateState threadId body =>
      obtain ⟨census, heeds⟩ := update_heeds platform config marking saver persists state durable context threadId
        body written turns
      exact moves_keep_durable state _ durable heeds.moved
  | createRun threadId body =>
      obtain ⟨census, heeds⟩ := run_heeds platform config marking saver persists state durable context .invoke threadId
        body turns
      exact moves_keep_durable state _ durable heeds.moved
  | streamRun threadId body =>
      obtain ⟨census, heeds⟩ := run_heeds platform config marking saver persists state durable context .stream threadId
        body turns
      exact moves_keep_durable state _ durable heeds.moved

theorem sequence_durable (marking : Marking config) (saver : SaverKind) (persists : config.checkpointer = some saver)
    (state : ServerState) (sequence : InSequence platform config state) : Durable state := by
  induction sequence with
  | fresh state unsaved => exact durable_unsaved state unsaved
  | request before earlier context request turns written complete ih =>
      exact request_keeps_durable platform config marking saver persists before ih context request written turns
  | lost before after earlier records saved ih =>
      refine durable_shrunk ih (fun query => ?_) (fun query => Or.inl (items_same_saved before after saved query))
      rcases records query with same | gone
      · exact Or.inl (congrArg (fun record => record.bind StoredThread.assistantId) same)
      · exact Or.inr (congrArg (fun record => record.bind StoredThread.assistantId) gone)

end Sequences

end LangGraphServer
