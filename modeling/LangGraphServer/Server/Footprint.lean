import LangGraphServer.Server.Stateless
import LangGraphServer.Server.StoreRules

set_option autoImplicit false

namespace LangGraphServer

open Collections Coroutine

def Spares (threadId : String) (op : ServerOp) : Prop :=
  ∀ config item, op = .aput config item → config.entry? "thread_id" ≠ some (.str threadId)

theorem spares_aput (threadId elsewhere : String) (apart : elsewhere ≠ threadId) (config : RunnableConfig)
    (item : CheckpointItem)
    (thread : config.entry? "thread_id" = some (.str elsewhere)) : Spares threadId (.aput config item) := by
  intro given written same
  cases same
  rw [thread]
  intro here
  cases here
  exact apart rfl

theorem plain_spares (threadId : String) (op : ServerOp) (plain : Plain op) : Spares threadId op := by
  cases plain <;> exact fun _ _ same => by cases same

theorem claims_spares (threadId : String) (op : ServerOp) (claims : Claims op) : Spares threadId op := by
  cases claims with
  | plain op plain => exact plain_spares threadId op plain
  | claimAssistant threadId assistantId => exact fun _ _ same => by cases same

def Shrinks : ServerOp → Prop
  | .claimAssistant _ _ => False
  | .aput _ _ => False
  | _ => True

theorem shrinks_spares (threadId : String) (op : ServerOp) (shrinks : Shrinks op) : Spares threadId op := by
  rintro config item rfl
  exact shrinks.elim

theorem plain_shrinks (op : ServerOp) (plain : Plain op) : Shrinks op := by
  cases plain <;> trivial

inductive GraphSteps (threadId : String) : ServerOp → Prop where
  | begin (graphOf : Option String) : GraphSteps threadId (.begin graphOf)
  | finish : GraphSteps threadId .finish
  | suspend : GraphSteps threadId .suspend
  | aput (config : RunnableConfig) (item : CheckpointItem) (thread : config.entry? "thread_id" = some (.str threadId)) :
      GraphSteps threadId (.aput config item)

inductive StreamSteps (threadId : String) : ServerOp → Prop where
  | graph (op : ServerOp) (steps : GraphSteps threadId op) : StreamSteps threadId op
  | plain (op : ServerOp) (plain : Plain op) : StreamSteps threadId op

theorem graph_steps_spare (threadId spared : String) (apart : threadId ≠ spared) (op : ServerOp)
    (steps : GraphSteps threadId op) : Spares spared op := by
  cases steps with
  | begin graphOf => exact fun _ _ same => by cases same
  | finish => exact fun _ _ same => by cases same
  | suspend => exact fun _ _ same => by cases same
  | aput config item thread => exact spares_aput spared threadId apart config item thread

theorem stream_steps_spare (threadId spared : String) (apart : threadId ≠ spared) (op : ServerOp)
    (steps : StreamSteps threadId op) : Spares spared op := by
  cases steps with
  | graph steps => exact graph_steps_spare threadId spared apart op steps
  | plain plain => exact plain_spares spared op plain

inductive DeletionSteps (threadId : String) : ServerOp → Prop where
  | acquire : DeletionSteps threadId (.acquire threadId .deletion)
  | begin : DeletionSteps threadId (.begin none)
  | deleteCheckpoints : DeletionSteps threadId (.deleteCheckpoints threadId)
  | finish : DeletionSteps threadId .finish
  | suspend : DeletionSteps threadId .suspend
  | deleteThread : DeletionSteps threadId (.deleteThread threadId)
  | release (lease : RunLease) : DeletionSteps threadId (.release lease)

def Request.threadId (context : RequestContext) : Request → String
  | .createThread body => body.threadId.getD context.freshThreadId
  | .getThread threadId => threadId
  | .getState threadId => threadId
  | .getStateCheckpoint threadId _ => threadId
  | .getHistory threadId _ => threadId
  | .updateState threadId _ => threadId
  | .deleteThread threadId => threadId
  | .createRun threadId _ => threadId
  | .streamRun threadId _ => threadId

def Call.threadId (context : RequestContext) : Call → String
  | .threaded request => request.threadId context
  | .stateless _ => context.freshThreadId

section Programs

variable (platform : Platform) (config : ServerConfig) (context : RequestContext) {spared threadId : String}

theorem plain_awaits {α : Type} (program : Coro Api α) (uses : program.Uses Plain) : program.Awaits (Spares spared) :=
  Coro.awaits_uses (I := Api) Plain (plain_spares spared) program uses

theorem claims_awaits {α : Type} (program : Coro Api α) (uses : program.Uses Claims) : program.Awaits (Spares spared) :=
  Coro.awaits_uses (I := Api) Claims (claims_spares spared) program uses

theorem perform_awaits (op : ServerOp) (spares : Spares spared op) : (perform op).Awaits (Spares spared) :=
  Coro.awaits_perform (I := Api) op spares

section Allowed

variable {allowed : ServerOp → Prop} {written : CheckpointItem → Prop}

theorem yield_formatted_awaits (formatted : Except ServerError String) : (yieldFormatted formatted).Awaits allowed := by
  cases formatted with
  | ok text => exact ⟨trivial, trivial⟩
  | error error => trivial

theorem pass_on_awaits (generator : Coro Api Unit) (awaits : generator.Awaits allowed) :
    (passOn generator).Awaits allowed :=
  Coro.awaits_for_each _ _ awaits (fun _ => ⟨trivial, trivial⟩)

theorem with_timeout_awaits {α : Type} (seconds : Option Rat) (program : Coro Api α) (awaits : program.Awaits allowed) :
    (withTimeout seconds program).Awaits allowed := by
  cases seconds with
  | none => exact awaits
  | some seconds =>
      refine Coro.awaits_catch _ _ awaits (fun error => ?_)
      split <;> trivial

structure GraphAllowed (allowed : ServerOp → Prop) (written : CheckpointItem → Prop) (graphOf : Option String)
    (runnableConfig : RunnableConfig) : Prop where
  begin : allowed (.begin graphOf)
  finish : allowed .finish
  suspend : allowed .suspend
  aput : ∀ item, written item → allowed (.aput runnableConfig item)

theorem graph_steps_allowed (graphOf : Option String) (runnableConfig : RunnableConfig)
    (thread : runnableConfig.entry? "thread_id" = some (.str threadId)) :
    GraphAllowed (GraphSteps threadId) (fun _ => True) graphOf runnableConfig :=
  ⟨.begin graphOf, .finish, .suspend, fun item _ => .aput runnableConfig item thread⟩

theorem stream_steps_allowed (graphOf : Option String) (runnableConfig : RunnableConfig)
    (thread : runnableConfig.entry? "thread_id" = some (.str threadId)) :
    GraphAllowed (StreamSteps threadId) (fun _ => True) graphOf runnableConfig :=
  ⟨.graph _ (.begin graphOf), .graph _ .finish, .graph _ .suspend, fun item _ => .graph _
    (.aput runnableConfig item thread)⟩

theorem awaited_uses_steps (graphOf : Option String) (runnableConfig : RunnableConfig)
    (steps : GraphAllowed allowed written graphOf runnableConfig) (call : GraphCall) (writes : call.Writes written) :
    (call.awaited runnableConfig).Uses allowed := by
  refine Coro.uses_mono (I := Api) (GraphOp runnableConfig written) allowed (fun op graph => ?_) _
    (awaited_uses runnableConfig written call writes)
  cases graph with
  | suspend => exact steps.suspend
  | aput item fits => exact steps.aput item fits

theorem mutating_uses (graphOf : Option String) (runnableConfig : RunnableConfig)
    (steps : GraphAllowed allowed written graphOf runnableConfig) (call : GraphCall) (writes : call.Writes written) :
    (mutating graphOf (call.awaited runnableConfig)).Uses allowed :=
  Coro.uses_bind (I := Api) _ _ _ (Coro.uses_perform (I := Api) _ _ steps.begin) (fun _ =>
    Coro.uses_finally (I := Api) _ _ _ (awaited_uses_steps graphOf runnableConfig steps call writes)
      (Coro.uses_perform (I := Api) _ _ steps.finish))

theorem mutating_awaits (graphOf : Option String) (runnableConfig : RunnableConfig)
    (steps : GraphAllowed allowed written graphOf runnableConfig) (call : GraphCall) (writes : call.Writes written) :
    (mutating graphOf (call.awaited runnableConfig)).Awaits allowed :=
  Coro.awaits_uses (I := Api) allowed (fun _ may => may) _ (mutating_uses graphOf runnableConfig steps call writes)

theorem iterated_awaits (graphOf : Option String) (runnableConfig : RunnableConfig)
    (steps : GraphAllowed allowed written graphOf runnableConfig) (stream : GraphStream)
    (writes : stream.Writes written) :
    (stream.iterated runnableConfig).Awaits allowed := by
  induction stream with
  | done => trivial
  | fail error => trivial
  | suspend resume ih => exact ⟨steps.suspend, fun answer => ih answer (writes answer)⟩
  | write item resume ih => exact ⟨steps.aput item writes.1, fun answer => ih answer (writes.2 answer)⟩
  | emit item next closing ih =>
      refine ⟨ih writes.1, Coro.awaits_handle _ _ (Coro.awaits_uses (I := Api) allowed (fun _ may => may) _
        (awaited_uses_steps graphOf runnableConfig steps closing writes.2)) (fun outcome => ?_)⟩
      cases outcome <;> trivial

theorem native_graph_awaits (assistant : AssistantConfig) (graph : GraphRuntime) (payload : Metadata)
    (modes : List String) (requestConfig : Option Config) (checkpointId : Option String)
    (steps : GraphAllowed allowed written (some assistant.assistantId)
      (buildRunnableConfig threadId assistant.assistantId requestConfig checkpointId))
    (writes : ∀ input modes, (graph.astream input
      (buildRunnableConfig threadId assistant.assistantId requestConfig checkpointId) modes).Writes written) :
    (streamNativeGraph platform context assistant graph payload threadId modes requestConfig checkpointId).Awaits
      allowed := by
  refine Coro.awaits_for_each _ _ (Coro.awaits_bind _ _ (Coro.awaits_perform (I := Api) _ steps.begin) (fun _ =>
    Coro.awaits_finally _ _ (iterated_awaits _ _ steps _ (writes _ _))
      (Coro.awaits_perform (I := Api) _ steps.finish))) (fun item => ?_)
  cases item with
  | event text => trivial
  | raw item =>
      rw [streamItem]
      split
      · exact ⟨trivial, trivial⟩
      · trivial
      · trivial

theorem run_with_lease_awaits (generator : Coro Api Unit) (lease : RunLease) (release : allowed (.release lease))
    (awaits : generator.Awaits allowed) : (runWithLease platform config generator lease).Awaits allowed := by
  refine Coro.awaits_finally _ _
    (Coro.awaits_catch _ _ (with_timeout_awaits _ _ (pass_on_awaits _ (pass_on_awaits _ awaits)))
    (fun error => ?_)) (Coro.awaits_perform (I := Api) _ release)
  split
  · exact yield_formatted_awaits _
  · trivial

theorem respond_awaits (body background : Coro Api Unit) (sends : ∀ message, allowed (.send message))
    (awaits : body.Awaits allowed) (after : background.Awaits allowed) :
    (respond platform body background).Awaits allowed := by
  have sent : ∀ message, (perform (.send message)).Awaits allowed := fun message =>
    Coro.awaits_perform (I := Api) _ (sends message)
  refine Coro.awaits_bind _ _ (Coro.awaits_catch _ _ ?_ (fun error => ?_)) (fun _ => after)
  · refine Coro.awaits_bind _ _ (sent _)
      (fun _ => Coro.awaits_bind _ _ (Coro.awaits_for_each _ _ awaits (fun item => ?_))
      (fun _ => sent _))
    cases item with
    | raw item => trivial
    | event text => exact sent _
  · split <;> trivial

theorem acquire_run_lease_awaits (assistantId : String) (acquires : allowed (.acquire threadId (.run assistantId))) :
    (acquireRunLease threadId assistantId).Awaits allowed := by
  refine Coro.awaits_catch _ _ (Coro.awaits_perform (I := Api) _ acquires) (fun error => ?_)
  cases error <;> trivial

theorem stream_graph_response_allowed (assistant : AssistantConfig) (inputData : Metadata) (graph : GraphRuntime)
    (modes : List String) (requestConfig : Option Config) (checkpointId : Option String)
    (plains : ∀ op, Plain op → allowed op)
    (steps : GraphAllowed allowed written (some assistant.assistantId)
      (buildRunnableConfig threadId assistant.assistantId requestConfig checkpointId))
    (writes : ∀ input modes, (graph.astream input
      (buildRunnableConfig threadId assistant.assistantId requestConfig checkpointId) modes).Writes written) :
    (streamGraphResponse platform context assistant inputData threadId graph modes requestConfig checkpointId).Awaits
      allowed := by
  have status : ∀ status moment, (setThreadStatus context threadId status moment).Awaits allowed :=
    fun status moment => Coro.awaits_uses (I := Api) Plain plains _
      (set_thread_status_uses context threadId status moment)
  refine Coro.awaits_bind _ _ (yield_formatted_awaits _) (fun _ => ?_)
  refine Coro.awaits_bind _ _ (status "busy" .busy) (fun _ => ?_)
  refine Coro.awaits_finally _ _ (Coro.awaits_catch _ _ ?_ (fun error => ?_)) (status "idle" .idle)
  · refine Coro.awaits_bind _ _ (Coro.awaits_of_except _) (fun payload => ?_)
    refine Coro.awaits_bind _ _ (pass_on_awaits _ ?_) (fun _ => yield_formatted_awaits _)
    exact native_graph_awaits platform context assistant graph payload _ requestConfig checkpointId steps writes
  · rw [streamFailure]
    split
    · exact yield_formatted_awaits _
    · split
      · exact yield_formatted_awaits _
      · trivial

end Allowed

theorem stream_graph_response_steps (assistant : AssistantConfig) (inputData : Metadata) (graph : GraphRuntime)
    (modes : List String) (requestConfig : Option Config) (checkpointId : Option String) :
    (streamGraphResponse platform context assistant inputData threadId graph modes requestConfig checkpointId).Awaits
      (StreamSteps threadId) :=
  stream_graph_response_allowed platform context assistant inputData graph modes requestConfig checkpointId
    (fun op plain => .plain op plain)
    (stream_steps_allowed _ _ (build_runnable_config_marks threadId assistant.assistantId requestConfig
      checkpointId).thread)
    (fun _ _ => GraphStream.writes_any _)

theorem awaited_awaits (apart : threadId ≠ spared) (runnableConfig : RunnableConfig)
    (thread : runnableConfig.entry? "thread_id" = some (.str threadId)) (graphOf : Option String) (call : GraphCall) :
    (mutating graphOf (call.awaited runnableConfig)).Awaits (Spares spared) :=
  Coro.awaits_mono (I := Api) (GraphSteps threadId) (graph_steps_spare threadId spared apart) _
    (mutating_awaits graphOf runnableConfig (graph_steps_allowed graphOf runnableConfig thread) call call.writes_any)

theorem stream_graph_response_awaits (apart : threadId ≠ spared) (assistant : AssistantConfig) (inputData : Metadata)
    (graph : GraphRuntime) (modes : List String) (requestConfig : Option Config) (checkpointId : Option String) :
    (streamGraphResponse platform context assistant inputData threadId graph modes requestConfig checkpointId).Awaits
      (Spares spared) :=
  Coro.awaits_mono (I := Api) (StreamSteps threadId) (stream_steps_spare threadId spared apart) _
    (stream_graph_response_steps platform context assistant inputData graph modes requestConfig checkpointId)

theorem send_spares (message : AsgiMessage) : Spares spared (.send message) := fun _ _ same => by cases same

theorem acquire_spares (query : String) (mutation : Mutation) : Spares spared (.acquire query mutation) :=
  fun _ _ same => by cases same

theorem release_spares (lease : RunLease) : Spares spared (.release lease) := fun _ _ same => by cases same

theorem release_awaits (lease : RunLease) : (perform (.release lease)).Awaits (Spares spared) :=
  perform_awaits _ (release_spares lease)

theorem stream_run_awaits (apart : threadId ≠ spared) (request : RunCreate) :
    (streamRunWithThread platform config context threadId request).Awaits (Spares spared) := by
  rw [streamRunWithThread]
  split
  · trivial
  · refine Coro.awaits_bind _ _ (Coro.awaits_of_except _) (fun assistant => ?_)
    refine Coro.awaits_bind _ _
      (claims_awaits _ (claim_for_run_uses platform config context threadId request assistant)) (fun _ => ?_)
    refine Coro.awaits_bind _ _ (acquire_run_lease_awaits assistant.assistantId (acquire_spares _ _)) (fun lease => ?_)
    refine Coro.awaits_bind _ _ (Coro.awaits_of_except _) (fun graph => ?_)
    exact respond_awaits platform _ _ send_spares (run_with_lease_awaits platform config _ lease (release_spares lease)
      (stream_graph_response_awaits platform context apart assistant _ graph _ _ _)) (release_awaits lease)

theorem create_run_awaits (apart : threadId ≠ spared) (request : RunCreate) :
    (createRun platform config context threadId request).Awaits (Spares spared) := by
  rw [createRun]
  split
  · trivial
  · refine Coro.awaits_bind _ _ (Coro.awaits_of_except _) (fun assistant => ?_)
    have marks := build_runnable_config_marks threadId assistant.assistantId request.config request.checkpointId
    refine Coro.awaits_bind _ _
      (claims_awaits _ (claim_for_run_uses platform config context threadId request assistant)) (fun _ => ?_)
    refine Coro.awaits_bind _ _ (Coro.awaits_of_except _) (fun payload => ?_)
    refine Coro.awaits_bind _ _ (acquire_run_lease_awaits assistant.assistantId (acquire_spares _ _)) (fun lease => ?_)
    refine Coro.awaits_bind _ _ (Coro.awaits_finally _ _ ?_ (release_awaits lease)) (fun _ => trivial)
    refine Coro.awaits_catch _ _ (with_timeout_awaits _ _ ?_) (fun error => ?_)
    · refine Coro.awaits_bind _ _ (Coro.awaits_of_except _) (fun graph => Coro.awaits_bind _ _ ?_ (fun _ => trivial))
      refine Coro.awaits_bind _ _ (awaited_awaits apart _ marks.thread _ _) (fun result => ?_)
      split <;> trivial
    · split <;> trivial

theorem update_state_awaits (apart : threadId ≠ spared) (request : StateUpdate) :
    (updateState platform config context threadId request).Awaits (Spares spared) := by
  rw [updateState]
  split
  · trivial
  · refine Coro.awaits_bind _ _ (plain_awaits _ (thread_exists_uses platform config context threadId))
      (fun exists_ => ?_)
    split
    · refine Coro.awaits_bind _ _ (Coro.awaits_catch _ _ (perform_awaits _ (fun _ _ same => by cases same))
        (fun error => ?_)) (fun lease => Coro.awaits_bind _ _ (Coro.awaits_finally _ _ ?_ (release_awaits lease))
          (fun _ => Coro.awaits_of_except _))
      · cases error <;> trivial
      · refine Coro.awaits_bind _ _ (plain_awaits _ (get_or_create_thread_uses platform config context _ none))
          (fun _ => ?_)
        refine Coro.awaits_bind _ _ (claims_awaits _ (get_thread_assistant_id_uses config threadId)) (fun owner => ?_)
        split
        · trivial
        · rename_i assistantId
          split
          · trivial
          · refine Coro.awaits_bind _ _ (Coro.awaits_of_except _) (fun graph => ?_)
            split
            · trivial
            · refine Coro.awaits_catch _ _ (with_timeout_awaits _ _ (awaited_awaits apart _ ?_ _ _))
                (fun error => ?_)
              · have marks := fun checkpointId => build_runnable_config_marks threadId assistantId none checkpointId
                cases request.checkpoint with
                | none => exact (marks _).thread
                | some checkpoint => exact (set_checkpoint_ns_marks _ _ threadId assistantId (marks _)).thread
              · split <;> trivial
    · trivial

theorem deletion_takes_steps : (deleteThread config threadId).Awaits (DeletionSteps threadId) := by
  have once : ∀ op : ServerOp, DeletionSteps threadId op → (perform op).Awaits (DeletionSteps threadId) :=
    Coro.awaits_perform (I := Api)
  refine Coro.awaits_bind _ _ (Coro.awaits_catch _ _ (once _ .acquire) (fun error => ?_)) (fun lease =>
    Coro.awaits_finally _ _ (Coro.awaits_bind _ _ (Coro.awaits_catch _ _ (with_timeout_awaits _ _ ?_) (fun error => ?_))
      (fun _ => once _ .deleteThread)) (once _ (.release lease)))
  · cases error <;> trivial
  · rw [adeleteThread]
    split
    · trivial
    · split
      · exact Coro.awaits_bind _ _ (once _ .begin) (fun _ => Coro.awaits_bind _ _ (once _ .deleteCheckpoints) (fun _ =>
          Coro.awaits_bind _ _ (once _ .finish) (fun _ => once _ .suspend)))
      · trivial
  · split <;> trivial

theorem delete_thread_shrinks : (deleteThread config threadId).Awaits Shrinks :=
  Coro.awaits_mono (I := Api) (DeletionSteps threadId) (fun op steps => by cases steps <;> trivial) _
    (deletion_takes_steps config)

theorem delete_thread_awaits : (deleteThread config threadId).Awaits (Spares spared) :=
  Coro.awaits_mono (I := Api) Shrinks (shrinks_spares spared) _ (delete_thread_shrinks config)

theorem serve_awaits (request : Request) (apart : request.threadId context ≠ spared) :
    (serve platform config context request).Awaits (Spares spared) := by
  cases request with
  | createThread body =>
      exact Coro.awaits_bind _ _ (plain_awaits _ (create_thread_uses platform config context body)) (fun _ => trivial)
  | getThread threadId =>
      exact Coro.awaits_bind _ _ (plain_awaits _ (get_thread_uses platform config context threadId)) (fun _ => trivial)
  | getState threadId =>
      exact Coro.awaits_bind _ _ (plain_awaits _ (get_state_uses platform config context threadId)) (fun _ => trivial)
  | getStateCheckpoint threadId checkpoint =>
      exact Coro.awaits_bind _ _
        (plain_awaits _ (get_state_checkpoint_uses platform config context threadId checkpoint))
        (fun _ => trivial)
  | getHistory threadId body =>
      exact Coro.awaits_bind _ _ (plain_awaits _ (get_history_uses platform config context threadId body))
        (fun _ => trivial)
  | updateState threadId body =>
      exact Coro.awaits_bind _ _ (update_state_awaits platform config context apart body) (fun _ => trivial)
  | deleteThread threadId => exact Coro.awaits_bind _ _ (delete_thread_awaits config) (fun _ => trivial)
  | createRun threadId body =>
      exact Coro.awaits_bind _ _ (create_run_awaits platform config context apart body) (fun _ => trivial)
  | streamRun threadId body =>
      exact Coro.awaits_bind _ _ (stream_run_awaits platform config context apart body) (fun _ => trivial)

theorem kept_in_awaits {allowed : ServerOp → Prop} {α : Type} (suspend : allowed .suspend) (program : Coro Api α)
    (store : InMemoryThreadStore) (awaits : program.Awaits allowed) :
    (keptIn platform program store).Awaits allowed := by
  induction program generalizing store with
  | ret value => trivial
  | raise error => trivial
  | await op resume ih =>
      rw [keptIn]
      split
      · refine ⟨suspend, fun waited => ?_⟩
        cases waited with
        | ok value => exact ih _ _ (awaits.2 _)
        | error error => exact ih _ _ (awaits.2 _)
      · exact ⟨awaits.1, fun answer => ih answer store (awaits.2 answer)⟩
  | yield item next closing nextIh closingIh => exact ⟨nextIh store awaits.1, closingIh store awaits.2⟩
  | abandon left rest leftIh restIh => exact ⟨Coro.awaits_void _ (leftIh store awaits.1), restIh store awaits.2⟩

theorem delete_generated_awaits {allowed : ServerOp → Prop} (threadId : String)
    (deletes : allowed (.deleteCheckpoints threadId))
    (suspend : allowed .suspend) : (deleteGenerated config threadId).Awaits allowed := by
  rw [deleteGenerated]
  split
  · trivial
  · refine Coro.awaits_catch _ _ ?_ (fun error => ?_)
    · split
      · exact Coro.awaits_bind _ _ (Coro.awaits_perform (I := Api) _ deletes)
          (fun _ => Coro.awaits_perform (I := Api) _ suspend)
      · trivial
    · split <;> trivial

theorem stateless_generator_awaits {allowed : ServerOp → Prop} (request : RunCreate) (assistant : AssistantConfig)
    (graph : GraphRuntime) (store : InMemoryThreadStore)
    (streams : ∀ op, StreamSteps context.freshThreadId op → allowed op)
    (deletes : allowed (.deleteCheckpoints context.freshThreadId)) :
    (statelessGenerator platform config context request assistant graph store).Awaits allowed := by
  have suspend : allowed .suspend := streams _ (.graph _ .suspend)
  refine Coro.awaits_finally _ _ (pass_on_awaits _ (Coro.awaits_void _ (kept_in_awaits platform suspend _ store ?_)))
    (delete_generated_awaits config _ deletes suspend)
  exact Coro.awaits_mono (I := Api) (StreamSteps context.freshThreadId) streams _
    (stream_graph_response_steps platform context assistant _ graph _ _ _)

theorem stream_run_stateless_awaits (request : RunCreate) (apart : context.freshThreadId ≠ spared) :
    (streamRunStateless platform config context request).Awaits (Spares spared) := by
  have suspend : Spares spared .suspend := fun _ _ same => by cases same
  refine Coro.awaits_bind _ _ (Coro.awaits_of_except _) (fun assistant => ?_)
  split
  · trivial
  · refine Coro.awaits_bind _ _ (kept_in_awaits platform suspend _ ephemeralStore (Coro.awaits_bind _ _
      (plain_awaits _ (get_or_create_thread_uses platform config context _ none))
      (fun _ => claims_awaits _ (claim_thread_assistant_uses config _ assistant.assistantId)))) (fun claimed => ?_)
    refine Coro.awaits_bind _ _ (acquire_run_lease_awaits assistant.assistantId (acquire_spares _ _)) (fun lease => ?_)
    refine Coro.awaits_bind _ _ (Coro.awaits_of_except _) (fun graph => ?_)
    exact respond_awaits platform _ _ send_spares (run_with_lease_awaits platform config _ lease (release_spares lease)
      (stateless_generator_awaits platform config context request assistant graph claimed.2
        (stream_steps_spare context.freshThreadId spared apart) (fun _ _ same => by cases same))) (release_awaits lease)

theorem answer_call_awaits (call : Call) (apart : call.threadId context ≠ spared) :
    (answerCall platform config context call).Awaits (Spares spared) := by
  cases call with
  | threaded request => exact Coro.awaits_void _ (serve_awaits platform config context request apart)
  | stateless body => exact stream_run_stateless_awaits platform config context body apart

end Programs

end LangGraphServer
