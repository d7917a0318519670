import LangGraphServer.Server.Responses

set_option autoImplicit false

namespace LangGraphServer

open Collections Coroutine

namespace InMemoryThreadStore

def Keyed (store : InMemoryThreadStore) : Prop :=
  ∀ threadId thread, store.getThread threadId = some thread → thread.threadId = threadId

theorem put_thread_cases (platform : Platform) (store : InMemoryThreadStore) (thread : Thread) :
    (platform.threadJsonBytes thread ≤ store.maxThreadBytes ∧ (store.putThread platform thread).2 = .ok () ∧
      ∀ query, (store.putThread platform thread).1.getThread query =
        if query = thread.threadId then some thread else store.getThread query) ∨
    (store.maxThreadBytes < platform.threadJsonBytes thread ∧ (store.putThread platform thread).1 = store ∧
      (store.putThread platform thread).2 =
      .error (.threadStoreCapacity "thread metadata exceeds max_thread_bytes")) := by
  rw [putThread]
  by_cases large : store.maxThreadBytes < platform.threadJsonBytes thread
  · rw [if_pos large]
    exact Or.inr ⟨large, rfl, rfl⟩
  · rw [if_neg large]
    refine Or.inl ⟨Nat.le_of_not_lt large, rfl, fun query => ?_⟩
    simp only [getThread, Dict.get_set]
    by_cases same : query = thread.threadId
    · rw [if_pos same, if_pos same, Option.map_some]
    · rw [if_neg same, if_neg same]

theorem put_thread_limit (platform : Platform) (store : InMemoryThreadStore) (thread : Thread) :
    (store.putThread platform thread).1.maxThreadBytes = store.maxThreadBytes := by
  rw [putThread]
  split
  · rfl
  · rfl

theorem empty_keyed (maxThreadBytes : Nat) : (⟨maxThreadBytes, .empty⟩ : InMemoryThreadStore).Keyed := by
  intro threadId thread found
  cases found

theorem put_thread_keyed (platform : Platform) (store : InMemoryThreadStore) (thread : Thread) (keyed : store.Keyed) :
    (store.putThread platform thread).1.Keyed := by
  rcases store.put_thread_cases platform thread with ⟨_, _, stored⟩ | ⟨_, same, _⟩
  · intro threadId other found
    rw [stored] at found
    by_cases here : threadId = thread.threadId
    · rw [if_pos here, Option.some.injEq] at found
      rw [← found, here]
    · rw [if_neg here] at found
      exact keyed threadId other found
  · rw [same]
    exact keyed

theorem claim_assistant_keyed (store : InMemoryThreadStore) (threadId assistantId : String) (keyed : store.Keyed) :
    (store.claimAssistant threadId assistantId).1.Keyed := by
  have claimed : ∀ record, store.threads.get? threadId = some record →
      ({ store with threads := store.threads.set threadId { record with assistantId := some assistantId } } :
        InMemoryThreadStore).Keyed := by
    intro record found query thread read
    simp only [getThread, Dict.get_set] at read
    by_cases same : query = threadId
    · rw [if_pos same, Option.map_some, Option.some.injEq] at read
      rw [same, ← read]
      exact keyed threadId record.thread (by rw [getThread, found, Option.map_some])
    · rw [if_neg same] at read
      exact keyed query thread read
  rw [claimAssistant]
  split
  · exact keyed
  · rename_i record found
    split
    · split
      · exact claimed record found
      · exact keyed
    · exact claimed record found

theorem delete_thread_keyed (store : InMemoryThreadStore) (threadId : String) (keyed : store.Keyed) :
    (store.deleteThread threadId).Keyed := by
  intro query thread found
  simp only [deleteThread, getThread, Dict.get_pop] at found
  by_cases same : query = threadId
  · rw [if_pos same] at found
    cases found
  · rw [if_neg same] at found
    exact keyed query thread found

end InMemoryThreadStore

theorem perform_keyed (platform : Platform) (persistent : Bool) (id : TaskId) (op : ServerOp) (state : ServerState)
    (keyed : state.store.Keyed) : (state.perform platform persistent id op).1.store.Keyed := by
  cases op with
  | putThread thread => exact state.store.put_thread_keyed platform thread keyed
  | claimAssistant threadId assistantId => exact state.store.claim_assistant_keyed threadId assistantId keyed
  | deleteThread threadId => exact state.store.delete_thread_keyed threadId keyed
  | aput config item =>
      rw [(ServerState.aput_frame platform persistent id config item state).1]
      exact keyed
  | acquire threadId mutation =>
      rw [ServerState.perform]
      split
      · exact keyed
      · exact keyed
  | begin graphOf =>
      rw [ServerState.perform]
      split
      · exact keyed
      · exact keyed
  | finish =>
      rw [ServerState.perform, ServerState.updateProgress]
      split
      · exact keyed
      · exact keyed
  | _ => exact keyed

-- A saver as the graphs meet it: what a write makes of its checkpoints, and whether it refuses
-- the write. `S` is all that it keeps besides them, such as sizes and the order of use.
structure CheckpointSaver (S : Type) where
  aput : S → Dict String (List CheckpointItem) → RunnableConfig → CheckpointItem →
    S × Dict String (List CheckpointItem) × Except ServerError Unit

-- The server with such a saver, for a request that is alone with it.
def served {S : Type} (platform : Platform) (config : ServerConfig) (id : TaskId) (saver : CheckpointSaver S) :
    Coro.Oracle Api (ServerState × S) := fun state op =>
  match op with
  | .aput given item =>
      (({ state.1 with saved := (saver.aput state.2 state.1.saved given item).2.1 },
        (saver.aput state.2 state.1.saved given item).1), (saver.aput state.2 state.1.saved given item).2.2)
  | op => (((state.1.perform platform config.checkpointer.isSome id op).1, state.2),
      (state.1.perform platform config.checkpointer.isSome id op).2)

-- Surroundings in which a stream reads and writes one thread store, and no graph touches it.
structure KeepsStore {σ : Type} (platform : Platform) (oracle : Coro.Oracle Api σ)
    (store : σ → InMemoryThreadStore) : Prop where
  getThread : ∀ state threadId, oracle state (.getThread threadId) = (state, .ok ((store state).getThread threadId))
  putThread : ∀ state thread, store (oracle state (.putThread thread)).1 = ((store state).putThread platform thread).1 ∧
    (oracle state (.putThread thread)).2 = ((store state).putThread platform thread).2
  graph : ∀ state threadId op, GraphSteps threadId op → store (oracle state op).1 = store state

section Surroundings

variable {S : Type} (platform : Platform) (config : ServerConfig) (id : TaskId) (saver : CheckpointSaver S)

theorem served_graph_steps (state : ServerState × S) (threadId : String) (op : ServerOp)
    (steps : GraphSteps threadId op) :
    (served platform config id saver state op).1.1.store = state.1.store ∧
      (served platform config id saver state op).1.1.coordinator = state.1.coordinator := by
  cases steps with
  | begin graphOf =>
      simp only [served, ServerState.perform]
      split
      · exact ⟨rfl, rfl⟩
      · exact ⟨rfl, rfl⟩
  | finish =>
      simp only [served, ServerState.perform, ServerState.updateProgress]
      split
      · exact ⟨rfl, rfl⟩
      · exact ⟨rfl, rfl⟩
  | suspend => exact ⟨rfl, rfl⟩
  | aput given item thread => exact ⟨rfl, rfl⟩

theorem served_plain (state : ServerState × S) (op : ServerOp) (plain : Plain op) :
    Untouched state.1 (served platform config id saver state op).1.1 := by
  have untouched := plain_untouched platform config.checkpointer.isSome id op plain state.1
  cases plain <;> exact untouched

theorem served_stream_steps (state : ServerState × S) (threadId : String) (op : ServerOp)
    (steps : StreamSteps threadId op) :
    (served platform config id saver state op).1.1.coordinator = state.1.coordinator ∧
      ∀ query, (served platform config id saver state op).1.1.ownerOf query = state.1.ownerOf query := by
  cases steps with
  | graph steps =>
      obtain ⟨store, coordinator⟩ := served_graph_steps platform config id saver state threadId op steps
      exact ⟨coordinator, fun query => by rw [ServerState.ownerOf, store, ServerState.ownerOf]⟩
  | plain plain =>
      have untouched := served_plain platform config id saver state op plain
      exact ⟨untouched.coordinator, untouched.owners⟩

theorem served_keeps_store : KeepsStore platform (served platform config id saver) (fun state => state.1.store) :=
  ⟨fun _ _ => rfl, fun _ _ => ⟨rfl, rfl⟩,
    fun state threadId op steps => (served_graph_steps platform config id saver state threadId op steps).1⟩

theorem kept_keeps_store : KeepsStore platform (keptOracle platform (served platform config id saver)) Prod.snd := by
  refine ⟨fun _ _ => rfl, fun _ _ => ⟨rfl, rfl⟩, fun state threadId op steps => ?_⟩
  cases steps <;> rfl

end Surroundings

section Streams

variable {σ : Type} (platform : Platform) (config : ServerConfig) (context : RequestContext)
    (assistant : AssistantConfig) (oracle : Coro.Oracle Api σ) (store : σ → InMemoryThreadStore)

def withStatus (thread : Thread) (status : String) (moment : Moment) : Thread :=
  { thread with status := status, updatedAt := context.now moment }

-- The record of the thread can be written once more, as that of an idle thread.
def IdleFits (before : InMemoryThreadStore) (threadId : String) : Prop :=
  ∀ thread, before.getThread threadId = some thread →
    platform.threadJsonBytes (withStatus context thread "idle" .idle) ≤ before.maxThreadBytes

theorem status_write_absent (keeps : KeepsStore platform oracle store) (threadId status : String)
    (moment : Moment) (state : σ) (missing : (store state).getThread threadId = none) :
    Coro.converse oracle state (setThreadStatus context threadId status moment) = ⟨[], .ok (), state⟩ := by
  show Coro.converse oracle (oracle state (.getThread threadId)).1 _ = _
  rw [keeps.getThread, missing]
  rfl

theorem status_write_found (keeps : KeepsStore platform oracle store) (threadId status : String)
    (moment : Moment) (state : σ) (thread : Thread) (found : (store state).getThread threadId = some thread) :
    (Coro.converse oracle state (setThreadStatus context threadId status moment)).outcome =
        ((store state).putThread platform (withStatus context thread status moment)).2 ∧
      store (Coro.converse oracle state (setThreadStatus context threadId status moment)).state =
        ((store state).putThread platform (withStatus context thread status moment)).1 := by
  obtain ⟨after, answer⟩ := keeps.putThread state (withStatus context thread status moment)
  have wrote : Coro.converse oracle state (setThreadStatus context threadId status moment) =
      Coro.converse oracle state (perform (.putThread (withStatus context thread status moment))) := by
    show Coro.converse oracle (oracle state (.getThread threadId)).1 _ = _
    rw [keeps.getThread, found]
    rfl
  rw [wrote]
  show (Coro.converse oracle _ (Coro.ofExcept _)).outcome = _ ∧
    store (Coro.converse oracle _ (Coro.ofExcept _)).state = _
  rw [answer]
  generalize ((store state).putThread platform (withStatus context thread status moment)).2 = outcome
  cases outcome with
  | ok value => exact ⟨rfl, after⟩
  | error error => exact ⟨rfl, after⟩

structure StatusWritten (threadId status : String) (moment : Moment) (thread : Thread)
    (before after : InMemoryThreadStore) (outcome : Except ServerError Unit) : Prop where
  limit : after.maxThreadBytes = before.maxThreadBytes
  owner : ∀ query, after.getAssistantId query = before.getAssistantId query
  fits : platform.threadJsonBytes (withStatus context thread status moment) ≤ before.maxThreadBytes → outcome = .ok () ∧
    after.getThread threadId = some (withStatus context thread status moment)
  large : before.maxThreadBytes < platform.threadJsonBytes (withStatus context thread status moment) →
    outcome ≠ .ok () ∧ after = before

theorem status_written (keeps : KeepsStore platform oracle store) (threadId status : String)
    (moment : Moment) (state : σ)
    (thread : Thread) (found : (store state).getThread threadId = some thread) (own : thread.threadId = threadId) :
    StatusWritten platform context threadId status moment thread (store state)
      (store (Coro.converse oracle state (setThreadStatus context threadId status moment)).state)
      (Coro.converse oracle state (setThreadStatus context threadId status moment)).outcome := by
  obtain ⟨outcome, after⟩ := status_write_found platform context oracle store keeps threadId status moment
    state thread found
  rw [outcome, after]
  refine ⟨(store state).put_thread_limit platform _, (store state).put_thread_owner platform _, fun fits => ?_,
    fun large => ?_⟩
  · rcases (store state).put_thread_cases platform (withStatus context thread status moment)
      with ⟨_, stored, read⟩ | ⟨large, _⟩
    · refine ⟨stored, (read threadId).trans (if_pos own.symm)⟩
    · exact absurd fits (Nat.not_le_of_lt large)
  · rcases (store state).put_thread_cases platform (withStatus context thread status moment)
      with ⟨fits, _⟩ | ⟨_, same, failed⟩
    · exact absurd fits (Nat.not_le_of_lt large)
    · rw [failed]
      exact ⟨fun ended => (by cases ended), same⟩

variable (inputData : Metadata) (threadId : String) (graph : GraphRuntime) (modes : List String)
    (requestConfig : Option Config) (checkpointId : Option String)

theorem graph_loop_steps :
    (graphLoop platform context assistant inputData threadId graph modes requestConfig checkpointId).Awaits
      (GraphSteps threadId) :=
  Coro.awaits_bind _ _ (Coro.awaits_of_except _) (fun payload =>
    pass_on_awaits _ (native_graph_awaits platform context assistant graph payload _ requestConfig checkpointId
      (graph_steps_allowed _ _ (build_runnable_config_marks threadId assistant.assistantId requestConfig
        checkpointId).thread)
      (fun _ _ => GraphStream.writes_any _)))

theorem graph_loop_keeps_store (keeps : KeepsStore platform oracle store) (state : σ) :
    store (Coro.converse oracle state
      (graphLoop platform context assistant inputData threadId graph modes requestConfig checkpointId)).state =
        store state :=
  Coro.converse_keeps (I := Api) oracle (GraphSteps threadId) (fun after => store after = store state)
    (fun after op steps same => (keeps.graph after threadId op steps).trans same) _
    (graph_loop_steps platform context assistant inputData threadId graph modes requestConfig checkpointId) state rfl

structure RefusedStream (start : σ) (stream : Coro.Dialogue Api σ Unit) : Prop where
  items : ∃ text before,
    streamError platform "Checkpoint capacity exceeded" "CHECKPOINT_CAPACITY_EXCEEDED" = .ok text ∧
      stream.items = before ++ [.event text] ∧ ∀ item ∈ before, eventName item ≠ "error"
  owner : ∀ query, (store stream.state).getAssistantId query = (store start).getAssistantId query
  restored : IdleFits platform context (store start) threadId → stream.outcome = .ok () ∧
    ∀ thread, (store stream.state).getThread threadId = some thread → thread.status = "idle"
  stuck : ¬ IdleFits platform context (store start) threadId →
    ∃ thread, (store stream.state).getThread threadId = some thread ∧ thread.status = "busy"

theorem refused_block (dumps : DumpsPlain platform) (state : σ)
    (refused : (Coro.converse oracle state
      (graphLoop platform context assistant inputData threadId graph modes requestConfig
      checkpointId)).outcome = .error .checkpointCapacity) :
    ∃ text, streamError platform "Checkpoint capacity exceeded" "CHECKPOINT_CAPACITY_EXCEEDED" = .ok text ∧
      Coro.converse oracle state (graphBlock platform context assistant inputData threadId graph modes requestConfig
        checkpointId) = ⟨(Coro.converse oracle state
          (graphLoop platform context assistant inputData threadId graph modes
          requestConfig checkpointId)).items ++ [.event text], .ok (),
            (Coro.converse oracle state (graphLoop platform context
            assistant inputData threadId graph modes requestConfig checkpointId)).state⟩ := by
  have texts : ∀ row ∈ [("error", PyObj.str "Checkpoint capacity exceeded"),
    ("code", .str "CHECKPOINT_CAPACITY_EXCEEDED")],
      (∃ text, row.2 = .str text) ∨ ∃ number, row.2 = .int number := by
    intro row member
    rcases List.mem_cons.mp member with rfl | rest
    · exact Or.inl ⟨_, rfl⟩
    · rw [List.mem_singleton.mp rest]
      exact Or.inl ⟨_, rfl⟩
  obtain ⟨json, dumped⟩ := dumps.dict _ texts
  have written : streamError platform "Checkpoint capacity exceeded" "CHECKPOINT_CAPACITY_EXCEEDED" =
      .ok ("event: " ++ "error" ++ "\ndata: " ++ json ++ "\n\n") := by
    rw [streamError, formatSseEvent, dumped]
  refine ⟨_, written, ?_⟩
  have whole := Coro.converse_bind_error (I := Api) oracle
    (graphLoop platform context assistant inputData threadId graph modes requestConfig checkpointId)
    (fun _ => yieldFormatted (formatSseEvent platform "end" .none)) state .checkpointCapacity refused
  have caught := Coro.converse_catch_error (I := Api) oracle _ (streamFailure platform) state .checkpointCapacity
    (congrArg Coro.Dialogue.outcome whole)
  rw [graphBlock, caught, whole, streamFailure, if_pos rfl, written]
  rfl

theorem refused_stream (keeps : KeepsStore platform oracle store) (dumps : DumpsPlain platform) (start : σ)
    (keyed : (store start).Keyed)
    (busied : (streamParts platform context assistant oracle inputData threadId graph modes requestConfig checkpointId
      start).busy.outcome = .ok ())
    (refused : (streamParts platform context assistant oracle inputData threadId graph modes requestConfig checkpointId
      start).graph.outcome = .error .checkpointCapacity) :
    RefusedStream platform context store threadId start
      (Coro.converse oracle start (streamGraphResponse platform context
      assistant inputData threadId graph modes requestConfig checkpointId)) := by
  let parts := streamParts platform context assistant oracle inputData threadId graph modes requestConfig
    checkpointId start
  obtain ⟨text, written, block⟩ := refused_block platform context assistant oracle inputData threadId graph
    modes requestConfig checkpointId dumps parts.busy.state refused
  have looped : store parts.graph.state = store parts.busy.state :=
    graph_loop_keeps_store platform context assistant oracle store inputData threadId graph modes
      requestConfig checkpointId keeps parts.busy.state
  obtain ⟨_, opening, _⟩ := names_metadata_event platform context oracle dumps start
  have data := names_graph_loop platform context assistant oracle inputData threadId graph modes
    requestConfig checkpointId parts.busy.state
  have whole := stream_once_busy platform context assistant oracle inputData threadId graph modes
    requestConfig checkpointId dumps start busied
  dsimp only at whole
  rw [block] at whole
  rw [whole]
  have items : ∃ told before,
      streamError platform "Checkpoint capacity exceeded" "CHECKPOINT_CAPACITY_EXCEEDED" = .ok told ∧
        (Coro.converse oracle start (metadataEvent platform context)).items ++ (parts.graph.items ++ [.event text]) =
          before ++ [.event told] ∧ ∀ item ∈ before, eventName item ≠ "error" := by
    refine ⟨text, _, written, (List.append_assoc _ _ _).symm, fun item member => ?_⟩
    rcases List.mem_append.mp member with first | inside
    · have named : eventName item ∈ namesOf (Coro.converse oracle start (metadataEvent platform context)).items :=
        List.mem_map_of_mem first
      rw [opening] at named
      rw [List.mem_singleton.mp named]
      decide
    · exact (data_event_continues _ (data _ (List.mem_map_of_mem inside))).2
  cases found : (store start).getThread threadId with
  | none =>
      have busy : parts.busy = ⟨[], .ok (), start⟩ :=
        status_write_absent platform context oracle store keeps threadId "busy" .busy start found
      have same : store parts.graph.state = store start := looped.trans (congrArg (fun busy => store busy.state) busy)
      have idle : Coro.converse oracle parts.graph.state (setThreadStatus context threadId "idle" .idle) =
          ⟨[], .ok (), parts.graph.state⟩ :=
        status_write_absent platform context oracle store keeps threadId "idle" .idle parts.graph.state
          (by rw [same, found])
      refine ⟨items, fun query => ?_, fun _ => ⟨?_, fun thread read => ?_⟩, fun large => ?_⟩
      · show (store (Coro.converse oracle parts.graph.state _).state).getAssistantId query = _
        rw [idle, same]
      · show Coro.leaving (I := Api) (Coro.converse oracle parts.graph.state _).outcome _ = _
        rw [idle]
        rfl
      · have here : (store (Coro.converse oracle parts.graph.state
            (setThreadStatus context threadId "idle" .idle)).state).getThread threadId = some thread := read
        rw [idle, same, found] at here
        cases here
      · exact absurd (fun thread read => by cases found.symm.trans read) large
  | some thread =>
      have own := keyed threadId thread found
      have busy := status_written platform context oracle store keeps threadId "busy" .busy start thread found own
      have stored : (store parts.graph.state).getThread threadId = some (withStatus context thread "busy" .busy) := by
        rw [looped]
        rcases Nat.lt_or_ge (store start).maxThreadBytes
          (platform.threadJsonBytes (withStatus context thread "busy" .busy)) with large | fits
        · exact absurd busied (busy.large large).1
        · exact (busy.fits fits).2
      have idle := status_written platform context oracle store keeps threadId "idle" .idle
        parts.graph.state _ stored own
      have limit : (store parts.graph.state).maxThreadBytes = (store start).maxThreadBytes := by
        rw [looped]
        exact busy.limit
      have fits_iff : IdleFits platform context (store start) threadId ↔ platform.threadJsonBytes
          (withStatus context thread "idle" .idle) ≤ (store start).maxThreadBytes := by
        constructor
        · exact fun fits => fits thread found
        · intro fits other read
          cases found.symm.trans read
          exact fits
      refine ⟨items, fun query => ?_, fun fits => ?_, fun large => ?_⟩
      · refine (idle.owner query).trans ?_
        rw [looped]
        exact busy.owner query
      · have room := fits_iff.mp fits
        rw [← limit] at room
        obtain ⟨ended, read⟩ := idle.fits room
        refine ⟨?_, fun other again => ?_⟩
        · show Coro.leaving (I := Api) (Coro.converse oracle parts.graph.state _).outcome _ = _
          rw [ended]
          rfl
        · cases read.symm.trans again
          rfl
      · have tooLarge := Nat.lt_of_not_le (fun room => large (fits_iff.mpr room))
        rw [← limit] at tooLarge
        refine ⟨withStatus context thread "busy" .busy, ?_, rfl⟩
        show (store (Coro.converse oracle parts.graph.state _).state).getThread threadId = _
        rw [(idle.large tooLarge).2]
        exact stored

end Streams

end LangGraphServer
