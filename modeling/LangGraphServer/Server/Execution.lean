import LangGraphServer.Server.Machine

set_option autoImplicit false

namespace LangGraphServer

open Collections Coroutine

-- What a graph may do: wait for anything, write checkpoints through the saver, stream
-- items, finish or raise. A write or a wait may be answered with an exception.
inductive GraphCall where
  | done (result : PyObj)
  | fail (error : ServerError)
  | suspend (resume : Except ServerError Unit → GraphCall)
  | write (item : CheckpointItem) (resume : Except ServerError Unit → GraphCall)

-- `closing` is what the iterator still does when it is closed at this item.
inductive GraphStream where
  | done
  | fail (error : ServerError)
  | suspend (resume : Except ServerError Unit → GraphStream)
  | write (item : CheckpointItem) (resume : Except ServerError Unit → GraphStream)
  | emit (item : PyObj) (next : GraphStream) (closing : GraphCall)

def GraphCall.awaited (config : RunnableConfig) : GraphCall → Coro Api PyObj
  | .done result => .ret result
  | .fail error => .raise error
  | .suspend resume => .await ServerOp.suspend (fun answer => (resume answer).awaited config)
  | .write item resume => .await (ServerOp.aput config item) (fun answer => (resume answer).awaited config)

def GraphStream.iterated (config : RunnableConfig) : GraphStream → Coro Api Unit
  | .done => .ret ()
  | .fail error => .raise error
  | .suspend resume => .await ServerOp.suspend (fun answer => (resume answer).iterated config)
  | .write item resume => .await (ServerOp.aput config item) (fun answer => (resume answer).iterated config)
  | .emit item next closing => .yield (StreamItem.raw item) (next.iterated config)
      ((closing.awaited config).handle (fun outcome => match outcome with
        | .ok _ => .raise ServerError.generatorExit
        | .error error => .raise error))

def GraphCall.Writes (written : CheckpointItem → Prop) : GraphCall → Prop
  | .done _ => True
  | .fail _ => True
  | .suspend resume => ∀ answer, (resume answer).Writes written
  | .write item resume => written item ∧ ∀ answer, (resume answer).Writes written

def GraphStream.Writes (written : CheckpointItem → Prop) : GraphStream → Prop
  | .done => True
  | .fail _ => True
  | .suspend resume => ∀ answer, (resume answer).Writes written
  | .write item resume => written item ∧ ∀ answer, (resume answer).Writes written
  | .emit _ next closing => next.Writes written ∧ closing.Writes written

theorem GraphCall.writes_mono (narrow wide : CheckpointItem → Prop) (imp : ∀ item, narrow item → wide item)
    (call : GraphCall) (writes : call.Writes narrow) : call.Writes wide := by
  induction call with
  | done result => trivial
  | fail error => trivial
  | suspend resume ih => exact fun answer => ih answer (writes answer)
  | write item resume ih => exact ⟨imp item writes.1, fun answer => ih answer (writes.2 answer)⟩

theorem GraphStream.writes_mono (narrow wide : CheckpointItem → Prop) (imp : ∀ item, narrow item → wide item)
    (stream : GraphStream) (writes : stream.Writes narrow) : stream.Writes wide := by
  induction stream with
  | done => trivial
  | fail error => trivial
  | suspend resume ih => exact fun answer => ih answer (writes answer)
  | write item resume ih => exact ⟨imp item writes.1, fun answer => ih answer (writes.2 answer)⟩
  | emit item next closing ih => exact ⟨ih writes.1, closing.writes_mono narrow wide imp writes.2⟩

theorem GraphCall.writes_any (call : GraphCall) : call.Writes (fun _ => True) := by
  induction call with
  | done result => trivial
  | fail error => trivial
  | suspend resume ih => exact ih
  | write item resume ih => exact ⟨trivial, ih⟩

theorem GraphStream.writes_any (stream : GraphStream) : stream.Writes (fun _ => True) := by
  induction stream with
  | done => trivial
  | fail error => trivial
  | suspend resume ih => exact ih
  | write item resume ih => exact ⟨trivial, ih⟩
  | emit item next closing ih => exact ⟨ih, closing.writes_any⟩

inductive GraphOp (config : RunnableConfig) (written : CheckpointItem → Prop) : ServerOp → Prop where
  | suspend : GraphOp config written .suspend
  | aput (item : CheckpointItem) (writes : written item) : GraphOp config written (.aput config item)

theorem awaited_uses (config : RunnableConfig) (written : CheckpointItem → Prop) (call : GraphCall)
    (writes : call.Writes written) : Coro.Uses (I := Api) (GraphOp config written) (call.awaited config) := by
  induction call with
  | done result => trivial
  | fail error => trivial
  | suspend resume ih => exact ⟨.suspend, fun answer => ih answer (writes answer)⟩
  | write item resume ih => exact ⟨.aput item writes.1, fun answer => ih answer (writes.2 answer)⟩

-- Mutations are marked from their first step to their last.
def mutating {α : Type} (graphOf : Option String) (program : Coro Api α) : Coro Api α := do
  Coro.perform (I := Api) (ServerOp.begin graphOf)
  program.tryFinally (Coro.perform (I := Api) ServerOp.finish)

structure GraphRuntime where
  ainvoke : Metadata → RunnableConfig → GraphCall
  astream : Metadata → RunnableConfig → List String → GraphStream
  aupdateState : Option (RunnableConfig → PyObj → Option String → GraphCall)

structure AssistantConfig where
  assistantId : String
  inputTransformer : Option (Metadata → Except ServerError Metadata)
  outputTransformer : Option (Metadata → Except ServerError PyObj)
  defaultStreamMode : Option (List String)
  graph : GraphRuntime
  named : assistantId ≠ ""

-- The saver is only asked whether it is there and whether it can delete a thread.
structure SaverKind where
  deletesThreads : Bool

structure ServerConfig where
  assistants : Dict String AssistantConfig
  checkpointer : Option SaverKind
  runTimeoutSeconds : Option Rat
  registered : ∀ assistantId assistant, assistants.get? assistantId = some assistant →
    assistant.assistantId = assistantId

def ServerConfig.getAssistant (config : ServerConfig) (assistantId : String) : Option AssistantConfig :=
  config.assistants.get? assistantId

def ServerConfig.getGraphRuntime (config : ServerConfig) (assistantId : String) : Except ServerError GraphRuntime :=
  match config.assistants.get? assistantId with
  | some assistant => .ok assistant.graph
  | none => .error (.lookup ("Assistant " ++ assistantId ++ " is not configured"))

def getAssistantConfig (config : ServerConfig) (assistantId : String) : Except ServerError AssistantConfig :=
  match config.getAssistant assistantId with
  | some assistant => .ok assistant
  | none => .error (.http 404 ("Assistant " ++ assistantId ++ " not found"))

theorem graph_of_assistant (config : ServerConfig) (assistantId : String) (assistant : AssistantConfig)
    (found : getAssistantConfig config assistantId = .ok assistant) :
    config.getGraphRuntime assistant.assistantId = .ok assistant.graph := by
  rw [getAssistantConfig, ServerConfig.getAssistant] at found
  cases stored : config.assistants.get? assistantId with
  | none =>
      rw [stored] at found
      cases found
  | some other =>
      rw [stored] at found
      cases found
      rw [ServerConfig.getGraphRuntime, config.registered assistantId assistant stored, stored]

def smallGraph : GraphRuntime where
  ainvoke _ _ := .done (.dict [])
  astream _ _ _ := .done
  aupdateState := none

def smallAssistant (assistantId : String) (named : assistantId ≠ "") (graph : GraphRuntime) : AssistantConfig where
  assistantId := assistantId
  inputTransformer := none
  outputTransformer := none
  defaultStreamMode := none
  graph := graph
  named := named

theorem a_named : "a" ≠ "" := by decide

theorem b_named : "b" ≠ "" := by decide

def smallServerConfig (graph : GraphRuntime) (checkpointer : Option SaverKind) (runTimeoutSeconds : Option Rat) :
    ServerConfig where
  assistants := ⟨[("a", smallAssistant "a" a_named graph), ("b", smallAssistant "b" b_named graph)], by simp⟩
  checkpointer := checkpointer
  runTimeoutSeconds := runTimeoutSeconds
  registered assistantId assistant found := by
    simp only [Dict.get?, Dict.lookup_row] at found
    split at found
    · rename_i same
      cases found
      exact same.symm
    · split at found
      · rename_i same
        cases found
        exact same.symm
      · cases found

def smallState (maxConcurrentRuns : Nat) (positive : 0 < maxConcurrentRuns) : ServerState where
  store := ⟨1000, .empty⟩
  saved := .empty
  coordinator := .fresh ⟨maxConcurrentRuns, positive⟩
  progress := .empty
  log := []

def prepareInput (assistant : AssistantConfig) (inputData : Metadata) : Except ServerError Metadata :=
  match assistant.inputTransformer with
  | some transform => transform inputData
  | none => .ok inputData

def buildRunnableConfig (threadId assistantId : String) (requestConfig : Option Config) (checkpointId : Option String) :
    RunnableConfig :=
  let given := (requestConfig.bind Config.configurable).getD .empty
  let routed := given.set "thread_id" (.str threadId)
  let spaced := if "checkpoint_ns" ∈ routed.keys then routed else routed.set "checkpoint_ns" (.str "")
  let configurable := match checkpointId with
    | some checkpointId => spaced.set "checkpoint_id" (.str checkpointId)
    | none => spaced
  { configurable := .dict configurable.entries
    metadata := Dict.empty.set assistantIdMetadataKey (.str assistantId)
    tags := requestConfig.bind Config.tags
    recursionLimit := requestConfig.bind Config.recursionLimit }

def setCheckpointNs (config : RunnableConfig) (checkpointNs : String) : RunnableConfig :=
  match config.configurable with
  | .dict entries => { config with configurable := .dict (Dict.assign "checkpoint_ns" (.str checkpointNs) entries) }
  | _ => config

-- A config whose writes go to one thread under one assistant's marker.
structure MarksThread (config : RunnableConfig) (threadId assistantId : String) : Prop where
  thread : config.entry? "thread_id" = some (.str threadId)
  marker : config.metadata = Dict.empty.set assistantIdMetadataKey (.str assistantId)

theorem build_runnable_config_marks (threadId assistantId : String) (requestConfig : Option Config)
    (checkpointId : Option String) :
    MarksThread (buildRunnableConfig threadId assistantId requestConfig checkpointId) threadId assistantId := by
  have spaced : ∀ given : Metadata, (if "checkpoint_ns" ∈ (given.set "thread_id" (.str threadId)).keys
      then given.set "thread_id" (.str threadId)
      else (given.set "thread_id" (.str threadId)).set "checkpoint_ns" (.str "")).get? "thread_id" =
        some (.str threadId) := by
    intro given
    split
    · rw [Dict.get_set, if_pos rfl]
    · rw [Dict.get_set, if_neg (by decide), Dict.get_set, if_pos rfl]
  constructor
  · cases checkpointId with
    | none => exact spaced _
    | some checkpointId =>
        apply (Dict.get_set _ "checkpoint_id" "thread_id" _).trans
        rw [if_neg (by decide)]
        exact spaced _
  · rfl

theorem set_checkpoint_ns_marks (config : RunnableConfig) (checkpointNs threadId assistantId : String)
    (marks : MarksThread config threadId assistantId) :
    MarksThread (setCheckpointNs config checkpointNs) threadId assistantId := by
  obtain ⟨thread, marker⟩ := marks
  rw [setCheckpointNs]
  split
  · rename_i entries shape
    rw [RunnableConfig.entry?, shape] at thread
    constructor
    · rw [RunnableConfig.entry?]
      apply (Dict.lookup_assign "checkpoint_ns" "thread_id" _ entries).trans
      rw [if_neg (by decide)]
      exact thread
    · exact marker
  · exact ⟨thread, marker⟩

theorem update_config_marks (threadId assistantId : String) (reference : Option CheckpointReference)
    (checkpointId : Option String) :
    MarksThread (match reference with
      | some checkpoint => setCheckpointNs (buildRunnableConfig threadId assistantId none checkpointId)
        checkpoint.checkpointNs
      | none => buildRunnableConfig threadId assistantId none checkpointId) threadId assistantId := by
  have marks := build_runnable_config_marks threadId assistantId none checkpointId
  cases reference with
  | none => exact marks
  | some checkpoint => exact set_checkpoint_ns_marks _ _ threadId assistantId marks

-- What the checkpoints are that a graph writes under the marker of an assistant, updates
-- only where they write as such a node.
structure GraphRuntime.Writes (graph : GraphRuntime) (asNode : Option String → Prop)
    (written : String → CheckpointItem → Prop) : Prop where
  ainvoke : ∀ input config threadId assistantId, MarksThread config threadId assistantId →
    (graph.ainvoke input config).Writes (written assistantId)
  astream : ∀ input config modes threadId assistantId, MarksThread config threadId assistantId →
    (graph.astream input config modes).Writes (written assistantId)
  aupdateState : ∀ update, graph.aupdateState = some update → ∀ config values node threadId assistantId,
    MarksThread config threadId assistantId → asNode node → (update config values node).Writes (written assistantId)

def ServerConfig.GraphsWrite (config : ServerConfig) (asNode : Option String → Prop)
    (written : String → CheckpointItem → Prop) : Prop :=
  ∀ assistantId assistant, config.assistants.get? assistantId = some assistant → assistant.graph.Writes asNode written

theorem graphs_write_mono (config : ServerConfig) (asNode : Option String → Prop)
    (narrow wide : String → CheckpointItem → Prop) (imp : ∀ assistantId item, narrow assistantId item →
      wide assistantId item)
    (writes : config.GraphsWrite asNode narrow) : config.GraphsWrite asNode wide := by
  intro named assistant found
  obtain ⟨invokes, streams, updates⟩ := writes named assistant found
  constructor
  · intro input runnableConfig threadId owner marks
    exact GraphCall.writes_mono _ _ (imp owner) _ (invokes input runnableConfig threadId owner marks)
  · intro input runnableConfig modes threadId owner marks
    exact GraphStream.writes_mono _ _ (imp owner) _ (streams input runnableConfig modes threadId owner marks)
  · intro update offered runnableConfig values node threadId owner marks may
    exact GraphCall.writes_mono _ _ (imp owner) _
      (updates update offered runnableConfig values node threadId owner marks may)

theorem graphs_write_any (config : ServerConfig) (asNode : Option String → Prop) :
    config.GraphsWrite asNode (fun _ _ => True) := by
  intro named assistant _
  constructor
  · intro input runnableConfig threadId owner _
    exact GraphCall.writes_any _
  · intro input runnableConfig modes threadId owner _
    exact GraphStream.writes_any _
  · intro update _ runnableConfig values node threadId owner _ _
    exact GraphCall.writes_any _

theorem graph_writes (config : ServerConfig) (asNode : Option String → Prop) (written : String → CheckpointItem → Prop)
    (writes : config.GraphsWrite asNode written) (assistantId : String) (graph : GraphRuntime)
    (found : config.getGraphRuntime assistantId = .ok graph) : graph.Writes asNode written := by
  rw [ServerConfig.getGraphRuntime] at found
  cases stored : config.assistants.get? assistantId with
  | none =>
      rw [stored] at found
      cases found
  | some assistant =>
      rw [stored] at found
      cases found
      exact writes assistantId assistant stored

-- LangGraph puts the metadata of the config into that of each checkpoint where the
-- checkpoint's own has no such key, and its own never has the server's key.
def MarksNoOther (assistantId : String) (item : CheckpointItem) : Prop :=
  ∀ marked, checkpointAssistantId item = some marked → marked = assistantId

-- All but the copies that an update writes as the node `__copy__` carry the marker.
def CarriesMarker (assistantId : String) (item : CheckpointItem) : Prop :=
  assistantId ≠ "" → checkpointAssistantId item = some assistantId

def copyNode : Option String := some "__copy__"

def savedOnce (config : RunnableConfig) : CheckpointItem where
  checkpointNs := ""
  checkpointId := "c1"
  id := some (.str "c1")
  ts := none
  channelValues := .empty
  metadata := some config.metadata
  parentConfig := none
  keyed _ same := (PyObj.str.inj (Option.some.inj same)).symm

def savingGraph : GraphRuntime where
  ainvoke _ config := .write (savedOnce config) (fun _ => .done (.dict []))
  astream _ _ _ := .done
  aupdateState := none

theorem saved_once_marker (config : RunnableConfig) (threadId assistantId : String)
    (marks : MarksThread config threadId assistantId) :
    checkpointAssistantId (savedOnce config) = if assistantId = "" then none else some assistantId := by
  rw [checkpointAssistantId, savedOnce, Option.getD_some, marks.marker, Dict.get_set, if_pos rfl]

theorem saving_graph_writes (asNode : Option String → Prop) (written : String → CheckpointItem → Prop)
    (marked : ∀ config threadId assistantId, MarksThread config threadId assistantId →
      written assistantId (savedOnce config)) :
    savingGraph.Writes asNode written where
  ainvoke _ config threadId assistantId marks := ⟨marked config threadId assistantId marks, fun _ => trivial⟩
  astream _ _ _ _ _ _ := trivial
  aupdateState _ offered := by cases offered

theorem small_graphs_write (graph : GraphRuntime) (checkpointer : Option SaverKind) (runTimeoutSeconds : Option Rat)
    (asNode : Option String → Prop) (written : String → CheckpointItem → Prop) (writes : graph.Writes asNode written) :
    (smallServerConfig graph checkpointer runTimeoutSeconds).GraphsWrite asNode written := by
  intro assistantId assistant found
  simp only [smallServerConfig, Dict.get?, Dict.lookup_row] at found
  split at found
  · cases found
    exact writes
  · split at found
    · cases found
      exact writes
    · cases found

end LangGraphServer
