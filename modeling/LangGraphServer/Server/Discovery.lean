import LangGraphServer.Server.Stateless

set_option autoImplicit false

namespace LangGraphServer

open Collections Coroutine

-- What the discovery routes read of an assistant besides its id.
structure AssistantDescription where
  graphId : String
  graph : Option Metadata
  inputSchema : Option Metadata
  outputSchema : Option Metadata
  stateSchema : Option Metadata
  configSchema : Option Metadata

-- What they ask a graph: a method that is not callable is missing, and so is the `to_json`
-- of the topology that `get_graph` returns.
structure GraphInspection where
  getGraph : Option (Except ServerError (Option (Except ServerError PyObj)))
  getInputJsonschema : Option (Except ServerError PyObj)
  getOutputJsonschema : Option (Except ServerError PyObj)

structure GraphSchema where
  graphId : String
  inputSchema : Option Metadata
  outputSchema : Option Metadata
  stateSchema : Option Metadata
  configSchema : Option Metadata

def graphSchema (method : Option (Except ServerError PyObj)) : Except ServerError (Option Metadata) :=
  match method with
  | none => .ok none
  | some called => do
      let schema ← called
      match schema with
      | .dict entries => .ok (some (Dict.empty.setAll entries))
      | _ => .ok none

def schemaOr (configured : Option Metadata) (method : Option (Except ServerError PyObj)) :
    Except ServerError (Option Metadata) :=
  match configured with
  | some schema => .ok (some schema)
  | none => graphSchema method

section Discovery

variable (describe : AssistantConfig → AssistantDescription) (inspect : GraphRuntime → GraphInspection)
    (config : ServerConfig) (getGraphRuntime : String → Except ServerError GraphRuntime)

def getAssistantGraphWith (assistantId : String) : Except ServerError PyObj := do
  let assistant ← getAssistantConfig config assistantId
  match (describe assistant).graph with
  | some graph => .ok (.dict graph.entries)
  | none =>
      let graphProvider ← getGraphRuntime assistantId
      match (inspect graphProvider).getGraph with
      | none => .error (.http 501 "Graph topology is not available for this assistant")
      | some getGraph =>
          let graph ← getGraph
          match graph with
          | none => .error (.http 501 "Graph topology is not serializable for this assistant")
          | some toJson => toJson

def getAssistantSchemasWith (assistantId : String) : Except ServerError GraphSchema := do
  let assistant ← getAssistantConfig config assistantId
  let graph ← getGraphRuntime assistantId
  let inputSchema ← schemaOr (describe assistant).inputSchema (inspect graph).getInputJsonschema
  let outputSchema ← schemaOr (describe assistant).outputSchema (inspect graph).getOutputJsonschema
  .ok {
    graphId := (describe assistant).graphId
    inputSchema := inputSchema
    outputSchema := outputSchema
    stateSchema := match (describe assistant).stateSchema with
      | some schema => some schema
      | none => inputSchema
    configSchema := (describe assistant).configSchema }

def getAssistantGraph (assistantId : String) : Except ServerError PyObj :=
  getAssistantGraphWith describe inspect config config.getGraphRuntime assistantId

def getAssistantSchemas (assistantId : String) : Except ServerError GraphSchema :=
  getAssistantSchemasWith describe inspect config config.getGraphRuntime assistantId

end Discovery

-- The requests that may come to ask for a graph.
inductive Handled where
  | call (call : Call)
  | assistantGraph (assistantId : String)
  | assistantSchemas (assistantId : String)

def Handled.named : Handled → Option String
  | .call (.threaded (.createRun _ body)) => some body.assistantId
  | .call (.threaded (.streamRun _ body)) => some body.assistantId
  | .call (.stateless body) => some body.assistantId
  | .assistantGraph assistantId => some assistantId
  | .assistantSchemas assistantId => some assistantId
  | _ => none

def handleRequest (describe : AssistantConfig → AssistantDescription) (inspect : GraphRuntime → GraphInspection)
    (platform : Platform) (config : ServerConfig) (context : RequestContext) : Handled → Coro Api Unit
  | .call call => answerCall platform config context call
  | .assistantGraph assistantId => (attempt (getAssistantGraph describe inspect config assistantId)).void
  | .assistantSchemas assistantId => (attempt (getAssistantSchemas describe inspect config assistantId)).void

-- A request that names an assistant outside the registry is turned down as it is.
theorem unknown_assistant_refused (describe : AssistantConfig → AssistantDescription)
    (inspect : GraphRuntime → GraphInspection)
    (platform : Platform) (config : ServerConfig) (context : RequestContext) (request : Handled) (assistantId : String)
    (named : request.named = some assistantId) (unknown : config.getAssistant assistantId = none) :
    ∃ statusCode detail, 400 ≤ statusCode ∧ statusCode < 500 ∧
      handleRequest describe inspect platform config context request = raise (.http statusCode detail) := by
  have missing : getAssistantConfig config assistantId =
    .error (.http 404 ("Assistant " ++ assistantId ++ " not found")) := by
    rw [getAssistantConfig, unknown]
  cases request with
  | assistantGraph asked =>
      cases named
      refine ⟨404, "Assistant " ++ assistantId ++ " not found", by decide, by decide, ?_⟩
      rw [handleRequest, getAssistantGraph, getAssistantGraphWith, missing]
      rfl
  | assistantSchemas asked =>
      cases named
      refine ⟨404, "Assistant " ++ assistantId ++ " not found", by decide, by decide, ?_⟩
      rw [handleRequest, getAssistantSchemas, getAssistantSchemasWith, missing]
      rfl
  | call call =>
      cases call with
      | stateless body =>
          cases named
          refine ⟨404, "Assistant " ++ body.assistantId ++ " not found", by decide, by decide, ?_⟩
          rw [handleRequest, answerCall, streamRunStateless, missing]
          rfl
      | threaded request =>
          cases request with
          | createRun threadId body =>
              cases named
              rw [handleRequest, answerCall, serve, createRun, missing]
              split
              · exact ⟨422, _, by decide, by decide, rfl⟩
              · exact ⟨404, _, by decide, by decide, rfl⟩
          | streamRun threadId body =>
              cases named
              rw [handleRequest, answerCall, serve, streamRunWithThread, missing]
              split
              · exact ⟨422, _, by decide, by decide, rfl⟩
              · exact ⟨404, _, by decide, by decide, rfl⟩
          | createThread body => cases named
          | getThread threadId => cases named
          | getState threadId => cases named
          | getStateCheckpoint threadId checkpoint => cases named
          | getHistory threadId body => cases named
          | updateState threadId body => cases named
          | deleteThread threadId => cases named

end LangGraphServer
