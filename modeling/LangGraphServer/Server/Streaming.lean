import LangGraphServer.Server.ThreadRoutes

set_option autoImplicit false

namespace LangGraphServer

open Collections Coroutine

def setDefault (entries : Metadata) (key : String) (value : PyObj) : Metadata :=
  if key ∈ entries.keys then entries else entries.set key value

def formatSseEvent (platform : Platform) (event : String) (data : PyObj) : Except ServerError String :=
  match platform.jsonDumps data with
  | .ok json => .ok ("event: " ++ event ++ "\ndata: " ++ json ++ "\n\n")
  | .error error => .error error

def streamError (platform : Platform) (error code : String) : Except ServerError String :=
  formatSseEvent platform "error" (.dict [("error", .str error), ("code", .str code)])

section Stream

variable (platform : Platform) (context : RequestContext) (assistant : AssistantConfig)

def serializeMessage : PyObj → Option PyObj
  | .dict entries => some (.dict entries)
  | message =>
      let content := (message.attribute? "content").getD (.str "")
      if content.truthy then
        let messageType := match message.attribute? "type" with
          | some (.str text) => text
          | _ => "message"
        let messageId := (message.attribute? "id").getD .none
        some (.dict [("type", .str messageType), ("content", content),
          ("id", if messageId.truthy then messageId else .str (context.freshMessageId message))])
      else none

def messageEventPayload (message : PyObj) (metadata : Option Metadata) : Option PyObj :=
  match serializeMessage context message with
  | none => none
  | some serialized =>
      let stepped := setDefault (metadata.getD .empty) "langgraph_step" (.int 1)
      let noded := setDefault stepped "langgraph_node" (.str assistant.assistantId)
      some (.list [serialized, .dict noded.entries])

def normalizeNativeStreamItem (item : PyObj) (modes : List String) : Except ServerError (String × PyObj) :=
  let untagged := match modes with
    | mode :: _ => .ok (mode, item)
    | [] => .error (.raised "IndexError" "list index out of range")
  match item with
  | .tuple [.str mode, payload] =>
      if mode ∈ ["values", "updates", "messages", "custom", "debug"] then .ok (mode, payload) else untagged
  | _ => untagged

-- The metadata of a message item, when its second half is a mapping.
def messageParts : PyObj → PyObj × Option Metadata
  | .tuple [message, .dict entries] => (message, some (Dict.empty.setAll entries))
  | .tuple [message, _] => (message, none)
  | message => (message, none)

-- The event that one item of the graph is streamed as, if any.
def eventOfItem (modes : List String) (raw : PyObj) : Except ServerError (Option String) := do
  let (mode, item) ← normalizeNativeStreamItem raw modes
  if mode = "messages" then
    let (message, metadata) := messageParts item
    match messageEventPayload context assistant message metadata with
    | some payload => some <$> formatSseEvent platform "messages" payload
    | none => .ok none
  else
    match mode, item with
    | "values", .dict entries =>
        let transformed ← match assistant.outputTransformer with
          | some transform => transform (Dict.empty.setAll entries)
          | none => .ok (.dict entries)
        some <$> formatSseEvent platform "values" transformed
    | mode, item =>
        if mode ∈ ["updates", "custom", "debug"] then some <$> formatSseEvent platform mode item else .ok none

def yieldEvent (text : String) : Coro Api Unit := Coro.yieldItem (I := Api) .generatorExit (.event text)

def yieldFormatted (formatted : Except ServerError String) : Coro Api Unit :=
  match formatted with
  | .ok text => yieldEvent text
  | .error error => raise error

def streamItem (modes : List String) : StreamItem → Coro Api Unit
  | .raw item => match eventOfItem platform context assistant modes item with
      | .ok (some text) => yieldEvent text
      | .ok none => pure ()
      | .error error => raise error
  | .event _ => pure ()

def streamNativeGraph (graph : GraphRuntime) (payload : Metadata) (threadId : String) (modes : List String)
    (requestConfig : Option Config) (checkpointId : Option String) : Coro Api Unit :=
  let nativeModes := (modes.map (fun mode => if mode = "messages-tuple" then "messages" else mode)).eraseDups
  let runnableConfig := buildRunnableConfig threadId assistant.assistantId requestConfig checkpointId
  (mutating (some assistant.assistantId)
    ((graph.astream payload runnableConfig nativeModes).iterated runnableConfig)).forEach
    (streamItem platform context assistant nativeModes)

-- `async for event in generator: yield event`.
def passOn (generator : Coro Api Unit) : Coro Api Unit :=
  generator.forEach (fun item => Coro.yieldItem (I := Api) .generatorExit item)

def setThreadStatus (threadId : String) (status : String) (moment : Moment) : Coro Api Unit := do
  let thread ← perform (.getThread threadId)
  match (thread : Option Thread) with
  | none => pure ()
  | some thread => perform (.putThread { thread with status := status, updatedAt := context.now moment })

def streamFailure (error : ServerError) : Coro Api Unit :=
  if error = .checkpointCapacity then
    yieldFormatted (streamError platform "Checkpoint capacity exceeded" "CHECKPOINT_CAPACITY_EXCEEDED")
  else if error.isException = true then
    yieldFormatted (streamError platform "Graph execution failed" "INTERNAL_ERROR")
  else raise error

def streamGraphResponse (inputData : Metadata) (threadId : String) (graph : GraphRuntime) (modes : List String)
    (requestConfig : Option Config) (checkpointId : Option String) : Coro Api Unit := do
  let modes := if modes.isEmpty then ["values"] else modes
  yieldFormatted (formatSseEvent platform "metadata"
    (.dict [("run_id", .str context.freshRunId), ("attempt", .int 1)]))
  setThreadStatus context threadId "busy" .busy
  ((do
      let payload ← attempt (prepareInput assistant inputData)
      passOn (streamNativeGraph platform context assistant graph payload threadId modes requestConfig checkpointId)
      yieldFormatted (formatSseEvent platform "end" .none) : Coro Api Unit).tryCatch
        (streamFailure platform)).tryFinally
    (setThreadStatus context threadId "idle" .idle)

def sendItem : StreamItem → Coro Api Unit
  | .event text => perform (.send (.body text))
  | .raw _ => pure ()

-- The ASGI response: it starts, sends every event, ends, and then runs its background
-- task. An exception it absorbs ends the sending early.
def respond (body : Coro Api Unit) (background : Coro Api Unit) : Coro Api Unit := do
  ((do
      perform (.send .start)
      body.forEach sendItem
      perform (.send .finish) : Coro Api Unit).tryCatch (fun error =>
    if platform.absorbs error = true then pure () else raise error))
  background

end Stream

end LangGraphServer
