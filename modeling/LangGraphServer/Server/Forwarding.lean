import LangGraphServer.Lib.Drain
import LangGraphServer.Server.RunRoutes

set_option autoImplicit false

namespace LangGraphServer

open Collections Coroutine

inductive NativeMode where
  | values
  | updates
  | messages
  | custom
  | debug
deriving DecidableEq, Repr

def NativeMode.text : NativeMode → String
  | .values => "values"
  | .updates => "updates"
  | .messages => "messages"
  | .custom => "custom"
  | .debug => "debug"

-- Given a list of modes, a graph yields each item with its mode.
def tagged (pair : NativeMode × PyObj) : StreamItem := .raw (.tuple [.str pair.1.text, pair.2])

def isMapping : PyObj → Bool
  | .dict _ => true
  | _ => false

-- Messages without content and states that are no mappings are not forwarded.
def isSkipped : NativeMode × PyObj → Bool
  | (.messages, item) =>
      !isMapping (messageParts item).1 && !(((messageParts item).1.attribute? "content").getD (.str "")).truthy
  | (.values, item) => !isMapping item
  | _ => false

section Forwarding

variable (platform : Platform) (context : RequestContext) (assistant : AssistantConfig)

def transformOutput (entries : List (String × PyObj)) : Except ServerError PyObj :=
  match assistant.outputTransformer with
  | some transform => transform (Dict.empty.setAll entries)
  | none => .ok (.dict entries)

structure CarriesMessage (message serialized : PyObj) : Prop where
  mapping : isMapping message = true → serialized = message
  content : isMapping message = false → serialized.entry? "content" = message.attribute? "content"
  type : isMapping message = false → ∀ text, message.attribute? "type" = some (.str text) →
    serialized.entry? "type" = some (.str text)
  id : isMapping message = false → ∀ given, message.attribute? "id" = some given → given.truthy = true →
    serialized.entry? "id" = some given

-- The metadata of a message, with a step and a node where it names none.
structure CarriesMetadata (given metadata : Metadata) : Prop where
  kept : ∀ key ∈ given.keys, metadata.get? key = given.get? key
  step : "langgraph_step" ∉ given.keys → metadata.get? "langgraph_step" = some (.int 1)
  node : "langgraph_node" ∉ given.keys → metadata.get? "langgraph_node" = some (.str assistant.assistantId)
  others : ∀ key, key ∉ given.keys → key ≠ "langgraph_step" → key ≠ "langgraph_node" → metadata.get? key = none

inductive Carries : NativeMode → PyObj → PyObj → Prop where
  | updates (item : PyObj) : Carries .updates item item
  | custom (item : PyObj) : Carries .custom item item
  | debug (item : PyObj) : Carries .debug item item
  | values (entries : List (String × PyObj)) (data : PyObj)
    (transformed : transformOutput assistant entries = .ok data) :
      Carries .values (.dict entries) data
  | messages (item serialized : PyObj) (metadata : Metadata) (message : CarriesMessage (messageParts item).1 serialized)
      (described : CarriesMetadata assistant ((messageParts item).2.getD .empty) metadata) :
      Carries .messages item (.list [serialized, .dict metadata.entries])

-- The output transformer takes the states of a stream, and its data has a JSON text.
structure Serialisable (pairs : List (NativeMode × PyObj)) : Prop where
  transformed : ∀ entries, (NativeMode.values, PyObj.dict entries) ∈ pairs →
    ∃ data, transformOutput assistant entries = .ok data
  dumped : ∀ pair ∈ pairs, ∀ data, Carries assistant pair.1 pair.2 data → ∃ json, platform.jsonDumps data = .ok json

-- An event that carries an item under its mode.
def Forwards (pair : NativeMode × PyObj) (event : StreamItem) : Prop :=
  ∃ data json, Carries assistant pair.1 pair.2 data ∧ platform.jsonDumps data = .ok json ∧
    event = .event ("event: " ++ pair.1.text ++ "\ndata: " ++ json ++ "\n\n")

theorem normalize_tagged (mode : NativeMode) (item : PyObj) (modes : List String) :
    normalizeNativeStreamItem (.tuple [.str mode.text, item]) modes = .ok (mode.text, item) := by
  cases mode <;> rfl

theorem set_default_spec (entries : Metadata) (key query : String) (value : PyObj) :
    (setDefault entries key value).get? query =
      if query = key ∧ key ∉ entries.keys then some value else entries.get? query := by
  rw [setDefault]
  by_cases present : key ∈ entries.keys
  · rw [if_pos present, if_neg (fun both => both.2 present)]
  · rw [if_neg present, Dict.get_set]
    by_cases same : query = key
    · rw [if_pos same, if_pos ⟨same, present⟩]
    · rw [if_neg same, if_neg (fun both => same both.1)]

theorem defaulted_metadata_carries (given : Metadata) :
    CarriesMetadata assistant given (setDefault (setDefault given "langgraph_step" (.int 1)) "langgraph_node"
      (.str assistant.assistantId)) := by
  have stepped := fun query => set_default_spec given "langgraph_step" query (.int 1)
  have present : "langgraph_node" ∈ (setDefault given "langgraph_step" (.int 1)).keys ↔
    "langgraph_node" ∈ given.keys := by
    rw [Dict.mem_keys, Dict.mem_keys, stepped, if_neg (by simp)]
  have noded := fun query => set_default_spec (setDefault given "langgraph_step" (.int 1)) "langgraph_node" query
    (.str assistant.assistantId)
  simp only [present, stepped] at noded
  refine ⟨fun key member => ?_, fun absent => ?_, fun absent => ?_, fun key absent notStep notNode => ?_⟩
  · rw [noded, if_neg (fun both => both.2 (both.1 ▸ member)), if_neg (fun both => both.2 (both.1 ▸ member))]
  · rw [noded, if_neg (by simp), if_pos ⟨rfl, absent⟩]
  · rw [noded, if_pos ⟨rfl, absent⟩]
  · rw [noded, if_neg (fun both => notNode both.1), if_neg (fun both => notStep both.1)]
    exact (Dict.get_none given key).mpr absent

theorem serialize_message_object (item : PyObj) (plain : isMapping item = false) :
    serializeMessage context item = if ((item.attribute? "content").getD (.str "")).truthy then
      some (.dict [("type", .str (match item.attribute? "type" with | some (.str text) => text | _ => "message")),
        ("content", (item.attribute? "content").getD (.str "")),
        ("id", if ((item.attribute? "id").getD .none).truthy then (item.attribute? "id").getD .none
          else .str (context.freshMessageId item))])
    else none := by
  cases item with
  | dict entries => cases plain
  | _ => rfl

theorem serialize_message_none (item : PyObj) : serializeMessage context item = none ↔
    isMapping item = false ∧ ((item.attribute? "content").getD (.str "")).truthy = false := by
  cases plain : isMapping item with
  | true =>
      cases item with
      | dict entries => exact ⟨fun nothing => (by cases nothing), fun both => (by cases both.1)⟩
      | _ => cases plain
  | false =>
      rw [serialize_message_object context item plain]
      cases filled : ((item.attribute? "content").getD (.str "")).truthy with
      | true => exact ⟨fun nothing => (by cases nothing), fun both => (by cases both.2)⟩
      | false => exact ⟨fun _ => ⟨rfl, rfl⟩, fun _ => rfl⟩

theorem serialize_message_carries (item serialized : PyObj) (made : serializeMessage context item = some serialized) :
    CarriesMessage item serialized := by
  cases plain : isMapping item with
  | true =>
      cases item with
      | dict entries =>
          cases made
          exact ⟨fun _ => rfl, fun wrong => (by cases wrong), fun wrong => (by cases wrong),
            fun wrong => (by cases wrong)⟩
      | _ => cases plain
  | false =>
      rw [serialize_message_object context item plain] at made
      cases filled : ((item.attribute? "content").getD (.str "")).truthy with
      | false =>
          rw [filled] at made
          cases made
      | true =>
          rw [filled] at made
          cases made
          refine ⟨fun wrong => ?_, fun _ => ?_, fun _ text typed => ?_, fun _ given named truthy => ?_⟩
          · rw [plain] at wrong
            cases wrong
          · cases content : item.attribute? "content" with
            | none =>
                rw [content] at filled
                cases filled
            | some given => rfl
          · rw [typed]
            rfl
          · rw [named, Option.getD_some, if_pos truthy]
            rfl

theorem event_of_message (item : PyObj) (modes : List String) (payload : Option PyObj)
    (made : messageEventPayload context assistant (messageParts item).1 (messageParts item).2 = payload) :
    eventOfItem platform context assistant modes (.tuple [.str "messages", item]) =
      payload.elim (.ok none) (fun payload => some <$> formatSseEvent platform "messages" payload) := by
  have normalized : normalizeNativeStreamItem (.tuple [.str "messages", item]) modes = .ok ("messages", item) :=
    normalize_tagged .messages item modes
  rw [eventOfItem, normalized]
  simp only [bind, Except.bind, made]
  cases payload <;> rfl

theorem event_of_tagged (pairs : List (NativeMode × PyObj)) (serialisable : Serialisable platform assistant pairs)
    (pair : NativeMode × PyObj) (member : pair ∈ pairs) (modes : List String) :
    (isSkipped pair = true ∧ eventOfItem platform context assistant modes
      (.tuple [.str pair.1.text, pair.2]) = .ok none) ∨
      (isSkipped pair = false ∧ ∃ text, Forwards platform assistant pair (.event text) ∧
        eventOfItem platform context assistant modes (.tuple [.str pair.1.text, pair.2]) = .ok (some text)) := by
  have formatted : ∀ data, Carries assistant pair.1 pair.2 data → ∃ text, Forwards platform assistant
    pair (.event text) ∧ formatSseEvent platform pair.1.text data = .ok text := by
    intro data carries
    obtain ⟨json, dumped⟩ := serialisable.dumped pair member data carries
    exact ⟨_, ⟨data, json, carries, dumped, rfl⟩, by rw [formatSseEvent, dumped]⟩
  obtain ⟨mode, item⟩ := pair
  cases mode with
  | messages =>
      rw [NativeMode.text, event_of_message platform context assistant item modes _ rfl, messageEventPayload, isSkipped]
      cases serialized : serializeMessage context (messageParts item).1 with
      | none =>
          obtain ⟨plain, empty⟩ := (serialize_message_none context (messageParts item).1).mp serialized
          rw [plain, empty]
          exact Or.inl ⟨rfl, rfl⟩
      | some made =>
          have kept : ¬ (isMapping (messageParts item).1 = false ∧
              (((messageParts item).1.attribute? "content").getD (.str "")).truthy = false) := by
            intro both
            rw [(serialize_message_none context (messageParts item).1).mpr both] at serialized
            cases serialized
          obtain ⟨text, forwards, written⟩ := formatted _ (Carries.messages item made _
            (serialize_message_carries context (messageParts item).1 made serialized)
            (defaulted_metadata_carries assistant ((messageParts item).2.getD .empty)))
          refine Or.inr ⟨?_, text, forwards, ?_⟩
          · cases mapped : isMapping (messageParts item).1 with
            | true => rfl
            | false =>
                cases filled : (((messageParts item).1.attribute? "content").getD (.str "")).truthy with
                | true => rfl
                | false => exact absurd ⟨mapped, filled⟩ kept
          · show some <$> formatSseEvent platform "messages" _ = _
            have written : formatSseEvent platform "messages" _ = .ok text := written
            rw [written]
            rfl
  | values =>
      rw [eventOfItem, normalize_tagged]
      cases item with
      | dict entries =>
          obtain ⟨data, transformed⟩ := serialisable.transformed entries member
          obtain ⟨text, forwards, written⟩ := formatted data (Carries.values entries data transformed)
          refine Or.inr ⟨rfl, text, forwards, ?_⟩
          have written : formatSseEvent platform "values" data = .ok text := written
          rw [transformOutput] at transformed
          cases given : assistant.outputTransformer with
          | some transform =>
              rw [given] at transformed
              simp only at transformed
              simp only [NativeMode.text, bind, Except.bind, transformed, written]
              rfl
          | none =>
              rw [given] at transformed
              simp only [Except.ok.injEq] at transformed
              subst transformed
              simp only [NativeMode.text, bind, Except.bind, written]
              rfl
      | _ => exact Or.inl ⟨rfl, rfl⟩
  | updates =>
      obtain ⟨text, forwards, written⟩ := formatted item (Carries.updates item)
      refine Or.inr ⟨rfl, text, forwards, ?_⟩
      rw [eventOfItem, normalize_tagged]
      show some <$> formatSseEvent platform "updates" item = _
      have written : formatSseEvent platform "updates" item = .ok text := written
      rw [written]
      rfl
  | custom =>
      obtain ⟨text, forwards, written⟩ := formatted item (Carries.custom item)
      refine Or.inr ⟨rfl, text, forwards, ?_⟩
      rw [eventOfItem, normalize_tagged]
      show some <$> formatSseEvent platform "custom" item = _
      have written : formatSseEvent platform "custom" item = .ok text := written
      rw [written]
      rfl
  | debug =>
      obtain ⟨text, forwards, written⟩ := formatted item (Carries.debug item)
      refine Or.inr ⟨rfl, text, forwards, ?_⟩
      rw [eventOfItem, normalize_tagged]
      show some <$> formatSseEvent platform "debug" item = _
      have written : formatSseEvent platform "debug" item = .ok text := written
      rw [written]
      rfl

def emitted (modes : List String) : StreamItem → List StreamItem
  | .raw item => match eventOfItem platform context assistant modes item with
      | .ok (some text) => [.event text]
      | _ => []
  | .event _ => []

theorem emitted_forwards (pairs kept : List (NativeMode × PyObj)) (serialisable : Serialisable platform assistant pairs)
    (members : ∀ pair ∈ kept, pair ∈ pairs) (modes : List String) :
    List.Forall₂ (Forwards platform assistant) (kept.filter (fun pair => !isSkipped pair))
      ((kept.map tagged).flatMap (emitted platform context assistant modes)) := by
  induction kept with
  | nil => exact .nil
  | cons pair rest ih =>
      have tail := ih (fun later member => members later (List.mem_cons_of_mem pair member))
      have here := event_of_tagged platform context assistant pairs serialisable pair
        (members pair List.mem_cons_self) modes
      rw [List.map_cons, List.flatMap_cons, tagged, emitted]
      rcases here with ⟨skipped, nothing⟩ | ⟨forwarded, text, forwards, made⟩
      · rw [List.filter_cons_of_neg (by rw [skipped]; exact Bool.false_ne_true), nothing]
        exact tail
      · rw [List.filter_cons_of_pos (by rw [forwarded]; rfl), made]
        exact .cons forwards tail

def nativeModes (modes : List String) : List String :=
  (modes.map (fun mode => if mode = "messages-tuple" then "messages" else mode)).eraseDups

def graphIterator (graph : GraphRuntime) (payload : Metadata) (threadId : String) (modes : List String)
    (requestConfig : Option Config) (checkpointId : Option String) : Coro Api Unit :=
  mutating (some assistant.assistantId)
    ((graph.astream payload (buildRunnableConfig threadId assistant.assistantId requestConfig checkpointId)
      (nativeModes modes)).iterated (buildRunnableConfig threadId assistant.assistantId requestConfig checkpointId))

-- Whatever the awaits of a stream are answered with: when the graph yields tagged items, the
-- stream yields one event for each that is not skipped, in order, and ends as the graph does.
theorem stream_forwards_items (graph : GraphRuntime) (payload : Metadata) (threadId : String) (modes : List String)
    (requestConfig : Option Config) (checkpointId : Option String)
    (answers : Nat → (op : ServerOp) → Except ServerError op.Result) (answered : Nat)
    (pairs : List (NativeMode × PyObj))
    (yields : (Coro.drain (I := Api) answers answered
      (graphIterator assistant graph payload threadId modes requestConfig checkpointId)).items = pairs.map tagged)
    (serialisable : Serialisable platform assistant pairs) :
    List.Forall₂ (Forwards platform assistant) (pairs.filter (fun pair => !isSkipped pair))
      (Coro.drain (I := Api) answers answered (streamNativeGraph platform context assistant graph payload threadId modes
        requestConfig checkpointId)).items ∧
    (Coro.drain (I := Api) answers answered (streamNativeGraph platform context assistant graph payload threadId modes
        requestConfig checkpointId)).outcome =
      (Coro.drain (I := Api) answers answered
        (graphIterator assistant graph payload threadId modes requestConfig checkpointId)).outcome := by
  have serves : ∀ item ∈ (Coro.drain (I := Api) answers answered
      (graphIterator assistant graph payload threadId modes requestConfig checkpointId)).items, ∀ later,
      Coro.drain (I := Api) answers later (streamItem platform context assistant (nativeModes modes) item) =
        ⟨emitted platform context assistant (nativeModes modes) item, .ok (), later⟩ := by
    intro item member later
    rw [yields] at member
    obtain ⟨pair, listed, rfl⟩ := List.mem_map.mp member
    have here := event_of_tagged platform context assistant pairs serialisable pair listed (nativeModes modes)
    rw [tagged, streamItem, emitted]
    rcases here with ⟨_, nothing⟩ | ⟨_, text, _, made⟩
    · rw [nothing]
      rfl
    · rw [made]
      rfl
  have drained := Coro.drain_for_each (I := Api) answers (streamItem platform context assistant (nativeModes modes))
    (emitted platform context assistant (nativeModes modes))
    (graphIterator assistant graph payload threadId modes requestConfig checkpointId) answered serves
  have loop : streamNativeGraph platform context assistant graph payload threadId modes requestConfig checkpointId =
      (graphIterator assistant graph payload threadId modes requestConfig checkpointId).forEach
        (streamItem platform context assistant (nativeModes modes)) := rfl
  rw [loop, drained, yields]
  refine ⟨emitted_forwards platform context assistant pairs pairs serialisable (fun pair member => member)
    (nativeModes modes), ?_⟩
  show Except.map (fun _ => ()) _ = _
  cases (Coro.drain (I := Api) answers answered
    (graphIterator assistant graph payload threadId modes requestConfig checkpointId)).outcome <;> rfl

end Forwarding

def streamOf : List (NativeMode × PyObj) → GraphStream
  | [] => .done
  | pair :: rest => .emit (.tuple [.str pair.1.text, pair.2]) (streamOf rest) (.done .none)

def listedAssistant (pairs : List (NativeMode × PyObj)) : AssistantConfig :=
  smallAssistant "a" a_named { smallGraph with astream := fun _ _ _ => streamOf pairs }

def promptAnswers (_ : Nat) : (op : ServerOp) → Except ServerError op.Result
  | .begin _ => .ok ()
  | .finish => .ok ()
  | _ => .error .osError

def iteratorOf (pairs : List (NativeMode × PyObj)) : Coro Api Unit :=
  graphIterator (listedAssistant pairs) (listedAssistant pairs).graph .empty "t"
    ["updates", "messages-tuple", "values"] none none

def streamedOf (pairs : List (NativeMode × PyObj)) : Coro Api Unit :=
  streamNativeGraph smallPlatform smallContext (listedAssistant pairs) (listedAssistant pairs).graph .empty "t"
    ["updates", "messages-tuple", "values"] none none

theorem stream_forwards_two_items :
    List.Forall₂ (Forwards smallPlatform (listedAssistant [(.updates, .int 1), (.values, .dict [])]))
      ([(.updates, .int 1), (.values, .dict [])].filter (fun pair => !isSkipped pair))
      (Coro.drain (I := Api) promptAnswers 0 (streamedOf [(.updates, .int 1), (.values, .dict [])])).items ∧
    (Coro.drain (I := Api) promptAnswers 0 (streamedOf [(.updates, .int 1), (.values, .dict [])])).outcome =
      (Coro.drain (I := Api) promptAnswers 0 (iteratorOf [(.updates, .int 1), (.values, .dict [])])).outcome := by
  refine stream_forwards_items smallPlatform smallContext (listedAssistant [(.updates, .int 1), (.values, .dict [])])
    (listedAssistant [(.updates, .int 1), (.values, .dict [])]).graph .empty "t" ["updates", "messages-tuple", "values"]
    none none promptAnswers 0 [(.updates, .int 1), (.values, .dict [])] rfl ⟨fun entries _ => ⟨_, rfl⟩, ?_⟩
  intro pair member data carries
  rcases List.mem_cons.mp member with rfl | member
  · cases carries
    exact ⟨_, rfl⟩
  · obtain rfl := List.mem_singleton.mp member
    cases carries with
    | values entries data transformed =>
        cases transformed
        exact ⟨_, rfl⟩

-- A chunk that only calls a tool, and a state that is a list.
def unforwarded : List (NativeMode × PyObj) :=
  [(.messages, .tuple [.object [("type", .str "AIMessageChunk"), ("content", .str ""),
    ("tool_calls", .list [.dict []])], .dict []]), (.values, .list [.int 1])]

theorem items_without_events :
    (Coro.drain (I := Api) promptAnswers 0 (iteratorOf unforwarded)).items = unforwarded.map tagged ∧
      (Coro.drain (I := Api) promptAnswers 0 (streamedOf unforwarded)).items = [] :=
  ⟨rfl, rfl⟩

end LangGraphServer
