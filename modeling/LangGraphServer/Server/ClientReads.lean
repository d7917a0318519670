import LangGraphServer.Server.RunTranscripts
import LangGraphServer.Server.SseFraming

set_option autoImplicit false

namespace LangGraphServer

open Collections Coroutine EventStream JsonText

def NativeMode.event : NativeMode → ServerEvent
  | .values => .values
  | .updates => .updates
  | .messages => .messages
  | .custom => .custom
  | .debug => .debug

theorem native_event_name (mode : NativeMode) : mode.event.name = mode.text := by
  cases mode <;> rfl

section Events

variable {F : Type}

def metadataSent (runId : String) : ServerEvent × Json F :=
    (.metadata, .dict [("run_id", .str runId), ("attempt", .int 1)])

def errorSent (error code : String) : ServerEvent × Json F :=
    (.error, .dict [("error", .str error), ("code", .str code)])

def failureSent (error : ServerError) : List (ServerEvent × Json F) :=
  if error = .checkpointCapacity then [errorSent "Checkpoint capacity exceeded" "CHECKPOINT_CAPACITY_EXCEEDED"]
  else if error.isException = true then [errorSent "Graph execution failed" "INTERNAL_ERROR"]
  else []

def endingSent : Except ServerError Unit → List (ServerEvent × Json F)
  | .ok () => [(.end, .null)]
  | .error error => failureSent error

-- The event that ends a run: there is none if the thread could not be marked as busy.
def closingSent {σ : Type} (parts : Parts σ) : List (ServerEvent × Json F) :=
  match parts.busy.outcome with
  | .ok () => endingSent parts.graph.outcome
  | .error _ => []

def lateSent (config : ServerConfig) : Except ServerError Unit → List (ServerEvent × Json F)
  | .error .timeout => [errorSent "Graph execution timed out" "RUN_TIMEOUT"]
  | .error (.cancelled .timeout) =>
      if config.runTimeoutSeconds.isSome = true then [errorSent "Graph execution timed out" "RUN_TIMEOUT"] else []
  | _ => []

theorem late_sent_timed (config : ServerConfig) (outcome : Except ServerError Unit) (timed : TimedOut config outcome) :
    lateSent (F := F) config outcome = [errorSent "Graph execution timed out" "RUN_TIMEOUT"] := by
  rcases timed with rfl | ⟨rfl, limited⟩
  · rfl
  · exact if_pos limited

theorem late_sent_early (config : ServerConfig) (outcome : Except ServerError Unit)
    (early : ¬ TimedOut config outcome) :
    lateSent (F := F) config outcome = [] := by
  rw [lateSent.eq_def]
  split
  · exact absurd (Or.inl rfl) early
  · exact if_neg (fun limited => early (Or.inr ⟨rfl, limited⟩))
  · rfl

variable (format : FloatFormat F) (exact : F → Rat) (platform : Platform)

def frameText (event : ServerEvent × Json F) : String :=
  "event: " ++ event.1.name ++ "\ndata: " ++ String.ofList (write format event.2) ++ "\n\n"

def sentItems (events : List (ServerEvent × Json F)) : List StreamItem :=
    events.map (fun event => .event (frameText format event))

theorem sent_append (first second : List (ServerEvent × Json F)) :
    sentItems format (first ++ second) = sentItems format first ++ sentItems format second := List.map_append

theorem frame_text_letters (event : ServerEvent × Json F) :
    (frameText format event).toList = frame event.1.name.toList (write format event.2) := by
  have shaped : (frameText format event).toList = frame event.1.name.toList
    (String.ofList (write format event.2)).toList := by
    rewrite [frameText, String.toList_append, String.toList_append, String.toList_append, String.toList_append]
    unfold frame
    rfl
  rw [shaped, String.toList_ofList]

def bodyText : List StreamItem → List Char
  | [] => []
  | .event text :: rest => text.toList ++ bodyText rest
  | .raw _ :: rest => bodyText rest

theorem body_text_sent (events : List (ServerEvent × Json F)) :
    bodyText (sentItems format events) =
      (events.map (fun event => (event.1.name.toList, write format event.2))).flatMap
      (fun event => frame event.1 event.2) := by
  induction events with
  | nil => rfl
  | cons event rest ih =>
      rw [List.map_cons, List.flatMap_cons, ← ih, ← frame_text_letters]
      rfl

-- A client parses what it gets as an event stream, and the data of each event as JSON.
def clientReads (chunks : List (List Char)) : Option (List (String × Json F)) :=
  (readChunks Reader.start chunks).dispatched.mapM
    (fun event => (loads format event.2).map (fun value => (String.ofList event.1, value)))

theorem client_reads_sent (events : List (ServerEvent × Json F)) (chunks : List (List Char))
    (cut : chunks.flatten = bodyText (sentItems format events)) :
    clientReads format chunks = some (events.map (fun event => (event.1.name, event.2))) := by
  have read : (readChunks Reader.start chunks).dispatched =
    events.map (fun event => (event.1.name.toList, write format event.2)) := by
    rw [read_chunks_flatten, cut, body_text_sent, read_frames _ Reader.start start_idle]
    · rfl
    · intro event listed
      obtain ⟨sent, _, rfl⟩ := List.mem_map.mp listed
      obtain ⟨eventLine, named⟩ := server_event_line sent.1
      exact ⟨eventLine, printable_one_line _ (write_printable format sent.2), named⟩
  rw [clientReads, read]
  clear cut read
  induction events with
  | nil => rfl
  | cons event rest ih =>
      rw [List.map_cons, List.mapM_cons, loads_write, ih, String.ofList_toList]
      rfl

variable {format exact platform}

theorem formatted_event (dumps : ∀ value, DumpsAsJson format exact platform value) (event : ServerEvent × Json F) :
    formatSseEvent platform event.1.name (ofJson exact event.2) = .ok (frameText format event) := by
  rw [formatSseEvent, dumps event.2]
  rfl

theorem converse_sends {σ : Type} (oracle : Coro.Oracle Api σ)
    (dumps : ∀ value, DumpsAsJson format exact platform value)
    (event : ServerEvent × Json F) (state : σ) :
    Coro.converse oracle state (yieldFormatted (formatSseEvent platform event.1.name (ofJson exact event.2))) =
      ⟨sentItems format [event], .ok (), state⟩ := by
  rw [formatted_event dumps event]
  rfl

theorem converse_failure_sends {σ : Type} (oracle : Coro.Oracle Api σ)
    (dumps : ∀ value, DumpsAsJson format exact platform value)
    (error : ServerError) (state : σ) :
    (Coro.converse oracle state (streamFailure platform error)).items = sentItems format (failureSent error) := by
  rw [streamFailure, failureSent]
  split
  · exact congrArg Coro.Dialogue.items
      (converse_sends oracle dumps (errorSent "Checkpoint capacity exceeded" "CHECKPOINT_CAPACITY_EXCEEDED") state)
  · split
    · exact congrArg Coro.Dialogue.items
        (converse_sends oracle dumps (errorSent "Graph execution failed" "INTERNAL_ERROR") state)
    · rfl

end Events

section Runs

variable {F σ : Type} (format : FloatFormat F) (exact : F → Rat) (platform : Platform) (config : ServerConfig)
    (context : RequestContext) (assistant : AssistantConfig) (oracle : Coro.Oracle Api σ) (graph : GraphRuntime)

-- The output transformer takes the states of a stream, and what is forwarded is JSON.
structure JsonItems (pairs : List (NativeMode × PyObj)) : Prop where
  transformed : ∀ entries, (NativeMode.values, PyObj.dict entries) ∈ pairs →
    ∃ data, transformOutput assistant entries = .ok data
  json : ∀ pair ∈ pairs, ∀ data, Carries assistant pair.1 pair.2 data → ∃ value : Json F, ofJson exact value = data

structure Delivers (pair : NativeMode × PyObj) (event : ServerEvent × Json F) : Prop where
  mode : event.1 = pair.1.event
  data : Carries assistant pair.1 pair.2 (ofJson exact event.2)

variable {exact platform assistant}

theorem json_serialisable (dumps : ∀ value, DumpsAsJson format exact platform value) (pairs : List (NativeMode × PyObj))
    (payloads : JsonItems exact assistant pairs) : Serialisable platform assistant pairs := by
  refine ⟨payloads.transformed, fun pair listed data carries => ?_⟩
  obtain ⟨value, rfl⟩ := payloads.json pair listed data carries
  exact ⟨_, dumps value⟩

theorem forwarded_sent (dumps : ∀ value, DumpsAsJson format exact platform value)
    (pairs kept : List (NativeMode × PyObj))
    (items : List StreamItem) (payloads : JsonItems exact assistant pairs) (members : ∀ pair ∈ kept, pair ∈ pairs)
    (forwarded : List.Forall₂ (Forwards platform assistant) kept items) :
    ∃ events, items = sentItems format events ∧ List.Forall₂ (Delivers exact assistant) kept events := by
  induction forwarded with
  | nil => exact ⟨[], rfl, .nil⟩
  | @cons pair item _ _ forwards _ ih =>
      obtain ⟨here, others⟩ := List.forall_mem_cons.mp members
      obtain ⟨events, rfl, delivered⟩ := ih others
      obtain ⟨data, json, carries, dumped, rfl⟩ := forwards
      obtain ⟨value, rfl⟩ := payloads.json _ here data carries
      cases (dumps value).symm.trans dumped
      refine ⟨(pair.1.event, value) :: events, ?_, .cons ⟨rfl, carries⟩ delivered⟩
      rw [sentItems, sentItems, List.map_cons, frameText, native_event_name]

variable (exact platform assistant) (inputData : Metadata) (threadId : String) (modes : List String)
    (requestConfig : Option Config) (checkpointId : Option String)

-- What the graph yields in a run. It is not asked if the thread could not be marked as busy,
-- or if the input transformer fails.
def graphItems (start : σ) : List StreamItem :=
  match (Coro.converse oracle start (setThreadStatus context threadId "busy" .busy)).outcome,
    prepareInput assistant inputData with
  | .ok (), .ok payload =>
      (Coro.converse oracle (Coro.converse oracle start (setThreadStatus context threadId "busy" .busy)).state
      (graphIterator assistant graph payload threadId (if modes.isEmpty then ["values"] else modes) requestConfig
        checkpointId)).items
  | _, _ => []

variable {exact platform assistant}

theorem native_graph_sends (dumps : ∀ value, DumpsAsJson format exact platform value) (payload : Metadata) (state : σ)
    (pairs : List (NativeMode × PyObj)) (payloads : JsonItems exact assistant pairs)
    (yields : (Coro.converse oracle state (graphIterator assistant graph payload threadId modes requestConfig
      checkpointId)).items = pairs.map tagged) :
    ∃ events, (Coro.converse oracle state (streamNativeGraph platform context assistant graph payload threadId
        modes requestConfig checkpointId)).items = sentItems format events ∧
      List.Forall₂ (Delivers exact assistant) (pairs.filter (fun pair => !isSkipped pair)) events := by
  have serialisable := json_serialisable format dumps pairs payloads
  have loop : streamNativeGraph platform context assistant graph payload threadId modes requestConfig checkpointId =
      (graphIterator assistant graph payload threadId modes requestConfig checkpointId).forEach
        (streamItem platform context assistant (nativeModes modes)) := rfl
  rw [loop, Coro.converse_for_each_served (I := Api) oracle _ _
    (emitted platform context assistant (nativeModes modes)) state, yields]
  · exact forwarded_sent format dumps pairs _ _ payloads (fun pair kept => List.mem_of_mem_filter kept)
      (emitted_forwards platform context assistant pairs pairs serialisable (fun pair listed => listed)
        (nativeModes modes))
  · intro item listed later
    rw [yields] at listed
    obtain ⟨pair, member, rfl⟩ := List.mem_map.mp listed
    have here := event_of_tagged platform context assistant pairs serialisable pair member (nativeModes modes)
    rw [tagged, streamItem, emitted]
    rcases here with ⟨_, nothing⟩ | ⟨_, text, _, made⟩
    · rw [nothing]
      rfl
    · rw [made]
      rfl

theorem graph_loop_sends (dumps : ∀ value, DumpsAsJson format exact platform value) (start : σ)
    (pairs : List (NativeMode × PyObj)) (payloads : JsonItems exact assistant pairs)
    (busied : (Coro.converse oracle start (setThreadStatus context threadId "busy" .busy)).outcome = .ok ())
    (yields : graphItems context assistant oracle graph inputData threadId modes requestConfig checkpointId start =
      pairs.map tagged) :
    ∃ events, (streamParts platform context assistant oracle inputData threadId graph modes requestConfig checkpointId
        start).graph.items = sentItems format events ∧
      List.Forall₂ (Delivers exact assistant) (pairs.filter (fun pair => !isSkipped pair)) events := by
  rw [graphItems, busied] at yields
  cases prepared : prepareInput assistant inputData with
  | error error =>
      rw [prepared] at yields
      cases List.map_eq_nil_iff.mp yields.symm
      refine ⟨[], ?_, .nil⟩
      rw [streamParts, graphLoop, prepared]
      rfl
  | ok payload =>
      rw [prepared] at yields
      obtain ⟨events, sent, delivered⟩ := native_graph_sends format context oracle graph threadId _ requestConfig
        checkpointId dumps payload
        _ pairs payloads yields
      refine ⟨events, ?_, delivered⟩
      rw [streamParts, graphLoop, prepared]
      exact (congrArg Coro.Dialogue.items (converse_passed_on oracle _ _)).trans sent

theorem graph_block_sends (dumps : ∀ value, DumpsAsJson format exact platform value) (state : σ) :
    let looped := Coro.converse oracle state
      (graphLoop platform context assistant inputData threadId graph modes requestConfig checkpointId)
    (Coro.converse oracle state (graphBlock platform context assistant inputData threadId graph modes requestConfig
      checkpointId)).items = looped.items ++ sentItems format (endingSent looped.outcome) := by
  intro looped
  rw [graphBlock]
  cases ended : looped.outcome with
  | ok value =>
      have closed := converse_sends oracle dumps (ServerEvent.end, Json.null) looped.state
      have whole := Coro.converse_bind_ok (I := Api) oracle
        (graphLoop platform context assistant inputData threadId graph modes requestConfig checkpointId)
        (fun _ => yieldFormatted (formatSseEvent platform "end" .none)) state value ended
      have caught := Coro.converse_catch_ok (I := Api) oracle _ (streamFailure platform) state ()
        ((congrArg Coro.Dialogue.outcome whole).trans (congrArg Coro.Dialogue.outcome closed))
      rw [caught, whole]
      exact congrArg (looped.items ++ ·) (congrArg Coro.Dialogue.items closed)
  | error error =>
      have whole := Coro.converse_bind_error (I := Api) oracle
        (graphLoop platform context assistant inputData threadId graph modes requestConfig checkpointId)
        (fun _ => yieldFormatted (formatSseEvent platform "end" .none)) state error ended
      have caught := Coro.converse_catch_error (I := Api) oracle _ (streamFailure platform) state error
        (congrArg Coro.Dialogue.outcome whole)
      rw [caught, whole]
      exact congrArg (looped.items ++ ·) (converse_failure_sends oracle dumps error looped.state)

theorem dumps_plain (dumps : ∀ value, DumpsAsJson format exact platform value) : DumpsPlain platform := by
  refine ⟨⟨_, dumps .null⟩, fun entries plain => ?_⟩
  have json : ∃ rows, ofEntries exact rows = entries := by
    induction entries with
    | nil => exact ⟨[], rfl⟩
    | cons row rest ih =>
        obtain ⟨here, others⟩ := List.forall_mem_cons.mp plain
        obtain ⟨rows, rfl⟩ := ih others
        obtain ⟨key, value⟩ := row
        rcases here with ⟨text, rfl⟩ | ⟨number, rfl⟩
        · exact ⟨(key, .str text) :: rows, rfl⟩
        · exact ⟨(key, .int number) :: rows, rfl⟩
  obtain ⟨rows, rfl⟩ := json
  exact ⟨_, dumps (.dict rows)⟩

theorem stream_graph_response_sends (dumps : ∀ value, DumpsAsJson format exact platform value) (start : σ)
    (pairs : List (NativeMode × PyObj)) (payloads : JsonItems exact assistant pairs)
    (yields : graphItems context assistant oracle graph inputData threadId modes requestConfig checkpointId start =
      pairs.map tagged) :
    ∃ data, List.Forall₂ (Delivers exact assistant) (pairs.filter (fun pair => !isSkipped pair)) data ∧
      (Coro.converse oracle start (streamGraphResponse platform context assistant inputData threadId graph
        modes requestConfig checkpointId)).items = sentItems format
          (metadataSent context.freshRunId :: (data ++ closingSent (streamParts platform context
          assistant oracle inputData threadId graph modes requestConfig checkpointId start))) := by
  have opened : Coro.converse oracle start (metadataEvent platform context) =
    ⟨sentItems format [metadataSent context.freshRunId], .ok (), start⟩ :=
      converse_sends oracle dumps (metadataSent context.freshRunId) start
  cases busied : (Coro.converse oracle start (setThreadStatus context threadId "busy" .busy)).outcome with
  | error error =>
      have none : closingSent (F := F) (streamParts platform context assistant oracle inputData threadId graph
          modes requestConfig checkpointId start) = [] := by
        simp only [closingSent, streamParts, busied]
      have failed := Coro.converse_bind_error (I := Api) oracle (setThreadStatus context threadId "busy" .busy)
        (fun _ => (graphBlock platform context assistant inputData threadId graph modes requestConfig
          checkpointId).tryFinally (setThreadStatus context threadId "idle" .idle)) start error busied
      rw [graphItems, busied] at yields
      cases List.map_eq_nil_iff.mp yields.symm
      refine ⟨[], .nil, ?_⟩
      rw [none, stream_graph_response_parts, Coro.converse_bind_ok (I := Api) oracle _ _ start ()
        (congrArg Coro.Dialogue.outcome opened), opened, failed, set_thread_status_quiet]
      rfl
  | ok value =>
      obtain ⟨data, sent, delivered⟩ := graph_loop_sends format context oracle graph inputData threadId modes
        requestConfig checkpointId dumps start pairs payloads busied yields
      refine ⟨data, delivered, ?_⟩
      have closing : closingSent (F := F) (streamParts platform context assistant oracle inputData threadId graph
          modes requestConfig checkpointId start) = endingSent
            (streamParts platform context assistant oracle inputData threadId graph modes requestConfig
          checkpointId start).graph.outcome := by
        simp only [closingSent, streamParts, busied]
      rw [stream_once_busy platform context assistant oracle inputData threadId graph modes requestConfig checkpointId
        (dumps_plain format dumps) start busied, opened, closing]
      show sentItems format [metadataSent context.freshRunId] ++
        (Coro.converse oracle _ (graphBlock platform context assistant inputData
        threadId graph modes requestConfig checkpointId)).items = _
      rw [graph_block_sends format context oracle graph inputData threadId modes requestConfig checkpointId dumps]
      refine Eq.trans ?_ (sent_append format [metadataSent context.freshRunId] (data ++ _)).symm
      rw [sent_append, ← sent]
      rfl

theorem run_with_lease_sends (dumps : ∀ value, DumpsAsJson format exact platform value) (generator : Coro Api Unit)
    (lease : RunLease) (start : σ) (events : List (ServerEvent × Json F))
    (sent : (Coro.converse oracle start generator).items = sentItems format events) :
    (Coro.converse oracle start (runWithLease platform config generator lease)).items =
      sentItems format (events ++ lateSent config (Coro.converse oracle start generator).outcome) := by
  have quiet : ∀ state, (Coro.converse oracle state (perform (.release lease))).items = [] :=
    Coro.converse_uses (I := Api) oracle (fun _ => True) _ (Coro.uses_perform (I := Api) (fun _ => True) _ trivial)
  obtain ⟨items, timed⟩ := converse_with_timeout config oracle (passOn (passOn generator)) start
  rw [converse_passed_on, converse_passed_on] at items timed
  rw [runWithLease, Coro.converse_finally]
  show _ ++ (Coro.converse oracle _ (perform (.release lease))).items = _
  rw [quiet, List.append_nil]
  cases ended : (Coro.converse oracle start
    (withTimeout config.runTimeoutSeconds (passOn (passOn generator)))).outcome with
  | ok value =>
      have early : ¬ TimedOut config (Coro.converse oracle start generator).outcome := by
        intro late
        cases ended.symm.trans (timed.mpr late)
      rw [Coro.converse_catch_ok (I := Api) oracle _ _ start value ended, late_sent_early config _ early,
        List.append_nil, ← sent]
      exact items
  | error error =>
      rw [Coro.converse_catch_error (I := Api) oracle _ _ start error ended]
      show _ ++ _ = _
      rw [items, sent, sent_append]
      by_cases own : error = .timeout
      · subst own
        rw [if_pos rfl, late_sent_timed config _ (timed.mp ended)]
        exact congrArg (sentItems format events ++ ·) (congrArg Coro.Dialogue.items
          (converse_sends oracle dumps (errorSent "Graph execution timed out" "RUN_TIMEOUT") _))
      · have early : ¬ TimedOut config (Coro.converse oracle start generator).outcome := by
          intro late
          cases ended.symm.trans (timed.mpr late)
          exact own rfl
        rw [if_neg own, late_sent_early config _ early]
        rfl

-- What a client reads of a run, however the text is cut: the run's id, an event for each item
-- that is not skipped, how the run ended, and whether its timeout came out.
structure ReadsRun (exact : F → Rat) (config : ServerConfig) (assistant : AssistantConfig) {τ : Type} (runId : String)
    (pairs : List (NativeMode × PyObj)) (parts : Parts τ) (outcome : Except ServerError Unit)
    (items : List StreamItem) : Prop where
  read : ∃ data, List.Forall₂ (Delivers exact assistant) (pairs.filter (fun pair => !isSkipped pair)) data ∧
    ∀ chunks : List (List Char), chunks.flatten = bodyText items → clientReads format chunks =
      some ((metadataSent runId :: (data ++ closingSent parts ++ lateSent config outcome)).map
        (fun event => (event.1.name, event.2)))

theorem sent_reads_run {τ : Type} (dumps : ∀ value, DumpsAsJson format exact platform value) (generator : Coro Api Unit)
    (lease : RunLease) (start : σ) (runId : String) (pairs : List (NativeMode × PyObj)) (parts : Parts τ)
    (data : List (ServerEvent × Json F)) (delivered : List.Forall₂ (Delivers exact assistant)
      (pairs.filter (fun pair => !isSkipped pair)) data)
    (sent : (Coro.converse oracle start generator).items = sentItems format
      (metadataSent runId :: (data ++ closingSent parts))) :
    ReadsRun format exact config assistant runId pairs parts (Coro.converse oracle start generator).outcome
      (Coro.converse oracle start (runWithLease platform config generator lease)).items := by
  refine ⟨data, delivered, fun chunks cut => ?_⟩
  rw [run_with_lease_sends format config oracle dumps generator lease start _ sent] at cut
  exact client_reads_sent format _ chunks cut

end Runs

-- Whatever the awaits of a run are answered with, the client reads what the graph has yielded,
-- and from the last event how the run ended.
theorem client_reads_run {F σ : Type} (format : FloatFormat F) (exact : F → Rat) (platform : Platform)
    (config : ServerConfig)
    (context : RequestContext) (assistant : AssistantConfig) (oracle : Coro.Oracle Api σ) (graph : GraphRuntime)
    (dumps : ∀ value, DumpsAsJson format exact platform value) (lease : RunLease) (start : σ) :
    (∀ inputData threadId modes requestConfig checkpointId pairs,
      graphItems context assistant oracle graph inputData threadId modes requestConfig checkpointId start =
        pairs.map tagged →
      JsonItems exact assistant pairs →
      let parts := streamParts platform context assistant oracle inputData threadId graph modes requestConfig
        checkpointId start
      ReadsRun format exact config assistant context.freshRunId pairs parts parts.leaves
        (Coro.converse oracle start (runWithLease platform config
          (streamGraphResponse platform context assistant inputData threadId graph modes requestConfig checkpointId)
            lease)).items) ∧
    ∀ request store pairs,
      graphItems context assistant (keptOracle platform oracle) graph (request.input.getD .empty) context.freshThreadId
        (resolveStreamModes request.streamMode assistant) request.config request.checkpointId
          (start, store) = pairs.map tagged →
      JsonItems exact assistant pairs →
      ReadsRun format exact config assistant context.freshRunId pairs
        (statelessParts platform context assistant oracle graph request store start)
        (statelessLeaves platform config context assistant oracle graph request store start)
        (Coro.converse oracle start (runWithLease platform config
          (statelessGenerator platform config context request assistant graph store) lease)).items := by
  constructor
  · intro inputData threadId modes requestConfig checkpointId pairs yields payloads parts
    obtain ⟨data, delivered, sent⟩ := stream_graph_response_sends format context oracle graph inputData threadId
      modes requestConfig checkpointId dumps start pairs payloads yields
    have ends := stream_graph_response_ends platform context assistant oracle inputData threadId graph
      modes requestConfig checkpointId (dumps_plain format dumps) start
    have read := sent_reads_run format config oracle dumps _ lease start context.freshRunId pairs parts
      data delivered sent
    rw [ends.outcome] at read
    exact read
  · intro request store pairs yields payloads
    obtain ⟨data, delivered, sent⟩ := stream_graph_response_sends format context (keptOracle platform oracle) graph
      (request.input.getD .empty) context.freshThreadId (resolveStreamModes request.streamMode assistant) request.config
      request.checkpointId dumps (start, store) pairs payloads yields
    have ends := stream_graph_response_ends platform context assistant (keptOracle platform oracle)
      (request.input.getD .empty) context.freshThreadId graph (resolveStreamModes request.streamMode assistant)
      request.config request.checkpointId (dumps_plain format dumps) (start, store)
    obtain ⟨items, outcome⟩ := converse_stateless platform config oracle context request assistant graph store start
    rw [← items] at sent
    rw [ends.outcome, ends.state] at outcome
    have read := sent_reads_run format config oracle dumps _ lease start context.freshRunId pairs _ data delivered sent
    rw [outcome] at read
    exact read

mutual

theorem to_json_of_json : ∀ value : Json Unit, toJson (ofJson (fun _ => 1 / 2) value) = some value
  | .null => rfl
  | .bool _ => rfl
  | .int _ => rfl
  | .float _ => rfl
  | .str _ => rfl
  | .list items => by
      rw [ofJson, toJson, to_items_of_items items]
      rfl
  | .dict entries => by
      rw [ofJson, toJson, to_entries_of_entries entries]
      rfl

theorem to_items_of_items : ∀ items : List (Json Unit), toItems (ofItems (fun _ => 1 / 2) items) = some items
  | [] => rfl
  | item :: rest => by
      rw [ofItems, toItems, to_json_of_json item, to_items_of_items rest]
      rfl

theorem to_entries_of_entries : ∀ entries : List (String × Json Unit), toEntries
    (ofEntries (fun _ => 1 / 2) entries) = some entries
  | [] => rfl
  | (key, value) :: rest => by
      rw [ofEntries, toEntries, to_json_of_json value, to_entries_of_entries rest]
      rfl

end

theorem standard_json_dumps (value : Json Unit) : DumpsAsJson oneHalf (fun _ => 1 / 2) standardJson value := by
  rw [DumpsAsJson, standardJson]
  dsimp only
  rw [to_json_of_json value]

def calmOracle : Coro.Oracle Api Unit := fun _ op => ((), calmAnswer op)

def readPairs : List (NativeMode × PyObj) := [(.updates, .int 1), (.values, .dict [("answer", .str "data: \n\n")])]

theorem client_reads_run_two_items :
    ReadsRun oneHalf (fun _ => 1 / 2) (smallServerConfig smallGraph none (some 1))
      (listedAssistant readPairs) "run" readPairs
      (streamParts standardJson smallContext (listedAssistant readPairs) calmOracle .empty "t"
        (listedAssistant readPairs).graph ["values"] none none ())
      (streamParts standardJson smallContext (listedAssistant readPairs) calmOracle .empty "t"
        (listedAssistant readPairs).graph ["values"] none none ()).leaves
      (Coro.converse calmOracle () (runWithLease standardJson (smallServerConfig smallGraph none (some 1))
        (streamGraphResponse standardJson smallContext (listedAssistant readPairs) .empty "t"
          (listedAssistant readPairs).graph ["values"] none none) ⟨"t", 0⟩)).items := by
  refine (client_reads_run oneHalf (fun _ => 1 / 2) standardJson
    (smallServerConfig smallGraph none (some 1)) smallContext (listedAssistant readPairs) calmOracle
      (listedAssistant readPairs).graph standard_json_dumps ⟨"t", 0⟩ ()).1 .empty "t" ["values"]
    none none readPairs rfl ⟨fun entries _ => ⟨_, rfl⟩, fun pair listed data carries => ?_⟩
  rcases List.mem_pair.mp (show pair ∈ [_, _] from listed) with rfl | rfl
  · cases carries
    exact ⟨.int 1, rfl⟩
  · cases carries with
    | values entries data transformed =>
        cases transformed
        exact ⟨.dict [("answer", .str "data: \n\n")], rfl⟩

end LangGraphServer
