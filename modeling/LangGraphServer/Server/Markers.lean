import LangGraphServer.Lib.Selection
import LangGraphServer.Server.References
import LangGraphServer.Server.Streaming

set_option autoImplicit false

namespace LangGraphServer

open Collections Coroutine Selection

-- Metadata that say the same but for the server's own key.
def SameUnmarked (first second : Metadata) : Prop := first.pop assistantIdMetadataKey =
    second.pop assistantIdMetadataKey

structure SameButMarker (first second : CheckpointItem) : Prop where
  checkpointNs : first.checkpointNs = second.checkpointNs
  checkpointId : first.checkpointId = second.checkpointId
  id : first.id = second.id
  ts : first.ts = second.ts
  channelValues : first.channelValues = second.channelValues
  parentConfig : first.parentConfig = second.parentConfig
  metadata : SameUnmarked (first.metadata.getD .empty) (second.metadata.getD .empty)

-- What is drawn at random does not depend on the marker.
def Unbiased (context : RequestContext) : Prop :=
  ∀ first second, SameButMarker first second → context.freshCheckpointId (some first) =
    context.freshCheckpointId (some second)

section Markers

variable (platform : Platform) (config : ServerConfig) (context : RequestContext) (id : TaskId) (threadId : String)

theorem thread_of_item_same (first second : CheckpointItem) (alike : SameButMarker first second) :
    threadOfItem platform context threadId first = threadOfItem platform context threadId second := by
  have sameMetadata := alike.metadata
  rw [SameUnmarked] at sameMetadata
  rw [threadOfItem, threadOfItem, alike.ts, alike.channelValues, sameMetadata]

theorem id_of_same (unbiased : Unbiased context) (first second : CheckpointItem) (alike : SameButMarker first second) :
    idOf context first = idOf context second := by
  rw [idOf, idOf, alike.id, unbiased first second alike]

theorem parent_reference_same (first second : CheckpointItem) (alike : SameButMarker first second) :
    parentReference platform threadId first = parentReference platform threadId second := by
  rw [parentReference, parentReference, alike.parentConfig, alike.checkpointNs]

theorem tuple_to_state_same (unbiased : Unbiased context) (first second : CheckpointItem)
    (alike : SameButMarker first second) :
    checkpointTupleToState platform context threadId first = checkpointTupleToState platform context
      threadId second := by
  have sameMetadata := alike.metadata
  rw [SameUnmarked] at sameMetadata
  rw [tuple_to_state_eq, tuple_to_state_eq, id_of_same context unbiased first second alike,
    parent_reference_same platform threadId first second alike, alike.checkpointNs, alike.channelValues,
      alike.ts, sameMetadata]

theorem newest_same (items others : List CheckpointItem) (alike : List.Forall₂ SameButMarker items others) :
    Option.Rel SameButMarker (newest items) (newest others) := by
  induction alike with
  | nil => exact .none
  | @cons item other rest more head _ ih =>
      rw [newest, newest]
      generalize newest rest = found at ih ⊢
      generalize newest more = otherFound at ih ⊢
      cases ih with
      | none => exact .some head
      | @some best otherBest same =>
          dsimp only
          rw [head.checkpointId, same.checkpointId]
          split
          · exact .some head
          · exact .some same

theorem latest_same (persistent : Bool) (first second : ServerState)
    (alike : List.Forall₂ SameButMarker (first.items threadId) (second.items threadId)) :
    Option.Rel SameButMarker (first.latest persistent threadId) (second.latest persistent threadId) := by
  rw [ServerState.latest, ServerState.latest]
  cases persistent with
  | false => exact .none
  | true =>
      rw [if_pos rfl, if_pos rfl]
      refine newest_same _ _ (List.rel_filter (fun item other same => ?_) alike)
      dsimp only
      rw [same.checkpointNs, same.checkpointId]

theorem get_or_create_thread_same (first second : ServerState) (metadata : Option Metadata)
    (stores : first.store = second.store)
    (alike : List.Forall₂ SameButMarker (first.items threadId) (second.items threadId)) :
    (aloneIn platform config id (getOrCreateThread platform config context (some threadId) metadata) first).2 =
        (aloneIn platform config id (getOrCreateThread platform config context (some threadId) metadata) second).2 ∧
      (aloneIn platform config id (getOrCreateThread platform config context (some threadId) metadata) first).1.store =
        (aloneIn platform config id (getOrCreateThread platform config context (some threadId) metadata)
          second).1.store := by
  have related := latest_same threadId config.checkpointer.isSome first second alike
  have sameThread : (first.latest config.checkpointer.isSome threadId).map (threadOfItem platform context threadId) =
      (second.latest config.checkpointer.isSome threadId).map (threadOfItem platform context threadId) := by
    generalize first.latest config.checkpointer.isSome threadId = found at related ⊢
    generalize second.latest config.checkpointer.isSome threadId = otherFound at related ⊢
    cases related with
    | none => rfl
    | some same => exact congrArg some (thread_of_item_same platform context threadId _ _ same)
  have sameRecord : recordFor platform config context first threadId metadata =
      recordFor platform config context second threadId metadata := by
    rw [recordFor, recordFor]
    generalize first.latest config.checkpointer.isSome threadId = found at related ⊢
    generalize second.latest config.checkpointer.isSome threadId = otherFound at related ⊢
    cases related with
    | none => rfl
    | some same =>
        dsimp only
        rw [thread_of_item_same platform context threadId _ _ same]
  rw [get_or_create_thread_alone, get_or_create_thread_alone, sameThread, sameRecord, stores]
  cases second.store.getThread threadId with
  | some thread => exact ⟨rfl, stores⟩
  | none => exact ⟨rfl, rfl⟩

def keeps (filter : Option Metadata) (item : CheckpointItem) : Bool :=
  filter.all (fun given => ServerState.matchesFilter platform given (item.metadata.getD .empty))

def timeline (state : ServerState) (request : HistoryRequest) : List CheckpointItem :=
  ((state.items threadId).filter (fun item => decide (item.checkpointNs = historyNamespace request) &&
    ((historyBefore threadId request).bind LookupConfig.checkpointId).all
      (fun bound => decide (item.checkpointId < bound)))).mergeSort
      (fun item other => decide (other.checkpointId ≤ item.checkpointId))

theorem keys_decide (state : ServerState) (distinct : state.KeysDistinct threadId) (item other : CheckpointItem)
    (listed : item ∈ state.items threadId) (listedToo : other ∈ state.items threadId)
    (sameNs : item.checkpointNs = other.checkpointNs) (sameId : item.checkpointId = other.checkpointId) :
      item = other := by
  by_contra different
  exact List.Pairwise.forall distinct listed listedToo different ⟨sameNs, sameId⟩

theorem history_items_select (state : ServerState) (request : HistoryRequest) (distinct : state.KeysDistinct threadId) :
    historyItems platform threadId state request =
      select (keeps platform request.metadata) request.limit (timeline threadId state request) := by
  rw [historyItems, ServerState.alist, select, timeline, ← filter_merge_sort, List.filter_filter]
  · refine congrArg (fun items => (List.mergeSort items _).take request.limit) (List.filter_congr (fun item _ => ?_))
    rw [keeps, Bool.and_left_comm]
    rfl
  · intro item other third first second
    rw [decide_eq_true_iff] at first second ⊢
    exact String.le_trans second first
  · intro item other
    rw [decide_eq_true_iff, decide_eq_true_iff]
    exact String.le_total _ _
  · intro item listed other listedToo first second
    rw [decide_eq_true_iff] at first second
    rw [List.mem_filter, Bool.and_eq_true, decide_eq_true_iff] at listed listedToo
    exact keys_decide threadId state distinct item other listed.1 listedToo.1 (listed.2.1.trans listedToo.2.1.symm)
      (String.le_antisymm second first)

theorem timeline_same (first second : ServerState) (request : HistoryRequest)
    (alike : List.Forall₂ SameButMarker (first.items threadId) (second.items threadId)) :
    List.Forall₂ SameButMarker (timeline threadId first request) (timeline threadId second request) := by
  refine forall₂_merge_sort SameButMarker _ _ _ _ (List.rel_filter (fun item other same => ?_) alike) ?_
  · dsimp only
    rw [same.checkpointNs, same.checkpointId]
  · intro item other another third same sameToo
    rw [same.checkpointId, sameToo.checkpointId]

-- Why a history request is turned down before it is looked up.
def historyRefusal (request : HistoryRequest) : Option ServerError :=
  if config.checkpointer.isSome = false then some (.http 501 "Checkpoint persistence is not configured")
  else if request.checkpoint.any (fun given => decide (given.threadId ≠ threadId)) = true then
    some (.http 422 "Checkpoint thread_id must match the route thread_id")
  else if (beforeReference request.before).any (fun given => decide (given.threadId ≠ threadId)) = true then
    some (.http 422 "Before checkpoint thread_id must match the route thread_id")
  else none

theorem check_route_refuses (reference : Option CheckpointReference) (detail : String) (state : ServerState)
    (elsewhere : reference.any (fun given => decide (given.threadId ≠ threadId)) = true) :
    aloneIn platform config id (checkRoute reference threadId detail) state = (state, .error (.http 422 detail)) := by
  rw [checkRoute, if_pos elsewhere]
  rfl

theorem check_route_passes (reference : Option CheckpointReference) (detail : String) (state : ServerState)
    (own : ¬ reference.any (fun given => decide (given.threadId ≠ threadId)) = true) :
    aloneIn platform config id (checkRoute reference threadId detail) state = (state, .ok ()) := by
  rw [checkRoute, if_neg own]
  rfl

theorem get_history_alone (request : HistoryRequest) (state : ServerState) :
    (aloneIn platform config id (getHistory platform config context threadId request) state).2 =
      match historyRefusal config threadId request with
      | some error => .error error
      | none =>
          (historyItems platform threadId state request).mapM (checkpointTupleToState platform context threadId) := by
  rw [historyRefusal]
  cases present : config.checkpointer.isSome with
  | false =>
      rw [if_pos rfl]
      have missing : aloneIn platform config id (requireCheckpointer config) state =
          (state, .error (.http 501 "Checkpoint persistence is not configured")) := by
        rw [requireCheckpointer]
        cases given : config.checkpointer with
        | none => rfl
        | some saver => simp [given] at present
      exact congrArg Prod.snd (alone_fails platform config id _ _ state state _ missing)
  | true =>
      rw [if_neg (by simp), getHistory, alone_then platform config id _ _ state state ()
        (require_checkpointer_alone platform config id present state)]
      by_cases elsewhere : request.checkpoint.any (fun given => decide (given.threadId ≠ threadId)) = true
      · rw [if_pos elsewhere]
        exact congrArg Prod.snd (alone_fails platform config id _ _ state state _
          (check_route_refuses platform config id threadId _ _ state elsewhere))
      · rw [if_neg elsewhere, alone_then platform config id _ _ state state ()
          (check_route_passes platform config id threadId _ _ state elsewhere)]
        by_cases elsewhereBefore : (beforeReference request.before).any
          (fun given => decide (given.threadId ≠ threadId)) = true
        · rw [if_pos elsewhereBefore]
          exact congrArg Prod.snd (alone_fails platform config id _ _ state state _
            (check_route_refuses platform config id threadId _ _ state elsewhereBefore))
        · rw [if_neg elsewhereBefore, alone_then platform config id _ _ state state ()
              (check_route_passes platform config id threadId _ _ state elsewhereBefore),
            alone_then platform config id _ _ state state (historyItems platform threadId state request)
              rfl, attempt_alone]

def Referable (item : CheckpointItem) : Prop :=
  (∃ reference, checkpointReference platform threadId item.checkpointNs (idOf context item) none = .ok reference) ∧
    ∃ parent, parentReference platform threadId item = .ok parent

def invalidReference : ServerError := .raised "ValidationError" "Checkpoint"

theorem checkpoint_reference_error (checkpointNs checkpointId : String) (checkpointMap : Option PyObj)
    (error : ServerError)
    (failed : checkpointReference platform threadId checkpointNs checkpointId checkpointMap = .error error) :
    error = invalidReference := by
  rw [checkpointReference] at failed
  split at failed
  · cases failed
  · cases failed
    rfl

theorem parent_reference_error (item : CheckpointItem) (error : ServerError)
    (failed : parentReference platform threadId item = .error error) : error = invalidReference := by
  rw [parentReference] at failed
  split at failed
  · rename_i parentId given
    generalize made : checkpointReference platform threadId _ parentId none = reference at failed
    cases reference with
    | ok reference => cases failed
    | error other =>
        cases failed
        exact checkpoint_reference_error platform threadId _ _ _ _ made
  · cases failed

theorem tuple_to_state_error (item : CheckpointItem) (error : ServerError)
    (failed : checkpointTupleToState platform context threadId item = .error error) : error = invalidReference := by
  rw [tuple_to_state_eq] at failed
  split at failed
  · cases failed
  · rename_i own
    cases failed
    exact checkpoint_reference_error platform threadId _ _ _ _ own
  · rename_i parent
    cases failed
    exact parent_reference_error platform threadId item _ parent

theorem referable_iff (item : CheckpointItem) : Referable platform context threadId item ↔
    ∃ answer, checkpointTupleToState platform context threadId item = .ok answer := by
  rw [tuple_to_state_eq, Referable]
  cases checkpointReference platform threadId item.checkpointNs (idOf context item) none with
  | error error => simp
  | ok reference =>
      cases parentReference platform threadId item with
      | error error => simp
      | ok parentCheckpoint => simp

theorem history_refused_iff (items : List CheckpointItem) :
    items.mapM (checkpointTupleToState platform context threadId) = .error invalidReference ↔
      ∃ item ∈ items, ¬ Referable platform context threadId item := by
  induction items with
  | nil => simp [pure, Except.pure]
  | cons item rest ih =>
      rw [List.mapM_cons, List.exists_mem_cons_iff, ← ih, referable_iff]
      cases head : checkpointTupleToState platform context threadId item with
      | error error => simp [bind, Except.bind, tuple_to_state_error platform context threadId item error head]
      | ok answer =>
          cases rest.mapM (checkpointTupleToState platform context threadId) with
          | error error => simp [bind, Except.bind]
          | ok answers => simp [bind, Except.bind, pure, Except.pure]

theorem history_error (items : List CheckpointItem) (error : ServerError)
    (failed : items.mapM (checkpointTupleToState platform context threadId) = .error error) :
      error = invalidReference := by
  induction items with
  | nil => cases failed
  | cons item rest ih =>
      rw [List.mapM_cons] at failed
      cases head : checkpointTupleToState platform context threadId item with
      | error other =>
          rw [head] at failed
          cases failed
          exact tuple_to_state_error platform context threadId item _ head
      | ok answer =>
          cases tail : rest.mapM (checkpointTupleToState platform context threadId) with
          | error other =>
              rw [head, tail] at failed
              cases failed
              exact ih tail
          | ok answers =>
              rw [head, tail] at failed
              cases failed

theorem history_same (unbiased : Unbiased context) (items others : List CheckpointItem)
    (alike : List.Forall₂ SameButMarker items others) :
    items.mapM (checkpointTupleToState platform context threadId) =
      others.mapM (checkpointTupleToState platform context threadId) := by
  induction alike with
  | nil => rfl
  | cons same _ ih =>
      rw [List.mapM_cons, List.mapM_cons, tuple_to_state_same platform context threadId unbiased _ _ same, ih]

theorem history_ids (items : List CheckpointItem) (answers : List ThreadState)
    (made : items.mapM (checkpointTupleToState platform context threadId) = .ok answers) :
    items.map (fun item => some (idOf context item)) = answers.map (fun answer => answer.checkpoint.checkpointId) := by
  refine labels_same _ _ items answers ((map_answers platform threadId context items answers made).imp
    (fun item answer given => ?_))
  rw [tuple_to_state_reference platform threadId context item answer given]

-- The checkpoints of one namespace are answered under ids of their own.
def AnswersDistinct (state : ServerState) : Prop :=
  (state.items threadId).Pairwise (fun item other => item.checkpointNs = other.checkpointNs →
    idOf context item ≠ idOf context other)

theorem timeline_answers_distinct (state : ServerState) (request : HistoryRequest)
    (distinct : AnswersDistinct context threadId state) :
    ((timeline threadId state request).map (fun item => some (idOf context item))).Nodup := by
  rw [timeline, List.Nodup, List.pairwise_map]
  refine (List.Perm.pairwise_iff (fun differ => Ne.symm differ) (List.mergeSort_perm _ _)).mpr ?_
  refine List.Pairwise.imp_of_mem (fun listed listedToo apart => ?_) (List.Pairwise.filter _ distinct)
  rw [List.mem_filter, Bool.and_eq_true, decide_eq_true_iff] at listed listedToo
  exact fun same => apart (listed.2.1.trans listedToo.2.1.symm) (Option.some.inj same)

-- Either listing reaches a checkpoint that cannot be referred to.
def Unlistable (state : ServerState) (request : HistoryRequest) : Prop :=
  ∃ item ∈ historyItems platform threadId state request, ¬ Referable platform context threadId item

theorem get_history_same_iff (request : HistoryRequest) (first second : ServerState) (unbiased : Unbiased context)
    (alike : List.Forall₂ SameButMarker (first.items threadId) (second.items threadId))
    (distinct : first.KeysDistinct threadId) (distinctToo : second.KeysDistinct threadId)
    (named : AnswersDistinct context threadId first) :
    (aloneIn platform config id (getHistory platform config context threadId request) first).2 =
        (aloneIn platform config id (getHistory platform config context threadId request) second).2 ↔
      historyRefusal config threadId request ≠ none ∨
        SameKept (keeps platform request.metadata) (keeps platform request.metadata) request.limit
          (timeline threadId first request) (timeline threadId second request) ∨
        Unlistable platform context threadId first request ∧ Unlistable platform context threadId second request := by
  have timelines := timeline_same threadId first second request alike
  rw [get_history_alone, get_history_alone]
  cases historyRefusal config threadId request with
  | some error => exact iff_of_true rfl (Or.inl (fun missing => by cases missing))
  | none =>
      dsimp only
      rw [or_iff_right (fun given => given rfl), Unlistable, Unlistable, ← history_refused_iff, ← history_refused_iff,
        history_items_select platform threadId first request distinct, history_items_select platform threadId second
          request distinctToo]
      constructor
      · intro same
        cases made : (select (keeps platform request.metadata) request.limit (timeline threadId first request)).mapM
            (checkpointTupleToState platform context threadId) with
        | error error =>
            have known := history_error platform context threadId _ error made
            rw [made, known] at same
            exact Or.inr ⟨congrArg Except.error known, same.symm⟩
        | ok answers =>
            have ids := (history_ids platform context threadId _ answers made).trans
              (history_ids platform context threadId _ answers (same ▸ made)).symm
            refine Or.inl ((same_kept_iff _ _ _ _ _ _ _ (timelines.imp (fun item other related => ?_))
              (timeline_answers_distinct context threadId first request named)).mp ids)
            rw [id_of_same context unbiased item other related]
      · rintro (kept | ⟨firstFails, secondFails⟩)
        · exact history_same platform context threadId unbiased _ _ (same_kept_selects _ _ _ _ _ _ timelines kept)
        · rw [firstFails, secondFails]

theorem set_default_keys (entries : Metadata) (key query : String) (value : PyObj) :
    query ∈ (setDefault entries key value).keys ↔ query = key ∨ query ∈ entries.keys := by
  rw [setDefault]
  by_cases present : key ∈ entries.keys
  · rw [if_pos present]
    exact ⟨Or.inr, fun listed => listed.elim (fun same => same ▸ present) (fun member => member)⟩
  · rw [if_neg present, Dict.mem_keys_set]

theorem set_default_injective (first second : Metadata) (key : String) (value : PyObj)
    (sameKey : key ∈ first.keys ↔ key ∈ second.keys) (same : setDefault first key value = setDefault second key value) :
    first = second := by
  rw [setDefault, setDefault] at same
  by_cases present : key ∈ first.keys
  · rw [if_pos present, if_pos (sameKey.mp present)] at same
    exact same
  · have absent : key ∉ second.keys := fun listed => present (sameKey.mpr listed)
    rw [if_neg present, if_neg absent] at same
    have rows := congrArg Dict.entries same
    rw [Dict.set, Dict.set] at rows
    dsimp only at rows
    rw [Dict.assign_absent key value first.entries present, Dict.assign_absent key value second.entries absent] at rows
    exact Dict.ext (List.append_cancel_right rows)

theorem unmarked_keys (first second : Metadata) (alike : SameUnmarked first second) (key : String)
    (other : key ≠ assistantIdMetadataKey) : key ∈ first.keys ↔ key ∈ second.keys := by
  have same := congrArg (fun metadata => key ∈ metadata.keys) alike
  simp only [Dict.mem_keys_pop, eq_iff_iff] at same
  simpa [other] using same

-- The payload of a message carries the metadata as they are, marker included.
theorem message_payload_same_iff (assistant : AssistantConfig) (message : PyObj) (first second : Option Metadata)
    (alike : SameUnmarked (first.getD .empty) (second.getD .empty)) :
    messageEventPayload context assistant message first = messageEventPayload context assistant message second ↔
      serializeMessage context message = none ∨ first.getD .empty = second.getD .empty := by
  rw [messageEventPayload, messageEventPayload]
  cases serializeMessage context message with
  | none => exact iff_of_true rfl (Or.inl rfl)
  | some serialized =>
      rw [or_iff_right (by simp)]
      constructor
      · intro same
        simp only [Option.some.injEq, PyObj.list.injEq, List.cons.injEq, PyObj.dict.injEq, true_and, and_true] at same
        have stepKeys := unmarked_keys _ _ alike "langgraph_step" (by decide)
        have nodeKeys := unmarked_keys _ _ alike "langgraph_node" (by decide)
        refine set_default_injective _ _ "langgraph_step" (.int 1) stepKeys
          (set_default_injective _ _ "langgraph_node" (.str assistant.assistantId) ?_ (Dict.ext same))
        rw [set_default_keys, set_default_keys, nodeKeys]
      · intro same
        rw [same]

def messagesEvent (assistant : AssistantConfig) (message : PyObj) (metadata : Option Metadata) :
    Option (Except ServerError String) :=
  (messageEventPayload context assistant message metadata).map (formatSseEvent platform "messages")

def ReadsBack (read : String → Option PyObj) (data : PyObj) : Prop :=
  ∃ json, platform.jsonDumps data = .ok json ∧ read json = some data

theorem format_sse_event_reads (read : String → Option PyObj) (event : String) (first second : PyObj)
    (reads : ReadsBack platform read first) (readsToo : ReadsBack platform read second)
    (same : formatSseEvent platform event first = formatSseEvent platform event second) : first = second := by
  obtain ⟨json, dumped, back⟩ := reads
  obtain ⟨otherJson, dumpedToo, backToo⟩ := readsToo
  rw [formatSseEvent, formatSseEvent, dumped, dumpedToo] at same
  have letters := congrArg String.toList (Except.ok.inj same)
  simp only [String.toList_append, List.append_assoc, List.append_cancel_left_eq, List.append_cancel_right_eq]
    at letters
  rw [String.toList_inj.mp letters, backToo] at back
  exact (Option.some.inj back).symm

theorem messages_event_same_iff (assistant : AssistantConfig) (message : PyObj) (first second : Option Metadata)
    (alike : SameUnmarked (first.getD .empty) (second.getD .empty)) (read : String → Option PyObj)
    (reads : ∀ payload, messageEventPayload context assistant message first = some payload ∨
      messageEventPayload context assistant message second = some payload → ReadsBack platform read payload) :
    messagesEvent platform context assistant message first = messagesEvent platform context assistant message second ↔
      serializeMessage context message = none ∨ first.getD .empty = second.getD .empty := by
  rw [← message_payload_same_iff context assistant message first second alike, messagesEvent, messagesEvent]
  constructor
  · intro same
    cases firstPayload : messageEventPayload context assistant message first with
    | none =>
        rw [firstPayload, Option.map_none, eq_comm, Option.map_eq_none_iff] at same
        exact same.symm
    | some payload =>
        cases secondPayload : messageEventPayload context assistant message second with
        | none =>
            rw [firstPayload, secondPayload] at same
            cases same
        | some otherPayload =>
            rw [firstPayload, secondPayload, Option.map_some, Option.map_some, Option.some.injEq] at same
            rw [format_sse_event_reads platform read "messages" payload otherPayload
              (reads payload (Or.inl firstPayload)) (reads otherPayload (Or.inr secondPayload)) same]
  · intro same
    rw [same]

end Markers

theorem keys_distinct_same (threadId : String) (first second : ServerState)
    (alike : List.Forall₂ SameButMarker (first.items threadId) (second.items threadId))
    (distinct : first.KeysDistinct threadId) : second.KeysDistinct threadId := by
  have keys := labels_same (fun item : CheckpointItem => (item.checkpointNs, item.checkpointId))
    (fun item : CheckpointItem => (item.checkpointNs, item.checkpointId)) _ _
    (alike.imp (fun item other same => Prod.ext same.checkpointNs same.checkpointId))
  have apart : ∀ items : List CheckpointItem, items.Pairwise ServerState.KeysDiffer ↔
      (items.map (fun item => (item.checkpointNs, item.checkpointId))).Nodup := by
    intro items
    rw [List.Nodup, List.pairwise_map]
    exact List.Pairwise.iff (fun {item other} => not_congr (by rw [Prod.mk.injEq]))
  rw [ServerState.KeysDistinct, apart, ← keys, ← apart]
  exact distinct

theorem unmarked_get (first second : Metadata) (alike : SameUnmarked first second) (key : String)
    (other : key ≠ assistantIdMetadataKey) : first.get? key = second.get? key := by
  have same := congrArg (fun metadata => metadata.get? key) alike
  simpa only [Dict.get_pop, if_neg other] using same

-- Only a filter that names the marker can tell such servers apart.
theorem unnamed_marker_kept (platform : Platform) (threadId : String) (request : HistoryRequest)
    (first second : ServerState) (alike : List.Forall₂ SameButMarker (first.items threadId) (second.items threadId))
    (unnamed : ∀ filter, request.metadata = some filter → assistantIdMetadataKey ∉ filter.keys) :
    SameKept (keeps platform request.metadata) (keeps platform request.metadata) request.limit
      (timeline threadId first request) (timeline threadId second request) := by
  refine same_kept_of_agree _ _ _ _ _ ((timeline_same threadId first second request alike).imp
    (fun item other same => ?_))
  cases given : request.metadata with
  | none => rfl
  | some filter =>
      rw [keeps, keeps, Option.all_some, Option.all_some, ServerState.matchesFilter, ServerState.matchesFilter,
        Bool.eq_iff_iff, List.all_eq_true, List.all_eq_true]
      refine forall₂_congr (fun row listed => ?_)
      have notMarker : row.1 ≠ assistantIdMetadataKey := fun marker =>
        unnamed filter given (marker ▸ List.mem_map_of_mem listed)
      rw [unmarked_get _ _ same.metadata row.1 notMarker]

-- What a client sees of two servers that differ in nothing but the marker.
structure MarkerHidden (platform : Platform) (config : ServerConfig) (context : RequestContext) (id : TaskId)
    (threadId : String) (first second : ServerState) : Prop where
  state : ∀ item other, SameButMarker item other →
    checkpointTupleToState platform context threadId item = checkpointTupleToState platform context threadId other
  thread : ∀ item other, SameButMarker item other →
    threadOfItem platform context threadId item = threadOfItem platform context threadId other
  stored : ∀ metadata,
    (aloneIn platform config id (getOrCreateThread platform config context (some threadId) metadata) first).2 =
        (aloneIn platform config id (getOrCreateThread platform config context (some threadId) metadata) second).2 ∧
      (aloneIn platform config id (getOrCreateThread platform config context (some threadId) metadata) first).1.store =
        (aloneIn platform config id (getOrCreateThread platform config context (some threadId) metadata) second).1.store
  history : ∀ request,
    (aloneIn platform config id (getHistory platform config context threadId request) first).2 =
        (aloneIn platform config id (getHistory platform config context threadId request) second).2 ↔
      historyRefusal config threadId request ≠ none ∨
        SameKept (keeps platform request.metadata) (keeps platform request.metadata) request.limit
          (timeline threadId first request) (timeline threadId second request) ∨
        Unlistable platform context threadId first request ∧ Unlistable platform context threadId second request
  payload : ∀ assistant message metadata other,
    SameUnmarked (metadata.getD .empty) (other.getD .empty) →
    (messageEventPayload context assistant message metadata = messageEventPayload context assistant message other ↔
      serializeMessage context message = none ∨ metadata.getD .empty = other.getD .empty)
  event : ∀ assistant message metadata other read,
    SameUnmarked (metadata.getD .empty) (other.getD .empty) →
    (∀ payload, messageEventPayload context assistant message metadata = some payload ∨
      messageEventPayload context assistant message other = some payload → ReadsBack platform read payload) →
    (messagesEvent platform context assistant message metadata = messagesEvent platform context
      assistant message other ↔ serializeMessage context message = none ∨ metadata.getD .empty = other.getD .empty)

theorem marker_hidden_iff (platform : Platform) (config : ServerConfig) (context : RequestContext) (id : TaskId)
    (threadId : String) (first second : ServerState) (unbiased : Unbiased context) (stores : first.store = second.store)
    (alike : List.Forall₂ SameButMarker (first.items threadId) (second.items threadId))
    (distinct : first.KeysDistinct threadId) (named : AnswersDistinct context threadId first) :
    MarkerHidden platform config context id threadId first second where
  state item other same := tuple_to_state_same platform context threadId unbiased item other same
  thread item other same := thread_of_item_same platform context threadId item other same
  stored metadata := get_or_create_thread_same platform config context id threadId first second metadata stores alike
  history request := get_history_same_iff platform config context id threadId request first second
    unbiased alike distinct (keys_distinct_same threadId first second alike distinct) named
  payload assistant message metadata other same := message_payload_same_iff context assistant message
    metadata other same
  event assistant message metadata other read same reads :=
    messages_event_same_iff platform context assistant message metadata other same read reads

def ownedItem (checkpointId owner : String) : CheckpointItem :=
  { smallItem checkpointId none with metadata := some (Dict.empty.set assistantIdMetadataKey (.str owner)) }

def markerRequest (owner : String) : HistoryRequest :=
  ⟨10, none, some (Dict.empty.set assistantIdMetadataKey (.str owner)), none⟩

theorem owned_items_alike (checkpointId owner other : String) :
    SameButMarker (ownedItem checkpointId owner) (ownedItem checkpointId other) := by
  refine ⟨rfl, rfl, rfl, rfl, rfl, rfl, ?_⟩
  simp [SameUnmarked, ownedItem, Dict.pop, Dict.restrict, Dict.set, Dict.assign, Dict.empty]

theorem owned_states_alike : List.Forall₂ SameButMarker ((threadState [ownedItem "c1" "a"]).items "t")
    ((threadState [ownedItem "c1" "b"]).items "t") := by
  rw [show (threadState [ownedItem "c1" "a"]).items "t" = [ownedItem "c1" "a"] from rfl,
    show (threadState [ownedItem "c1" "b"]).items "t" = [ownedItem "c1" "b"] from rfl]
  exact .cons (owned_items_alike "c1" "a" "b") .nil

theorem marker_hidden_iff_owned : MarkerHidden smallPlatform smallReferenceConfig smallContext ⟨0, false⟩ "t"
    (threadState [ownedItem "c1" "a"]) (threadState [ownedItem "c1" "b"]) :=
  marker_hidden_iff smallPlatform smallReferenceConfig smallContext ⟨0, false⟩ "t" (threadState [ownedItem "c1" "a"])
    (threadState [ownedItem "c1" "b"]) (fun _ _ _ => rfl) rfl owned_states_alike (List.pairwise_singleton _ _)
    (List.pairwise_singleton _ _)

-- A filter finds out who owns a thread, and a streamed message says it.
theorem marker_reaches_client :
    (SameButMarker (ownedItem "c1" "a") (ownedItem "c1" "b") ∧
      (aloneIn smallPlatform smallReferenceConfig ⟨0, false⟩
          (getHistory smallPlatform smallReferenceConfig smallContext "t" (markerRequest "a"))
          (threadState [ownedItem "c1" "a"])).2 ≠
        (aloneIn smallPlatform smallReferenceConfig ⟨0, false⟩
          (getHistory smallPlatform smallReferenceConfig smallContext "t" (markerRequest "a"))
          (threadState [ownedItem "c1" "b"])).2) ∧
    (SameUnmarked (Dict.empty.set assistantIdMetadataKey (.str "a"))
      (Dict.empty.set assistantIdMetadataKey (.str "b")) ∧ messageEventPayload smallContext
      (smallAssistant "a" (by decide) smallGraph) (.dict [("content", .str "hello")])
          (some (Dict.empty.set assistantIdMetadataKey (.str "a"))) ≠
        messageEventPayload smallContext (smallAssistant "a" (by decide) smallGraph) (.dict [("content", .str "hello")])
          (some (Dict.empty.set assistantIdMetadataKey (.str "b")))) := by
  have unmarked : SameUnmarked (Dict.empty.set assistantIdMetadataKey (.str "a"))
    (Dict.empty.set assistantIdMetadataKey (.str "b")) :=
    (owned_items_alike "c1" "a" "b").metadata
  refine ⟨⟨owned_items_alike "c1" "a" "b", fun same => ?_⟩, unmarked, fun same => ?_⟩
  · have listed : historyItems smallPlatform "t" (threadState [ownedItem "c1" "a"]) (markerRequest "a") =
      [ownedItem "c1" "a"] := by
      show (List.mergeSort [ownedItem "c1" "a"] _).take 10 = _
      rw [List.mergeSort_singleton]
      rfl
    have unlisted : historyItems smallPlatform "t" (threadState [ownedItem "c1" "b"]) (markerRequest "a") = [] := by
      show (List.mergeSort [] _).take 10 = _
      rw [List.mergeSort_nil]
      rfl
    rw [get_history_alone, get_history_alone, listed, unlisted] at same
    have lengths := congrArg (fun outcome : Except ServerError (List ThreadState) => outcome.toOption.map List.length)
      same
    have found : (some 1 : Option Nat) = some 0 := lengths
    cases found
  · have told := (message_payload_same_iff smallContext _ _ (some _) (some _) unmarked).mp same
    rcases told with missing | sameMetadata
    · cases missing
    · have owners : some (PyObj.str "a") = some (PyObj.str "b") :=
        congrArg (fun metadata : Metadata => metadata.get? assistantIdMetadataKey) sameMetadata
      exact absurd (PyObj.str.inj (Option.some.inj owners)) (by decide)

end LangGraphServer
