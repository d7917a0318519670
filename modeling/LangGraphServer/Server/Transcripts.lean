import LangGraphServer.Lib.Dialogue
import LangGraphServer.Server.Forwarding
import LangGraphServer.Server.Stateless
import LangGraphServer.Server.StoreRules

set_option autoImplicit false

namespace LangGraphServer

open Collections Coroutine

def eventName : StreamItem → String
  | .event text => String.ofList ((text.toList.drop 7).takeWhile (fun letter => decide (letter ≠ '\n')))
  | .raw _ => ""

def dataEvents : List String := ["values", "updates", "messages", "custom", "debug"]

-- One metadata event, data events, and one event that ends the run; it is `end` when the graph
-- was read to its end.
structure RunTranscript (exhausted : Prop) (names : List String) : Prop where
  shape : ∃ data last, names = "metadata" :: (data ++ [last]) ∧ (∀ name ∈ data, name ∈ dataEvents) ∧
    (last = "end" ∨ last = "error")
  ends : "end" ∈ names ↔ exhausted

theorem data_event_continues (name : String) (data : name ∈ dataEvents) : name ≠ "end" ∧ name ≠ "error" := by
  rw [dataEvents] at data
  simp only [List.mem_cons, List.not_mem_nil, or_false] at data
  rcases data with rfl | rfl | rfl | rfl | rfl
  · exact ⟨by decide, by decide⟩
  · exact ⟨by decide, by decide⟩
  · exact ⟨by decide, by decide⟩
  · exact ⟨by decide, by decide⟩
  · exact ⟨by decide, by decide⟩

theorem one_line_name (name : String) (all : name.toList.all (fun letter => decide (letter ≠ '\n')) = true) :
    ∀ letter ∈ name.toList, letter ≠ '\n' :=
  fun letter member => of_decide_eq_true (List.all_eq_true.mp all letter member)

theorem data_event_line (name : String) (data : name ∈ dataEvents) : ∀ letter ∈ name.toList, letter ≠ '\n' := by
  rw [dataEvents] at data
  simp only [List.mem_cons, List.not_mem_nil, or_false] at data
  rcases data with rfl | rfl | rfl | rfl | rfl
  · exact one_line_name _ rfl
  · exact one_line_name _ rfl
  · exact one_line_name _ rfl
  · exact one_line_name _ rfl
  · exact one_line_name _ rfl

-- The events of a run: data, how the graph's part ended, and what the run's timeout adds.
structure Outline (exhausted settled late : Prop) (names : List String) : Prop where
  events : ∃ data final extra, names = "metadata" :: (data ++ (final ++ extra)) ∧ (∀ name ∈ data, name ∈ dataEvents) ∧
    (exhausted → final = ["end"]) ∧ (settled → ¬ exhausted → final = ["error"]) ∧ (¬ settled → final = []) ∧
    (late → extra = ["error"]) ∧ (¬ late → extra = [])
  settles : exhausted → settled

theorem outline_ends (exhausted settled late : Prop) (names : List String)
    (outline : Outline exhausted settled late names) :
    "end" ∈ names ↔ exhausted := by
  obtain ⟨data, final, extra, rfl, members, ended, failed, cut, added, none_⟩ := outline.events
  have outside : "end" ∉ data := fun member => (data_event_continues "end" (members "end" member)).1 rfl
  have extraEnd : "end" ∉ extra := by
    by_cases timed : late
    · rw [added timed]
      decide
    · rw [none_ timed]
      exact List.not_mem_nil
  constructor
  · intro member
    by_cases reached : exhausted
    · exact reached
    · have finalEnd : "end" ∉ final := by
        by_cases closed : settled
        · rw [failed closed reached]
          decide
        · rw [cut closed]
          exact List.not_mem_nil
      simp only [List.mem_cons, List.mem_append] at member
      rcases member with first | inside | last | further
      · exact absurd first (by decide)
      · exact absurd inside outside
      · exact absurd last finalEnd
      · exact absurd further extraEnd
  · intro reached
    rw [ended reached]
    simp

theorem ends_once (data tail : List String) (members : ∀ name ∈ data, name ∈ dataEvents)
    (terminal : ∀ name ∈ tail, name = "end" ∨ name = "error") :
    (∃ before last, "metadata" :: (data ++ tail) = "metadata" :: (before ++ [last]) ∧
      (∀ name ∈ before, name ∈ dataEvents) ∧ (last = "end" ∨ last = "error")) ↔ ∃ last, tail = [last] := by
  have continues : ∀ name, name ∈ dataEvents → ¬ (name = "end" ∨ name = "error") := by
    intro name inside ends
    obtain ⟨notEnd, notError⟩ := data_event_continues name inside
    rcases ends with same | same
    · exact notEnd same
    · exact notError same
  constructor
  · rintro ⟨before, last, same, earlier, ends⟩
    have rest := (List.cons.inj same).2
    rcases List.eq_nil_or_concat tail with none_ | ⟨front, final, parts⟩
    · rw [none_, List.append_nil] at rest
      have inside : last ∈ data := by
        rw [rest]
        exact List.mem_append_right _ List.mem_cons_self
      exact absurd ends (continues last (members last inside))
    · rw [parts, List.concat_eq_append, ← List.append_assoc] at rest
      have fronts := (List.append_inj' rest rfl).1
      have empty : front = [] := by
        apply List.eq_nil_iff_forall_not_mem.mpr
        intro name member
        have listed : name ∈ tail := by
          rw [parts, List.concat_eq_append]
          exact List.mem_append_left _ member
        have inside : name ∈ before := by
          rw [← fronts]
          exact List.mem_append_right _ member
        exact continues name (earlier name inside) (terminal name listed)
      exact ⟨final, by rw [parts, empty]; rfl⟩
  · rintro ⟨last, rfl⟩
    exact ⟨data, last, rfl, members, terminal last List.mem_cons_self⟩

theorem outline_transcript (exhausted settled late : Prop) (names : List String)
    (outline : Outline exhausted settled late names) : RunTranscript exhausted names ↔ (settled ↔ ¬ late) := by
  have ends := outline_ends exhausted settled late names outline
  obtain ⟨data, final, extra, rfl, members, ended, failed, cut, added, none_⟩ := outline.events
  have finals : settled → final = ["end"] ∨ final = ["error"] := by
    intro closed
    by_cases reached : exhausted
    · exact Or.inl (ended reached)
    · exact Or.inr (failed closed reached)
  have terminal : ∀ name ∈ final ++ extra, name = "end" ∨ name = "error" := by
    intro name member
    rcases List.mem_append.mp member with last | further
    · by_cases closed : settled
      · rcases finals closed with same | same
        · rw [same] at last
          exact Or.inl (List.mem_singleton.mp last)
        · rw [same] at last
          exact Or.inr (List.mem_singleton.mp last)
      · rw [cut closed] at last
        cases last
    · by_cases timed : late
      · rw [added timed] at further
        exact Or.inr (List.mem_singleton.mp further)
      · rw [none_ timed] at further
        cases further
  have once := ends_once data (final ++ extra) members terminal
  have single : (∃ last, final ++ extra = [last]) ↔ (settled ↔ ¬ late) := by
    by_cases closed : settled
    · have one : ∃ name, final = [name] := by
        rcases finals closed with same | same
        · exact ⟨_, same⟩
        · exact ⟨_, same⟩
      obtain ⟨name, rfl⟩ := one
      by_cases timed : late
      · rw [added timed]
        constructor
        · rintro ⟨last, same⟩
          cases same
        · exact fun agree => absurd timed (agree.mp closed)
      · rw [none_ timed]
        exact ⟨fun _ => ⟨fun _ => timed, fun _ => closed⟩, fun _ => ⟨name, rfl⟩⟩
    · rw [cut closed]
      by_cases timed : late
      · rw [added timed]
        exact ⟨fun _ => ⟨fun reached => absurd reached closed, fun early => absurd timed early⟩,
          fun _ => ⟨"error", rfl⟩⟩
      · rw [none_ timed]
        constructor
        · rintro ⟨last, same⟩
          cases same
        · exact fun agree => absurd (agree.mpr timed) closed
  exact ⟨fun well => single.mp (once.mp well.shape), fun agree => ⟨once.mpr (single.mpr agree), ends⟩⟩

section Streams

variable {σ : Type} (platform : Platform) (config : ServerConfig) (context : RequestContext)
    (assistant : AssistantConfig)

structure DumpsPlain : Prop where
  none : ∃ json, platform.jsonDumps .none = .ok json
  dict : ∀ entries : List (String × PyObj), (∀ row ∈ entries, (∃ text, row.2 = .str text) ∨
    ∃ number, row.2 = .int number) → ∃ json, platform.jsonDumps (.dict entries) = .ok json

theorem event_name_of_format (event : String) (data : PyObj) (text : String)
    (oneLine : ∀ letter ∈ event.toList, letter ≠ '\n')
    (formatted : formatSseEvent platform event data = .ok text) : eventName (.event text) = event := by
  rw [formatSseEvent] at formatted
  split at formatted
  · rename_i json _
    cases formatted
    have letters : ("event: " ++ event ++ "\ndata: " ++ json ++ "\n\n").toList.drop 7 =
        event.toList ++ '\n' :: ("data: ".toList ++ json.toList ++ "\n\n".toList) := by
      simp only [String.toList_append, List.append_assoc]
      rfl
    rw [eventName, letters, List.takeWhile_append_of_pos (fun letter member => decide_eq_true (oneLine letter member)),
      List.takeWhile_cons_of_neg (by simp), List.append_nil, String.ofList_toList]
  · cases formatted

theorem formatted_of_some (formatted : Except ServerError String) (text : String)
    (made : some <$> formatted = .ok (some text)) : formatted = .ok text := by
  cases formatted with
  | error error => cases made
  | ok other =>
      cases made
      rfl

theorem event_of_item_data (modes : List String) (raw : PyObj) (text : String)
    (made : eventOfItem platform context assistant modes raw = .ok (some text)) :
    ∃ mode ∈ dataEvents, ∃ data, formatSseEvent platform mode data = .ok text := by
  rw [eventOfItem] at made
  cases normalized : normalizeNativeStreamItem raw modes with
  | error error =>
      rw [normalized] at made
      cases made
  | ok pair =>
      obtain ⟨mode, item⟩ := pair
      rw [normalized] at made
      simp only [bind, Except.bind] at made
      split at made
      · split at made
        · exact ⟨"messages", by simp [dataEvents], _, formatted_of_some _ text made⟩
        · cases made
      · split at made
        · rename_i entries _
          cases given : assistant.outputTransformer with
          | none =>
              rw [given] at made
              exact ⟨"values", by simp [dataEvents], _, formatted_of_some _ text made⟩
          | some transform =>
              rw [given] at made
              simp only at made
              split at made
              · cases made
              · exact ⟨"values", by simp [dataEvents], _, formatted_of_some _ text made⟩
        · split at made
          · rename_i listed
            refine ⟨mode, ?_, _, formatted_of_some _ text made⟩
            simp only [List.mem_cons, List.not_mem_nil, or_false] at listed
            rcases listed with rfl | rfl | rfl
            · simp [dataEvents]
            · simp [dataEvents]
            · simp [dataEvents]
          · cases made

variable (oracle : Coro.Oracle Api σ)

def namesOf (items : List StreamItem) : List String := items.map eventName

theorem names_yield_formatted (event : String) (data : PyObj) (json : String)
    (dumped : platform.jsonDumps data = .ok json)
    (oneLine : ∀ letter ∈ event.toList, letter ≠ '\n') (state : σ) :
    (Coro.converse oracle state (yieldFormatted (formatSseEvent platform event data))).outcome = .ok () ∧
      namesOf (Coro.converse oracle state (yieldFormatted (formatSseEvent platform event data))).items = [event] ∧
      (Coro.converse oracle state (yieldFormatted (formatSseEvent platform event data))).state = state := by
  have formatted : formatSseEvent platform event data = .ok ("event: " ++ event ++ "\ndata: " ++ json ++ "\n\n") := by
    rw [formatSseEvent, dumped]
  have named := event_name_of_format platform event data _ oneLine formatted
  rw [formatted]
  refine ⟨rfl, ?_, rfl⟩
  show [eventName _] = [event]
  rw [named]

theorem names_native_graph (graph : GraphRuntime) (payload : Metadata) (threadId : String) (modes : List String)
    (requestConfig : Option Config) (checkpointId : Option String) (state : σ) :
    ∀ name ∈ namesOf (Coro.converse oracle state
      (streamNativeGraph platform context assistant graph payload threadId modes
      requestConfig checkpointId)).items, name ∈ dataEvents := by
  intro name member
  obtain ⟨item, yielded, rfl⟩ := List.mem_map.mp member
  apply Coro.converse_for_each_items (I := Api) oracle _ _ (fun item => eventName item ∈ dataEvents) _
    state item yielded
  intro item state made listed
  cases item with
  | event text => cases listed
  | raw raw =>
      rw [streamItem] at listed
      split at listed
      · rename_i text formatted
        obtain ⟨mode, data, value, written⟩ := event_of_item_data platform context assistant _ raw text formatted
        rw [List.mem_singleton.mp listed, event_name_of_format platform mode value text _ written]
        · exact data
        · exact data_event_line mode data
      · cases listed
      · cases listed

theorem map_unit {ε : Type} (outcome : Except ε Unit) : outcome.map (fun _ => ()) = outcome := by
  cases outcome <;> rfl

theorem converse_passed_on (generator : Coro Api Unit) (state : σ) :
    Coro.converse oracle state (passOn generator) = Coro.converse oracle state generator := by
  have passed := Coro.converse_pass_on (I := Api) oracle .generatorExit generator state
  rw [map_unit] at passed
  exact passed

variable (inputData : Metadata) (threadId : String) (graph : GraphRuntime) (modes : List String)
    (requestConfig : Option Config) (checkpointId : Option String)

def graphLoop : Coro Api Unit := do
  let payload ← attempt (prepareInput assistant inputData)
  passOn (streamNativeGraph platform context assistant graph payload threadId
    (if modes.isEmpty then ["values"] else modes) requestConfig checkpointId)

-- What a stream does between its events, one part after the other: it writes that the thread
-- is busy, loops over the graph, and writes that the thread is idle.
structure Parts (σ : Type) where
  busy : Coro.Dialogue Api σ Unit
  graph : Coro.Dialogue Api σ Unit
  idle : Coro.Dialogue Api σ Unit

def streamParts (start : σ) : Parts σ :=
  let busy := Coro.converse oracle start (setThreadStatus context threadId "busy" .busy)
  let looped := Coro.converse oracle busy.state
    (graphLoop platform context assistant inputData threadId graph modes requestConfig checkpointId)
  ⟨busy, looped, Coro.converse oracle looped.state (setThreadStatus context threadId "idle" .idle)⟩

namespace Parts

def Exhausted (parts : Parts σ) : Prop := parts.busy.outcome = .ok () ∧ parts.graph.outcome = .ok ()

def Settled (parts : Parts σ) : Prop :=
  parts.busy.outcome = .ok () ∧ ∀ error, parts.graph.outcome = .error error → error.isException = true

-- How the stream ends: an `Exception` of the loop is turned into an event.
def leaves (parts : Parts σ) : Except ServerError Unit :=
  match parts.busy.outcome with
  | .error error => .error error
  | .ok () => Coro.leaving (I := Api) parts.idle.outcome (match parts.graph.outcome with
      | .ok () => .ok ()
      | .error error => if error.isException = true then .ok () else .error error)

def last (parts : Parts σ) : σ :=
  match parts.busy.outcome with
  | .error _ => parts.busy.state
  | .ok () => parts.idle.state

end Parts

theorem names_graph_loop (state : σ) :
    ∀ name ∈ namesOf (Coro.converse oracle state
      (graphLoop platform context assistant inputData threadId graph modes requestConfig checkpointId)).items,
      name ∈ dataEvents := by
  rw [graphLoop]
  cases prepared : prepareInput assistant inputData with
  | error error =>
      intro name member
      cases member
  | ok payload =>
      intro name member
      have passed := converse_passed_on oracle (streamNativeGraph platform context assistant graph payload threadId
        (if modes.isEmpty then ["values"] else modes) requestConfig checkpointId) state
      have looped : name ∈ namesOf
        (Coro.converse oracle state (passOn (streamNativeGraph platform context assistant graph
        payload threadId (if modes.isEmpty then ["values"] else modes) requestConfig checkpointId))).items := member
      rw [passed] at looped
      exact names_native_graph platform context assistant oracle graph payload threadId _ requestConfig checkpointId
        state name looped

theorem names_stream_error (dumps : DumpsPlain platform) (error code : String) (state : σ) :
    (Coro.converse oracle state (yieldFormatted (streamError platform error code))).outcome = .ok () ∧
      namesOf (Coro.converse oracle state (yieldFormatted (streamError platform error code))).items = ["error"] ∧
      (Coro.converse oracle state (yieldFormatted (streamError platform error code))).state = state := by
  have texts : ∀ row ∈ [("error", PyObj.str error), ("code", PyObj.str code)],
      (∃ text, row.2 = .str text) ∨ ∃ number, row.2 = .int number := by
    intro row member
    rcases List.mem_cons.mp member with rfl | rest
    · exact Or.inl ⟨error, rfl⟩
    · rw [List.mem_singleton.mp rest]
      exact Or.inl ⟨code, rfl⟩
  obtain ⟨json, dumped⟩ := dumps.dict _ texts
  exact names_yield_formatted platform oracle "error" _ json dumped (one_line_name _ rfl) state

def refusedWith (modes : List String) : StreamItem → Option ServerError
  | .raw item => match eventOfItem platform context assistant modes item with
      | .error error => some error
      | .ok _ => none
  | .event _ => none

theorem stream_item_taken (item : StreamItem) (state : σ) :
    (Coro.converse oracle state (streamItem platform context assistant modes item)).state = state ∧
      (Coro.converse oracle state (streamItem platform context assistant modes item)).outcome =
        Coro.raised (I := Api) (refusedWith platform context assistant modes item) := by
  cases item with
  | event text => exact ⟨rfl, rfl⟩
  | raw raw =>
      rw [streamItem, refusedWith]
      split
      · rename_i made
        rw [made]
        exact ⟨rfl, rfl⟩
      · rename_i made
        rw [made]
        exact ⟨rfl, rfl⟩
      · rename_i made
        rw [made]
        exact ⟨rfl, rfl⟩

-- How the reading of the graph ends: its input cannot be prepared, an item of its iterator
-- cannot be sent, or the iterator ends.
def graphReading (state : σ) : Except ServerError Unit :=
  match prepareInput assistant inputData with
  | .error error => .error error
  | .ok payload =>
      let given := if modes.isEmpty then ["values"] else modes
      let iterated := Coro.converse oracle state
        (graphIterator assistant graph payload threadId given requestConfig checkpointId)
      match iterated.items.findSome? (refusedWith platform context assistant (nativeModes given)) with
      | some error => .error error
      | none => iterated.outcome

theorem graph_loop_reads (state : σ) :
    (Coro.converse oracle state
      (graphLoop platform context assistant inputData threadId graph modes requestConfig checkpointId)).outcome =
        graphReading platform context assistant oracle inputData threadId graph modes requestConfig
          checkpointId state := by
  rw [graphLoop, graphReading]
  cases prepared : prepareInput assistant inputData with
  | error error => rfl
  | ok payload =>
      have looped := Coro.converse_for_each_outcome (I := Api) oracle (graphIterator assistant graph payload threadId
        (if modes.isEmpty then ["values"] else modes) requestConfig checkpointId)
        (streamItem platform context assistant (nativeModes (if modes.isEmpty then ["values"] else modes)))
        (refusedWith platform context assistant (nativeModes (if modes.isEmpty then ["values"] else modes)))
        (fun item state => (stream_item_taken platform context assistant oracle _ item state).1)
        (fun item state => (stream_item_taken platform context assistant oracle _ item state).2) state
      have passed := converse_passed_on oracle (streamNativeGraph platform context assistant graph payload threadId
        (if modes.isEmpty then ["values"] else modes) requestConfig checkpointId) state
      rw [map_unit] at looped
      refine ((congrArg Coro.Dialogue.outcome passed).trans looped).trans ?_
      simp only
      split
      · rename_i refused
        rw [refused]
      · rename_i refused
        rw [refused]

theorem converse_stream_failure (dumps : DumpsPlain platform) (error : ServerError) (state : σ) :
    (error.isException = true → (Coro.converse oracle state (streamFailure platform error)).outcome = .ok () ∧
      namesOf (Coro.converse oracle state (streamFailure platform error)).items = ["error"]) ∧
    (error.isException = false → (Coro.converse oracle state (streamFailure platform error)).outcome = .error error ∧
      namesOf (Coro.converse oracle state (streamFailure platform error)).items = []) ∧
    (Coro.converse oracle state (streamFailure platform error)).state = state := by
  rw [streamFailure]
  split
  · rename_i full
    obtain ⟨ended, named, same⟩ := names_stream_error platform oracle dumps "Checkpoint capacity exceeded"
      "CHECKPOINT_CAPACITY_EXCEEDED" state
    refine ⟨fun _ => ⟨ended, named⟩, fun outside => ?_, same⟩
    rw [full] at outside
    cases outside
  · split
    · rename_i inside
      obtain ⟨ended, named, same⟩ := names_stream_error platform oracle dumps "Graph execution failed"
        "INTERNAL_ERROR" state
      exact ⟨fun _ => ⟨ended, named⟩, fun outside => (by cases inside.symm.trans outside), same⟩
    · rename_i outside
      exact ⟨fun inside => absurd inside outside, fun _ => ⟨rfl, rfl⟩, rfl⟩

structure StreamEnds (parts : Parts σ) (stream : Coro.Dialogue Api σ Unit) : Prop where
  names : ∃ data final, namesOf stream.items = "metadata" :: (data ++ final) ∧ (∀ name ∈ data, name ∈ dataEvents) ∧
    (parts.Exhausted → final = ["end"]) ∧ (parts.Settled → ¬ parts.Exhausted → final = ["error"]) ∧
    (¬ parts.Settled → final = [])
  outcome : stream.outcome = parts.leaves
  state : stream.state = parts.last

theorem graph_block_ends (dumps : DumpsPlain platform) (state : σ) :
    let looped := Coro.converse oracle state
      (graphLoop platform context assistant inputData threadId graph modes requestConfig checkpointId)
    let block := Coro.converse oracle state
      ((graphLoop platform context assistant inputData threadId graph modes requestConfig checkpointId >>= fun _ =>
        yieldFormatted (formatSseEvent platform "end" .none)).tryCatch (streamFailure platform))
    block.state = looped.state ∧ block.outcome = (match looped.outcome with
        | .ok () => .ok ()
        | .error error => if error.isException = true then .ok () else .error error) ∧
      ∃ final, namesOf block.items = namesOf looped.items ++ final ∧ (looped.outcome = .ok () → final = ["end"]) ∧
        ∀ error, looped.outcome = .error error → final = if error.isException = true then ["error"] else [] := by
  intro looped block
  cases ended : looped.outcome with
  | ok value =>
      obtain ⟨json, dumped⟩ := dumps.none
      obtain ⟨closed, named, same⟩ :=
        names_yield_formatted platform oracle "end" .none json dumped (one_line_name _ rfl) looped.state
      have whole := Coro.converse_bind_ok (I := Api) oracle
        (graphLoop platform context assistant inputData threadId graph modes requestConfig checkpointId)
        (fun _ => yieldFormatted (formatSseEvent platform "end" .none)) state value ended
      have caught := Coro.converse_catch_ok (I := Api) oracle _ (streamFailure platform) state ()
        ((congrArg Coro.Dialogue.outcome whole).trans closed)
      have block_eq : block = _ := caught
      rw [block_eq, whole]
      refine ⟨same, rfl, ["end"], ?_, fun _ => rfl, fun error failed => (by cases failed)⟩
      show namesOf (looped.items ++ _) = _
      rw [namesOf, List.map_append]
      exact congrArg _ named
  | error error =>
      have whole := Coro.converse_bind_error (I := Api) oracle
        (graphLoop platform context assistant inputData threadId graph modes requestConfig checkpointId)
        (fun _ => yieldFormatted (formatSseEvent platform "end" .none)) state error ended
      have caught := Coro.converse_catch_error (I := Api) oracle _ (streamFailure platform) state error
        (congrArg Coro.Dialogue.outcome whole)
      have block_eq : block = _ := caught
      rw [block_eq, whole]
      obtain ⟨inside, outside, same⟩ := converse_stream_failure platform oracle dumps error looped.state
      have appended : ∀ rest : List StreamItem, namesOf (looped.items ++ rest) = namesOf looped.items ++ namesOf rest :=
        fun rest => List.map_append
      cases exception : error.isException with
      | true =>
          obtain ⟨closed, named⟩ := inside exception
          refine ⟨same, closed.trans (if_pos exception).symm, ["error"], (appended _).trans (congrArg _ named),
            fun failed => (by cases failed), ?_⟩
          intro other raised
          cases raised
          rw [if_pos exception]
      | false =>
          have outsider : ¬ error.isException = true := by
            rw [exception]
            exact Bool.false_ne_true
          obtain ⟨closed, named⟩ := outside exception
          refine ⟨same, closed.trans (if_neg outsider).symm, [], (appended _).trans (congrArg _ named),
            fun failed => (by cases failed), ?_⟩
          intro other raised
          cases raised
          rw [if_neg outsider]

def metadataEvent : Coro Api Unit :=
  yieldFormatted (formatSseEvent platform "metadata" (.dict [("run_id", .str context.freshRunId), ("attempt", .int 1)]))

theorem names_metadata_event (dumps : DumpsPlain platform) (state : σ) :
    (Coro.converse oracle state (metadataEvent platform context)).outcome = .ok () ∧
      namesOf (Coro.converse oracle state (metadataEvent platform context)).items = ["metadata"] ∧
      (Coro.converse oracle state (metadataEvent platform context)).state = state := by
  have rows : ∀ row ∈ [("run_id", PyObj.str context.freshRunId), ("attempt", PyObj.int 1)],
      (∃ text, row.2 = .str text) ∨ ∃ number, row.2 = .int number := by
    intro row member
    rcases List.mem_cons.mp member with rfl | rest
    · exact Or.inl ⟨_, rfl⟩
    · rw [List.mem_singleton.mp rest]
      exact Or.inr ⟨1, rfl⟩
  obtain ⟨json, dumped⟩ := dumps.dict _ rows
  exact names_yield_formatted platform oracle "metadata" _ json dumped (one_line_name _ rfl) state

def graphBlock : Coro Api Unit :=
  (graphLoop platform context assistant inputData threadId graph modes requestConfig checkpointId >>= fun _ =>
    yieldFormatted (formatSseEvent platform "end" .none)).tryCatch (streamFailure platform)

theorem set_thread_status_quiet (threadId status : String) (moment : Moment) (state : σ) :
    (Coro.converse oracle state (setThreadStatus context threadId status moment)).items = [] :=
  Coro.converse_uses (I := Api) oracle Plain _ (set_thread_status_uses context threadId status moment) state

theorem stream_graph_response_parts :
    streamGraphResponse platform context assistant inputData threadId graph modes requestConfig checkpointId =
      metadataEvent platform context >>= fun _ => setThreadStatus context threadId "busy" .busy >>= fun _ =>
        (graphBlock platform context assistant inputData threadId graph modes requestConfig checkpointId).tryFinally
          (setThreadStatus context threadId "idle" .idle) := by
  rw [streamGraphResponse]
  simp only [graphBlock, graphLoop, metadataEvent, bind_assoc]

theorem stream_once_busy (dumps : DumpsPlain platform) (start : σ)
    (busied : (streamParts platform context assistant oracle inputData threadId graph modes requestConfig checkpointId
      start).busy.outcome = .ok ()) :
    let parts := streamParts platform context assistant oracle inputData threadId graph modes requestConfig
      checkpointId start
    let block := Coro.converse oracle parts.busy.state
      (graphBlock platform context assistant inputData threadId graph modes requestConfig checkpointId)
    let idle := Coro.converse oracle block.state (setThreadStatus context threadId "idle" .idle)
    Coro.converse oracle start (streamGraphResponse platform context assistant inputData threadId graph
      modes requestConfig checkpointId) = ⟨(Coro.converse oracle start (metadataEvent platform context)).items ++
        block.items, Coro.leaving (I := Api) idle.outcome block.outcome, idle.state⟩ := by
  intro parts block idle
  obtain ⟨opened, _, same⟩ := names_metadata_event platform context oracle dumps start
  let rest := (graphBlock platform context assistant inputData threadId graph modes requestConfig
    checkpointId).tryFinally (setThreadStatus context threadId "idle" .idle)
  have went := Coro.converse_bind_ok (I := Api) oracle (setThreadStatus context threadId "busy" .busy)
    (fun _ => rest) start () busied
  have finished := Coro.converse_finally (I := Api) oracle
    (graphBlock platform context assistant inputData threadId graph modes requestConfig checkpointId)
    (setThreadStatus context threadId "idle" .idle) parts.busy.state
  have quiet : idle.items = [] := set_thread_status_quiet context oracle threadId "idle" .idle _
  rw [stream_graph_response_parts, Coro.converse_bind_ok (I := Api) oracle _ _ start () opened, same, went,
    set_thread_status_quiet, List.nil_append]
  show Coro.Dialogue.mk (_ ++ (Coro.converse oracle parts.busy.state rest).items)
    (Coro.converse oracle parts.busy.state rest).outcome (Coro.converse oracle parts.busy.state rest).state = _
  rw [finished]
  show Coro.Dialogue.mk (_ ++ (block.items ++ idle.items)) _ _ = _
  rw [quiet, List.append_nil]

theorem stream_graph_response_ends (dumps : DumpsPlain platform) (start : σ) :
    StreamEnds (streamParts platform context assistant oracle inputData threadId graph modes requestConfig
      checkpointId start)
      (Coro.converse oracle start (streamGraphResponse platform context assistant inputData threadId graph modes
        requestConfig checkpointId)) := by
  let parts := streamParts platform context assistant oracle inputData threadId graph modes requestConfig
    checkpointId start
  obtain ⟨opened, named, same⟩ := names_metadata_event platform context oracle dumps start
  cases busied : parts.busy.outcome with
  | error error =>
      have failed := Coro.converse_bind_error (I := Api) oracle (setThreadStatus context threadId "busy" .busy)
        (fun _ => (graphBlock platform context assistant inputData threadId graph modes requestConfig
          checkpointId).tryFinally (setThreadStatus context threadId "idle" .idle)) start error busied
      rw [stream_graph_response_parts, Coro.converse_bind_ok (I := Api) oracle _ _ start () opened, same, failed,
        set_thread_status_quiet, List.append_nil]
      constructor
      · refine ⟨[], [], named, fun name member => (by cases member), ?_, ?_, fun _ => rfl⟩
        · intro exhausted
          cases busied.symm.trans exhausted.1
        · intro settled
          cases busied.symm.trans settled.1
      · show Except.error error = parts.leaves
        rw [Parts.leaves, busied]
      · show parts.busy.state = parts.last
        rw [Parts.last, busied]
  | ok value =>
      obtain ⟨after, ended, final, blockNames, whenEnded, whenFailed⟩ :=
        graph_block_ends platform context assistant oracle
        inputData threadId graph modes requestConfig checkpointId dumps parts.busy.state
      have idle : Coro.converse oracle
        (Coro.converse oracle parts.busy.state (graphBlock platform context assistant inputData
          threadId graph modes requestConfig checkpointId)).state (setThreadStatus context threadId "idle" .idle) =
            parts.idle := congrArg (fun state => Coro.converse oracle state _) after
      rw [stream_once_busy platform context assistant oracle inputData threadId graph modes requestConfig
        checkpointId dumps start busied, idle]
      constructor
      · refine ⟨namesOf parts.graph.items, final, ?_, names_graph_loop platform context assistant oracle
          inputData threadId graph modes requestConfig checkpointId parts.busy.state, ?_, ?_, ?_⟩
        · show List.map eventName (_ ++ _) = _
          rw [List.map_append]
          exact (congrArg (· ++ _) named).trans (congrArg _ blockNames)
        · exact fun exhausted => whenEnded exhausted.2
        · intro settled open_
          cases looped : parts.graph.outcome with
          | ok value => exact absurd ⟨busied, looped⟩ open_
          | error error => rw [whenFailed error looped, if_pos (settled.2 error looped)]
        · intro unsettled
          cases looped : parts.graph.outcome with
          | ok value => exact absurd ⟨busied, fun error failed => (by cases looped.symm.trans failed)⟩ unsettled
          | error error =>
              rw [whenFailed error looped, if_neg]
              intro exception
              apply unsettled
              refine ⟨busied, fun other failed => ?_⟩
              cases looped.symm.trans failed
              exact exception
      · rw [Parts.leaves, busied]
        exact congrArg (Coro.leaving (I := Api) parts.idle.outcome) ended
      · rw [Parts.last, busied]

end Streams

end LangGraphServer
