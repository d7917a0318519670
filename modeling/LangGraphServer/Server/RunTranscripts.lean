import LangGraphServer.Server.Transcripts

set_option autoImplicit false

namespace LangGraphServer

open Collections Coroutine

section Leases

variable {σ : Type} (platform : Platform) (config : ServerConfig) (oracle : Coro.Oracle Api σ)

def TimedOut (outcome : Except ServerError Unit) : Prop :=
  outcome = .error .timeout ∨ (outcome = .error (.cancelled .timeout) ∧ config.runTimeoutSeconds.isSome = true)

theorem converse_with_timeout (program : Coro Api Unit) (state : σ) :
    (Coro.converse oracle state (withTimeout config.runTimeoutSeconds program)).items =
        (Coro.converse oracle state program).items ∧
      ((Coro.converse oracle state (withTimeout config.runTimeoutSeconds program)).outcome = .error .timeout ↔
        TimedOut config (Coro.converse oracle state program).outcome) := by
  cases limit : config.runTimeoutSeconds with
  | none =>
      refine ⟨rfl, fun timed => Or.inl timed, fun timed => ?_⟩
      rcases timed with same | ⟨_, present⟩
      · exact same
      · rw [limit] at present
        cases present
  | some seconds =>
      rw [withTimeout]
      cases ended : (Coro.converse oracle state program).outcome with
      | ok value =>
          rw [Coro.converse_catch_ok (I := Api) oracle program _ state value ended]
          refine ⟨rfl, fun timed => (by cases timed), fun timed => ?_⟩
          rcases timed with same | ⟨same, _⟩
          · cases same
          · cases same
      | error error =>
          rw [Coro.converse_catch_error (I := Api) oracle program _ state error ended]
          by_cases own : error = .cancelled .timeout
          · subst own
            refine ⟨List.append_nil _, fun _ => Or.inr ⟨rfl, by rw [limit]; rfl⟩, fun _ => rfl⟩
          · rw [if_neg own]
            refine ⟨List.append_nil _, fun timed => Or.inl timed, fun timed => ?_⟩
            rcases timed with same | ⟨same, _⟩
            · exact same
            · cases same
              exact absurd rfl own

-- The run's timeout adds one event, and giving the lease back adds none.
theorem names_run_with_lease (dumps : DumpsPlain platform) (generator : Coro Api Unit) (lease : RunLease) (start : σ) :
    ∃ extra, namesOf (Coro.converse oracle start (runWithLease platform config generator lease)).items =
        namesOf (Coro.converse oracle start generator).items ++ extra ∧
      (TimedOut config (Coro.converse oracle start generator).outcome → extra = ["error"]) ∧
      (¬ TimedOut config (Coro.converse oracle start generator).outcome → extra = []) := by
  have quiet : ∀ state, (Coro.converse oracle state (perform (.release lease))).items = [] :=
    Coro.converse_uses (I := Api) oracle (fun _ => True) _ (Coro.uses_perform (I := Api) (fun _ => True) _ trivial)
  obtain ⟨items, timed⟩ := converse_with_timeout config oracle (passOn (passOn generator)) start
  rw [converse_passed_on, converse_passed_on] at items timed
  rw [runWithLease, Coro.converse_finally]
  show ∃ extra, namesOf (_ ++ (Coro.converse oracle _ (perform (.release lease))).items) = _ ∧ _
  rw [quiet, List.append_nil]
  cases ended : (Coro.converse oracle start
    (withTimeout config.runTimeoutSeconds (passOn (passOn generator)))).outcome with
  | ok value =>
      rw [Coro.converse_catch_ok (I := Api) oracle _ _ start value ended]
      refine ⟨[], ?_, fun late => ?_, fun _ => rfl⟩
      · rw [List.append_nil]
        exact congrArg namesOf items
      · cases ended.symm.trans (timed.mpr late)
  | error error =>
      rw [Coro.converse_catch_error (I := Api) oracle _ _ start error ended]
      by_cases own : error = .timeout
      · obtain ⟨_, named, _⟩ := names_stream_error platform oracle dumps "Graph execution timed out" "RUN_TIMEOUT"
          (Coro.converse oracle start (withTimeout config.runTimeoutSeconds (passOn (passOn generator)))).state
        rw [if_pos own]
        refine ⟨["error"], ?_, fun _ => rfl, fun early => ?_⟩
        · show List.map eventName (_ ++ _) = _
          rw [List.map_append]
          exact (congrArg (· ++ _) (congrArg namesOf items)).trans (congrArg _ named)
        · subst own
          exact absurd (timed.mp ended) early
      · rw [if_neg own]
        refine ⟨[], ?_, fun late => ?_, fun _ => rfl⟩
        · show List.map eventName (_ ++ []) = _
          rw [List.append_nil, List.append_nil]
          exact congrArg namesOf items
        · cases ended.symm.trans (timed.mpr late)
          exact absurd rfl own

-- The surroundings of a coroutine with a store of its own: the store answers what it can, when
-- the wait for it is not interrupted.
def keptOracle : Coro.Oracle Api (σ × InMemoryThreadStore) := fun state op =>
  match state.2.call platform op with
  | some (after, answer) => match (oracle state.1 .suspend).2 with
      | .ok () => (((oracle state.1 .suspend).1, after), answer)
      | .error error => (((oracle state.1 .suspend).1, state.2), .error error)
  | none => (((oracle state.1 op).1, state.2), (oracle state.1 op).2)

theorem converse_kept_in {α : Type} (program : Coro Api α) (store : InMemoryThreadStore) (state : σ) :
    Coro.converse oracle state (keptIn platform program store) =
      ⟨(Coro.converse (keptOracle platform oracle) (state, store) program).items,
        (Coro.converse (keptOracle platform oracle) (state, store) program).outcome.map (fun value =>
          (value, (Coro.converse (keptOracle platform oracle) (state, store) program).state.2)),
        (Coro.converse (keptOracle platform oracle) (state, store) program).state.1⟩ := by
  induction program generalizing store state with
  | ret value => rfl
  | raise error => rfl
  | await op resume ih =>
      rw [keptIn, Coro.converse]
      cases served : store.call platform op with
      | none =>
          have asked : keptOracle platform oracle (state, store) op = (((oracle state op).1, store),
            (oracle state op).2) := by
            rw [keptOracle, served]
          rw [asked]
          exact ih _ _ _
      | some found =>
          obtain ⟨after, answer⟩ := found
          cases waited : (oracle state ServerOp.suspend).2 with
          | ok value =>
              have asked : keptOracle platform oracle (state, store) op =
                  (((oracle state ServerOp.suspend).1, after), answer) := by
                simp only [keptOracle, served, waited]
              rw [asked]
              simp only [Coro.converse, waited]
              exact ih _ _ _
          | error error =>
              have asked : keptOracle platform oracle (state, store) op =
                  (((oracle state ServerOp.suspend).1, store), .error error) := by
                simp only [keptOracle, served, waited]
              rw [asked]
              simp only [Coro.converse, waited]
              exact ih _ _ _
  | yield item more closing moreIh _ =>
      rw [keptIn, Coro.converse, moreIh]
      rfl
  | abandon left rest _ restIh =>
      rw [keptIn, Coro.converse, restIh]
      rfl

theorem converse_stateless (context : RequestContext) (request : RunCreate) (assistant : AssistantConfig)
    (graph : GraphRuntime) (store : InMemoryThreadStore) (start : σ) :
    let stream := Coro.converse (keptOracle platform oracle) (start, store)
      (streamGraphResponse platform context assistant (request.input.getD .empty) context.freshThreadId graph
        (resolveStreamModes request.streamMode assistant)
      request.config request.checkpointId)
    let generated := Coro.converse oracle start
      (statelessGenerator platform config context request assistant graph store)
    generated.items = stream.items ∧ generated.outcome = Coro.leaving (I := Api)
      (Coro.converse oracle stream.state.1 (deleteGenerated config context.freshThreadId)).outcome stream.outcome := by
  intro stream generated
  have quiet : ∀ state, (Coro.converse oracle state (deleteGenerated config context.freshThreadId)).items = [] := by
    apply Coro.converse_uses (I := Api) oracle (fun _ => True)
    rw [deleteGenerated]
    split
    · trivial
    · apply Coro.uses_try_catch (I := Api)
      · split
        · exact Coro.uses_bind (I := Api) _ _ _ (Coro.uses_perform (I := Api) _ _ trivial)
            (fun _ => Coro.uses_perform (I := Api) _ _ trivial)
        · trivial
      · intro error
        split
        · trivial
        · trivial
  have generated_eq : generated = _ := Coro.converse_finally (I := Api) oracle _ _ start
  rw [generated_eq, converse_passed_on, Coro.converse_void, converse_kept_in]
  have outcome : Except.map (fun _ => ()) (stream.outcome.map (fun value => (value, stream.state.2))) =
    stream.outcome := by
    cases stream.outcome <;> rfl
  constructor
  · show stream.items ++ (Coro.converse oracle stream.state.1 (deleteGenerated config context.freshThreadId)).items = _
    rw [quiet, List.append_nil]
  · exact congrArg (Coro.leaving (I := Api) _) outcome

end Leases

-- What the awaits of a run are answered with: the exceptions thrown into the two status writes
-- and into the deletion of its checkpoints, and how the reading of its graph ends.
structure Awaited where
  busy : List ServerError
  reading : Except ServerError Unit
  idle : List ServerError
  deletion : List ServerError

namespace Awaited

variable (awaited : Awaited) (config : ServerConfig)

def Exhausted : Prop := awaited.busy = [] ∧ awaited.reading = .ok ()

def Settled : Prop := awaited.busy = [] ∧ ∀ error, awaited.reading = .error error → error.isException = true

-- What the stream is left with. The deletion comes last and absorbs every `Exception`, and the
-- idle write comes after the graph.
def leaves : Option ServerError :=
  (awaited.deletion.find? (fun error => !error.isException)).or (awaited.busy.head?.or (awaited.idle.head?.or
    (match awaited.reading with
      | .ok () => none
      | .error error => if error.isException = true then none else some error)))

def TimedOut : Prop :=
  awaited.leaves = some .timeout ∨
    (awaited.leaves = some (.cancelled .timeout) ∧ config.runTimeoutSeconds.isSome = true)

-- The run's timeout comes out of the stream exactly when nothing has ended the run before.
def EndsInTime : Prop := awaited.Settled ↔ ¬ awaited.TimedOut config

end Awaited

structure AnsweredParts {σ : Type} (parts : Parts σ) (awaited : Awaited) : Prop where
  busy : parts.busy.outcome = Coro.raised (I := Api) awaited.busy.head?
  graph : parts.graph.outcome = awaited.reading
  idle : parts.idle.outcome = Coro.raised (I := Api) awaited.idle.head?

theorem raised_head (thrown : List ServerError) : Coro.raised (I := Api) thrown.head? = .ok () ↔ thrown = [] := by
  cases thrown with
  | nil => exact ⟨fun _ => rfl, fun _ => rfl⟩
  | cons error rest => exact ⟨fun wrong => (by cases wrong), fun wrong => (by cases wrong)⟩

section Answers

variable {σ : Type} {parts : Parts σ} {awaited : Awaited} (answered : AnsweredParts parts awaited)

include answered

theorem answered_exhausted : parts.Exhausted ↔ awaited.Exhausted := by
  rw [Parts.Exhausted, Awaited.Exhausted, answered.busy, answered.graph, raised_head]

theorem answered_settled : parts.Settled ↔ awaited.Settled := by
  rw [Parts.Settled, Awaited.Settled, answered.busy, answered.graph, raised_head]

theorem answered_leaves : parts.leaves = Coro.raised (I := Api) (awaited.busy.head?.or (awaited.idle.head?.or
    (match awaited.reading with
      | .ok () => none
      | .error error => if error.isException = true then none else some error))) := by
  rw [Parts.leaves, answered.busy, answered.graph, answered.idle]
  cases awaited.busy.head? with
  | some error => rfl
  | none =>
      cases awaited.idle.head? with
      | some error => rfl
      | none =>
          cases awaited.reading with
          | ok value => rfl
          | error error => cases exception : error.isException <;> simp [Coro.raised, Coro.leaving, exception]

end Answers

theorem timed_out_raised (config : ServerConfig) (awaited : Awaited) (outcome : Except ServerError Unit)
    (left : outcome = Coro.raised (I := Api) awaited.leaves) : TimedOut config outcome ↔ awaited.TimedOut config := by
  have same (error : ServerError) : outcome = .error error ↔ awaited.leaves = some error := by
    rw [left]
    cases awaited.leaves with
    | none => exact ⟨fun wrong => (by cases wrong), fun wrong => (by cases wrong)⟩
    | some other => exact ⟨fun raised => (by cases raised; rfl), fun given => (by cases given; rfl)⟩
  rw [TimedOut, Awaited.TimedOut, same, same]

theorem transcript_iff_in_time {σ τ : Type} (platform : Platform) (config : ServerConfig) (oracle : Coro.Oracle Api σ)
    (dumps : DumpsPlain platform) (generator : Coro Api Unit) (lease : RunLease) (start : σ) (parts : Parts τ)
    (names : ∃ data final, namesOf (Coro.converse oracle start generator).items = "metadata" :: (data ++ final) ∧
      (∀ name ∈ data, name ∈ dataEvents) ∧ (parts.Exhausted → final = ["end"]) ∧
      (parts.Settled → ¬ parts.Exhausted → final = ["error"]) ∧ (¬ parts.Settled → final = []))
    (awaited : Awaited) (answered : AnsweredParts parts awaited)
    (left : (Coro.converse oracle start generator).outcome = Coro.raised (I := Api) awaited.leaves) :
    RunTranscript awaited.Exhausted
      (namesOf (Coro.converse oracle start (runWithLease platform config generator lease)).items) ↔
      awaited.EndsInTime config := by
  obtain ⟨data, final, streamed, members, ended, failed, cut⟩ := names
  obtain ⟨extra, yielded, added, none_⟩ := names_run_with_lease platform config oracle dumps generator lease start
  rw [answered_exhausted answered] at ended failed
  rw [answered_settled answered] at failed cut
  rw [timed_out_raised config awaited _ left] at added none_
  apply outline_transcript
  constructor
  · refine ⟨data, final, extra, ?_, members, ended, failed, cut, added, none_⟩
    rw [yielded, streamed, List.cons_append, List.append_assoc]
  · intro exhausted
    exact ⟨exhausted.1, fun error raised => (by cases exhausted.2.symm.trans raised)⟩

section Runs

variable {σ : Type} (platform : Platform) (config : ServerConfig) (context : RequestContext)
    (assistant : AssistantConfig) (oracle : Coro.Oracle Api σ) (graph : GraphRuntime)

theorem set_thread_status_straight (threadId status : String) (moment : Moment) :
    (setThreadStatus context threadId status moment).Straight := by
  refine Coro.straight_bind (I := Api) _ _ (Coro.straight_perform (I := Api) _) (fun thread => ?_)
  cases thread with
  | none => trivial
  | some thread => exact Coro.straight_perform (I := Api) _

-- What a stream's awaits are answered with. The idle write follows the loop over the graph.
def streamAwaited (inputData : Metadata) (threadId : String) (modes : List String) (requestConfig : Option Config)
    (checkpointId : Option String) (start : σ) : Awaited :=
  let parts := streamParts platform context assistant oracle inputData threadId graph modes requestConfig
    checkpointId start
  { busy := Coro.thrown oracle start (setThreadStatus context threadId "busy" .busy)
    reading := graphReading platform context assistant oracle inputData threadId graph modes requestConfig checkpointId
      parts.busy.state
    idle := Coro.thrown oracle parts.graph.state (setThreadStatus context threadId "idle" .idle)
    deletion := [] }

theorem stream_answered (inputData : Metadata) (threadId : String) (modes : List String) (requestConfig : Option Config)
    (checkpointId : Option String) (start : σ) :
    AnsweredParts (streamParts platform context assistant oracle inputData threadId graph modes requestConfig
      checkpointId start)
      (streamAwaited platform context assistant oracle graph inputData threadId modes requestConfig
        checkpointId start) :=
  ⟨Coro.converse_straight_unit (I := Api) oracle _ (set_thread_status_straight context threadId "busy" .busy) start,
    graph_loop_reads platform context assistant oracle inputData threadId graph modes requestConfig checkpointId _,
    Coro.converse_straight_unit (I := Api) oracle _ (set_thread_status_straight context threadId "idle" .idle) _⟩

theorem delete_generated_leaves (threadId : String) (state : σ) :
    (Coro.converse oracle state (deleteGenerated config threadId)).outcome = Coro.raised (I := Api)
      ((Coro.thrown oracle state (deleteGenerated config threadId)).find? (fun error => !error.isException)) := by
  rw [deleteGenerated]
  split
  · rfl
  · split
    · exact Coro.converse_absorbs (I := Api) oracle ServerError.isException _
        (Coro.straight_bind (I := Api) _ _ (Coro.straight_perform (I := Api) _)
          (fun _ => Coro.straight_perform (I := Api) _)) state
    · rfl

def statelessParts (request : RunCreate) (store : InMemoryThreadStore) (start : σ) : Parts (σ × InMemoryThreadStore) :=
  streamParts platform context assistant (keptOracle platform oracle) (request.input.getD .empty)
    context.freshThreadId graph
    (resolveStreamModes request.streamMode assistant) request.config request.checkpointId (start, store)

def statelessLeaves (request : RunCreate) (store : InMemoryThreadStore) (start : σ) : Except ServerError Unit :=
  let parts := statelessParts platform context assistant oracle graph request store start
  Coro.leaving (I := Api) (Coro.converse oracle parts.last.1 (deleteGenerated config context.freshThreadId)).outcome
    parts.leaves

def statelessAwaited (request : RunCreate) (store : InMemoryThreadStore) (start : σ) : Awaited :=
  { streamAwaited platform context assistant (keptOracle platform oracle) graph (request.input.getD .empty)
      context.freshThreadId (resolveStreamModes request.streamMode assistant) request.config request.checkpointId
      (start, store) with
    deletion := Coro.thrown oracle (statelessParts platform context assistant oracle graph request store start).last.1
      (deleteGenerated config context.freshThreadId) }

-- Whatever the awaits of a run are answered with: what it yields is one well-formed transcript
-- exactly when the answers let the run's timeout out of the stream only if nothing has ended
-- the run before.
theorem run_transcript_iff_in_time (dumps : DumpsPlain platform) (lease : RunLease) (start : σ) :
    (∀ inputData threadId modes requestConfig checkpointId,
      let awaited := streamAwaited platform context assistant oracle graph inputData threadId modes
        requestConfig checkpointId start
      RunTranscript awaited.Exhausted (namesOf (Coro.converse oracle start (runWithLease platform config
        (streamGraphResponse platform context assistant inputData threadId graph modes requestConfig checkpointId)
        lease)).items) ↔ awaited.EndsInTime config) ∧
    ∀ request store,
      let awaited := statelessAwaited platform config context assistant oracle graph request store start
      RunTranscript awaited.Exhausted (namesOf (Coro.converse oracle start (runWithLease platform config
        (statelessGenerator platform config context request assistant graph store) lease)).items) ↔
        awaited.EndsInTime config := by
  constructor
  · intro inputData threadId modes requestConfig checkpointId awaited
    have ends := stream_graph_response_ends platform context assistant oracle inputData threadId graph
      modes requestConfig checkpointId dumps start
    have answered := stream_answered platform context assistant oracle graph inputData threadId modes requestConfig
      checkpointId start
    exact transcript_iff_in_time platform config oracle dumps _ lease start _ ends.names awaited answered
      (ends.outcome.trans (answered_leaves answered))
  · intro request store awaited
    let parts := statelessParts platform context assistant oracle graph request store start
    have ends := stream_graph_response_ends platform context assistant (keptOracle platform oracle)
      (request.input.getD .empty) context.freshThreadId graph (resolveStreamModes request.streamMode assistant)
      request.config request.checkpointId dumps (start, store)
    have streamed := stream_answered platform context assistant (keptOracle platform oracle) graph
      (request.input.getD .empty) context.freshThreadId (resolveStreamModes request.streamMode assistant) request.config
      request.checkpointId (start, store)
    obtain ⟨items, outcome⟩ := converse_stateless platform config oracle context request assistant graph store start
    have names := ends.names
    rw [← items] at names
    rw [ends.outcome, ends.state] at outcome
    have answered : AnsweredParts parts awaited := ⟨streamed.busy, streamed.graph, streamed.idle⟩
    refine transcript_iff_in_time platform config oracle dumps _ lease start parts names awaited answered
      (outcome.trans ?_)
    have deleted := delete_generated_leaves config oracle context.freshThreadId parts.last.1
    have left : parts.leaves = _ := answered_leaves answered
    show statelessLeaves platform config context assistant oracle graph request store start = _
    rw [statelessLeaves, deleted, left, Coro.leaving_raised]
    rfl

end Runs

theorem small_platform_dumps_plain : DumpsPlain smallPlatform := by
  have scalar : ∀ value, ((∃ text, value = PyObj.str text) ∨ ∃ number, value = PyObj.int number) →
      ∃ json, smallScalarJson value = some json := by
    intro value plain
    rcases plain with ⟨text, rfl⟩ | ⟨number, rfl⟩
    · exact ⟨_, rfl⟩
    · exact ⟨_, rfl⟩
  have rows : ∀ entries : List (String × PyObj),
      (∀ row ∈ entries, (∃ text, row.2 = .str text) ∨ ∃ number, row.2 = .int number) →
      ∃ texts, entries.mapM (fun row => (smallScalarJson row.2).map (fun text => "\"" ++ row.1 ++ "\":" ++ text)) =
        some texts := by
    intro entries plain
    induction entries with
    | nil => exact ⟨[], rfl⟩
    | cons row rest ih =>
        obtain ⟨json, dumped⟩ := scalar row.2 (plain row List.mem_cons_self)
        obtain ⟨texts, others⟩ := ih (fun later member => plain later (List.mem_cons_of_mem row member))
        rw [List.mapM_cons, dumped, others]
        exact ⟨_, rfl⟩
  constructor
  · exact ⟨"null", rfl⟩
  · intro entries plain
    obtain ⟨texts, written⟩ := rows entries plain
    exact ⟨_, by
      show smallJson (.dict entries) = .ok ("\x7b" ++ ",".intercalate texts ++ "\x7d")
      rw [smallJson, written]⟩

def calmAnswer : (op : ServerOp) → Except ServerError op.Result
  | .getThread _ => .ok none
  | .suspend => .ok ()
  | .aput _ _ => .ok ()
  | .deleteCheckpoints _ => .ok ()
  | .release _ => .ok ()
  | .begin _ => .ok ()
  | .finish => .ok ()
  | _ => .error .osError

def timedAt (failing : Nat) : Coro.Oracle Api Nat := fun count op =>
  (count + 1, if count = failing then .error (.cancelled .timeout) else calmAnswer op)

def timedStream : Coro Api Unit :=
  streamGraphResponse smallPlatform smallContext (smallAssistant "a" a_named smallGraph) .empty "t" smallGraph
    ["values"] none none

def timedNames (failing : Nat) : List String :=
  namesOf (Coro.converse (timedAt failing) 0 (runWithLease smallPlatform
    (smallServerConfig smallGraph none (some 1)) timedStream ⟨"t", 0⟩)).items

def timedAwaited (failing : Nat) : Awaited :=
  streamAwaited smallPlatform smallContext (smallAssistant "a" a_named smallGraph) (timedAt failing)
    smallGraph .empty "t" ["values"] none none 0

theorem run_transcript_iff_in_time_small : RunTranscript (timedAwaited 0).Exhausted (timedNames 0) := by
  have in_time : (timedAwaited 0).EndsInTime (smallServerConfig smallGraph none (some 1)) := by
    have struck : (timedAwaited 0).busy = [.cancelled .timeout] := rfl
    have out : (timedAwaited 0).TimedOut (smallServerConfig smallGraph none (some 1)) := Or.inr ⟨rfl, rfl⟩
    constructor
    · intro settled
      cases struck.symm.trans settled.1
    · exact fun early => absurd out early
  exact ((run_transcript_iff_in_time smallPlatform (smallServerConfig smallGraph none (some 1)) smallContext
    (smallAssistant "a" a_named smallGraph) (timedAt 0) smallGraph small_platform_dumps_plain ⟨"t", 0⟩ 0).1
      .empty "t" ["values"]
    none none).mpr in_time

-- The timeout fires in the idle write, after the `end` event.
theorem late_timeout_ends_twice :
    ¬ RunTranscript (timedAwaited 3).Exhausted (timedNames 3) := by
  intro well
  have names : timedNames 3 = "metadata" :: ([] ++ ["end", "error"]) := by decide +kernel
  rw [names] at well
  obtain ⟨last, same⟩ := (ends_once [] ["end", "error"] (fun name member => (by cases member))
    (fun name member => (by simpa using member))).mp well.shape
  cases same

end LangGraphServer
