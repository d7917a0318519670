import LangGraphServer.Lib.Custody
import LangGraphServer.Server.Footprint
import LangGraphServer.Server.Openings

set_option autoImplicit false

namespace LangGraphServer

open Collections Coroutine

-- What a task has to see to: nothing, that a thread it marked busy is marked idle again,
-- or nothing any more, as its access to the record failed. A record that is not the one
-- that was asked for leads astray.
inductive StatusPhase where
  | clear
  | owing
  | excused
  | astray

namespace StatusPhase

variable (streams : Prop) (threadId : String)

def next : StatusPhase → (op : ServerOp) → Except ServerError op.Result → StatusPhase
  | .astray, _, _ => .astray
  | phase, .getThread query, .ok (some thread) => if thread.threadId = query then phase else .astray
  | .excused, _, _ => .excused
  | phase, .getThread query, .error _ => if query = threadId then .excused else phase
  | phase, .getThread query, .ok none => if query = threadId then .clear else phase
  | phase, .putThread thread, .error _ => if thread.threadId = threadId then .excused else phase
  | phase, .putThread thread, .ok _ =>
      if thread.threadId = threadId then (if thread.status = "busy" then .owing else .clear) else phase
  | phase, _, _ => phase

def allows (phase : StatusPhase) : ServerOp → Prop
  | .putThread thread => phase = .astray ∨ (thread.threadId = threadId → thread.status = "busy" → streams)
  | _ => True

end StatusPhase

def statusProtocol (streams : Prop) (threadId : String) : Protocol Api StatusPhase where
  allows phase := phase.allows streams threadId
  next := StatusPhase.next threadId
  lets _ := True
  splits phase theirs mine := (theirs = phase ∧ mine = .clear) ∨ (theirs = .clear ∧ mine = phase)
  ends phase := phase ≠ .owing

def Aside : ServerOp → Prop
  | .getThread _ => False
  | .putThread _ => False
  | _ => True

def Steady : ServerOp → Prop
  | .putThread thread => thread.status ≠ "busy"
  | _ => True

theorem aside_steady (op : ServerOp) (aside : Aside op) : Steady op := by
  cases op
  case putThread thread => exact aside.elim
  all_goals trivial

theorem reads_steady (op : ServerOp) (reads : Reads op) : Steady op := by
  cases reads <;> trivial

section Phases

variable {streams : Prop} {threadId : String}

theorem status_idle : (statusProtocol streams threadId).Idle .clear :=
  ⟨by rintro ⟨⟩, fun _ => Or.inl ⟨rfl, rfl⟩, fun _ => Or.inr ⟨rfl, rfl⟩⟩

theorem aside_neutral (op : ServerOp) (aside : Aside op) : (statusProtocol streams threadId).Neutral op := by
  intro phase
  cases op
  case getThread query => exact aside.elim
  case putThread thread => exact aside.elim
  all_goals exact ⟨trivial, fun answer => by cases phase <;> rfl⟩

theorem found_phase (phase : StatusPhase) (query : String) (thread : Thread) :
    phase.next threadId (.getThread query) (.ok (some thread)) = .astray ∨
      (thread.threadId = query ∧ phase.next threadId (.getThread query) (.ok (some thread)) = phase) := by
  by_cases same : thread.threadId = query
  · refine Or.inr ⟨same, ?_⟩
    cases phase <;> first | rfl | exact if_pos same
  · refine Or.inl ?_
    cases phase <;> first | rfl | exact if_neg same

theorem read_owing (phase : StatusPhase) (query : String) (answer : Except ServerError (Option Thread))
    (owing : phase.next threadId (.getThread query) answer = .owing) :
    phase = .owing ∧ (query = threadId → ∃ thread, answer = .ok (some thread)) := by
  cases answer with
  | error error =>
      by_cases here : query = threadId
      · cases phase <;> simp only [StatusPhase.next, if_pos here] at owing <;> cases owing
      · cases phase <;> simp only [StatusPhase.next, if_neg here] at owing <;>
          first | exact ⟨rfl, fun same => absurd same here⟩ | cases owing
  | ok found =>
      cases found with
      | none =>
          by_cases here : query = threadId
          · cases phase <;> simp only [StatusPhase.next, if_pos here] at owing <;> cases owing
          · cases phase <;> simp only [StatusPhase.next, if_neg here] at owing <;>
              first | exact ⟨rfl, fun same => absurd same here⟩ | cases owing
      | some thread =>
          rcases @found_phase threadId phase query thread with astray | ⟨_, same⟩
          · cases astray.symm.trans owing
          · exact ⟨same.symm.trans owing, fun _ => ⟨thread, rfl⟩⟩

theorem put_owing (phase : StatusPhase) (thread : Thread) (answer : Except ServerError Unit)
    (owing : phase.next threadId (.putThread thread) answer = .owing) :
    phase ≠ .astray ∧ ((thread.threadId = threadId ∧ thread.status = "busy" ∧ ∃ value, answer = .ok value) ∨
      (thread.threadId ≠ threadId ∧ phase = .owing)) := by
  refine ⟨fun astray => (by subst astray; cases owing), ?_⟩
  by_cases here : thread.threadId = threadId
  · cases answer with
    | error error => cases phase <;> simp only [StatusPhase.next, if_pos here] at owing <;> cases owing
    | ok value =>
        by_cases busy : thread.status = "busy"
        · exact Or.inl ⟨here, busy, value, rfl⟩
        · cases phase <;> simp only [StatusPhase.next, if_pos here, if_neg busy] at owing <;> cases owing
  · refine Or.inr ⟨here, ?_⟩
    cases answer <;> cases phase <;> simp only [StatusPhase.next, if_neg here] at owing <;> first | rfl | cases owing

theorem steady_stays (phase : StatusPhase) (op : ServerOp) (settled : phase ≠ .owing) (steady : Steady op) :
    phase.allows streams threadId op ∧ ∀ answer, phase.next threadId op answer ≠ .owing := by
  cases op
  case getThread query => exact ⟨trivial, fun answer owing => settled (read_owing phase query answer owing).1⟩
  case putThread thread =>
    refine ⟨Or.inr (fun _ busy => absurd busy steady), fun answer owing => ?_⟩
    obtain ⟨_, ⟨_, busy, _⟩ | ⟨_, before⟩⟩ := put_owing phase thread answer owing
    · exact steady busy
    · exact settled before
  all_goals exact ⟨trivial, fun answer => by cases phase <;> first | exact absurd rfl settled | rintro ⟨⟩⟩

theorem steady_minds {α : Type} (program : Coro Api α) (awaits : program.Awaits Steady) (phase : StatusPhase)
    (settled : phase ≠ .owing) :
    (statusProtocol streams threadId).Minds (fun _ reached => reached ≠ .owing) program phase :=
  Protocol.minds_awaits status_idle Steady (by rintro ⟨⟩) (fun _ free => free) steady_stays program awaits phase settled

theorem aside_minds {α : Type} (program : Coro Api α) (awaits : program.Awaits Aside) (kind : StatusPhase → Prop)
    (phase : StatusPhase)
    (held : kind phase) : (statusProtocol streams threadId).Minds (fun _ => kind) program phase :=
  Protocol.minds_neutral status_idle program (Coro.awaits_mono (I := Api) Aside aside_neutral program awaits) _
    phase (fun _ => held)

end Phases

section Programs

variable (platform : Platform) (config : ServerConfig) (context : RequestContext) {streams : Prop} {threadId : String}

theorem reads_awaits {α : Type} (program : Coro Api α) (uses : program.Uses Reads) : program.Awaits Steady :=
  Coro.awaits_uses (I := Api) Reads reads_steady program uses

theorem get_or_create_thread_steady (query : Option String) (metadata : Option Metadata) :
    (getOrCreateThread platform config context query metadata).Awaits Steady := by
  have puts : ∀ thread answered : Thread, thread.status = "idle" →
      (do perform (.putThread thread); pure answered : Coro Api Thread).Awaits Steady := fun thread answered idle =>
    Coro.awaits_bind _ _ (Coro.awaits_perform (I := Api) (ServerOp.putThread thread)
      (fun busy => absurd (idle.symm.trans busy) (by decide)))
      (fun _ => trivial)
  refine Coro.awaits_bind _ _ (Coro.awaits_perform (I := Api) (ServerOp.getThread _) trivial) (fun existing => ?_)
  cases (existing : Option Thread) with
  | some thread => trivial
  | none =>
      dsimp only [threadFromCheckpoint]
      cases config.checkpointer with
      | none => exact puts _ _ rfl
      | some saver =>
          refine ⟨trivial, fun answer => ?_⟩
          cases answer with
          | error error => trivial
          | ok item =>
              cases (item : Option CheckpointItem) with
              | none => exact puts _ _ rfl
              | some item => exact puts _ _ rfl

theorem owning_steady (op : ServerOp) (owning : Owning op) : Steady op := by
  cases owning with
  | reads op reads => exact reads_steady op reads
  | claimAssistant query assistantId => trivial

theorem thread_exists_steady (query : String) : (threadExists platform config context query).Awaits Steady :=
  reads_awaits _ (thread_exists_reads platform config context query)

theorem claim_thread_assistant_steady (query assistantId : String) :
    (claimThreadAssistant config query assistantId).Awaits Steady := by
  refine Coro.awaits_bind _ _ (Coro.awaits_uses (I := Api) Owning owning_steady _
    (get_thread_assistant_id_owning config query))
    (fun existing => ?_)
  split
  · refine Coro.awaits_catch _ _ (Coro.awaits_perform (I := Api) (ServerOp.claimAssistant query assistantId) trivial)
      (fun error => ?_)
    cases error <;> trivial
  · trivial

theorem claim_for_run_steady (query : String) (request : RunCreate) (assistant : AssistantConfig) :
    (claimForRun platform config context query request assistant).Awaits Steady := by
  refine Coro.awaits_bind _ _ ?_ (fun missing => ?_)
  · split
    · exact Coro.awaits_bind _ _ (thread_exists_steady platform config context query) (fun _ => trivial)
    · trivial
  · split
    · trivial
    · exact Coro.awaits_bind _ _ (get_or_create_thread_steady platform config context _ none)
        (fun _ => claim_thread_assistant_steady config query assistant.assistantId)

theorem create_thread_steady (body : ThreadCreate) : (createThread platform config context body).Awaits Steady := by
  refine Coro.awaits_bind _ _ (thread_exists_steady platform config context _) (fun exists_ => ?_)
  split
  · trivial
  · refine Coro.awaits_catch _ _ (get_or_create_thread_steady platform config context _ _) (fun error => ?_)
    cases error <;> trivial

theorem get_thread_steady (query : String) : (getThread platform config context query).Awaits Steady := by
  refine Coro.awaits_bind _ _ (thread_exists_steady platform config context query) (fun exists_ => ?_)
  split
  · refine Coro.awaits_bind _ _ (get_or_create_thread_steady platform config context _ none) (fun thread => ?_)
    refine Coro.awaits_bind _ _ (reads_awaits _ (thread_from_checkpoint_reads platform config context query))
      (fun found => ?_)
    split <;> trivial
  · trivial

theorem get_state_checkpoint_steady (query : String) (checkpoint : Option CheckpointReference) :
    (getStateCheckpoint platform config context query checkpoint).Awaits Steady := by
  refine Coro.awaits_bind _ _ (reads_awaits _ (require_checkpointer_reads config)) (fun _ => ?_)
  refine Coro.awaits_bind _ _ (reads_awaits _ (check_route_reads _ _ _)) (fun _ => ?_)
  refine Coro.awaits_bind _ _ (thread_exists_steady platform config context query) (fun exists_ => ?_)
  split
  · refine Coro.awaits_bind _ _ (get_or_create_thread_steady platform config context _ none) (fun _ => ?_)
    refine Coro.awaits_catch _ _ (reads_awaits _ (get_thread_state_reads platform context query _ _)) (fun error => ?_)
    rw [lookupNotFound.eq_def]
    split <;> trivial
  · trivial

theorem awaited_steady (graphOf : Option String) (runnableConfig : RunnableConfig) (call : GraphCall) :
    (mutating graphOf (call.awaited runnableConfig)).Awaits Steady :=
  mutating_awaits graphOf runnableConfig ⟨trivial, trivial, trivial, fun _ _ => trivial⟩ call call.writes_any

theorem update_state_steady (query : String) (request : StateUpdate) :
    (updateState platform config context query request).Awaits Steady := by
  have once : ∀ op : ServerOp, Steady op → (perform op).Awaits Steady := Coro.awaits_perform (I := Api)
  rw [updateState]
  split
  · trivial
  · refine Coro.awaits_bind _ _ (thread_exists_steady platform config context query) (fun exists_ => ?_)
    split
    · refine Coro.awaits_bind _ _ (Coro.awaits_catch _ _ (once (.acquire query .update) trivial) (fun error => ?_))
        (fun lease =>
        Coro.awaits_bind _ _ (Coro.awaits_finally _ _ ?_ (once (.release lease) trivial))
          (fun _ => Coro.awaits_of_except _))
      · cases error <;> trivial
      · refine Coro.awaits_bind _ _ (get_or_create_thread_steady platform config context _ none) (fun _ => ?_)
        refine Coro.awaits_bind _ _ (Coro.awaits_uses (I := Api) Owning owning_steady _
          (get_thread_assistant_id_owning config query))
          (fun owner => ?_)
        split
        · trivial
        · split
          · trivial
          · refine Coro.awaits_bind _ _ (Coro.awaits_of_except _) (fun graph => ?_)
            split
            · trivial
            · refine Coro.awaits_catch _ _ (with_timeout_awaits _ _ (awaited_steady _ _ _)) (fun error => ?_)
              split <;> trivial
    · trivial

theorem create_run_steady (query : String) (request : RunCreate) :
    (createRun platform config context query request).Awaits Steady := by
  rw [createRun]
  split
  · trivial
  · refine Coro.awaits_bind _ _ (Coro.awaits_of_except _) (fun assistant => ?_)
    refine Coro.awaits_bind _ _ (claim_for_run_steady platform config context query request assistant) (fun _ => ?_)
    refine Coro.awaits_bind _ _ (Coro.awaits_of_except _) (fun payload => ?_)
    refine Coro.awaits_bind _ _ (acquire_run_lease_awaits assistant.assistantId trivial) (fun lease => ?_)
    refine Coro.awaits_bind _ _
      (Coro.awaits_finally _ _ ?_ (Coro.awaits_perform (I := Api) (ServerOp.release lease) trivial))
      (fun _ => trivial)
    refine Coro.awaits_catch _ _ (with_timeout_awaits _ _ ?_) (fun error => ?_)
    · refine Coro.awaits_bind _ _ (Coro.awaits_of_except _) (fun graph => Coro.awaits_bind _ _ ?_ (fun _ => trivial))
      refine Coro.awaits_bind _ _ (awaited_steady _ _ _) (fun result => ?_)
      split <;> trivial
    · split <;> trivial

theorem kept_in_aside {α : Type} (program : Coro Api α) (store : InMemoryThreadStore) :
    (keptIn platform program store).Awaits Aside := by
  induction program generalizing store with
  | ret value => trivial
  | raise error => trivial
  | await op resume ih =>
      rw [keptIn]
      cases called : store.call platform op with
      | some outcome =>
          refine ⟨trivial, fun waited => ?_⟩
          cases waited with
          | ok value => exact ih _ _
          | error error => exact ih _ _
      | none =>
          refine ⟨?_, fun answer => ih answer store⟩
          cases op
          case getThread query => cases called
          case putThread thread => cases called
          all_goals trivial
  | yield item next closing nextIh closingIh => exact ⟨nextIh store, closingIh store⟩
  | abandon left rest leftIh restIh => exact ⟨Coro.awaits_void _ (leftIh store), restIh store⟩

theorem stream_run_stateless_aside (request : RunCreate) :
    (streamRunStateless platform config context request).Awaits Aside := by
  refine Coro.awaits_bind _ _ (Coro.awaits_of_except _) (fun assistant => ?_)
  split
  · trivial
  · refine Coro.awaits_bind _ _ (kept_in_aside platform _ _) (fun claimed => ?_)
    refine Coro.awaits_bind _ _ (acquire_run_lease_awaits assistant.assistantId trivial) (fun lease => ?_)
    refine Coro.awaits_bind _ _ (Coro.awaits_of_except _) (fun graph => ?_)
    refine respond_awaits platform _ _ (fun _ => trivial) (run_with_lease_awaits platform config _ lease trivial ?_)
      (Coro.awaits_perform (I := Api) (ServerOp.release lease) trivial)
    exact Coro.awaits_finally _ _ (pass_on_awaits _ (Coro.awaits_void _ (kept_in_aside platform _ _)))
      (delete_generated_awaits config _ trivial trivial)

theorem set_busy_minds (query : String) (moment : Moment) (may : query = threadId → streams) (phase : StatusPhase)
    (settled : phase ≠ .owing) :
    (statusProtocol streams threadId).Minds (fun outcome reached => match outcome with
      | .ok _ => reached = .owing → query = threadId
      | .error _ => reached ≠ .owing) (setThreadStatus context query "busy" moment) phase := by
  have read : ∀ answer, phase.next threadId (.getThread query) answer ≠ .owing :=
    fun answer owing => settled (read_owing phase query answer owing).1
  refine ⟨trivial, fun answer => ?_⟩
  cases answer with
  | error error => exact read (.error error)
  | ok found =>
      cases (found : Option Thread) with
      | none => exact fun owing => absurd owing (read (.ok none))
      | some thread =>
          have found := @found_phase threadId phase query thread
          refine ⟨?_, fun answer => ?_⟩
          · rcases found with astray | ⟨named, _⟩
            · exact Or.inl astray
            · exact Or.inr (fun here _ => may (named.symm.trans here))
          · cases answer with
            | error error =>
                intro owing
                rcases (put_owing _ _ _ owing).2 with ⟨_, _, _, failed⟩ | ⟨_, before⟩
                · cases failed
                · exact read _ before
            | ok value =>
                intro owing
                obtain ⟨sane, ⟨here, _⟩ | ⟨_, before⟩⟩ := put_owing _ _ _ owing
                · rcases found with astray | ⟨named, _⟩
                  · exact absurd astray sane
                  · exact named.symm.trans here
                · exact absurd before (read _)

theorem set_idle_minds (query : String) (moment : Moment) (phase : StatusPhase)
    (own : phase = .owing → query = threadId) :
    (statusProtocol streams threadId).Minds (fun _ reached => reached ≠ .owing)
    (setThreadStatus context query "idle" moment) phase := by
  have failed : ∀ answer : Except ServerError (Option Thread), (∀ thread, answer ≠ .ok (some thread)) →
      phase.next threadId (.getThread query) answer ≠ .owing := by
    intro answer missing owing
    obtain ⟨before, read⟩ := read_owing phase query answer owing
    obtain ⟨thread, found⟩ := read (own before)
    exact missing thread found
  refine ⟨trivial, fun answer => ?_⟩
  cases answer with
  | error error => exact failed _ (fun _ same => by cases same)
  | ok found =>
      cases (found : Option Thread) with
      | none => exact failed _ (fun _ same => by cases same)
      | some thread =>
          have written : ∀ answer, StatusPhase.next threadId
            (phase.next threadId (.getThread query) (.ok (some thread)))
              (.putThread { thread with status := "idle", updatedAt := context.now moment }) answer ≠ .owing := by
            intro answer owing
            obtain ⟨sane, ⟨_, busy, _⟩ | ⟨elsewhere, before⟩⟩ := put_owing _ _ _ owing
            · exact absurd (show "idle" = "busy" from busy) (by decide)
            · rcases @found_phase threadId phase query thread with astray | ⟨named, same⟩
              · exact sane astray
              · exact elsewhere (named.trans (own (same.symm.trans before)))
          refine ⟨Or.inr (fun _ busy => absurd (show "idle" = "busy" from busy) (by decide)), fun answer => ?_⟩
          cases answer with
          | error error => exact written (.error error)
          | ok value => exact written (.ok value)

theorem graph_aside (graphOf : Option String) (runnableConfig : RunnableConfig) :
    GraphAllowed Aside (fun _ => True) graphOf runnableConfig :=
  ⟨trivial, trivial, trivial, fun _ _ => trivial⟩

theorem stream_failure_awaits {allowed : ServerOp → Prop} (error : ServerError) :
    (streamFailure platform error).Awaits allowed := by
  rw [streamFailure]
  split
  · exact yield_formatted_awaits _
  · split
    · exact yield_formatted_awaits _
    · trivial

theorem stream_graph_response_minds (assistant : AssistantConfig) (inputData : Metadata) (query : String)
    (graph : GraphRuntime) (modes : List String) (requestConfig : Option Config) (checkpointId : Option String)
    (may : query = threadId → streams)
    (phase : StatusPhase) (settled : phase ≠ .owing) :
    (statusProtocol streams threadId).Minds (fun _ reached => reached ≠ .owing)
      (streamGraphResponse platform context assistant inputData query graph modes requestConfig checkpointId)
        phase := by
  refine Protocol.minds_bind _ _ _ _ phase
    (aside_minds _ (yield_formatted_awaits _) (fun reached => reached ≠ .owing) phase settled)
    (fun _ reached free => ?_) (fun _ _ free => free)
  refine Protocol.minds_bind _ _ _ _ reached (set_busy_minds context query .busy may reached free)
    (fun _ later own => ?_) (fun _ _ free => free)
  refine Protocol.minds_finally _ _ (fun reached => reached = .owing → query = threadId) _ later
    (aside_minds _ (Coro.awaits_catch _ _ ?_ (fun _ => stream_failure_awaits platform _)) _ later own)
    (fun last owner => set_idle_minds context query .idle last owner)
  refine Coro.awaits_bind _ _ (Coro.awaits_of_except _) (fun payload => ?_)
  refine Coro.awaits_bind _ _ (pass_on_awaits _ ?_) (fun _ => yield_formatted_awaits _)
  exact native_graph_awaits platform context assistant graph payload _ requestConfig checkpointId (graph_aside _ _)
    (fun _ _ => GraphStream.writes_any _)

theorem pass_on_minds (generator : Coro Api Unit) (phase : StatusPhase)
    (minds : (statusProtocol streams threadId).Minds (fun _ reached => reached ≠ .owing) generator phase) :
    (statusProtocol streams threadId).Minds (fun _ reached => reached ≠ .owing) (passOn generator) phase :=
  Protocol.minds_for_each status_idle generator _ _ phase minds (fun _ => ⟨trivial, trivial⟩) (by rintro ⟨⟩)
    (fun _ free => free)

theorem run_with_lease_minds (generator : Coro Api Unit) (lease : RunLease) (phase : StatusPhase)
    (minds : (statusProtocol streams threadId).Minds (fun _ reached => reached ≠ .owing) generator phase) :
    (statusProtocol streams threadId).Minds (fun _ reached => reached ≠ .owing)
    (runWithLease platform config generator lease) phase := by
  have passed := pass_on_minds _ phase (pass_on_minds generator phase minds)
  have timed : (statusProtocol streams threadId).Minds (fun _ reached => reached ≠ .owing)
      (withTimeout config.runTimeoutSeconds (passOn (passOn generator))) phase := by
    cases config.runTimeoutSeconds with
    | none => exact passed
    | some seconds =>
        refine Protocol.minds_catch _ _ _ _ phase passed (fun _ _ free => free) (fun error reached free => ?_)
        split <;> exact free
  refine Protocol.minds_finally _ _ (fun reached => reached ≠ .owing) _ phase
    (Protocol.minds_catch _ _ _ _ phase timed (fun _ _ free => free) (fun error reached free => ?_))
    (fun reached free => aside_minds _ (Coro.awaits_perform (I := Api) (ServerOp.release lease) trivial) _ reached free)
  split
  · exact aside_minds _ (yield_formatted_awaits _) _ reached free
  · exact free

theorem respond_minds (body background : Coro Api Unit) (after : background.Awaits Aside)
    (minds : ∀ phase, phase ≠ .owing → (statusProtocol streams threadId).Minds
      (fun _ reached => reached ≠ .owing) body phase)
    (phase : StatusPhase) (settled : phase ≠ .owing) :
    (statusProtocol streams threadId).Minds (fun _ reached => reached ≠ .owing)
    (respond platform body background) phase := by
  have sends : ∀ message, (perform (.send message)).Awaits Aside := fun message =>
    Coro.awaits_perform (I := Api) (ServerOp.send message) trivial
  refine Protocol.minds_bind _ _ (fun _ reached => reached ≠ .owing) _ phase
    (Protocol.minds_catch _ _ (fun _ reached => reached ≠ .owing) _ phase ?_ (fun _ _ free => free)
      (fun error reached free => ?_))
    (fun _ reached free => aside_minds _ after _ reached free) (fun _ _ free => free)
  · refine Protocol.minds_bind _ _ _ _ phase
      (aside_minds _ (sends .start) (fun reached => reached ≠ .owing) phase settled)
      (fun _ reached free => ?_) (fun _ _ free => free)
    refine Protocol.minds_bind _ _ (fun _ reached => reached ≠ .owing) _ reached ?_
      (fun _ later ended => aside_minds _ (sends .finish) _ later ended) (fun _ _ free => free)
    refine Protocol.minds_for_each status_idle body sendItem _ reached (minds reached free) (fun item => ?_)
      (by rintro ⟨⟩) (fun _ free => free)
    cases item with
    | raw item => trivial
    | event text => exact Coro.awaits_mono (I := Api) Aside aside_neutral _ (sends (.body text))
  · split <;> exact free

theorem stream_run_minds (query : String) (request : RunCreate) (may : query = threadId → streams) (phase : StatusPhase)
    (settled : phase ≠ .owing) :
    (statusProtocol streams threadId).Minds (fun _ reached => reached ≠ .owing)
      (streamRunWithThread platform config context query request) phase := by
  rw [streamRunWithThread]
  split
  · exact settled
  · refine Protocol.minds_bind _ _ _ _ phase (steady_minds _ (Coro.awaits_of_except _) phase settled)
      (fun assistant first free => ?_) (fun _ _ free => free)
    refine Protocol.minds_bind _ _ _ _ first
      (steady_minds _ (claim_for_run_steady platform config context query request assistant) first free)
      (fun _ second free => ?_) (fun _ _ free => free)
    refine Protocol.minds_bind _ _ _ _ second (steady_minds _ (acquire_run_lease_awaits _ trivial) second free)
      (fun lease third free => ?_) (fun _ _ free => free)
    refine Protocol.minds_bind _ _ _ _ third (steady_minds _ (Coro.awaits_of_except _) third free)
      (fun graph last free => ?_) (fun _ _ free => free)
    refine respond_minds platform _ _ (Coro.awaits_perform (I := Api) (ServerOp.release lease) trivial)
      (fun reached free => ?_) last free
    exact run_with_lease_minds platform config _ lease reached
      (stream_graph_response_minds platform context assistant _ query graph _ _ _ may reached free)

-- Whatever a request is answered, it leaves no thread busy that it marked.
theorem answer_call_minds (call : Call)
    (may : ∀ query body, call = .threaded (.streamRun query body) → query = threadId → streams) :
    (statusProtocol streams threadId).Minds (fun _ reached => reached ≠ .owing)
    (answerCall platform config context call) .clear := by
  have steady : ∀ program : Coro Api Unit, program.Awaits Steady →
      (statusProtocol streams threadId).Minds (fun _ reached => reached ≠ .owing) program .clear :=
        fun program awaits =>
    steady_minds program awaits .clear (by rintro ⟨⟩)
  have served : ∀ {α : Type} (program : Coro Api α) (answer : α → Response), program.Awaits Steady →
      (program >>= fun value => pure (answer value)).void.Awaits Steady := fun program answer awaits =>
    Coro.awaits_void _ (Coro.awaits_bind _ _ awaits (fun _ => trivial))
  cases call with
  | stateless body =>
      exact steady _ (Coro.awaits_mono (I := Api) Aside aside_steady _
        (stream_run_stateless_aside platform config context body))
  | threaded request =>
      cases request with
      | createThread body => exact steady _ (served _ _ (create_thread_steady platform config context body))
      | getThread query => exact steady _ (served _ _ (get_thread_steady platform config context query))
      | getState query => exact steady _ (served _ _ (reads_awaits _ (get_state_reads platform config context query)))
      | getStateCheckpoint query checkpoint =>
          exact steady _ (served _ _ (get_state_checkpoint_steady platform config context query checkpoint))
      | getHistory query body =>
          exact steady _ (served _ _ (reads_awaits _ (get_history_reads platform config context query body)))
      | updateState query body => exact steady _ (served _ _ (update_state_steady platform config context query body))
      | deleteThread query =>
          refine steady _ (served _ (fun _ => Response.noContent) (Coro.awaits_mono (I := Api) (DeletionSteps query)
            (fun op steps => ?_) _ (deletion_takes_steps config)))
          cases steps <;> trivial
      | createRun query body => exact steady _ (served _ _ (create_run_steady platform config context query body))
      | streamRun query body =>
          have streamed := stream_run_minds platform config context query body (may query body rfl)
            .clear (by rintro ⟨⟩)
          refine Protocol.minds_void _ _ _ (Protocol.minds_bind _ _ _ _ _ streamed (fun _ _ free => ?_)
            (fun _ _ free => free))
          exact free

end Programs

end LangGraphServer
