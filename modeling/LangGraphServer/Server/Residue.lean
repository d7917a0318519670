import LangGraphServer.Lib.Protocol
import LangGraphServer.Server.Stateless
import LangGraphServer.Server.StoreRules

set_option autoImplicit false

namespace LangGraphServer

open Collections Coroutine

-- How far a stateless run is: no lease yet, graph not begun, graph under way, deletion
-- due, nothing left to do. A write that was cut off is a stray of its own.
inductive RunPhase where
  | fresh
  | before
  | live
  | after
  | clean
  | stray
deriving DecidableEq

namespace RunPhase

-- With a store of its own (`own`) the calls of that store are no concern of the protocol.
def allows (threadId : String) (own : Bool) (phase : RunPhase) : ServerOp → Prop
  | .getThread _ => own = true
  | .putThread _ => own = true
  | .getAssistantId _ => own = true
  | .claimAssistant _ _ => own = true
  | .deleteThread _ => own = true
  | .acquire _ _ => phase = .fresh
  | .release _ => phase = .before ∨ phase = .after ∨ phase = .clean
  | .begin _ => phase = .before
  | .aput config _ => (phase = .live ∨ phase = .stray) ∧ config.entry? "thread_id" = some (.str threadId)
  | .deleteCheckpoints deleted => deleted = threadId ∧ phase ≠ .live ∧ phase ≠ .stray
  | .finish => phase ≠ .stray
  | _ => True

def next (persistent : Bool) : RunPhase → (op : ServerOp) → Except ServerError op.Result → RunPhase
  | .fresh, .acquire _ _, .ok _ => .before
  | .before, .begin _, .ok _ => .live
  | .before, .release _, _ => .clean
  | .live, .finish, _ => if persistent = true then .after else .clean
  | .live, _, _ => .live
  | _, .deleteCheckpoints _, _ => .clean
  | phase, _, _ => phase

-- A deletion that is due stays with one of the two.
def Splits (phase theirs mine : RunPhase) : Prop :=
  (phase = .after ∧ (theirs = .after ∧ mine = .clean ∨ theirs = .clean ∧ mine = .after)) ∨
    (phase ≠ .after ∧ phase ≠ .stray ∧ theirs = .clean ∧ mine = .clean)

def Begun (phase : RunPhase) : Prop := phase ≠ .fresh ∧ phase ≠ .stray

end RunPhase

def cleanupProtocol (threadId : String) (persistent own : Bool) : Protocol Api RunPhase where
  allows := RunPhase.allows threadId own
  next := RunPhase.next persistent
  lets phase := phase ≠ .live
  splits := RunPhase.Splits
  ends phase := phase ≠ .live ∧ (persistent = true → phase ≠ .after)

section Programs

variable (platform : Platform) (config : ServerConfig) (context : RequestContext) (threadId : String)

-- The phase a generator is closed in: the outer ones still owe the deletion.
def outerShare : RunPhase → RunPhase
  | .after => .after
  | _ => .clean

def innerShare : RunPhase → RunPhase
  | _ => .clean

-- A consumer that takes any item once the run has its lease. What it closes instead goes
-- on in its share of the phase.
def Relays (share : RunPhase → RunPhase) (consumer : Consumer Api RunPhase) : Prop :=
  ∀ item phase more closed, phase.Begun → more phase → (phase ≠ .live → closed (share phase)) →
    consumer.accepts item more closed phase

theorem outer_share_share (phase : RunPhase) : outerShare (outerShare phase) = outerShare phase := by
  cases phase <;> rfl

theorem splits_outer (phase : RunPhase) (run : phase ≠ .stray) : RunPhase.Splits phase (outerShare phase) .clean := by
  cases phase
  case after => exact Or.inl ⟨rfl, Or.inl ⟨rfl, rfl⟩⟩
  case stray => exact absurd rfl run
  all_goals exact Or.inr ⟨by simp, by simp, rfl, rfl⟩

theorem share_runs (phase : RunPhase) : outerShare phase ≠ .stray := by
  cases phase <;> simp [outerShare]

theorem splits_inner (phase : RunPhase) : RunPhase.Splits (outerShare phase) (innerShare phase) (outerShare phase) := by
  cases phase
  case after => exact Or.inl ⟨rfl, Or.inr ⟨rfl, rfl⟩⟩
  all_goals exact Or.inr ⟨by simp [outerShare], by simp [outerShare], rfl, rfl⟩

variable {threadId} {persistent own : Bool} {consumer : Consumer Api RunPhase} {shut : RunPhase → Prop}

theorem relays_pass_on (share inner rest : RunPhase → RunPhase) (post : Post Api RunPhase Unit)
    (splits : ∀ phase, RunPhase.Splits (share phase) (inner phase) (rest phase)) (relays : Relays share consumer)
    (lasts : ∀ phase, shut (rest phase)) :
    Relays inner ((cleanupProtocol threadId persistent own).eachItem consumer
      (fun item => Coro.yieldItem (I := Api) .generatorExit item) post (closedWith shut)) := by
  intro item phase more closed begun goes closes
  refine relays item phase _ _ begun goes (fun idle _ => ?_)
  exact ⟨inner phase, rest phase, splits phase, closes idle, lasts phase⟩

def ReadsOn (consumer : Consumer Api RunPhase) : Prop :=
  ∀ item more closed, more .live → consumer.accepts item more closed .live

theorem relays_reads_on (share : RunPhase → RunPhase) (relays : Relays share consumer) : ReadsOn consumer :=
  fun item more closed goes => relays item .live more closed ⟨by simp, by simp⟩ goes (fun idle => absurd rfl idle)

theorem leads_iterated (runnableConfig : RunnableConfig) (thread : runnableConfig.entry? "thread_id" =
    some (.str threadId)) (reads : ReadsOn consumer) (stream : GraphStream) :
    (cleanupProtocol threadId persistent own).Leads consumer (fun phase => phase = .live)
    (stream.iterated runnableConfig) (fun phase => phase = .live) shut := by
  intro phase live
  subst live
  induction stream with
  | done => rfl
  | fail error => rfl
  | suspend resume ih => exact ⟨trivial, ih⟩
  | write item resume ih => exact ⟨⟨Or.inl rfl, thread⟩, ih⟩
  | emit item next closing ih => exact reads _ _ _ ih

def Ran (persistent : Bool) (phase : RunPhase) : Prop :=
  phase = .before ∨ phase = if persistent = true then .after else .clean

theorem ran_idle (phase : RunPhase) (ran : Ran persistent phase) : phase.Begun ∧ phase ≠ .live := by
  rcases ran with rfl | rfl
  · exact ⟨⟨by simp, by simp⟩, by simp⟩
  · cases persistent <;> exact ⟨⟨by simp, by simp⟩, by simp⟩

theorem leads_mutating (graphOf : Option String) (program : Coro Api Unit)
    (leads : (cleanupProtocol threadId persistent own).Leads consumer (fun phase => phase = .live) program
      (fun phase => phase = .live) (fun _ => False)) :
    (cleanupProtocol threadId persistent own).Leads consumer (fun phase => phase = .before) (mutating graphOf program)
      (Ran persistent) shut := by
  have finished : (cleanupProtocol threadId persistent own).Leads consumer (fun phase => phase = .live)
      (program.tryFinally (Coro.perform (I := Api) ServerOp.finish)) (Ran persistent) shut := by
    refine Protocol.leads_finally _ _ _ (fun _ => False) leads (Protocol.leads_perform _ _ ?_ ?_)
      (fun _ gone => gone.elim)
    · intro phase live
      subst live
      exact fun same => by cases same
    · intro phase answer live
      subst live
      exact Or.inr rfl
  intro phase start
  subst start
  refine Protocol.follows_bind _ consumer _ _ _ _ .before (Protocol.follows_perform _ consumer _ _ _ .before rfl
    (fun answer => ?_))
  cases answer with
  | error error => exact Or.inl rfl
  | ok value => exact finished .live rfl

theorem leads_yield_formatted (formatted : Except ServerError String) (share : RunPhase → RunPhase)
    (relays : Relays share consumer) (pre : RunPhase → Prop) (idle : ∀ phase, pre phase → phase.Begun)
    (lasts : ∀ phase, pre phase → shut (share phase)) :
    (cleanupProtocol threadId persistent own).Leads consumer pre (yieldFormatted formatted) pre shut := by
  intro phase held
  cases formatted with
  | error error => exact held
  | ok text => exact relays _ phase _ _ (idle phase held) held (fun _ => lasts phase held)

theorem shut_yield_formatted (formatted : Except ServerError String) (phase : RunPhase) (closed : shut phase) :
    (cleanupProtocol threadId persistent own).Follows .anything (yieldFormatted formatted) (closedWith shut)
      (closedWith shut) phase := by
  cases formatted with
  | error error => exact closed
  | ok text => trivial

theorem leads_stream_native_graph (context : RequestContext) (assistant : AssistantConfig) (graph : GraphRuntime)
    (payload : Metadata) (modes : List String) (requestConfig : Option Config) (checkpointId : Option String)
    (relays : Relays innerShare consumer) :
    (cleanupProtocol threadId persistent own).Leads consumer (fun phase => phase = .before)
      (streamNativeGraph platform context assistant graph payload threadId modes requestConfig checkpointId)
      (Ran persistent) (fun phase => phase = .clean) := by
  refine Protocol.leads_for_each _ _ _ (fun _ => False) (leads_mutating _ _ (leads_iterated _
    (build_runnable_config_marks threadId assistant.assistantId requestConfig checkpointId).thread ?_ _))
      (fun _ gone => gone.elim)
  intro item more closed goes
  cases item with
  | event text => exact goes
  | raw item =>
      dsimp only [streamItem, Protocol.eachItem]
      split
      · exact relays_reads_on innerShare relays _ _ _ goes
      · exact goes
      · exact fun lets => absurd rfl lets

theorem leads_status (context : RequestContext) (status : String) (moment : Moment) (pre : RunPhase → Prop)
    (idle : ∀ phase, pre phase → phase.Begun ∧ phase ≠ .live) :
    (cleanupProtocol threadId persistent true).Leads consumer pre (setThreadStatus context threadId status moment) pre
      shut := by
  refine Protocol.leads_uses _ _ Plain (fun op phase plain held => ?_)
    (set_thread_status_uses context threadId status moment)
  obtain ⟨_, quiet⟩ := idle phase held
  cases plain <;> exact ⟨(by first | rfl | trivial), fun answer => by cases phase <;> exact held⟩

theorem leads_stream_graph_response (context : RequestContext) (assistant : AssistantConfig) (inputData : Metadata)
    (graph : GraphRuntime) (modes : List String) (requestConfig : Option Config) (checkpointId : Option String)
    (relays : Relays innerShare consumer) :
    (cleanupProtocol threadId persistent true).Leads consumer (fun phase => phase = .before)
      (streamGraphResponse platform context assistant inputData threadId graph modes requestConfig checkpointId)
      (Ran persistent) (fun phase => phase = .clean) := by
  have starts : ∀ phase : RunPhase, phase = .before → Ran persistent phase := fun _ start => Or.inl start
  have idle : ∀ phase : RunPhase, phase = .before → phase.Begun ∧ phase ≠ .live := by
    rintro _ rfl
    exact ⟨⟨by simp, by simp⟩, by simp⟩
  have yields : ∀ formatted, (cleanupProtocol threadId persistent true).Leads consumer (Ran persistent)
      (yieldFormatted formatted) (Ran persistent) (fun phase => phase = .clean) := fun formatted =>
    leads_yield_formatted formatted innerShare relays _ (fun phase ran => (ran_idle phase ran).1) (fun _ _ => rfl)
  refine Protocol.leads_bind _ _ _
    (leads_yield_formatted _ innerShare relays _ (fun phase start => (idle phase start).1)
    (fun _ _ => rfl)) (fun _ => ?_) starts
  refine Protocol.leads_bind _ _ _ (leads_status context "busy" .busy _ idle) (fun _ => ?_) starts
  refine Protocol.leads_finally _ _ _ (fun phase => phase = .clean) (Protocol.leads_catch _ _ _ ?_ (fun _ ran => ran)
    (fun error => ?_) (fun error phase closed => ?_)) (leads_status context "idle" .idle _ ran_idle) ?_
  · refine Protocol.leads_bind _ _ _ (Protocol.leads_of_except _ _ (fun _ start => start)) (fun payload => ?_) starts
    refine Protocol.leads_bind _ _ _ ?_ (fun _ => yields _) (fun _ ran => ran)
    refine Protocol.leads_for_each _ _ _ (fun phase => phase = .clean)
      (leads_stream_native_graph platform context assistant graph payload _ requestConfig checkpointId
        (relays_pass_on innerShare innerShare innerShare _ ?_ relays (fun _ => rfl))) ?_
    · exact fun phase => Or.inr ⟨by simp [innerShare], by simp [innerShare], rfl, rfl⟩
    · rintro _ rfl
      exact ⟨by simp, by simp⟩
  · rw [streamFailure]
    split
    · exact yields _
    · split
      · exact yields _
      · exact Protocol.leads_raise _ _ (fun _ ran => ran)
  · rw [streamFailure]
    split
    · exact shut_yield_formatted _ phase closed
    · split
      · exact shut_yield_formatted _ phase closed
      · exact closed
  · refine leads_status context "idle" .idle _ ?_
    rintro _ rfl
    exact ⟨⟨by simp, by simp⟩, by simp⟩

def keptPost {α : Type} (post : Post Api RunPhase α) : Post Api RunPhase (α × InMemoryThreadStore) :=
  fun outcome => post (outcome.map Prod.fst)

theorem store_calls_stay (store : InMemoryThreadStore) (op : ServerOp) (called : (store.call platform op).isSome = true)
    (phase : RunPhase) (answer : Except ServerError op.Result) : RunPhase.next persistent phase op answer = phase := by
  cases op with
  | getThread threadId => cases phase <;> rfl
  | putThread thread => cases phase <;> rfl
  | getAssistantId threadId => cases phase <;> rfl
  | claimAssistant threadId assistantId => cases phase <;> rfl
  | deleteThread threadId => cases phase <;> rfl
  | _ => cases called

theorem other_calls_allowed (store : InMemoryThreadStore) (op : ServerOp) (foreign : store.call platform op = none)
    (phase : RunPhase) (allowed : RunPhase.allows threadId true phase op) :
    RunPhase.allows threadId false phase op := by
  cases op with
  | getThread threadId => cases foreign
  | putThread thread => cases foreign
  | getAssistantId threadId => cases foreign
  | claimAssistant threadId assistantId => cases foreign
  | deleteThread threadId => cases foreign
  | _ => exact allowed

theorem follows_kept_in {α : Type} (program : Coro Api α) (store : InMemoryThreadStore)
    (post exit : Post Api RunPhase α)
    (phase : RunPhase) (follows : (cleanupProtocol threadId persistent true).Follows consumer program post exit phase) :
    (cleanupProtocol threadId persistent false).Follows consumer (keptIn platform program store) (keptPost post)
      (keptPost exit) phase := by
  induction program generalizing consumer store phase with
  | ret value => exact follows
  | raise error => exact follows
  | await op resume ih =>
      obtain ⟨allowed, goes⟩ := follows
      rw [keptIn]
      cases called : store.call platform op with
      | none =>
          exact ⟨other_calls_allowed platform store op called phase allowed, fun answer => ih answer store _ _
            _ (goes answer)⟩
      | some outcome =>
          have stays : ∀ answer, (cleanupProtocol threadId persistent true).next phase op answer = phase :=
            store_calls_stay platform store op (by rw [called]; rfl) phase
          refine ⟨trivial, fun waited => ?_⟩
          have waits : (cleanupProtocol threadId persistent false).next phase .suspend waited = phase :=
            by cases phase <;> rfl
          rw [waits]
          cases waited with
          | ok value => exact ih _ _ _ _ _ (stays outcome.2 ▸ goes outcome.2)
          | error error => exact ih _ _ _ _ _ (stays (.error error) ▸ goes (.error error))
  | yield item next closing nextIh closingIh =>
      exact consumer.mono item _ _ _ _ phase (fun reached => nextIh store post exit reached)
        (fun reached => closingIh store exit exit reached) follows
  | abandon left rest leftIh restIh =>
      intro lets
      obtain ⟨theirs, mine, splits, leaves, goes⟩ := follows lets
      refine ⟨theirs, mine, splits, Protocol.follows_void _ _ theirs ?_, restIh store post exit mine goes⟩
      exact leftIh store _ _ theirs leaves

theorem leads_void {α : Type} (program : Coro Api α) {pre mid : RunPhase → Prop}
    (leads : (cleanupProtocol threadId persistent own).Leads consumer pre program mid shut) :
    (cleanupProtocol threadId persistent own).Leads consumer pre program.void mid shut := by
  intro phase held
  refine Protocol.follows_handle _ _ _ _ _ _ _ ?_
  refine Protocol.follows_mono _ _ _ _ _ _ _ _ (fun outcome reached arrived => ?_) (fun outcome reached closed => ?_)
    (leads phase held)
  · cases outcome <;> exact arrived
  · cases outcome with
    | ok value => exact closed.elim
    | error error => exact closed

theorem leads_kept_in {α : Type} (program : Coro Api α) (store : InMemoryThreadStore) (pre mid : RunPhase → Prop)
    (leads : (cleanupProtocol threadId persistent true).Leads consumer pre program mid shut) :
    (cleanupProtocol threadId persistent false).Leads consumer pre (keptIn platform program store) mid shut := by
  intro phase held
  refine Protocol.follows_mono _ _ _ _ _ _ _ _ (fun outcome reached arrived => arrived)
    (fun outcome reached closed => ?_) (follows_kept_in platform program store _ _ phase (leads phase held))
  cases outcome <;> exact closed

def Spent (persistent : Bool) (phase : RunPhase) : Prop :=
  phase.Begun ∧ phase ≠ .live ∧ (persistent = true → phase ≠ .after)

theorem leads_delete_generated (config : ServerConfig) (persists : config.checkpointer.isSome = persistent)
    (deletes : ∀ saver, config.checkpointer = some saver → saver.deletesThreads = true) (pre : RunPhase → Prop)
    (idle : ∀ phase, pre phase → phase.Begun ∧ phase ≠ .live) :
    (cleanupProtocol threadId persistent own).Leads consumer pre (deleteGenerated config threadId)
    (Spent persistent) shut := by
  have cleans : Spent persistent .clean := ⟨⟨by simp, by simp⟩, by simp, by simp⟩
  intro phase held
  obtain ⟨begun, quiet⟩ := idle phase held
  rw [deleteGenerated]
  split
  · rename_i absent
    refine ⟨begun, quiet, fun keeps => ?_⟩
    rw [← persists, absent] at keeps
    cases keeps
  · rename_i saver present
    rw [if_pos (deletes saver present)]
    have deleted : ∀ answer, (cleanupProtocol threadId persistent own).next phase (.deleteCheckpoints threadId)
      answer = .clean := by
      intro answer
      cases phase
      case live => exact absurd rfl quiet
      all_goals rfl
    refine ⟨⟨rfl, quiet, begun.2⟩, fun answer => ?_⟩
    rw [deleted answer]
    have caught : ∀ error : ServerError, (cleanupProtocol threadId persistent own).Follows consumer
        (if error.isException = true then pure () else raise error : Coro Api Unit) (fun _ => Spent persistent)
          (closedWith shut)
        .clean := by
      intro error
      split
      · exact cleans
      · exact cleans
    cases answer with
    | error error => exact caught error
    | ok value =>
        refine ⟨trivial, fun waited => ?_⟩
        cases waited with
        | ok value => exact cleans
        | error error => exact caught error

theorem ran_or_shut_idle (persistent : Bool) (phase : RunPhase) (beyond : Ran persistent phase ∨ phase = .after ∨
    phase = .clean) :
    phase.Begun ∧ phase ≠ .live := by
  rcases beyond with ran | rfl | rfl
  · exact ran_idle phase ran
  · exact ⟨⟨by simp, by simp⟩, by simp⟩
  · exact ⟨⟨by simp, by simp⟩, by simp⟩

theorem leads_delete_stateless_checkpoints (config : ServerConfig) (generator : Coro Api Unit)
    (persists : config.checkpointer.isSome = persistent)
    (deletes : ∀ saver, config.checkpointer = some saver → saver.deletesThreads = true)
    (relays : Relays outerShare consumer)
    (streams : ∀ consumer : Consumer Api RunPhase, Relays innerShare consumer →
      (cleanupProtocol threadId persistent own).Leads consumer (fun phase => phase = .before) generator (Ran persistent)
        (fun phase => phase = .clean)) :
    (cleanupProtocol threadId persistent own).Leads consumer (fun phase => phase = .before)
      (deleteStatelessCheckpoints config generator threadId) (Spent persistent) (Spent persistent) := by
  refine Protocol.leads_finally _ _ _ (fun phase => phase = .after ∨ phase = .clean) ?_
    (leads_delete_generated config persists deletes (Ran persistent) ran_idle)
    (leads_delete_generated config persists deletes _ (fun phase beyond => ran_or_shut_idle persistent phase
      (Or.inr beyond)))
  refine Protocol.leads_for_each _ _ _ (fun phase => phase = .clean) (streams _
    (relays_pass_on outerShare innerShare outerShare _ splits_inner relays (fun phase => ?_))) ?_
  · cases phase
    case after => exact Or.inl rfl
    all_goals exact Or.inr rfl
  · rintro _ rfl
    exact ⟨by simp, by simp⟩

theorem spent_share (phase : RunPhase) (spent : Spent persistent phase) : Spent persistent (outerShare phase) := by
  obtain ⟨begun, quiet, cleaned⟩ := spent
  cases phase
  case after => exact ⟨begun, by simp [outerShare], cleaned⟩
  all_goals exact ⟨⟨by simp [outerShare], by simp [outerShare]⟩, by simp [outerShare], by simp [outerShare]⟩

theorem leads_release (lease : RunLease) :
    (cleanupProtocol threadId persistent own).Leads consumer (Spent persistent) (perform (.release lease))
    (Spent persistent) shut := by
  refine Protocol.leads_perform _ _ (fun phase spent => ?_) (fun phase answer spent => ?_)
  · obtain ⟨begun, quiet, _⟩ := spent
    cases phase
    case fresh => exact absurd rfl begun.1
    case stray => exact absurd rfl begun.2
    case live => exact absurd rfl quiet
    case before => exact Or.inl rfl
    case after => exact Or.inr (Or.inl rfl)
    case clean => exact Or.inr (Or.inr rfl)
  · have cleans : Spent persistent .clean := ⟨⟨by simp, by simp⟩, by simp, by simp⟩
    obtain ⟨begun, quiet, cleaned⟩ := spent
    cases phase
    case fresh => exact absurd rfl begun.1
    case stray => exact absurd rfl begun.2
    case live => exact absurd rfl quiet
    case before => exact cleans
    case after => exact ⟨begun, quiet, cleaned⟩
    case clean => exact ⟨begun, quiet, cleaned⟩

theorem leads_run_with_lease (config : ServerConfig) (generator : Coro Api Unit) (lease : RunLease)
    (relays : Relays outerShare consumer)
    (streams : ∀ consumer : Consumer Api RunPhase, Relays outerShare consumer →
      (cleanupProtocol threadId persistent own).Leads consumer (fun phase => phase = .before) generator
      (Spent persistent) (Spent persistent)) :
    (cleanupProtocol threadId persistent own).Leads consumer (fun phase => phase = .before)
      (runWithLease platform config generator lease) (Spent persistent) (Spent persistent) := by
  have cleans : Spent persistent .clean := ⟨⟨by simp, by simp⟩, by simp, by simp⟩
  have splits : ∀ phase, RunPhase.Splits (outerShare phase) (outerShare phase) .clean := by
    intro phase
    have split := splits_outer (outerShare phase) (share_runs phase)
    rwa [outer_share_share] at split
  have beyond : ∀ phase, Spent persistent phase → (cleanupProtocol threadId persistent own).ends phase :=
    fun phase spent => ⟨spent.2.1, spent.2.2⟩
  have passed : (cleanupProtocol threadId persistent own).Leads consumer (fun phase => phase = .before)
      (passOn (passOn generator)) (Spent persistent) (Spent persistent) := by
    refine Protocol.leads_for_each _ _ _ (Spent persistent) (Protocol.leads_for_each _ _ _ (Spent persistent)
      (streams _ ?_) beyond) beyond
    refine relays_pass_on outerShare outerShare (fun _ => .clean) _ splits ?_ (fun _ => cleans)
    exact relays_pass_on outerShare outerShare (fun _ => .clean) _ splits relays (fun _ => cleans)
  have timed : (cleanupProtocol threadId persistent own).Leads consumer (fun phase => phase = .before)
      (withTimeout config.runTimeoutSeconds (passOn (passOn generator))) (Spent persistent) (Spent persistent) := by
    cases config.runTimeoutSeconds with
    | none => exact passed
    | some seconds =>
      refine Protocol.leads_catch _ _ _ passed (fun _ spent => spent) (fun error => ?_) (fun error phase closed => ?_)
      · split
        · exact Protocol.leads_raise _ _ (fun _ spent => spent)
        · exact Protocol.leads_raise _ _ (fun _ spent => spent)
      · split
        · exact closed
        · exact closed
  refine Protocol.leads_finally _ _ _ (Spent persistent) (Protocol.leads_catch _ _ _ timed (fun _ spent => spent)
    (fun error => ?_) (fun error phase closed => ?_)) (leads_release lease) (leads_release lease)
  · split
    · exact leads_yield_formatted _ outerShare relays _ (fun phase spent => spent.1)
        (fun phase spent => spent_share phase spent)
    · exact Protocol.leads_raise _ _ (fun _ spent => spent)
  · split
    · exact shut_yield_formatted _ phase closed
    · exact closed

theorem leads_respond (body : Coro Api Unit) (lease : RunLease)
    (streams : ∀ consumer : Consumer Api RunPhase, Relays outerShare consumer →
      (cleanupProtocol threadId persistent own).Leads consumer (fun phase => phase = .before) body (Spent persistent)
        (Spent persistent)) :
    (cleanupProtocol threadId persistent own).Leads .anything (fun phase => phase = .before)
      (respond platform body (perform (.release lease))) (Spent persistent) (fun _ => False) := by
  have stays : ∀ message phase answer, (cleanupProtocol threadId persistent own).next phase (.send message)
    answer = phase := by
    intro message phase answer
    cases phase <;> rfl
  have starts : ∀ phase : RunPhase, phase = .before → Spent persistent phase := by
    rintro _ rfl
    exact ⟨⟨by simp, by simp⟩, by simp, by simp⟩
  have sends : ∀ message (pre : RunPhase → Prop), (cleanupProtocol threadId persistent own).Leads .anything pre
      (perform (.send message)) pre (fun _ => False) := by
    intro message pre
    refine Protocol.leads_perform _ _ (fun _ _ => trivial) (fun phase answer held => ?_)
    rw [stays]
    exact held
  have sent : (cleanupProtocol threadId persistent own).Leads .anything (fun phase => phase = .before)
      (do perform (.send .start)
          body.forEach sendItem
          perform (.send .finish) : Coro Api Unit) (Spent persistent) (fun _ => False) := by
    refine Protocol.leads_bind _ _ _ (sends _ _) (fun _ => ?_) starts
    refine Protocol.leads_bind _ _ _ ?_ (fun _ => sends _ _) (fun _ spent => spent)
    refine Protocol.leads_for_each _ _ _ (Spent persistent) (streams _ ?_) (fun phase spent => ⟨spent.2.1, spent.2.2⟩)
    intro item phase more closed begun goes closes
    cases item with
    | raw item => exact goes
    | event text =>
        refine ⟨trivial, fun answer => ?_⟩
        rw [stays]
        cases answer with
        | ok value => exact goes
        | error error =>
            intro lets
            exact ⟨outerShare phase, .clean, splits_outer phase begun.2, closes lets,
              ⟨⟨by simp, by simp⟩, by simp, by simp⟩⟩
  refine Protocol.leads_bind _ _ _ ?_ (fun _ => leads_release lease) (fun _ spent => spent)
  refine Protocol.leads_catch _ _ _ sent (fun _ spent => spent) (fun error => ?_) (fun _ _ closed => closed.elim)
  · split
    · exact Protocol.leads_ret _ _ (fun _ spent => spent)
    · exact Protocol.leads_raise _ _ (fun _ spent => spent)

theorem leads_claim_generated (config : ServerConfig) (context : RequestContext) (generated assistantId : String) :
    (cleanupProtocol threadId persistent true).Leads consumer (fun phase => phase = .fresh)
      (claimGenerated platform config context generated assistantId) (fun phase => phase = .fresh) shut := by
  refine Protocol.leads_uses _ _ Claims (fun op phase claims start => ?_) (Coro.uses_bind (I := Api) Claims _ _
    (claims_of_plain _ (get_or_create_thread_uses platform config context _ none))
    (fun _ => claim_thread_assistant_uses config generated assistantId))
  subst start
  cases claims with
  | plain op plain => cases plain <;> exact ⟨(by first | rfl | trivial), fun answer => rfl⟩
  | claimAssistant threadId assistantId => exact ⟨rfl, fun answer => rfl⟩

theorem leads_stream_run_stateless (config : ServerConfig) (context : RequestContext) (request : RunCreate)
    (deletes : ∀ saver, config.checkpointer = some saver → saver.deletesThreads = true) :
    (cleanupProtocol context.freshThreadId config.checkpointer.isSome false).Follows .anything
      (streamRunStateless platform config context request)
      (fun _ => (cleanupProtocol context.freshThreadId config.checkpointer.isSome false).ends)
      (fun _ => (cleanupProtocol context.freshThreadId config.checkpointer.isSome false).ends) .fresh := by
  have unbegun : (cleanupProtocol context.freshThreadId config.checkpointer.isSome false).ends .fresh :=
    ⟨by simp, by simp⟩
  rw [streamRunStateless]
  cases found : getAssistantConfig config request.assistantId with
  | error error => exact unbegun
  | ok assistant =>
      have graph := graph_of_assistant config request.assistantId assistant found
      show (cleanupProtocol context.freshThreadId config.checkpointer.isSome false).Follows .anything
        (if request.ifNotExists = some .reject then _ else _) _ _ .fresh
      split
      · exact unbegun
      · have claims : (cleanupProtocol context.freshThreadId config.checkpointer.isSome false).Leads .anything
            (fun phase => phase = .fresh) (keptIn platform
              (claimGenerated platform config context context.freshThreadId assistant.assistantId) ephemeralStore)
            (fun phase => phase = .fresh) (fun _ => False) :=
          leads_kept_in platform _ ephemeralStore _ _
            (leads_claim_generated platform config context context.freshThreadId assistant.assistantId)
        refine Protocol.follows_bind _ _ _ _ _ _ _ ?_
        refine Protocol.follows_mono _ _ _ _ _ _ _ _ (fun outcome reached arrived => ?_)
          (fun outcome reached closed => ?_) (claims .fresh rfl)
        · cases outcome with
          | error error =>
              rw [show reached = .fresh from arrived]
              exact unbegun
          | ok claimed =>
              rw [show reached = .fresh from arrived]
              refine ⟨rfl, fun answer => ?_⟩
              cases answer with
              | error error => cases error <;> exact unbegun
              | ok lease =>
                  show (cleanupProtocol context.freshThreadId config.checkpointer.isSome false).Follows .anything
                    (attempt (config.getGraphRuntime assistant.assistantId) >>= _) _ _ .before
                  rw [graph]
                  refine Protocol.follows_mono _ _ _ _ _ _ _ _ (fun outcome reached spent => ?_)
                    (fun outcome reached closed => ?_)
                    (leads_respond platform _ lease (fun consumer relays => ?_) .before rfl)
                  · exact ⟨spent.2.1, spent.2.2⟩
                  · cases outcome <;> exact closed.elim
                  · refine leads_run_with_lease platform config _ lease relays (fun consumer relays => ?_)
                    refine leads_delete_stateless_checkpoints config _ rfl deletes relays (fun consumer relays => ?_)
                    refine leads_void _ ?_
                    exact leads_kept_in platform _ claimed.2 _ _
                      (leads_stream_graph_response platform context assistant _ assistant.graph _ _ _ relays)
        · cases outcome <;> exact closed.elim

end Programs

end LangGraphServer
