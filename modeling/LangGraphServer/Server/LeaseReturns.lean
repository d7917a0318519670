import LangGraphServer.Lib.Duty
import LangGraphServer.Server.Refusals
import LangGraphServer.Server.Stateless

set_option autoImplicit false

namespace LangGraphServer

open Collections Coroutine

def leaseGranted : (op : ServerOp) → Except ServerError op.Result → Option RunLease
  | .acquire _ _, .ok lease => some lease
  | _, _ => none

def GivesBack (lease : RunLease) (op : ServerOp) : Prop := op = .release lease

-- A failure to send the start of the response is one that the response absorbs.
def StartAbsorbed (platform : Platform) : (op : ServerOp) → Except ServerError op.Result → Prop
  | .send .start, .error error => platform.absorbs error = true
  | _, _ => True

namespace ServerState

def leaseOf (state : ServerState) (request : Nat) : Option RunLease := (state.progress.get? request).map Progress.lease

theorem update_progress_lease (state : ServerState) (request query : Nat) (change : Progress → Progress)
    (keeps : ∀ progress, (change progress).lease = progress.lease) :
    (state.updateProgress request change).leaseOf query = state.leaseOf query ∧
      (state.updateProgress request change).coordinator = state.coordinator := by
  rw [updateProgress]
  split
  · rename_i progress found
    refine ⟨?_, rfl⟩
    rw [leaseOf, leaseOf, Dict.get_set]
    by_cases same : query = request
    · rw [if_pos same, same, found, Option.map_some, Option.map_some, keeps]
    · rw [if_neg same]
  · exact ⟨rfl, rfl⟩

theorem perform_leases (platform : Platform) (persistent : Bool) (id : TaskId) (op : ServerOp) (state : ServerState)
    (acquires : ∀ threadId mutation, op ≠ .acquire threadId mutation) (releases : ∀ lease, op ≠ .release lease)
    (query : Nat) :
    (state.perform platform persistent id op).1.leaseOf query = state.leaseOf query ∧
      (state.perform platform persistent id op).1.coordinator = state.coordinator := by
  cases op with
  | acquire threadId mutation => exact absurd rfl (acquires threadId mutation)
  | release lease => exact absurd rfl (releases lease)
  | aput config item =>
      obtain ⟨_, _, coordinator, progress⟩ := state.aput_frame platform persistent id config item
      exact ⟨by rw [leaseOf, leaseOf, progress], coordinator⟩
  | begin graphOf =>
      cases found : state.progress.get? id.request with
      | none =>
          simp only [perform, found]
          exact ⟨trivial, trivial⟩
      | some progress =>
          rw [state.perform_begin_found platform persistent id graphOf progress found]
          refine ⟨?_, rfl⟩
          rw [leaseOf, leaseOf, Dict.get_set]
          by_cases same : query = id.request
          · rw [if_pos same, same, found]
            rfl
          · rw [if_neg same]
  | finish => exact state.update_progress_lease id.request query _ (fun _ => rfl)
  | getThread threadId => exact ⟨rfl, rfl⟩
  | putThread thread => exact ⟨rfl, rfl⟩
  | getAssistantId threadId => exact ⟨rfl, rfl⟩
  | claimAssistant threadId assistantId => exact ⟨rfl, rfl⟩
  | deleteThread threadId => exact ⟨rfl, rfl⟩
  | agetTuple lookup => exact ⟨rfl, rfl⟩
  | alist lookup filter before limit => exact ⟨rfl, rfl⟩
  | deleteCheckpoints threadId => exact ⟨rfl, rfl⟩
  | send message => exact ⟨rfl, rfl⟩
  | suspend => exact ⟨rfl, rfl⟩
  | note entry => exact ⟨rfl, rfl⟩

theorem struck_leases (id : TaskId) (op : ServerOp) (error : ServerError) (state : ServerState) (query : Nat) :
    (state.struck id op error).leaseOf query = state.leaseOf query ∧
      (state.struck id op error).coordinator = state.coordinator := by
  cases op with
  | send message => exact state.update_progress_lease id.request query _ (fun _ => rfl)
  | release lease => exact state.update_progress_lease id.request query _ (fun _ => rfl)
  | _ => exact ⟨rfl, rfl⟩

end ServerState

structure TokensIssued (state : ServerState) : Prop where
  issued : ∀ request lease, state.leaseOf request = some lease → lease.token < state.coordinator.nextToken

def Owes (request : Nat) (lease : RunLease) (state : ServerState) : Prop :=
  state.leaseOf request = some lease ∧ state.holds lease = true

theorem owes_acquired (platform : Platform) (persistent : Bool) (id : TaskId) (threadId : String) (mutation : Mutation)
    (state : ServerState) (inv : TokensIssued state) :
    TokensIssued (state.perform platform persistent id (.acquire threadId mutation)).1 ∧
    ∀ owner debt, Owes owner debt (state.perform platform persistent id (.acquire threadId mutation)).1 →
      (owner = id.request ∧
        leaseGranted (.acquire threadId mutation)
          (state.perform platform persistent id (.acquire threadId mutation)).2 = some debt) ∨
      Owes owner debt state := by
  simp only [ServerState.perform]
  rcases CoordinationState.acquire_cases state.coordinator threadId with
    ⟨_, message, busy⟩ | ⟨_, _, message, full⟩ | ⟨_, _, granted⟩
  · rw [busy]
    exact ⟨inv, fun owner debt owes => Or.inr owes⟩
  · rw [full]
    exact ⟨inv, fun owner debt owes => Or.inr owes⟩
  · rw [granted]
    have leases : ∀ request lease, ((state.progress.set id.request
        ⟨⟨threadId, state.coordinator.nextToken⟩, mutation, false, false⟩).get? request).map
          Progress.lease = some lease →
        (request = id.request ∧ (⟨threadId, state.coordinator.nextToken⟩ : RunLease) = lease) ∨
          (request ≠ id.request ∧ state.leaseOf request = some lease) := by
      intro request lease found
      rw [Dict.get_set] at found
      by_cases same : request = id.request
      · rw [if_pos same, Option.map_some, Option.some.injEq] at found
        exact Or.inl ⟨same, found⟩
      · rw [if_neg same] at found
        exact Or.inr ⟨same, found⟩
    refine ⟨⟨fun request lease found => ?_⟩, fun owner debt owes => ?_⟩
    · rcases leases request lease found with ⟨_, own⟩ | ⟨_, earlier⟩
      · rw [← own]
        exact Nat.lt_succ_self _
      · exact Nat.lt_succ_of_lt (inv.issued request lease earlier)
    · rcases leases owner debt owes.1 with ⟨mine, own⟩ | ⟨_, earlier⟩
      · rw [← own]
        exact Or.inl ⟨mine, rfl⟩
      · refine Or.inr ⟨earlier, ?_⟩
        have held := of_decide_eq_true owes.2
        rw [Dict.get_set] at held
        by_cases here : debt.threadId = threadId
        · rw [if_pos here, Option.some.injEq] at held
          have older := inv.issued owner debt earlier
          rw [← held] at older
          exact absurd older (Nat.lt_irrefl _)
        · rw [if_neg here] at held
          exact decide_eq_true held

theorem owes_released (platform : Platform) (persistent : Bool) (id : TaskId) (lease : RunLease)
    (state : ServerState) (inv : TokensIssued state) :
    TokensIssued (state.perform platform persistent id (.release lease)).1 ∧
    ∀ owner debt, Owes owner debt (state.perform platform persistent id (.release lease)).1 →
      Owes owner debt state ∧ ¬ GivesBack debt (.release lease) := by
  refine ⟨⟨fun request other found => ?_⟩, fun owner debt owes => ?_⟩
  · show other.token < (state.coordinator.release lease).nextToken
    rw [(CoordinationState.release_bounds state.coordinator lease).1]
    exact inv.issued request other found
  · have held := (CoordinationState.release_removes state.coordinator lease debt.threadId debt.token).mp
      (of_decide_eq_true owes.2)
    refine ⟨⟨owes.1, decide_eq_true held.1⟩, fun gives => held.2 ?_⟩
    cases gives
    rfl

theorem owes_elsewhere (platform : Platform) (persistent : Bool) (id : TaskId) (op : ServerOp) (state : ServerState)
    (acquires : ∀ threadId mutation, op ≠ .acquire threadId mutation) (releases : ∀ lease, op ≠ .release lease)
    (inv : TokensIssued state) :
    TokensIssued (state.perform platform persistent id op).1 ∧
    ∀ owner debt, Owes owner debt (state.perform platform persistent id op).1 → Owes owner debt state ∧
      ¬ GivesBack debt op := by
  have same := state.perform_leases platform persistent id op acquires releases
  refine ⟨⟨fun request lease found => ?_⟩, fun owner debt owes =>
    ⟨⟨(same owner).1.symm.trans owes.1, ?_⟩, releases debt⟩⟩
  · rw [(same request).2]
    exact inv.issued request lease ((same request).1.symm.trans found)
  · have held := owes.2
    rw [ServerState.holds, (same owner).2] at held
    exact held

def Unleased (op : ServerOp) : Prop := ∀ threadId mutation, op ≠ .acquire threadId mutation

theorem unleased_free (op : ServerOp) (answer : Except ServerError op.Result) (unleased : Unleased op) :
    leaseGranted op answer = none := by
  cases op with
  | acquire threadId mutation => exact absurd rfl (unleased threadId mutation)
  | _ => rfl

theorem leftover_uses (op : ServerOp) : ∀ left ∈ leftover op, left.Uses Unleased := by
  intro left listed
  cases op with
  | deleteCheckpoints threadId =>
      rw [List.mem_singleton.mp listed]
      exact ⟨fun _ _ same => (by cases same), fun _ => ⟨fun _ _ same => (by cases same), fun _ => trivial⟩⟩
  | aput config item =>
      rw [List.mem_singleton.mp listed]
      exact ⟨fun _ _ same => (by cases same), fun _ => trivial⟩
  | release lease =>
      rw [List.mem_singleton.mp listed]
      exact ⟨fun _ _ same => (by cases same), fun _ => trivial⟩
  | _ => cases listed

def leaseLedger (platform : Platform) (persistent : Bool) : Ledger (serverMachine platform persistent)
    Nat RunLease where
  root := TaskId.request
  incurs := leaseGranted
  pays := GivesBack
  considered := StartAbsorbed platform
  owed := Owes
  inv := TokensIssued
  root_helper := fun _ => rfl
  inv_perform := fun id op state inv => by
    cases op with
    | acquire threadId mutation => exact (owes_acquired platform persistent id threadId mutation state inv).1
    | release lease => exact (owes_released platform persistent id lease state inv).1
    | _ =>
        exact (owes_elsewhere platform persistent id _ state (fun _ _ same => by cases same)
          (fun _ same => by cases same) inv).1
  inv_struck := fun id op error state inv => by
    refine ⟨fun request lease found => ?_⟩
    have same := state.struck_leases id op error request
    have earlier : state.leaseOf request = some lease := same.1.symm.trans found
    show lease.token < (state.struck id op error).coordinator.nextToken
    rw [same.2]
    exact inv.issued request lease earlier
  answers := fun id op state => by
    cases op with
    | send message => cases message <;> trivial
    | _ => trivial
  performed := fun id op state owner debt inv owes => by
    cases op with
    | acquire threadId mutation =>
        rcases (owes_acquired platform persistent id threadId mutation state inv).2 owner debt owes with own | before
        · exact Or.inl own
        · exact Or.inr ⟨before, fun gives => by cases gives⟩
    | release lease => exact Or.inr ((owes_released platform persistent id lease state inv).2 owner debt owes)
    | _ =>
        exact Or.inr ((owes_elsewhere platform persistent id _ state (fun _ _ same => by cases same)
          (fun _ same => by cases same) inv).2 owner debt owes)
  struck := fun id op error state owner debt owes => by
    have same := state.struck_leases id op error owner
    refine ⟨same.1.symm.trans owes.1, ?_⟩
    have held : (state.struck id op error).holds debt = true := owes.2
    rw [ServerState.holds, same.2] at held
    exact held
  leftover_pays := fun id op debt gives => by
    subst gives
    exact ⟨_, List.mem_singleton_self _, Or.inl rfl⟩
  leftover_accountable := fun id op left listed =>
    Coro.accountable_uses Unleased unleased_free left (leftover_uses op left listed)

section Programs

variable (platform : Platform) (config : ServerConfig) (context : RequestContext)

abbrev ReturnsLeases {α : Type} (program : Coro Api α) : Prop :=
  program.Accountable leaseGranted GivesBack (StartAbsorbed platform)

abbrev Returns {α : Type} (lease : RunLease) (program : Coro Api α) : Prop :=
  program.Fulfils (GivesBack lease) (StartAbsorbed platform)

theorem unleased_returns {α : Type} (program : Coro Api α) (uses : program.Uses Unleased) :
    ReturnsLeases platform program :=
  Coro.accountable_uses Unleased unleased_free program uses

theorem plain_unleased (op : ServerOp) (plain : Plain op) : Unleased op := by
  cases plain <;> exact fun _ _ same => by cases same

theorem plain_returns {α : Type} (program : Coro Api α) (uses : program.Uses Plain) : ReturnsLeases platform program :=
  unleased_returns platform program (Coro.uses_mono (I := Api) Plain Unleased plain_unleased program uses)

theorem perform_returns (op : ServerOp) (unleased : Unleased op) : ReturnsLeases platform (perform op) :=
  Coro.accountable_perform (I := Api) op (fun answer => unleased_free op answer unleased)

theorem claims_returns {α : Type} (program : Coro Api α) (uses : program.Uses Claims) :
    ReturnsLeases platform program := by
  refine unleased_returns platform program
    (Coro.uses_mono (I := Api) Claims Unleased (fun op claims => ?_) program uses)
  cases claims with
  | plain op plain => exact plain_unleased op plain
  | claimAssistant threadId assistantId => exact fun _ _ same => by cases same

theorem awaited_returns (runnableConfig : RunnableConfig) (call : GraphCall) :
    ReturnsLeases platform (call.awaited runnableConfig) := by
  refine unleased_returns platform _ (Coro.uses_mono (I := Api) _ _ (fun op graph => ?_) _
    (awaited_uses runnableConfig (fun _ => True) call call.writes_any))
  cases graph <;> exact fun _ _ same => by cases same

theorem iterated_returns (runnableConfig : RunnableConfig) (stream : GraphStream) :
    ReturnsLeases platform (stream.iterated runnableConfig) := by
  induction stream with
  | done => trivial
  | fail error => trivial
  | suspend resume ih => exact fun answer _ => ⟨fun _ incurred => (by cases incurred), ih answer⟩
  | write item resume ih => exact fun answer _ => ⟨fun _ incurred => (by cases incurred), ih answer⟩
  | emit item next closing ih =>
      refine ⟨ih, Coro.accountable_handle _ _ (awaited_returns platform runnableConfig closing) (fun outcome => ?_)⟩
      cases outcome <;> trivial

theorem mutating_returns {α : Type} (graphOf : Option String) (program : Coro Api α)
    (returns : ReturnsLeases platform program) : ReturnsLeases platform (mutating graphOf program) :=
  Coro.accountable_bind _ _ (perform_returns platform _ (fun _ _ same => by cases same)) (fun _ =>
    Coro.accountable_finally _ _ returns (perform_returns platform _ (fun _ _ same => by cases same)))

theorem yield_formatted_returns (formatted : Except ServerError String) :
    ReturnsLeases platform (yieldFormatted formatted) := by
  cases formatted with
  | ok text => exact ⟨trivial, trivial⟩
  | error error => trivial

theorem pass_on_returns (generator : Coro Api Unit) (returns : ReturnsLeases platform generator) :
    ReturnsLeases platform (passOn generator) :=
  Coro.accountable_for_each _ _ returns (fun _ => ⟨trivial, trivial⟩)

theorem with_timeout_returns {α : Type} (seconds : Option Rat) (program : Coro Api α)
    (returns : ReturnsLeases platform program) : ReturnsLeases platform (withTimeout seconds program) := by
  cases seconds with
  | none => exact returns
  | some seconds =>
      refine Coro.accountable_catch _ _ returns (fun error => ?_)
      split <;> trivial

theorem stream_graph_response_returns (assistant : AssistantConfig) (inputData : Metadata) (threadId : String)
    (graph : GraphRuntime) (modes : List String) (requestConfig : Option Config) (checkpointId : Option String) :
    ReturnsLeases platform
      (streamGraphResponse platform context assistant inputData threadId graph modes requestConfig checkpointId) := by
  have status := fun status moment =>
    plain_returns platform _ (set_thread_status_uses context threadId status moment)
  refine Coro.accountable_bind _ _ (yield_formatted_returns platform _) (fun _ => ?_)
  refine Coro.accountable_bind _ _ (status "busy" .busy) (fun _ => ?_)
  refine Coro.accountable_finally _ _ (Coro.accountable_catch _ _ ?_ (fun error => ?_)) (status "idle" .idle)
  · refine Coro.accountable_bind _ _ (Coro.accountable_of_except _) (fun payload => ?_)
    refine Coro.accountable_bind _ _ (pass_on_returns platform _ ?_) (fun _ => yield_formatted_returns platform _)
    refine Coro.accountable_for_each _ _ (mutating_returns platform _ _ (iterated_returns platform _ _))
      (fun item => ?_)
    cases item with
    | event text => trivial
    | raw item =>
        rw [streamItem]
        split
        · exact ⟨trivial, trivial⟩
        · trivial
        · trivial
  · rw [streamFailure]
    split
    · exact yield_formatted_returns platform _
    · split
      · exact yield_formatted_returns platform _
      · trivial

theorem run_with_lease_returns (generator : Coro Api Unit) (lease : RunLease)
    (returns : ReturnsLeases platform generator) :
    Returns platform lease (runWithLease platform config generator lease) ∧
      ReturnsLeases platform (runWithLease platform config generator lease) := by
  have gives : Returns platform lease (perform (.release lease)) := Coro.fulfils_perform _ rfl
  have passed := pass_on_returns platform _ (pass_on_returns platform generator returns)
  refine ⟨Coro.fulfils_finally _ _ gives, Coro.accountable_finally _ _ ?_
    (perform_returns platform _ (fun _ _ same => by cases same))⟩
  refine Coro.accountable_catch _ _ (with_timeout_returns platform _ _ passed) (fun error => ?_)
  split
  · exact yield_formatted_returns platform _
  · trivial

theorem call_considered (store : InMemoryThreadStore) (op : ServerOp)
    (called : (store.call platform op).isSome = true) (answer : Except ServerError op.Result) :
    StartAbsorbed platform op answer := by
  cases op with
  | send message => cases called
  | _ => trivial

theorem kept_in_fulfils {α : Type} (lease : RunLease) (program : Coro Api α) (store : InMemoryThreadStore)
    (returns : Returns platform lease program) : Returns platform lease (keptIn platform program store) := by
  induction program generalizing store with
  | ret value => exact returns.elim
  | raise error => exact returns.elim
  | await op resume ih =>
      rw [keptIn]
      cases called : store.call platform op with
      | none =>
          rcases returns with now | later
          · exact Or.inl now
          · exact Or.inr (fun answer may => ih answer store (later answer may))
      | some outcome =>
          have may := call_considered platform store op (by rw [called]; rfl)
          rcases returns with now | later
          · cases now
            cases called
          · refine Or.inr (fun waited _ => ?_)
            cases waited with
            | ok value => exact ih _ _ (later _ (may _))
            | error error => exact ih _ _ (later _ (may _))
  | yield item next closing nextIh closingIh => exact ⟨nextIh store returns.1, closingIh store returns.2⟩
  | abandon left rest leftIh restIh =>
      rcases returns with leaves | goes
      · exact Or.inl (Coro.fulfils_handle _ _ (leftIh store leaves))
      · exact Or.inr (restIh store goes)

theorem kept_in_returns {α : Type} (program : Coro Api α) (store : InMemoryThreadStore)
    (returns : ReturnsLeases platform program) : ReturnsLeases platform (keptIn platform program store) := by
  induction program generalizing store with
  | ret value => trivial
  | raise error => trivial
  | await op resume ih =>
      rw [keptIn]
      cases called : store.call platform op with
      | none =>
          intro answer may
          obtain ⟨pays, further⟩ := returns answer may
          exact ⟨fun lease granted => kept_in_fulfils platform lease _ store (pays lease granted),
            ih answer store further⟩
      | some outcome =>
          have may := call_considered platform store op (by rw [called]; rfl)
          intro waited _
          refine ⟨fun lease granted => (by cases granted), ?_⟩
          cases waited with
          | ok value => exact ih _ _ (returns _ (may _)).2
          | error error => exact ih _ _ (returns _ (may _)).2
  | yield item next closing nextIh closingIh => exact ⟨nextIh store returns.1, closingIh store returns.2⟩
  | abandon left rest leftIh restIh =>
      exact ⟨Coro.accountable_void _ (leftIh store returns.1), restIh store returns.2⟩

theorem stateless_generator_returns (request : RunCreate) (assistant : AssistantConfig) (graph : GraphRuntime)
    (store : InMemoryThreadStore) :
    ReturnsLeases platform (statelessGenerator platform config context request assistant graph store) := by
  have streamed := stream_graph_response_returns platform context assistant (request.input.getD .empty)
    context.freshThreadId graph (resolveStreamModes request.streamMode assistant) request.config request.checkpointId
  refine Coro.accountable_finally _ _
    (pass_on_returns platform _ (Coro.accountable_void _ (kept_in_returns platform _ store streamed))) ?_
  rw [deleteGenerated]
  split
  · trivial
  · refine Coro.accountable_catch _ _ ?_ (fun error => ?_)
    · split
      · exact Coro.accountable_bind _ _ (perform_returns platform _ (fun _ _ same => by cases same))
          (fun _ => perform_returns platform _ (fun _ _ same => by cases same))
      · trivial
    · split <;> trivial

-- A response gives the lease back in its generator, or after it failed to start.
theorem respond_returns (body : Coro Api Unit) (lease : RunLease)
    (gives : Returns platform lease body) (returns : ReturnsLeases platform body) :
    Returns platform lease (respond platform body (perform (.release lease))) ∧
      ReturnsLeases platform (respond platform body (perform (.release lease))) := by
  have release : ReturnsLeases platform (perform (.release lease)) :=
    perform_returns platform _ (fun _ _ same => by cases same)
  have sends : ∀ message, ReturnsLeases platform (perform (.send message)) := fun message =>
    perform_returns platform _ (fun _ _ same => by cases same)
  have each : ∀ item, ReturnsLeases platform (sendItem item) := fun item => by
    cases item with
    | raw item => trivial
    | event text => exact sends _
  refine ⟨Or.inr (fun answer may => ?_), ?_⟩
  · cases answer with
    | ok value =>
        show Returns platform lease (Coro.handle (Coro.handle (Coro.handle (body.forEach sendItem) _) _) _)
        exact Coro.fulfils_handle _ _ (Coro.fulfils_handle _ _ (Coro.fulfils_handle _ _
          (Coro.fulfils_for_each body sendItem gives)))
    | error error =>
        have absorbed : platform.absorbs error = true := may
        show Returns platform lease (Coro.handle (if platform.absorbs error = true then pure () else raise error) _)
        rw [if_pos absorbed]
        exact Coro.fulfils_perform _ rfl
  · refine Coro.accountable_bind _ _ (Coro.accountable_catch _ _ ?_ (fun error => ?_)) (fun _ => release)
    · exact Coro.accountable_bind _ _ (sends _) (fun _ => Coro.accountable_bind _ _
        (Coro.accountable_for_each body sendItem returns each) (fun _ => sends _))
    · split <;> trivial

theorem acquired_returns {α : Type} (threadId : String) (mutation : Mutation)
    (handler : ServerError → Coro Api RunLease)
    (raises : ∀ error, ∃ response, handler error = raise response) (next : RunLease → Coro Api α)
    (gives : ∀ lease, Returns platform lease (next lease) ∧ ReturnsLeases platform (next lease)) :
    ReturnsLeases platform ((perform (.acquire threadId mutation)).tryCatch handler >>= next) := by
  intro answer _
  cases answer with
  | ok lease =>
      refine ⟨fun granted same => ?_, (gives lease).2⟩
      cases same
      exact (gives lease).1
  | error error =>
      obtain ⟨response, raised⟩ := raises error
      refine ⟨fun granted same => (by cases same), ?_⟩
      show ReturnsLeases platform (Coro.handle (handler error) _)
      rw [raised]
      trivial

theorem acquire_run_lease_returns {α : Type} (threadId assistantId : String) (next : RunLease → Coro Api α)
    (gives : ∀ lease, Returns platform lease (next lease) ∧ ReturnsLeases platform (next lease)) :
    ReturnsLeases platform (acquireRunLease threadId assistantId >>= next) :=
  acquired_returns platform threadId (.run assistantId) _ (fun error => by cases error <;> exact ⟨_, rfl⟩) next gives

theorem acquire_mutation_lease_returns {α : Type} (threadId : String) (mutation : Mutation)
    (next : RunLease → Coro Api α)
    (gives : ∀ lease, Returns platform lease (next lease) ∧ ReturnsLeases platform (next lease)) :
    ReturnsLeases platform (acquireMutationLease threadId mutation >>= next) :=
  acquired_returns platform threadId mutation _ (fun error => by cases error <;> exact ⟨_, rfl⟩) next gives

theorem finally_returns {α β : Type} (lease : RunLease) (program : Coro Api α) (next : α → Coro Api β)
    (returns : ReturnsLeases platform program) (rest : ∀ value, ReturnsLeases platform (next value)) :
    Returns platform lease (program.tryFinally (perform (.release lease)) >>= next) ∧
      ReturnsLeases platform (program.tryFinally (perform (.release lease)) >>= next) :=
  ⟨Coro.fulfils_handle _ _ (Coro.fulfils_finally _ _ (Coro.fulfils_perform _ rfl)),
    Coro.accountable_bind _ _
      (Coro.accountable_finally _ _ returns (perform_returns platform _ (fun _ _ same => by cases same))) rest⟩

theorem run_admitted_returns (kind : RunKind) (threadId : String) (request : RunCreate) (assistant : AssistantConfig)
    (payload : Metadata) (lease : RunLease) (found : getAssistantConfig config request.assistantId = .ok assistant) :
    Returns platform lease (runAdmitted platform config context kind threadId request ⟨assistant, payload, lease⟩) ∧
      ReturnsLeases platform (runAdmitted platform config context kind threadId request
        ⟨assistant, payload, lease⟩) := by
  have graph := graph_of_assistant config request.assistantId assistant found
  cases kind with
  | stream =>
      obtain ⟨gives, returns⟩ := run_with_lease_returns platform config
        (streamGraphResponse platform context assistant (request.input.getD .empty) threadId assistant.graph
          (resolveStreamModes request.streamMode assistant) request.config request.checkpointId) lease
        (stream_graph_response_returns platform context assistant _ threadId assistant.graph _ request.config
          request.checkpointId)
      obtain ⟨givesAll, returnsAll⟩ := respond_returns platform _ lease gives returns
      rw [runAdmitted, graph]
      show Returns platform lease (streamResponse platform config context threadId request assistant
        assistant.graph lease >>= _) ∧
        ReturnsLeases platform (streamResponse platform config context threadId request assistant
          assistant.graph lease >>= _)
      exact ⟨Coro.fulfils_handle _ _ givesAll, Coro.accountable_bind _ _ returnsAll (fun _ => trivial)⟩
  | invoke =>
      refine finally_returns platform lease _ _ ?_ (fun _ => trivial)
      refine Coro.accountable_catch _ _ (with_timeout_returns platform _ _ ?_) (fun error => ?_)
      · refine Coro.accountable_bind _ _ (Coro.accountable_of_except _) (fun runtime => ?_)
        refine Coro.accountable_bind _ _ (Coro.accountable_bind _ _
          (mutating_returns platform _ _ (awaited_returns platform _ _)) (fun result => ?_)) (fun _ => trivial)
        split <;> trivial
      · split <;> trivial

theorem run_returns (kind : RunKind) (threadId : String) (request : RunCreate) :
    ReturnsLeases platform (serve platform config context (runRequest kind threadId request)) := by
  rw [serve_run_eq, admitRun]
  split
  · trivial
  · cases found : getAssistantConfig config request.assistantId with
    | error error => trivial
    | ok assistant =>
        show ReturnsLeases platform ((claimForRun platform config context threadId request assistant >>= _) >>= _)
        rw [bind_assoc]
        refine Coro.accountable_bind _ _
          (claims_returns platform _ (claim_for_run_uses platform config context threadId request assistant))
          (fun _ => ?_)
        rw [bind_assoc]
        refine Coro.accountable_bind _ _ (Coro.accountable_of_except _) (fun payload => ?_)
        rw [bind_assoc]
        refine acquire_run_lease_returns platform threadId assistant.assistantId _ (fun lease => ?_)
        exact run_admitted_returns platform config context kind threadId request assistant payload lease found

theorem update_under_lease_returns (threadId : String) (request : StateUpdate) :
    ReturnsLeases platform (updateUnderLease platform config context threadId request) := by
  refine Coro.accountable_bind _ _ (plain_returns platform _ (get_or_create_thread_uses platform config context _ none))
    (fun _ => ?_)
  refine Coro.accountable_bind _ _ (claims_returns platform _ (get_thread_assistant_id_uses config threadId))
    (fun owner => ?_)
  split
  · trivial
  · split
    · trivial
    · refine Coro.accountable_bind _ _ (Coro.accountable_of_except _) (fun graph => ?_)
      split
      · trivial
      · refine Coro.accountable_catch _ _ (with_timeout_returns platform _ _
          (mutating_returns platform _ _ (awaited_returns platform _ _))) (fun error => ?_)
        split <;> trivial

theorem update_state_returns (threadId : String) (request : StateUpdate) :
    ReturnsLeases platform (updateState platform config context threadId request) := by
  rw [updateState]
  split
  · trivial
  · refine Coro.accountable_bind _ _ (plain_returns platform _ (thread_exists_uses platform config context threadId))
      (fun exists_ => ?_)
    split
    · exact acquire_mutation_lease_returns platform threadId .update _ (fun lease => finally_returns platform lease _ _
        (update_under_lease_returns platform config context threadId request) (fun _ => Coro.accountable_of_except _))
    · trivial

theorem delete_under_lease_returns (threadId : String) : ReturnsLeases platform (deleteUnderLease config threadId) := by
  refine Coro.accountable_bind _ _ (Coro.accountable_catch _ _ (with_timeout_returns platform _ _ ?_) (fun error => ?_))
    (fun _ => perform_returns platform _ (fun _ _ same => by cases same))
  · rw [adeleteThread]
    split
    · trivial
    · split
      · exact Coro.accountable_bind _ _ (perform_returns platform _ (fun _ _ same => by cases same)) (fun _ =>
          Coro.accountable_bind _ _ (perform_returns platform _ (fun _ _ same => by cases same)) (fun _ =>
            Coro.accountable_bind _ _ (perform_returns platform _ (fun _ _ same => by cases same)) (fun _ =>
              perform_returns platform _ (fun _ _ same => by cases same))))
      · trivial
  · split <;> trivial

theorem delete_thread_returns (threadId : String) : ReturnsLeases platform (deleteThread config threadId) :=
  acquire_mutation_lease_returns platform threadId .deletion _ (fun lease =>
    ⟨Coro.fulfils_finally _ _ (Coro.fulfils_perform _ rfl),
      Coro.accountable_finally _ _ (delete_under_lease_returns platform config threadId)
        (perform_returns platform _ (fun _ _ same => by cases same))⟩)

theorem serve_returns (request : Request) : ReturnsLeases platform (serve platform config context request) := by
  cases request with
  | createRun threadId body => exact run_returns platform config context .invoke threadId body
  | streamRun threadId body => exact run_returns platform config context .stream threadId body
  | createThread body =>
      exact Coro.accountable_bind _ _ (plain_returns platform _ (create_thread_uses platform config context body))
        (fun _ => trivial)
  | getThread threadId =>
      exact Coro.accountable_bind _ _ (plain_returns platform _ (get_thread_uses platform config context threadId))
        (fun _ => trivial)
  | getState threadId =>
      exact Coro.accountable_bind _ _ (plain_returns platform _ (get_state_uses platform config context threadId))
        (fun _ => trivial)
  | getStateCheckpoint threadId checkpoint =>
      exact Coro.accountable_bind _ _
        (plain_returns platform _ (get_state_checkpoint_uses platform config context threadId checkpoint))
          (fun _ => trivial)
  | getHistory threadId body =>
      exact Coro.accountable_bind _ _
        (plain_returns platform _ (get_history_uses platform config context threadId body))
        (fun _ => trivial)
  | updateState threadId body =>
      exact Coro.accountable_bind _ _ (update_state_returns platform config context threadId body) (fun _ => trivial)
  | deleteThread threadId =>
      exact Coro.accountable_bind _ _ (delete_thread_returns platform config threadId) (fun _ => trivial)

theorem claim_generated_returns (threadId assistantId : String) :
    ReturnsLeases platform (claimGenerated platform config context threadId assistantId) :=
  Coro.accountable_bind _ _ (plain_returns platform _ (get_or_create_thread_uses platform config context _ none))
    (fun _ => claims_returns platform _ (claim_thread_assistant_uses config threadId assistantId))

theorem stream_run_stateless_returns (request : RunCreate) :
    ReturnsLeases platform (streamRunStateless platform config context request) := by
  rw [streamRunStateless]
  cases found : getAssistantConfig config request.assistantId with
  | error error => trivial
  | ok assistant =>
      have graph := graph_of_assistant config request.assistantId assistant found
      show ReturnsLeases platform (if request.ifNotExists = some .reject then _ else _)
      split
      · trivial
      · refine Coro.accountable_bind _ _ (kept_in_returns platform _ ephemeralStore
          (claim_generated_returns platform config context context.freshThreadId assistant.assistantId))
            (fun claimed => ?_)
        refine acquire_run_lease_returns platform context.freshThreadId assistant.assistantId _ (fun lease => ?_)
        rw [graph]
        obtain ⟨gives, returns⟩ := run_with_lease_returns platform config _ lease
          (stateless_generator_returns platform config context request assistant assistant.graph claimed.2)
        exact respond_returns platform _ lease gives returns

end Programs

-- No request that has ended holds a lease it was granted.
def LeasesReturned (pool : Pool Api ServerState TaskId) : Prop :=
  ∀ request lease, pool.shared.leaseOf request = some lease →
    (∀ task ∈ pool.tasks, task.1.request = request → task.2.Ended) →
    pool.shared.coordinator.active.get? lease.threadId ≠ some lease.token

def StartsSent (platform : Platform) (pool : Pool Api ServerState TaskId) (turn : Turn Api) : Prop :=
  ∀ id resume error, pool.tasks[turn.task]? = some (id, .await (.send .start) resume) → turn.failure = some error →
    ServerState.interruptible id (.send .start) error = true → platform.absorbs error = true

theorem leases_are_returned (platform : Platform) (config : ServerConfig) (calls : List (RequestContext × Call))
    (start : ServerState) (idle : ∀ request, start.progress.get? request = none) (turns : List (Turn Api))
    (sent : Transition.Meets (serverMachine platform config.checkpointer.isSome).step (StartsSent platform)
      ⟨start, serveCalls platform config calls⟩ turns) :
    Transition.Always (serverMachine platform config.checkpointer.isSome).step LeasesReturned
      ⟨start, serveCalls platform config calls⟩ turns := by
  let ledger := leaseLedger platform config.checkpointer.isSome
  have unleased : ∀ request, start.leaseOf request = none := fun request => by
    rw [ServerState.leaseOf, idle request, Option.map_none]
  have initial : ledger.Covered ⟨start, serveCalls platform config calls⟩ := by
    refine ⟨⟨fun request lease found => ?_⟩, fun task member => ?_, fun owner debt owes => ?_⟩
    · cases (unleased request).symm.trans found
    · obtain ⟨call, _, rfl⟩ := List.mem_map.mp member
      cases call.1.2 with
      | threaded request => exact Coro.accountable_void _ (serve_returns platform config call.1.1 request)
      | stateless body => exact stream_run_stateless_returns platform config call.1.1 body
    · cases (unleased owner).symm.trans owes.1
  have considered : Transition.Meets (serverMachine platform config.checkpointer.isSome).step ledger.Considered
      ⟨start, serveCalls platform config calls⟩ turns := by
    refine Transition.meets_imp _ (StartsSent platform) _ (fun pool turn absorbs => ?_) _ turns sent
    intro id op resume error found failing possible
    cases op with
    | send message =>
        cases message with
        | start => exact absorbs id resume error found failing possible
        | body text => trivial
        | finish => trivial
    | _ => trivial
  refine Transition.always_imp _ ledger.Covered _ (fun pool covered => ?_) _ turns
    (ledger.always_covered _ initial turns considered)
  intro request lease granted ended held
  obtain ⟨task, member, own, gives⟩ := covered.covered request lease ⟨granted, decide_eq_true held⟩
  exact Coro.ended_fulfils_nothing task.2 (ended task member own) gives

def smallStream : List (RequestContext × Call) :=
  [(smallContext, .threaded (.streamRun "t" (runBy "a"))), (smallContext, .stateless (runBy "b"))]

def bothStreams : List (Turn Api) := List.replicate 19 ⟨0, none⟩ ++ List.replicate 21 ⟨1, none⟩

def streaming (turns : Nat) : Pool Api ServerState TaskId :=
  Transition.run (serverMachine smallPlatform true).step
    ⟨smallState 2 (by decide), serveCalls smallPlatform (smallServerConfig smallGraph (some ⟨true⟩) none) smallStream⟩
    (bothStreams.take turns)

-- Each stream holds its lease as its start message is sent, and has given it back when its
-- task has ended.
theorem leases_are_returned_small_run :
    Transition.Always (serverMachine smallPlatform true).step LeasesReturned
        ⟨smallState 2 (by decide), serveCalls smallPlatform (smallServerConfig smallGraph (some ⟨true⟩) none)
          smallStream⟩
        bothStreams ∧
      (streaming 8).shared.coordinator.active.entries = [("t", 0)] ∧
      (streaming 27).shared.coordinator.active.entries = [("fresh", 1)] ∧
      (streaming 40).shared.leaseOf 0 = some ⟨"t", 0⟩ ∧ (streaming 40).shared.leaseOf 1 = some ⟨"fresh", 1⟩ ∧
      (streaming 40).shared.coordinator.active.entries = [] ∧ (∀ task ∈ (streaming 40).tasks, task.2.Ended) :=
  ⟨leases_are_returned smallPlatform (smallServerConfig smallGraph (some ⟨true⟩) none) smallStream
    (smallState 2 (by decide)) (fun _ => rfl) bothStreams
    (Transition.meets_imp _ (fun _ turn => turn.failure = none) _
      (fun pool turn quiet id resume error found failing _ => by
        rw [quiet] at failing
        cases failing) _ _
      (Transition.meets_of_mem _ _ _ _ (by decide +kernel))),
    by decide +kernel, by decide +kernel, by decide +kernel, by decide +kernel, by decide +kernel, by decide +kernel⟩

-- The connection breaks while the start of the response is sent: the generator that would
-- give the lease back was never started, and the background task does not run.
theorem broken_start_keeps_lease :
    ¬ Transition.Always (serverMachine smallPlatform false).step LeasesReturned
      ⟨smallState 2 (by decide), serveCalls smallPlatform (smallServerConfig smallGraph none none)
        [(smallContext, .threaded (.streamRun "t" (runBy "a")))]⟩
      [⟨0, none⟩, ⟨0, none⟩, ⟨0, none⟩, ⟨0, none⟩, ⟨0, none⟩, ⟨0, some .osError⟩] := by
  intro returned
  have last := Transition.always_last _ _ _ _ returned
  refine last 0 ⟨"t", 0⟩ rfl (fun task member _ => ?_) rfl
  have broken : task = (⟨0, false⟩, .raise ServerError.osError) := List.mem_singleton.mp member
  rw [broken]
  trivial

end LangGraphServer
