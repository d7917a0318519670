import LangGraphServer.Server.Alone

set_option autoImplicit false

namespace LangGraphServer

open Collections Coroutine

-- Both run handlers up to the lease; what differs is the check of the options, and that
-- only the non-streaming handler transforms the input before it takes the lease.
inductive RunKind where
  | stream
  | invoke
deriving DecidableEq

section Admission

variable (platform : Platform) (config : ServerConfig) (context : RequestContext)

def optionError (kind : RunKind) (request : RunCreate) : Option ServerError :=
  match kind with
  | .stream =>
      if request.onCompletion.isSome = true then
        some (.http 422 "on_completion is supported only for stateless runs")
      else none
  | .invoke =>
      if (unsupportedOptions request).isEmpty = false then
        some (.http 422 ("Unsupported options for non-streaming runs: " ++ ", ".intercalate
          (unsupportedOptions request)))
      else none

def inputOf (kind : RunKind) (request : RunCreate) (assistant : AssistantConfig) : Except ServerError Metadata :=
  match kind with
  | .stream => .ok .empty
  | .invoke => prepareInput assistant (request.input.getD .empty)

structure Admitted where
  assistant : AssistantConfig
  payload : Metadata
  lease : RunLease

def admitRun (kind : RunKind) (threadId : String) (request : RunCreate) : Coro Api Admitted :=
  match optionError kind request with
  | some error => raise error
  | none => do
      let assistant ← attempt (getAssistantConfig config request.assistantId)
      claimForRun platform config context threadId request assistant
      let payload ← attempt (inputOf kind request assistant)
      let lease ← acquireRunLease threadId assistant.assistantId
      pure ⟨assistant, payload, lease⟩

def runAdmitted (kind : RunKind) (threadId : String) (request : RunCreate) (admitted : Admitted) : Coro Api Response :=
  match kind with
  | .stream => do
      let graph ← attempt (config.getGraphRuntime admitted.assistant.assistantId)
      streamResponse platform config context threadId request admitted.assistant graph admitted.lease
      pure .streamed
  | .invoke => do
      let runnableConfig := buildRunnableConfig threadId admitted.assistant.assistantId request.config
        request.checkpointId
      (invokeUnderLease config admitted.assistant admitted.payload runnableConfig).tryFinally
        (perform (.release admitted.lease))
      pure (.run ⟨context.freshRunId, threadId, admitted.assistant.assistantId, context.now .completed,
        context.now .completed, "success", request.metadata.getD .empty⟩)

def runRequest (kind : RunKind) (threadId : String) (request : RunCreate) : Request :=
  match kind with
  | .stream => .streamRun threadId request
  | .invoke => .createRun threadId request

theorem serve_run_eq (kind : RunKind) (threadId : String) (request : RunCreate) :
    serve platform config context (runRequest kind threadId request) =
      admitRun platform config context kind threadId request >>= runAdmitted platform config context kind
        threadId request := by
  cases kind with
  | stream =>
      rw [runRequest, serve, streamRunWithThread, admitRun, optionError]
      split
      · rfl
      · simp only [bind_assoc, pure_bind, runAdmitted]
        rfl
  | invoke =>
      rw [runRequest, serve, createRun, admitRun, optionError]
      split
      · rfl
      · simp only [bind_assoc, pure_bind, runAdmitted]
        rfl

end Admission

-- How a state may differ from an earlier one when only one thread's record was touched.
structure OnlyThread (threadId : String) (before after : ServerState) : Prop where
  others : ∀ query, query ≠ threadId → after.store.threads.get? query = before.store.threads.get? query
  saved : after.saved = before.saved
  coordinator : after.coordinator = before.coordinator

theorem only_thread_refl (threadId : String) (state : ServerState) : OnlyThread threadId state state :=
  ⟨fun _ _ => rfl, rfl, rfl⟩

theorem only_thread_trans (threadId : String) (first second third : ServerState)
    (left : OnlyThread threadId first second)
    (right : OnlyThread threadId second third) : OnlyThread threadId first third :=
  ⟨fun query other => (right.others query other).trans (left.others query other), right.saved.trans left.saved,
    right.coordinator.trans left.coordinator⟩

theorem only_thread_latest (threadId : String) (before after : ServerState) (only : OnlyThread threadId before after)
    (persistent : Bool) (query : String) : after.latest persistent query = before.latest persistent query := by
  simp only [ServerState.latest, ServerState.agetTuple, ServerState.items, only.saved]

theorem only_thread_marker (threadId : String) (before after : ServerState) (only : OnlyThread threadId before after)
    (persistent : Bool) (query : String) : after.latestMarker persistent query =
      before.latestMarker persistent query := by
  simp only [ServerState.latestMarker, ServerState.agetTuple, ServerState.items, only.saved]

def resolvedOwner (persistent : Bool) (state : ServerState) (threadId : String) : Except ServerError (Option String) :=
  match state.ownerOf threadId, state.latestMarker persistent threadId with
  | some owner, _ => .ok (some owner)
  | none, none => .ok none
  | none, some marker => (state.store.claimAssistant threadId marker).2.map (fun _ => some marker)

-- The store that resolving the owner leaves behind: an owner found in a checkpoint is recorded.
def resolvedStore (persistent : Bool) (state : ServerState) (threadId : String) : InMemoryThreadStore :=
  match state.ownerOf threadId, state.latestMarker persistent threadId with
  | none, some marker => (state.store.claimAssistant threadId marker).1
  | _, _ => state.store

theorem claim_assistant_answer (first second : InMemoryThreadStore) (threadId assistantId : String)
    (same : first.threads.get? threadId = second.threads.get? threadId) :
    (first.claimAssistant threadId assistantId).2 = (second.claimAssistant threadId assistantId).2 := by
  simp only [InMemoryThreadStore.claimAssistant, same]
  split
  · rfl
  · split
    · split
      · rfl
      · rfl
    · rfl

theorem put_thread_others (platform : Platform) (store : InMemoryThreadStore) (thread : Thread) (query : String)
    (other : query ≠ thread.threadId) :
    (store.putThread platform thread).1.threads.get? query = store.threads.get? query := by
  rw [InMemoryThreadStore.putThread]
  split
  · rfl
  · rw [Dict.get_set, if_neg other]

section Refusal

variable (platform : Platform) (config : ServerConfig) (context : RequestContext) (id : TaskId)

theorem claim_assistant_alone (threadId assistantId : String) (state : ServerState) :
    aloneIn platform config id (perform (.claimAssistant threadId assistantId)) state =
      ({ state with store := (state.store.claimAssistant threadId assistantId).1 },
        (state.store.claimAssistant threadId assistantId).2) :=
  (serverMachine platform config.checkpointer.isSome).alone_perform id _ state

theorem get_thread_assistant_id_alone (threadId : String) (state : ServerState) :
    aloneIn platform config id (getThreadAssistantId config threadId) state =
      ({ state with store := resolvedStore config.checkpointer.isSome state threadId },
        resolvedOwner config.checkpointer.isSome state threadId) := by
  refine (alone_then platform config id _ _ state state (state.ownerOf threadId) rfl).trans ?_
  rw [resolvedStore, resolvedOwner]
  cases state.ownerOf threadId with
  | some owner => rfl
  | none =>
      rw [ServerState.latestMarker]
      cases config.checkpointer with
      | none => rfl
      | some saver =>
          refine (alone_then platform config id _ _ state state (state.agetTuple (checkpointConfig threadId none ""))
            rfl).trans ?_
          rw [Option.isSome_some, if_pos rfl]
          cases state.agetTuple (checkpointConfig threadId none "") with
          | none => rfl
          | some item =>
              rw [Option.bind_some]
              cases named : checkpointAssistantId item with
              | none =>
                  simp only [named]
                  rfl
              | some marker =>
                  simp only [named]
                  have claimed := claim_assistant_alone platform config id threadId marker state
                  generalize state.store.claimAssistant threadId marker = claim at claimed ⊢
                  obtain ⟨store, outcome⟩ := claim
                  cases outcome with
                  | ok value => exact alone_then platform config id _ _ state _ value claimed
                  | error error => exact alone_fails platform config id _ _ state _ error claimed

def knownOwner (persistent : Bool) (state : ServerState) (threadId : String) : Option String :=
  (state.ownerOf threadId).or (state.latestMarker persistent threadId)

theorem claim_assistant_unowned (store : InMemoryThreadStore) (threadId assistantId : String)
    (recorded : (store.getThread threadId).isSome = true) (unowned : store.getAssistantId threadId = none) :
    (store.claimAssistant threadId assistantId).2 = .ok () ∧
      (store.claimAssistant threadId assistantId).1.getAssistantId threadId = some assistantId := by
  rcases store.claim_assistant_cases threadId assistantId with ⟨answered, _, owners⟩ | ⟨_,
    ⟨missing, _⟩ | ⟨owner, owned, _⟩⟩
  · exact ⟨answered, (owners threadId).trans (if_pos rfl)⟩
  · rw [InMemoryThreadStore.getThread, missing] at recorded
    cases recorded
  · cases unowned.symm.trans owned

theorem claim_assistant_own (store : InMemoryThreadStore) (threadId assistantId : String)
    (owned : store.getAssistantId threadId = some assistantId) :
    (store.claimAssistant threadId assistantId).2 = .ok () ∧
      (store.claimAssistant threadId assistantId).1.getAssistantId threadId = some assistantId := by
  rcases store.claim_assistant_cases threadId assistantId with ⟨answered, _, owners⟩ | ⟨_,
    ⟨missing, _⟩ | ⟨owner, other, apart, _⟩⟩
  · exact ⟨answered, (owners threadId).trans (if_pos rfl)⟩
  · rw [InMemoryThreadStore.getAssistantId, missing] at owned
    cases owned
  · cases other.symm.trans owned
    exact absurd rfl apart

theorem resolve_unrecorded (state : ServerState) (threadId : String) (missing : state.store.getThread threadId = none)
    (persistent : Bool) (owner : String) : resolvedOwner persistent state threadId ≠ .ok (some owner) := by
  rw [InMemoryThreadStore.getThread, Option.map_eq_none_iff] at missing
  have unowned : state.ownerOf threadId = none := by
    rw [ServerState.ownerOf, InMemoryThreadStore.getAssistantId, missing, Option.bind_none]
  intro same
  rw [resolvedOwner, unowned] at same
  cases named : state.latestMarker persistent threadId with
  | none =>
      rw [named] at same
      cases same
  | some marker =>
      rw [named] at same
      simp only [InMemoryThreadStore.claimAssistant, missing] at same
      cases same

theorem resolve_recorded (state : ServerState) (threadId : String)
    (recorded : (state.store.getThread threadId).isSome = true) (persistent : Bool) :
    resolvedOwner persistent state threadId = .ok (knownOwner persistent state threadId) ∧
      (resolvedStore persistent state threadId).getAssistantId threadId = knownOwner persistent state threadId := by
  rw [resolvedOwner, resolvedStore, knownOwner]
  cases owned : state.ownerOf threadId with
  | some owner => exact ⟨rfl, owned⟩
  | none =>
      cases state.latestMarker persistent threadId with
      | none => exact ⟨rfl, owned⟩
      | some marker =>
          obtain ⟨answered, recordedOwner⟩ := claim_assistant_unowned state.store threadId marker recorded owned
          refine ⟨?_, recordedOwner⟩
          simp only [answered]
          rfl

theorem resolve_only_thread (state : ServerState) (threadId : String) (persistent : Bool) :
    OnlyThread threadId state { state with store := resolvedStore persistent state threadId } ∧
      ((resolvedStore persistent state threadId).getThread threadId).isSome =
        (state.store.getThread threadId).isSome := by
  rw [resolvedStore]
  split
  · rename_i marker _ _
    exact ⟨⟨fun query other => claim_assistant_others state.store threadId marker query other, rfl, rfl⟩,
      claim_assistant_record state.store threadId marker threadId⟩
  · exact ⟨only_thread_refl threadId state, rfl⟩

structure Claimed (threadId : String) (owner : String) (before after : ServerState) : Prop where
  only : OnlyThread threadId before after
  recorded : (after.store.getThread threadId).isSome = true
  owned : after.ownerOf threadId = some owner

def ownershipAnswer (threadId assistantId : String) : Option String → Except ServerError Unit
  | none => .ok ()
  | some owner =>
      if owner = assistantId then .ok () else .error
        (.http 409 ("Thread " ++ threadId ++ " belongs to assistant " ++ owner))

theorem claim_thread_assistant_alone (threadId assistantId : String) (state : ServerState)
    (recorded : (state.store.getThread threadId).isSome = true) :
    Claimed threadId ((knownOwner config.checkpointer.isSome state threadId).getD assistantId) state
        (aloneIn platform config id (claimThreadAssistant config threadId assistantId) state).1 ∧
      (aloneIn platform config id (claimThreadAssistant config threadId assistantId) state).2 =
        ownershipAnswer threadId assistantId (knownOwner config.checkpointer.isSome state threadId) := by
  have resolved := get_thread_assistant_id_alone platform config id threadId state
  obtain ⟨answered, owner⟩ := resolve_recorded state threadId recorded config.checkpointer.isSome
  obtain ⟨only, kept⟩ := resolve_only_thread state threadId config.checkpointer.isSome
  rw [answered] at resolved
  rw [claimThreadAssistant, alone_then platform config id _ _ state _ _ resolved]
  generalize knownOwner config.checkpointer.isSome state threadId = known at owner
  generalize resolvedStore config.checkpointer.isSome state threadId = store at owner only kept
  have still : (store.getThread threadId).isSome = true := kept.trans recorded
  by_cases fits : known = none ∨ known = some assistantId
  · have claim : (store.claimAssistant threadId assistantId).2 = .ok () ∧
        (store.claimAssistant threadId assistantId).1.getAssistantId threadId = some assistantId := by
      rcases fits with unowned | own
      · exact claim_assistant_unowned store threadId assistantId still (owner.trans unowned)
      · exact claim_assistant_own store threadId assistantId (owner.trans own)
    have named : known.getD assistantId = assistantId := by
      rcases fits with unowned | own
      · rw [unowned, Option.getD_none]
      · rw [own, Option.getD_some]
    have performed := claim_assistant_alone platform config id threadId assistantId { state with store := store }
    have answer : ownershipAnswer threadId assistantId known = .ok () := by
      rcases fits with unowned | own
      · rw [unowned, ownershipAnswer]
      · rw [own, ownershipAnswer, if_pos rfl]
    rw [if_pos fits, aloneIn, Machine.alone_catch]
    rw [aloneIn] at performed
    rw [performed, claim.1, named, answer]
    refine ⟨⟨only_thread_trans threadId _ _ _ only ⟨?_, rfl, rfl⟩, ?_, claim.2⟩, rfl⟩
    · exact fun query other => claim_assistant_others store threadId assistantId query other
    · exact (claim_assistant_record store threadId assistantId threadId).trans still
  · rw [if_neg fits]
    cases known with
    | none => exact absurd (Or.inl rfl) fits
    | some current =>
        refine ⟨⟨only, still, owner⟩, ?_⟩
        rw [ownershipAnswer, if_neg (fun same => fits (Or.inr (congrArg some same)))]
        rfl

def RecordTooLarge (threadId : String) (state : ServerState) : Prop :=
  state.store.getThread threadId = none ∧
    state.store.maxThreadBytes <
      platform.threadJsonBytes (recordFor platform config context state threadId none)

theorem get_or_create_thread_cases (threadId : String) (state : ServerState) :
    (RecordTooLarge platform config context threadId state ∧ ∃ error,
      aloneIn platform config id (getOrCreateThread platform config context (some threadId) none) state =
        (state, .error error)) ∨
    ¬ RecordTooLarge platform config context threadId state ∧ ∃ after thread,
      aloneIn platform config id (getOrCreateThread platform config context (some threadId) none) state =
        (after, .ok thread) ∧ OnlyThread threadId state after ∧ (after.store.getThread threadId).isSome = true ∧
          after.ownerOf threadId = state.ownerOf threadId := by
  have reached := get_or_create_thread_alone platform config context id threadId none state
  have own := record_id platform config context state threadId none
  cases found : state.store.getThread threadId with
  | some thread =>
      rw [found] at reached
      refine Or.inr ⟨?_, state, thread, reached, only_thread_refl threadId state, ?_, rfl⟩
      · exact fun large => by cases large.1.symm.trans found
      · rw [found, Option.isSome_some]
  | none =>
      rw [found] at reached
      dsimp only at reached
      by_cases large : state.store.maxThreadBytes <
          platform.threadJsonBytes (recordFor platform config context state threadId none)
      · rw [InMemoryThreadStore.putThread, if_pos large] at reached
        exact Or.inl ⟨⟨found, large⟩, _, reached⟩
      · refine Or.inr ⟨fun both => large both.2, ?_⟩
        have owner := InMemoryThreadStore.put_thread_owner platform state.store
          (recordFor platform config context state threadId none) threadId
        have others := put_thread_others platform state.store (recordFor platform config context state threadId none)
        rw [InMemoryThreadStore.putThread, if_neg large] at reached owner others
        refine ⟨_, _, reached, ⟨fun query other => others query (fun same => other (same.trans own)), rfl, rfl⟩, ?_,
          owner⟩
        rw [InMemoryThreadStore.getThread, Dict.get_set, if_pos own.symm]
        rfl

def RefusedEarly (kind : RunKind) (threadId : String) (request : RunCreate) (state : ServerState) : Prop :=
  (optionError kind request).isSome = true ∨ config.getAssistant request.assistantId = none ∨
    (request.ifNotExists = some .reject ∧ state.threadExists config.checkpointer.isSome threadId = false) ∨
      RecordTooLarge platform config context threadId state

theorem claim_for_run_cases (threadId : String) (request : RunCreate) (assistant : AssistantConfig)
    (state : ServerState) :
    (((request.ifNotExists = some .reject ∧ state.threadExists config.checkpointer.isSome threadId = false) ∨
        RecordTooLarge platform config context threadId state) ∧ ∃ error,
      aloneIn platform config id (claimForRun platform config context threadId request assistant) state =
        (state, .error error)) ∨
    (¬ (request.ifNotExists = some .reject ∧ state.threadExists config.checkpointer.isSome threadId = false) ∧
      ¬ RecordTooLarge platform config context threadId state ∧
      Claimed threadId ((knownOwner config.checkpointer.isSome state threadId).getD assistant.assistantId) state
        (aloneIn platform config id (claimForRun platform config context threadId request assistant) state).1 ∧
      (aloneIn platform config id (claimForRun platform config context threadId request assistant) state).2 =
        ownershipAnswer threadId assistant.assistantId (knownOwner config.checkpointer.isSome state threadId)) := by
  let missing : Bool := decide (request.ifNotExists = some .reject) && !state.threadExists
    config.checkpointer.isSome threadId
  have looked : aloneIn platform config id (if request.ifNotExists = some .reject then do
      let exists_ ← threadExists platform config context threadId
      pure (!exists_)
    else pure false : Coro Api Bool) state = (state, .ok missing) := by
    by_cases rejects : request.ifNotExists = some .reject
    · rw [if_pos rejects]
      refine (alone_then platform config id _ _ state state _
        (thread_exists_alone platform config context id threadId state)).trans ?_
      simp only [missing, rejects, decide_true, Bool.true_and]
      rfl
    · rw [if_neg rejects]
      simp only [missing, rejects, decide_false, Bool.false_and]
      rfl
  have refused : missing = true ↔
      request.ifNotExists = some .reject ∧ state.threadExists config.checkpointer.isSome threadId = false := by
    simp only [missing, Bool.and_eq_true, decide_eq_true_eq, Bool.not_eq_true']
  rw [claimForRun, alone_then platform config id _ _ state state missing looked]
  by_cases early : missing = true
  · rw [if_pos early]
    exact Or.inl ⟨Or.inl (refused.mp early), _, rfl⟩
  · rw [if_neg early]
    rcases get_or_create_thread_cases platform config context id threadId state with
      ⟨large, error, failed⟩ | ⟨fits, after, thread, made, only, recorded, owner⟩
    · exact Or.inl ⟨Or.inr large, error, alone_fails platform config id _ _ state state error failed⟩
    · refine Or.inr ⟨fun both => early (refused.mpr both), fits, ?_⟩
      rw [alone_then platform config id _ _ state after thread made]
      obtain ⟨claimed, answered⟩ := claim_thread_assistant_alone platform config id threadId
        assistant.assistantId after recorded
      have known : knownOwner config.checkpointer.isSome after threadId = knownOwner config.checkpointer.isSome
        state threadId := by
        rw [knownOwner, knownOwner, owner, only_thread_marker threadId state after only]
      rw [known] at claimed answered
      exact ⟨⟨only_thread_trans threadId _ _ _ only claimed.only, claimed.recorded, claimed.owned⟩, answered⟩

theorem acquire_run_lease_refused (threadId assistantId : String) (state after : ServerState) (error : ServerError)
    (refused : aloneIn platform config id (acquireRunLease threadId assistantId) state = (after, .error error)) :
    after = state := by
  rw [acquireRunLease, aloneIn, Machine.alone_catch] at refused
  have performed := (serverMachine platform config.checkpointer.isSome).alone_perform id
    (.acquire threadId (.run assistantId)) state
  change (serverMachine platform config.checkpointer.isSome).alone id
    (perform (.acquire threadId (.run assistantId))) state =
    ServerState.perform platform config.checkpointer.isSome id (.acquire threadId (.run assistantId)) state at performed
  rw [performed] at refused
  simp only [ServerState.perform] at refused
  rcases CoordinationState.acquire_cases state.coordinator threadId with
    ⟨_, message, busy⟩ | ⟨_, _, message, full⟩ | ⟨_, _, granted⟩
  · rw [busy] at refused
    cases refused
    rfl
  · rw [full] at refused
    cases refused
    rfl
  · rw [granted] at refused
    cases refused

-- A refused run either stopped before it wrote anything, or left its thread with a record
-- and an owner.
theorem refused_cases (kind : RunKind) (threadId : String) (request : RunCreate) (state after : ServerState)
    (error : ServerError)
    (refused : aloneIn platform config id (admitRun platform config context kind threadId request) state =
      (after, .error error)) :
    (RefusedEarly platform config context kind threadId request state ∧ after = state) ∨
    (¬ RefusedEarly platform config context kind threadId request state ∧ ∃ assistantId,
      Claimed threadId ((knownOwner config.checkpointer.isSome state threadId).getD assistantId) state after) := by
  rw [admitRun] at refused
  cases options : optionError kind request with
  | some given =>
      rw [options] at refused
      cases refused
      exact Or.inl ⟨Or.inl (by rw [options]; rfl), rfl⟩
  | none =>
      rw [options] at refused
      have looked := attempt_alone platform config id (getAssistantConfig config request.assistantId) state
      rw [getAssistantConfig] at looked
      cases named : config.getAssistant request.assistantId with
      | none =>
          rw [named] at looked
          rcases alone_failed platform config id _ _ state after error refused with failed | ⟨mid, value, found, _⟩
          · rw [getAssistantConfig, named, looked] at failed
            cases failed
            exact Or.inl ⟨Or.inr (Or.inl named), rfl⟩
          · rw [getAssistantConfig, named, looked] at found
            cases found
      | some assistant =>
          rw [named] at looked
          rw [getAssistantConfig, named] at refused
          dsimp only at refused
          rw [alone_then platform config id _ _ state state assistant looked] at refused
          rcases claim_for_run_cases platform config context id threadId request assistant state with
            ⟨early, given, failed⟩ | ⟨present, fits, claimed, _⟩
          · rw [alone_fails platform config id _ _ state state given failed] at refused
            cases refused
            exact Or.inl ⟨Or.inr (Or.inr early), rfl⟩
          · refine Or.inr ⟨?_, assistant.assistantId, ?_⟩
            · rintro (given | unnamed | rejected | large)
              · rw [options] at given
                cases given
              · cases named.symm.trans unnamed
              · exact present rejected
              · exact fits large
            · rcases alone_failed platform config id _ _ state after error refused
                with failed | ⟨mid, _, reached, later⟩
              · rw [failed] at claimed
                exact claimed
              · rw [reached] at claimed
                have same : after = mid := by
                  have prepared := attempt_alone platform config id (inputOf kind request assistant) mid
                  rcases alone_failed platform config id _ _ mid after error later
                    with failed | ⟨last, _, arrived, leasing⟩
                  · rw [prepared] at failed
                    exact (congrArg Prod.fst failed).symm
                  · rw [prepared] at arrived
                    have stayed : mid = last := congrArg Prod.fst arrived
                    rw [← stayed] at leasing
                    rcases alone_failed platform config id _ _ mid after error leasing with failed | ⟨_, _, _, done⟩
                    · exact acquire_run_lease_refused platform config id threadId _ mid after error failed
                    · cases done
                rw [same]
                exact claimed

-- What a client can tell about the threads, and the leases that are out.
structure NoTrace (before after : ServerState) : Prop where
  existing : ∀ query, (aloneIn platform config id (threadExists platform config context query) after).2 =
    (aloneIn platform config id (threadExists platform config context query) before).2
  owners : ∀ query, (aloneIn platform config id (getThreadAssistantId config query) after).2 =
    (aloneIn platform config id (getThreadAssistantId config query) before).2
  leases : after.coordinator.active = before.coordinator.active

theorem no_trace_refl (state : ServerState) : NoTrace platform config context id state state :=
  ⟨fun _ => rfl, fun _ => rfl, rfl⟩

theorem no_trace_of_thread (threadId : String) (before after : ServerState) (only : OnlyThread threadId before after)
    (existing : after.threadExists config.checkpointer.isSome threadId =
      before.threadExists config.checkpointer.isSome threadId)
    (owner : resolvedOwner config.checkpointer.isSome after threadId = resolvedOwner config.checkpointer.isSome
      before threadId) :
    NoTrace platform config context id before after := by
  refine ⟨fun query => ?_, fun query => ?_, by rw [only.coordinator]⟩
  · rw [thread_exists_alone, thread_exists_alone]
    by_cases here : query = threadId
    · rw [here, existing]
    · simp only [ServerState.threadExists, InMemoryThreadStore.getThread, only.others query here,
        only_thread_latest threadId before after only]
  · rw [get_thread_assistant_id_alone, get_thread_assistant_id_alone]
    by_cases here : query = threadId
    · rw [here, owner]
    · have stored := only.others query here
      have answers := fun marker => claim_assistant_answer after.store before.store query marker stored
      simp only [resolvedOwner, ServerState.ownerOf, InMemoryThreadStore.getAssistantId, stored, answers,
        only_thread_marker threadId before after only]

theorem refused_run_leaves_no_trace (kind : RunKind) (threadId : String) (request : RunCreate)
    (state after : ServerState) (error : ServerError)
    (refused : aloneIn platform config id (admitRun platform config context kind threadId request) state =
      (after, .error error)) :
    aloneIn platform config id (serve platform config context (runRequest kind threadId request)) state =
      (after, .error error) ∧ (NoTrace platform config context id state after ↔
        RefusedEarly platform config context kind threadId request state ∨
          (state.store.getThread threadId).isSome = true ∧ knownOwner config.checkpointer.isSome state
            threadId ≠ none) := by
  refine ⟨?_, ?_⟩
  · rw [serve_run_eq]
    exact alone_fails platform config id _ _ state after error refused
  · rcases refused_cases platform config context id kind threadId request state after error refused with
      ⟨early, same⟩ | ⟨late, assistantId, claimed⟩
    · rw [same]
      exact ⟨fun _ => Or.inl early, fun _ => no_trace_refl platform config context id state⟩
    · have resolved : resolvedOwner config.checkpointer.isSome after threadId =
          .ok (some ((knownOwner config.checkpointer.isSome state threadId).getD assistantId)) := by
        rw [resolvedOwner, claimed.owned]
      have present : after.threadExists config.checkpointer.isSome threadId = true := by
        rw [ServerState.threadExists, claimed.recorded, Bool.true_or]
      refine ⟨fun traceless => Or.inr ?_, fun either => ?_⟩
      · have same := traceless.owners threadId
        rw [get_thread_assistant_id_alone, get_thread_assistant_id_alone, resolved] at same
        cases found : state.store.getThread threadId with
        | none => exact absurd same.symm (resolve_unrecorded state threadId found config.checkpointer.isSome _)
        | some thread =>
            refine ⟨rfl, fun unknown => ?_⟩
            rw [(resolve_recorded state threadId (by rw [found]; rfl) config.checkpointer.isSome).1, unknown] at same
            cases same
      · rcases either with early | ⟨recorded, known⟩
        · exact absurd early late
        · obtain ⟨owner, named⟩ := Option.ne_none_iff_exists'.mp known
          refine no_trace_of_thread platform config context id threadId state after claimed.only ?_ ?_
          · rw [present, ServerState.threadExists, recorded, Bool.true_or]
          · rw [resolved, (resolve_recorded state threadId recorded config.checkpointer.isSome).1, named,
              Option.getD_some]

end Refusal

def fullState : ServerState :=
  ((smallState 1 (by decide)).perform smallPlatform true ⟨0, false⟩ (.acquire "u" (.run "b"))).1

def fullOwnedState : ServerState :=
  { fullState with store := ⟨1000, Dict.empty.set "t" ⟨⟨"t", 0, 0, .empty, "idle", .empty⟩, some "a"⟩⟩ }

theorem refused_run_leaves_no_trace_small_server :
    aloneIn smallPlatform (smallServerConfig smallGraph (some ⟨true⟩) none) ⟨1, false⟩
        (serve smallPlatform (smallServerConfig smallGraph (some ⟨true⟩) none) smallContext
          (runRequest .invoke "t" (runBy "a"))) fullOwnedState =
      (fullOwnedState, .error (.http 429 "Concurrent run capacity is full")) ∧
    (NoTrace smallPlatform (smallServerConfig smallGraph (some ⟨true⟩) none) smallContext ⟨1, false⟩ fullOwnedState
      fullOwnedState ↔ RefusedEarly smallPlatform (smallServerConfig smallGraph (some ⟨true⟩) none) smallContext
        .invoke "t" (runBy "a") fullOwnedState ∨
        (fullOwnedState.store.getThread "t").isSome = true ∧ knownOwner true fullOwnedState "t" ≠ none) :=
  refused_run_leaves_no_trace smallPlatform (smallServerConfig smallGraph (some ⟨true⟩) none) smallContext ⟨1, false⟩
    .invoke "t" (runBy "a") fullOwnedState fullOwnedState (.http 429 "Concurrent run capacity is full") rfl

-- A run that finds no free slot has already created the thread and claimed it.
theorem refused_run_creates_thread :
    ¬ (∀ (kind : RunKind) (threadId : String) (request : RunCreate) (state after : ServerState) (error : ServerError),
      aloneIn smallPlatform (smallServerConfig smallGraph none none) ⟨1, false⟩
        (admitRun smallPlatform (smallServerConfig smallGraph none none) smallContext kind threadId request) state =
          (after, .error error) →
      NoTrace smallPlatform (smallServerConfig smallGraph none none) smallContext ⟨1, false⟩ state after) := by
  intro traceless
  have kept := (traceless .stream "t" (runBy "a") fullState _ (.http 429 "Concurrent run capacity is full")
    rfl).existing "t"
  cases kept

end LangGraphServer
