import LangGraphServer.Lib.Triples
import LangGraphServer.Server.RunRoutes

set_option autoImplicit false

namespace LangGraphServer

open Collections Coroutine

def ServerState.latestMarker (persistent : Bool) (state : ServerState) (threadId : String) : Option String :=
  if persistent = true then (state.agetTuple (checkpointConfig threadId none "")).bind checkpointAssistantId else none

-- The operations that change neither an owner nor a checkpoint.
inductive Plain : ServerOp → Prop where
  | getThread (threadId : String) : Plain (.getThread threadId)
  | putThread (thread : Thread) : Plain (.putThread thread)
  | getAssistantId (threadId : String) : Plain (.getAssistantId threadId)
  | agetTuple (lookup : LookupConfig) : Plain (.agetTuple lookup)
  | alist (lookup : LookupConfig) (filter : Option Metadata) (before : Option LookupConfig) (limit : Nat) :
      Plain (.alist lookup filter before limit)

inductive Reads : ServerOp → Prop where
  | getThread (threadId : String) : Reads (.getThread threadId)
  | getAssistantId (threadId : String) : Reads (.getAssistantId threadId)
  | agetTuple (lookup : LookupConfig) : Reads (.agetTuple lookup)
  | alist (lookup : LookupConfig) (filter : Option Metadata) (before : Option LookupConfig) (limit : Nat) :
      Reads (.alist lookup filter before limit)

theorem reads_plain (op : ServerOp) (reads : Reads op) : Plain op := by
  cases reads with
  | getThread threadId => exact .getThread threadId
  | getAssistantId threadId => exact .getAssistantId threadId
  | agetTuple lookup => exact .agetTuple lookup
  | alist lookup filter before limit => exact .alist lookup filter before limit

-- Everything but the thread metadata is the same.
structure Untouched (before after : ServerState) : Prop where
  owners : ∀ query, after.ownerOf query = before.ownerOf query
  saved : after.saved = before.saved
  coordinator : after.coordinator = before.coordinator
  progress : after.progress = before.progress
  log : after.log = before.log

theorem untouched_refl (state : ServerState) : Untouched state state := ⟨fun _ => rfl, rfl, rfl, rfl, rfl⟩

theorem untouched_latest_marker (persistent : Bool) (before after : ServerState) (same : Untouched before after)
    (threadId : String) : after.latestMarker persistent threadId = before.latestMarker persistent threadId := by
  simp only [ServerState.latestMarker, ServerState.agetTuple, ServerState.items, same.saved]

theorem plain_untouched (platform : Platform) (persistent : Bool) (id : TaskId) (op : ServerOp) (plain : Plain op)
    (state : ServerState) : Untouched state (state.perform platform persistent id op).1 := by
  cases plain with
  | getThread threadId => exact untouched_refl state
  | putThread thread =>
      exact ⟨InMemoryThreadStore.put_thread_owner platform state.store thread, rfl, rfl, rfl, rfl⟩
  | getAssistantId threadId => exact untouched_refl state
  | agetTuple lookup => exact untouched_refl state
  | alist lookup filter before limit => exact untouched_refl state

theorem plain_struck (id : TaskId) (op : ServerOp) (plain : Plain op) (error : ServerError) (state : ServerState) :
    state.struck id op error = state := by
  cases plain with
  | getThread threadId => rfl
  | putThread thread => rfl
  | getAssistantId threadId => rfl
  | agetTuple lookup => rfl
  | alist lookup filter before limit => rfl

section Uses

variable (platform : Platform) (config : ServerConfig) (context : RequestContext)

theorem pure_uses {α : Type} (value : α) : (pure value : Coro Api α).Uses Plain := trivial

theorem raise_uses {α : Type} (error : ServerError) : (raise error : Coro Api α).Uses Plain := trivial

theorem perform_uses (op : ServerOp) (plain : Plain op) : (perform op).Uses Plain :=
    Coro.uses_perform (I := Api) Plain op plain

theorem reads_uses {α : Type} (program : Coro Api α) (reads : program.Uses Reads) : program.Uses Plain :=
  Coro.uses_mono (I := Api) Reads Plain reads_plain program reads

theorem perform_reads (op : ServerOp) (reads : Reads op) : (perform op).Uses Reads :=
    Coro.uses_perform (I := Api) Reads op reads

theorem thread_from_checkpoint_reads (threadId : String) :
    (threadFromCheckpoint platform config context threadId).Uses Reads := by
  rw [threadFromCheckpoint]
  split
  · trivial
  · exact Coro.uses_bind (I := Api) Reads _ _ (perform_reads _ (.agetTuple _)) (fun _ => trivial)

theorem thread_from_checkpoint_uses (threadId : String) :
    (threadFromCheckpoint platform config context threadId).Uses Plain :=
  reads_uses _ (thread_from_checkpoint_reads platform config context threadId)

theorem get_or_create_thread_uses (threadId : Option String) (metadata : Option Metadata) :
    (getOrCreateThread platform config context threadId metadata).Uses Plain := by
  apply Coro.uses_bind (I := Api) Plain
  · exact perform_uses _ (.getThread _)
  · intro existing
    cases (existing : Option Thread) with
    | some thread => exact pure_uses thread
    | none =>
        apply Coro.uses_bind (I := Api) Plain
        · exact thread_from_checkpoint_uses platform config context _
        · intro checkpointThread
          cases checkpointThread with
          | some thread =>
              apply Coro.uses_bind (I := Api) Plain
              · exact perform_uses _ (.putThread _)
              · intro _
                exact pure_uses _
          | none =>
              apply Coro.uses_bind (I := Api) Plain
              · exact perform_uses _ (.putThread _)
              · intro _
                exact pure_uses _

theorem thread_exists_reads (threadId : String) : (threadExists platform config context threadId).Uses Reads := by
  refine Coro.uses_bind (I := Api) Reads _ _ (perform_reads _ (.getThread _)) (fun existing => ?_)
  cases (existing : Option Thread) with
  | some thread => trivial
  | none =>
      exact Coro.uses_bind (I := Api) Reads _ _ (thread_from_checkpoint_reads platform config context threadId)
        (fun _ => trivial)

theorem thread_exists_uses (threadId : String) : (threadExists platform config context threadId).Uses Plain :=
  reads_uses _ (thread_exists_reads platform config context threadId)

theorem set_thread_status_uses (threadId status : String) (moment : Moment) :
    (setThreadStatus context threadId status moment).Uses Plain := by
  apply Coro.uses_bind (I := Api) Plain
  · exact perform_uses _ (.getThread _)
  · intro thread
    cases (thread : Option Thread) with
    | none => exact pure_uses ()
    | some thread => exact perform_uses _ (.putThread _)

theorem get_thread_state_reads (threadId : String) (checkpointId : Option String) (checkpointNs : String) :
    (getThreadState platform context threadId checkpointId checkpointNs).Uses Reads := by
  refine Coro.uses_bind (I := Api) Reads _ _ (perform_reads _ (.agetTuple _)) (fun found => ?_)
  split
  · exact Coro.uses_of_except (I := Api) Reads _
  · trivial
  · exact Coro.uses_of_except (I := Api) Reads _

theorem require_checkpointer_reads : (requireCheckpointer config).Uses Reads := by
  rw [requireCheckpointer]
  split
  · trivial
  · trivial

theorem check_route_reads (reference : Option CheckpointReference) (threadId detail : String) :
    (checkRoute reference threadId detail).Uses Reads := by
  rw [checkRoute]
  split
  · trivial
  · trivial

inductive Claims : ServerOp → Prop where
  | plain (op : ServerOp) (plain : Plain op) : Claims op
  | claimAssistant (threadId assistantId : String) : Claims (.claimAssistant threadId assistantId)

theorem claims_of_plain {α : Type} (program : Coro Api α) (uses : program.Uses Plain) : program.Uses Claims :=
  Coro.uses_mono (I := Api) Plain Claims (fun op plain => .plain op plain) program uses

theorem claim_assistant_uses (threadId assistantId : String) :
    (perform (.claimAssistant threadId assistantId)).Uses Claims :=
  Coro.uses_perform (I := Api) Claims _ (.claimAssistant threadId assistantId)

inductive Owning : ServerOp → Prop where
  | reads (op : ServerOp) (reads : Reads op) : Owning op
  | claimAssistant (threadId assistantId : String) : Owning (.claimAssistant threadId assistantId)

theorem owning_claims (op : ServerOp) (owning : Owning op) : Claims op := by
  cases owning with
  | reads op reads => exact .plain op (reads_plain op reads)
  | claimAssistant threadId assistantId => exact .claimAssistant threadId assistantId

theorem get_thread_assistant_id_owning (threadId : String) : (getThreadAssistantId config threadId).Uses Owning := by
  refine Coro.uses_bind (I := Api) Owning _ _
    (Coro.uses_perform (I := Api) Owning _ (.reads _ (.getAssistantId threadId)))
    (fun recorded => ?_)
  split
  · trivial
  · trivial
  · refine Coro.uses_bind (I := Api) Owning _ _ (Coro.uses_perform (I := Api) Owning _ (.reads _ (.agetTuple _)))
      (fun found => ?_)
    split
    · trivial
    · split
      · trivial
      · exact Coro.uses_bind (I := Api) Owning _ _
          (Coro.uses_perform (I := Api) Owning _ (.claimAssistant threadId _)) (fun _ => trivial)

theorem get_thread_assistant_id_uses (threadId : String) : (getThreadAssistantId config threadId).Uses Claims :=
  Coro.uses_mono (I := Api) Owning Claims owning_claims _ (get_thread_assistant_id_owning config threadId)

theorem claim_thread_assistant_uses (threadId assistantId : String) :
    (claimThreadAssistant config threadId assistantId).Uses Claims := by
  refine Coro.uses_bind (I := Api) Claims _ _ (get_thread_assistant_id_uses config threadId) (fun existing => ?_)
  split
  · refine Coro.uses_try_catch (I := Api) Claims _ _ (claim_assistant_uses threadId assistantId) (fun error => ?_)
    split
    · trivial
    · trivial
  · trivial

theorem claim_for_run_uses (threadId : String) (request : RunCreate) (assistant : AssistantConfig) :
    (claimForRun platform config context threadId request assistant).Uses Claims := by
  refine Coro.uses_bind (I := Api) Claims _ _ ?_ (fun missing => ?_)
  · split
    · exact Coro.uses_bind (I := Api) Claims _ _
        (claims_of_plain _ (thread_exists_uses platform config context threadId))
        (fun _ => trivial)
    · trivial
  · split
    · trivial
    · exact Coro.uses_bind (I := Api) Claims _ _
        (claims_of_plain _ (get_or_create_thread_uses platform config context _ none))
        (fun _ => claim_thread_assistant_uses config threadId assistant.assistantId)

theorem create_thread_uses (request : ThreadCreate) : (createThread platform config context request).Uses Plain := by
  refine Coro.uses_bind (I := Api) Plain _ _ (thread_exists_uses platform config context _) (fun exists_ => ?_)
  split
  · exact raise_uses _
  · refine Coro.uses_try_catch (I := Api) Plain _ _ (get_or_create_thread_uses platform config context _ _)
      (fun error => ?_)
    split
    · exact raise_uses _
    · exact raise_uses _

theorem get_thread_uses (threadId : String) : (getThread platform config context threadId).Uses Plain := by
  refine Coro.uses_bind (I := Api) Plain _ _ (thread_exists_uses platform config context threadId) (fun exists_ => ?_)
  split
  · refine Coro.uses_bind (I := Api) Plain _ _ (get_or_create_thread_uses platform config context _ none)
      (fun thread => ?_)
    refine Coro.uses_bind (I := Api) Plain _ _ (thread_from_checkpoint_uses platform config context threadId)
      (fun found => ?_)
    split
    · exact pure_uses _
    · exact pure_uses _
  · exact raise_uses _

theorem get_state_reads (threadId : String) : (getState platform config context threadId).Uses Reads := by
  refine Coro.uses_bind (I := Api) Reads _ _ (require_checkpointer_reads config) (fun _ => ?_)
  refine Coro.uses_bind (I := Api) Reads _ _ (thread_exists_reads platform config context threadId) (fun exists_ => ?_)
  split
  · exact get_thread_state_reads platform context threadId none ""
  · trivial

theorem get_state_uses (threadId : String) : (getState platform config context threadId).Uses Plain :=
  reads_uses _ (get_state_reads platform config context threadId)

theorem get_state_checkpoint_uses (threadId : String) (checkpoint : Option CheckpointReference) :
    (getStateCheckpoint platform config context threadId checkpoint).Uses Plain := by
  refine Coro.uses_bind (I := Api) Plain _ _ (reads_uses _ (require_checkpointer_reads config)) (fun _ => ?_)
  refine Coro.uses_bind (I := Api) Plain _ _ (reads_uses _ (check_route_reads _ _ _)) (fun _ => ?_)
  refine Coro.uses_bind (I := Api) Plain _ _ (thread_exists_uses platform config context threadId) (fun exists_ => ?_)
  split
  · refine Coro.uses_bind (I := Api) Plain _ _ (get_or_create_thread_uses platform config context _ none) (fun _ => ?_)
    refine Coro.uses_try_catch (I := Api) Plain _ _
      (reads_uses _ (get_thread_state_reads platform context threadId _ _))
      (fun error => ?_)
    rw [lookupNotFound.eq_def]
    split
    · exact raise_uses _
    · exact raise_uses _
  · exact raise_uses _

theorem get_history_reads (threadId : String) (request : HistoryRequest) :
    (getHistory platform config context threadId request).Uses Reads := by
  refine Coro.uses_bind (I := Api) Reads _ _ (require_checkpointer_reads config) (fun _ => ?_)
  refine Coro.uses_bind (I := Api) Reads _ _ (check_route_reads _ _ _) (fun _ => ?_)
  refine Coro.uses_bind (I := Api) Reads _ _ (check_route_reads _ _ _) (fun _ => ?_)
  exact Coro.uses_bind (I := Api) Reads _ _ (perform_reads _ (.alist _ _ _ _))
    (fun _ => Coro.uses_of_except (I := Api) Reads _)

theorem get_history_uses (threadId : String) (request : HistoryRequest) :
    (getHistory platform config context threadId request).Uses Plain :=
  reads_uses _ (get_history_reads platform config context threadId request)

end Uses

variable {platform : Platform} {config : ServerConfig}

-- What resolving and claiming an owner asks of a discipline: an assertion of the task that
-- survives it, and when a claim is allowed.
structure StoreRules (discipline : Discipline (serverMachine platform config.checkpointer.isSome)) (id : TaskId)
    (assertion : ServerState → Prop) (claimable : String → String → ServerState → Prop) : Prop where
  stable : discipline.Stable id assertion
  plain : ∀ op, Plain op → discipline.Steps id op assertion assertion
  claims : ∀ threadId assistantId, discipline.Steps id (.claimAssistant threadId assistantId)
    (fun state => assertion state ∧ claimable threadId assistantId state) assertion
  lasting : ∀ threadId assistantId, discipline.Stable id (claimable threadId assistantId)
  owned : ∀ state threadId assistantId, state.ownerOf threadId = some assistantId → claimable threadId assistantId state
  resolved : ∀ state threadId assistantId, discipline.inv state →
    (state.latestMarker config.checkpointer.isSome threadId = none ∨
      state.latestMarker config.checkpointer.isSome threadId = some assistantId) →
    claimable threadId assistantId state

theorem plain_steps (discipline : Discipline (serverMachine platform config.checkpointer.isSome)) (id : TaskId)
    (assertion : ServerState → Prop) (op : ServerOp) (plain : Plain op)
    (keeps : ∀ before after, discipline.inv before → assertion before → Untouched before after →
      discipline.Allows id before after ∧ assertion after)
    (leaves : ∀ state, discipline.leaves id op state) : discipline.Steps id op assertion assertion := by
  constructor
  · intro now inv held _
    exact keeps now _ inv held (plain_untouched platform config.checkpointer.isSome id op plain now)
  · intro now error inv held _ _
    obtain ⟨allowed, after⟩ := keeps now now inv held (untouched_refl now)
    have same : (serverMachine platform config.checkpointer.isSome).struck id op error now = now :=
      plain_struck id op plain error now
    rw [same]
    exact ⟨allowed, leaves now, after⟩

namespace StoreRules

variable {discipline : Discipline (serverMachine platform config.checkpointer.isSome)} {id : TaskId}
    {assertion : ServerState → Prop} {claimable : String → String → ServerState → Prop}
    {consumer : Consumer Api ServerState} {gone : ServerState → Prop}

theorem carries_plain {α : Type} (rules : StoreRules discipline id assertion claimable) (program : Coro Api α)
    (uses : program.Uses Plain) : discipline.Carries consumer id assertion program assertion gone :=
  discipline.carries_uses program Plain rules.stable rules.plain uses

theorem wp_plain_op (rules : StoreRules discipline id assertion claimable) (op : ServerOp) (plain : Plain op)
    (post exit : Post Api ServerState op.Result) (state : ServerState) (held : assertion state)
    (answered : ∀ now, discipline.inv now → assertion now →
      assertion (ServerState.perform platform config.checkpointer.isSome id op now).1 →
      post (ServerState.perform platform config.checkpointer.isSome id op now).2
        (ServerState.perform platform config.checkpointer.isSome id op now).1)
    (failed : ∀ error now, assertion now → post (.error error) now) :
    discipline.wp consumer id (perform op) post exit state := by
  apply discipline.wp_perform
  · intro now relied kept permitted
    have still := rules.stable state now relied kept held
    obtain ⟨allowed, after⟩ := (rules.plain op plain).goes now kept still permitted
    exact ⟨allowed, answered now kept still after⟩
  · intro now relied kept error possible permitted
    have still := rules.stable state now relied kept held
    obtain ⟨allowed, leaves, after⟩ := (rules.plain op plain).strikes now error kept still possible permitted
    exact ⟨allowed, leaves, failed error _ after⟩

theorem wp_claim_assistant (rules : StoreRules discipline id assertion claimable) (threadId assistantId : String)
    (exit : Post Api ServerState Unit) (state : ServerState) (held : assertion state)
    (allowed : claimable threadId assistantId state) :
    discipline.wp consumer id (perform (.claimAssistant threadId assistantId))
      (fun outcome after => assertion after ∧ (outcome = .ok () → after.ownerOf threadId = some assistantId))
        exit state := by
  apply discipline.wp_perform
  · intro now relied kept permitted
    have still := rules.stable state now relied kept held
    have may := rules.lasting threadId assistantId state now relied kept allowed
    obtain ⟨fits, after⟩ := (rules.claims threadId assistantId).goes now kept ⟨still, may⟩ permitted
    apply And.intro fits
    apply And.intro after
    intro answered
    rcases now.store.claim_assistant_cases threadId assistantId
      with ⟨_, _, owners⟩ | ⟨_, ⟨_, refused⟩ | ⟨_, _, _, refused⟩⟩
    · exact (owners threadId).trans (if_pos rfl)
    · cases refused.symm.trans answered
    · cases refused.symm.trans answered
  · intro now relied kept error possible permitted
    have still := rules.stable state now relied kept held
    have may := rules.lasting threadId assistantId state now relied kept allowed
    obtain ⟨fits, leaves, after⟩ := (rules.claims threadId assistantId).strikes now error kept
      ⟨still, may⟩ possible permitted
    exact ⟨fits, leaves, after, fun answered => by cases answered⟩

-- What resolving an owner tells: the owner that is recorded now, or that nobody's claim
-- would be at odds with the checkpoints.
def Resolves (assertion : ServerState → Prop) (claimable : String → String → ServerState → Prop) (threadId : String) :
    Post Api ServerState (Option String)
  | .ok (some owner), after => assertion after ∧ after.ownerOf threadId = some owner
  | .ok none, after => assertion after ∧ ∀ assistantId, claimable threadId assistantId after
  | .error _, after => assertion after

theorem wp_get_thread_assistant_id (rules : StoreRules discipline id assertion claimable) (threadId : String)
    (exit : Post Api ServerState (Option String)) (state : ServerState) (held : assertion state) :
    discipline.wp consumer id (getThreadAssistantId config threadId) (Resolves assertion claimable threadId)
      exit state := by
  apply discipline.wp_bind
  apply rules.wp_plain_op (.getAssistantId threadId) (.getAssistantId threadId) _ _ state held
  · intro now kept still _
    simp only [ServerState.perform]
    split
    · rename_i owner recorded
      exact ⟨still, recorded⟩
    · rename_i absent
      apply And.intro still
      intro assistantId
      apply rules.resolved now threadId assistantId kept
      apply Or.inl
      rw [ServerState.latestMarker, absent]
      rfl
    · rename_i saver present
      apply discipline.wp_bind
      apply rules.wp_plain_op (.agetTuple _) (.agetTuple _) _ _ now still
      · intro later keptLater stillLater _
        have latest : later.latestMarker config.checkpointer.isSome threadId =
            (later.agetTuple (checkpointConfig threadId none "")).bind checkpointAssistantId := by
          rw [ServerState.latestMarker, present]
          rfl
        simp only [ServerState.perform]
        split
        · rename_i missing
          apply And.intro stillLater
          intro assistantId
          apply rules.resolved later threadId assistantId keptLater
          rw [latest, missing]
          exact Or.inl rfl
        · rename_i item found
          rw [found, Option.bind_some] at latest
          cases marker : checkpointAssistantId item with
          | none =>
              apply And.intro stillLater
              intro assistantId
              apply rules.resolved later threadId assistantId keptLater
              exact Or.inl (latest.trans marker)
          | some owner =>
              have may := rules.resolved later threadId owner keptLater (Or.inr (latest.trans marker))
              apply discipline.wp_bind
              apply discipline.wp_imp _ _ _ _ later (rules.wp_claim_assistant threadId owner _ later stillLater may)
              intro outcome after claimed
              cases outcome with
              | ok value => exact ⟨claimed.1, claimed.2 rfl⟩
              | error error => exact claimed.1
      · intro error later stillLater
        exact stillLater
  · intro error now still
    exact still

theorem conflict_raises (error : ServerError) : ∃ raised, (match error with
    | ServerError.threadAssistantConflict message => (raise (.http 409 message) : Coro Api Unit)
    | error => raise error) = raise raised := by
  cases error <;> exact ⟨_, rfl⟩

theorem wp_claim_thread_assistant (rules : StoreRules discipline id assertion claimable) (threadId assistantId : String)
    (exit : Post Api ServerState Unit) (state : ServerState) (held : assertion state) :
    discipline.wp consumer id (claimThreadAssistant config threadId assistantId)
      (fun outcome after => assertion after ∧ (outcome = .ok () → after.ownerOf threadId = some assistantId))
        exit state := by
  apply discipline.wp_bind
  apply discipline.wp_imp _ _ _ _ state (rules.wp_get_thread_assistant_id threadId _ state held)
  intro outcome after resolved
  have failed : ∀ (error : ServerError) (now : ServerState), assertion now →
      assertion now ∧ ((Except.error error : Except ServerError Unit) = .ok () →
        now.ownerOf threadId = some assistantId) :=
    fun error now still => ⟨still, fun answered => by cases answered⟩
  have claims : ∀ (handler : ServerError → Coro Api Unit), (∀ error, ∃ raised, handler error = raise raised) →
      ∀ now, assertion now → claimable threadId assistantId now →
      discipline.wp consumer id ((perform (.claimAssistant threadId assistantId)).tryCatch handler)
      (fun outcome after => assertion after ∧ (outcome = .ok () → after.ownerOf threadId = some assistantId))
      exit now := by
    intro handler raises now still may
    apply discipline.wp_handle
    apply discipline.wp_imp _ _ _ _ now (rules.wp_claim_assistant threadId assistantId _ now still may)
    intro outcome after claimed
    cases outcome with
    | ok value => exact ⟨claimed.1, fun _ => claimed.2 rfl⟩
    | error error =>
        obtain ⟨raised, same⟩ := raises error
        dsimp only
        rw [same]
        exact failed raised after claimed.1
  cases outcome with
  | error error => exact failed error after resolved
  | ok existing =>
      dsimp only
      split
      · rename_i fits
        rcases fits with unowned | own
        · subst unowned
          exact claims _ conflict_raises after resolved.1 (resolved.2 assistantId)
        · subst own
          exact claims _ conflict_raises after resolved.1 (rules.owned after threadId assistantId resolved.2)
      · cases existing with
        | none => exact failed _ after resolved.1
        | some owner => exact failed _ after resolved.1

theorem carries_claim_thread_assistant (rules : StoreRules discipline id assertion claimable)
    (threadId assistantId : String) :
    discipline.Carries consumer id assertion (claimThreadAssistant config threadId assistantId) assertion gone := by
  intro state held
  exact discipline.wp_imp _ _ _ _ state (rules.wp_claim_thread_assistant threadId assistantId _ state held)
    (fun _ _ claimed => claimed.1)

end StoreRules

end LangGraphServer
