import LangGraphServer.Server.LeaseStreams

set_option autoImplicit false

namespace LangGraphServer

open Collections Coroutine

section Runs

variable {config : ServerConfig} {scope : Scope} {platform : Platform} {request : Nat} {threadId : String}
    {consumer : Consumer Api ServerState} {gone : ServerState → Prop}

structure Acquired (scope : Scope) (request : Nat) (threadId : String) (mutation : Mutation) (lease : RunLease)
    (state : ServerState) : Prop where
  thread : lease.threadId = threadId
  waits : Waiting request lease mutation state
  owned : scope.ownersKept → ∀ assistantId, mutation = .run assistantId → state.ownerOf threadId = some assistantId

theorem wp_acquire (mutation : Mutation) (exit : Post Api ServerState RunLease) (state : ServerState)
    (fresh : Fresh request state) :
    (leaseDiscipline platform config scope).wp consumer ⟨request, false⟩ (perform (.acquire threadId mutation))
      (fun outcome after => ∀ lease, outcome = .ok lease → Acquired scope request threadId mutation lease after)
        exit state := by
  apply Discipline.wp_perform
  · intro now relied inv permitted
    have absent := fresh_stable platform request state now relied inv fresh
    obtain ⟨allowed, taken⟩ := lease_acquire platform ⟨request, false⟩ threadId mutation now inv rfl absent
    apply And.intro allowed
    intro lease answered
    obtain ⟨thread, granted, found, held, store⟩ := taken lease answered
    constructor
    · exact thread
    · exact ⟨found, held⟩
    · intro asked assistantId runs
      subst runs
      rw [ServerState.ownerOf]
      show (ServerState.perform platform config.checkpointer.isSome ⟨request, false⟩
        (.acquire threadId (.run assistantId)) now).1.store.getAssistantId threadId = some assistantId
      rw [store]
      exact permitted asked ⟨lease, granted⟩
  · intro now relied inv error _ _
    exact ⟨lease_untouched platform _ now now inv (untouched_refl now), trivial, fun lease answered => by
      cases answered⟩

theorem carries_acquired {α : Type} (mutation : Mutation) (handler : ServerError → Coro Api RunLease)
    (raises : ∀ error, ∃ response, handler error = raise response) (next : RunLease → Coro Api α)
    (rest : ∀ lease, (leaseDiscipline platform config scope).Carries consumer ⟨request, false⟩
      (Acquired scope request threadId mutation lease) (next lease) (fun _ => True) gone) :
    (leaseDiscipline platform config scope).Carries consumer ⟨request, false⟩ (Fresh request)
      ((perform (.acquire threadId mutation)).tryCatch handler >>= next) (fun _ => True) gone := by
  intro state fresh
  apply Discipline.wp_bind
  apply Discipline.wp_handle
  apply Discipline.wp_imp _ _ _ _ _ state (wp_acquire mutation _ state fresh)
  intro outcome after acquired
  cases outcome with
  | ok lease => exact rest lease after (acquired lease rfl)
  | error error =>
      obtain ⟨response, raised⟩ := raises error
      show (leaseDiscipline platform config scope).wp consumer _ (handler error) _ _ after
      rw [raised]
      trivial

theorem carries_fresh {α : Type} (program : Coro Api α) (uses : program.Uses Plain) :
    (leaseDiscipline platform config scope).Carries consumer ⟨request, false⟩ (Fresh request) program
    (Fresh request) gone :=
  (lease_rules platform ⟨request, false⟩ _ (fresh_stable platform request) fresh_survives).carries_plain program uses

theorem carries_claim_for_run (context : RequestContext) (body : RunCreate) (assistant : AssistantConfig) :
    (leaseDiscipline platform config scope).Carries consumer ⟨request, false⟩ (Fresh request)
      (claimForRun platform config context threadId body assistant) (Fresh request) gone := by
  have same : ∀ state, Fresh request state → Fresh request state := fun _ fresh => fresh
  apply Discipline.carries_bind _ _ _ _ _ same
  · apply carries_fresh
    split
    · apply Coro.uses_bind (I := Api) Plain
      · exact thread_exists_uses platform config context threadId
      · intro exists_
        exact pure_uses _
    · exact pure_uses _
  · intro missing
    split
    · exact Discipline.carries_raise _ _ same
    · apply Discipline.carries_bind _ _ _ (carries_fresh _ (get_or_create_thread_uses platform config context _ _)) _
        same
      intro _
      exact (lease_rules platform ⟨request, false⟩ _ (fresh_stable platform request)
        fresh_survives).carries_claim_thread_assistant threadId assistant.assistantId

theorem carries_release {α : Type} (lease : RunLease) (pre : ServerState → Prop) (program : Coro Api α)
    (carries : (leaseDiscipline platform config scope).Carries consumer ⟨request, false⟩ pre program
      (Ours scope request lease) (fun _ => False)) :
    (leaseDiscipline platform config scope).Carries consumer ⟨request, false⟩ pre
      (program.tryFinally (perform (.release lease))) (Ours scope request lease) (fun _ => False) :=
  Discipline.carries_finally _ _ _ carries
    (Discipline.carries_perform _ _ (ours_stable platform request lease) (release_steps platform))
    (fun _ ended => ended.elim)

theorem acquired_working (assistantId : String) (lease : RunLease) (state : ServerState)
    (acquired : Acquired scope request threadId (.run assistantId) lease state) :
    Working scope request lease (.run assistantId) assistantId false state :=
  ⟨acquired.waits.found, acquired.waits.held, fun asked => by
    rw [acquired.thread]
    exact acquired.owned asked assistantId rfl⟩

theorem run_lasting (assistantId : String) : Mutation.run assistantId ≠ .deletion := by
  intro deletion
  cases deletion

theorem carries_stream_response (context : RequestContext) (body : RunCreate) (assistant : AssistantConfig)
    (graph : GraphRuntime) (lease : RunLease) (writes : graph.Writes (fun _ => True) (WrittenUnder scope)) :
    (leaseDiscipline platform config scope).Carries .anything ⟨request, false⟩
      (Working scope request lease (.run assistant.assistantId) assistant.assistantId false)
      (streamResponse platform config context lease.threadId body assistant graph lease) (Ours scope request lease)
      (fun _ => False) := by
  apply carries_respond _ (run_lasting assistant.assistantId)
  intro inner streams
  apply carries_run_with_lease _ _ streams
  intro nested passes
  exact carries_stream_graph_response context assistant _ graph _ _ _ writes rfl rfl passes

theorem carries_stream_run (context : RequestContext) (body : RunCreate)
    (graphs : config.GraphsWrite (fun _ => True) (WrittenUnder scope)) :
    (leaseDiscipline platform config scope).Carries .anything ⟨request, false⟩ (Fresh request)
      (streamRunWithThread platform config context threadId body) (fun _ => True) (fun _ => False) := by
  rw [streamRunWithThread]
  split
  · exact Discipline.carries_raise _ _ (fun _ _ => trivial)
  · apply Discipline.carries_bind _ _ _ (Discipline.carries_of_except _ _ (fun _ fresh => fresh)) _ (fun _ _ => trivial)
    intro assistant
    apply Discipline.carries_bind _ _ _ (carries_claim_for_run context body assistant) _ (fun _ _ => trivial)
    intro _
    apply carries_acquired (.run assistant.assistantId)
    · intro error
      cases error with
      | threadRunConflict message => exact ⟨_, rfl⟩
      | runCapacity message => exact ⟨_, rfl⟩
      | _ => exact ⟨_, rfl⟩
    · intro lease state acquired
      have works := acquired_working assistant.assistantId lease state acquired
      have same := acquired.thread
      subst same
      apply Discipline.carries_except_bind _ _ _ _ (fun _ _ => trivial) state works
      intro graph found
      exact Discipline.carries_mono _ _ _ _ (carries_stream_response context body assistant graph lease
        (graph_writes config _ _ graphs _ graph found)) (fun _ _ => trivial) (fun _ ended => ended)

theorem carries_invoke_under_lease (assistant : AssistantConfig) (payload : Metadata) (runnableConfig : RunnableConfig)
    (lease : RunLease) (marks : MarksThread runnableConfig lease.threadId assistant.assistantId)
    (graphs : config.GraphsWrite (fun _ => True) (WrittenUnder scope)) :
    (leaseDiscipline platform config scope).Carries consumer ⟨request, false⟩
      (Working scope request lease (.run assistant.assistantId) assistant.assistantId false)
      (invokeUnderLease config assistant payload runnableConfig) (Ours scope request lease) (fun _ => False) := by
  have settles : ∀ state, Working scope request lease (.run assistant.assistantId) assistant.assistantId false state →
      Ours scope request lease state := working_ours
  apply Discipline.carries_catch _ _ _ _ settles
  · intro error
    split
    · exact Discipline.carries_raise _ _ settles
    · exact Discipline.carries_raise _ _ settles
    · exact Discipline.carries_raise _ _ settles
  · intro error
    exact Discipline.closes_nothing _ _
  · apply carries_with_timeout
    apply Discipline.carries_except_bind _ _ _ _ (fun _ works => works)
    intro graph found
    have writes := graph_writes config _ _ graphs _ graph found
    apply Discipline.carries_bind _ _ _ _ (fun _ => Discipline.carries_ret _ () (fun _ works => works))
      (fun _ works => works)
    apply Discipline.carries_bind _ _ _ _ _ (fun _ works => works)
    · apply carries_mutating _ _ (run_lasting assistant.assistantId)
      · intro named names
        cases names
        rfl
      · exact carries_awaited runnableConfig marks (run_lasting assistant.assistantId) _ (writes.ainvoke _ _ _ _ marks)
    · intro result
      split
      · exact Discipline.carries_ret _ _ (fun _ works => works)
      · exact Discipline.carries_raise _ _ (fun _ works => works)

theorem carries_create_run (context : RequestContext) (body : RunCreate)
    (graphs : config.GraphsWrite (fun _ => True) (WrittenUnder scope)) :
    (leaseDiscipline platform config scope).Carries consumer ⟨request, false⟩ (Fresh request)
      (createRun platform config context threadId body) (fun _ => True) (fun _ => False) := by
  rw [createRun]
  split
  · exact Discipline.carries_raise _ _ (fun _ _ => trivial)
  · apply Discipline.carries_bind _ _ _ (Discipline.carries_of_except _ _ (fun _ fresh => fresh)) _ (fun _ _ => trivial)
    intro assistant
    apply Discipline.carries_bind _ _ _ (carries_claim_for_run context body assistant) _ (fun _ _ => trivial)
    intro _
    apply Discipline.carries_bind _ _ _ (Discipline.carries_of_except _ _ (fun _ fresh => fresh)) _ (fun _ _ => trivial)
    intro payload
    apply carries_acquired (.run assistant.assistantId)
    · intro error
      cases error with
      | threadRunConflict message => exact ⟨_, rfl⟩
      | runCapacity message => exact ⟨_, rfl⟩
      | _ => exact ⟨_, rfl⟩
    · intro lease state acquired
      have works := acquired_working assistant.assistantId lease state acquired
      have same := acquired.thread
      subst same
      have marks := build_runnable_config_marks lease.threadId assistant.assistantId body.config body.checkpointId
      exact Discipline.carries_bind _ _ _ (carries_release lease _ _
        (carries_invoke_under_lease assistant payload _ lease marks graphs))
        (fun _ => Discipline.carries_ret _ _ (fun _ _ => trivial)) (fun _ _ => trivial) state works

end Runs

end LangGraphServer
