import LangGraphServer.Server.LeaseRoutes

set_option autoImplicit false

namespace LangGraphServer

open Collections Coroutine

section Updates

variable {config : ServerConfig} {scope : Scope} {platform : Platform} {request : Nat} {threadId : String}
    {consumer : Consumer Api ServerState} {gone : ServerState → Prop}

theorem update_lasting : Mutation.update ≠ .deletion := by
  intro deletion
  cases deletion

theorem carries_waiting {α : Type} (lease : RunLease) (mutation : Mutation) (program : Coro Api α)
    (uses : program.Uses Plain) :
    (leaseDiscipline platform config scope).Carries consumer ⟨request, false⟩ (Waiting request lease mutation) program
      (Waiting request lease mutation) gone :=
  (lease_rules platform ⟨request, false⟩ _ (waiting_stable platform request lease mutation)
    waiting_survives).carries_plain program uses

-- The graph that an update runs is that of the thread's recorded owner.
theorem carries_update_graph (lease : RunLease) (assistantId : String) (runnableConfig : RunnableConfig)
    (call : GraphCall)
    (handler : ServerError → Coro Api PyObj) (raises : ∀ error, ∃ response, handler error = raise response)
    (marks : MarksThread runnableConfig lease.threadId assistantId)
    (writes : call.Writes (WrittenUnder scope assistantId)) :
    (leaseDiscipline platform config scope).Carries consumer ⟨request, false⟩
      (Working scope request lease .update assistantId false)
      ((withTimeout config.runTimeoutSeconds (mutating (some assistantId) (call.awaited runnableConfig))).tryCatch
        handler)
      (Ours scope request lease) (fun _ => False) := by
  have settles : ∀ state, Working scope request lease .update assistantId false state →
    Ours scope request lease state :=
    working_ours
  apply Discipline.carries_catch _ _ _ _ settles
  · intro error
    obtain ⟨response, same⟩ := raises error
    rw [same]
    exact Discipline.carries_raise _ _ settles
  · intro error
    exact Discipline.closes_nothing _ _
  · apply carries_with_timeout
    apply carries_mutating _ _ update_lasting
    · intro named names
      cases names
    · exact carries_awaited runnableConfig marks update_lasting call writes

theorem carries_update_under_lease (context : RequestContext) (body : StateUpdate) (lease : RunLease)
    (graphs : config.GraphsWrite (fun _ => True) (WrittenUnder scope)) :
    (leaseDiscipline platform config scope).Carries consumer ⟨request, false⟩ (Waiting request lease .update)
      (updateUnderLease platform config context lease.threadId body) (Ours scope request lease) (fun _ => False) := by
  have rules : StoreRules (leaseDiscipline platform config scope) ⟨request, false⟩ (Waiting request lease .update)
      (LeaseClaimable scope) :=
    lease_rules platform ⟨request, false⟩ _ (waiting_stable platform request lease .update) waiting_survives
  apply Discipline.carries_bind _ _ _ (carries_waiting lease .update _
    (get_or_create_thread_uses platform config context _ none)) _ waiting_ours
  intro thread state waits
  apply Discipline.wp_bind
  apply Discipline.wp_imp _ _ _ _ _ state (rules.wp_get_thread_assistant_id lease.threadId _ state waits)
  intro outcome after resolved
  cases outcome with
  | error error => exact waiting_ours after resolved
  | ok owner =>
      cases owner with
      | none => exact waiting_ours after resolved.1
      | some assistantId =>
          have works : Working scope request lease .update assistantId false after :=
            ⟨resolved.1.found, resolved.1.held, fun _ => resolved.2⟩
          have ours := working_ours after works
          dsimp only
          split
          · exact ours
          · apply Discipline.carries_except_bind _ _ _ _ working_ours after works
            intro graph found later still
            split
            · exact working_ours later still
            · rename_i update offered
              have marks := update_config_marks lease.threadId assistantId body.checkpoint
              have writes := (graph_writes config _ _ graphs assistantId graph found).aupdateState update offered
              apply carries_update_graph lease assistantId _ _ _ _ (marks _)
                (writes _ _ _ _ _ (marks _) trivial) later still
              intro error
              split
              · exact ⟨_, rfl⟩
              · exact ⟨_, rfl⟩
              · exact ⟨_, rfl⟩

theorem carries_update_state (context : RequestContext) (body : StateUpdate)
    (graphs : config.GraphsWrite (fun _ => True) (WrittenUnder scope)) :
    (leaseDiscipline platform config scope).Carries consumer ⟨request, false⟩ (Fresh request)
      (updateState platform config context threadId body) (fun _ => True) (fun _ => False) := by
  rw [updateState]
  split
  · exact Discipline.carries_raise _ _ (fun _ _ => trivial)
  · apply Discipline.carries_bind _ _ _ (carries_fresh _ (thread_exists_uses platform config context threadId)) _
      (fun _ _ => trivial)
    intro exists_
    split
    · apply carries_acquired .update
      · intro error
        cases error with
        | threadRunConflict message => exact ⟨_, rfl⟩
        | runCapacity message => exact ⟨_, rfl⟩
        | _ => exact ⟨_, rfl⟩
      · intro lease state acquired
        have same := acquired.thread
        subst same
        exact Discipline.carries_bind _ _ _
          (carries_release lease _ _ (carries_update_under_lease context body lease graphs))
          (fun _ => Discipline.carries_of_except _ _ (fun _ _ => trivial)) (fun _ _ => trivial) state acquired.waits
    · exact Discipline.carries_raise _ _ (fun _ _ => trivial)

end Updates

end LangGraphServer
