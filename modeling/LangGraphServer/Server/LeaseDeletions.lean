import LangGraphServer.Server.LeaseUpdates

set_option autoImplicit false

namespace LangGraphServer

open Collections Coroutine

-- A deletion under way. Once its worker is interrupted, it may be over before the task knows.
structure Deleting (request : Nat) (lease : RunLease) (state : ServerState) : Prop where
  found : ∃ live, state.progress.get? request = some ⟨lease, .deletion, live, false⟩
  held : state.holds lease = true

structure Cleared (scope : Scope) (request : Nat) (lease : RunLease) (state : ServerState) : Prop where
  deleting : Deleting request lease state
  empty : scope.ownersKept → state.items lease.threadId = []

structure Emptied (config : ServerConfig) (scope : Scope) (request : Nat) (lease : RunLease)
    (state : ServerState) : Prop where
  waits : Waiting request lease .deletion state
  empty : scope.ownersKept → config.checkpointer.isSome = true → state.items lease.threadId = []

section Deletions

variable {config : ServerConfig} {scope : Scope} {platform : Platform} {request : Nat} {lease : RunLease}
    {threadId : String} {consumer : Consumer Api ServerState} {gone : ServerState → Prop}

theorem deleting_stable : (leaseDiscipline platform config scope).Stable ⟨request, false⟩ (Deleting request lease) := by
  intro state now relied _ deleting
  obtain ⟨live, found⟩ := deleting.found
  obtain ⟨after, still, _⟩ := relied.kept _ found
  exact ⟨⟨after, still⟩, (relied.held _ found rfl deleting.held).1⟩

theorem cleared_stable : (leaseDiscipline platform config scope).Stable ⟨request, false⟩
    (Cleared scope request lease) := by
  intro state now relied inv cleared
  obtain ⟨live, found⟩ := cleared.deleting.found
  obtain ⟨_, keeps⟩ := relied.held _ found rfl cleared.deleting.held
  exact ⟨deleting_stable state now relied inv cleared.deleting, fun asked => (keeps asked).2 (cleared.empty asked)⟩

theorem emptied_stable : (leaseDiscipline platform config scope).Stable ⟨request, false⟩
    (Emptied config scope request lease) := by
  intro state now relied inv emptied
  obtain ⟨_, keeps⟩ := relied.held _ emptied.waits.found rfl emptied.waits.held
  exact ⟨waiting_stable platform request lease .deletion state now relied inv emptied.waits,
    fun asked present => (keeps asked).2 (emptied.empty asked present)⟩

theorem emptied_ours (state : ServerState) (emptied : Emptied config scope request lease state) :
    Ours scope request lease state :=
  waiting_ours state emptied.waits

theorem begin_deletion_steps :
    (leaseDiscipline platform config scope).Steps ⟨request, false⟩ (.begin none) (Waiting request lease .deletion)
      (Deleting request lease) := by
  constructor
  · intro now inv waits _
    have after : ((serverMachine platform config.checkpointer.isSome).perform ⟨request, false⟩ (.begin none) now).1 =
      _ :=
      now.perform_begin_found platform config.checkpointer.isSome ⟨request, false⟩ none _ waits.found
    rw [after]
    constructor
    · apply progress_step_allowed platform ⟨request, false⟩ now _ _ true false inv
      constructor
      · exact waits.found
      · exact fun query => Dict.get_set _ _ query _
      · rfl
      · rfl
      · rfl
      · exact fun _ _ => waits.held
      · intro _ _ named names
        cases names
      · intro given
        cases given
      · intro helps
        cases helps
    · exact ⟨⟨true, (Dict.get_set _ _ _ _).trans (if_pos rfl)⟩, waits.held⟩
  · intro now error inv waits possible _
    cases possible

-- Only where workers are not waited for is one left behind.
theorem wp_delete_checkpoints (exit : Post Api ServerState Unit) (state : ServerState)
    (deleting : Deleting request lease state) :
    (leaseDiscipline platform config scope).wp consumer ⟨request, false⟩ (perform (.deleteCheckpoints lease.threadId))
      (fun outcome after => match outcome with
        | .ok _ => Cleared scope request lease after
        | .error _ => ¬ scope.workersFinish ∧ Deleting request lease after) exit state := by
  have stable : (leaseDiscipline platform config scope).Stable ⟨request, false⟩ (Deleting request lease) :=
    deleting_stable
  apply Discipline.wp_perform
  · intro now relied inv _
    have still := stable state now relied inv deleting
    apply And.intro (lease_delete_checkpoints platform ⟨request, false⟩ lease.threadId now inv)
    exact ⟨⟨still.found, still.held⟩, fun _ => (items_delete_checkpoints now lease.threadId lease.threadId).trans
      (if_pos rfl)⟩
  · intro now relied inv error _ permitted
    have still := stable state now relied inv deleting
    obtain ⟨live, found⟩ := still.found
    exact ⟨lease_untouched platform _ now now inv (untouched_refl now), ⟨_, found, rfl⟩, permitted, still⟩

theorem end_deletion_allowed (platform : Platform) (id : TaskId) (now : ServerState) (progress : Progress)
    (inv : LeaseInvariant config scope now)
    (found : now.progress.get? id.request = some progress) (deletion : progress.mutation = .deletion) :
    (leaseDiscipline platform config scope).Allows id now
        (now.updateProgress id.request (fun progress => { progress with live := false })) ∧
      (now.updateProgress id.request (fun progress => { progress with live := false })).progress.get? id.request =
        some { progress with live := false } := by
  rw [now.update_progress_found id.request _ progress found]
  constructor
  · apply progress_step_allowed platform id now _ progress false progress.given inv
    constructor
    · exact found
    · exact fun query => Dict.get_set _ _ query _
    · rfl
    · rfl
    · rfl
    · intro alive
      cases alive
    · intro _ alive
      cases alive
    · exact fun given => ⟨given, fun _ => rfl⟩
    · exact fun _ => ⟨rfl, Or.inr ⟨deletion, rfl⟩⟩
  · exact (Dict.get_set _ _ _ _).trans (if_pos rfl)

theorem finish_deletion_steps :
    (leaseDiscipline platform config scope).Steps ⟨request, false⟩ .finish (Cleared scope request lease)
      (Emptied config scope request lease) := by
  constructor
  · intro now inv cleared _
    obtain ⟨live, found⟩ := cleared.deleting.found
    obtain ⟨allowed, after⟩ := end_deletion_allowed platform ⟨request, false⟩ now _ inv found rfl
    have frame := now.update_progress_found request (fun progress => { progress with live := false }) _ found
    apply And.intro allowed
    constructor
    · constructor
      · exact after
      · show (now.updateProgress request _).holds lease = true
        rw [frame]
        exact cleared.deleting.held
    · intro asked _
      show (now.updateProgress request _).items lease.threadId = []
      rw [frame]
      exact cleared.empty asked
  · intro now error inv cleared possible _
    cases possible

def Deletes (config : ServerConfig) (scope : Scope) (request : Nat) (lease : RunLease) : Post Api ServerState Unit
  | .ok _, after => Emptied config scope request lease after
  | .error _, after => Ours scope request lease after

theorem wp_adelete_thread (state : ServerState) (waits : Waiting request lease .deletion state) :
    (leaseDiscipline platform config scope).wp consumer ⟨request, false⟩ (adeleteThread config lease.threadId)
      (Deletes config scope request lease) (closedWith (fun _ => False)) state := by
  rw [adeleteThread]
  split
  · rename_i missing
    exact ⟨waits, fun _ present => by rw [missing] at present; cases present⟩
  · split
    · apply Discipline.wp_silent _ _ _ _ _ state (waiting_stable platform request lease .deletion)
        begin_deletion_steps _ _ waits
      · intro _ begun deleting
        apply Discipline.wp_bind
        apply Discipline.wp_imp _ _ _ _ _ begun (wp_delete_checkpoints _ begun deleting)
        intro outcome after ended
        cases outcome with
        | error error =>
            obtain ⟨unfinished, still⟩ := ended
            obtain ⟨live, found⟩ := still.found
            exact ⟨_, found, rfl, fun _ => ⟨rfl, unfinished⟩⟩
        | ok value =>
            apply Discipline.wp_silent _ _ _ _ _ after cleared_stable finish_deletion_steps _ _ ended
            · intro _ later emptied
              apply Discipline.wp_perform
              · intro now relied inv _
                exact ⟨lease_untouched platform _ now now inv (untouched_refl now),
                  emptied_stable later now relied inv emptied⟩
              · intro now relied inv error _ _
                exact ⟨lease_untouched platform _ now now inv (untouched_refl now), trivial,
                  emptied_ours now (emptied_stable later now relied inv emptied)⟩
            · intro now
              exact ⟨(), rfl⟩
            · intro error
              rfl
      · intro now
        exact ⟨(), now.perform_begin_answers platform config.checkpointer.isSome ⟨request, false⟩ none⟩
      · intro error
        rfl
    · exact waiting_ours state waits

theorem delete_thread_steps :
    (leaseDiscipline platform config scope).Steps ⟨request, false⟩ (.deleteThread lease.threadId)
      (Emptied config scope request lease) (Ours scope request lease) := by
  constructor
  · intro now inv emptied _
    have ours := emptied_ours now emptied
    apply And.intro _ ours
    apply lease_delete_thread platform ⟨request, false⟩ lease.threadId now _ inv
      ⟨rfl, emptied.waits.found, rfl, emptied.waits.held⟩ rfl
    intro asked
    cases present : config.checkpointer.isSome with
    | false => exact (inv.attributed asked).unsaved present lease.threadId
    | true => exact emptied.empty asked present
  · intro now error inv emptied _ _
    exact ⟨lease_untouched platform _ now now inv (untouched_refl now), trivial, emptied_ours now emptied⟩

theorem with_timeout_raises (error : ServerError) : ∃ other, (if error = .cancelled .timeout then raise .timeout
    else raise error : Coro Api Unit) = .raise other := by
  split
  · exact ⟨_, rfl⟩
  · exact ⟨_, rfl⟩

theorem wp_delete_with_timeout (state : ServerState) (waits : Waiting request lease .deletion state) :
    (leaseDiscipline platform config scope).wp consumer ⟨request, false⟩
      (withTimeout config.runTimeoutSeconds (adeleteThread config lease.threadId))
      (Deletes config scope request lease) (closedWith (fun _ => False)) state := by
  cases config.runTimeoutSeconds with
  | none => exact wp_adelete_thread state waits
  | some seconds =>
      exact Discipline.wp_reraise _ _ _ with_timeout_raises _ state (fun _ _ _ ours => ours)
        (wp_adelete_thread state waits)

theorem carries_delete_under_lease :
    (leaseDiscipline platform config scope).Carries consumer ⟨request, false⟩ (Waiting request lease .deletion)
      (deleteUnderLease config lease.threadId) (Ours scope request lease) (fun _ => False) := by
  intro state waits
  apply Discipline.wp_bind
  apply Discipline.wp_mono _ _ _ _ (Deletes config scope request lease) _ (closedWith (fun _ => False)) _ state
  · intro outcome after deleted
    cases outcome with
    | error error => exact deleted
    | ok value => exact Discipline.carries_perform _ _ emptied_stable delete_thread_steps after deleted
  · intro outcome after ended
    cases outcome with
    | ok value => exact ended.elim
    | error error => exact ended
  · apply Discipline.wp_reraise _ _ _ _ _ state (fun _ _ _ ours => ours) (wp_delete_with_timeout state waits)
    intro error
    split
    · exact ⟨_, rfl⟩
    · exact ⟨_, rfl⟩
    · exact ⟨_, rfl⟩

theorem carries_delete_thread :
    (leaseDiscipline platform config scope).Carries consumer ⟨request, false⟩ (Fresh request)
      (deleteThread config threadId) (fun _ => True) (fun _ => False) := by
  apply carries_acquired .deletion
  · intro error
    cases error with
    | threadRunConflict message => exact ⟨_, rfl⟩
    | runCapacity message => exact ⟨_, rfl⟩
    | _ => exact ⟨_, rfl⟩
  · intro lease state acquired
    have same := acquired.thread
    subst same
    exact Discipline.carries_mono _ _ _ _ (carries_release lease _ _ carries_delete_under_lease)
      (fun _ _ => trivial) (fun _ ended => ended) state acquired.waits

end Deletions

theorem carries_serve (platform : Platform) (config : ServerConfig) (scope : Scope)
    (context : RequestContext) (number : Nat)
    (request : Request) (graphs : config.GraphsWrite (fun _ => True) (WrittenUnder scope)) :
    (leaseDiscipline platform config scope).Carries .anything ⟨number, false⟩ (Fresh number)
      (serve platform config context request) (fun _ => True) (fun _ => False) := by
  have plain : ∀ {α : Type} (program : Coro Api α) (answer : α → Response), program.Uses Plain →
      (leaseDiscipline platform config scope).Carries .anything ⟨number, false⟩ (Fresh number)
        (program >>= fun value => pure (answer value)) (fun _ => True) (fun _ => False) :=
    fun program answer uses => Discipline.carries_bind _ _ _ (carries_fresh program uses)
      (fun _ => Discipline.carries_ret _ _ (fun _ _ => trivial)) (fun _ _ => trivial)
  have answered : ∀ {α : Type} (program : Coro Api α) (answer : α → Response),
      (leaseDiscipline platform config scope).Carries .anything ⟨number, false⟩ (Fresh number) program (fun _ => True)
        (fun _ => False) →
      (leaseDiscipline platform config scope).Carries .anything ⟨number, false⟩ (Fresh number)
        (program >>= fun value => pure (answer value)) (fun _ => True) (fun _ => False) :=
    fun program answer carries => Discipline.carries_bind _ _ _ carries
      (fun _ => Discipline.carries_ret _ _ (fun _ _ => trivial)) (fun _ _ => trivial)
  cases request with
  | createThread body => exact plain _ _ (create_thread_uses platform config context body)
  | getThread threadId => exact plain _ _ (get_thread_uses platform config context threadId)
  | getState threadId => exact plain _ _ (get_state_uses platform config context threadId)
  | getStateCheckpoint threadId checkpoint =>
      exact plain _ _ (get_state_checkpoint_uses platform config context threadId checkpoint)
  | getHistory threadId body => exact plain _ _ (get_history_uses platform config context threadId body)
  | updateState threadId body => exact answered _ _ (carries_update_state context body graphs)
  | deleteThread threadId => exact answered _ (fun _ => .noContent) carries_delete_thread
  | createRun threadId body => exact answered _ _ (carries_create_run context body graphs)
  | streamRun threadId body => exact answered _ (fun _ => .streamed) (carries_stream_run context body graphs)

end LangGraphServer
