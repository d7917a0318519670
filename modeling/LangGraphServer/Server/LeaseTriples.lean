import LangGraphServer.Server.LeaseSteps

set_option autoImplicit false

namespace LangGraphServer

open Collections Coroutine

-- What the main task of a request knows: that it has taken no lease yet, that it holds one
-- and nothing is live, that it works under one for an assistant, that it once took one.
def Fresh (request : Nat) (state : ServerState) : Prop := state.progress.get? request = none

structure Waiting (request : Nat) (lease : RunLease) (mutation : Mutation) (state : ServerState) : Prop where
  found : state.progress.get? request = some ⟨lease, mutation, false, false⟩
  held : state.holds lease = true

structure Working (scope : Scope) (request : Nat) (lease : RunLease) (mutation : Mutation) (assistantId : String)
    (live : Bool) (state : ServerState) : Prop where
  found : state.progress.get? request = some ⟨lease, mutation, live, false⟩
  held : state.holds lease = true
  owned : scope.ownersKept → state.ownerOf lease.threadId = some assistantId

def Ours (scope : Scope) (request : Nat) (lease : RunLease) (state : ServerState) : Prop :=
  ∃ progress, state.progress.get? request = some progress ∧ progress.lease = lease ∧ Settled scope progress

section Assertions

variable {config : ServerConfig} {scope : Scope} (platform : Platform) (request : Nat) (lease : RunLease)
    (mutation : Mutation) (assistantId : String)

theorem fresh_stable : (leaseDiscipline platform config scope).Stable ⟨request, false⟩ (Fresh request) :=
  fun _ _ relied _ absent => relied.absent absent

theorem waiting_stable :
    (leaseDiscipline platform config scope).Stable ⟨request, false⟩ (Waiting request lease mutation) := by
  intro state now relied _ waits
  constructor
  · obtain ⟨live, after, same⟩ := relied.kept _ waits.found
    rw [after]
    rcases same with still | ⟨_, ended⟩
    · rw [still]
    · rw [ended]
  · exact (relied.held _ waits.found rfl waits.held).1

theorem working_stable (live : Bool) (lasting : mutation ≠ .deletion) :
    (leaseDiscipline platform config scope).Stable ⟨request, false⟩
      (Working scope request lease mutation assistantId live) := by
  intro state now relied _ works
  obtain ⟨held, keeps⟩ := relied.held _ works.found rfl works.held
  constructor
  · obtain ⟨after, found, same⟩ := relied.kept _ works.found
    rw [found]
    rcases same with still | ⟨deletion, _⟩
    · rw [still]
    · exact absurd deletion lasting
  · exact held
  · intro asked
    exact (keeps asked).1 assistantId (works.owned asked)

theorem ours_stable : (leaseDiscipline platform config scope).Stable ⟨request, false⟩ (Ours scope request lease) := by
  intro state now relied _ ours
  obtain ⟨progress, found, own, settled⟩ := ours
  obtain ⟨live, after, same⟩ := relied.kept progress found
  apply Exists.intro _
  apply And.intro after
  apply And.intro own
  intro alive
  rcases same with still | ⟨_, ended⟩
  · exact settled (still.symm.trans alive)
  · cases ended.symm.trans alive

theorem let_go_stable : (leaseDiscipline platform config scope).Stable ⟨request, true⟩ (LetGo scope request lease) := by
  intro state now relied _ gone
  obtain ⟨progress, found, own, given, settled⟩ := gone
  obtain ⟨live, gave, after, keeps⟩ := relied.kept progress found
  obtain ⟨still, ends⟩ := keeps given
  apply Exists.intro _
  apply And.intro after
  apply And.intro own
  apply And.intro still
  intro alive
  cases before : progress.live with
  | true => exact settled before
  | false => cases (ends before).symm.trans alive

variable {request lease mutation assistantId}

theorem waiting_ours (state : ServerState) (waits : Waiting request lease mutation state) :
    Ours scope request lease state := ⟨_, waits.found, rfl, fun alive => by cases alive⟩

theorem working_ours (state : ServerState) (works : Working scope request lease mutation assistantId false state) :
    Ours scope request lease state := ⟨_, works.found, rfl, fun alive => by cases alive⟩

theorem lease_claimable_stable (id : TaskId) (threadId claimant : String) :
    (leaseDiscipline platform config scope).Stable id (LeaseClaimable scope threadId claimant) := by
  intro state now relied _ may asked unowned item member marked marks
  have inherits : Inherits state now := by
    obtain ⟨request, helper⟩ := id
    cases helper with
    | true => exact HelperUndisturbed.inherits relied asked
    | false => exact Undisturbed.inherits relied asked
  rcases inherits threadId unowned with cleared | ⟨absent, members⟩
  · rw [cleared] at member
    cases member
  · exact may asked absent item (members item member) marked marks

def SurvivesStore (assertion : ServerState → Prop) : Prop :=
  ∀ before after : ServerState, after.progress = before.progress → after.coordinator = before.coordinator →
    (∀ threadId owner, before.ownerOf threadId = some owner → after.ownerOf threadId = some owner) →
    assertion before → assertion after

theorem lease_rules (id : TaskId) (assertion : ServerState → Prop)
    (stable : (leaseDiscipline platform config scope).Stable id assertion) (survives : SurvivesStore assertion) :
    StoreRules (leaseDiscipline platform config scope) id assertion (LeaseClaimable scope) := by
  constructor
  · exact stable
  · intro op plain
    apply plain_steps _ id assertion op plain
    · intro before after inv held same
      exact ⟨lease_untouched platform id before after inv same, survives before after same.progress same.coordinator
        (fun threadId owner owned => (same.owners threadId).trans owned) held⟩
    · intro state
      cases plain with
      | getThread threadId => trivial
      | putThread thread => trivial
      | getAssistantId threadId => trivial
      | agetTuple lookup => trivial
      | alist lookup filter before limit => trivial
  · intro threadId claimant
    constructor
    · intro now inv held _
      exact ⟨lease_claim platform id threadId claimant now inv held.2,
        survives now _ rfl rfl (now.store.claim_assistant_keeps threadId claimant) held.1⟩
    · intro now error inv held _ _
      exact ⟨lease_untouched platform id now now inv (untouched_refl now), trivial, held.1⟩
  · exact lease_claimable_stable platform id
  · intro state threadId claimant owned _ unowned
    cases owned.symm.trans unowned
  · intro state threadId claimant inv latest asked unowned item member marked marks
    have rooted := (inv.attributed asked).rooted threadId unowned item member marked marks
    rcases latest with none_ | named
    · cases none_.symm.trans rooted
    · rw [named, Option.some.injEq] at rooted
      exact rooted.symm

theorem fresh_survives : SurvivesStore (Fresh request) := by
  intro before after progress _ _ absent
  rw [Fresh, progress]
  exact absent

theorem waiting_survives : SurvivesStore (Waiting request lease mutation) := by
  intro before after progress coordinator _ waits
  constructor
  · rw [progress]
    exact waits.found
  · rw [ServerState.holds, coordinator]
    exact waits.held

theorem working_survives (live : Bool) : SurvivesStore (Working scope request lease mutation assistantId live) := by
  intro before after progress coordinator owners works
  constructor
  · rw [progress]
    exact works.found
  · rw [ServerState.holds, coordinator]
    exact works.held
  · intro asked
    exact owners _ _ (works.owned asked)

theorem let_go_survives : SurvivesStore (LetGo scope request lease) := by
  intro before after progress _ _ gone
  rw [LetGo, progress]
  exact gone

end Assertions

section Operations

variable {config : ServerConfig} {scope : Scope} (platform : Platform) {request : Nat} {lease : RunLease}
    {mutation : Mutation} {assistantId : String}

theorem begin_steps (graphOf : Option String) (runs : ∀ named, mutation = .run named → named = assistantId) :
    (leaseDiscipline platform config scope).Steps ⟨request, false⟩ (.begin graphOf)
      (Working scope request lease mutation assistantId false)
      (Working scope request lease mutation assistantId true) := by
  constructor
  · intro now inv works _
    have after : ((serverMachine platform config.checkpointer.isSome).perform ⟨request, false⟩
      (.begin graphOf) now).1 = _ :=
      now.perform_begin_found platform config.checkpointer.isSome ⟨request, false⟩ graphOf _ works.found
    rw [after]
    constructor
    · apply progress_step_allowed platform ⟨request, false⟩ now _ _ true false inv
      constructor
      · exact works.found
      · exact fun query => Dict.get_set _ _ query _
      · rfl
      · rfl
      · rfl
      · exact fun _ _ => works.held
      · intro asked _ named names
        rw [runs named names]
        exact works.owned asked
      · intro given
        cases given
      · intro helps
        cases helps
    · exact ⟨(Dict.get_set _ _ _ _).trans (if_pos rfl), works.held, works.owned⟩
  · intro now error inv works possible _
    cases possible

theorem finish_steps :
    (leaseDiscipline platform config scope).Steps ⟨request, false⟩ .finish
      (Working scope request lease mutation assistantId true)
      (Working scope request lease mutation assistantId false) := by
  constructor
  · intro now inv works _
    have after : ((serverMachine platform config.checkpointer.isSome).perform ⟨request, false⟩ .finish now).1 = _ :=
      now.update_progress_found request (fun progress => { progress with live := false }) _ works.found
    rw [after]
    constructor
    · apply progress_step_allowed platform ⟨request, false⟩ now _ _ false false inv
      constructor
      · exact works.found
      · exact fun query => Dict.get_set _ _ query _
      · rfl
      · rfl
      · rfl
      · intro alive
        cases alive
      · intro _ alive
        cases alive
      · intro given
        cases given
      · intro helps
        cases helps
    · exact ⟨(Dict.get_set _ _ _ _).trans (if_pos rfl), works.held, works.owned⟩
  · intro now error inv works possible _
    cases possible

def WrittenUnder (scope : Scope) (assistantId : String) (item : CheckpointItem) : Prop :=
  scope.ownersKept → MarksNoOther assistantId item

theorem graph_steps (runnableConfig : RunnableConfig) (marks : MarksThread runnableConfig lease.threadId assistantId)
    (op : ServerOp) (graph : GraphOp runnableConfig (WrittenUnder scope assistantId) op) :
    (leaseDiscipline platform config scope).Steps ⟨request, false⟩ op
      (Working scope request lease mutation assistantId true)
      (Working scope request lease mutation assistantId true) := by
  constructor
  · intro now inv works _
    cases graph with
    | suspend => exact ⟨lease_untouched platform _ now now inv (untouched_refl now), works⟩
    | aput item written =>
        obtain ⟨store, _, coordinator, progress⟩ :=
          now.aput_frame platform config.checkpointer.isSome ⟨request, false⟩ runnableConfig item
        apply And.intro
        · exact lease_aput platform ⟨request, false⟩ lease.threadId assistantId runnableConfig item now _ inv marks
            ⟨rfl, works.found, rfl, works.held⟩ works.owned written
        · apply working_survives true now _ progress coordinator _ works
          intro threadId owner owned
          show (InMemoryThreadStore.getAssistantId _ threadId) = some owner
          rw [store]
          exact owned
  · intro now error inv works possible permitted
    cases graph with
    | suspend => exact ⟨lease_untouched platform _ now now inv (untouched_refl now), trivial, works⟩
    | aput item written => exact ⟨lease_untouched platform _ now now inv (untouched_refl now), permitted, works⟩

-- A task that is struck while it gives its lease back, or sends, has let go of it.
theorem given_step (id : TaskId) (now : ServerState) (progress : Progress) (inv : LeaseInvariant config scope now)
    (found : now.progress.get? id.request = some progress) (helping : id.helper = true → progress.given = true) :
    (leaseDiscipline platform config scope).Allows id now
        (now.updateProgress id.request (fun progress => { progress with given := true })) ∧
      (now.updateProgress id.request (fun progress => { progress with given := true })).progress.get? id.request =
        some { progress with given := true } := by
  rw [now.update_progress_found id.request _ progress found]
  apply And.intro
  · apply progress_step_allowed platform id now _ progress progress.live true inv
    constructor
    · exact found
    · exact fun query => Dict.get_set _ _ query _
    · rfl
    · rfl
    · rfl
    · exact fun alive ends => inv.held id.request progress found alive ends
    · exact fun asked alive named runs => inv.running asked id.request progress named found alive runs
    · exact fun _ => ⟨rfl, fun ended => ended⟩
    · exact fun helps => ⟨(helping helps).symm, Or.inl rfl⟩
  · exact (Dict.get_set _ _ _ _).trans (if_pos rfl)

theorem release_steps :
    (leaseDiscipline platform config scope).Steps ⟨request, false⟩ (.release lease) (Ours scope request lease)
      (Ours scope request lease) := by
  constructor
  · intro now inv ours _
    obtain ⟨progress, found, own, settled⟩ := ours
    exact ⟨lease_release platform ⟨request, false⟩ lease now progress inv found own settled
      (fun helps => by cases helps), progress, found, own, settled⟩
  · intro now error inv ours _ _
    obtain ⟨progress, found, own, settled⟩ := ours
    obtain ⟨allowed, after⟩ := given_step platform ⟨request, false⟩ now progress inv found (fun helps => by cases helps)
    exact ⟨allowed, ⟨_, after, own, rfl, settled⟩, ⟨_, after, own, settled⟩⟩

theorem helper_release_steps :
    (leaseDiscipline platform config scope).Steps ⟨request, true⟩ (.release lease) (LetGo scope request lease)
      (LetGo scope request lease) := by
  constructor
  · intro now inv gone _
    obtain ⟨progress, found, own, given, settled⟩ := gone
    exact ⟨lease_release platform ⟨request, true⟩ lease now progress inv found own settled (fun _ => given),
      progress, found, own, given, settled⟩
  · intro now error inv gone _ _
    obtain ⟨progress, found, own, given, settled⟩ := gone
    obtain ⟨allowed, after⟩ := given_step platform ⟨request, true⟩ now progress inv found (fun _ => given)
    exact ⟨allowed, ⟨_, after, own, rfl, settled⟩, ⟨_, after, own, rfl, settled⟩⟩

end Operations

end LangGraphServer
