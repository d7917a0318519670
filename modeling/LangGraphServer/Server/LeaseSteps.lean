import LangGraphServer.Server.Leases

set_option autoImplicit false

namespace LangGraphServer

open Collections Coroutine

variable {config : ServerConfig} {scope : Scope} (platform : Platform)

theorem lease_untouched (id : TaskId) (before after : ServerState) (inv : LeaseInvariant config scope before)
    (same : Untouched before after) : (leaseDiscipline platform config scope).Allows id before after := by
  have items := items_same_saved before after same.saved
  apply thread_step_allowed platform id before after inv
  constructor
  · exact same.progress
  · exact same.coordinator
  · intro asked
    exact attributed_same _ before after same.owners same.saved (inv.attributed asked)
  · intro _
    exact inherits_same before after same.owners same.saved
  · intro _ threadId assistantId owned
    exact Or.inl ((same.owners threadId).trans owned)
  · intro _ threadId empty
    exact Or.inl ((items threadId).trans empty)

-- No checkpoint of the thread speaks against the assistant, as long as it has no owner.
def LeaseClaimable (scope : Scope) (threadId assistantId : String) (state : ServerState) : Prop :=
  scope.ownersKept → state.ownerOf threadId = none → ∀ item ∈ state.items threadId, ∀ marked,
    checkpointAssistantId item = some marked → marked = assistantId

theorem lease_claim (id : TaskId) (threadId assistantId : String) (now : ServerState)
    (inv : LeaseInvariant config scope now) (may : LeaseClaimable scope threadId assistantId now) :
    (leaseDiscipline platform config scope).Allows id now
      (now.perform platform config.checkpointer.isSome id (.claimAssistant threadId assistantId)).1 := by
  rcases now.store.claim_assistant_cases threadId assistantId with ⟨_, _, owners⟩ | ⟨same, _⟩
  · have kept : ∀ query owner, now.ownerOf query = some owner →
        (now.perform platform config.checkpointer.isSome id (.claimAssistant threadId assistantId)).1.ownerOf query =
          some owner := now.store.claim_assistant_keeps threadId assistantId
    have missing : ∀ query, (now.perform platform config.checkpointer.isSome id
        (.claimAssistant threadId assistantId)).1.ownerOf query = none → now.ownerOf query = none := by
      intro query absent
      cases before : now.ownerOf query with
      | none => rfl
      | some owner => cases (kept query owner before).symm.trans absent
    apply thread_step_allowed platform id now _ inv
    constructor
    · rfl
    · rfl
    · intro asked
      have earlier := inv.attributed asked
      constructor
      · exact earlier.unsaved
      · intro query absent
        exact earlier.rooted query (missing query absent)
      · intro query owner owned item member marked marks
        cases before : now.ownerOf query with
        | some first =>
            have same := (kept query first before).symm.trans owned
            rw [Option.some.injEq] at same
            rw [← same]
            exact earlier.uniform query first before item member marked marks
        | none =>
            have after := (owners query).symm.trans owned
            by_cases here : query = threadId
            · subst here
              rw [if_pos rfl, Option.some.injEq] at after
              subst after
              exact may asked before item member marked marks
            · rw [if_neg here] at after
              cases before.symm.trans after
    · intro _ query absent
      exact Or.inr ⟨missing query absent, fun _ member => member⟩
    · intro _ query owner owned
      exact Or.inl (kept query owner owned)
    · intro _ query empty
      exact Or.inl empty
  · have unchanged : (now.perform platform config.checkpointer.isSome id (.claimAssistant threadId assistantId)).1 =
      now := by
      simp only [ServerState.perform, same]
    rw [unchanged]
    exact lease_untouched platform id now now inv (untouched_refl now)

theorem lease_delete_checkpoints (id : TaskId) (threadId : String) (now : ServerState)
    (inv : LeaseInvariant config scope now) :
    (leaseDiscipline platform config scope).Allows id now (now.deleteCheckpoints threadId) := by
  have items := items_delete_checkpoints now threadId
  have members : ∀ query, ∀ item ∈ (now.deleteCheckpoints threadId).items query, item ∈ now.items query := by
    intro query item member
    rw [items] at member
    by_cases here : query = threadId
    · rw [if_pos here] at member
      cases member
    · rw [if_neg here] at member
      exact member
  apply thread_step_allowed platform id now _ inv
  constructor
  · rfl
  · rfl
  · intro asked
    have earlier := inv.attributed asked
    constructor
    · intro missing query
      apply List.eq_nil_iff_forall_not_mem.mpr
      intro item member
      have inside := members query item member
      rw [earlier.unsaved missing query] at inside
      cases inside
    · intro query absent item member marked marks
      by_cases here : query = threadId
      · rw [items, if_pos here] at member
        cases member
      · rw [latest_marker_of_items _ now _ query (by rw [items, if_neg here])]
        exact earlier.rooted query absent item (members query item member) marked marks
    · intro query owner owned item member
      exact earlier.uniform query owner owned item (members query item member)
  · intro _ query absent
    exact Or.inr ⟨absent, members query⟩
  · intro _ query owner owned
    exact Or.inl owned
  · intro _ query empty
    rw [items]
    split
    · exact Or.inl rfl
    · exact Or.inl empty

theorem lease_delete_thread (id : TaskId) (threadId : String) (now : ServerState) (progress : Progress)
    (inv : LeaseInvariant config scope now) (holder : HoldsThread id threadId now progress)
    (deletion : progress.mutation = .deletion) (empty : scope.ownersKept → now.items threadId = []) :
    (leaseDiscipline platform config scope).Allows id now
      { now with store := now.store.deleteThread threadId } := by
  have owners : ∀ query, ({ now with store := now.store.deleteThread threadId } : ServerState).ownerOf query =
      if query = threadId then none else now.ownerOf query := now.store.delete_thread_owner threadId
  apply thread_step_allowed platform id now _ inv
  constructor
  · rfl
  · rfl
  · intro asked
    have earlier := inv.attributed asked
    constructor
    · exact earlier.unsaved
    · intro query absent item member marked marks
      by_cases here : query = threadId
      · subst here
        have inside : item ∈ now.items query := member
        rw [empty asked] at inside
        cases inside
      · rw [owners, if_neg here] at absent
        exact earlier.rooted query absent item member marked marks
    · intro query owner owned
      rw [owners] at owned
      by_cases here : query = threadId
      · rw [if_pos here] at owned
        cases owned
      · rw [if_neg here] at owned
        exact earlier.uniform query owner owned
  · intro asked query absent
    by_cases here : query = threadId
    · subst here
      exact Or.inl (empty asked)
    · rw [owners, if_neg here] at absent
      exact Or.inr ⟨absent, fun _ member => member⟩
  · intro _ query owner owned
    by_cases here : query = threadId
    · subst here
      exact Or.inr ⟨progress, holder, deletion⟩
    · rw [owners, if_neg here]
      exact Or.inl owned
  · intro _ query cleared
    exact Or.inl cleared

theorem lease_aput (id : TaskId) (threadId assistantId : String) (runnableConfig : RunnableConfig)
    (item : CheckpointItem) (now : ServerState) (progress : Progress) (inv : LeaseInvariant config scope now)
    (marks : MarksThread runnableConfig threadId assistantId) (holder : HoldsThread id threadId now progress)
    (owned : scope.ownersKept → now.ownerOf threadId = some assistantId)
    (writes : scope.ownersKept → MarksNoOther assistantId item) :
    (leaseDiscipline platform config scope).Allows id now
      (now.perform platform config.checkpointer.isSome id (.aput runnableConfig item)).1 := by
  obtain ⟨store, _, coordinator, sameProgress⟩ :=
    now.aput_frame platform config.checkpointer.isSome id runnableConfig item
  by_cases persistent : config.checkpointer.isSome = true
  · have written : (now.perform platform config.checkpointer.isSome id (.aput runnableConfig item)).1 =
        now.aput runnableConfig item := if_pos persistent
    rw [written] at store coordinator sameProgress ⊢
    have items := items_aput runnableConfig threadId marks.thread item now
    have owners : ∀ query, (now.aput runnableConfig item).ownerOf query = now.ownerOf query := fun query => by
      rw [ServerState.ownerOf, ServerState.ownerOf, store]
    have elsewhere : scope.ownersKept → ∀ query, (now.aput runnableConfig item).ownerOf query = none →
        (now.aput runnableConfig item).items query = now.items query := by
      intro asked query absent
      rw [owners] at absent
      rw [items, if_neg]
      intro here
      subst here
      cases absent.symm.trans (owned asked)
    apply thread_step_allowed platform id now _ inv
    constructor
    · exact sameProgress
    · exact coordinator
    · intro asked
      have earlier := inv.attributed asked
      constructor
      · intro missing
        cases missing.symm.trans persistent
      · intro query absent
        rw [elsewhere asked query absent, latest_marker_of_items _ now _ query (elsewhere asked query absent)]
        rw [owners] at absent
        exact earlier.rooted query absent
      · intro query owner belongs written member marked marksItem
        rw [owners] at belongs
        rw [items] at member
        by_cases here : query = threadId
        · subst here
          rw [if_pos rfl] at member
          rcases List.mem_cons.mp member with new | old
          · rw [owned asked, Option.some.injEq] at belongs
            rw [new] at marksItem
            exact (writes asked marked marksItem).trans belongs
          · exact earlier.uniform query owner belongs written (List.mem_of_mem_filter old) marked marksItem
        · rw [if_neg here] at member
          exact earlier.uniform query owner belongs written member marked marksItem
    · intro asked query absent
      rw [elsewhere asked query absent]
      rw [owners] at absent
      exact Or.inr ⟨absent, fun _ member => member⟩
    · intro _ query owner belongs
      exact Or.inl ((owners query).trans belongs)
    · intro _ query empty
      by_cases here : query = threadId
      · subst here
        exact Or.inr ⟨progress, holder⟩
      · rw [items, if_neg here]
        exact Or.inl empty
  · have unwritten : (now.perform platform config.checkpointer.isSome id (.aput runnableConfig item)).1 = now :=
      if_neg persistent
    rw [unwritten]
    exact lease_untouched platform id now now inv (untouched_refl now)

theorem lease_aput_unasked (id : TaskId) (runnableConfig : RunnableConfig) (item : CheckpointItem) (now : ServerState)
    (inv : LeaseInvariant config scope now) (unasked : ¬ scope.ownersKept) :
    (leaseDiscipline platform config scope).Allows id now
      (now.perform platform config.checkpointer.isSome id (.aput runnableConfig item)).1 := by
  obtain ⟨_, _, coordinator, progress⟩ := now.aput_frame platform config.checkpointer.isSome id runnableConfig item
  exact thread_step_allowed platform id now _ inv ⟨progress, coordinator, fun asked => absurd asked unasked,
    fun asked => absurd asked unasked, fun asked => absurd asked unasked, fun asked => absurd asked unasked⟩

-- Giving a lease back is allowed to whom it belongs to, once nothing is live under it; a
-- helper waits until the main task has let go.
theorem lease_release (id : TaskId) (lease : RunLease) (now : ServerState) (progress : Progress)
    (inv : LeaseInvariant config scope now) (found : now.progress.get? id.request = some progress)
    (own : progress.lease = lease) (settled : Settled scope progress) (helping : id.helper = true →
      progress.given = true) :
    (leaseDiscipline platform config scope).Allows id now
      { now with coordinator := now.coordinator.release lease } := by
  have others : ∀ request other, now.progress.get? request = some other → request ≠ id.request →
      now.holds other.lease = true →
      ({ now with coordinator := now.coordinator.release lease } : ServerState).holds other.lease = true := by
    intro request other listed different held
    apply decide_eq_true
    apply CoordinationState.release_frame now.coordinator lease other.lease.threadId other.lease.token _
      (of_decide_eq_true held)
    intro same
    apply different
    apply inv.single request id.request other progress listed found
    rw [own, same]
  have keeps : ∀ threadId, KeepsThread threadId now { now with coordinator := now.coordinator.release lease } :=
    fun _ => ⟨fun _ owned => owned, fun empty => empty⟩
  constructor
  · constructor
    · intro request other listed
      show other.lease.token < (now.coordinator.release lease).nextToken
      rw [(CoordinationState.release_bounds now.coordinator lease).1]
      exact inv.fresh request other listed
    · exact inv.single
    · intro request other listed live ends
      by_cases mine : request = id.request
      · subst mine
        cases listed.symm.trans found
        obtain ⟨deletion, unfinished⟩ := settled live
        exact absurd (ends deletion) unfinished
      · exact others request other listed mine (inv.held request other listed live ends)
    · intro asked
      exact attributed_same _ now _ (fun _ => rfl) rfl (inv.attributed asked)
    · exact inv.running
  · intro other distinct
    obtain ⟨request, helper⟩ := other
    cases helper with
    | true =>
        have same := helper_undisturbed_refl scope request now
        exact ⟨same.kept, fun _ => inherits_refl now⟩
    | false =>
        constructor
        · exact fun missing => missing
        · intro earlier listed
          exact ⟨earlier.live, listed, Or.inl rfl⟩
        · intro earlier listed keptLease held
          apply And.intro _ (fun _ => keeps _)
          by_cases mine : request = id.request
          · subst mine
            cases listed.symm.trans found
            rcases distinct with helps | helps | different
            · cases keptLease.symm.trans (helping helps)
            · cases helps
            · exact absurd rfl different
          · exact others request earlier listed mine held
        · exact fun _ => inherits_refl now

theorem lease_acquire (id : TaskId) (threadId : String) (mutation : Mutation) (now : ServerState)
    (inv : LeaseInvariant config scope now) (main : id.helper = false) (absent : now.progress.get? id.request = none) :
    (leaseDiscipline platform config scope).Allows id now
        (now.perform platform config.checkpointer.isSome id (.acquire threadId mutation)).1 ∧
      ∀ lease, (now.perform platform config.checkpointer.isSome id (.acquire threadId mutation)).2 = .ok lease →
        lease.threadId = threadId ∧ (now.coordinator.acquire threadId).2 = .ok lease ∧
        (now.perform platform config.checkpointer.isSome id (.acquire threadId mutation)).1.progress.get? id.request =
          some ⟨lease, mutation, false, false⟩ ∧
        (now.perform platform config.checkpointer.isSome id (.acquire threadId mutation)).1.holds lease = true ∧
        (now.perform platform config.checkpointer.isSome id (.acquire threadId mutation)).1.store = now.store := by
  simp only [ServerState.perform]
  rcases CoordinationState.acquire_cases now.coordinator threadId with
    ⟨_, message, refused⟩ | ⟨_, _, message, refused⟩ | ⟨unknown, _, granted⟩
  · rw [refused]
    exact ⟨lease_untouched platform id now now inv (untouched_refl now), fun _ answered => by cases answered⟩
  · rw [refused]
    exact ⟨lease_untouched platform id now now inv (untouched_refl now), fun _ answered => by cases answered⟩
  · rw [granted]
    have others : ∀ lease : RunLease, now.holds lease = true →
        decide ((now.coordinator.active.set threadId now.coordinator.nextToken).get? lease.threadId =
          some lease.token) = true := by
      intro lease held
      have active := of_decide_eq_true held
      apply decide_eq_true
      rw [Dict.get_set, if_neg]
      · exact active
      · intro same
        apply unknown
        rw [← same]
        exact (Dict.mem_keys _ _).mpr ⟨lease.token, active⟩
    have keeps : ∀ (query : String) (after : ServerState), after.store = now.store → after.saved = now.saved →
        KeepsThread query now after := by
      intro query after store saved
      constructor
      · intro assistantId owned
        rw [ServerState.ownerOf, store]
        exact owned
      · intro empty
        rw [ServerState.items, saved]
        exact empty
    apply And.intro
    · constructor
      · constructor
        · intro request progress found
          rw [Dict.get_set] at found
          by_cases mine : request = id.request
          · rw [if_pos mine, Option.some.injEq] at found
            rw [← found]
            exact Nat.lt_succ_self _
          · rw [if_neg mine] at found
            exact Nat.lt_succ_of_lt (inv.fresh request progress found)
        · intro first second left right foundLeft foundRight tokens
          rw [Dict.get_set] at foundLeft foundRight
          by_cases one : first = id.request
          · by_cases two : second = id.request
            · exact one.trans two.symm
            · rw [if_pos one, Option.some.injEq] at foundLeft
              rw [if_neg two] at foundRight
              rw [← foundLeft] at tokens
              exact absurd tokens.symm (Nat.ne_of_lt (inv.fresh second right foundRight))
          · by_cases two : second = id.request
            · rw [if_pos two, Option.some.injEq] at foundRight
              rw [if_neg one] at foundLeft
              rw [← foundRight] at tokens
              exact absurd tokens (Nat.ne_of_lt (inv.fresh first left foundLeft))
            · rw [if_neg one] at foundLeft
              rw [if_neg two] at foundRight
              exact inv.single first second left right foundLeft foundRight tokens
        · intro request progress found live ends
          rw [Dict.get_set] at found
          by_cases mine : request = id.request
          · rw [if_pos mine, Option.some.injEq] at found
            rw [← found] at live
            cases live
          · rw [if_neg mine] at found
            exact others progress.lease (inv.held request progress found live ends)
        · intro asked
          exact attributed_same _ now _ (fun _ => rfl) rfl (inv.attributed asked)
        · intro asked request progress assistantId found live runs
          rw [Dict.get_set] at found
          by_cases mine : request = id.request
          · rw [if_pos mine, Option.some.injEq] at found
            rw [← found] at live
            cases live
          · rw [if_neg mine] at found
            exact inv.running asked request progress assistantId found live runs
      · intro other distinct
        obtain ⟨request, helper⟩ := other
        cases helper with
        | true =>
            constructor
            · intro progress found
              by_cases mine : request = id.request
              · subst mine
                cases absent.symm.trans found
              · exact ⟨progress.live, progress.given, (Dict.get_set _ _ _ _).trans ((if_neg mine).trans found),
                  fun given => ⟨given, fun ended => ended⟩⟩
            · exact fun _ => inherits_refl now
        | false =>
            have mine : request ≠ id.request := by
              rcases distinct with helps | helps | different
              · cases helps.symm.trans main
              · cases helps
              · exact fun same => different same.symm
            constructor
            · intro missing
              exact (Dict.get_set _ _ _ _).trans ((if_neg mine).trans missing)
            · intro progress found
              exact ⟨progress.live, (Dict.get_set _ _ _ _).trans ((if_neg mine).trans found), Or.inl rfl⟩
            · intro progress found _ held
              exact ⟨others progress.lease held, fun _ => keeps _ _ rfl rfl⟩
            · exact fun _ => inherits_refl now
    · intro lease answered
      cases answered
      exact ⟨rfl, rfl, (Dict.get_set _ _ _ _).trans (if_pos rfl),
        decide_eq_true ((Dict.get_set _ _ _ _).trans (if_pos rfl)), rfl⟩

end LangGraphServer
