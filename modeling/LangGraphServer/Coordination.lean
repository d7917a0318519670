import LangGraphServer.Lib.Dict
import LangGraphServer.Lib.Run

set_option autoImplicit false

namespace LangGraphServer

open Collections

-- `object()` makes a new identity each time; the coordinator counts them.
abbrev Token := Nat

structure RunLease where
  threadId : String
  token : Token
deriving DecidableEq, Repr

inductive RunError where
  | threadRunConflict (message : String)
  | runCapacity (message : String)
deriving DecidableEq, Repr

structure RunCoordinator where
  maxConcurrentRuns : Nat
  active : Dict String Token
  nextToken : Token
  positive : 0 < maxConcurrentRuns

namespace RunCoordinator

def fresh (limit : { runs : Nat // 0 < runs }) : RunCoordinator := ⟨limit.val, .empty, 0, limit.property⟩

def new (maxConcurrentRuns : Int) : Except String RunCoordinator :=
  if positive : 0 < maxConcurrentRuns.toNat then .ok (fresh ⟨maxConcurrentRuns.toNat, positive⟩)
  else .error "max_concurrent_runs must be greater than zero"

-- The lock is only held over code that does not await, so both bodies are atomic.
def acquire (coordinator : RunCoordinator) (threadId : String) : RunCoordinator × Except RunError RunLease :=
  if threadId ∈ coordinator.active.keys then
    (coordinator, .error (.threadRunConflict ("Thread " ++ threadId ++ " already has an active run")))
  else if coordinator.maxConcurrentRuns ≤ coordinator.active.size then
    (coordinator, .error (.runCapacity "Concurrent run capacity is full"))
  else
    ({ coordinator with
        active := coordinator.active.set threadId coordinator.nextToken
        nextToken := coordinator.nextToken + 1 },
      .ok ⟨threadId, coordinator.nextToken⟩)

def release (coordinator : RunCoordinator) (lease : RunLease) : RunCoordinator :=
  if coordinator.active.get? lease.threadId = some lease.token then
    { coordinator with active := coordinator.active.pop lease.threadId }
  else coordinator

def activeRuns (coordinator : RunCoordinator) : Nat := coordinator.active.size

end RunCoordinator

-- A call of `RunLease.release`: the shielded `_release` runs in a task of its own, and
-- the caller waits for it unless it is cancelled.
structure ReleaseCall where
  lease : RunLease
  innerFinished : Bool
  waiting : Bool

-- `granted` and `finished` are ghosts: the leases handed out, and the tokens whose
-- `_release` has run at least once.
structure CoordinationState where
  coordinator : RunCoordinator
  released : List Token
  calls : List ReleaseCall
  granted : List RunLease
  finished : List Token

inductive CoordinationEvent where
  | acquire (threadId : String)
  | callRelease (lease : RunLease)
  | runInner (call : Nat)
  | resume (call : Nat)
  | cancel (call : Nat)

namespace CoordinationState

def initial (limit : { runs : Nat // 0 < runs }) : CoordinationState := ⟨.fresh limit, [], [], [], []⟩

def step (state : CoordinationState) : CoordinationEvent → CoordinationState
  | .acquire threadId =>
      match state.coordinator.acquire threadId with
      | (coordinator, .ok lease) =>
          { state with coordinator := coordinator, granted := state.granted ++ [lease] }
      | (coordinator, .error _) => { state with coordinator := coordinator }
  | .callRelease lease =>
      if lease ∈ state.granted ∧ lease.token ∉ state.released then
        { state with calls := state.calls ++ [⟨lease, false, true⟩] }
      else state
  | .runInner call =>
      match state.calls[call]? with
      | some ⟨lease, false, waiting⟩ =>
          { state with
            coordinator := state.coordinator.release lease
            calls := state.calls.set call ⟨lease, true, waiting⟩
            finished := lease.token :: state.finished }
      | _ => state
  | .resume call =>
      match state.calls[call]? with
      | some ⟨lease, true, true⟩ =>
          { state with
            released := lease.token :: state.released
            calls := state.calls.set call ⟨lease, true, false⟩ }
      | _ => state
  | .cancel call =>
      match state.calls[call]? with
      | some ⟨lease, innerFinished, true⟩ =>
          { state with calls := state.calls.set call ⟨lease, innerFinished, false⟩ }
      | _ => state

-- A lease is outstanding until some `_release` of it has run.
def outstanding (state : CoordinationState) : List RunLease :=
  state.granted.filter (fun lease => decide (lease.token ∉ state.finished))

structure WellFormed (state : CoordinationState) : Prop where
  active : ∀ threadId token, state.coordinator.active.get? threadId = some token ↔
    ⟨threadId, token⟩ ∈ state.outstanding
  fresh : ∀ lease ∈ state.granted, lease.token < state.coordinator.nextToken
  distinct : (state.granted.map RunLease.token).Nodup
  finished : ∀ token ∈ state.finished, token < state.coordinator.nextToken
  calls : ∀ call ∈ state.calls, call.lease ∈ state.granted ∧
    (call.innerFinished = true → call.lease.token ∈ state.finished)
  released : ∀ token ∈ state.released, token ∈ state.finished
  bounded : state.coordinator.active.size ≤ state.coordinator.maxConcurrentRuns

theorem mem_outstanding (state : CoordinationState) (lease : RunLease) :
    lease ∈ state.outstanding ↔ lease ∈ state.granted ∧ lease.token ∉ state.finished := by
  rw [outstanding, List.mem_filter, decide_eq_true_iff]

theorem initial_well_formed (limit : { runs : Nat // 0 < runs }) : (initial limit).WellFormed := by
  constructor
  · intro threadId token
    constructor
    · intro found
      cases found
    · intro member
      cases member
  · intro lease member
    cases member
  · exact List.nodup_nil
  · intro token member
    cases member
  · intro call member
    cases member
  · intro token member
    cases member
  · exact Nat.zero_le _

theorem acquire_cases (coordinator : RunCoordinator) (threadId : String) :
    (threadId ∈ coordinator.active.keys ∧ ∃ message,
      coordinator.acquire threadId = (coordinator, .error (.threadRunConflict message))) ∨
    (threadId ∉ coordinator.active.keys ∧ coordinator.maxConcurrentRuns ≤ coordinator.active.size ∧ ∃ message,
      coordinator.acquire threadId = (coordinator, .error (.runCapacity message))) ∨
    (threadId ∉ coordinator.active.keys ∧ coordinator.active.size < coordinator.maxConcurrentRuns ∧
      coordinator.acquire threadId =
        ({ coordinator with
            active := coordinator.active.set threadId coordinator.nextToken
            nextToken := coordinator.nextToken + 1 },
          .ok ⟨threadId, coordinator.nextToken⟩)) := by
  rw [RunCoordinator.acquire]
  by_cases known : threadId ∈ coordinator.active.keys
  · rw [if_pos known]
    exact Or.inl ⟨known, _, rfl⟩
  · rw [if_neg known]
    by_cases full : coordinator.maxConcurrentRuns ≤ coordinator.active.size
    · rw [if_pos full]
      exact Or.inr (Or.inl ⟨known, full, _, rfl⟩)
    · rw [if_neg full]
      exact Or.inr (Or.inr ⟨known, Nat.lt_of_not_le full, rfl⟩)

theorem acquire_well_formed (state : CoordinationState) (threadId : String) (wellFormed : state.WellFormed) :
    (state.step (.acquire threadId)).WellFormed := by
  rw [step]
  rcases acquire_cases state.coordinator threadId with
    ⟨_, message, refused⟩ | ⟨_, _, message, refused⟩ | ⟨unknown, room, granted⟩
  · rw [refused]
    exact wellFormed
  · rw [refused]
    exact wellFormed
  · rw [granted]
    have unused : state.coordinator.nextToken ∉ state.finished := fun listed =>
      Nat.lt_irrefl _ (wellFormed.finished _ listed)
    constructor
    · intro query token
      have known := wellFormed.active query token
      rw [mem_outstanding] at known ⊢
      simp only [Dict.get_set, List.mem_append, List.mem_singleton, RunLease.mk.injEq] at known ⊢
      by_cases same : query = threadId
      · subst same
        have absent : state.coordinator.active.get? query = none := (Dict.get_none _ _).mpr unknown
        rw [absent] at known
        constructor
        · intro found
          rw [if_pos rfl, Option.some.injEq] at found
          exact ⟨Or.inr ⟨rfl, found.symm⟩, found ▸ unused⟩
        · rintro ⟨earlier | ⟨_, rfl⟩, open_⟩
          · cases known.mpr ⟨earlier, open_⟩
          · rw [if_pos rfl]
      · simp only [same, false_and, or_false, if_false]
        exact known
    · intro lease member
      rcases List.mem_append.mp member with earlier | new
      · exact Nat.lt_succ_of_lt (wellFormed.fresh lease earlier)
      · rw [List.mem_singleton.mp new]
        exact Nat.lt_succ_self _
    · rw [List.map_append, List.nodup_append]
      apply And.intro wellFormed.distinct
      apply And.intro (List.nodup_singleton _)
      intro token earlier other new same
      obtain ⟨lease, member, rfl⟩ := List.mem_map.mp earlier
      have below := wellFormed.fresh lease member
      have last := List.mem_singleton.mp new
      rw [same, last] at below
      exact Nat.lt_irrefl _ below
    · intro token member
      exact Nat.lt_succ_of_lt (wellFormed.finished token member)
    · intro call member
      have earlier := wellFormed.calls call member
      exact ⟨List.mem_append_left _ earlier.1, earlier.2⟩
    · exact wellFormed.released
    · have grown := Dict.size_set state.coordinator.active threadId state.coordinator.nextToken
      rw [if_neg unknown] at grown
      show (state.coordinator.active.set threadId state.coordinator.nextToken).size ≤
        state.coordinator.maxConcurrentRuns
      omega

theorem release_frame (coordinator : RunCoordinator) (lease : RunLease) (threadId : String) (token : Token)
    (other : lease ≠ ⟨threadId, token⟩) (held : coordinator.active.get? threadId = some token) :
    (coordinator.release lease).active.get? threadId = some token := by
  rw [RunCoordinator.release]
  by_cases own : coordinator.active.get? lease.threadId = some lease.token
  · rw [if_pos own]
    have different : threadId ≠ lease.threadId := by
      rintro rfl
      rw [held, Option.some.injEq] at own
      exact other (by rw [own])
    rw [Dict.get_pop, if_neg different, held]
  · rw [if_neg own, held]

theorem release_removes (coordinator : RunCoordinator) (lease : RunLease) (threadId : String) (token : Token) :
    (coordinator.release lease).active.get? threadId = some token ↔
      coordinator.active.get? threadId = some token ∧ lease ≠ ⟨threadId, token⟩ := by
  constructor
  · intro kept
    rw [RunCoordinator.release] at kept
    by_cases own : coordinator.active.get? lease.threadId = some lease.token
    · rw [if_pos own, Dict.get_pop] at kept
      by_cases same : threadId = lease.threadId
      · rw [if_pos same] at kept
        cases kept
      · rw [if_neg same] at kept
        exact ⟨kept, fun equal => same (by rw [equal])⟩
    · rw [if_neg own] at kept
      exact ⟨kept, fun equal => own (by rw [equal]; exact kept)⟩
  · rintro ⟨held, other⟩
    exact release_frame coordinator lease threadId token other held

theorem release_bounds (coordinator : RunCoordinator) (lease : RunLease) :
    (coordinator.release lease).nextToken = coordinator.nextToken ∧
      (coordinator.release lease).maxConcurrentRuns = coordinator.maxConcurrentRuns ∧
      (coordinator.release lease).active.size ≤ coordinator.active.size := by
  rw [RunCoordinator.release]
  split
  · exact ⟨rfl, rfl, Dict.size_pop_le _ _⟩
  · exact ⟨rfl, rfl, Nat.le_refl _⟩

theorem run_inner_well_formed (state : CoordinationState) (lease : RunLease) (calls : List ReleaseCall)
    (granted : lease ∈ state.granted)
    (updated : ∀ call ∈ calls, call.lease ∈ state.granted ∧
      (call.innerFinished = true → call.lease.token ∈ lease.token :: state.finished))
    (wellFormed : state.WellFormed) :
    ({ state with
        coordinator := state.coordinator.release lease
        calls := calls
        finished := lease.token :: state.finished } : CoordinationState).WellFormed := by
  have same := release_bounds state.coordinator lease
  constructor
  · intro threadId token
    have known := wellFormed.active threadId token
    rw [mem_outstanding] at known ⊢
    rw [release_removes, known]
    simp only [List.mem_cons, not_or]
    constructor
    · rintro ⟨⟨member, open_⟩, other⟩
      refine ⟨member, fun equal => other ?_, open_⟩
      exact List.inj_on_of_nodup_map wellFormed.distinct granted member equal.symm
    · rintro ⟨member, different, open_⟩
      exact ⟨⟨member, open_⟩, fun equal => different (by rw [equal])⟩
  · rw [same.1]
    exact wellFormed.fresh
  · exact wellFormed.distinct
  · intro token member
    rw [same.1]
    rcases List.mem_cons.mp member with rfl | earlier
    · exact wellFormed.fresh lease granted
    · exact wellFormed.finished token earlier
  · exact updated
  · intro token member
    exact List.mem_cons_of_mem _ (wellFormed.released token member)
  · rw [same.2.1]
    exact Nat.le_trans same.2.2 wellFormed.bounded

theorem calls_well_formed (state : CoordinationState) (calls : List ReleaseCall) (released : List Token)
    (updated : ∀ call ∈ calls, call.lease ∈ state.granted ∧
      (call.innerFinished = true → call.lease.token ∈ state.finished))
    (flagged : ∀ token ∈ released, token ∈ state.finished) (wellFormed : state.WellFormed) :
    ({ state with calls := calls, released := released } : CoordinationState).WellFormed :=
  ⟨wellFormed.active, wellFormed.fresh, wellFormed.distinct, wellFormed.finished, updated, flagged, wellFormed.bounded⟩

theorem set_calls (calls : List ReleaseCall) (position : Nat) (new : ReleaseCall) (holds : ReleaseCall → Prop)
    (before : ∀ call ∈ calls, holds call) (after : holds new) : ∀ call ∈ calls.set position new, holds call := by
  intro call member
  rcases List.mem_or_eq_of_mem_set member with earlier | same
  · exact before call earlier
  · rw [same]
    exact after

theorem step_well_formed (state : CoordinationState) (event : CoordinationEvent) (wellFormed : state.WellFormed) :
    (state.step event).WellFormed := by
  cases event with
  | acquire threadId => exact acquire_well_formed state threadId wellFormed
  | callRelease lease =>
      rw [step]
      by_cases enters : lease ∈ state.granted ∧ lease.token ∉ state.released
      · rw [if_pos enters]
        apply calls_well_formed state _ state.released _ wellFormed.released wellFormed
        intro call member
        rcases List.mem_append.mp member with earlier | new
        · exact wellFormed.calls call earlier
        · rw [List.mem_singleton.mp new]
          exact ⟨enters.1, fun finished => by cases finished⟩
      · rw [if_neg enters]
        exact wellFormed
  | runInner position =>
      rw [step]
      split
      · rename_i lease waiting found
        have known := wellFormed.calls _ (List.mem_of_getElem? found)
        apply run_inner_well_formed state lease _ known.1 _ wellFormed
        apply set_calls
        · intro call member
          have earlier := wellFormed.calls call member
          exact ⟨earlier.1, fun finished => List.mem_cons_of_mem _ (earlier.2 finished)⟩
        · exact ⟨known.1, fun _ => List.mem_cons_self⟩
      · exact wellFormed
  | resume position =>
      rw [step]
      split
      · rename_i lease found
        have known := wellFormed.calls _ (List.mem_of_getElem? found)
        apply calls_well_formed state _ _ _ _ wellFormed
        · exact set_calls _ _ _ _ wellFormed.calls known
        · intro token member
          rcases List.mem_cons.mp member with rfl | earlier
          · exact known.2 rfl
          · exact wellFormed.released token earlier
      · exact wellFormed
  | cancel position =>
      rw [step]
      split
      · rename_i lease innerFinished found
        have known := wellFormed.calls _ (List.mem_of_getElem? found)
        apply calls_well_formed state _ state.released _ wellFormed.released wellFormed
        exact set_calls _ _ _ _ wellFormed.calls known
      · exact wellFormed

theorem outstanding_threads_distinct (state : CoordinationState) (wellFormed : state.WellFormed) :
    (state.outstanding.map RunLease.threadId).Nodup := by
  apply List.Nodup.map_on
  · intro first left second right same
    have one := (wellFormed.active first.threadId first.token).mpr left
    have two := (wellFormed.active second.threadId second.token).mpr right
    rw [same, two, Option.some.injEq] at one
    cases first
    cases second
    simp only [RunLease.mk.injEq]
    exact ⟨same, one.symm⟩
  · exact (List.Nodup.of_map _ wellFormed.distinct).filter _

-- The outstanding leases are exactly the active threads, so they are as many.
theorem outstanding_count (state : CoordinationState) (wellFormed : state.WellFormed) :
    state.outstanding.length = state.coordinator.active.size := by
  have listed : (state.outstanding.map RunLease.threadId).Perm state.coordinator.active.keys := by
    apply (List.perm_ext_iff_of_nodup (outstanding_threads_distinct state wellFormed)
      state.coordinator.active.keys_nodup).mpr
    intro threadId
    rw [List.mem_map, Dict.mem_keys]
    constructor
    · rintro ⟨lease, member, rfl⟩
      exact ⟨lease.token, (wellFormed.active lease.threadId lease.token).mpr member⟩
    · rintro ⟨token, found⟩
      exact ⟨⟨threadId, token⟩, (wellFormed.active threadId token).mp found, rfl⟩
  rw [← Dict.keys_length, ← listed.length_eq, List.length_map]

theorem active_outstanding (state : CoordinationState) (wellFormed : state.WellFormed) (threadId : String) :
    threadId ∈ state.coordinator.active.keys ↔ ∃ lease ∈ state.outstanding, lease.threadId = threadId := by
  rw [Dict.mem_keys]
  constructor
  · rintro ⟨token, found⟩
    exact ⟨⟨threadId, token⟩, (wellFormed.active threadId token).mp found, rfl⟩
  · rintro ⟨lease, member, rfl⟩
    exact ⟨lease.token, (wellFormed.active lease.threadId lease.token).mpr member⟩

structure AcquireRefuses (state : CoordinationState) (threadId : String) : Prop where
  conflict : (∃ message, (state.coordinator.acquire threadId).2 = .error (.threadRunConflict message)) ↔
    ∃ lease ∈ state.outstanding, lease.threadId = threadId
  capacity : (∃ message, (state.coordinator.acquire threadId).2 = .error (.runCapacity message)) ↔
    (¬ ∃ lease ∈ state.outstanding, lease.threadId = threadId) ∧
      state.coordinator.maxConcurrentRuns ≤ state.outstanding.length
  unchanged : ∀ error, (state.coordinator.acquire threadId).2 = .error error →
    (state.coordinator.acquire threadId).1 = state.coordinator

theorem acquire_refuses (state : CoordinationState) (wellFormed : state.WellFormed) (threadId : String) :
    state.AcquireRefuses threadId := by
  have active := active_outstanding state wellFormed threadId
  have count := outstanding_count state wellFormed
  rcases acquire_cases state.coordinator threadId with
    ⟨known, message, refused⟩ | ⟨unknown, full, message, refused⟩ | ⟨unknown, room, granted⟩
  · constructor
    · simp [refused, active.mp known]
    · simp [refused, active.mp known]
    · simp [refused]
  · rw [active] at unknown
    constructor
    · simp [refused, unknown]
    · simp [refused, unknown, count, full]
    · simp [refused]
  · rw [active] at unknown
    constructor
    · simp [granted, unknown]
    · simp [granted, count, room]
    · simp [granted]

theorem step_keeps_reservation (state : CoordinationState) (event : CoordinationEvent) (threadId : String)
    (token : Token) (held : state.coordinator.active.get? threadId = some token)
    (other : ∀ position call, event = .runInner position → state.calls[position]? = some call →
      call.lease ≠ ⟨threadId, token⟩) :
    (state.step event).coordinator.active.get? threadId = some token := by
  cases event with
  | acquire query =>
      rw [step]
      rcases acquire_cases state.coordinator query with
        ⟨_, _, refused⟩ | ⟨_, _, _, refused⟩ | ⟨unknown, _, granted⟩
      · rw [refused]
        exact held
      · rw [refused]
        exact held
      · rw [granted]
        have different : threadId ≠ query := by
          rintro rfl
          exact unknown ((Dict.mem_keys _ _).mpr ⟨token, held⟩)
        exact (Dict.get_set _ _ _ _).trans ((if_neg different).trans held)
  | callRelease lease =>
      rw [step]
      split
      · exact held
      · exact held
  | runInner position =>
      rw [step]
      split
      · rename_i lease waiting found
        exact release_frame state.coordinator lease threadId token (other position _ rfl found) held
      · exact held
  | resume position =>
      rw [step]
      split
      · exact held
      · exact held
  | cancel position =>
      rw [step]
      split
      · exact held
      · exact held

theorem step_limit (state : CoordinationState) (event : CoordinationEvent) :
    (state.step event).coordinator.maxConcurrentRuns = state.coordinator.maxConcurrentRuns := by
  cases event with
  | acquire threadId =>
      rw [step]
      rcases acquire_cases state.coordinator threadId with ⟨_, _, same⟩ | ⟨_, _, _, same⟩ | ⟨_, _, same⟩
      all_goals rw [same]
  | runInner position =>
      rw [step]
      split
      · rw [RunCoordinator.release]
        split
        · rfl
        · rfl
      · rfl
  | callRelease lease =>
      rw [step]
      split
      · rfl
      · rfl
  | resume position =>
      rw [step]
      split
      · rfl
      · rfl
  | cancel position =>
      rw [step]
      split
      · rfl
      · rfl

structure BoundedLock (limit : Nat) (state : CoordinationState) : Prop where
  active : ∀ threadId token, state.coordinator.active.get? threadId = some token ↔
    ⟨threadId, token⟩ ∈ state.outstanding
  distinct : (state.outstanding.map RunLease.threadId).Nodup
  bounded : state.outstanding.length ≤ limit
  limit : state.coordinator.maxConcurrentRuns = limit
  acquires : ∀ threadId, state.AcquireRefuses threadId
  releases : ∀ event threadId token, state.coordinator.active.get? threadId = some token →
    (∀ position call, event = .runInner position → state.calls[position]? = some call →
      call.lease ≠ ⟨threadId, token⟩) →
    (state.step event).coordinator.active.get? threadId = some token

theorem run_coordinator_is_bounded_lock (limit : { runs : Nat // 0 < runs }) (events : List CoordinationEvent) :
    Transition.Always step (BoundedLock limit.val) (initial limit) events := by
  apply Transition.always_imp step
    (fun state => state.WellFormed ∧ state.coordinator.maxConcurrentRuns = limit.val)
  · rintro state ⟨wellFormed, same⟩
    constructor
    · exact wellFormed.active
    · exact outstanding_threads_distinct state wellFormed
    · rw [outstanding_count state wellFormed, ← same]
      exact wellFormed.bounded
    · exact same
    · exact acquire_refuses state wellFormed
    · exact step_keeps_reservation state
  · apply Transition.always_of_invariant step
    · rintro state event ⟨wellFormed, same⟩
      exact ⟨step_well_formed state event wellFormed, (step_limit state event).trans same⟩
    · exact ⟨initial_well_formed limit, rfl⟩

end CoordinationState

end LangGraphServer
