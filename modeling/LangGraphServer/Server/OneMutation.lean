import LangGraphServer.Server.LeaseDeletions

set_option autoImplicit false

namespace LangGraphServer

open Collections Coroutine

section Sound

variable {config : ServerConfig} {scope : Scope} (platform : Platform)

-- A worker that goes on with a deletion that its task no longer waits for.
def Orphaned (request : Nat) (state : ServerState) : Prop :=
  ∃ progress, state.progress.get? request = some progress ∧ progress.mutation = .deletion

theorem orphaned_stable (request : Nat) : (leaseDiscipline platform config scope).Stable ⟨request, true⟩
    (Orphaned request) := by
  intro state now relied _ orphaned
  obtain ⟨progress, found, deletion⟩ := orphaned
  obtain ⟨live, given, after, _⟩ := HelperUndisturbed.kept relied progress found
  exact ⟨_, after, deletion⟩

theorem worker_deletes_steps (request : Nat) (threadId : String) :
    (leaseDiscipline platform config scope).Steps ⟨request, true⟩ (.deleteCheckpoints threadId) (Orphaned request)
      (Orphaned request) := by
  constructor
  · intro now inv orphaned _
    exact ⟨lease_delete_checkpoints platform ⟨request, true⟩ threadId now inv, orphaned⟩
  · intro now error inv orphaned possible _
    cases possible

theorem worker_finishes_steps (request : Nat) :
    (leaseDiscipline platform config scope).Steps ⟨request, true⟩ .finish (Orphaned request) (fun _ => True) := by
  constructor
  · intro now inv orphaned _
    obtain ⟨progress, found, deletion⟩ := orphaned
    exact ⟨(end_deletion_allowed platform ⟨request, true⟩ now progress inv found deletion).1, trivial⟩
  · intro now error inv orphaned possible _
    cases possible

theorem late_write_steps (request : Nat) (runnableConfig : RunnableConfig) (item : CheckpointItem)
    (unasked : ¬ scope.ownersKept) :
    (leaseDiscipline platform config scope).Steps ⟨request, true⟩ (.aput runnableConfig item) (fun _ => True)
      (fun _ => True) := by
  constructor
  · intro now inv _ _
    exact ⟨lease_aput_unasked platform ⟨request, true⟩ runnableConfig item now inv unasked, trivial⟩
  · intro now error inv _ _ _
    exact ⟨lease_untouched platform _ now now inv (untouched_refl now), unasked, trivial⟩

theorem lease_sound : (leaseDiscipline platform config scope).Sound := by
  constructor
  · intro first second
    exact ⟨fun before after allowed => allowed.guar second (Or.inl rfl),
      fun before after allowed => allowed.guar ⟨first.request, true⟩ (Or.inr (Or.inl rfl))⟩
  · intro id op state inv leaves left listed
    cases op with
    | release lease =>
        rw [List.mem_singleton.mp listed]
        have released : (leaseDiscipline platform config scope).Carries .anything ⟨id.request, true⟩
            (LetGo scope id.request lease) (.await (ServerOp.release lease) (fun _ => .ret ())) (fun _ => True)
            (fun _ => False) :=
          Discipline.carries_await _ _ _ (let_go_stable platform id.request lease) (helper_release_steps platform)
            (fun _ => Discipline.carries_ret _ () (fun _ _ => trivial))
        exact Discipline.carries_done _ _ state released leaves
    | deleteCheckpoints threadId =>
        rw [List.mem_singleton.mp listed]
        have finished : ∀ answer : Except ServerError Unit, (leaseDiscipline platform config scope).Carries .anything
            ⟨id.request, true⟩ (Orphaned id.request) (.await ServerOp.finish (fun _ => .ret ())) (fun _ => True)
            (fun _ => False) := fun _ =>
          Discipline.carries_await _ _ _ (orphaned_stable platform id.request)
            (worker_finishes_steps platform id.request) (fun _ => Discipline.carries_ret _ () (fun _ _ => trivial))
        have worked : (leaseDiscipline platform config scope).Carries .anything ⟨id.request, true⟩ (Orphaned id.request)
            (.await (ServerOp.deleteCheckpoints threadId) (fun _ => .await ServerOp.finish (fun _ => .ret ())))
            (fun _ => True) (fun _ => False) :=
          Discipline.carries_await _ _ _ (orphaned_stable platform id.request)
            (worker_deletes_steps platform id.request threadId) finished
        exact Discipline.carries_done _ _ state worked leaves
    | aput runnableConfig item =>
        rw [List.mem_singleton.mp listed]
        have written : (leaseDiscipline platform config scope).Carries .anything ⟨id.request, true⟩ (fun _ => True)
            (.await (ServerOp.aput runnableConfig item) (fun _ => .ret ())) (fun _ => True) (fun _ => False) :=
          Discipline.carries_await _ _ _ (fun _ _ _ _ _ => trivial)
            (late_write_steps platform id.request runnableConfig item leaves)
            (fun _ => Discipline.carries_ret _ () (fun _ _ => trivial))
        exact Discipline.carries_done _ _ state written trivial
    | getThread query => cases listed
    | putThread thread => cases listed
    | getAssistantId query => cases listed
    | claimAssistant query assistantId => cases listed
    | deleteThread query => cases listed
    | agetTuple lookup => cases listed
    | alist lookup filter before limit => cases listed
    | acquire query mutation => cases listed
    | send message => cases listed
    | suspend => cases listed
    | begin graphOf => cases listed
    | finish => cases listed
    | note entry => cases listed

end Sound

-- Where owners are nobody's concern, neither is what the graphs write.
theorem graphs_write_unasked (config : ServerConfig) (scope : Scope) (unasked : ¬ scope.ownersKept) :
    config.GraphsWrite (fun _ => True) (WrittenUnder scope) :=
  graphs_write_mono config _ _ _ (fun _ _ _ asked => absurd asked unasked) (graphs_write_any config _)

theorem tasks_lease_safe {β : Type} (platform : Platform) (config : ServerConfig) (scope : Scope) (requests : List β)
    (program : β → Coro Api Unit) (start : ServerState) (fresh : start.progress = .empty)
    (attributed : scope.ownersKept → Attributed config.checkpointer.isSome start)
    (carries : ∀ number request, (leaseDiscipline platform config scope).Carries .anything
      ⟨number, false⟩ (Fresh number) (program request) (fun _ => True) (fun _ => False)) :
    (leaseDiscipline platform config scope).Safe
      ⟨start, requests.zipIdx.map (fun request => (⟨request.2, false⟩, program request.1))⟩ := by
  have absent : ∀ request, start.progress.get? request = none := fun request => by
    rw [fresh]
    exact Dict.get_empty request
  constructor
  · constructor
    · intro request progress found
      cases (absent request).symm.trans found
    · intro first second left right found
      cases (absent first).symm.trans found
    · intro request progress found
      cases (absent request).symm.trans found
    · exact attributed
    · intro _ request progress assistantId found
      cases (absent request).symm.trans found
  · intro task member
    obtain ⟨request, _, rfl⟩ := List.mem_map.mp member
    exact Discipline.carries_done _ _ start (carries request.2 request.1) (absent request.2)
  · have ids : (requests.zipIdx.map (fun request => ((⟨request.2, false⟩ : TaskId), program request.1))).map Prod.fst =
        (List.range' 0 requests.length).map (fun number => (⟨number, false⟩ : TaskId)) := by
      rw [List.map_map, ← List.zipIdx_map_snd 0 requests, List.map_map]
      rfl
    rw [ids, List.pairwise_map]
    apply List.Pairwise.imp _ List.pairwise_lt_range'
    intro first second less
    exact ⟨fun _ _ allowed => allowed.guar ⟨second, false⟩ (Or.inr (Or.inr (Nat.ne_of_lt less))),
      fun _ _ allowed => allowed.guar ⟨first, false⟩ (Or.inr (Or.inr (Nat.ne_of_gt less)))⟩

theorem lease_safe (platform : Platform) (config : ServerConfig) (scope : Scope)
    (requests : List (RequestContext × Request))
    (start : ServerState) (fresh : start.progress = .empty)
    (attributed : scope.ownersKept → Attributed config.checkpointer.isSome start)
    (graphs : config.GraphsWrite (fun _ => True) (WrittenUnder scope)) :
    (leaseDiscipline platform config scope).Safe ⟨start, serveAll platform config requests⟩ :=
  tasks_lease_safe platform config scope requests (fun request => (serve platform config request.1 request.2).void)
    start fresh attributed (fun number request => Discipline.carries_void _ _
      (carries_serve platform config scope request.1 number request.2 graphs))

-- What is live holds its lease, so that no two requests mutate a thread at a time.
structure OneMutation (state : ServerState) : Prop where
  held : ∀ request progress, state.progress.get? request = some progress → progress.live = true →
    state.holds progress.lease = true
  single : ∀ first second left right, state.progress.get? first = some left → state.progress.get? second = some right →
    left.live = true → right.live = true → left.lease.threadId = right.lease.threadId → first = second

def WaitsForWorker (pool : Pool Api ServerState TaskId) (turn : Turn Api) : Prop :=
  ∀ id threadId resume, pool.tasks[turn.task]? = some (id, .await (ServerOp.deleteCheckpoints threadId) resume) →
    turn.failure = none

def LeavesNothingLive (pool : Pool Api ServerState TaskId) (turn : Turn Api) : Prop :=
  ∀ id left rest, pool.tasks[turn.task]? = some (id, .abandon left rest) → NothingLive id pool.shared

def workersWaited : Scope := ⟨True, False⟩

theorem waits_for_worker_permitted (platform : Platform) (config : ServerConfig) (pool : Pool Api ServerState TaskId)
    (turn : Turn Api) (waits : WaitsForWorker pool turn) (leaves : LeavesNothingLive pool turn) :
    (leaseDiscipline platform config workersWaited).Permitted pool turn := by
  constructor
  · intro id op resume found
    show leasePermits workersWaited id op turn.failure pool.shared
    rw [leasePermits.eq_def]
    split
    · rename_i failed
      cases (waits _ _ _ found).symm.trans failed
    · exact fun asked => asked
    · intro asked
      exact asked.elim
    · trivial
  · exact leaves

theorem one_mutation_of_invariant (config : ServerConfig) (state : ServerState)
    (inv : LeaseInvariant config workersWaited state) : OneMutation state := by
  have held : ∀ request progress, state.progress.get? request = some progress → progress.live = true →
      state.holds progress.lease = true :=
    fun request progress found live => inv.held request progress found live (fun _ => trivial)
  constructor
  · exact held
  · intro first second left right foundLeft foundRight liveLeft liveRight same
    exact holder_unique state first second left right inv foundLeft foundRight same
      (held first left foundLeft liveLeft) (held second right foundRight liveRight)

theorem live_mutations_hold_their_lease (platform : Platform) (config : ServerConfig)
    (requests : List (RequestContext × Request)) (start : ServerState) (fresh : start.progress = .empty)
    (turns : List (Turn Api))
    (meets : Transition.Meets (serverMachine platform config.checkpointer.isSome).step
      (fun pool turn => WaitsForWorker pool turn ∧ LeavesNothingLive pool turn)
      ⟨start, serveAll platform config requests⟩ turns) :
    Transition.Always (serverMachine platform config.checkpointer.isSome).step (fun pool => OneMutation pool.shared)
      ⟨start, serveAll platform config requests⟩ turns := by
  have safe : (leaseDiscipline platform config workersWaited).Safe ⟨start, serveAll platform config requests⟩ :=
    lease_safe platform config workersWaited requests start fresh (fun asked => asked.elim)
      (graphs_write_unasked config workersWaited (fun asked => asked))
  apply Transition.always_imp _ (leaseDiscipline platform config workersWaited).Safe
  · intro pool kept
    exact one_mutation_of_invariant config pool.shared kept.inv
  · apply Discipline.always_safe _ (lease_sound platform) _ safe
    exact Transition.meets_imp _ _ _
      (fun pool turn both => waits_for_worker_permitted platform config pool turn both.1 both.2) _ _ meets

def quietTurn (pool : Pool Api ServerState TaskId) (turn : Turn Api) : Bool :=
  turn.failure.isNone && (match pool.tasks[turn.task]? with
    | some (_, .abandon _ _) => false
    | _ => true)

theorem quiet_waits_for_worker (pool : Pool Api ServerState TaskId) (turn : Turn Api)
    (quiet : quietTurn pool turn = true) :
    WaitsForWorker pool turn ∧ LeavesNothingLive pool turn := by
  rw [quietTurn, Bool.and_eq_true] at quiet
  constructor
  · intro id threadId resume found
    exact Option.isNone_iff_eq_none.mp quiet.1
  · intro id left rest found
    rw [found] at quiet
    cases quiet.2

def smallMutations : List (RequestContext × Request) :=
  [(smallContext, .deleteThread "t"), (smallContext, .createRun "t" (runBy "a")),
    (smallContext, .createRun "t" (runBy "a"))]

def timedConfig : ServerConfig := smallServerConfig smallGraph (some ⟨true⟩) (some 1)

def mixedTurns : List (Turn Api) :=
  ([0, 0, 1, 1, 0, 2, 1, 1, 0, 0, 0, 1, 1, 2, 1, 1, 2, 1, 1] : List Nat).map (fun task => ⟨task, none⟩)

theorem live_mutations_hold_their_lease_small :
    Transition.Always (serverMachine smallPlatform true).step (fun pool => OneMutation pool.shared)
      ⟨smallState 2 Nat.two_pos, serveAll smallPlatform timedConfig smallMutations⟩ mixedTurns := by
  have quiet : Transition.Meets (serverMachine smallPlatform true).step (fun pool turn => quietTurn pool turn = true)
      ⟨smallState 2 Nat.two_pos, serveAll smallPlatform timedConfig smallMutations⟩ mixedTurns := by decide +kernel
  exact live_mutations_hold_their_lease smallPlatform timedConfig smallMutations
    (smallState 2 Nat.two_pos) rfl mixedTurns
    (Transition.meets_imp _ _ _ quiet_waits_for_worker _ _ quiet)

-- The timeout fires while the worker deletes, and the lease is given back at once.
def abandonedWorker : List (Turn Api) :=
  [⟨0, none⟩, ⟨0, none⟩, ⟨0, some (.cancelled .timeout)⟩, ⟨0, none⟩]

theorem worker_outlives_lease :
    ¬ Transition.Always (serverMachine smallPlatform true).step (fun pool => OneMutation pool.shared)
      ⟨smallState 2 Nat.two_pos, serveAll smallPlatform timedConfig smallMutations⟩ abandonedWorker := by
  intro always
  have last := Transition.always_last _ _ _ _ always
  have freed : ((Transition.run (serverMachine smallPlatform true).step
      ⟨smallState 2 Nat.two_pos, serveAll smallPlatform timedConfig smallMutations⟩
        abandonedWorker).shared.progress.get? 0 =
        some ⟨⟨"t", 0⟩, .deletion, true, false⟩) ∧
      (Transition.run (serverMachine smallPlatform true).step
        ⟨smallState 2 Nat.two_pos, serveAll smallPlatform timedConfig smallMutations⟩ abandonedWorker).shared.holds
          ⟨"t", 0⟩ =
        false := by decide +kernel
  cases freed.2.symm.trans (last.held 0 _ freed.1 rfl)

end LangGraphServer
