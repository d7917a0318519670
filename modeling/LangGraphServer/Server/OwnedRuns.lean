import LangGraphServer.Server.OneMutation

set_option autoImplicit false

namespace LangGraphServer

open Collections Coroutine

-- While the graph of an assistant runs on a thread under its lease, nothing says that the
-- thread is another assistant's.
def OwnedRuns (state : ServerState) : Prop :=
  ∀ request progress assistantId, state.progress.get? request = some progress → progress.mutation = .run assistantId →
    progress.live = true → state.holds progress.lease = true →
      (∀ owner, state.ownerOf progress.lease.threadId = some owner → owner = assistantId) ∧
        ∀ item ∈ state.items progress.lease.threadId, ∀ marked, checkpointAssistantId item = some marked →
          marked = assistantId

def TakesOwnThread (pool : Pool Api ServerState TaskId) (turn : Turn Api) : Prop :=
  ∀ id threadId assistantId resume,
    pool.tasks[turn.task]? = some (id, .await (ServerOp.acquire threadId (.run assistantId)) resume) →
    turn.failure = none → (∃ lease, (pool.shared.coordinator.acquire threadId).2 = .ok lease) →
    pool.shared.ownerOf threadId = some assistantId

def WaitsForWrite (pool : Pool Api ServerState TaskId) (turn : Turn Api) : Prop :=
  ∀ id runnableConfig item resume, pool.tasks[turn.task]? =
    some (id, .await (ServerOp.aput runnableConfig item) resume) →
    turn.failure = none

structure KeepsOwners (pool : Pool Api ServerState TaskId) (turn : Turn Api) : Prop where
  takes : TakesOwnThread pool turn
  writes : WaitsForWrite pool turn
  leaves : LeavesNothingLive pool turn

def ownersAsked : Scope := ⟨False, True⟩

theorem keeps_owners_permitted (platform : Platform) (config : ServerConfig) (pool : Pool Api ServerState TaskId)
    (turn : Turn Api) (keeps : KeepsOwners pool turn) :
    (leaseDiscipline platform config ownersAsked).Permitted pool turn := by
  constructor
  · intro id op resume found
    show leasePermits ownersAsked id op turn.failure pool.shared
    rw [leasePermits.eq_def]
    split
    · exact fun unasked => unasked
    · rename_i failed
      cases (keeps.writes _ _ _ _ found).symm.trans failed
    · rename_i unfailed
      exact fun _ granted => keeps.takes _ _ _ _ found unfailed granted
    · trivial
  · exact keeps.leaves

theorem owned_runs_of_invariant (config : ServerConfig) (state : ServerState)
    (inv : LeaseInvariant config ownersAsked state) : OwnedRuns state := by
  intro request progress assistantId found runs live held
  have owned := inv.running trivial request progress assistantId found live runs
  constructor
  · intro owner recorded
    rw [owned, Option.some.injEq] at recorded
    exact recorded.symm
  · intro item member marked marks
    exact (inv.attributed trivial).uniform progress.lease.threadId assistantId owned item member marked marks

theorem graphs_run_on_owned_threads (platform : Platform) (config : ServerConfig)
    (graphs : config.GraphsWrite (fun _ => True) MarksNoOther) (requests : List (RequestContext × Request))
    (start : ServerState) (fresh : start.progress = .empty) (attributed : Attributed config.checkpointer.isSome start)
    (turns : List (Turn Api))
    (meets : Transition.Meets (serverMachine platform config.checkpointer.isSome).step KeepsOwners
      ⟨start, serveAll platform config requests⟩ turns) :
    Transition.Always (serverMachine platform config.checkpointer.isSome).step (fun pool => OwnedRuns pool.shared)
      ⟨start, serveAll platform config requests⟩ turns := by
  have safe : (leaseDiscipline platform config ownersAsked).Safe ⟨start, serveAll platform config requests⟩ :=
    lease_safe platform config ownersAsked requests start fresh (fun _ => attributed)
      (graphs_write_mono config _ _ _ (fun _ _ marks _ => marks) graphs)
  apply Transition.always_imp _ (leaseDiscipline platform config ownersAsked).Safe
  · intro pool kept
    exact owned_runs_of_invariant config pool.shared kept.inv
  · apply Discipline.always_safe _ (lease_sound platform) _ safe
    exact Transition.meets_imp _ _ _ (keeps_owners_permitted platform config) _ _ meets

theorem no_checkpoints_attributed (persistent : Bool) (state : ServerState) (empty : state.saved = .empty) :
    Attributed persistent state := by
  have nothing : ∀ threadId, state.items threadId = [] := by
    intro threadId
    rw [ServerState.items, empty, Dict.get_empty]
    rfl
  constructor
  · intro _ threadId
    exact nothing threadId
  · intro threadId _ item member
    rw [nothing] at member
    cases member
  · intro threadId owner _ item member
    rw [nothing] at member
    cases member

def orderlyTurn (pool : Pool Api ServerState TaskId) (turn : Turn Api) : Bool :=
  quietTurn pool turn && (match pool.tasks[turn.task]? with
    | some (_, .await (.acquire threadId (.run assistantId)) _) =>
        decide (pool.shared.ownerOf threadId = some assistantId)
    | _ => true)

theorem orderly_keeps_owners (pool : Pool Api ServerState TaskId) (turn : Turn Api)
    (orderly : orderlyTurn pool turn = true) :
    KeepsOwners pool turn := by
  rw [orderlyTurn, Bool.and_eq_true] at orderly
  obtain ⟨quiet, takes⟩ := orderly
  constructor
  · intro id threadId assistantId resume found _ _
    rw [found] at takes
    exact of_decide_eq_true takes
  · intro id runnableConfig item resume _
    rw [quietTurn, Bool.and_eq_true] at quiet
    exact Option.isNone_iff_eq_none.mp quiet.1
  · exact (quiet_waits_for_worker pool turn quiet).2

def contendedThread : List (RequestContext × Request) :=
  [(smallContext, .createRun "t" (runBy "a")), (smallContext, .deleteThread "t"),
    (smallContext, .createRun "t" (runBy "b"))]

def savingConfig : ServerConfig := smallServerConfig smallGraph (some ⟨true⟩) none

def markingConfig : ServerConfig := smallServerConfig savingGraph (some ⟨true⟩) none

theorem marking_config_marks : markingConfig.GraphsWrite (fun _ => True) MarksNoOther := by
  refine small_graphs_write savingGraph _ _ _ _
    (saving_graph_writes _ _ (fun config threadId assistantId marks marked read => ?_))
  rw [saved_once_marker config threadId assistantId marks] at read
  split at read
  · cases read
  · exact (Option.some.inj read).symm

def oneAfterAnother : List (Turn Api) :=
  List.replicate 11 ⟨0, none⟩ ++ List.replicate 7 ⟨1, none⟩ ++ List.replicate 11 ⟨2, none⟩

theorem graphs_run_on_owned_threads_in_order :
    Transition.Always (serverMachine smallPlatform true).step (fun pool => OwnedRuns pool.shared)
      ⟨smallState 2 Nat.two_pos, serveAll smallPlatform markingConfig contendedThread⟩ oneAfterAnother := by
  have orderly : Transition.Meets (serverMachine smallPlatform true).step
    (fun pool turn => orderlyTurn pool turn = true)
      ⟨smallState 2 Nat.two_pos, serveAll smallPlatform markingConfig contendedThread⟩ oneAfterAnother :=
        by decide +kernel
  exact graphs_run_on_owned_threads smallPlatform markingConfig marking_config_marks contendedThread
    (smallState 2 Nat.two_pos)
    rfl (no_checkpoints_attributed true _ rfl) oneAfterAnother
      (Transition.meets_imp _ _ _ orderly_keeps_owners _ _ orderly)

-- The first run claims the thread; it is deleted and claimed by the other assistant before
-- the first takes its lease.
def deletedBetween : List (Turn Api) :=
  List.replicate 6 ⟨0, none⟩ ++ List.replicate 7 ⟨1, none⟩ ++ List.replicate 6 ⟨2, none⟩ ++ List.replicate 2 ⟨0, none⟩

theorem graph_runs_on_lost_thread :
    ¬ Transition.Always (serverMachine smallPlatform true).step (fun pool => OwnedRuns pool.shared)
      ⟨smallState 2 Nat.two_pos, serveAll smallPlatform savingConfig contendedThread⟩ deletedBetween := by
  intro always
  have last := Transition.always_last _ _ _ _ always
  have taken : (Transition.run (serverMachine smallPlatform true).step
        ⟨smallState 2 Nat.two_pos, serveAll smallPlatform savingConfig contendedThread⟩
          deletedBetween).shared.progress.get? 0 =
        some ⟨⟨"t", 1⟩, .run "a", true, false⟩ ∧
      (Transition.run (serverMachine smallPlatform true).step
        ⟨smallState 2 Nat.two_pos, serveAll smallPlatform savingConfig contendedThread⟩ deletedBetween).shared.holds
          ⟨"t", 1⟩ =
        true ∧
      (Transition.run (serverMachine smallPlatform true).step
        ⟨smallState 2 Nat.two_pos, serveAll smallPlatform savingConfig contendedThread⟩ deletedBetween).shared.ownerOf
          "t" =
        some "b" := by decide +kernel
  obtain ⟨found, held, owned⟩ := taken
  exact absurd ((last 0 _ "a" found rfl rfl held).1 "b" owned) (by decide)

end LangGraphServer
