import LangGraphServer.Server.CleanupSteps

set_option autoImplicit false

namespace LangGraphServer

open Collections Coroutine

-- The run lets go of a generator only when its graph iterator has finished.
def LeavesGraphFinished (request : Nat) (pool : Pool Api ServerState TaskId) (turn : Turn Api) : Prop :=
  ∀ id left rest, pool.tasks[turn.task]? = some (id, .abandon left rest) → id.request = request →
    ¬ pool.shared.LiveIn request

-- A checkpoint of the run is written only while its graph iterator has not finished.
def WritesWhileLive (request : Nat) (pool : Pool Api ServerState TaskId) (turn : Turn Api) : Prop :=
  ∀ id config item resume, pool.tasks[turn.task]? = some (id, .await (ServerOp.aput config item) resume) →
    id.request = request → turn.failure = none → pool.shared.LiveIn request

def TurnOf (request : Nat) (pool : Pool Api ServerState TaskId) (turn : Turn Api) : Prop :=
  ∃ id program, pool.tasks[turn.task]? = some (id, program) ∧ id.request = request

section Pool

variable (platform : Platform) (persistent : Bool) (request : Nat) (threadId : String)

structure Cleanly (pool : Pool Api ServerState TaskId) (census : List (TaskId × RunPhase)) : Prop where
  counts : (cleanupOrder platform persistent request threadId).Counts census pool.tasks
  tidy : Tidy persistent request threadId pool.shared census

variable {platform persistent request threadId} {pool after : Pool Api ServerState TaskId}
    {census : List (TaskId × RunPhase)} {turn : Turn Api}

theorem own_protocol (id : TaskId) (own : id.request = request) :
    (cleanupOrder platform persistent request threadId).protocol id = cleanupProtocol threadId persistent false :=
      if_pos own

theorem other_protocol (id : TaskId) (other : id.request ≠ request) :
    (cleanupOrder platform persistent request threadId).protocol id = Protocol.within (Spares threadId) := if_neg other

theorem own_done (platform : Platform) (id : TaskId) (own : id.request = request) (outcome : Except ServerError Unit)
    (phase : RunPhase) :
    (cleanupOrder platform persistent request threadId).done id outcome phase ↔
      (cleanupProtocol threadId persistent false).ends phase := by
  simp only [cleanupOrder, if_pos own]

theorem other_done (id : TaskId) (other : id.request ≠ request) (outcome : Except ServerError Unit) (phase : RunPhase) :
    (cleanupOrder platform persistent request threadId).done id outcome phase := by
  simp only [cleanupOrder, if_neg other]
  trivial

theorem other_apart {position : Nat} {phase current : RunPhase} {id : TaskId}
    (carrier : Carrier request census position phase)
    (entry : census[turn.task]? = some (id, current)) (other : id.request ≠ request) : turn.task ≠ position := by
  obtain ⟨owner, here, mine⟩ := carrier.here
  intro same
  rw [same, here] at entry
  cases entry
  exact other mine

theorem cleanly_performed (id : TaskId) (op : ServerOp) (current : RunPhase)
    (tidy : Tidy persistent request threadId pool.shared census)
    (entry : census[turn.task]? = some (id, current))
    (writes : ∀ config item, op = .aput config item → id.request = request → pool.shared.LiveIn request)
    (allowed : ((cleanupOrder platform persistent request threadId).protocol id).allows current op)
    (shared : after.shared = (pool.shared.perform platform persistent id op).1)
    (counts : (cleanupOrder platform persistent request threadId).Counts (census.set turn.task (id,
      ((cleanupOrder platform persistent request threadId).protocol id).next current op
      (pool.shared.perform platform persistent id op).2))
      after.tasks) :
    (∃ next, Cleanly platform persistent request threadId after next) ∧
      (id.request = request → after.shared.store = pool.shared.store) := by
  obtain ⟨position, phase, carrier, fits⟩ := tidy
  by_cases own : id.request = request
  · rw [own_protocol id own] at allowed counts
    subst own
    by_cases here : turn.task = position
    · subst here
      obtain ⟨owner, read, _⟩ := carrier.here
      rw [entry] at read
      cases read
      obtain ⟨moved, store⟩ := fits_own platform persistent id threadId op current pool.shared allowed fits
      have stays := carrier_stays carrier id _ [] rfl
        (next_settled persistent current op (pool.shared.perform platform persistent id op).2)
        (fun _ listed => by cases listed)
      rw [List.append_nil] at stays
      exact ⟨⟨_, counts, _, _, stays, shared ▸ moved⟩, fun _ => (congrArg ServerState.store shared).trans store⟩
    · have beside := carrier.others turn.task _ entry here rfl
      have still := next_beside persistent phase current op (pool.shared.perform platform persistent id op).2 beside
        allowed
      have moved : Fits persistent id.request threadId phase (pool.shared.perform platform persistent id op).1 ∧
          (pool.shared.perform platform persistent id op).1.store = pool.shared.store := by
        rcases beside with rfl | ⟨rfl, settled⟩
        · exact fits_stray platform id op phase pool.shared allowed
            (fun config item same => writes config item same rfl) fits
        · exact fits_idle platform id op phase pool.shared settled allowed fits
      obtain ⟨moved, store⟩ := moved
      have stays := carrier_other carrier turn.task id current [] here (fun _ => beside)
        (fun _ listed => by cases listed)
      rw [← still] at stays
      rw [List.append_nil] at stays
      exact ⟨⟨_, counts, position, phase, stays, shared ▸ moved⟩, fun _ =>
        (congrArg ServerState.store shared).trans store⟩
  · rw [other_protocol id own] at allowed counts
    have moved := fits_elsewhere persistent request threadId phase _ _ fits
      (elsewhere_performed platform persistent id op pool.shared request threadId (Ne.symm own) allowed)
    have stays := carrier_other carrier turn.task id current [] (other_apart carrier entry own)
      (fun mine => absurd mine own) (fun _ listed => by cases listed)
    rw [List.append_nil] at stays
    exact ⟨⟨_, counts, position, phase, stays, shared ▸ moved⟩, fun mine => absurd mine own⟩

theorem cleanly_struck (id : TaskId) (op : ServerOp) (current : RunPhase) (error : ServerError)
    (tidy : Tidy persistent request threadId pool.shared census) (entry : census[turn.task]? = some (id, current))
    (possible : ServerState.interruptible id op error = true)
    (allowed : ((cleanupOrder platform persistent request threadId).protocol id).allows current op)
    (shared : after.shared = pool.shared.struck id op error)
    (counts : ∀ phases : List RunPhase,
      List.Forall₂ (fun left phase =>
        ((cleanupOrder platform persistent request threadId).protocol id).Follows .anything left
        (fun _ => ((cleanupOrder platform persistent request threadId).protocol id).ends)
        (fun _ => ((cleanupOrder platform persistent request threadId).protocol id).ends) phase) (leftover op) phases →
      (cleanupOrder platform persistent request threadId).Counts (census.set turn.task (id,
        ((cleanupOrder platform persistent request threadId).protocol id).next current op (.error error)) ++
        phases.map (fun phase => ((⟨id.request, true⟩ : TaskId), phase))) after.tasks) :
    (∃ next, Cleanly platform persistent request threadId after next) ∧
      (id.request = request → after.shared.store = pool.shared.store) := by
  obtain ⟨position, phase, carrier, fits⟩ := tidy
  by_cases own : id.request = request
  · rw [own_protocol id own] at allowed counts
    subst own
    have store := (struck_fits id op error pool.shared phase fits).2
    by_cases here : turn.task = position
    · subst here
      obtain ⟨owner, read, _⟩ := carrier.here
      rw [entry] at read
      cases read
      obtain ⟨phases, follow, tidy⟩ := tidy_struck id op error pool.shared current census _ carrier fits
        allowed possible
      exact ⟨⟨_, counts phases follow, shared ▸ tidy⟩, fun _ => (congrArg ServerState.store shared).trans store⟩
    · have beside := carrier.others turn.task _ entry here rfl
      obtain ⟨phases, follow, tidy⟩ :=
        tidy_struck_beside id op error pool.shared phase current census _ position carrier here beside fits allowed
      exact ⟨⟨_, counts phases follow, shared ▸ tidy⟩, fun _ => (congrArg ServerState.store shared).trans store⟩
  · rw [other_protocol id own] at allowed counts
    have moved := fits_elsewhere persistent request threadId phase _ _ fits
      (elsewhere_struck id op error pool.shared request threadId (Ne.symm own))
    refine ⟨⟨_, counts ((leftover op).map (fun _ => current)) ?_, position, phase, carrier_other carrier
      turn.task id current _ (other_apart carrier entry own) (fun mine => absurd mine own)
        (fun left listed mine => ?_), shared ▸ moved⟩,
      fun mine => absurd mine own⟩
    · rw [List.forall₂_map_right_iff, List.forall₂_same]
      exact fun left listed => Protocol.follows_within _ left current (leftover_spares op allowed left listed) _ _
        (fun _ => trivial)
    · obtain ⟨_, _, rfl⟩ := List.mem_map.mp listed
      exact absurd mine own

theorem cleanly_abandoned (id : TaskId) (current : RunPhase)
    (tidy : Tidy persistent request threadId pool.shared census)
    (entry : census[turn.task]? = some (id, current)) (finished : id.request = request → ¬ pool.shared.LiveIn request)
    (shared : after.shared = pool.shared)
    (counts : ((cleanupOrder platform persistent request threadId).protocol id).lets current → ∃ theirs mine,
      ((cleanupOrder platform persistent request threadId).protocol id).splits current theirs mine ∧
        (cleanupOrder platform persistent request threadId).Counts
          (census.set turn.task (id, mine) ++ [((⟨id.request, true⟩ : TaskId), theirs)]) after.tasks) :
    ∃ next, Cleanly platform persistent request threadId after next := by
  obtain ⟨position, phase, carrier, fits⟩ := tidy
  by_cases own : id.request = request
  · rw [own_protocol id own] at counts
    subst own
    have idle : phase ≠ .live := fun running => finished rfl (fits.live.mpr running)
    by_cases here : turn.task = position
    · subst here
      obtain ⟨owner, read, _⟩ := carrier.here
      rw [entry] at read
      cases read
      obtain ⟨theirs, mine, splits, counts⟩ := counts idle
      rcases splits with ⟨rfl, ⟨rfl, rfl⟩ | ⟨rfl, rfl⟩⟩ | ⟨owed, _, rfl, rfl⟩
      · exact ⟨_, counts, _, .after, carrier_passes carrier id ⟨id.request, true⟩ rfl, shared ▸ fits⟩
      · exact ⟨_, counts, _, .after, carrier_stays carrier id .after _ rfl (fun _ => Or.inl rfl)
          (fun left listed => by rw [List.mem_singleton.mp listed]; exact Or.inr ⟨rfl, Or.inl rfl⟩), shared ▸ fits⟩
      · exact ⟨_, counts, _, .clean, carrier_stays carrier id .clean _ rfl (fun _ => Or.inr rfl)
          (fun left listed => by rw [List.mem_singleton.mp listed]; exact Or.inr ⟨rfl, Or.inr rfl⟩),
          shared ▸ fits_clean persistent id.request threadId current _ idle (fun _ => owed) fits⟩
    · rcases carrier.others turn.task _ entry here rfl with stray | ⟨clean, settled⟩
      · rw [show current = .stray from stray] at counts
        obtain ⟨theirs, mine, splits, _⟩ := counts (by simp [cleanupProtocol])
        rcases splits with ⟨other, _⟩ | ⟨_, other, _⟩
        · cases other
        · exact absurd rfl other
      · rw [show current = .clean from clean] at counts
        obtain ⟨theirs, mine, splits, counts⟩ := counts (by simp [cleanupProtocol])
        rcases splits with ⟨other, _⟩ | ⟨_, _, rfl, rfl⟩
        · cases other
        · exact ⟨_, counts, position, phase, carrier_other carrier turn.task id .clean _ here
            (fun _ => Or.inr ⟨rfl, settled⟩) (fun left listed _ => by
              rw [List.mem_singleton.mp listed]; exact Or.inr ⟨rfl, settled⟩), shared ▸ fits⟩
  · rw [other_protocol id own] at counts
    obtain ⟨theirs, mine, _, counts⟩ := counts trivial
    refine ⟨_, counts, position, phase, carrier_other carrier turn.task id mine _ (other_apart carrier entry own)
      (fun mine => absurd mine own) (fun left listed mine => ?_), shared ▸ fits⟩
    rw [List.mem_singleton.mp listed] at mine
    exact absurd mine own

theorem cleanly_step (pool : Pool Api ServerState TaskId) (census : List (TaskId × RunPhase)) (turn : Turn Api)
    (cleanly : Cleanly platform persistent request threadId pool census)
    (finished : LeavesGraphFinished request pool turn) (writes : WritesWhileLive request pool turn) :
    (∃ next, Cleanly platform persistent request threadId ((serverMachine platform persistent).step pool turn) next) ∧
      (TurnOf request pool turn → ((serverMachine platform persistent).step pool turn).shared.store =
        pool.shared.store) := by
  have order := (cleanupOrder platform persistent request threadId).turned pool census cleanly.counts turn
  cases order with
  | idle same stuck =>
      rw [same]
      exact ⟨⟨census, cleanly⟩, fun _ => rfl⟩
  | performed id op resume current found entry calm allowed shared counts =>
      obtain ⟨next, store⟩ := cleanly_performed id op current cleanly.tidy entry (fun config item same own => by
        subst same
        exact writes id config item resume found own calm) allowed shared counts
      refine ⟨next, fun ⟨other, program, read, own⟩ => store ?_⟩
      rw [found] at read
      cases read
      exact own
  | struck id op resume current error found entry failing possible allowed shared counts =>
      obtain ⟨next, store⟩ := cleanly_struck id op current error cleanly.tidy entry possible allowed shared counts
      refine ⟨next, fun ⟨other, program, read, own⟩ => store ?_⟩
      rw [found] at read
      cases read
      exact own
  | abandoned id left rest current found entry shared counts =>
      exact ⟨cleanly_abandoned id current cleanly.tidy entry (finished id left rest found) shared counts,
        fun _ => congrArg ServerState.store shared⟩

end Pool

def AtAwait (op : ServerOp) (program : Coro Api Unit) : Prop := ∃ resume, program = .await op resume

-- The deletion of the generated thread is issued after the graph has finished, and once all
-- of the run's tasks have ended nothing is stored for the thread. A write that was cut off
-- and never made is no task to wait for.
structure NothingLeft (request : Nat) (threadId : String) (pool : Pool Api ServerState TaskId) : Prop where
  late : ∀ task ∈ pool.tasks, task.1.request = request → AtAwait (.deleteCheckpoints threadId) task.2 →
    ¬ pool.shared.LiveIn request
  emptied : ¬ pool.shared.LiveIn request → (∀ task ∈ pool.tasks, task.1.request = request →
    task.2.Ended ∨ ∃ config item, AtAwait (.aput config item) task.2) → pool.shared.saved.get? threadId = none

theorem cleanly_nothing_left (platform : Platform) (persistent : Bool) (request : Nat) (threadId : String)
    (pool : Pool Api ServerState TaskId) (census : List (TaskId × RunPhase))
    (cleanly : Cleanly platform persistent request threadId pool census) : NothingLeft request threadId pool := by
  obtain ⟨counts, position, phase, carrier, fits⟩ := cleanly
  refine ⟨fun task member own awaiting live => ?_, fun finished ended => ?_⟩
  · obtain ⟨resume, awaits⟩ := awaiting
    obtain ⟨turned, found⟩ := List.getElem?_of_mem member
    obtain ⟨⟨owner, current⟩, entry, same, follows⟩ := forall₂_getElem? _ _ _ counts turned task found
    rw [own_protocol task.1 own, awaits] at follows
    obtain ⟨_, idle, run⟩ := follows.1
    have running := fits.live.mp live
    by_cases here : turned = position
    · obtain ⟨_, read, _⟩ := carrier.here
      rw [here, read] at entry
      cases entry
      exact idle running
    · rcases carrier.others turned _ entry here (by rw [show owner = task.1 from same]; exact own)
        with stray | ⟨_, settled⟩
      · exact run stray
      · rw [running] at settled
        rcases settled with other | other <;> cases other
  · obtain ⟨owner, read, own⟩ := carrier.here
    obtain ⟨⟨id, program⟩, found, same, follows⟩ := forall₂_getElem? _ _ _ counts.flip position _ read
    have mine : id.request = request := by rw [← show owner = id from same]; exact own
    rw [own_protocol id mine] at follows
    have ends : (cleanupProtocol threadId persistent false).ends phase := by
      rcases ended _ (List.mem_of_getElem? found) mine with beyond | ⟨config, item, resume, awaits⟩
      · cases program with
        | ret value => exact (own_done platform id mine (.ok value) phase).mp follows
        | raise error => exact (own_done platform id mine (.error error) phase).mp follows
        | await op resume => exact beyond.elim
        | yield item next closing => exact beyond.elim
        | abandon left rest => exact beyond.elim
      · rw [show program = _ from awaits] at follows
        exact absurd (fits.live.mpr (follows.1.1.resolve_right fits.run)) finished
    exact fits.empty ends.1 ends.2

def LeavesStore (step : Pool Api ServerState TaskId → Turn Api → Pool Api ServerState TaskId) (request : Nat)
    (pool : Pool Api ServerState TaskId) (turn : Turn Api) : Prop :=
  TurnOf request pool turn → (step pool turn).shared.store = pool.shared.store

theorem stateless_run_leaves_nothing (platform : Platform) (config : ServerConfig)
    (calls : List (RequestContext × Call)) (request : Nat) (context : RequestContext) (body : RunCreate)
    (listed : calls[request]? = some (context, .stateless body))
    (generated : ∀ other given call, calls[other]? = some (given, call) → other ≠ request →
      call.threadId given ≠ context.freshThreadId)
    (deletes : ∀ saver, config.checkpointer = some saver → saver.deletesThreads = true) (start : ServerState)
    (idle : start.progress.get? request = none) (empty : start.saved.get? context.freshThreadId = none)
    (turns : List (Turn Api))
    (writes : Transition.Meets (serverMachine platform config.checkpointer.isSome).step (WritesWhileLive request)
      ⟨start, serveCalls platform config calls⟩ turns)
    (finished : Transition.Meets (serverMachine platform config.checkpointer.isSome).step (LeavesGraphFinished request)
      ⟨start, serveCalls platform config calls⟩ turns) :
    Transition.Always (serverMachine platform config.checkpointer.isSome).step
      (NothingLeft request context.freshThreadId)
      ⟨start, serveCalls platform config calls⟩ turns ∧
    Transition.Meets (serverMachine platform config.checkpointer.isSome).step
      (LeavesStore (serverMachine platform config.checkpointer.isSome).step request)
      ⟨start, serveCalls platform config calls⟩ turns := by
  have initial : ∃ census, Cleanly platform config.checkpointer.isSome request context.freshThreadId
      ⟨start, serveCalls platform config calls⟩ census := by
    refine ⟨calls.zipIdx.map (fun call => ((⟨call.2, false⟩ : TaskId), RunPhase.fresh)), ?_, request,
      .fresh, ⟨?_, ?_⟩, ?_⟩
    · refine List.forall₂_map_left_iff.mpr
        (List.forall₂_map_right_iff.mpr (List.forall₂_same.mpr (fun call member => ⟨rfl, ?_⟩)))
      have found := List.mem_zipIdx_iff_getElem?.mp member
      by_cases own : call.2 = request
      · rw [own, listed, Option.some.injEq] at found
        rw [own_protocol _ own, ← found]
        exact Protocol.follows_mono _ _ _ _ _ _ _ _ (fun outcome phase ends =>
          (own_done platform _ own outcome phase).mpr ends)
          (fun outcome phase ends => (own_done platform _ own outcome phase).mpr ends)
          (leads_stream_run_stateless platform config context body deletes)
      · have apart := generated call.2 call.1.1 call.1.2 found own
        rw [other_protocol _ own]
        exact Protocol.follows_within _ _ _ (answer_call_awaits platform config call.1.1 call.1.2 apart) _ _
          (fun outcome => other_done _ own outcome _)
    · refine ⟨⟨request, false⟩, ?_, rfl⟩
      rw [List.getElem?_map, List.getElem?_zipIdx, listed]
      simp
    · intro other entry found elsewhere own
      rw [List.getElem?_map, List.getElem?_zipIdx] at found
      cases read : calls[other]? with
      | none =>
          rw [read] at found
          cases found
      | some call =>
          rw [read] at found
          cases found
          simp at own
          exact absurd own elsewhere
    · refine ⟨by simp, ⟨fun ⟨progress, found, _⟩ => ?_, fun same => by cases same⟩, fun same => (by
        cases same), fun _ _ => empty, fun _ => empty⟩
      cases idle.symm.trans found
  have both := Transition.meets_and _ _ _ _ turns finished writes
  let inv := fun pool => ∃ census, Cleanly platform config.checkpointer.isSome request context.freshThreadId pool census
  have keeps : ∀ pool turn, inv pool → LeavesGraphFinished request pool turn ∧ WritesWhileLive request pool turn →
      inv ((serverMachine platform config.checkpointer.isSome).step pool turn) :=
    fun pool turn ⟨census, cleanly⟩ considered => (cleanly_step pool census turn cleanly considered.1 considered.2).1
  refine ⟨Transition.always_imp _ inv _ (fun pool ⟨census, cleanly⟩ =>
    cleanly_nothing_left platform config.checkpointer.isSome request context.freshThreadId pool census cleanly) _ turns
    (Transition.always_of_keeps _ _ inv keeps _ initial turns both), ?_⟩
  exact Transition.meets_of_keeps _ _ _ inv keeps (fun pool turn ⟨census, cleanly⟩ considered =>
    (cleanly_step pool census turn cleanly considered.1 considered.2).2) _ initial turns both

def smallStateless (graph : GraphRuntime) : Pool Api ServerState TaskId :=
  ⟨smallState 2 Nat.two_pos, serveCalls smallPlatform (smallServerConfig graph (some ⟨true⟩) none)
    [(smallContext, .stateless (runBy "a"))]⟩

def calmTurn (pool : Pool Api ServerState TaskId) (turn : Turn Api) : Bool :=
  match pool.tasks[turn.task]? with
  | some (id, .await (.aput _ _) _) => (pool.shared.progress.get? id.request).any Progress.live
  | some (_, .abandon _ _) => false
  | _ => true

theorem calm_leaves_graph_finished (request : Nat) (pool : Pool Api ServerState TaskId) (turn : Turn Api)
    (calm : calmTurn pool turn = true) : LeavesGraphFinished request pool turn := by
  intro id left rest found _
  rw [calmTurn, found] at calm
  cases calm

theorem calm_writes_while_live (request : Nat) (pool : Pool Api ServerState TaskId) (turn : Turn Api)
    (calm : calmTurn pool turn = true) : WritesWhileLive request pool turn := by
  intro id config item resume found own _
  rw [calmTurn, found] at calm
  simp only [Option.any_eq_true] at calm
  rw [← own]
  exact calm

def streamingGraph : GraphRuntime where
  ainvoke _ _ := .done (.dict [])
  astream _ config _ := .write (savedOnce config) (fun _ => .emit (.dict []) .done (.done .none))
  aupdateState := none

def wholeRun : List (Turn Api) := List.replicate 23 ⟨0, none⟩

theorem stateless_run_leaves_nothing_small_run :
    Transition.Always (serverMachine smallPlatform true).step (NothingLeft 0 "fresh")
      (smallStateless streamingGraph) wholeRun ∧
    Transition.Meets (serverMachine smallPlatform true).step (LeavesStore (serverMachine smallPlatform true).step 0)
      (smallStateless streamingGraph) wholeRun ∧
    ((Transition.run (serverMachine smallPlatform true).step (smallStateless streamingGraph)
      (wholeRun.take 14)).shared.items "fresh").length = 1 ∧
    (Transition.run (serverMachine smallPlatform true).step (smallStateless streamingGraph) wholeRun).shared.items
      "fresh" = [] := by
  have calm : Transition.Meets (serverMachine smallPlatform true).step (fun pool turn => calmTurn pool turn = true)
      (smallStateless streamingGraph) wholeRun := by decide +kernel
  rw [← and_assoc]
  refine ⟨?_, by decide +kernel, List.length_eq_zero_iff.mp (by decide +kernel)⟩
  refine stateless_run_leaves_nothing smallPlatform (smallServerConfig streamingGraph (some ⟨true⟩) none)
    [(smallContext, .stateless (runBy "a"))] 0 smallContext (runBy "a") rfl ?_ ?_ (smallState 2 Nat.two_pos)
      rfl rfl wholeRun
    (Transition.meets_imp _ _ _ (calm_writes_while_live 0) _ _ calm)
    (Transition.meets_imp _ _ _ (calm_leaves_graph_finished 0) _ _ calm)
  · intro other given call found elsewhere
    cases other with
    | zero => exact absurd rfl elsewhere
    | succ other => cases found
  · intro saver present
    cases present
    rfl

-- A graph that still writes a checkpoint when its iterator is closed.
def lateGraph : GraphRuntime where
  ainvoke _ _ := .done (.dict [])
  astream _ _ _ := .emit (.dict []) .done
    (.write ⟨"", "c1", none, none, .empty, none, none, fun _ same => by cases same⟩ (fun _ => .done .none))
  aupdateState := none

def awaitsDeletion (threadId : String) : Coro Api Unit → Bool
  | .await (.deleteCheckpoints deleted) _ => decide (deleted = threadId)
  | _ => false

theorem awaits_deletion (threadId : String) (program : Coro Api Unit)
    (awaits : awaitsDeletion threadId program = true) :
    AtAwait (.deleteCheckpoints threadId) program := by
  rw [awaitsDeletion.eq_def] at awaits
  split at awaits
  · rw [← of_decide_eq_true awaits]
    exact ⟨_, rfl⟩
  · cases awaits

-- The client goes away at the first values event: sending it fails, the generators are let go
-- of and closed outermost first, and the deletion is issued while the graph is still open.
def disconnectedRun : List (Turn Api) :=
  List.replicate 12 ⟨0, none⟩ ++ [⟨0, some .osError⟩, ⟨0, none⟩, ⟨1, none⟩, ⟨2, none⟩, ⟨3, none⟩]

theorem disconnect_deletes_too_early :
    ¬ Transition.Always (serverMachine smallPlatform true).step (NothingLeft 0 "fresh") (smallStateless lateGraph)
      disconnectedRun := by
  intro always
  have last := Transition.always_last _ _ _ _ always
  have deleting : (((Transition.run (serverMachine smallPlatform true).step (smallStateless lateGraph)
      disconnectedRun).tasks.any (fun task => decide (task.1.request = 0) && awaitsDeletion "fresh" task.2)) = true) ∧
      ((Transition.run (serverMachine smallPlatform true).step (smallStateless lateGraph)
        disconnectedRun).shared.progress.get? 0).any Progress.live = true := by decide +kernel
  obtain ⟨waiting, running⟩ := deleting
  obtain ⟨task, member, both⟩ := List.any_eq_true.mp waiting
  rw [Bool.and_eq_true] at both
  cases found : (Transition.run (serverMachine smallPlatform true).step (smallStateless lateGraph)
    disconnectedRun).shared.progress.get? 0 with
  | none =>
      rw [found] at running
      cases running
  | some progress =>
      rw [found] at running
      exact last.late task member (of_decide_eq_true both.1) (awaits_deletion "fresh" task.2 both.2)
        ⟨progress, found, running⟩

end LangGraphServer
