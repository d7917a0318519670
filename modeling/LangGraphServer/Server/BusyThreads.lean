import LangGraphServer.Lib.Census
import LangGraphServer.Server.LeaseReturns
import LangGraphServer.Server.StatusPhases

set_option autoImplicit false

namespace LangGraphServer

open Collections Coroutine

namespace ServerState

def statusOf (state : ServerState) (threadId : String) : Option String :=
    (state.store.getThread threadId).map Thread.status

end ServerState

def StreamsOn (calls : List (RequestContext × Call)) (threadId : String) (request : Nat) : Prop :=
  ∃ context body, calls[request]? = some (context, .threaded (.streamRun threadId body))

def OnRecord (threadId : String) : ServerOp → Prop
  | .getThread query => query = threadId
  | .putThread thread => thread.threadId = threadId
  | _ => False

-- A stream on the thread is answered whenever it reads or writes the thread's record.
def RecordsServed (platform : Platform) (persistent : Bool) (calls : List (RequestContext × Call)) (threadId : String)
    (pool : Pool Api ServerState TaskId) (turn : Turn Api) : Prop :=
  ∀ id op resume, pool.tasks[turn.task]? = some (id, .await op resume) → OnRecord threadId op →
    StreamsOn calls threadId id.request →
    (∀ error, turn.failure = some error → ServerState.interruptible id op error = false) ∧
      (turn.failure = none → ∃ value, (pool.shared.perform platform persistent id op).2 = .ok value)

section Status

variable (platform : Platform) (persistent : Bool) (threadId : String)

theorem claim_assistant_thread (store : InMemoryThreadStore) (query assistantId other : String) :
    (store.claimAssistant query assistantId).1.getThread other = store.getThread other := by
  have same : ∀ record, store.threads.get? query = some record →
      ({ store with threads := store.threads.set query { record with assistantId := some assistantId } } :
        InMemoryThreadStore).getThread other = store.getThread other := by
    intro record found
    simp only [InMemoryThreadStore.getThread, Dict.get_set]
    by_cases here : other = query
    · rw [if_pos here, here, found]
      rfl
    · rw [if_neg here]
  rw [InMemoryThreadStore.claimAssistant]
  split
  · rfl
  · rename_i record found
    split
    · split
      · exact same record found
      · rfl
    · exact same record found

theorem perform_status (id : TaskId) (op : ServerOp) (state : ServerState) (steady : ∀ thread, op ≠ .putThread thread)
    (busy : (state.perform platform persistent id op).1.statusOf threadId = some "busy") :
      state.statusOf threadId = some "busy" := by
  have same : ∀ after : ServerState, after.store = state.store → after.statusOf threadId = some "busy" →
      state.statusOf threadId = some "busy" := by
    intro after store busy
    rw [ServerState.statusOf, store] at busy
    exact busy
  cases op with
  | putThread thread => exact absurd rfl (steady thread)
  | claimAssistant query assistantId =>
      refine Eq.trans ?_ busy
      exact congrArg (Option.map Thread.status) (claim_assistant_thread state.store query assistantId threadId).symm
  | deleteThread query =>
      simp only [ServerState.statusOf, ServerState.perform, InMemoryThreadStore.getThread,
        InMemoryThreadStore.deleteThread, Dict.get_pop] at busy
      by_cases here : threadId = query
      · rw [if_pos here] at busy
        cases busy
      · rw [if_neg here] at busy
        exact busy
  | aput config item => exact same _ (ServerState.aput_frame platform persistent id config item state).1 busy
  | acquire query mutation =>
      refine same _ ?_ busy
      simp only [ServerState.perform]
      split <;> rfl
  | begin graphOf =>
      refine same _ ?_ busy
      simp only [ServerState.perform]
      split <;> rfl
  | finish =>
      refine same _ ?_ busy
      simp only [ServerState.perform, ServerState.updateProgress]
      split <;> rfl
  | getThread query => exact busy
  | getAssistantId query => exact busy
  | agetTuple lookup => exact busy
  | alist lookup filter before limit => exact busy
  | deleteCheckpoints query => exact busy
  | release lease => exact busy
  | send message => exact busy
  | suspend => exact busy
  | note entry => exact busy

theorem put_status (id : TaskId) (thread : Thread) (state : ServerState)
    (busy : (state.perform platform persistent id (.putThread thread)).1.statusOf threadId = some "busy") :
    (thread.threadId = threadId ∧ thread.status = "busy" ∧
      (state.perform platform persistent id (.putThread thread)).2 = .ok ()) ∨
      (state.statusOf threadId = some "busy" ∧ (thread.threadId = threadId →
        ∃ error, (state.perform platform persistent id (.putThread thread)).2 = .error error)) := by
  simp only [ServerState.statusOf, ServerState.perform] at busy ⊢
  rcases state.store.put_thread_cases platform thread with ⟨_, answered, stored⟩ | ⟨_, same, refused⟩
  · rw [stored] at busy
    by_cases here : threadId = thread.threadId
    · rw [if_pos here, Option.map_some, Option.some.injEq] at busy
      exact Or.inl ⟨here.symm, busy, answered⟩
    · rw [if_neg here] at busy
      exact Or.inr ⟨busy, fun same => absurd same.symm here⟩
  · rw [same] at busy
    exact Or.inr ⟨busy, fun _ => ⟨_, refused⟩⟩

-- What is known of a task's phase: it was given the records it asked for, and if its
-- request streams on the thread, it also got at them.
structure Sound (streams : Prop) (phase : StatusPhase) : Prop where
  sane : phase ≠ .astray
  excused : phase = .excused → ¬ streams
  owing : phase = .owing → streams

variable {streams : Prop} {threadId}

theorem sound_clear : Sound streams .clear := ⟨by rintro ⟨⟩, by rintro ⟨⟩, by rintro ⟨⟩⟩

theorem read_phase (state : ServerState) (query : String) (phase : StatusPhase) (keyed : state.store.Keyed)
    (sane : phase ≠ .astray) :
    phase.next threadId (.getThread query) (.ok (state.store.getThread query)) = phase ∨
      (phase.next threadId (.getThread query) (.ok (state.store.getThread query)) = .clear ∧
        state.statusOf threadId = none) := by
  cases found : state.store.getThread query with
  | some thread =>
      refine Or.inl ?_
      cases phase <;> first | rfl | exact if_pos (keyed query thread found)
  | none =>
      by_cases here : query = threadId
      · have gone : state.statusOf threadId = none := by rw [ServerState.statusOf, ← here, found, Option.map_none]
        cases phase <;> first | exact absurd rfl sane | exact Or.inl rfl | exact Or.inr ⟨if_pos here, gone⟩
      · refine Or.inl ?_
        cases phase <;> first | rfl | exact if_neg here

theorem written_elsewhere (thread : Thread) (phase : StatusPhase) (elsewhere : thread.threadId ≠ threadId)
    (answer : Except ServerError Unit) : phase.next threadId (.putThread thread) answer = phase := by
  cases answer <;> cases phase <;> first | rfl | exact if_neg elsewhere

theorem written_here (thread : Thread) (phase : StatusPhase) (here : thread.threadId = threadId)
    (sane : phase ≠ .astray) (sees : phase ≠ .excused) :
    phase.next threadId (.putThread thread) (.ok ()) = if thread.status = "busy" then .owing else .clear := by
  cases phase <;> first | exact absurd rfl sane | exact absurd rfl sees | exact if_pos here

theorem refused_here (thread : Thread) (phase : StatusPhase) (here : thread.threadId = threadId)
    (sane : phase ≠ .astray)
    (error : ServerError) : phase.next threadId (.putThread thread) (.error error) = .excused := by
  cases phase <;> first | exact absurd rfl sane | rfl | exact if_pos here

theorem performed_phase (id : TaskId) (op : ServerOp) (state : ServerState) (phase : StatusPhase)
    (keyed : state.store.Keyed) (sound : Sound streams phase) (allowed : phase.allows streams threadId op)
    (served : OnRecord threadId op → streams → ∃ value, (state.perform platform persistent id op).2 = .ok value) :
    (phase.next threadId op (state.perform platform persistent id op).2 = .owing ∧ streams) ∨
      (phase.next threadId op (state.perform platform persistent id op).2 = .clear ∧
        (state.perform platform persistent id op).1.statusOf threadId ≠ some "busy") ∨
      ((phase.next threadId op (state.perform platform persistent id op).2 = phase ∨
          (phase.next threadId op (state.perform platform persistent id op).2 = .excused ∧ ¬ streams)) ∧
        ((state.perform platform persistent id op).1.statusOf threadId = some "busy" →
          state.statusOf threadId = some "busy")) := by
  by_cases aside : Aside op
  · refine Or.inr (Or.inr ⟨Or.inl ((@aside_neutral streams _ op aside phase).2 _), perform_status platform persistent
      threadId id op state ?_⟩)
    rintro thread rfl
    exact aside.elim
  cases op
  case getThread query =>
    rcases @read_phase threadId state query phase keyed sound.sane with same | ⟨cleared, gone⟩
    · exact Or.inr (Or.inr ⟨Or.inl same, fun busy => busy⟩)
    · refine Or.inr (Or.inl ⟨cleared, fun busy => ?_⟩)
      cases gone.symm.trans busy
  case putThread thread =>
    have status := put_status platform persistent threadId id thread state
    by_cases here : thread.threadId = threadId
    · cases answered : (state.perform platform persistent id (.putThread thread)).2 with
      | error error =>
          rw [answered] at status
          refine Or.inr (Or.inr ⟨Or.inr ⟨refused_here thread phase here sound.sane error, fun may => ?_⟩,
            fun busy => ?_⟩)
          · obtain ⟨value, given⟩ := served here may
            cases answered.symm.trans given
          · rcases status busy with ⟨_, _, given⟩ | ⟨before, _⟩
            · cases given
            · exact before
      | ok value =>
          have may : thread.status = "busy" → streams := fun busy => (allowed.resolve_left sound.sane) here busy
          rw [answered] at status
          by_cases sees : phase = .excused
          · subst sees
            refine Or.inr (Or.inr ⟨Or.inl rfl, fun busy => ?_⟩)
            rcases status busy with ⟨_, marked, _⟩ | ⟨before, _⟩
            · exact absurd (may marked) (sound.excused rfl)
            · exact before
          · have next := written_here thread phase here sound.sane sees
            by_cases marked : thread.status = "busy"
            · exact Or.inl ⟨next.trans (if_pos marked), may marked⟩
            · refine Or.inr (Or.inl ⟨next.trans (if_neg marked), fun busy => ?_⟩)
              rcases status busy with ⟨_, same, _⟩ | ⟨_, refused⟩
              · exact marked same
              · obtain ⟨error, given⟩ := refused here
                cases given
    · refine Or.inr (Or.inr ⟨Or.inl (written_elsewhere thread phase here _), fun busy => ?_⟩)
      rcases status busy with ⟨same, _⟩ | ⟨before, _⟩
      · exact absurd same here
      · exact before
  all_goals exact absurd trivial aside

theorem performed_sound (id : TaskId) (op : ServerOp) (state : ServerState) (phase : StatusPhase)
    (keyed : state.store.Keyed) (sound : Sound streams phase) (allowed : phase.allows streams threadId op)
    (served : OnRecord threadId op → streams → ∃ value, (state.perform platform persistent id op).2 = .ok value) :
    Sound streams (phase.next threadId op (state.perform platform persistent id op).2) ∧
      ((state.perform platform persistent id op).1.statusOf threadId = some "busy" →
        phase.next threadId op (state.perform platform persistent id op).2 = .owing ∨
          (state.statusOf threadId = some "busy" ∧ phase ≠ .owing)) := by
  rcases performed_phase platform persistent id op state phase keyed sound allowed served with
    ⟨owing, may⟩ | ⟨cleared, idle⟩ | ⟨same | ⟨excused, none⟩, before⟩
  · rw [owing]
    exact ⟨⟨by rintro ⟨⟩, by rintro ⟨⟩, fun _ => may⟩, fun _ => Or.inl rfl⟩
  · rw [cleared]
    exact ⟨sound_clear, fun busy => absurd busy idle⟩
  · rw [same]
    refine ⟨sound, fun busy => ?_⟩
    by_cases owing : phase = .owing
    · exact Or.inl owing
    · exact Or.inr ⟨before busy, owing⟩
  · rw [excused]
    exact ⟨⟨by rintro ⟨⟩, fun _ => none, by rintro ⟨⟩⟩, fun busy =>
      Or.inr ⟨before busy, fun owing => none (sound.owing owing)⟩⟩

theorem struck_phase (op : ServerOp) (phase : StatusPhase) (error : ServerError) :
    phase.next threadId op (.error error) = phase ∨
      (OnRecord threadId op ∧ phase.next threadId op (.error error) = .excused) := by
  cases op
  case getThread query =>
    by_cases here : query = threadId
    · cases phase <;> first | exact Or.inl rfl | exact Or.inr ⟨here, if_pos here⟩
    · cases phase <;> first | exact Or.inl rfl | exact Or.inl (if_neg here)
  case putThread thread =>
    by_cases here : thread.threadId = threadId
    · cases phase <;> first | exact Or.inl rfl | exact Or.inr ⟨here, if_pos here⟩
    · exact Or.inl (written_elsewhere thread phase here _)
  all_goals exact Or.inl (by cases phase <;> rfl)

theorem leftover_aside (op : ServerOp) : ∀ left ∈ leftover op, left.Awaits Aside := by
  intro left listed
  cases op
  case deleteCheckpoints query =>
    cases List.mem_singleton.mp listed
    exact ⟨trivial, fun _ => ⟨trivial, fun _ => trivial⟩⟩
  case aput config item =>
    cases List.mem_singleton.mp listed
    exact ⟨trivial, fun _ => trivial⟩
  case release lease =>
    cases List.mem_singleton.mp listed
    exact ⟨trivial, fun _ => trivial⟩
  all_goals cases listed

end Status

section Runs

variable (platform : Platform) (persistent : Bool) (calls : List (RequestContext × Call)) (threadId : String)

def statusOrder : Order (serverMachine platform persistent) StatusPhase where
  protocol id := statusProtocol (StreamsOn calls threadId id.request) threadId
  done _ _ phase := phase ≠ .owing
  protocol_helper _ := rfl
  done_helper _ _ _ ends := ends

structure Attended (pool : Pool Api ServerState TaskId) (census : List (TaskId × StatusPhase)) : Prop where
  counts : (statusOrder platform persistent calls threadId).Counts census pool.tasks
  keyed : pool.shared.store.Keyed
  sound : ∀ entry ∈ census, Sound (StreamsOn calls threadId entry.1.request) entry.2
  busy : pool.shared.statusOf threadId = some "busy" → ∃ entry ∈ census, entry.2 = .owing

variable {platform persistent calls threadId}

theorem attended_after {pool after : Pool Api ServerState TaskId} {census : List (TaskId × StatusPhase)}
    (attended : Attended platform persistent calls threadId pool census) (position : Nat) (id : TaskId)
    (phase next : StatusPhase)
    (entry : census[position]? = some (id, phase)) (spawned : List (TaskId × StatusPhase))
    (counts : (statusOrder platform persistent calls threadId).Counts
      (census.set position (id, next) ++ spawned) after.tasks)
    (keyed : after.shared.store.Keyed) (sound : Sound (StreamsOn calls threadId id.request) next)
    (left : ∀ one ∈ spawned, Sound (StreamsOn calls threadId one.1.request) one.2)
    (busy : after.shared.statusOf threadId = some "busy" → next = .owing ∨ (∃ one ∈ spawned, one.2 = .owing) ∨
      (pool.shared.statusOf threadId = some "busy" ∧ phase ≠ .owing)) :
    Attended platform persistent calls threadId after (census.set position (id, next) ++ spawned) := by
  refine ⟨counts, keyed, fun one listed => ?_, fun marked => ?_⟩
  · rcases List.mem_append.mp listed with old | new
    · rcases List.mem_or_eq_of_mem_set old with earlier | rfl
      · exact attended.sound one earlier
      · exact sound
    · exact left one new
  · have moved : (id, next) ∈ census.set position (id, next) :=
      List.mem_of_getElem? (set_entry census position _ _ entry)
    rcases busy marked with owing | ⟨one, listed, owing⟩ | ⟨before, free⟩
    · exact ⟨_, List.mem_append_left _ moved, owing⟩
    · exact ⟨one, List.mem_append_right _ listed, owing⟩
    · obtain ⟨one, listed, owing⟩ := attended.busy before
      rcases Ledger.mem_set_or_eq census position (id, phase) (id, next) one entry listed with rfl | kept
      · exact absurd owing free
      · exact ⟨one, List.mem_append_left _ kept, owing⟩

theorem attended_step (pool : Pool Api ServerState TaskId) (census : List (TaskId × StatusPhase))
    (attended : Attended platform persistent calls threadId pool census) (turn : Turn Api)
    (served : RecordsServed platform persistent calls threadId pool turn) :
    ∃ census, Attended platform persistent calls threadId ((serverMachine platform persistent).step pool turn)
      census := by
  have turned := (statusOrder platform persistent calls threadId).turned pool census attended.counts turn
  generalize (serverMachine platform persistent).step pool turn = after at turned ⊢
  cases turned with
  | idle same _ =>
      subst same
      exact ⟨census, attended⟩
  | performed id op resume phase found entry calm allowed shared counts =>
      have own := attended.sound _ (List.mem_of_getElem? entry)
      have answers := fun here may => (served id op resume found here may).2 calm
      rw [← List.append_nil (census.set _ _)] at counts
      refine ⟨_, attended_after attended _ id phase _ entry [] counts ?_ ?_ (fun _ listed => by cases listed) ?_⟩
      · rw [shared]
        exact perform_keyed platform persistent id op pool.shared attended.keyed
      · exact (performed_sound platform persistent id op pool.shared phase attended.keyed own allowed answers).1
      · intro busy
        rw [shared] at busy
        exact (performed_sound platform persistent id op pool.shared phase attended.keyed own allowed answers).2 busy
          |>.imp_right Or.inr
  | struck id op resume phase error found entry failing possible allowed shared counts =>
      have own := attended.sound _ (List.mem_of_getElem? entry)
      obtain ⟨store, _⟩ := struck_frame id op error pool.shared
      change after.shared = ServerState.struck id op error pool.shared at shared
      rw [← shared] at store
      have status : after.shared.statusOf threadId = pool.shared.statusOf threadId := by
        rw [ServerState.statusOf, store, ServerState.statusOf]
      have missed : OnRecord threadId op → ¬ StreamsOn calls threadId id.request := by
        intro here may
        cases possible.symm.trans ((served id op resume found here may).1 error failing)
      have left : List.Forall₂
        (fun left phase => (statusProtocol (StreamsOn calls threadId id.request) threadId).Follows .anything left
          (fun _ reached => reached ≠ .owing) (fun _ reached => reached ≠ .owing) phase) (leftover op)
          ((leftover op).map (fun _ => StatusPhase.clear)) := by
        refine List.forall₂_map_right_iff.mpr (List.forall₂_same.mpr (fun left listed => ?_))
        exact Protocol.minds_follows left _ _ _ _
          (aside_minds left (leftover_aside op left listed) (fun reached => reached ≠ .owing) .clear
          (by rintro ⟨⟩)) (fun _ _ free => free)
      refine ⟨_, attended_after attended _ id phase _ entry _ (counts _ left) ?_ ?_ (fun one listed => ?_)
        (fun busy => ?_)⟩
      · rw [store]
        exact attended.keyed
      · rcases @struck_phase threadId op phase error with same | ⟨here, excused⟩
        · exact (congrArg (Sound _) same).mpr own
        · exact (congrArg (Sound _) excused).mpr ⟨by rintro ⟨⟩, fun _ => missed here, by rintro ⟨⟩⟩
      · obtain ⟨given, member, rfl⟩ := List.mem_map.mp listed
        obtain ⟨_, _, rfl⟩ := List.mem_map.mp member
        exact sound_clear
      · rw [status] at busy
        by_cases owing : phase = .owing
        · rcases @struck_phase threadId op phase error with same | ⟨here, _⟩
          · exact Or.inl (same.trans owing)
          · exact absurd (own.owing owing) (missed here)
        · exact Or.inr (Or.inr ⟨busy, owing⟩)
  | abandoned id left rest phase found entry shared counts =>
      have own := attended.sound _ (List.mem_of_getElem? entry)
      obtain ⟨theirs, mine, splits, counted⟩ := counts trivial
      refine ⟨_, attended_after attended _ id phase mine entry _ counted ?_ ?_ (fun one listed => ?_) (fun busy => ?_)⟩
      · rw [shared]
        exact attended.keyed
      · rcases splits with ⟨_, rfl⟩ | ⟨_, rfl⟩
        · exact sound_clear
        · exact own
      · cases List.mem_singleton.mp listed
        rcases splits with ⟨rfl, _⟩ | ⟨rfl, _⟩
        · exact own
        · exact sound_clear
      · rw [shared] at busy
        by_cases owing : phase = .owing
        · rcases splits with ⟨rfl, _⟩ | ⟨_, rfl⟩
          · exact Or.inr (Or.inl ⟨_, List.mem_singleton_self _, owing⟩)
          · exact Or.inl owing
        · exact Or.inr (Or.inr ⟨busy, owing⟩)

theorem attended_start (config : ServerConfig) (start : ServerState) (keyed : start.store.Keyed)
    (idle : start.statusOf threadId ≠ some "busy") :
    ∃ census, Attended platform config.checkpointer.isSome calls threadId
      ⟨start, serveCalls platform config calls⟩ census := by
  refine ⟨calls.zipIdx.map (fun call => ((⟨call.2, false⟩ : TaskId), StatusPhase.clear)), ?_, keyed,
    fun entry listed => ?_, fun busy => absurd busy idle⟩
  · refine List.forall₂_map_left_iff.mpr
      (List.forall₂_map_right_iff.mpr (List.forall₂_same.mpr (fun call member => ⟨rfl, ?_⟩)))
    have found := List.mem_zipIdx_iff_getElem?.mp member
    refine Protocol.minds_follows _ _ _ _ _ (answer_call_minds platform config call.1.1 call.1.2 ?_)
      (fun _ _ free => free)
    rintro query body streamed rfl
    exact ⟨call.1.1, body, found.trans (congrArg (fun request => some (call.1.1, request)) streamed)⟩
  · obtain ⟨call, _, rfl⟩ := List.mem_map.mp listed
    exact sound_clear

-- A thread that is shown as busy has a stream under way on it.
def BusyIsStreaming (calls : List (RequestContext × Call)) (threadId : String)
    (pool : Pool Api ServerState TaskId) : Prop :=
  pool.shared.statusOf threadId = some "busy" → ∃ task ∈ pool.tasks, ¬ task.2.Ended ∧
    StreamsOn calls threadId task.1.request

theorem attended_streaming (pool : Pool Api ServerState TaskId) (census : List (TaskId × StatusPhase))
    (attended : Attended platform persistent calls threadId pool census) : BusyIsStreaming calls threadId pool := by
  intro busy
  obtain ⟨entry, listed, owing⟩ := attended.busy busy
  obtain ⟨position, found⟩ := List.mem_iff_getElem?.mp listed
  obtain ⟨task, there, kept⟩ := forall₂_getElem? _ _ _ attended.counts.flip _ _ found
  refine ⟨task, List.mem_of_getElem? there, fun ended => ?_, ?_⟩
  · have follows := kept.follows
    obtain ⟨id, program⟩ := task
    cases program with
    | ret value => exact follows owing
    | raise error => exact follows owing
    | _ => exact ended
  · have may := (attended.sound entry listed).owing owing
    rw [kept.owner] at may
    exact may

theorem busy_threads_are_streaming (platform : Platform) (config : ServerConfig) (calls : List (RequestContext × Call))
    (threadId : String) (start : ServerState) (keyed : start.store.Keyed) (idle : start.statusOf threadId ≠ some "busy")
    (turns : List (Turn Api))
    (served : Transition.Meets (serverMachine platform config.checkpointer.isSome).step
      (RecordsServed platform config.checkpointer.isSome calls threadId)
        ⟨start, serveCalls platform config calls⟩ turns) :
    Transition.Always (serverMachine platform config.checkpointer.isSome).step (BusyIsStreaming calls threadId)
      ⟨start, serveCalls platform config calls⟩ turns := by
  let inv := fun pool => ∃ census, Attended platform config.checkpointer.isSome calls threadId pool census
  have keeps : ∀ pool turn, inv pool → RecordsServed platform config.checkpointer.isSome calls threadId pool turn →
      inv ((serverMachine platform config.checkpointer.isSome).step pool turn) := by
    rintro pool turn ⟨census, attended⟩ served
    exact attended_step pool census attended turn served
  refine Transition.always_imp _ inv _ ?_ _ turns (Transition.always_of_keeps _ _ inv keeps _
    (attended_start config start keyed idle) turns served)
  rintro pool ⟨census, attended⟩
  exact attended_streaming pool census attended

end Runs

def roomyPlatform : Platform := { smallPlatform with threadJsonBytes := fun _ => 0 }

theorem roomy_records_served (calls : List (RequestContext × Call)) (threadId : String)
    (pool : Pool Api ServerState TaskId)
    (turn : Turn Api) (calm : turn.failure = none) : RecordsServed roomyPlatform false calls threadId pool turn := by
  intro id op resume _ here _
  refine ⟨fun error failing => (by cases calm.symm.trans failing), fun _ => ?_⟩
  cases op with
  | getThread query => exact ⟨_, rfl⟩
  | putThread thread =>
      rcases pool.shared.store.put_thread_cases roomyPlatform thread with ⟨_, answered, _⟩ | ⟨large, _⟩
      · exact ⟨(), answered⟩
      · cases large
  | _ => exact here.elim

theorem busy_threads_are_streaming_small_run :
    Transition.Always (serverMachine roomyPlatform false).step (BusyIsStreaming smallStream "t")
      ⟨smallState 2 Nat.two_pos, serveCalls roomyPlatform (smallServerConfig smallGraph none none) smallStream⟩
      (List.replicate 12 ⟨0, none⟩) :=
  busy_threads_are_streaming roomyPlatform (smallServerConfig smallGraph none none) smallStream "t"
    (smallState 2 Nat.two_pos)
    (InMemoryThreadStore.empty_keyed 1000) (by simp [ServerState.statusOf, smallState, InMemoryThreadStore.getThread])
    (List.replicate 12 ⟨0, none⟩)
    (Transition.meets_imp _ _ _ (fun pool turn calm => roomy_records_served smallStream "t" pool turn calm) _ _
      (Transition.meets_of_mem _ (fun turn : Turn Api => turn.failure = none) _ _ (by simp)))

end LangGraphServer
