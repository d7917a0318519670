import LangGraphServer.Lib.Census
import LangGraphServer.Lib.Run
import LangGraphServer.Server.Footprint
import LangGraphServer.Server.Residue

set_option autoImplicit false

namespace LangGraphServer

open Collections Coroutine

namespace ServerState

def LiveIn (state : ServerState) (request : Nat) : Prop :=
  ∃ progress, state.progress.get? request = some progress ∧ progress.live = true

theorem update_progress_other (state : ServerState) (request query : Nat) (change : Progress → Progress)
    (other : query ≠ request) : (state.updateProgress request change).progress.get? query =
      state.progress.get? query := by
  rw [updateProgress]
  split
  · exact (Dict.get_set _ _ _ _).trans (if_neg other)
  · rfl

theorem update_progress_saved (state : ServerState) (request : Nat) (change : Progress → Progress) :
    (state.updateProgress request change).saved = state.saved ∧ (state.updateProgress request change).store =
      state.store := by
  rw [updateProgress]
  split
  · exact ⟨rfl, rfl⟩
  · exact ⟨rfl, rfl⟩

theorem update_progress_own (state : ServerState) (request : Nat) (change : Progress → Progress) :
    (state.updateProgress request change).progress.get? request = (state.progress.get? request).map change := by
  rw [updateProgress]
  split
  · rename_i progress found
    rw [found]
    exact (Dict.get_set _ _ _ _).trans (if_pos rfl)
  · rename_i missing
    rw [missing]
    rfl

end ServerState

-- What a request's step leaves of another one's progress and of a thread that it spares.
structure Elsewhere (request : Nat) (threadId : String) (before after : ServerState) : Prop where
  progress : after.progress.get? request = before.progress.get? request
  saved : after.saved.get? threadId = before.saved.get? threadId ∨ after.saved.get? threadId = none

theorem elsewhere_performed (platform : Platform) (persistent : Bool) (id : TaskId) (op : ServerOp)
    (state : ServerState)
    (request : Nat) (threadId : String) (other : request ≠ id.request) (spares : Spares threadId op) :
    Elsewhere request threadId state (state.perform platform persistent id op).1 := by
  cases op with
  | aput config item =>
      refine ⟨by rw [(state.aput_frame platform persistent id config item).2.2.2], ?_⟩
      simp only [ServerState.perform, ServerState.aput]
      split
      · split
        · rename_i elsewhere thread
          refine Or.inl ((Dict.get_set _ _ _ _).trans (if_neg (fun same => ?_)))
          subst same
          exact spares config item rfl thread
        · exact Or.inl rfl
      · exact Or.inl rfl
  | deleteCheckpoints deleted =>
      refine ⟨rfl, ?_⟩
      by_cases same : threadId = deleted
      · exact Or.inr ((Dict.get_pop _ _ _).trans (if_pos same))
      · exact Or.inl ((Dict.get_pop _ _ _).trans (if_neg same))
  | acquire threadId mutation =>
      simp only [ServerState.perform]
      split
      · exact ⟨(Dict.get_set _ _ _ _).trans (if_neg other), Or.inl rfl⟩
      · exact ⟨rfl, Or.inl rfl⟩
  | begin graphOf =>
      simp only [ServerState.perform]
      split
      · exact ⟨(Dict.get_set _ _ _ _).trans (if_neg other), Or.inl rfl⟩
      · exact ⟨rfl, Or.inl rfl⟩
  | finish =>
      refine ⟨state.update_progress_other id.request request _ other, Or.inl ?_⟩
      exact congrArg (fun saved => saved.get? threadId) (state.update_progress_saved id.request _).1
  | getThread threadId => exact ⟨rfl, Or.inl rfl⟩
  | putThread thread => exact ⟨rfl, Or.inl rfl⟩
  | getAssistantId threadId => exact ⟨rfl, Or.inl rfl⟩
  | claimAssistant threadId assistantId => exact ⟨rfl, Or.inl rfl⟩
  | deleteThread threadId => exact ⟨rfl, Or.inl rfl⟩
  | agetTuple lookup => exact ⟨rfl, Or.inl rfl⟩
  | alist lookup filter before limit => exact ⟨rfl, Or.inl rfl⟩
  | release lease => exact ⟨rfl, Or.inl rfl⟩
  | send message => exact ⟨rfl, Or.inl rfl⟩
  | suspend => exact ⟨rfl, Or.inl rfl⟩
  | note entry => exact ⟨rfl, Or.inl rfl⟩

theorem elsewhere_struck (id : TaskId) (op : ServerOp) (error : ServerError) (state : ServerState) (request : Nat)
    (threadId : String) (other : request ≠ id.request) : Elsewhere request threadId state
    (state.struck id op error) := by
  have updated : ∀ change : Progress → Progress, Elsewhere request threadId state
    (state.updateProgress id.request change) :=
    fun change => ⟨state.update_progress_other id.request request change other,
      Or.inl (congrArg (fun saved => saved.get? threadId) (state.update_progress_saved id.request change).1)⟩
  cases op with
  | send message => exact updated _
  | release lease => exact updated _
  | _ => exact ⟨rfl, Or.inl rfl⟩

-- What the phase of the run says about the server.
structure Fits (persistent : Bool) (request : Nat) (threadId : String) (phase : RunPhase)
    (state : ServerState) : Prop where
  run : phase ≠ .stray
  live : state.LiveIn request ↔ phase = .live
  leased : phase = .before → ∃ progress, state.progress.get? request = some progress
  empty : phase ≠ .live → (persistent = true → phase ≠ .after) → state.saved.get? threadId = none
  sparing : persistent = false → state.saved.get? threadId = none

theorem fits_elsewhere (persistent : Bool) (request : Nat) (threadId : String) (phase : RunPhase)
    (before after : ServerState)
    (fits : Fits persistent request threadId phase before) (elsewhere : Elsewhere request threadId before after) :
    Fits persistent request threadId phase after := by
  obtain ⟨progress, saved⟩ := elsewhere
  have stays : before.saved.get? threadId = none → after.saved.get? threadId = none := by
    intro none
    rcases saved with same | gone
    · exact same.trans none
    · exact gone
  refine ⟨fits.run, ?_, ?_, fun idle owed => stays (fits.empty idle owed), fun never => stays (fits.sparing never)⟩
  · rw [ServerState.LiveIn, progress]
    exact fits.live
  · rw [progress]
    exact fits.leased

-- A step that changes neither the progress nor the checkpoints.
theorem fits_quiet (persistent : Bool) (request : Nat) (threadId : String) (phase : RunPhase)
    (before after : ServerState)
    (fits : Fits persistent request threadId phase before) (progress : after.progress = before.progress)
    (saved : after.saved = before.saved) : Fits persistent request threadId phase after :=
  fits_elsewhere persistent request threadId phase before after fits ⟨by rw [progress], Or.inl (by rw [saved])⟩

theorem fits_updated (persistent : Bool) (request : Nat) (threadId : String) (phase : RunPhase) (state : ServerState)
    (change : Progress → Progress) (keeps : ∀ progress, (change progress).live = progress.live)
    (fits : Fits persistent request threadId phase state) :
    Fits persistent request threadId phase (state.updateProgress request change) := by
  have own := state.update_progress_own request change
  have saved := (state.update_progress_saved request change).1
  refine ⟨fits.run, ?_, fun start => ?_, fun idle owed => ?_, fun never => ?_⟩
  · rw [← fits.live, ServerState.LiveIn, own]
    cases found : state.progress.get? request with
    | none => simp [ServerState.LiveIn, found]
    | some progress => simp [ServerState.LiveIn, found, keeps]
  · obtain ⟨progress, found⟩ := fits.leased start
    rw [own, found]
    exact ⟨_, rfl⟩
  · rw [saved]
    exact fits.empty idle owed
  · rw [saved]
    exact fits.sparing never

theorem fits_acquire (platform : Platform) (persistent : Bool) (id : TaskId) (threadId elsewhere : String)
    (mutation : Mutation) (state : ServerState) (fits : Fits persistent id.request threadId .fresh state) :
    Fits persistent id.request threadId
      (RunPhase.next persistent .fresh (.acquire elsewhere mutation)
        (state.perform platform persistent id (.acquire elsewhere mutation)).2)
      (state.perform platform persistent id (.acquire elsewhere mutation)).1 := by
  simp only [ServerState.perform]
  split
  · have own : ∀ given : Progress, (state.progress.set id.request given).get? id.request = some given :=
      fun given => (Dict.get_set _ _ _ _).trans (if_pos rfl)
    refine ⟨by simp [RunPhase.next], ?_, fun _ => ⟨_, own _⟩, fun _ _ => fits.empty (by simp) (by simp), fits.sparing⟩
    refine ⟨fun live => ?_, fun same => by cases same⟩
    obtain ⟨progress, found, live⟩ := live
    cases (own _).symm.trans found
    cases live
  · exact fits_quiet persistent id.request threadId .fresh state _ fits rfl rfl

theorem fits_begin (platform : Platform) (persistent : Bool) (id : TaskId) (threadId : String) (graphOf : Option String)
    (state : ServerState) (fits : Fits persistent id.request threadId .before state) :
    Fits persistent id.request threadId
      (RunPhase.next persistent .before (.begin graphOf) (state.perform platform persistent id (.begin graphOf)).2)
      (state.perform platform persistent id (.begin graphOf)).1 := by
  obtain ⟨progress, found⟩ := fits.leased rfl
  rw [state.perform_begin_answers platform persistent id graphOf,
    state.perform_begin_found platform persistent id graphOf progress found]
  have own : (state.progress.set id.request { progress with live := true }).get? id.request =
      some { progress with live := true } := (Dict.get_set _ _ _ _).trans (if_pos rfl)
  refine ⟨by simp [RunPhase.next], ⟨fun _ => rfl, fun _ => ⟨_, own, rfl⟩⟩, fun same => (by cases same),
    fun idle => absurd rfl idle, fits.sparing⟩

theorem fits_finish (persistent : Bool) (request : Nat) (threadId : String) (phase : RunPhase) (state : ServerState)
    (fits : Fits persistent request threadId phase state) :
    Fits persistent request threadId (RunPhase.next persistent phase .finish (.ok ()))
      (state.updateProgress request (fun progress => { progress with live := false })) := by
  have own := state.update_progress_own request (fun progress => { progress with live := false })
  have saved := (state.update_progress_saved request (fun progress => { progress with live := false })).1
  have ended : ¬ (state.updateProgress request (fun progress => { progress with live := false })).LiveIn request := by
    rintro ⟨progress, found, live⟩
    rw [own] at found
    obtain ⟨earlier, _, same⟩ := Option.map_eq_some_iff.mp found
    rw [← same] at live
    cases live
  by_cases running : phase = .live
  · subst running
    cases persistent with
    | true =>
        exact ⟨by simp [RunPhase.next], ⟨fun live => (ended live).elim, fun same => by
        cases same⟩, fun same => (by cases same), fun _ owed => absurd rfl (owed rfl), fun never => by cases never⟩
    | false =>
        refine ⟨by simp [RunPhase.next], ⟨fun live => (ended live).elim, fun same => by
          cases same⟩, fun same => (by cases same), fun _ _ => ?_, fun never => ?_⟩
        · rw [saved]
          exact fits.sparing rfl
        · rw [saved]
          exact fits.sparing never
  · have stays : RunPhase.next persistent phase .finish (.ok ()) = phase := by
      cases phase
      case live => exact absurd rfl running
      all_goals rfl
    rw [stays]
    refine ⟨fits.run, ⟨fun live => (ended live).elim, fun live => absurd live running⟩, fun start => ?_,
      fun idle owed => ?_, fun never => ?_⟩
    · obtain ⟨progress, found⟩ := fits.leased start
      rw [own, found]
      exact ⟨_, rfl⟩
    · rw [saved]
      exact fits.empty idle owed
    · rw [saved]
      exact fits.sparing never

theorem fits_delete_checkpoints (persistent : Bool) (request : Nat) (threadId : String) (phase : RunPhase)
    (state : ServerState) (idle : phase ≠ .live) (fits : Fits persistent request threadId phase state) :
    Fits persistent request threadId .clean (state.deleteCheckpoints threadId) := by
  have gone : (state.deleteCheckpoints threadId).saved.get? threadId = none := (Dict.get_pop _ _ _).trans (if_pos rfl)
  exact ⟨by simp, ⟨fun live => absurd (fits.live.mp live) idle, fun same => by cases same⟩, fun same => (by cases same),
    fun _ _ => gone, fun _ => gone⟩

theorem fits_aput (platform : Platform) (persistent : Bool) (id : TaskId) (request : Nat) (threadId : String)
    (config : RunnableConfig) (item : CheckpointItem) (state : ServerState)
    (fits : Fits persistent request threadId .live state) :
    Fits persistent request threadId .live (state.perform platform persistent id (.aput config item)).1 := by
  refine ⟨fits.run, ?_, fun same => (by cases same), fun idle => absurd rfl idle, fun never => ?_⟩
  · rw [ServerState.LiveIn, (state.aput_frame platform persistent id config item).2.2.2]
    exact fits.live
  · subst never
    exact fits.sparing rfl

-- What the protocol allows the run's own tasks keeps the server in line with the phase, and
-- the shared thread store as it is.
theorem fits_own (platform : Platform) (persistent : Bool) (id : TaskId) (threadId : String) (op : ServerOp)
    (phase : RunPhase) (state : ServerState) (allowed : RunPhase.allows threadId false phase op)
    (fits : Fits persistent id.request threadId phase state) :
    Fits persistent id.request threadId (RunPhase.next persistent phase op (state.perform platform persistent id op).2)
      (state.perform platform persistent id op).1 ∧
    (state.perform platform persistent id op).1.store = state.store := by
  have quiet := fun after => fits_quiet persistent id.request threadId phase state after fits
  cases op with
  | getThread query => cases allowed
  | putThread thread => cases allowed
  | getAssistantId query => cases allowed
  | claimAssistant query assistantId => cases allowed
  | deleteThread query => cases allowed
  | acquire elsewhere mutation =>
      rw [show phase = .fresh from allowed] at fits ⊢
      refine ⟨fits_acquire platform persistent id threadId elsewhere mutation state fits, ?_⟩
      simp only [ServerState.perform]
      split <;> rfl
  | release lease =>
      rcases allowed with rfl | rfl | rfl
      · exact ⟨⟨by simp [RunPhase.next], ⟨fun live => (by cases fits.live.mp live), fun same => by
          cases same⟩, fun same => (by cases same), fun _ _ => fits.empty (by simp) (by simp), fits.sparing⟩, rfl⟩
      · exact ⟨quiet _ rfl rfl, rfl⟩
      · exact ⟨quiet _ rfl rfl, rfl⟩
  | begin graphOf =>
      rw [show phase = .before from allowed] at fits ⊢
      refine ⟨fits_begin platform persistent id threadId graphOf state fits, ?_⟩
      simp only [ServerState.perform]
      split <;> rfl
  | aput config item =>
      have running : phase = .live := allowed.1.resolve_right fits.run
      subst running
      exact ⟨fits_aput platform persistent id id.request threadId config item state fits,
        (state.aput_frame platform persistent id config item).1⟩
  | deleteCheckpoints deleted =>
      obtain ⟨same, idle, _⟩ := allowed
      subst same
      have next : ∀ answer, RunPhase.next persistent phase (.deleteCheckpoints deleted) answer = .clean := by
        intro answer
        cases phase
        case live => exact absurd rfl idle
        all_goals rfl
      rw [next]
      exact ⟨fits_delete_checkpoints persistent id.request deleted phase state idle fits, rfl⟩
  | finish =>
      exact ⟨fits_finish persistent id.request threadId phase state fits, (state.update_progress_saved id.request _).2⟩
  | agetTuple lookup => exact ⟨by cases phase <;> exact quiet _ rfl rfl, rfl⟩
  | alist lookup filter before limit => exact ⟨by cases phase <;> exact quiet _ rfl rfl, rfl⟩
  | send message => exact ⟨by cases phase <;> exact quiet _ rfl rfl, rfl⟩
  | suspend => exact ⟨by cases phase <;> exact quiet _ rfl rfl, rfl⟩
  | note entry => exact ⟨by cases phase <;> exact quiet _ rfl rfl, rfl⟩

theorem fits_clean (persistent : Bool) (request : Nat) (threadId : String) (phase : RunPhase) (state : ServerState)
    (idle : phase ≠ .live) (settled : persistent = true → phase ≠ .after)
    (fits : Fits persistent request threadId phase state) :
    Fits persistent request threadId .clean state :=
  ⟨by simp, ⟨fun live => absurd (fits.live.mp live) idle, fun same => by cases same⟩, fun same => (by cases same),
    fun _ _ => fits.empty idle settled, fits.sparing⟩

-- What another task of the run may be in beside the one that carries its phase: a stray, or
-- nothing left to do once the graph has run.
def Beside (phase other : RunPhase) : Prop := other = .stray ∨ (other = .clean ∧ (phase = .after ∨ phase = .clean))

-- Which task of the run carries its phase.
structure Carrier (request : Nat) (census : List (TaskId × RunPhase)) (position : Nat) (phase : RunPhase) : Prop where
  here : ∃ id, census[position]? = some (id, phase) ∧ id.request = request
  others : ∀ other entry, census[other]? = some entry → other ≠ position → entry.1.request = request →
    Beside phase entry.2

section Carrier

variable {request position : Nat} {census : List (TaskId × RunPhase)} {phase : RunPhase}

-- Another task moves: one of another request, or one that has nothing to do.
theorem carrier_other (carrier : Carrier request census position phase) (turned : Nat) (id : TaskId) (next : RunPhase)
    (spawned : List (TaskId × RunPhase)) (apart : turned ≠ position)
    (moves : id.request = request → Beside phase next)
    (leaves : ∀ entry ∈ spawned, entry.1.request = request → Beside phase entry.2) :
    Carrier request (census.set turned (id, next) ++ spawned) position phase := by
  obtain ⟨owner, here, own⟩ := carrier.here
  refine ⟨⟨owner, ?_, own⟩, fun other entry found elsewhere mine => ?_⟩
  · have within := (List.getElem?_eq_some_iff.mp here).1
    rw [List.getElem?_append_left (by rwa [List.length_set]), List.getElem?_set_ne apart]
    exact here
  · rcases mem_appended _ _ _ _ found with old | ⟨_, new⟩
    · by_cases same : turned = other
      · subst same
        obtain ⟨within, read⟩ := List.getElem?_eq_some_iff.mp old
        rw [List.getElem_set_self] at read
        subst read
        exact moves mine
      · rw [List.getElem?_set_ne same] at old
        exact carrier.others other entry old elsewhere mine
    · exact leaves entry (List.mem_of_getElem? new) mine

-- The carrier moves and stays the carrier.
theorem carrier_stays (carrier : Carrier request census position phase) (id : TaskId) (next : RunPhase)
    (spawned : List (TaskId × RunPhase)) (own : id.request = request)
    (settled : phase = .after ∨ phase = .clean → next = .after ∨ next = .clean)
    (leaves : ∀ entry ∈ spawned, Beside next entry.2) :
    Carrier request (census.set position (id, next) ++ spawned) position next := by
  obtain ⟨owner, here, _⟩ := carrier.here
  have within := (List.getElem?_eq_some_iff.mp here).1
  refine ⟨⟨id, ?_, own⟩, fun other entry found elsewhere mine => ?_⟩
  · rw [List.getElem?_append_left (by rwa [List.length_set]), List.getElem?_set_self within]
  · rcases mem_appended _ _ _ _ found with old | ⟨_, new⟩
    · rw [List.getElem?_set_ne (Ne.symm elsewhere)] at old
      rcases carrier.others other entry old elsewhere mine with stray | ⟨clean, beyond⟩
      · exact Or.inl stray
      · exact Or.inr ⟨clean, settled beyond⟩
    · exact leaves entry (List.mem_of_getElem? new)

-- The carrier hands the deletion that is due to what it leaves behind.
theorem carrier_passes (carrier : Carrier request census position phase) (id heir : TaskId)
    (own : heir.request = request) :
    Carrier request (census.set position (id, .clean) ++ [(heir, .after)]) census.length .after := by
  refine ⟨⟨heir, ?_, own⟩, fun other entry found elsewhere mine => ?_⟩
  · rw [List.getElem?_append_right (Nat.le_of_eq List.length_set), List.length_set, Nat.sub_self]
    rfl
  · rcases mem_appended _ _ _ _ found with old | ⟨_, new⟩
    · by_cases same : position = other
      · subst same
        obtain ⟨within, read⟩ := List.getElem?_eq_some_iff.mp old
        rw [List.getElem_set_self] at read
        rw [← read]
        exact Or.inr ⟨rfl, Or.inl rfl⟩
      · rw [List.getElem?_set_ne same] at old
        rcases carrier.others other entry old (Ne.symm same) mine with stray | ⟨clean, _⟩
        · exact Or.inl stray
        · exact Or.inr ⟨clean, Or.inl rfl⟩
    · rw [List.length_set] at new
      have first : other - census.length = 0 := by
        have := (List.getElem?_eq_some_iff.mp new).1
        rw [List.length_singleton] at this
        omega
      rename_i beyond
      rw [List.length_set] at beyond
      omega

end Carrier

-- Every task's phase is one that its request's run can be in.
def Tidy (persistent : Bool) (request : Nat) (threadId : String) (state : ServerState)
    (census : List (TaskId × RunPhase)) :
    Prop :=
  ∃ position phase, Carrier request census position phase ∧ Fits persistent request threadId phase state

def cleanupOrder (platform : Platform) (persistent : Bool) (request : Nat) (threadId : String) :
    Order (serverMachine platform persistent) RunPhase where
  protocol id := if id.request = request then cleanupProtocol threadId persistent false else Protocol.within
    (Spares threadId)
  done id _ phase :=
    (if id.request = request then cleanupProtocol threadId persistent false else Protocol.within
      (Spares threadId)).ends phase
  protocol_helper _ := rfl
  done_helper _ _ _ ends := ends

section Steps

variable {platform : Platform} {persistent : Bool} {request : Nat} {threadId : String}

theorem next_settled (persistent : Bool) (phase : RunPhase) (op : ServerOp) (answer : Except ServerError op.Result)
    (settled : phase = .after ∨ phase = .clean) :
    RunPhase.next persistent phase op answer = .after ∨ RunPhase.next persistent phase op answer = .clean := by
  rcases settled with rfl | rfl
  · cases op
    case deleteCheckpoints deleted => exact Or.inr rfl
    all_goals exact Or.inl rfl
  · cases op <;> exact Or.inr rfl

theorem next_clean (persistent : Bool) (op : ServerOp) (answer : Except ServerError op.Result) :
    RunPhase.next persistent .clean op answer = .clean := by
  cases op <;> rfl

theorem next_beside (persistent : Bool) (phase other : RunPhase) (op : ServerOp) (answer : Except ServerError op.Result)
    (beside : Beside phase other) (allowed : RunPhase.allows threadId false other op) :
    RunPhase.next persistent other op answer = other := by
  rcases beside with rfl | ⟨rfl, _⟩
  · cases op
    case deleteCheckpoints deleted => exact absurd rfl allowed.2.2
    all_goals rfl
  · exact next_clean persistent op answer

-- What a task with nothing left to do may still do.
theorem fits_idle (platform : Platform) (id : TaskId) (op : ServerOp) (phase : RunPhase) (state : ServerState)
    (settled : phase = .after ∨ phase = .clean) (allowed : RunPhase.allows threadId false .clean op)
    (fits : Fits persistent id.request threadId phase state) :
    Fits persistent id.request threadId phase (state.perform platform persistent id op).1 ∧
      (state.perform platform persistent id op).1.store = state.store := by
  have may : RunPhase.allows threadId false phase op := by
    rcases settled with rfl | rfl
    · cases op
      case acquire => cases allowed
      case begin => cases allowed
      case release => exact Or.inr (Or.inl rfl)
      case aput => rcases allowed.1 with other | other <;> cases other
      case deleteCheckpoints => exact ⟨allowed.1, by simp, by simp⟩
      case finish => exact fun same => by cases same
      all_goals exact allowed
    · exact allowed
  obtain ⟨moved, store⟩ := fits_own platform persistent id threadId op phase state may fits
  refine ⟨?_, store⟩
  rcases settled with rfl | rfl
  · rcases next_settled persistent .after op (state.perform platform persistent id op).2 (Or.inl rfl) with same | clean
    · rwa [same] at moved
    · rw [clean] at moved
      exact ⟨by simp, ⟨fun live => (by cases moved.live.mp live), fun same => by
        cases same⟩, fun same => (by cases same), fun _ _ => moved.empty (by simp) (by simp), moved.sparing⟩
  · rwa [next_clean] at moved

-- A write that was cut off may still be made while the graph is under way.
theorem fits_stray (platform : Platform) (id : TaskId) (op : ServerOp) (phase : RunPhase) (state : ServerState)
    (allowed : RunPhase.allows threadId false .stray op) (writes : ∀ config item, op = .aput config item →
      state.LiveIn id.request)
    (fits : Fits persistent id.request threadId phase state) :
    Fits persistent id.request threadId phase (state.perform platform persistent id op).1 ∧
      (state.perform platform persistent id op).1.store = state.store := by
  have quiet := fun after => fits_quiet persistent id.request threadId phase state after fits
  cases op with
  | aput config item =>
      have running := fits.live.mp (writes config item rfl)
      subst running
      exact ⟨fits_aput platform persistent id id.request threadId config item state fits,
        (state.aput_frame platform persistent id config item).1⟩
  | getThread query => cases allowed
  | putThread thread => cases allowed
  | getAssistantId query => cases allowed
  | claimAssistant query assistantId => cases allowed
  | deleteThread query => cases allowed
  | acquire elsewhere mutation => cases allowed
  | release lease => rcases allowed with other | other | other <;> cases other
  | begin graphOf => cases allowed
  | deleteCheckpoints deleted => exact absurd rfl allowed.2.2
  | finish => exact absurd rfl allowed
  | _ => exact ⟨quiet _ rfl rfl, rfl⟩

theorem struck_fits (id : TaskId) (op : ServerOp) (error : ServerError) (state : ServerState) (phase : RunPhase)
    (fits : Fits persistent id.request threadId phase state) :
    Fits persistent id.request threadId phase (state.struck id op error) ∧
      (state.struck id op error).store = state.store := by
  have updated := fits_updated persistent id.request threadId phase state
    (fun progress => { progress with given := true })
    (fun _ => rfl) fits
  have store := (state.update_progress_saved id.request (fun progress => { progress with given := true })).2
  cases op with
  | send message => exact ⟨updated, store⟩
  | release lease => exact ⟨updated, store⟩
  | _ => exact ⟨fits, rfl⟩

-- The phases that an interrupted operation's work goes on in.
def HelpersFollow (persistent : Bool) (threadId : String) (op : ServerOp) (phases : List RunPhase) : Prop :=
  List.Forall₂ (fun left phase => (cleanupProtocol threadId persistent false).Follows .anything left
    (fun _ => (cleanupProtocol threadId persistent false).ends)
      (fun _ => (cleanupProtocol threadId persistent false).ends) phase)
    (leftover op) phases

theorem deletion_follows (deleted : String) (phase : RunPhase)
    (allowed : RunPhase.allows threadId false phase (.deleteCheckpoints deleted)) :
    HelpersFollow persistent threadId (.deleteCheckpoints deleted) [phase] := by
  have cleans : (cleanupProtocol threadId persistent false).ends .clean := ⟨by simp, by simp⟩
  refine List.Forall₂.cons ⟨allowed, fun answer => ?_⟩ List.Forall₂.nil
  have next : (cleanupProtocol threadId persistent false).next phase (.deleteCheckpoints deleted) answer = .clean := by
    cases phase
    case live => exact absurd rfl allowed.2.1
    all_goals rfl
  rw [next]
  exact ⟨by simp [cleanupProtocol, RunPhase.allows], fun _ => cleans⟩

theorem release_follows (lease : RunLease) : HelpersFollow persistent threadId (.release lease) [.clean] :=
  List.Forall₂.cons ⟨Or.inr (Or.inr rfl), fun _ =>
    ⟨by simp [cleanupProtocol, RunPhase.next], by simp [cleanupProtocol, RunPhase.next]⟩⟩
    List.Forall₂.nil

theorem write_follows (config : RunnableConfig) (item : CheckpointItem)
    (thread : config.entry? "thread_id" = some (.str threadId)) :
    HelpersFollow persistent threadId (.aput config item) [.stray] :=
  List.Forall₂.cons ⟨⟨Or.inr rfl, thread⟩, fun _ =>
    ⟨by simp [cleanupProtocol, RunPhase.next], by simp [cleanupProtocol, RunPhase.next]⟩⟩
    List.Forall₂.nil

-- The carrier is struck: it keeps its phase, or leaves its deletion behind.
theorem tidy_struck (id : TaskId) (op : ServerOp) (error : ServerError) (state : ServerState) (phase : RunPhase)
    (census : List (TaskId × RunPhase)) (position : Nat) (carrier : Carrier id.request census position phase)
    (fits : Fits persistent id.request threadId phase state) (allowed : RunPhase.allows threadId false phase op)
    (possible : ServerState.interruptible id op error = true) :
    ∃ phases, HelpersFollow persistent threadId op phases ∧ Tidy persistent id.request threadId
      (state.struck id op error) (census.set position (id, RunPhase.next persistent phase op (.error error)) ++
        phases.map (fun phase => ((⟨id.request, true⟩ : TaskId), phase))) := by
  have struck := (struck_fits id op error state phase fits).1
  have idle : ∀ last, last = .after ∨ last = .clean → ∀ entry ∈ [((⟨id.request, true⟩ : TaskId), RunPhase.clean)],
      Beside last entry.2 := by
    intro last settled entry listed
    rw [List.mem_singleton.mp listed]
    exact Or.inr ⟨rfl, settled⟩
  cases op with
  | release lease =>
      have next : ∃ last, RunPhase.next persistent phase (.release lease) (.error error) = last ∧
        (last = .after ∨ last = .clean) ∧
          Fits persistent id.request threadId last (state.struck id (.release lease) error) := by
        rcases allowed with rfl | rfl | rfl
        · exact ⟨.clean, rfl, Or.inr rfl, fits_clean persistent id.request threadId .before _ (by simp)
            (by simp) struck⟩
        · exact ⟨.after, rfl, Or.inl rfl, struck⟩
        · exact ⟨.clean, rfl, Or.inr rfl, struck⟩
      obtain ⟨last, same, settled, fits⟩ := next
      rw [same]
      exact ⟨[.clean], release_follows lease, position, last, carrier_stays carrier id last _ rfl (fun _ => settled)
        (idle last settled), fits⟩
  | deleteCheckpoints deleted =>
      by_cases due : phase = .after
      · subst due
        exact ⟨[.after], deletion_follows deleted .after allowed, census.length, .after,
          carrier_passes carrier id ⟨id.request, true⟩ rfl, struck⟩
      · have next : RunPhase.next persistent phase (.deleteCheckpoints deleted) (.error error) = .clean := by
          cases phase
          case live => exact absurd rfl allowed.2.1
          all_goals rfl
        rw [next]
        have cleaned := fits_clean persistent id.request threadId phase _ allowed.2.1 (fun _ => due) struck
        exact ⟨[.clean], deletion_follows deleted .clean ⟨allowed.1, by simp, by simp⟩, position, .clean,
          carrier_stays carrier id .clean _ rfl (fun _ => Or.inr rfl) (idle .clean (Or.inr rfl)), cleaned⟩
  | aput config item =>
      have running : phase = .live := allowed.1.resolve_right fits.run
      subst running
      refine ⟨[.stray], write_follows config item allowed.2, position, .live, carrier_stays carrier id .live _ rfl
        (fun settled => settled) (fun entry listed => ?_), struck⟩
      rw [List.mem_singleton.mp listed]
      exact Or.inl rfl
  | finish => cases possible
  | _ =>
      refine ⟨[], List.Forall₂.nil, position, phase, ?_, struck⟩
      have stays := carrier_stays carrier id phase [] rfl (fun settled => settled) (fun _ listed => by cases listed)
      cases phase <;> exact stays

-- Another task of the run is struck.
theorem tidy_struck_beside (id : TaskId) (op : ServerOp) (error : ServerError) (state : ServerState)
    (phase other : RunPhase)
    (census : List (TaskId × RunPhase)) (turned position : Nat) (carrier : Carrier id.request census position phase)
    (apart : turned ≠ position) (beside : Beside phase other)
    (fits : Fits persistent id.request threadId phase state) (allowed : RunPhase.allows threadId false other op) :
    ∃ phases, HelpersFollow persistent threadId op phases ∧ Tidy persistent id.request threadId
      (state.struck id op error) (census.set turned (id, RunPhase.next persistent other op (.error error)) ++
        phases.map (fun phase => ((⟨id.request, true⟩ : TaskId), phase))) := by
  have struck := (struck_fits id op error state phase fits).1
  rw [next_beside persistent phase other op _ beside allowed]
  have stays : ∀ phases : List RunPhase, (∀ left ∈ phases, left = other) → Tidy persistent id.request threadId
    (state.struck id op error)
      (census.set turned (id, other) ++ phases.map (fun phase => ((⟨id.request, true⟩ : TaskId), phase))) := by
    intro phases same
    refine ⟨position, phase, carrier_other carrier turned id other _ apart (fun _ => beside)
      (fun entry listed _ => ?_), struck⟩
    obtain ⟨left, among, rfl⟩ := List.mem_map.mp listed
    rw [same left among]
    exact beside
  have single : ∀ left ∈ [other], left = other := fun left listed => List.mem_singleton.mp listed
  cases op with
  | release lease =>
      have clean : other = .clean := by
        rcases beside with rfl | ⟨clean, _⟩
        · rcases allowed with same | same | same <;> cases same
        · exact clean
      subst clean
      exact ⟨[.clean], release_follows lease, stays _ single⟩
  | deleteCheckpoints deleted => exact ⟨[other], deletion_follows deleted other allowed, stays _ single⟩
  | aput config item =>
      have stray : other = .stray := by
        rcases beside with stray | ⟨rfl, _⟩
        · exact stray
        · rcases allowed.1 with same | same <;> cases same
      subst stray
      exact ⟨[.stray], write_follows config item allowed.2, stays _ single⟩
  | _ => exact ⟨[], List.Forall₂.nil, stays [] (fun _ listed => by cases listed)⟩

theorem leftover_spares (op : ServerOp) (spares : Spares threadId op) :
    ∀ left ∈ leftover op, left.Awaits (Spares threadId) := by
  intro left listed
  cases op with
  | deleteCheckpoints deleted =>
      rw [List.mem_singleton.mp listed]
      exact ⟨fun _ _ same => (by cases same), fun _ => ⟨fun _ _ same => (by cases same), fun _ => trivial⟩⟩
  | aput config item =>
      rw [List.mem_singleton.mp listed]
      exact ⟨spares, fun _ => trivial⟩
  | release lease =>
      rw [List.mem_singleton.mp listed]
      exact ⟨fun _ _ same => (by cases same), fun _ => trivial⟩
  | _ => cases listed

end Steps

end LangGraphServer
