import LangGraphServer.Server.ExclusiveCreation
import LangGraphServer.Server.KeptThreads
import LangGraphServer.Server.References

set_option autoImplicit false

namespace LangGraphServer

open Collections Coroutine

def Request.makesThreads : Request → Bool
  | .createThread _ => true
  | .createRun _ _ => true
  | .streamRun _ _ => true
  | _ => false

theorem maker_makes (request : Request) (threadId : String) : request.role threadId = .maker ↔
    request.makesThreads = true := by
  cases request
  case createThread body => exact ⟨fun _ => rfl, fun _ => rfl⟩
  case createRun query body => exact ⟨fun _ => rfl, fun _ => rfl⟩
  case streamRun query body => exact ⟨fun _ => rfl, fun _ => rfl⟩
  case getThread query =>
    rw [Request.role]
    split <;> exact ⟨fun same => (by cases same), fun same => (by cases same)⟩
  case getStateCheckpoint query checkpoint =>
    rw [Request.role]
    split <;> exact ⟨fun same => (by cases same), fun same => (by cases same)⟩
  case updateState query body =>
    rw [Request.role]
    split <;> exact ⟨fun same => (by cases same), fun same => (by cases same)⟩
  all_goals exact ⟨fun same => (by cases same), fun same => (by cases same)⟩

section Claims

variable (platform : Platform) (persistent : Bool) (requests : List (RequestContext × Request)) (threadId : String)

def MakersTurn (pool : Pool Api ServerState TaskId) (turn : Turn Api) : Prop :=
  ∃ id program given, pool.tasks[turn.task]? = some (id, program) ∧ ¬ program.Ended ∧
    requests[id.request]? = some given ∧ given.2.makesThreads = true

-- Only a create or a run makes a thread exist that did not.
def RestoredByMakers (pool : Pool Api ServerState TaskId) (turn : Turn Api) : Prop :=
  pool.shared.threadExists persistent threadId = false →
    ((serverMachine platform persistent).step pool turn).shared.threadExists persistent threadId = true →
      MakersTurn requests pool turn

-- A deletion begins after the first part of the turns and has returned after the second,
-- and no create or run moves meanwhile or afterwards.
structure DeletedDuring (start : Pool Api ServerState TaskId) (before during after : List (Turn Api))
    (deletion : Nat) : Prop where
  deletes : ∃ context, requests[deletion]? = some (context, .deleteThread threadId)
  begins : ∀ turn ∈ before, turn.task ≠ deletion
  returned : ∃ id, (Transition.run (serverMachine platform persistent).step start (before ++ during)).tasks[deletion]?
    = some (id, .ret ())
  quiet : Transition.Meets (serverMachine platform persistent).step (fun pool turn => ¬ MakersTurn requests pool turn)
    (Transition.run (serverMachine platform persistent).step start before) (during ++ after)

-- Then the thread is gone for good, and every GET that comes later finds nothing.
def DeletionLasts (start : Pool Api ServerState TaskId) (turns : List (Turn Api)) : Prop :=
  ∀ before during after deletion, turns = before ++ during ++ after →
    DeletedDuring platform persistent requests threadId start before during after deletion →
      (Transition.run (serverMachine platform persistent).step start turns).shared.threadExists persistent
        threadId = false ∧ ∀ reader context id program, requests[reader]? = some (context, .getThread threadId) →
          (∀ turn ∈ before ++ during, turn.task ≠ reader) →
            (Transition.run (serverMachine platform persistent).step start turns).tasks[reader]? =
              some (id, program) → program.Ended →
              program = .raise (.http 404 ("Thread " ++ threadId ++ " not found")) ∨ ∃ cause, program =
                .raise (.cancelled cause)

end Claims

section Turns

variable {platform : Platform} {persistent : Bool} {requests : List (RequestContext × Request)} {threadId : String}
    {pool after : SightedPool} {census later : List (TaskId × ThreadPhase)} {turn : Turn Api}

theorem maker_moves (id : TaskId) (program : Coro Api Unit) (found : pool.tasks[turn.task]? = some (id, program))
    (going : ¬ program.Ended) (maker : roleOf requests threadId id.request = .maker) :
      MakersTurn requests pool.seen turn := by
  rw [roleOf] at maker
  split at maker
  · rename_i given listed
    exact ⟨id, program, given, found, going, listed, (maker_makes given.2 threadId).mp maker⟩
  · cases maker

theorem turn_restores (tended : Tended requests persistent threadId platform pool census)
    (turned : TendedTurn platform requests persistent threadId pool census turn after later)
    (absent : pool.shared.1.threadExists persistent threadId = false)
    (present : after.shared.1.threadExists persistent threadId = true) :
    MakersTurn requests pool.seen turn := by
  cases turned with
  | idle same =>
      rw [same, absent] at present
      cases present
  | performed id op resume phase next performs =>
      by_cases maker : roleOf requests threadId id.request = .maker
      · exact maker_moves id _ performs.found (fun ended => ended.elim) maker
      · have missing := step_stays_missing tended op resume performs.found performs.entry performs.allowed maker absent
        rw [performs.state, missing] at present
        cases present
  | shed id program rest phase next leftovers phases sheds =>
      rw [sheds_exists sheds, absent] at present
      cases present

theorem turn_missing (tended : Tended requests persistent threadId platform pool census)
    (turned : TendedTurn platform requests persistent threadId pool census turn after later)
    (quiet : ¬ MakersTurn requests pool.seen turn) (absent : pool.shared.1.threadExists persistent threadId = false) :
    after.shared.1.threadExists persistent threadId = false := by
  cases present : after.shared.1.threadExists persistent threadId with
  | false => rfl
  | true => exact absurd (turn_restores tended turned absent present) quiet

structure Removed (persistent : Bool) (threadId : String) (state : ServerState) (hold : Hold) : Prop where
  cleared : ∀ lease, hold = .cleared lease → state.latest persistent threadId = none
  gone : ∀ lease, hold = .gone lease → state.threadExists persistent threadId = false

theorem cleared_stays {id : TaskId} {op : ServerOp} {resume : Except ServerError op.Result → Coro Api Unit}
    {phase next : ThreadPhase} (tended : Tended requests persistent threadId platform pool census)
    (performs : Performs platform requests persistent threadId pool census turn after id op resume phase next)
    (acts : roleOf requests threadId id.request ≠ .maker) (deletion : Nat) (one : TaskId × ThreadPhase)
    (lease : RunLease)
    (listed : census[deletion]? = some one) (cleared : one.2.hold = .cleared lease)
    (missing : pool.shared.1.latest persistent threadId = none) : after.shared.1.latest persistent threadId = none := by
  refine latest_stays_none (performs_effect performs) (fun saves => ?_) missing
  rintro config item rfl thread
  have found := performs.found
  rcases performs.allowed with maker | elsewhere | ⟨restores, _, idle | ⟨given, held⟩⟩
  · exact acts maker
  · exact elsewhere thread
  · cases helping : id.helper with
    | true =>
        exact (tended.left saves ⟨_, id, config, item, resume, found, helping, restores, thread⟩).2 deletion one
          lease listed cleared
    | false => exact (tended.own _ _ performs.entry helping).2 idle
  · have same := holder_alone tended.leased _ _ _ _ _ _ listed performs.entry (Or.inr cleared) (Or.inl held)
    rw [same, performs.entry, Option.some.injEq] at listed
    rw [← listed, show phase.hold = .held given from held] at cleared
    cases cleared

theorem deletion_performs {id : TaskId} {op : ServerOp} {resume : Except ServerError op.Result → Coro Api Unit}
    {phase next : ThreadPhase} (tended : Tended requests persistent threadId platform pool census)
    (performs : Performs platform requests persistent threadId pool census turn after id op resume phase next)
    (role : roleOf requests threadId id.request = .other)
    (removed : Removed persistent threadId pool.shared.1 phase.hold) :
    Removed persistent threadId after.shared.1 next.hold := by
  have acts : roleOf requests threadId id.request ≠ .maker := fun maker => by
    rw [role] at maker
    cases maker
  constructor
  · intro lease cleared
    rw [performs.moves] at cleared
    rcases hold_cleared _ phase.hold _ lease cleared with before | ⟨_, rfl⟩
    · exact cleared_stays tended performs acts _ _ lease performs.entry before (removed.cleared lease before)
    · rw [performs.state]
      exact latest_no_items ((items_delete_checkpoints _ threadId threadId).trans (if_pos rfl))
  · intro lease gone
    rw [performs.moves] at gone
    rcases hold_gone _ phase.hold _ lease gone with before | rfl
    · rw [performs.state]
      exact step_stays_missing tended op resume performs.found performs.entry performs.allowed acts
        (removed.gone lease before)
    · have recordless : after.shared.1.store.getThread threadId = none := by
        rw [performs.state]
        simp only [ServerState.perform, InMemoryThreadStore.deleteThread, InMemoryThreadStore.getThread,
          Dict.get_pop, if_true, Option.map_none]
      refine (exists_false_iff _).mpr ⟨recordless, ?_⟩
      have missing : pool.shared.1.latest persistent threadId = none := by
        rcases performs.allowed.2 rfl with ⟨given, cleared⟩ | ⟨unsaved, _⟩
        · exact removed.cleared given cleared
        · rw [ServerState.latest, unsaved]
          rfl
      exact latest_stays_none (performs_effect performs) (fun _ config item same => by cases same) missing

theorem deletion_turn (tended : Tended requests persistent threadId platform pool census)
    (turned : TendedTurn platform requests persistent threadId pool census turn after later)
    (quiet : ¬ MakersTurn requests pool.seen turn) (deletion : Nat) (phase : ThreadPhase)
    (role : roleOf requests threadId deletion = .other) (listed : census[deletion]? = some (⟨deletion, false⟩, phase))
    (removed : Removed persistent threadId pool.shared.1 phase.hold) :
    ∃ next, later[deletion]? = some (⟨deletion, false⟩, next) ∧
      Removed persistent threadId after.shared.1 next.hold := by
  have missing := turn_missing tended turned quiet
  by_cases here : deletion = turn.task
  · subst here
    cases turned with
    | idle same =>
        rw [same]
        exact ⟨phase, listed, removed⟩
    | performed id op resume before next performs =>
        have entry := performs.entry
        rw [listed, Option.some.injEq] at entry
        cases entry
        exact ⟨next, set_entry _ _ _ _ listed, deletion_performs tended performs role removed⟩
    | shed id program rest before next leftovers phases sheds =>
        have entry := sheds.entry
        rw [listed, Option.some.injEq] at entry
        cases entry
        refine ⟨next, replaced_entry _ _ _ _ _ listed, ?_⟩
        rcases sheds.hold with same | ⟨lease, _, spent⟩
        · rw [same]
          refine ⟨fun lease cleared => ?_, fun lease gone => missing (removed.gone lease gone)⟩
          rw [sheds_latest sheds]
          exact removed.cleared lease cleared
        · rw [spent]
          exact ⟨fun lease other => (by cases other), fun lease other => (by cases other)⟩
  · refine ⟨phase, turn_elsewhere turned deletion _ here listed, fun lease cleared => ?_, fun lease gone =>
      missing (removed.gone lease gone)⟩
    have before := removed.cleared lease cleared
    cases turned with
    | idle same =>
        rw [same]
        exact before
    | performed id op resume other next performs =>
        refine cleared_stays tended performs (fun maker => ?_) deletion _ lease listed cleared before
        exact quiet (maker_moves id _ performs.found (fun ended => ended.elim) maker)
    | shed id program rest other next leftovers phases sheds =>
        rw [sheds_latest sheds]
        exact before

-- A request that looks for a missing thread finds none, unless it is cancelled.
def Unseen (sight : Sight) : Prop := sight = .looking ∨ ∃ cause, sight = .failed cause ∧ cause.isCancelled = true

theorem looking_answers (id : TaskId) (op : ServerOp) (phase : ThreadPhase) (state : ServerState)
    (looking : phase.sight = .looking) (allowed : phase.allows .restorer persistent threadId op) :
    ∃ value, (state.perform platform persistent id op).2 = .ok value := by
  cases op with
  | putThread thread =>
      rw [show phase.sight = .found from allowed] at looking
      cases looking
  | claimAssistant query assistantId =>
      rw [show phase.sight = .settled from allowed rfl] at looking
      cases looking
  | acquire query mutation =>
      rw [show phase.sight = .found from allowed.2 rfl] at looking
      cases looking
  | begin graphOf => exact ⟨(), ServerState.perform_begin_answers platform persistent id graphOf state⟩
  | _ => exact ⟨_, rfl⟩

theorem sight_answered (op : ServerOp) (value : op.Result) :
    Sight.next persistent threadId .looking op (.ok value) = .looking ∨ Sight.next persistent threadId .looking op
      (.ok value) = .found := by
  cases op
  case getThread query =>
    cases (value : Option Thread) with
    | none => exact Or.inl rfl
    | some thread =>
        by_cases same : query = threadId
        · exact Or.inr (if_pos same)
        · exact Or.inl (if_neg same)
  case agetTuple lookup =>
    cases (value : Option CheckpointItem) with
    | none => exact Or.inl rfl
    | some item =>
        by_cases same : persistent = true ∧ lookup = checkpointConfig threadId none ""
        · exact Or.inr (if_pos same)
        · exact Or.inl (if_neg same)
  all_goals exact Or.inl rfl

theorem reader_turn (turned : TendedTurn platform requests persistent threadId pool census turn after later)
    (absent : pool.shared.1.threadExists persistent threadId = false) (reader : Nat) (phase : ThreadPhase)
    (role : roleOf requests threadId reader = .restorer) (listed : census[reader]? = some (⟨reader, false⟩, phase))
    (unseen : Unseen phase.sight) : ∃ next, later[reader]? = some (⟨reader, false⟩, next) ∧ Unseen next.sight := by
  by_cases here : reader = turn.task
  · subst here
    cases turned with
    | idle same => exact ⟨phase, listed, unseen⟩
    | performed id op resume before next performs =>
        have entry := performs.entry
        rw [listed, Option.some.injEq] at entry
        cases entry
        refine ⟨next, set_entry _ _ _ _ listed, ?_⟩
        have allowed := performs.allowed
        rw [show roleOf requests threadId _ = .restorer from role] at allowed
        have moves := congrArg ThreadPhase.sight performs.moves
        rcases unseen with looking | ⟨cause, failed, cancelled⟩
        · obtain ⟨value, answer⟩ := looking_answers ⟨turn.task, false⟩ op phase pool.shared.1 looking allowed
          have seen : next.sight = Sight.next persistent threadId .looking op (.ok value) := by
            rw [moves, ← answer, ← looking]
            rfl
          rcases sight_answered op value with looks | finds
          · exact Or.inl (seen.trans looks)
          · have found : phase.sight.next persistent threadId op
              (pool.shared.1.perform platform persistent ⟨turn.task, false⟩ op).2 = .found := by
              rw [answer, looking]
              exact finds
            rcases sight_found phase.sight pool.shared.1 found with other | ⟨_, present⟩
            · rw [looking] at other
              cases other
            · rw [absent] at present
              cases present
        · refine Or.inr ⟨cause, moves.trans ?_, cancelled⟩
          show phase.sight.next persistent threadId op _ = .failed cause
          rw [failed]
          rfl
    | shed id program rest before next leftovers phases sheds =>
        have entry := sheds.entry
        rw [listed, Option.some.injEq] at entry
        cases entry
        refine ⟨next, replaced_entry _ _ _ _ _ listed, ?_⟩
        rcases sheds.sight with same | ⟨_, cause, failed, cancelled⟩
        · rw [same]
          exact unseen
        · refine Or.inr ⟨cause, failed, cancelled (fun maker => ?_)⟩
          rw [show roleOf requests threadId _ = .restorer from role] at maker
          cases maker
  · exact ⟨phase, turn_elsewhere turned reader _ here listed, unseen⟩

end Turns

section Runs

variable (platform : Platform) (config : ServerConfig) (requests : List (RequestContext × Request)) (threadId : String)

theorem tended_start (start : ServerState) :
    ∃ census, Tended requests config.checkpointer.isSome threadId platform
        ⟨(start, fun _ => .looking), serveAll platform config requests⟩ census ∧
      ∀ request < requests.length, census[request]? = some (⟨request, false⟩, ⟨.looking, .waiting⟩) := by
  have entries : ∀ (request : Nat) entry, (requests.zipIdx.map (fun given =>
      ((⟨given.2, false⟩ : TaskId), (⟨.looking, .waiting⟩ : ThreadPhase))))[request]? = some entry →
      entry = (⟨request, false⟩, ⟨.looking, .waiting⟩) := by
    intro request entry found
    rw [List.getElem?_map, List.getElem?_zipIdx] at found
    cases read : requests[request]? with
    | none =>
        rw [read] at found
        cases found
    | some given =>
        rw [read] at found
        simp only [Option.map_some, Nat.zero_add, Option.some.injEq] at found
        exact found.symm
  have helpers : ∀ (position : Nat) id program, (serveAll platform config requests)[position]? = some (id, program) →
    id.helper = false := by
    intro position id program found
    obtain ⟨given, _, same⟩ := List.mem_map.mp (List.mem_of_getElem? found)
    cases same
    rfl
  refine ⟨requests.zipIdx.map (fun given => (⟨given.2, false⟩, ⟨.looking, .waiting⟩)), ?_, fun request within => ?_⟩
  · constructor
    · refine List.forall₂_map_left_iff.mpr
        (List.forall₂_map_right_iff.mpr (List.forall₂_same.mpr (fun given member => ⟨rfl, ?_⟩)))
      obtain ⟨⟨context, request⟩, position⟩ := given
      have read := List.mem_zipIdx_iff_getElem?.mp member
      have role : roleOf requests threadId position = request.role threadId := by
        rw [roleOf, read]
      refine Protocol.follows_mono _ _ _ _ _ _ _ _ (fun outcome phase concludes => ?_)
        (fun outcome phase concludes => ?_)
        (show (threadProtocol (roleOf requests threadId position) config.checkpointer.isSome threadId).Follows
          .anything _ _ _ _ by
          rw [role]; exact serve_follows platform config context threadId request)
      · intro _ other same
        rw [read, Option.some.injEq] at same
        cases same
        exact concludes
      · intro _ other same
        rw [read, Option.some.injEq] at same
        cases same
        exact concludes
    · constructor
      · intro position entry lease found has
        rw [entries position entry found] at has
        cases has
      · intro first second one two left right _ found _ holds
        rw [entries first one found] at holds
        rcases holds with same | same <;> cases same
      · intro position entry lease found holds
        rw [entries position entry found] at holds
        rcases holds with same | same <;> cases same
    · intro position entry found main
      rw [entries position entry found]
      exact ⟨rfl, fun same => by cases same⟩
    · intro position entry found helping
      rw [entries position entry found] at helping
      cases helping
    · intro position id program found helping
      rw [helpers position id program found] at helping
      cases helping
    · intro position entry found main role
      rw [entries position entry found]
      exact ⟨fun _ => rfl, fun same => by cases same⟩
    · intro position entry found main role seen
      rw [entries position entry found] at seen
      cases seen
    · intro position entry lease found role seen
      rw [entries position entry found] at seen
      cases seen
    · rintro _ ⟨position, id, rest, item, resume, found, helping, _⟩
      rw [helpers position id _ found] at helping
      cases helping
  · rw [List.getElem?_map, List.getElem?_zipIdx, List.getElem?_eq_getElem within]
    simp only [Option.map_some, Nat.zero_add]

end Runs

section Kept

variable {platform : Platform} {config : ServerConfig} {requests : List (RequestContext × Request)} {threadId : String}
    {start : SightedPool}

theorem tended_run (cond : SightedPool → Turn Api → Prop) (kind : SightedPool → List (TaskId × ThreadPhase) → Prop)
    (keeps : ∀ pool census turn later, Tended requests config.checkpointer.isSome threadId platform pool census →
      TendedTurn platform requests config.checkpointer.isSome threadId pool census turn
        ((sightedServer platform config.checkpointer.isSome threadId).step pool turn) later →
      cond pool turn → kind pool census →
        kind ((sightedServer platform config.checkpointer.isSome threadId).step pool turn) later)
    (tended : ∃ census, Tended requests config.checkpointer.isSome threadId platform start census ∧ kind start census)
    (turns : List (Turn Api))
    (meets : Transition.Meets (sightedServer platform config.checkpointer.isSome threadId).step
      (LetsFinish requests config.checkpointer.isSome threadId) start turns)
    (met : Transition.Meets (sightedServer platform config.checkpointer.isSome threadId).step cond start turns) :
    ∃ census, Tended requests config.checkpointer.isSome threadId platform
        (Transition.run (sightedServer platform config.checkpointer.isSome threadId).step start turns) census ∧
      kind (Transition.run (sightedServer platform config.checkpointer.isSome threadId).step start turns) census := by
  refine Transition.run_of_keeps _ _ (fun pool => ∃ census, Tended requests config.checkpointer.isSome threadId
    platform pool census ∧ kind pool census) (fun pool turn kept both => ?_) start tended turns
      (Transition.meets_and _ _ _ _ _ meets met)
  obtain ⟨census, tended, held⟩ := kept
  obtain ⟨later, turned, further⟩ := tended_turn tended both.1.1 both.1.2
  exact ⟨later, further, keeps pool census turn later tended turned both.2 held⟩

theorem untouched_kept (request : Nat)
    (tended : ∃ census, Tended requests config.checkpointer.isSome threadId platform start census ∧
      census[request]? = some (⟨request, false⟩, ⟨.looking, .waiting⟩)) (turns : List (Turn Api))
    (meets : Transition.Meets (sightedServer platform config.checkpointer.isSome threadId).step
      (LetsFinish requests config.checkpointer.isSome threadId) start turns)
    (elsewhere : ∀ turn ∈ turns, turn.task ≠ request) :
    ∃ census, Tended requests config.checkpointer.isSome threadId platform
        (Transition.run (sightedServer platform config.checkpointer.isSome threadId).step start turns) census ∧
      census[request]? = some (⟨request, false⟩, ⟨.looking, .waiting⟩) :=
  tended_run (fun _ (turn : Turn Api) => turn.task ≠ request)
    (fun _ census => census[request]? = some (⟨request, false⟩, ⟨.looking, .waiting⟩))
    (fun _ _ _ _ _ turned apart listed => turn_elsewhere turned request _ (Ne.symm apart) listed) tended turns meets
    (Transition.meets_of_mem _ (fun (turn : Turn Api) => turn.task ≠ request) _ _ elsewhere)

theorem deletion_kept (deletion : Nat) (role : roleOf requests threadId deletion = .other)
    (tended : ∃ census, Tended requests config.checkpointer.isSome threadId platform start census ∧
      census[deletion]? = some (⟨deletion, false⟩, ⟨.looking, .waiting⟩)) (turns : List (Turn Api))
    (meets : Transition.Meets (sightedServer platform config.checkpointer.isSome threadId).step
      (LetsFinish requests config.checkpointer.isSome threadId) start turns)
    (quiet : Transition.Meets (sightedServer platform config.checkpointer.isSome threadId).step
      (fun pool turn => ¬ MakersTurn requests pool.seen turn) start turns) :
    ∃ census, Tended requests config.checkpointer.isSome threadId platform
        (Transition.run (sightedServer platform config.checkpointer.isSome threadId).step start turns) census ∧
      ∃ phase, census[deletion]? = some (⟨deletion, false⟩, phase) ∧ Removed config.checkpointer.isSome threadId
        (Transition.run (sightedServer platform config.checkpointer.isSome threadId).step start turns).shared.1
          phase.hold := by
  refine tended_run _ (fun pool census => ∃ phase, census[deletion]? = some (⟨deletion, false⟩, phase) ∧
    Removed config.checkpointer.isSome threadId pool.shared.1 phase.hold)
      (fun pool census turn later tended turned still kept => ?_)
    ?_ turns meets quiet
  · obtain ⟨phase, listed, removed⟩ := kept
    exact deletion_turn tended turned still deletion phase role listed removed
  · obtain ⟨census, kept, listed⟩ := tended
    exact ⟨census, kept, _, listed, fun lease other => (by cases other), fun lease other => (by cases other)⟩

theorem missing_kept (tended : ∃ census, Tended requests config.checkpointer.isSome threadId platform start census)
    (absent : start.shared.1.threadExists config.checkpointer.isSome threadId = false) (turns : List (Turn Api))
    (meets : Transition.Meets (sightedServer platform config.checkpointer.isSome threadId).step
      (LetsFinish requests config.checkpointer.isSome threadId) start turns)
    (quiet : Transition.Meets (sightedServer platform config.checkpointer.isSome threadId).step
      (fun pool turn => ¬ MakersTurn requests pool.seen turn) start turns) :
    (Transition.run (sightedServer platform config.checkpointer.isSome threadId).step start turns).shared.1.threadExists
      config.checkpointer.isSome threadId = false := by
  obtain ⟨census, kept⟩ := tended
  obtain ⟨_, _, missing⟩ := tended_run _
    (fun pool _ => pool.shared.1.threadExists config.checkpointer.isSome threadId = false)
    (fun pool census turn later tended turned still missing => turn_missing tended turned still missing)
    ⟨census, kept, absent⟩ turns meets quiet
  exact missing

theorem reader_kept (reader : Nat) (role : roleOf requests threadId reader = .restorer)
    (tended : ∃ census, Tended requests config.checkpointer.isSome threadId platform start census ∧
      census[reader]? = some (⟨reader, false⟩, ⟨.looking, .waiting⟩))
    (absent : start.shared.1.threadExists config.checkpointer.isSome threadId = false) (turns : List (Turn Api))
    (meets : Transition.Meets (sightedServer platform config.checkpointer.isSome threadId).step
      (LetsFinish requests config.checkpointer.isSome threadId) start turns)
    (quiet : Transition.Meets (sightedServer platform config.checkpointer.isSome threadId).step
      (fun pool turn => ¬ MakersTurn requests pool.seen turn) start turns) :
    ∃ census, Tended requests config.checkpointer.isSome threadId platform
        (Transition.run (sightedServer platform config.checkpointer.isSome threadId).step start turns) census ∧
      (Transition.run (sightedServer platform config.checkpointer.isSome threadId).step start
        turns).shared.1.threadExists config.checkpointer.isSome threadId = false ∧
        ∃ phase, census[reader]? = some (⟨reader, false⟩, phase) ∧ Unseen phase.sight := by
  refine tended_run _ (fun pool census => pool.shared.1.threadExists config.checkpointer.isSome threadId = false ∧
    ∃ phase, census[reader]? = some (⟨reader, false⟩, phase) ∧ Unseen phase.sight)
    (fun pool census turn later tended turned still kept => ?_) ?_ turns meets quiet
  · obtain ⟨missing, phase, listed, unseen⟩ := kept
    exact ⟨turn_missing tended turned still missing, reader_turn turned missing reader phase role listed unseen⟩
  · obtain ⟨census, kept, listed⟩ := tended
    exact ⟨census, kept, absent, _, listed, Or.inl rfl⟩

theorem ended_concludes {census : List (TaskId × ThreadPhase)}
    (tended : Tended requests config.checkpointer.isSome threadId platform start census)
    (request : Nat) (given : RequestContext × Request) (listed : requests[request]? = some given) (phase : ThreadPhase)
    (entry : census[request]? = some (⟨request, false⟩, phase)) (id : TaskId) (program : Coro Api Unit)
    (found : start.tasks[request]? = some (id, program)) :
    (∀ value, program = .ret value → Concludes threadId (.ok value) phase given.2) ∧
      ∀ error, program = .raise error → Concludes threadId (.error error) phase given.2 := by
  obtain ⟨⟨owner, other⟩, read, same, follows⟩ := forall₂_getElem? _ _ _ tended.counts request _ found
  rw [entry, Option.some.injEq] at read
  cases read
  cases show (⟨request, false⟩ : TaskId) = id from same
  constructor
  · rintro value rfl
    exact follows rfl given listed
  · rintro error rfl
    exact follows rfl given listed

theorem role_of_request (request : Nat) (given : RequestContext × Request) (listed : requests[request]? = some given) :
    roleOf requests threadId request = given.2.role threadId := by
  rw [roleOf, listed]

theorem restored_by_makers (tended : ∃ census, Tended requests config.checkpointer.isSome threadId
    platform start census) (turns : List (Turn Api))
    (meets : Transition.Meets (sightedServer platform config.checkpointer.isSome threadId).step
      (LetsFinish requests config.checkpointer.isSome threadId) start turns) :
    Transition.Meets (sightedServer platform config.checkpointer.isSome threadId).step
      (fun pool turn => RestoredByMakers platform config.checkpointer.isSome requests threadId pool.seen turn)
        start turns := by
  refine Transition.meets_of_keeps _ _ _ (fun pool => ∃ census, Tended requests config.checkpointer.isSome threadId
    platform pool census) (fun pool turn kept finish => ?_) (fun pool turn kept finish => ?_) start tended turns meets
  · obtain ⟨census, tended⟩ := kept
    obtain ⟨later, _, further⟩ := tended_turn tended finish.1 finish.2
    exact ⟨later, further⟩
  · obtain ⟨census, tended⟩ := kept
    obtain ⟨later, turned, _⟩ := tended_turn tended finish.1 finish.2
    intro absent present
    rw [← Machine.watched_step] at present
    exact turn_restores tended turned absent present

theorem deletion_lasts (tended : ∃ census, Tended requests config.checkpointer.isSome threadId platform start census ∧
      ∀ request < requests.length, census[request]? = some (⟨request, false⟩, ⟨.looking, .waiting⟩))
    (turns : List (Turn Api))
    (meets : Transition.Meets (sightedServer platform config.checkpointer.isSome threadId).step
      (LetsFinish requests config.checkpointer.isSome threadId) start turns) :
    DeletionLasts platform config.checkpointer.isSome requests threadId start.seen turns := by
  rintro before during after deletion rfl ⟨⟨context, deletes⟩, begins, ⟨id, returned⟩, quiet⟩
  obtain ⟨census, first, fresh⟩ := tended
  have still : ∀ request < requests.length, ∃ census, Tended requests config.checkpointer.isSome threadId
    platform start census ∧ census[request]? = some (⟨request, false⟩, ⟨.looking, .waiting⟩) :=
        fun request within => ⟨census, first, fresh request within⟩
  have seen := Machine.watched_run (serverMachine platform config.checkpointer.isSome)
    (observeSights config.checkpointer.isSome threadId) start
  obtain ⟨met, metAfter⟩ := (Transition.meets_append _ _ _ (before ++ during) after).mp meets
  obtain ⟨metBefore, metDuring⟩ := (Transition.meets_append _ _ _ before during).mp met
  rw [← seen before] at quiet
  have calm := ((serverMachine platform config.checkpointer.isSome).meets_watched
    (observeSights config.checkpointer.isSome threadId) (fun pool turn => ¬ MakersTurn requests pool turn) _ _).mpr
      quiet
  obtain ⟨calmDuring, calmAfter⟩ := (Transition.meets_append _ _ _ during after).mp calm
  rw [← Transition.run_append] at calmAfter
  have within : deletion < requests.length := (List.getElem?_eq_some_iff.mp deletes).1
  have begun := untouched_kept deletion (still deletion within) before metBefore begins
  obtain ⟨reached, tended, phase, entry, removed⟩ := deletion_kept deletion (role_of_request deletion _ deletes) begun
    during metDuring calmDuring
  rw [← Transition.run_append] at tended removed
  have absent : (Transition.run (sightedServer platform config.checkpointer.isSome threadId).step start
    (before ++ during)).shared.1.threadExists
      config.checkpointer.isSome threadId = false := by
    rw [← seen (before ++ during)] at returned
    obtain ⟨lease, gone⟩ := (ended_concludes tended deletion _ deletes phase entry id _ returned).1 () rfl rfl rfl
    exact removed.gone lease gone
  rw [← seen (before ++ during ++ after)]
  refine ⟨?_, fun reader context' other program reads elsewhere found ended => ?_⟩
  · show ServerState.threadExists _ (Transition.run _ start (before ++ during ++ after)).shared.1 threadId = false
    rw [Transition.run_append]
    exact missing_kept ⟨reached, tended⟩ absent after metAfter calmAfter
  · have role : roleOf requests threadId reader = .restorer := (role_of_request reader _ reads).trans (if_pos rfl)
    have waits := untouched_kept reader (still reader (List.getElem?_eq_some_iff.mp reads).1)
      (before ++ during) met elsewhere
    obtain ⟨last, kept, _, phase, entry, unseen⟩ := reader_kept reader role waits absent after metAfter calmAfter
    rw [← Transition.run_append] at kept
    obtain ⟨returns, raises⟩ := ended_concludes kept reader _ reads phase entry other program found
    have told : ∀ outcome, Concludes threadId outcome phase (.getThread threadId) →
        outcome = .error (.http 404 ("Thread " ++ threadId ++ " not found")) ∨ ∃ cause, outcome = .error cause ∧
          cause.isCancelled = true := by
      intro outcome concludes
      have tells := concludes rfl
      rw [Told.eq_def] at tells
      rcases unseen with looking | ⟨cause, failed, cancelled⟩
      · rw [looking] at tells
        exact Or.inl tells
      · rw [failed] at tells
        exact Or.inr ⟨cause, tells, cancelled⟩
    cases program with
    | ret value =>
        rcases told _ (returns value rfl) with other | ⟨_, other, _⟩
        · cases other
        · cases other
    | raise error =>
        rcases told _ (raises error rfl) with missing | ⟨cause, same, cancelled⟩
        · cases missing
          exact Or.inl rfl
        · cases same
          cases error with
          | cancelled reason => exact Or.inr ⟨reason, rfl⟩
          | _ => cases cancelled
    | await op resume => exact ended.elim
    | yield item next closing => exact ended.elim
    | abandon left rest => exact ended.elim

end Kept

-- As long as no turn takes the last of a thread away from a request that has found it, and
-- no deletion removes its checkpoints while a write is left, only creates and runs make it
-- exist again.
theorem deleted_threads_stay (platform : Platform) (config : ServerConfig) (requests : List (RequestContext × Request))
    (threadId : String) (start : ServerState) (turns : List (Turn Api))
    (meets : Transition.Meets (sightedServer platform config.checkpointer.isSome threadId).step
      (LetsFinish requests config.checkpointer.isSome threadId)
      ⟨(start, fun _ => .looking), serveAll platform config requests⟩ turns) :
    Transition.Meets (serverMachine platform config.checkpointer.isSome).step
        (RestoredByMakers platform config.checkpointer.isSome requests threadId)
          ⟨start, serveAll platform config requests⟩ turns ∧
      DeletionLasts platform config.checkpointer.isSome requests threadId
        ⟨start, serveAll platform config requests⟩ turns := by
  obtain ⟨census, tended, fresh⟩ := tended_start platform config requests threadId start
  refine ⟨?_, deletion_lasts ⟨census, tended, fresh⟩ turns meets⟩
  exact ((serverMachine platform config.checkpointer.isSome).meets_watched
    (observeSights config.checkpointer.isSome threadId)
      (RestoredByMakers platform config.checkpointer.isSome requests threadId)
    ⟨(start, fun _ => .looking), serveAll platform config requests⟩ turns).mp
      (restored_by_makers ⟨census, tended⟩ turns meets)


def Sight.isFound : Sight → Bool
  | .found => true
  | _ => false

def undisputed (pool : SightedPool) (requests : List (RequestContext × Request)) : Bool :=
  (List.range requests.length).all (fun request => !(pool.shared.2 request).isFound) && pool.tasks.all
    (fun task => !task.1.helper)

def letsFinish (requests : List (RequestContext × Request)) (pool : SightedPool) (turn : Turn Api) : Bool :=
  match pool.tasks[turn.task]? with
  | some (_, .await op _) => match op with
      | .deleteThread _ => undisputed pool requests
      | .deleteCheckpoints _ => undisputed pool requests
      | _ => true
  | _ => true

theorem undisputed_calm (requests : List (RequestContext × Request)) (threadId : String) (pool : SightedPool)
    (calm : undisputed pool requests = true) :
    (∀ request, ¬ Restoring requests threadId pool request) ∧ ¬ LeftWrite requests threadId pool := by
  obtain ⟨sights, helpers⟩ := Bool.and_eq_true_iff.mp calm
  constructor
  · rintro request ⟨role, found, _⟩
    have within : request < requests.length := by
      rw [roleOf] at role
      split at role
      · rename_i given listed
        exact (List.getElem?_eq_some_iff.mp listed).1
      · cases role
    have unseen := List.all_eq_true.mp sights request (List.mem_range.mpr within)
    rw [found] at unseen
    cases unseen
  · rintro ⟨position, id, config, item, resume, found, helping, _⟩
    have main := List.all_eq_true.mp helpers _ (List.mem_of_getElem? found)
    rw [helping] at main
    cases main

theorem lets_finish (requests : List (RequestContext × Request)) (persistent : Bool) (threadId : String)
    (pool : SightedPool) (turn : Turn Api) (calm : letsFinish requests pool turn = true) :
      LetsFinish requests persistent threadId pool turn := by
  constructor
  · intro id op resume found _ last
    rw [letsFinish, found] at calm
    cases op
    case deleteThread query => exact (undisputed_calm requests threadId pool calm).1
    case deleteCheckpoints query => exact (undisputed_calm requests threadId pool calm).1
    all_goals cases last
  · intro id resume found _ _
    rw [letsFinish, found] at calm
    exact (undisputed_calm requests threadId pool calm).2

def smallReaders : List (RequestContext × Request) :=
  [(smallContext, .getThread "t"), (smallContext, .deleteThread "t"), (smallContext, .getThread "t")]

def checkpointOnly : ServerState := { smallState 2 Nat.two_pos with saved := Dict.empty.set "t" [smallItem "1" none] }

def readThenDelete : List (Turn Api) :=
  List.replicate 6 ⟨0, none⟩ ++ List.replicate 7 ⟨1, none⟩ ++ List.replicate 2 ⟨2, none⟩

theorem deleted_thread_stays_deleted :
    Transition.Meets (serverMachine smallPlatform true).step (RestoredByMakers smallPlatform true smallReaders "t")
        ⟨checkpointOnly, serveAll smallPlatform (smallServerConfig smallGraph (some ⟨true⟩) none) smallReaders⟩
          readThenDelete ∧
      DeletionLasts smallPlatform true smallReaders "t"
        ⟨checkpointOnly, serveAll smallPlatform (smallServerConfig smallGraph (some ⟨true⟩) none) smallReaders⟩
          readThenDelete := by
  have calm : Transition.Meets (sightedServer smallPlatform true "t").step
      (fun pool turn => letsFinish smallReaders pool turn = true)
      ⟨(checkpointOnly, fun _ => .looking), serveAll smallPlatform
        (smallServerConfig smallGraph (some ⟨true⟩) none) smallReaders⟩
      readThenDelete := by decide +kernel
  have meets := Transition.meets_imp _ _ _ (lets_finish smallReaders true "t") _ _ calm
  exact deleted_threads_stay smallPlatform (smallServerConfig smallGraph (some ⟨true⟩) none) smallReaders
    "t" checkpointOnly readThenDelete meets

theorem readers_make_nothing (pool : Pool Api ServerState TaskId) (turn : Turn Api) :
    ¬ MakersTurn smallReaders pool turn := by
  rintro ⟨id, program, given, _, _, listed, makes⟩
  have none : ∀ given ∈ smallReaders, given.2.makesThreads = false := by decide
  rw [none given (List.mem_of_getElem? listed)] at makes
  cases makes

-- The first GET sees the checkpoint; the deletion comes before its second look, and then the
-- GET writes the record of a thread that is gone.
def readAcrossDelete : List (Turn Api) :=
  List.replicate 3 ⟨0, none⟩ ++ List.replicate 7 ⟨1, none⟩ ++ [⟨0, none⟩]

theorem reader_restores_deleted_thread :
    ¬ Transition.Meets (serverMachine smallPlatform true).step (RestoredByMakers smallPlatform true smallReaders "t")
        ⟨checkpointOnly, serveAll smallPlatform (smallServerConfig smallGraph (some ⟨true⟩) none) smallReaders⟩
        (readAcrossDelete ++ [⟨0, none⟩]) ∧
      ¬ DeletionLasts smallPlatform true smallReaders "t"
        ⟨checkpointOnly, serveAll smallPlatform (smallServerConfig smallGraph (some ⟨true⟩) none) smallReaders⟩
        (readAcrossDelete ++ [⟨0, none⟩]) := by
  have absent : (Transition.run (serverMachine smallPlatform true).step
      ⟨checkpointOnly, serveAll smallPlatform (smallServerConfig smallGraph (some ⟨true⟩) none) smallReaders⟩
      readAcrossDelete).shared.threadExists true "t" = false := by decide +kernel
  have present : (Transition.run (serverMachine smallPlatform true).step
      ⟨checkpointOnly, serveAll smallPlatform (smallServerConfig smallGraph (some ⟨true⟩) none) smallReaders⟩
      (readAcrossDelete ++ [⟨0, none⟩])).shared.threadExists true "t" = true := by decide +kernel
  constructor
  · intro meets
    obtain ⟨_, restores, _⟩ := (Transition.meets_append _ _ _ _ _).mp meets
    refine readers_make_nothing _ _ (restores absent ?_)
    rw [Transition.run_append] at present
    exact present
  · intro lasts
    have ended : answersThread (Transition.run (serverMachine smallPlatform true).step
        ⟨checkpointOnly, serveAll smallPlatform (smallServerConfig smallGraph (some ⟨true⟩) none) smallReaders⟩
        (List.replicate 3 ⟨0, none⟩ ++ List.replicate 7 ⟨1, none⟩)).tasks[1]? = true := by decide +kernel
    have gone := (lasts (List.replicate 3 ⟨0, none⟩) (List.replicate 7 ⟨1, none⟩) [⟨0, none⟩, ⟨0, none⟩] 1 rfl
      ⟨⟨smallContext, rfl⟩, by
        decide, answers_thread _ ended, Transition.meets_of_forall _ _ readers_make_nothing _ _⟩).1
    rw [gone] at present
    cases present

end LangGraphServer
