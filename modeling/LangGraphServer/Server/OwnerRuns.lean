import LangGraphServer.Server.OwnerMoves

set_option autoImplicit false

namespace LangGraphServer

open Collections Coroutine

-- What a task is in that asks no more whose its thread is.
def OwnerPhase.Late : OwnerPhase → Prop
  | .owned _ => True
  | .passed => True
  | _ => False

def ownerOrder (platform : Platform) (persistent : Bool) (acts : String → Prop) (threadId : String)
    (post : Post Api OwnerPhase Unit) :
    Order (serverMachine platform persistent) OwnerPhase where
  protocol _ := ownerProtocol acts threadId
  done id outcome phase := id.helper = false → post outcome phase
  protocol_helper _ := rfl
  done_helper _ _ _ _ main := by cases main

section Runs

variable (platform : Platform) (acts : String → Prop) (threadId : String) (post : Post Api OwnerPhase Unit)

-- One request and what it leaves behind. Only the request itself asks whose the thread is.
structure Heeds (start : ServerState) (pool : Pool Api ServerState TaskId)
    (census : List (TaskId × OwnerPhase)) : Prop where
  counts : (ownerOrder platform true acts threadId post).Counts census pool.tasks
  moved : Relation.ReflTransGen (OwnerMove acts threadId) start pool.shared
  known : ∀ (position : Nat) entry, census[position]? = some entry → Known pool.shared threadId entry.2
  late : ∀ (position : Nat) entry, census[position]? = some entry → position ≠ 0 → entry.2.Late

variable {acts threadId post}

theorem moves_keep_durable (start now : ServerState) (durable : Durable start)
    (moved : Relation.ReflTransGen (OwnerMove acts threadId) start now) : Durable now := by
  induction moved with
  | refl => exact durable
  | tail _ move ih => exact durable_moved ih move

theorem moves_belong (owner : String) (start now : ServerState) (durable : Durable start)
    (stored : Stored start threadId)
    (marked : MarkedBy start threadId owner) (moved : Relation.ReflTransGen (OwnerMove acts threadId) start now) :
    Belongs acts threadId owner start now := by
  induction moved with
  | refl => exact belongs_refl owner stored marked
  | tail before move ih => exact belongs_moved owner start (moves_keep_durable start _ durable before) ih move

theorem late_known {before after : ServerState} (phase : OwnerPhase) (late : phase.Late)
    (move : OwnerMove acts threadId before after)
    (known : Known before threadId phase) : Known after threadId phase := by
  cases phase with
  | owned owner => exact moved_owner move threadId owner known
  | passed => trivial
  | _ => exact late.elim

theorem left_phases (op : ServerOp) (phase : OwnerPhase) (allowed : phase.allows acts threadId op) :
    ∃ phases : List OwnerPhase, (∀ left ∈ phases, left = .passed ∨ ∃ owner, left = .owned owner ∧
      phase = .owned owner) ∧
      List.Forall₂ (fun left phase => (ownerProtocol acts threadId).Follows .anything left (fun _ _ => True)
        (fun _ _ => True) phase) (leftover op) phases := by
  cases op
  case deleteCheckpoints query => exact allowed.elim
  case aput config item =>
    obtain ⟨owner, rfl, acting, carries, marks⟩ := allowed
    refine ⟨[.owned owner], fun left listed => Or.inr ⟨owner, List.mem_singleton.mp listed, rfl⟩,
      .cons ⟨?_, fun answer => trivial⟩ .nil⟩
    exact ⟨owner, rfl, acting, carries, marks⟩
  case release lease =>
    exact ⟨[.passed], fun left listed => Or.inl (List.mem_singleton.mp listed),
      .cons ⟨trivial, fun answer => trivial⟩ .nil⟩
  all_goals exact ⟨[], fun left listed => (by cases listed), .nil⟩

-- Beside one that asks whose the thread is there are only late ones, and those that know
-- an owner rule it out.
theorem others_known {before after : ServerState} (phase other : OwnerPhase) (late : phase.Late ∨ other.Late)
    (move : OwnerMove acts threadId before after)
    (quiet : phase = .passed → after.ownerOf threadId = before.ownerOf threadId ∧ after.saved = before.saved)
    (own : Known before threadId phase) (known : Known before threadId other) : Known after threadId other := by
  rcases late with late | late
  · cases phase with
    | passed => exact known_same other (quiet rfl).1 (quiet rfl).2 known
    | owned owner =>
        cases other with
        | looking => trivial
        | unowned => cases own.symm.trans known
        | marked marker => cases own.symm.trans known.1
        | unmarked => cases own.symm.trans known.1
        | owned current => exact moved_owner move threadId current known
        | passed => trivial
    | _ => exact late.elim
  · exact late_known other late move known

theorem heeds_after {start : ServerState} {pool after : Pool Api ServerState TaskId}
    {census : List (TaskId × OwnerPhase)}
    (heeds : Heeds platform acts threadId post start pool census) (position : Nat) (id : TaskId)
    (phase next : OwnerPhase)
    (entry : census[position]? = some (id, phase)) (spawned : List (TaskId × OwnerPhase))
    (counts : (ownerOrder platform true acts threadId post).Counts
      (census.set position (id, next) ++ spawned) after.tasks)
    (move : OwnerMove acts threadId pool.shared after.shared)
    (quiet : phase = .passed → after.shared.ownerOf threadId = pool.shared.ownerOf threadId ∧
      after.shared.saved = pool.shared.saved)
    (own : Known after.shared threadId next) (stays : phase.Late → next.Late)
    (left : ∀ entry ∈ spawned, entry.2.Late ∧ Known after.shared threadId entry.2) :
    Heeds platform acts threadId post start after (census.set position (id, next) ++ spawned) := by
  refine ⟨counts, heeds.moved.tail move, fun other one listed => ?_, fun other one listed apart => ?_⟩
  · rcases replaced_entries _ _ _ _ _ _ listed with ⟨_, rfl⟩ | ⟨elsewhere, old⟩ | ⟨_, new⟩
    · exact own
    · refine others_known phase one.2 ?_ move quiet (heeds.known _ _ entry) (heeds.known _ _ old)
      by_cases first : other = 0
      · exact Or.inl (heeds.late _ _ entry (fun same => elsewhere (first.trans same.symm)))
      · exact Or.inr (heeds.late _ _ old first)
    · exact (left one new).2
  · rcases replaced_entries _ _ _ _ _ _ listed with ⟨here, rfl⟩ | ⟨_, old⟩ | ⟨_, new⟩
    · exact stays (heeds.late _ _ entry (fun same => apart (here.trans same)))
    · exact heeds.late _ _ old apart
    · exact (left one new).1

theorem heeds_step (start : ServerState) (durable : Durable start) (pool : Pool Api ServerState TaskId)
    (census : List (TaskId × OwnerPhase))
    (heeds : Heeds platform acts threadId post start pool census) (turn : Turn Api) :
    ∃ census, Heeds platform acts threadId post start ((serverMachine platform true).step pool turn) census := by
  have sure := moves_keep_durable start pool.shared durable heeds.moved
  have turned := (ownerOrder platform true acts threadId post).turned pool census heeds.counts turn
  generalize (serverMachine platform true).step pool turn = after at turned ⊢
  have still : ∀ phase op (answer : Except ServerError op.Result), OwnerPhase.Late phase →
    (phase.next threadId op answer) = phase := by
    intro phase op answer late
    cases phase with
    | owned owner => rfl
    | passed => rfl
    | _ => exact late.elim
  cases turned with
  | idle same =>
      subst same
      exact ⟨census, heeds⟩
  | performed id op resume phase found entry calm allowed shared counts =>
      have known := heeds.known _ _ entry
      have move := owner_move platform true id op pool.shared phase rfl sure known allowed
      rw [← List.append_nil (census.set _ _)] at counts
      refine ⟨_, heeds_after platform heeds _ id phase _ entry [] counts (shared ▸ move) (fun passed => ?_) ?_
        (fun late => ?_) (fun _ listed => by cases listed)⟩
      · subst passed
        rw [shared]
        rcases allowed_cases _ op allowed with calm | ⟨_, _, own | own | own⟩ | ⟨_, own⟩
        · obtain ⟨owners, saved, _⟩ := calm_keeps platform true id op pool.shared calm
          exact ⟨owners threadId, saved⟩
        all_goals cases own
      · rw [shared]
        exact known_next platform true id op pool.shared phase rfl sure known allowed
      · exact (congrArg OwnerPhase.Late (still phase op _ late)).mpr late
  | struck id op resume phase error found entry failing possible allowed shared counts =>
      obtain ⟨store, saved, _, log⟩ := struck_frame id op error pool.shared
      change after.shared = ServerState.struck id op error pool.shared at shared
      rw [← shared] at store saved log
      have owners : ∀ query, after.shared.ownerOf query = pool.shared.ownerOf query := fun query => by
        rw [ServerState.ownerOf, store, ServerState.ownerOf]
      have same : phase.next threadId op (.error error) = phase := by
        cases phase <;> cases op <;> rfl
      obtain ⟨phases, lates, follows⟩ := left_phases op phase allowed
      have known := known_same phase (owners threadId) saved (heeds.known _ _ entry)
      have counted := counts phases follows
      rw [show (ownerOrder platform true acts threadId post).protocol id = ownerProtocol acts threadId from rfl,
        show (ownerProtocol acts threadId).next phase op (.error error) = phase from same] at counted
      refine ⟨_, heeds_after platform heeds _ id phase phase entry _ counted (.kept owners saved log)
        (fun _ => ⟨owners threadId, saved⟩) known (fun late => late) (fun one listed => ?_)⟩
      obtain ⟨left, member, rfl⟩ := List.mem_map.mp listed
      rcases lates left member with rfl | ⟨owner, rfl, rfl⟩
      · exact ⟨trivial, trivial⟩
      · exact ⟨trivial, known⟩
  | abandoned id left rest phase found entry shared counts =>
      obtain ⟨theirs, mine, ⟨⟨owner, rfl⟩, rfl, rfl⟩, counted⟩ := counts trivial
      have known : Known after.shared threadId (.owned owner) := shared ▸ heeds.known _ _ entry
      refine ⟨_, heeds_after platform heeds _ id _ _ entry _ counted
        (.kept (fun _ => by rw [shared]) (by rw [shared]) (by rw [shared]))
        (fun _ => by rw [shared]; exact ⟨rfl, rfl⟩) known (fun late => late) (fun one listed => ?_)⟩
      cases List.mem_singleton.mp listed
      exact ⟨trivial, known⟩

theorem heeds_start (start : ServerState) (program : Coro Api Unit)
    (follows : (ownerProtocol acts threadId).Follows .anything program post post .looking) :
    Heeds platform acts threadId post start ⟨start, [(⟨0, false⟩, program)]⟩ [(⟨0, false⟩, .looking)] := by
  have only : ∀ (position : Nat) (entry : TaskId × OwnerPhase),
    [((⟨0, false⟩ : TaskId), OwnerPhase.looking)][position]? = some entry →
      position = 0 ∧ entry = (⟨0, false⟩, .looking) := by
    intro position entry listed
    rw [List.getElem?_singleton] at listed
    split at listed
    · rename_i first
      exact ⟨first, (Option.some.inj listed).symm⟩
    · cases listed
  refine ⟨.cons ⟨rfl, ?_⟩ .nil, .refl, fun position entry listed => ?_, fun position entry listed apart => ?_⟩
  · exact Protocol.follows_mono _ _ _ _ _ _ _ _ (fun outcome phase held _ => held)
      (fun outcome phase held _ => held) follows
  · rw [(only position entry listed).2]
    trivial
  · exact absurd (only position entry listed).1 apart

theorem heeds_run (start : ServerState) (durable : Durable start) (program : Coro Api Unit)
    (follows : (ownerProtocol acts threadId).Follows .anything program post post .looking) (turns : List (Turn Api)) :
    ∃ census, Heeds platform acts threadId post start
      (Transition.run (serverMachine platform true).step ⟨start, [(⟨0, false⟩, program)]⟩ turns) census := by
  refine Transition.run_keeps _ (fun pool => ∃ census, Heeds platform acts threadId post start pool census) ?_ _
    ⟨_, heeds_start platform start program follows⟩ turns
  rintro pool turn ⟨census, heeds⟩
  exact heeds_step platform start durable pool census heeds turn

theorem heeds_ends (start : ServerState) (pool : Pool Api ServerState TaskId) (census : List (TaskId × OwnerPhase))
    (heeds : Heeds platform acts threadId post start pool census) (id : TaskId) (main : id.helper = false)
    (ended : (id, .ret ()) ∈ pool.tasks) : ∃ phase, post (.ok ()) phase ∧ Known pool.shared threadId phase := by
  obtain ⟨position, listed⟩ := List.mem_iff_getElem?.mp ended
  obtain ⟨entry, there, kept⟩ := forall₂_getElem? _ _ _ heeds.counts _ _ listed
  exact ⟨entry.2, kept.follows main, heeds.known position entry there⟩

end Runs

end LangGraphServer
