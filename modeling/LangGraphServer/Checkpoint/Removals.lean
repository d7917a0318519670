import LangGraphServer.Checkpoint.Failures
import LangGraphServer.Checkpoint.Refinement

set_option autoImplicit false

namespace LangGraphServer

open Collections

def SaverCall.OnlyPurges {Value Version : Type} : SaverCall Value Version → Prop
  | .getTuple _ => True
  | .list _ _ _ _ => True
  | .getDeltaChannelHistory _ _ => True
  | .purgeExpired => True
  | .stats => True
  | _ => False

namespace BoundedInMemorySaver

variable {Value Version : Type} [DecidableEq Version] (saver : BoundedInMemorySaver Value Version)

-- The arguments are rejected before the call takes the lock.
def Rejects : SaverCall Value Version → Prop
  | .put config checkpoint metadata versions =>
      ∃ error, saver.prepareCheckpoint config checkpoint metadata versions = .error error
  | .putWrites config writes taskId taskPath =>
      ∃ error, saver.prepareWrites config writes taskId taskPath = .error error
  | .getTuple config => ∃ error, saver.validatedLocation config = .error error
  | .list config _ before _ =>
      ∃ given error, (config = some given ∨ before = some given) ∧ saver.validatedLocation given = .error error
  | .getDeltaChannelHistory config _ => ∃ error, saver.validatedLocation config = .error error
  | .deleteThread threadId =>
      ∃ error, saver.validatedIdentifier threadId "thread_id" saver.config.maxThreadIdLength false = .error error
  | _ => False

def Asks : SaverCall Value Version → String → Nat → Prop
  | .put config checkpoint metadata versions, threadId, requiredBytes => ∃ checkpointNs checkpointId,
      saver.prepareCheckpoint config checkpoint metadata versions =
        .ok ((threadId, checkpointNs, checkpointId), requiredBytes)
  | .putWrites config writes taskId taskPath, threadId, requiredBytes => ∃ checkpointNs checkpointId,
      saver.prepareWrites config writes taskId taskPath = .ok ((threadId, checkpointNs, checkpointId), requiredBytes)
  | _, _, _ => False

def idleThreads (state : saver.State) (now : Time) : List String :=
  state.lastAccess.keys.filter (fun threadId =>
    (state.lastAccess.get? threadId).any (fun last => decide (last + saver.config.idleTtlSeconds ≤ now)))

-- With some threads gone, a thread has a place and its bytes fit the budget.
def RoomWithout (state : saver.State) (threadId : String) (requiredBytes : Nat) (gone : List String) : Prop :=
  (threadId ∈ saver.remaining state gone ∨ (saver.remaining state gone).length < saver.config.maxThreads) ∧
    saver.remainingBytes state gone + requiredBytes ≤ saver.config.maxTotalBytes

-- Beyond the idle threads, a write removes others from the front of the order of use, nobody
-- once it has room, and as many as it needs when it is granted.
def Evicts (state : saver.State) (now : Time) (threadId : String) (requiredBytes : Nat) (granted : Prop)
    (evicted : List String) : Prop :=
  TakenFromFront ((saver.remaining state (saver.idleThreads state now)).filter (fun other => decide (other ≠ threadId)))
    (fun gone => saver.RoomWithout state threadId requiredBytes (saver.idleThreads state now ++ gone)) granted evicted

-- What a call with that reply removes from a state, in order.
inductive Removes (state : saver.State) (timed : TimedCall Value Version) (reply : saver.Reply) :
    List (SaverEvent Value Version) → Prop where
  | rejected (error : PyError) : saver.Rejects timed.call → reply = .error error → Removes state timed reply []
  | deleted (threadId : String) : timed.call = .deleteThread (.str threadId) → reply = .ok .done →
      Removes state timed reply [.dropped threadId]
  | cleared : timed.call = .clear → reply = .ok .done → Removes state timed reply [.cleared]
  | expired : timed.call.OnlyPurges → ¬ saver.Rejects timed.call →
      Removes state timed reply ((saver.idleThreads state timed.now).map .dropped)
  | evicted (threadId : String) (requiredBytes : Nat) (evicted : List String) :
      saver.Asks timed.call threadId requiredBytes →
      saver.Evicts state timed.now threadId requiredBytes (∃ result, reply = .ok result) evicted →
      Removes state timed reply ((saver.idleThreads state timed.now ++ evicted).map .dropped)

omit [DecidableEq Version] in
theorem idle_expired (state : saver.State) (now : Time) :
    saver.idleThreads state now = saver.expiredThreads state now := by
  rw [idleThreads, expiredThreads, Dict.keys, List.filter_map]
  congr 1
  apply List.filter_congr
  intro row member
  have found := (Dict.mem_entries state.lastAccess row.1 row.2).mp member
  rw [Function.comp_apply, found, Option.any_some, decide_eq_decide, le_sub_iff_add_le]

omit [DecidableEq Version] in
theorem remaining_append (state : saver.State) (gone more : List String) :
    saver.remaining state (gone ++ more) =
      (saver.remaining state gone).filter (fun threadId => decide (threadId ∉ more)) := by
  rw [remaining, remaining, List.filter_filter]
  apply List.filter_congr
  intro threadId _
  by_cases first : threadId ∈ gone <;> by_cases second : threadId ∈ more <;> simp [first, second]

theorem remaining_drop_all (lawful : saver.inherited.Lawful) (state : saver.State) (gone more : List String) :
    saver.remaining (saver.dropAll state gone) more = saver.remaining state (gone ++ more) := by
  rw [remaining, saver.drop_all_keys lawful, remaining_append, remaining]

theorem remaining_bytes_drop_all (lawful : saver.inherited.Lawful) (state : saver.State) (gone more : List String)
    (accounted : saver.Accounted state) :
    saver.remainingBytes (saver.dropAll state gone) more = saver.remainingBytes state (gone ++ more) := by
  have counted := saver.drop_all_accounted lawful state gone accounted
  have whole := saver.drop_all_bytes lawful (gone ++ more) state accounted
  rw [drop_all_append, saver.drop_all_bytes lawful more _ counted] at whole
  exact Int.ofNat.inj whole

theorem room_after_purge (lawful : saver.inherited.Lawful) (state : saver.State) (now : Time) (threadId : String)
    (requiredBytes : Nat) (gone : List String) (accounted : saver.Accounted state) (spared : threadId ∉ gone) :
    saver.RoomFor (saver.purgeExpiredLocked state now).1 threadId requiredBytes gone ↔
      saver.RoomWithout state threadId requiredBytes (saver.idleThreads state now ++ gone) := by
  rw [purge_drops, ← idle_expired, RoomFor, RoomWithout, saver.remaining_drop_all lawful,
    saver.remaining_bytes_drop_all lawful state _ gone accounted, saver.drop_all_keys lawful, ← remaining,
    remaining_append, List.mem_filter, decide_eq_true_iff, and_iff_left spared]

theorem reserve_evicts (lawful : saver.inherited.Lawful) (state : saver.State) (now : Time)
    (threadId checkpointNs checkpointId : String) (requiredBytes : Nat) (accounted : saver.Accounted state) :
    ∃ evicted, (saver.reserveLocked state now threadId checkpointNs checkpointId requiredBytes).1 =
        saver.dropAll state (saver.idleThreads state now ++ evicted) ∧
      saver.Evicts state now threadId requiredBytes
        ((saver.reserveLocked state now threadId checkpointNs checkpointId requiredBytes).2 = .ok ()) evicted := by
  obtain ⟨gone, dropped, taken⟩ :=
    saver.reserve_takes lawful state now threadId checkpointNs checkpointId requiredBytes accounted
  have order : saver.evictable threadId (saver.purgeExpiredLocked state now).1 =
      (saver.remaining state (saver.idleThreads state now)).filter (fun other => decide (other ≠ threadId)) := by
    rw [purge_drops, ← idle_expired, evictable, saver.drop_all_keys lawful, ← remaining]
  have spared (fewer : List String) (shorter : fewer <+: gone) : threadId ∉ fewer := fun listed => by
    simpa [evictable] using taken.isPrefix.subset (shorter.subset listed)
  refine ⟨gone, ?_, order ▸ taken.isPrefix, fun fewer shorter less room => ?_, fun granted => ?_⟩
  · rw [dropped, purge_drops, ← idle_expired, drop_all_append]
  · exact taken.early fewer shorter less
      ((saver.room_after_purge lawful state now threadId requiredBytes fewer accounted
      (spared fewer shorter)).mpr room)
  · exact (saver.room_after_purge lawful state now threadId requiredBytes gone accounted
      (spared gone List.prefix_rfl)).mp (taken.satisfied granted)

omit [DecidableEq Version] in
theorem Evicts.weaken (state : saver.State) (now : Time) (threadId : String) (requiredBytes : Nat)
    (granted answered : Prop) (evicted : List String)
    (evicts : saver.Evicts state now threadId requiredBytes granted evicted) (implies : answered → granted) :
    saver.Evicts state now threadId requiredBytes answered evicted :=
  ⟨evicts.isPrefix, evicts.early, fun answer => evicts.satisfied (implies answer)⟩

theorem purge_history (lawful : saver.inherited.Lawful) (state : saver.State) (now : Time) :
    (saver.purgeExpiredLocked state now).1.history =
      state.history ++ (saver.idleThreads state now).map .dropped := by
  rw [purge_drops, ← idle_expired, saver.drop_all_history lawful]

-- What a call adds to the history: its removals, then what was accepted.
def Logs (state : saver.State) (timed : TimedCall Value Version) (after : saver.State) (reply : saver.Reply) : Prop :=
  ∃ removed, saver.Removes state timed reply removed ∧
    after.history = state.history ++ removed ++ saver.acceptedEvents timed.call reply

omit [DecidableEq Version] in
theorem logs_rejected (state : saver.State) (timed : TimedCall Value Version) (error : PyError)
    (rejected : saver.Rejects timed.call) : saver.Logs state timed state (.error error) := by
  refine ⟨[], .rejected error rejected rfl, ?_⟩
  have silent : saver.acceptedEvents timed.call (.error error) = [] := by
    rw [acceptedEvents.eq_def]
    split <;> first | rfl | contradiction
  rw [silent, List.append_nil, List.append_nil]

theorem logs_purge (lawful : saver.inherited.Lawful) (state : saver.State) (timed : TimedCall Value Version)
    (after : saver.State) (reply : saver.Reply) (purges : timed.call.OnlyPurges) (taken : ¬ saver.Rejects timed.call)
    (same : after.history = (saver.purgeExpiredLocked state timed.now).1.history) :
    saver.Logs state timed after reply := by
  refine ⟨_, .expired purges taken, ?_⟩
  have silent : saver.acceptedEvents timed.call reply = [] := by
    cases called : timed.call <;> first | rfl | (rw [called] at purges; exact purges.elim)
  rw [silent, List.append_nil, same, saver.purge_history lawful]

-- A read looks at its arguments first and then purges, whatever becomes of it.
theorem read_logs {Located Result : Type} (lawful : saver.inherited.Lawful) (state : saver.State)
    (timed : TimedCall Value Version) (purges : timed.call.OnlyPurges) (located : Except PyError Located)
    (rejects : saver.Rejects timed.call ↔ ∃ error, located = .error error)
    (outcome : saver.State × Except PyError Result) (wrap : Result → SaverReply Value Version)
    (refused : ∀ error, located = .error error → outcome = (state, .error error))
    (taken : ∀ location, located = .ok location →
      outcome.1.history = (saver.purgeExpiredLocked state timed.now).1.history) :
    saver.Logs state timed outcome.1 (outcome.2.map wrap) := by
  cases checked : located with
  | error error =>
      rw [refused error checked]
      exact saver.logs_rejected state timed error (rejects.mpr ⟨error, checked⟩)
  | ok location =>
      refine saver.logs_purge lawful state timed _ _ purges (fun rejected => ?_) (taken location checked)
      obtain ⟨error, failed⟩ := rejects.mp rejected
      rw [checked] at failed
      cases failed

theorem get_tuple_logs (lawful : saver.inherited.Lawful) (state : saver.State) (timed : TimedCall Value Version)
    (config : RunnableConfig) (called : timed.call = .getTuple config) :
    saver.Logs state timed (saver.getTuple state timed.now timed.later config).1
      ((saver.getTuple state timed.now timed.later config).2.map .tuple) := by
  refine saver.read_logs lawful state timed ?_ (saver.validatedLocation config) ?_ _ _ ?_ ?_
  · rw [called]
    trivial
  · rw [called]
    exact Iff.rfl
  · intro error located
    rw [getTuple, located]
  · intro location located
    rw [getTuple, located]
    simp only
    split
    · split <;> rfl
    · rfl

omit [DecidableEq Version] in
theorem list_rejected (config : Option RunnableConfig) (filter : Option Metadata) (before : Option RunnableConfig)
    (limit : Option Int) (located : Except PyError (Option String))
    (same : (do
      let threadId ← match config with
        | none => Except.ok none
        | some given => (saver.validatedLocation given).map (fun location => some location.1)
      match before with
      | none => Except.ok threadId
      | some given =>
          (saver.validatedLocation given).map (fun _ => threadId) : Except PyError (Option String)) = located) :
    saver.Rejects (.list config filter before limit) ↔ ∃ error, located = .error error := by
  have bounded (threadId : Option String) : (∃ error, (match before with
      | none => Except.ok threadId
      | some given => (saver.validatedLocation given).map (fun _ => threadId)) = .error error) ↔
      ∃ given error, before = some given ∧ saver.validatedLocation given = .error error := by
    cases before with
    | none => simp
    | some given => cases valid : saver.validatedLocation given <;> simp [valid, Except.map]
  subst same
  cases config with
  | none =>
      refine Iff.trans ?_ (bounded none).symm
      simp [Rejects]
  | some given =>
      cases valid : saver.validatedLocation given with
      | error error =>
          refine ⟨fun _ => ⟨error, ?_⟩, fun _ => ⟨given, error, Or.inl rfl, valid⟩⟩
          simp only [bind, Except.bind, Except.map, valid]
      | ok location =>
          simp only [bind, Except.bind, Except.map, valid]
          refine Iff.trans ⟨?_, ?_⟩ (bounded (some location.1)).symm
          · rintro ⟨other, error, own | bound, refused⟩
            · cases own
              rw [valid] at refused
              cases refused
            · exact ⟨other, error, bound, refused⟩
          · rintro ⟨other, error, bound, refused⟩
            exact ⟨other, error, Or.inr bound, refused⟩

theorem list_logs (lawful : saver.inherited.Lawful) (state : saver.State) (timed : TimedCall Value Version)
    (config : Option RunnableConfig) (filter : Option Metadata) (before : Option RunnableConfig) (limit : Option Int)
    (called : timed.call = .list config filter before limit) :
    saver.Logs state timed (saver.list state timed.now timed.later config filter before limit).1
      ((saver.list state timed.now timed.later config filter before limit).2.map .tuples) := by
  have rejects := saver.list_rejected config filter before limit _ rfl
  rw [← called] at rejects
  refine saver.read_logs lawful state timed ?_ _ rejects _ _ ?_ ?_
  · rw [called]
    trivial
  · intro error located
    rw [list]
    split
    next other failed =>
      cases failed.symm.trans located
      rfl
    next threadId valid => cases valid.symm.trans located
  · intro threadId located
    rw [list]
    split
    next error failed => cases failed.symm.trans located
    next =>
      dsimp only
      split
      · rfl
      · split <;> rfl

theorem delta_history_logs (lawful : saver.inherited.Lawful) (state : saver.State) (timed : TimedCall Value Version)
    (config : RunnableConfig) (channels : List String) (called : timed.call = .getDeltaChannelHistory config channels) :
    saver.Logs state timed (saver.getDeltaChannelHistory state timed.now timed.later config channels).1
      ((saver.getDeltaChannelHistory state timed.now timed.later config channels).2.map .history) := by
  refine saver.read_logs lawful state timed ?_ (saver.validatedLocation config) ?_ _ _ ?_ ?_
  · rw [called]
    trivial
  · rw [called]
    exact Iff.rfl
  · intro error located
    rw [getDeltaChannelHistory, located]
  · intro location located
    rw [getDeltaChannelHistory, located]
    simp only
    split
    · rfl
    · split <;> rfl

theorem delete_thread_logs (lawful : saver.inherited.Lawful) (state : saver.State) (timed : TimedCall Value Version)
    (threadId : PyObj) (called : timed.call = .deleteThread threadId) :
    saver.Logs state timed (saver.deleteThread state threadId).1
      ((saver.deleteThread state threadId).2.map (fun _ => .done)) := by
  rw [deleteThread]
  cases valid : saver.validatedIdentifier threadId "thread_id" saver.config.maxThreadIdLength false with
  | error error =>
      apply saver.logs_rejected state timed error
      rw [called]
      exact ⟨error, valid⟩
  | ok validated =>
      obtain rfl := saver.validated_identifier_text _ _ _ _ _ valid
      refine ⟨[.dropped validated], .deleted validated called rfl, ?_⟩
      rw [called]
      exact (saver.delete_thread_drops lawful state validated).history.trans (List.append_nil _).symm

-- A write whose arguments are taken makes room, and then adds what it was granted room for.
theorem write_logs (lawful : saver.inherited.Lawful) (state : saver.State) (timed : TimedCall Value Version)
    (threadId checkpointNs checkpointId : String) (requiredBytes : Nat)
    (asks : saver.Asks timed.call threadId requiredBytes)
    (accounted : saver.Accounted state) (after : saver.State) (reply : saver.Reply)
    (granted : ∀ result, reply = .ok result →
      (saver.reserveLocked state timed.now threadId checkpointNs checkpointId requiredBytes).2 = .ok ())
    (added : after.history =
      (saver.reserveLocked state timed.now threadId checkpointNs checkpointId requiredBytes).1.history ++
        saver.acceptedEvents timed.call reply) :
    saver.Logs state timed after reply := by
  obtain ⟨evicted, dropped, evicts⟩ :=
    saver.reserve_evicts lawful state timed.now threadId checkpointNs checkpointId requiredBytes accounted
  have answered : (∃ result, reply = .ok result) →
      (saver.reserveLocked state timed.now threadId checkpointNs checkpointId requiredBytes).2 = .ok () :=
    fun ⟨result, same⟩ => granted result same
  refine ⟨_, .evicted threadId requiredBytes evicted asks (evicts.weaken saver _ _ _ _ _ _ _ answered), ?_⟩
  rw [added, dropped, saver.drop_all_history lawful]

theorem put_logs (lawful : saver.inherited.Lawful) (state : saver.State) (timed : TimedCall Value Version)
    (config : RunnableConfig) (checkpoint : Checkpoint Value Version) (metadata : Metadata)
    (versions : ChannelVersions Version) (called : timed.call = .put config checkpoint metadata versions)
    (accounted : saver.Accounted state) :
    saver.Logs state timed (saver.put state timed.now timed.later config checkpoint metadata versions).1
      ((saver.put state timed.now timed.later config checkpoint metadata versions).2.map .config) := by
  cases checked : saver.prepareCheckpoint config checkpoint metadata versions with
  | error error =>
      have refused : saver.put state timed.now timed.later config checkpoint metadata versions =
        (state, .error error) := by
        rw [put, checked]
      rw [refused]
      apply saver.logs_rejected state timed error
      rw [called]
      exact ⟨error, checked⟩
  | ok prepared =>
      obtain ⟨⟨threadId, checkpointNs, checkpointId⟩, requiredBytes⟩ := prepared
      have asks : saver.Asks timed.call threadId requiredBytes := by
        rw [called]
        exact ⟨checkpointNs, checkpointId, checked⟩
      have logs := saver.write_logs lawful state timed threadId checkpointNs checkpointId requiredBytes asks accounted
      cases answered : (saver.put state timed.now timed.later config checkpoint metadata versions).2 with
      | error error =>
          refine logs _ _ (fun result same => by cases same) ?_
          rw [saver.put_refused lawful state timed.now timed.later config checkpoint metadata versions
            _ _ error checked answered, called]
          exact (List.append_nil _).symm
      | ok location =>
          rcases saver.put_cases lawful state timed.now timed.later config checkpoint metadata versions with
            ⟨_, error, refused⟩ | ⟨_, _, _, _, _, _, _, stores, prepared, reserving, accepted⟩
          · rw [refused] at answered
            cases answered
          · rw [checked] at prepared
            cases prepared
            refine logs _ _ (fun _ _ => congrArg Prod.snd reserving) ?_
            rw [congrArg Prod.fst reserving, accepted, stores.committed.2, called, Except.map, acceptedEvents,
              RunnableConfig.threadId?, stores.commit.prepared.threadId]
            rfl

theorem put_writes_logs (lawful : saver.inherited.Lawful) (state : saver.State) (timed : TimedCall Value Version)
    (config : RunnableConfig) (writes : List (String × Value)) (taskId taskPath : String)
    (called : timed.call = .putWrites config writes taskId taskPath) (accounted : saver.Accounted state) :
    saver.Logs state timed (saver.putWrites state timed.now timed.later config writes taskId taskPath).1
      ((saver.putWrites state timed.now timed.later config writes taskId taskPath).2.map (fun _ => .done)) := by
  cases checked : saver.prepareWrites config writes taskId taskPath with
  | error error =>
      have refused : saver.putWrites state timed.now timed.later config writes taskId taskPath =
        (state, .error error) := by
        rw [putWrites, checked]
      rw [refused]
      apply saver.logs_rejected state timed error
      rw [called]
      exact ⟨error, checked⟩
  | ok prepared =>
      obtain ⟨⟨threadId, checkpointNs, checkpointId⟩, requiredBytes⟩ := prepared
      have asks : saver.Asks timed.call threadId requiredBytes := by
        rw [called]
        exact ⟨checkpointNs, checkpointId, checked⟩
      have logs := saver.write_logs lawful state timed threadId checkpointNs checkpointId requiredBytes asks accounted
      cases answered : (saver.putWrites state timed.now timed.later config writes taskId taskPath).2 with
      | error error =>
          refine logs _ _ (fun result same => by cases same) ?_
          rw [saver.put_writes_refused lawful state timed.now timed.later config writes taskId taskPath
            _ _ error checked answered, called]
          exact (List.append_nil _).symm
      | ok done =>
          rcases saver.put_writes_cases lawful state timed.now timed.later config writes taskId taskPath with
            ⟨_, error, refused⟩ | ⟨_, _, _, _, _, batch, prepared, reserving, accepted⟩
          · rw [refused] at answered
            cases answered
          · rw [checked] at prepared
            cases prepared
            refine logs _ _ (fun _ _ => congrArg Prod.snd reserving) ?_
            rw [congrArg Prod.fst reserving, accepted, batch.committed.2, called, Except.map, acceptedEvents,
              RunnableConfig.threadId?, batch.commit.threadId]
            rfl

theorem perform_logs (lawful : saver.inherited.Lawful) (state : saver.State) (timed : TimedCall Value Version)
    (accounted : saver.Accounted state) :
    saver.Logs state timed (saver.perform state timed).1 (saver.perform state timed).2 := by
  rw [perform]
  cases called : timed.call with
  | put config checkpoint metadata versions =>
      exact saver.put_logs lawful state timed config checkpoint metadata versions called accounted
  | putWrites config writes taskId taskPath =>
      exact saver.put_writes_logs lawful state timed config writes taskId taskPath called accounted
  | getTuple config => exact saver.get_tuple_logs lawful state timed config called
  | list config filter before limit => exact saver.list_logs lawful state timed config filter before limit called
  | getDeltaChannelHistory config channels => exact saver.delta_history_logs lawful state timed config channels called
  | deleteThread threadId => exact saver.delete_thread_logs lawful state timed threadId called
  | purgeExpired =>
      refine saver.logs_purge lawful state timed _ _ ?_ ?_ rfl <;> rw [called]
      · trivial
      · exact id
  | clear =>
      refine ⟨[.cleared], .cleared called rfl, ?_⟩
      rw [called]
      exact (List.append_nil _).symm
  | stats =>
      refine saver.logs_purge lawful state timed _ _ ?_ ?_ rfl <;> rw [called]
      · trivial
      · exact id

theorem refines_plain_saver (lawful : saver.inherited.Lawful) :
    (∀ calls threadId, SaverDicts.Agree threadId (Transition.run saver.step saver.initial calls).dicts
      (saver.replay threadId (Transition.run saver.step saver.initial calls).history)) ∧
    (∀ calls timed, ∃ removed,
      saver.Removes (Transition.run saver.step saver.initial calls) timed
        (saver.perform (Transition.run saver.step saver.initial calls) timed).2 removed ∧
      (saver.step (Transition.run saver.step saver.initial calls) timed).history =
        (Transition.run saver.step saver.initial calls).history ++ removed ++
          saver.acceptedEvents timed.call (saver.perform (Transition.run saver.step saver.initial calls) timed).2) ∧
    (∀ state timed threadId,
      (∃ error, (saver.perform state timed).2 = .error error) ∨ timed.call.threadId? ≠ some threadId →
      SaverDicts.Agree threadId (saver.step state timed).dicts state.dicts ∨
        SaverDicts.Agree threadId (saver.step state timed).dicts .empty) := by
  refine ⟨fun calls => ?_, fun calls timed => ?_, fun state timed threadId => ?_⟩
  · exact Transition.run_keeps saver.step saver.Replays
      (fun state timed => saver.effect_replays lawful state _ timed _ (saver.perform_effect lawful state timed))
      saver.initial (fun threadId => .refl threadId _) calls
  · apply saver.perform_logs lawful
    exact Transition.run_keeps saver.step saver.Accounted (saver.step_accounted lawful) saver.initial
      saver.initial_accounted calls
  · exact saver.effect_agrees lawful state _ timed _ (saver.perform_effect lawful state timed) threadId

theorem refines_plain_saver_small_run :
    SaverDicts.Agree "t" (Transition.run (smallBoundedSaver 1 99).step (smallBoundedSaver 1 99).initial smallRun).dicts
      ((smallBoundedSaver 1 99).replay "t"
        (Transition.run (smallBoundedSaver 1 99).step (smallBoundedSaver 1 99).initial smallRun).history) ∧
    (smallBoundedSaver 1 99).Logs
      (Transition.run (smallBoundedSaver 1 99).step (smallBoundedSaver 1 99).initial smallRun)
        ⟨9, 9, .deleteThread (.str "t")⟩
      ((smallBoundedSaver 1 99).step
        (Transition.run (smallBoundedSaver 1 99).step (smallBoundedSaver 1 99).initial smallRun)
          ⟨9, 9, .deleteThread (.str "t")⟩)
      (.ok .done) :=
  ⟨((smallBoundedSaver 1 99).refines_plain_saver smallSaver.lawful).1 smallRun "t",
    ((smallBoundedSaver 1 99).refines_plain_saver smallSaver.lawful).2.1 smallRun ⟨9, 9, .deleteThread (.str "t")⟩⟩

end BoundedInMemorySaver

end LangGraphServer
