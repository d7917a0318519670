import LangGraphServer.Checkpoint.Commit

set_option autoImplicit false

namespace LangGraphServer

open Collections

section Calls

variable {Value Version : Type}

def RunnableConfig.threadId? (config : RunnableConfig) : Option String :=
  match config.entry? "thread_id" with
  | some (.str threadId) => some threadId
  | _ => none

def SaverCall.threadId? : SaverCall Value Version → Option String
  | .put config _ _ _ => config.threadId?
  | .putWrites config _ _ _ => config.threadId?
  | .getTuple config => config.threadId?
  | .list config _ _ _ => config.bind RunnableConfig.threadId?
  | .getDeltaChannelHistory config _ => config.threadId?
  | .deleteThread (.str threadId) => some threadId
  | _ => none

end Calls

namespace BoundedInMemorySaver

variable {Value Version : Type} [DecidableEq Version] (saver : BoundedInMemorySaver Value Version)

abbrev Reply (_ : BoundedInMemorySaver Value Version) : Type := Except PyError (SaverReply Value Version)

-- What a reply says was accepted: a `put` or `put_writes` that did not raise.
def acceptedEvents (call : SaverCall Value Version) (reply : saver.Reply) : List (SaverEvent Value Version) :=
  match call, reply with
  | .put config checkpoint metadata versions, .ok _ =>
      config.threadId?.toList.map (fun threadId => .stored threadId config checkpoint metadata versions)
  | .putWrites config writes taskId taskPath, .ok _ =>
      config.threadId?.toList.map (fun threadId => .wrote threadId config writes taskId taskPath)
  | _, _ => []

-- The delta history is the only read that asks for a thread before knowing that it exists.
def AsksDelta (timed : TimedCall Value Version) (threadId : String) : Prop :=
  ∃ config channels checkpointNs, timed.call = .getDeltaChannelHistory config channels ∧
    saver.validatedLocation config = .ok (threadId, checkpointNs) ∧ channels ≠ []

-- Everything that one call can do to the saver, with the reply it gives.
inductive Effect (state : saver.State) (timed : TimedCall Value Version) : saver.State → saver.Reply → Prop where
  | dropped (gone : List String) (reply : saver.Reply) (silent : saver.acceptedEvents timed.call reply = []) :
      Effect state timed (saver.dropAll state gone) reply
  | read (gone : List String) (dicts : SaverDicts Version) (reply : saver.Reply)
      (silent : saver.acceptedEvents timed.call reply = [])
      (frame : (saver.dropAll state gone).dicts.ReadFrame dicts (fun _ => False)) :
      Effect state timed { saver.dropAll state gone with dicts := dicts } reply
  | touched (dicts : SaverDicts Version) (threadId : String) (reply : SaverReply Value Version)
      (silent : saver.acceptedEvents timed.call (.ok reply) = [])
      (frame : (saver.purgeExpiredLocked state timed.now).1.dicts.ReadFrame dicts (fun added => added = threadId))
      (known : threadId ∈ (saver.purgeExpiredLocked state timed.now).1.dicts.storage.keys ∨
        saver.AsksDelta timed threadId) :
      Effect state timed
        (saver.touchLocked { (saver.purgeExpiredLocked state timed.now).1 with dicts := dicts } threadId timed.later)
        (.ok reply)
  | stored (after : saver.State) (config : RunnableConfig) (checkpoint : Checkpoint Value Version)
      (metadata : Metadata) (versions : ChannelVersions Version) (gone : List String) (key : CheckpointKey)
      (estimatedSize : Nat) (stored : StoredCheckpoint) (values : Dict String Value)
      (blobs : List (BlobKey Version × SerializedValue))
      (called : timed.call = .put config checkpoint metadata versions)
      (stores : saver.Stores state after timed.now timed.later config checkpoint metadata versions gone key
        estimatedSize stored values blobs) :
      Effect state timed after (.ok (.config (checkpointLocation key.1 key.2.1 key.2.2)))
  | wrote (after : saver.State) (config : RunnableConfig) (batch : List (String × Value)) (taskId taskPath : String)
      (gone : List String) (key : CheckpointKey) (requested : Nat) (rows : List (WriteIndex × StoredWrite))
      (called : timed.call = .putWrites config batch taskId taskPath)
      (writes : saver.Writes state after timed.now timed.later config batch taskId taskPath gone key requested rows) :
      Effect state timed after (.ok .done)
  | cleared : timed.call = .clear → Effect state timed (saver.clear state) (.ok .done)

theorem purge_drops (state : saver.State) (now : Time) :
    (saver.purgeExpiredLocked state now).1 = saver.dropAll state (saver.expiredThreads state now) := rfl

theorem get_tuple_effect (lawful : saver.inherited.Lawful) (state : saver.State) (timed : TimedCall Value Version)
    (config : RunnableConfig) (called : timed.call = .getTuple config) :
    saver.Effect state timed (saver.getTuple state timed.now timed.later config).1
      ((saver.getTuple state timed.now timed.later config).2.map .tuple) := by
  have silent (reply : saver.Reply) : saver.acceptedEvents timed.call reply = [] := by
    rw [called]
    rfl
  rw [getTuple]
  cases located : saver.validatedLocation config with
  | error error => exact .dropped [] _ (silent _)
  | ok location =>
      obtain ⟨threadId, checkpointNs⟩ := location
      obtain ⟨thread, _⟩ := saver.validated_location_thread config threadId checkpointNs located
      by_cases known : threadId ∈ (saver.purgeExpiredLocked state timed.now).1.dicts.storage.keys
      · simp only [if_pos known]
        have frame := lawful.get_tuple_reads (saver.purgeExpiredLocked state timed.now).1.dicts config threadId
          thread known
        generalize saver.inherited.getTuple (saver.purgeExpiredLocked state timed.now).1.dicts config = answer at frame
        obtain ⟨dicts, reply⟩ := answer
        cases reply with
        | error error => exact .read _ dicts _ (silent _) frame
        | ok found =>
            cases found with
            | none => exact .read _ dicts _ (silent _) frame
            | some item =>
                exact .touched dicts threadId _ (silent _) ⟨frame.checkpoints, frame.writes, frame.blobs,
                  fun added occurs => (frame.threads added occurs).imp_right False.elim⟩ (Or.inl known)
      · simp only [if_neg known]
        exact .dropped _ _ (silent _)

omit [DecidableEq Version] in
theorem list_located (config before : Option RunnableConfig) (threadId : Option String)
    (located : (do
      let threadId ← match config with
        | none => Except.ok none
        | some given => (saver.validatedLocation given).map (fun location => some location.1)
      match before with
      | none => Except.ok threadId
      | some given => (saver.validatedLocation given).map (fun _ => threadId) : Except PyError (Option String)) =
      .ok threadId) (given : RunnableConfig) (same : config = some given) :
    ∃ thread, threadId = some thread ∧ given.entry? "thread_id" = some (.str thread) := by
  subst same
  cases valid : saver.validatedLocation given with
  | error error => simp [valid, bind, Except.bind, Except.map] at located
  | ok location =>
      obtain ⟨thread, checkpointNs⟩ := location
      refine ⟨thread, ?_, (saver.validated_location_thread given thread checkpointNs valid).1⟩
      cases before with
      | none => simpa [valid, bind, Except.bind, Except.map, eq_comm] using located
      | some other =>
          cases bounded : saver.validatedLocation other with
          | error error => simp [valid, bounded, bind, Except.bind, Except.map] at located
          | ok place => simpa [valid, bounded, bind, Except.bind, Except.map, eq_comm] using located

theorem list_effect (lawful : saver.inherited.Lawful) (state : saver.State) (timed : TimedCall Value Version)
    (config : Option RunnableConfig) (filter : Option Metadata) (before : Option RunnableConfig)
    (limit : Option Int) (called : timed.call = .list config filter before limit) :
    saver.Effect state timed (saver.list state timed.now timed.later config filter before limit).1
      ((saver.list state timed.now timed.later config filter before limit).2.map .tuples) := by
  have silent (reply : saver.Reply) : saver.acceptedEvents timed.call reply = [] := by
    rw [called]
    rfl
  rw [list]
  split
  · exact .dropped [] _ (silent _)
  · rename_i threadId located
    have named := saver.list_located config before threadId located
    simp only
    split
    · exact .dropped _ _ (silent _)
    · rename_i present
      have known : ∀ thread, threadId = some thread →
          thread ∈ (saver.purgeExpiredLocked state timed.now).1.dicts.storage.keys := by
        rintro thread rfl
        simpa using present
      have frame := lawful.list_reads (saver.purgeExpiredLocked state timed.now).1.dicts config filter before limit
        (fun given same => by
          obtain ⟨thread, rfl, entry⟩ := named given same
          exact ⟨thread, entry, known thread rfl⟩)
      generalize saver.inherited.list (saver.purgeExpiredLocked state timed.now).1.dicts config filter before limit =
        answer at frame
      obtain ⟨dicts, reply⟩ := answer
      cases reply with
      | error error => exact .read _ dicts _ (silent _) frame
      | ok items =>
          cases items with
          | nil => exact .read _ dicts _ (silent _) frame
          | cons item rest =>
              cases threadId with
              | none => exact .read _ dicts _ (silent _) frame
              | some thread =>
                  exact .touched dicts thread _ (silent _) ⟨frame.checkpoints, frame.writes, frame.blobs,
                    fun added occurs => (frame.threads added occurs).imp_right False.elim⟩ (Or.inl (known thread rfl))

theorem delta_history_effect (lawful : saver.inherited.Lawful) (state : saver.State)
    (timed : TimedCall Value Version) (config : RunnableConfig) (channels : List String)
    (called : timed.call = .getDeltaChannelHistory config channels) :
    saver.Effect state timed (saver.getDeltaChannelHistory state timed.now timed.later config channels).1
      ((saver.getDeltaChannelHistory state timed.now timed.later config channels).2.map .history) := by
  have silent (reply : saver.Reply) : saver.acceptedEvents timed.call reply = [] := by
    rw [called]
    rfl
  rw [getDeltaChannelHistory]
  cases located : saver.validatedLocation config with
  | error error => exact .dropped [] _ (silent _)
  | ok location =>
      obtain ⟨threadId, checkpointNs⟩ := location
      obtain ⟨thread, _⟩ := saver.validated_location_thread config threadId checkpointNs located
      have frame := lawful.delta_history_reads (saver.purgeExpiredLocked state timed.now).1.dicts config channels
        threadId thread
      have entries := lawful.delta_history_entries (saver.purgeExpiredLocked state timed.now).1.dicts config channels
      simp only
      generalize saver.inherited.getDeltaChannelHistory (saver.purgeExpiredLocked state timed.now).1.dicts config
        channels = answer at frame entries
      obtain ⟨dicts, reply⟩ := answer
      have unchanged (silent : ∀ history, reply = .ok history → history.keys = []) :
          (saver.purgeExpiredLocked state timed.now).1.dicts.ReadFrame dicts (fun _ => False) :=
        ⟨frame.checkpoints, frame.writes, frame.blobs, fun added occurs =>
          (frame.threads added occurs).imp_right (fun ⟨_, history, answered, nonempty⟩ =>
            nonempty (silent history answered))⟩
      cases reply with
      | error error => exact .read _ dicts _ (silent _) (unchanged (by simp))
      | ok history =>
          by_cases none_asked : history.keys = []
          · simp only [none_asked, if_true]
            exact .read _ dicts _ (silent _) (unchanged (by rintro _ ⟨⟩; exact none_asked))
          · simp only [none_asked, if_false]
            refine .touched dicts threadId _ (silent _) ⟨frame.checkpoints, frame.writes, frame.blobs,
              fun added occurs => (frame.threads added occurs).imp_right (fun new => new.1)⟩ (Or.inr ?_)
            refine ⟨config, channels, checkpointNs, called, located, ?_⟩
            rintro rfl
            obtain ⟨channel, member⟩ := List.exists_mem_of_ne_nil _ none_asked
            simpa using (entries history rfl channel).mp member

theorem perform_effect (lawful : saver.inherited.Lawful) (state : saver.State) (timed : TimedCall Value Version) :
    saver.Effect state timed (saver.perform state timed).1 (saver.perform state timed).2 := by
  rw [perform]
  cases called : timed.call with
  | put config checkpoint metadata versions =>
      rcases saver.put_cases lawful state timed.now timed.later config checkpoint metadata versions with
        ⟨gone, error, refused⟩ | ⟨after, gone, key, size, stored, values, blobs, stores, _, _, accepted⟩
      · simp only [refused]
        exact .dropped gone _ (by rw [called]; rfl)
      · simp only [accepted]
        exact .stored after config checkpoint metadata versions gone key size stored values blobs called stores
  | putWrites config batch taskId taskPath =>
      rcases saver.put_writes_cases lawful state timed.now timed.later config batch taskId taskPath with
        ⟨gone, error, refused⟩ | ⟨after, gone, key, requested, rows, writes, _, _, accepted⟩
      · simp only [refused]
        exact .dropped gone _ (by rw [called]; rfl)
      · simp only [accepted]
        exact .wrote after config batch taskId taskPath gone key requested rows called writes
  | getTuple config => exact saver.get_tuple_effect lawful state timed config called
  | list config filter before limit => exact saver.list_effect lawful state timed config filter before limit called
  | getDeltaChannelHistory config channels => exact saver.delta_history_effect lawful state timed config channels called
  | deleteThread threadId =>
      simp only [deleteThread]
      cases valid : saver.validatedIdentifier threadId "thread_id" saver.config.maxThreadIdLength false with
      | error error => exact .dropped [] _ (by rw [called]; rfl)
      | ok validated => exact .dropped [validated] _ (by rw [called]; rfl)
  | purgeExpired => exact .dropped _ _ (by rw [called]; rfl)
  | clear => exact .cleared called
  | stats => exact .dropped _ _ (by rw [called]; rfl)

end BoundedInMemorySaver

end LangGraphServer
