import LangGraphServer.Checkpoint.Refinement
import LangGraphServer.Checkpoint.Reference

set_option autoImplicit false

namespace LangGraphServer

open Collections

variable {Value Version : Type} [DecidableEq Version]

-- A stored checkpoint is whole when every channel version it lists has its blob and the
-- parent it names is stored next to it. `loads` reads the versions back from its bytes.
structure SaverDicts.Whole (loads : SerializedValue → Option (ChannelVersions Version)) (dicts : SaverDicts Version)
    (key : CheckpointKey) (stored : StoredCheckpoint) : Prop where
  blobs : ∃ versions, loads stored.checkpoint = some versions ∧ ∀ channel version,
    versions.get? channel = some version → ∃ blob, dicts.blob? (key.1, key.2.1, channel, version) = some blob
  parent : ∀ parentId, stored.parentId = some (.str parentId) →
    ∃ parent, dicts.checkpoint? (key.1, key.2.1, parentId) = some parent

def SaverDicts.Intact (loads : SerializedValue → Option (ChannelVersions Version))
    (dicts : SaverDicts Version) : Prop :=
  ∀ key stored, dicts.checkpoint? key = some stored → dicts.Whole loads key stored

namespace SaverDicts

variable (loads : SerializedValue → Option (ChannelVersions Version))

theorem whole_grows (dicts after : SaverDicts Version) (key : CheckpointKey) (stored : StoredCheckpoint)
    (blobs : ∀ query : BlobKey Version, query.1 = key.1 → ∀ blob, dicts.blob? query = some blob →
      ∃ kept, after.blob? query = some kept)
    (checkpoints : ∀ query : CheckpointKey, query.1 = key.1 → ∀ found, dicts.checkpoint? query = some found →
      ∃ kept, after.checkpoint? query = some kept)
    (whole : dicts.Whole loads key stored) : after.Whole loads key stored := by
  obtain ⟨versions, loaded, present⟩ := whole.blobs
  refine ⟨⟨versions, loaded, fun channel version listed => ?_⟩, fun parentId named => ?_⟩
  · obtain ⟨blob, found⟩ := present channel version listed
    exact blobs _ rfl blob found
  · obtain ⟨parent, found⟩ := whole.parent parentId named
    exact checkpoints _ rfl parent found

theorem intact_of_agree (dicts after : SaverDicts Version) (intact : dicts.Intact loads)
    (agree : ∀ threadId, Agree threadId after dicts ∨ Agree threadId after empty) : after.Intact loads := by
  intro key stored found
  rcases agree key.1 with same | gone
  · rw [same.checkpoints key rfl] at found
    apply whole_grows loads dicts after key stored _ _ (intact key stored found)
    · intro query own blob present
      exact ⟨blob, (same.blobs query own).trans present⟩
    · intro query own earlier present
      exact ⟨earlier, (same.checkpoints query own).trans present⟩
  · rw [gone.checkpoints key rfl] at found
    cases found

theorem intact_store_writes (dicts : SaverDicts Version) (key : CheckpointKey)
    (rows : List (WriteIndex × StoredWrite)) (intact : dicts.Intact loads) :
    (dicts.storeWrites key rows).Intact loads := by
  intro query stored found
  rw [checkpoint_store_writes] at found
  apply whole_grows loads dicts _ query stored _ _ (intact query stored found)
  · intro asked _ blob present
    exact ⟨blob, (blob_store_writes rows dicts key asked).trans present⟩
  · intro asked _ earlier present
    exact ⟨earlier, (checkpoint_store_writes rows dicts key asked).trans present⟩

theorem blob_store_checkpoint_grows (dicts : SaverDicts Version) (key : CheckpointKey) (stored : StoredCheckpoint)
    (blobs : List (BlobKey Version × SerializedValue)) (query : BlobKey Version)
    (present : query ∈ blobs.map Prod.fst ∨ ∃ blob, dicts.blob? query = some blob) :
    ∃ blob, (dicts.storeCheckpoint key stored blobs).blob? query = some blob := by
  rw [blob_store_checkpoint, ← Dict.mem_keys, Dict.mem_keys_set_all]
  exact present.imp_right (fun earlier => (Dict.mem_keys _ _).mpr earlier)

theorem checkpoint_store_grows (dicts : SaverDicts Version) (key query : CheckpointKey) (stored : StoredCheckpoint)
    (blobs : List (BlobKey Version × SerializedValue))
    (present : query = key ∨ ∃ found, dicts.checkpoint? query = some found) :
    ∃ found, (dicts.storeCheckpoint key stored blobs).checkpoint? query = some found := by
  rw [checkpoint_store]
  by_cases same : query = key
  · rw [if_pos same]
    exact ⟨stored, rfl⟩
  · rw [if_neg same]
    exact present.resolve_left same

theorem intact_store_checkpoint (dicts : SaverDicts Version) (key : CheckpointKey) (stored : StoredCheckpoint)
    (blobs : List (BlobKey Version × SerializedValue)) (intact : dicts.Intact loads)
    (whole : (dicts.storeCheckpoint key stored blobs).Whole loads key stored) :
    (dicts.storeCheckpoint key stored blobs).Intact loads := by
  intro query found present
  rw [checkpoint_store] at present
  by_cases same : query = key
  · rw [if_pos same] at present
    cases present
    rw [same]
    exact whole
  · rw [if_neg same] at present
    apply whole_grows loads dicts _ query found _ _ (intact query found present)
    · intro asked _ blob earlier
      exact blob_store_checkpoint_grows dicts key stored blobs asked (Or.inr ⟨blob, earlier⟩)
    · intro asked _ other earlier
      exact checkpoint_store_grows dicts key asked stored blobs (Or.inr ⟨other, earlier⟩)

end SaverDicts

-- The last checkpoint of a graph run: the config its `put` returned and the channel
-- versions it was stored with.
structure RunPosition (Version : Type) where
  config : RunnableConfig
  versions : ChannelVersions Version

structure RunsState (Value Version : Type) where
  saver : SaverState Value Version
  positions : Dict String (RunPosition Version)

inductive RunAction (Value Version : Type) where
  | put (run : String) (now later : Time) (config : RunnableConfig) (checkpoint : Checkpoint Value Version)
      (metadata : Metadata) (versions : ChannelVersions Version)
  | call (timed : TimedCall Value Version)

def SaverCall.IsPut : SaverCall Value Version → Prop
  | .put _ _ _ _ => True
  | _ => False

namespace BoundedInMemorySaver

variable (saver : BoundedInMemorySaver Value Version) (loads : SerializedValue → Option (ChannelVersions Version))

def runsStep (state : RunsState Value Version) : RunAction Value Version → RunsState Value Version
  | .put run now later config checkpoint metadata versions =>
      match saver.put state.saver now later config checkpoint metadata versions with
      | (after, .ok result) => ⟨after, state.positions.set run ⟨result, checkpoint.channelVersions⟩⟩
      | (after, .error _) => ⟨after, state.positions⟩
  | .call timed => ⟨saver.step state.saver timed, state.positions⟩

def runsInitial : RunsState Value Version := ⟨saver.initial, .empty⟩

def namesParent (config : RunnableConfig) (key : CheckpointKey) : Prop :=
  config.entry? "thread_id" = some (.str key.1) ∧ config.entry? "checkpoint_ns" = some (.str key.2.1) ∧
    config.entry? "checkpoint_id" = some (.str key.2.2)

instance (found : Option PyObj) (text : String) : Decidable (found = some (.str text)) :=
  match found with
  | some (.str given) => decidable_of_iff (given = text) (by simp)
  | none => isFalse (by simp)
  | some .none => isFalse (by simp)
  | some (.bool _) => isFalse (by simp)
  | some (.int _) => isFalse (by simp)
  | some (.float _) => isFalse (by simp)
  | some (.list _) => isFalse (by simp)
  | some (.tuple _) => isFalse (by simp)
  | some (.dict _) => isFalse (by simp)
  | some (.object _) => isFalse (by simp)
  | some (.other _) => isFalse (by simp)

instance (config : RunnableConfig) (key : CheckpointKey) : Decidable (namesParent config key) :=
  inferInstanceAs (Decidable (_ ∧ _ ∧ _))

def namesNoParent (config : RunnableConfig) : Prop :=
  config.entry? "checkpoint_id" = none ∨ config.entry? "checkpoint_id" = some .none

inductive BaseOf (state : RunsState Value Version) (run : String) (config : RunnableConfig) :
    ChannelVersions Version → Prop where
  | fresh (new : state.positions.get? run = none) (named : namesNoParent config) : BaseOf state run config .empty
  | adopted (key : CheckpointKey) (stored : StoredCheckpoint) (base : ChannelVersions Version)
      (new : state.positions.get? run = none) (named : namesParent config key)
      (found : state.saver.dicts.checkpoint? key = some stored) (loaded : loads stored.checkpoint = some base) :
      BaseOf state run config base
  | continued (position : RunPosition Version) (key : CheckpointKey)
      (left : state.positions.get? run = some position) (returned : namesParent position.config key)
      (named : namesParent config key) : BaseOf state run config position.versions

def Obeys (state : RunsState Value Version) : RunAction Value Version → Prop
  | .put run _ _ config checkpoint _ versions => ∃ base, BaseOf loads state run config base ∧
      ∀ channel version, versions.get? channel = some version ↔
        checkpoint.channelVersions.get? channel = some version ∧ base.get? channel ≠ some version
  | .call timed => ¬ timed.call.IsPut

-- What the saver does not check: the parent that a `put` names is still there, as the run
-- left it, and the purge that opens the `put` does not take it away.
def ParentKept (state : RunsState Value Version) : RunAction Value Version → Prop
  | .put run now _ config _ _ _ => ∀ key, namesParent config key →
      key.1 ∉ saver.expiredThreads state.saver now ∧
      ∃ stored, state.saver.dicts.checkpoint? key = some stored ∧
        ∀ position, state.positions.get? run = some position → loads stored.checkpoint = some position.versions
  | .call _ => True

theorem drop_all_intact (lawful : saver.inherited.Lawful) (state : saver.State) (gone : List String)
    (intact : state.dicts.Intact loads) : (saver.dropAll state gone).dicts.Intact loads :=
  SaverDicts.intact_of_agree loads state.dicts _ intact (saver.drop_all_agree lawful state gone)

theorem drop_all_spares (lawful : saver.inherited.Lawful) (state : saver.State) (gone : List String)
    (threadId : String) (spared : threadId ∉ gone) :
    SaverDicts.Agree threadId (saver.dropAll state gone).dicts state.dicts := by
  induction gone generalizing state with
  | nil => exact .refl threadId _
  | cons first rest ih =>
      rw [List.mem_cons, not_or] at spared
      have head := SaverDicts.agree_drop_other state.dicts threadId first (Ne.symm spared.1)
      rw [← (saver.delete_thread_drops lawful state first).dicts] at head
      exact .trans threadId _ _ _ (ih (saver.deleteThreadLocked state first) spared.2) head

theorem effect_intact (lawful : saver.inherited.Lawful) (state after : saver.State)
    (timed : TimedCall Value Version) (reply : saver.Reply) (effect : saver.Effect state timed after reply)
    (other : ¬ timed.call.IsPut) (intact : state.dicts.Intact loads) : after.dicts.Intact loads := by
  have dropped (gone : List String) := saver.drop_all_intact loads lawful state gone intact
  cases effect with
  | dropped gone _ _ => exact dropped gone
  | read gone dicts _ _ frame =>
      apply SaverDicts.intact_of_agree loads _ dicts (dropped gone)
      exact fun threadId => Or.inl (SaverDicts.agree_read _ dicts _ frame threadId)
  | touched dicts _ _ _ frame _ =>
      apply SaverDicts.intact_of_agree loads _ dicts (dropped (saver.expiredThreads state timed.now))
      exact fun threadId => Or.inl (SaverDicts.agree_read _ dicts _ frame threadId)
  | stored _ _ _ _ _ _ _ _ _ _ _ called _ =>
      rw [called] at other
      exact absurd trivial other
  | wrote _ _ _ _ _ gone key _ rows _ writes =>
      rw [writes.committed.1]
      exact SaverDicts.intact_store_writes loads _ key rows (dropped gone)
  | cleared _ =>
      intro key stored found
      cases found

theorem put_intact (lawful : saver.inherited.Lawful)
    (round_trip : ∀ copy bytes, saver.inherited.dumpsTyped (.checkpoint copy) = .ok bytes →
      loads bytes = some copy.channelVersions)
    (state after : saver.State) (now later : Time) (config : RunnableConfig)
    (checkpoint : Checkpoint Value Version) (metadata : Metadata) (versions base : ChannelVersions Version)
    (gone : List String) (key : CheckpointKey) (estimatedSize : Nat) (stored : StoredCheckpoint)
    (values : Dict String Value) (blobs : List (BlobKey Version × SerializedValue))
    (stores : saver.Stores state after now later config checkpoint metadata versions gone key estimatedSize stored
      values blobs)
    (changed : ∀ channel version, versions.get? channel = some version ↔
      checkpoint.channelVersions.get? channel = some version ∧ base.get? channel ≠ some version)
    (based : (namesNoParent config ∧ base = .empty) ∨
      ∃ parentId parent, config.entry? "checkpoint_id" = some (.str parentId) ∧
        key.1 ∉ saver.expiredThreads state now ∧
        state.dicts.checkpoint? (key.1, key.2.1, parentId) = some parent ∧ loads parent.checkpoint = some base)
    (intact : state.dicts.Intact loads) : after.dicts.Intact loads := by
  have commit := stores.commit
  have rest := saver.drop_all_intact loads lawful state gone intact
  rw [stores.committed.1]
  -- The parent survives the purge and the evictions, which spare the thread of the `put`.
  have inherited : (namesNoParent config ∧ base = .empty) ∨
      ∃ parentId parent, config.entry? "checkpoint_id" = some (.str parentId) ∧
        (saver.dropAll state gone).dicts.checkpoint? (key.1, key.2.1, parentId) = some parent ∧
        loads parent.checkpoint = some base := by
    apply based.imp_right
    rintro ⟨parentId, parent, given, fresh, found, loaded⟩
    have spared := saver.drop_all_spares lawful state gone key.1 (fun listed => fresh (stores.reserved.spared listed))
    exact ⟨parentId, parent, given, (spared.checkpoints (key.1, key.2.1, parentId) rfl).trans found, loaded⟩
  apply SaverDicts.intact_store_checkpoint loads _ key stored blobs rest
  constructor
  · refine ⟨checkpoint.channelVersions, round_trip _ _ commit.copy, fun channel version listed => ?_⟩
    apply SaverDicts.blob_store_checkpoint_grows
    by_cases unchanged : base.get? channel = some version
    · rcases inherited with ⟨_, started⟩ | ⟨parentId, parent, _, found, loaded⟩
      · rw [started] at unchanged
        cases unchanged
      · obtain ⟨loadedVersions, sameLoad, present⟩ := (rest _ parent found).blobs
        rw [loaded, Option.some.injEq] at sameLoad
        rw [← sameLoad] at present
        exact Or.inr (present channel version unchanged)
    · have new := (changed channel version).mpr ⟨listed, unchanged⟩
      rw [commit.keyed]
      exact Or.inl (List.mem_map.mpr ⟨(channel, version), (Dict.mem_entries _ _ _).mpr new, rfl⟩)
  · intro asked given
    rw [commit.parentId] at given
    rcases inherited with ⟨none_named, _⟩ | ⟨parentId, parent, named, found, _⟩
    · rcases none_named with absent | absent
      · rw [absent] at given
        cases given
      · rw [absent] at given
        cases given
    · rw [named, Option.some.injEq, PyObj.str.injEq] at given
      rw [← given]
      exact SaverDicts.checkpoint_store_grows _ key _ stored blobs (Or.inr ⟨parent, found⟩)

theorem runs_step_intact (lawful : saver.inherited.Lawful)
    (round_trip : ∀ copy bytes, saver.inherited.dumpsTyped (.checkpoint copy) = .ok bytes →
      loads bytes = some copy.channelVersions)
    (state : RunsState Value Version) (action : RunAction Value Version) (obeys : Obeys loads state action)
    (kept : saver.ParentKept loads state action) (intact : state.saver.dicts.Intact loads) :
    (saver.runsStep state action).saver.dicts.Intact loads := by
  cases action with
  | call timed =>
      exact saver.effect_intact loads lawful state.saver _ timed _ (saver.perform_effect lawful state.saver timed)
        obeys intact
  | put run now later config checkpoint metadata versions =>
      rw [runsStep]
      rcases saver.put_cases lawful state.saver now later config checkpoint metadata versions with
        ⟨gone, error, refused⟩ | ⟨after, gone, key, size, stored, values, blobs, stores, _, _, accepted⟩
      · rw [refused]
        exact saver.drop_all_intact loads lawful state.saver gone intact
      · rw [accepted]
        obtain ⟨base, based, changed⟩ := obeys
        have placed (other : CheckpointKey) (named : namesParent config other) :
          other = (key.1, key.2.1, other.2.2) := by
          have thread := named.1.symm.trans stores.commit.prepared.threadId
          have namespaced := named.2.1.symm.trans stores.commit.checkpointNs
          rw [Option.some.injEq, PyObj.str.injEq] at thread namespaced
          rw [← thread, ← namespaced]
        apply saver.put_intact loads lawful round_trip state.saver after now later config checkpoint metadata
          versions base gone key size stored values blobs stores changed _ intact
        cases based with
        | fresh _ named => exact Or.inl ⟨named, rfl⟩
        | adopted other parent _ _ named found loaded =>
            obtain ⟨fresh, _⟩ := kept other named
            rw [placed other named] at found fresh
            exact Or.inr ⟨other.2.2, parent, named.2.2, fresh, found, loaded⟩
        | continued position other left _ named =>
            obtain ⟨fresh, parent, found, loaded⟩ := kept other named
            rw [placed other named] at found fresh
            exact Or.inr ⟨other.2.2, parent, named.2.2, fresh, found, loaded position left⟩

theorem intact_when_parents_kept (lawful : saver.inherited.Lawful)
    (round_trip : ∀ copy bytes, saver.inherited.dumpsTyped (.checkpoint copy) = .ok bytes →
      loads bytes = some copy.channelVersions)
    (actions : List (RunAction Value Version))
    (obeys : Transition.Meets saver.runsStep (Obeys loads) saver.runsInitial actions)
    (kept : Transition.Meets saver.runsStep (saver.ParentKept loads) saver.runsInitial actions) :
    Transition.Always saver.runsStep (fun state => state.saver.dicts.Intact loads) saver.runsInitial actions := by
  apply Transition.always_of_keeps saver.runsStep
    (fun state action => Obeys loads state action ∧ saver.ParentKept loads state action)
  · intro state action intact meets
    exact saver.runs_step_intact loads lawful round_trip state action meets.1 meets.2 intact
  · intro key stored found
    cases found
  · exact Transition.meets_and saver.runsStep _ _ saver.runsInitial actions obeys kept

def smallRunPut (run threadId : String) (parentId : Option String) (now : Time) (checkpointId : String)
    (versions changed : List (String × Nat)) : RunAction Bytes Nat :=
  .put run now now (smallLocation threadId parentId)
    (smallCheckpoint checkpointId versions (versions.map (fun row => (row.1, [1])))) .empty (Dict.empty.setAll changed)

def firstPut : RunAction Bytes Nat := smallRunPut "first" "t" none 0 "c1" [("x", 1)] [("x", 1)]

def secondPut : RunAction Bytes Nat := smallRunPut "second" "u" none 1 "c1" [("x", 1)] [("x", 1)]

def lastPut : RunAction Bytes Nat := smallRunPut "first" "t" (some "c1") 2 "c2" [("x", 1), ("y", 2)] [("y", 2)]

def afterFirst (maxThreads : Nat) : RunsState Bytes Nat :=
  (smallBoundedSaver maxThreads 99).runsStep (smallBoundedSaver maxThreads 99).runsInitial firstPut

def afterSecond (maxThreads : Nat) : RunsState Bytes Nat :=
  (smallBoundedSaver maxThreads 99).runsStep (afterFirst maxThreads) secondPut

def leftAt (state : RunsState Bytes Nat) (run : String) (key : CheckpointKey) (versions : ChannelVersions Nat) : Bool :=
  (state.positions.get? run).any (fun position =>
    decide (position.versions.entries = versions.entries ∧ namesParent position.config key))

theorem base_of_left_at (state : RunsState Bytes Nat) (run : String) (config : RunnableConfig) (key : CheckpointKey)
    (versions : ChannelVersions Nat) (left : leftAt state run key versions = true) (named : namesParent config key) :
    BaseOf loadsVersions state run config versions := by
  rw [leftAt, Option.any_eq_true] at left
  obtain ⟨position, positioned, decided⟩ := left
  obtain ⟨same, parent⟩ := of_decide_eq_true decided
  rw [← Dict.ext same]
  exact .continued position key positioned parent named

theorem interleaved_runs_obey (maxThreads : Nat)
    (second : (afterFirst maxThreads).positions.get? "second" = none)
    (left : leftAt (afterSecond maxThreads) "first" ("t", "", "c1") (Dict.empty.setAll [("x", 1)]) = true) :
    Transition.Meets (smallBoundedSaver maxThreads 99).runsStep (Obeys loadsVersions)
      (smallBoundedSaver maxThreads 99).runsInitial [firstPut, secondPut, lastPut] := by
  have fresh (channel : String) (version : Nat) :
      ((Dict.empty : Dict String Nat).setAll [("x", 1)]).get? channel = some version ↔
        ((Dict.empty : Dict String Nat).setAll [("x", 1)]).get? channel = some version ∧
          (Dict.empty : Dict String Nat).get? channel ≠ some version := by
    simp
  have first : Obeys loadsVersions (smallBoundedSaver maxThreads 99).runsInitial firstPut :=
    ⟨.empty, .fresh rfl (Or.inl rfl), fresh⟩
  have next : Obeys loadsVersions (afterFirst maxThreads) secondPut :=
    ⟨.empty, .fresh second (Or.inl rfl), fresh⟩
  have last : Obeys loadsVersions (afterSecond maxThreads) lastPut := by
    have named : namesParent (smallLocation "t" (some "c1")) ("t", "", "c1") := by decide
    have based := base_of_left_at (afterSecond maxThreads) "first" (smallLocation "t" (some "c1")) ("t", "", "c1")
      (Dict.empty.setAll [("x", 1)]) left named
    rw [lastPut, smallRunPut, Obeys]
    refine ⟨Dict.empty.setAll [("x", 1)], based, fun channel version => ?_⟩
    simp only [smallCheckpoint, Dict.setAll, List.foldl_cons, List.foldl_nil, Dict.get_set, Dict.get_empty]
    by_cases x : channel = "x" <;> by_cases y : channel = "y" <;> simp [x, y]
  exact ⟨first, next, last, trivial⟩

theorem ancestry_lost :
    Transition.Meets (smallBoundedSaver 0 99).runsStep (Obeys loadsVersions) (smallBoundedSaver 0 99).runsInitial
        [firstPut, secondPut, lastPut] ∧
      ¬ Transition.Always (smallBoundedSaver 0 99).runsStep (fun state => state.saver.dicts.Intact loadsVersions)
        (smallBoundedSaver 0 99).runsInitial [firstPut, secondPut, lastPut] := by
  constructor
  · exact interleaved_runs_obey 0 (by decide +kernel) (by decide +kernel)
  · intro always
    have last := Transition.always_last _ _ _ _ always
    have orphaned : (((smallBoundedSaver 0 99).runsStep (afterSecond 0) lastPut).saver.dicts.checkpoint?
        ("t", "", "c2")).any (fun stored => decide (stored.parentId = some (.str "c1"))) = true := by
      decide +kernel
    have missing : (((smallBoundedSaver 0 99).runsStep (afterSecond 0) lastPut).saver.dicts.checkpoint?
        ("t", "", "c1")).isNone = true := by
      decide +kernel
    rw [Option.any_eq_true] at orphaned
    obtain ⟨stored, found, decided⟩ := orphaned
    obtain ⟨parent, present⟩ := (last ("t", "", "c2") stored found).parent "c1" (of_decide_eq_true decided)
    rw [Option.isNone_iff_eq_none] at missing
    exact absurd (missing.symm.trans present) (by simp)

theorem ancestry_kept_small_runs :
    Transition.Always (smallBoundedSaver 1 99).runsStep (fun state => state.saver.dicts.Intact loadsVersions)
      (smallBoundedSaver 1 99).runsInitial [firstPut, secondPut, lastPut] := by
  apply (smallBoundedSaver 1 99).intact_when_parents_kept loadsVersions smallSaver.lawful loads_versions_round_trip
  · exact interleaved_runs_obey 1 (by decide +kernel) (by decide +kernel)
  · have first : (smallBoundedSaver 1 99).ParentKept loadsVersions (smallBoundedSaver 1 99).runsInitial firstPut := by
      intro key named
      cases named.2.2
    have second : (smallBoundedSaver 1 99).ParentKept loadsVersions (afterFirst 1) secondPut := by
      intro key named
      cases named.2.2
    have last : (smallBoundedSaver 1 99).ParentKept loadsVersions (afterSecond 1) lastPut := by
      intro key named
      obtain ⟨threadId, checkpointNs, checkpointId⟩ := key
      obtain ⟨thread, namespaced, identified⟩ := named
      cases thread
      cases namespaced
      cases identified
      refine ⟨by decide +kernel, ?_⟩
      have read : ((afterSecond 1).saver.dicts.checkpoint? ("t", "", "c1")).any (fun stored =>
          ((afterSecond 1).positions.get? "first").all (fun position =>
            (loadsVersions stored.checkpoint).any (fun versions =>
              decide (versions.entries = position.versions.entries)))) = true := by
        decide +kernel
      rw [Option.any_eq_true] at read
      obtain ⟨stored, found, agreed⟩ := read
      refine ⟨stored, found, fun position left => ?_⟩
      have loaded := (Option.all_eq_true _ _).mp agreed position left
      rw [Option.any_eq_true] at loaded
      obtain ⟨versions, loadedVersions, same⟩ := loaded
      rw [loadedVersions, Dict.ext (of_decide_eq_true same)]
    exact ⟨first, second, last, trivial⟩

end BoundedInMemorySaver

end LangGraphServer
