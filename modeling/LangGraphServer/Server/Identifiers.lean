import LangGraphServer.Checkpoint.Reference
import LangGraphServer.Server.Execution

set_option autoImplicit false

namespace LangGraphServer

open Collections

def printableError : ServerError := .raised "ValueError" "identifier must contain only printable characters"

def checkReserved (platform : Platform) (configurable : Metadata) (name : String) (allowEmpty : Bool) :
    Except ServerError Unit :=
  match (configurable.get? name).getD .none with
  | .none => .ok ()
  | .str value =>
      if value = "" ∧ allowEmpty = false then .error
        (.raised "ValueError" ("configurable." ++ name ++ " must not be empty"))
      else if 256 < value.length then .error
        (.raised "ValueError" ("configurable." ++ name ++ " exceeds its maximum length"))
      else if value.toList.all platform.isPrintable = false then .error printableError
      else .ok ()
  | _ => .error (.raised "ValueError" ("configurable." ++ name ++ " must be a string"))

def validateCheckpointConfig (platform : Platform) (config : Config) : Except ServerError Unit :=
  match config.configurable with
  | none => .ok ()
  | some configurable => do
      checkReserved platform configurable "thread_id" false
      checkReserved platform configurable "checkpoint_id" false
      checkReserved platform configurable "checkpoint_ns" true
      match (configurable.get? "checkpoint_map").getD .none with
      | .none => .ok ()
      | .dict _ => .ok ()
      | _ => .error (.raised "ValueError" "configurable.checkpoint_map must be an object")

structure RunCreate.Accepted (platform : Platform) (request : RunCreate) : Prop where
  assistant : validIdentifier platform request.assistantId false = true
  config : ∀ config, request.config = some config → validateCheckpointConfig platform config = .ok ()
  checkpoint : ∀ checkpointId, request.checkpointId = some checkpointId →
    validIdentifier platform checkpointId false = true

-- A reserved key that is absent, null or a valid identifier.
def ReservedFits (platform : Platform) (configurable : Metadata) (name : String) (allowEmpty : Bool) : Prop :=
  ∀ value, configurable.get? name = some value → value = .none ∨
    ∃ text, value = .str text ∧ validIdentifier platform text allowEmpty = true

theorem valid_identifier_iff (platform : Platform) (text : String) (allowEmpty : Bool) :
    validIdentifier platform text allowEmpty = true ↔
      ¬ (text = "" ∧ allowEmpty = false) ∧ text.length ≤ 256 ∧ text.toList.all platform.isPrintable = true := by
  rw [validIdentifier, Bool.and_eq_true, Bool.and_eq_true, Bool.or_eq_true, decide_eq_true_iff, decide_eq_true_iff,
    not_and_or, Bool.not_eq_false]
  exact and_congr_left (fun _ => or_comm)

theorem check_reserved_fits (platform : Platform) (configurable : Metadata) (name : String) (allowEmpty : Bool)
    (passed : checkReserved platform configurable name allowEmpty = .ok ()) :
    ReservedFits platform configurable name allowEmpty := by
  intro value found
  rw [checkReserved, found, Option.getD_some] at passed
  cases value with
  | none => exact Or.inl rfl
  | str text =>
      refine Or.inr ⟨text, rfl, (valid_identifier_iff platform text allowEmpty).mpr ?_⟩
      simp only at passed
      split at passed
      · cases passed
      · rename_i filled
        split at passed
        · cases passed
        · rename_i short
          split at passed
          · cases passed
          · rename_i printable
            exact ⟨filled, Nat.le_of_not_lt short, (Bool.not_eq_false _).mp printable⟩
  | _ => cases passed

theorem config_reserved_fits (platform : Platform) (config : Config) (configurable : Metadata)
    (given : config.configurable = some configurable) (passed : validateCheckpointConfig platform config = .ok ()) :
    ReservedFits platform configurable "checkpoint_id" false ∧ ReservedFits platform configurable
      "checkpoint_ns" true := by
  rw [validateCheckpointConfig, given] at passed
  simp only [bind, Except.bind] at passed
  cases threadChecked : checkReserved platform configurable "thread_id" false with
  | error error =>
      rw [threadChecked] at passed
      cases passed
  | ok _ =>
      cases idChecked : checkReserved platform configurable "checkpoint_id" false with
      | error error =>
          rw [threadChecked, idChecked] at passed
          cases passed
      | ok _ =>
          cases nsChecked : checkReserved platform configurable "checkpoint_ns" true with
          | error error =>
              rw [threadChecked, idChecked, nsChecked] at passed
              cases passed
          | ok _ =>
              exact ⟨check_reserved_fits platform configurable "checkpoint_id" false idChecked,
                check_reserved_fits platform configurable "checkpoint_ns" true nsChecked⟩

def givenConfigurable (requestConfig : Option Config) : Metadata := (requestConfig.bind Config.configurable).getD .empty

-- What the reserved keys are in the config of a run.
structure ReservedKeys (entries : List (String × PyObj)) (threadId : String) (given : Metadata)
    (checkpointId : Option String) :
    Prop where
  thread : entries.lookup "thread_id" = some (.str threadId)
  checkpointNs : entries.lookup "checkpoint_ns" = some ((given.get? "checkpoint_ns").getD (.str ""))
  checkpointId : entries.lookup "checkpoint_id" = (checkpointId.map PyObj.str).or (given.get? "checkpoint_id")

theorem spaced_keys (given : Metadata) (threadId : String) :
    ReservedKeys (if "checkpoint_ns" ∈ (given.set "thread_id" (.str threadId)).keys
      then given.set "thread_id" (.str threadId)
      else (given.set "thread_id" (.str threadId)).set "checkpoint_ns" (.str "")).entries threadId given none := by
  have routed : ∀ key, (given.set "thread_id" (.str threadId)).entries.lookup key =
      if key = "thread_id" then some (.str threadId) else given.get? key :=
    fun key => Dict.get_set given "thread_id" key (.str threadId)
  split
  · rename_i present
    rw [Dict.mem_keys_set] at present
    obtain ⟨value, found⟩ := (Dict.mem_keys _ _).mp (present.resolve_left (by decide))
    refine ⟨?_, ?_, ?_⟩
    · rw [routed, if_pos rfl]
    · rw [routed, if_neg (by decide), found, Option.getD_some]
    · rw [routed, if_neg (by decide), Option.map_none, Option.none_or]
  · rename_i absent
    rw [Dict.mem_keys_set, not_or] at absent
    have added : ∀ key, ((given.set "thread_id" (.str threadId)).set "checkpoint_ns" (.str "")).entries.lookup key =
        if key = "checkpoint_ns" then some (.str "") else (given.set "thread_id" (.str threadId)).get? key :=
      fun key => Dict.get_set (given.set "thread_id" (.str threadId)) "checkpoint_ns" key (.str "")
    refine ⟨?_, ?_, ?_⟩
    · rw [added, if_neg (by decide), Dict.get_set, if_pos rfl]
    · rw [added, if_pos rfl, (Dict.get_none _ _).mpr absent.2, Option.getD_none]
    · rw [added, if_neg (by decide), Dict.get_set, if_neg (by decide), Option.map_none, Option.none_or]

theorem build_runnable_config_keys (threadId assistantId : String) (requestConfig : Option Config)
    (checkpointId : Option String) :
    ∃ entries, (buildRunnableConfig threadId assistantId requestConfig checkpointId).configurable = .dict entries ∧
      ReservedKeys entries threadId (givenConfigurable requestConfig) checkpointId := by
  have spaced := spaced_keys (givenConfigurable requestConfig) threadId
  cases checkpointId with
  | none => exact ⟨_, rfl, spaced⟩
  | some checkpointId =>
      refine ⟨_, rfl, ?_⟩
      have chosen : ∀ (dict : Metadata) key, (dict.set "checkpoint_id" (.str checkpointId)).entries.lookup key =
          if key = "checkpoint_id" then some (.str checkpointId) else dict.entries.lookup key :=
        fun dict key => Dict.get_set dict "checkpoint_id" key (.str checkpointId)
      refine ⟨?_, ?_, ?_⟩
      · rw [chosen, if_neg (by decide)]
        exact spaced.thread
      · rw [chosen, if_neg (by decide)]
        exact spaced.checkpointNs
      · rw [chosen, if_pos rfl, Option.map_some, Option.some_or]

section Boundary

variable {Value Version : Type} (saver : BoundedInMemorySaver Value Version)

theorem saver_accepts_identifier (platform : Platform) (sameText : saver.isPrintable = platform.isPrintable)
    (text name : String) (allowEmpty : Bool) (valid : validIdentifier platform text allowEmpty = true) :
    saver.validatedIdentifier (.str text) name 256 allowEmpty = .ok text := by
  obtain ⟨filled, short, printable⟩ := (valid_identifier_iff platform text allowEmpty).mp valid
  rw [← sameText] at printable
  simp only [BoundedInMemorySaver.validatedIdentifier]
  rw [if_neg filled, if_neg (Nat.not_lt.mpr short), if_neg (fun unprintable => by simp [printable] at unprintable)]

theorem default_identifier_lengths
    (defaults : InMemoryCheckpointConfig.postInit {} = .ok saver.config) :
    saver.config.maxThreadIdLength = 256 ∧ saver.config.maxCheckpointNamespaceLength = 256 := by
  have lengths : (InMemoryCheckpointConfig.postInit {}).map (fun config =>
      (config.maxThreadIdLength, config.maxCheckpointNamespaceLength)) = .ok (256, 256) := by decide +kernel
  rw [defaults, Except.map, Except.ok.injEq, Prod.mk.injEq] at lengths
  exact lengths

-- The saver takes the location of an accepted run exactly when its configurable values give
-- no null namespace: `setdefault` lets that one stand.
theorem accepted_location_iff (platform : Platform) (sameText : saver.isPrintable = platform.isPrintable)
    (defaults : InMemoryCheckpointConfig.postInit {} = .ok saver.config) (threadId : String)
    (validThread : validIdentifier platform threadId false = true) (request : RunCreate)
    (accepted : request.Accepted platform) :
    (∃ checkpointNs,
      saver.validatedLocation (buildRunnableConfig threadId request.assistantId request.config request.checkpointId) =
        .ok (threadId, checkpointNs) ∧
      RunnableConfig.entry? (buildRunnableConfig threadId request.assistantId request.config request.checkpointId)
        "thread_id" = some (.str threadId) ∧
      RunnableConfig.entry? (buildRunnableConfig threadId request.assistantId request.config request.checkpointId)
        "checkpoint_ns" = some (.str checkpointNs)) ↔
    (givenConfigurable request.config).get? "checkpoint_ns" ≠ some .none := by
  obtain ⟨threadLength, namespaceLength⟩ := default_identifier_lengths saver defaults
  obtain ⟨entries, built, keys⟩ := build_runnable_config_keys threadId request.assistantId request.config
    request.checkpointId
  have fits : ReservedFits platform (givenConfigurable request.config) "checkpoint_id" false ∧
      ReservedFits platform (givenConfigurable request.config) "checkpoint_ns" true := by
    rw [givenConfigurable]
    cases given : request.config with
    | none => exact ⟨fun value found => (by cases found), fun value found => (by cases found)⟩
    | some config =>
        cases filled : config.configurable with
        | none =>
            rw [Option.bind_some, filled]
            exact ⟨fun value found => (by cases found), fun value found => (by cases found)⟩
        | some configurable =>
            rw [Option.bind_some, filled]
            exact config_reserved_fits platform config configurable filled (accepted.config config given)
  have threadPasses := saver_accepts_identifier saver platform sameText threadId "thread_id" false validThread
  -- whatever the id is, the saver takes it
  have idPasses : (((entries.lookup "checkpoint_id").getD .none).isNone = false → ∃ text,
      saver.validatedIdentifier ((entries.lookup "checkpoint_id").getD .none) "checkpoint_id" 256 false =
        .ok text) := by
    intro present
    rw [keys.checkpointId] at present ⊢
    cases chosen : request.checkpointId with
    | some checkpointId =>
        exact ⟨checkpointId, saver_accepts_identifier saver platform sameText checkpointId "checkpoint_id" false
          (accepted.checkpoint checkpointId chosen)⟩
    | none =>
        rw [chosen, Option.map_none, Option.none_or] at present
        rw [Option.map_none, Option.none_or]
        cases found : (givenConfigurable request.config).get? "checkpoint_id" with
        | none =>
            rw [found] at present
            cases present
        | some value =>
            rw [found, Option.getD_some] at present
            rw [Option.getD_some]
            rcases fits.1 value found with rfl | ⟨text, rfl, valid⟩
            · cases present
            · exact ⟨text, saver_accepts_identifier saver platform sameText text "checkpoint_id" false valid⟩
  simp only [BoundedInMemorySaver.validatedLocation, RunnableConfig.entry?, built, PyObj.entry?, keys.thread,
    keys.checkpointNs, Option.getD_some, threadLength, namespaceLength, threadPasses, bind, Except.bind]
  constructor
  · rintro ⟨checkpointNs, located, _, spaced⟩ nulled
    rw [nulled, Option.getD_some] at spaced
    cases spaced
  · intro named
    obtain ⟨checkpointNs, text, spaced⟩ :
      ∃ checkpointNs, ((givenConfigurable request.config).get? "checkpoint_ns").getD (.str "") =
        .str checkpointNs ∧ saver.validatedIdentifier (.str checkpointNs) "checkpoint_ns" 256 true =
          .ok checkpointNs := by
      cases found : (givenConfigurable request.config).get? "checkpoint_ns" with
      | none =>
          exact ⟨"", rfl, saver_accepts_identifier saver platform sameText "" "checkpoint_ns" true rfl⟩
      | some value =>
          rcases fits.2 value found with rfl | ⟨text, rfl, valid⟩
          · exact absurd found named
          · exact ⟨text, rfl, saver_accepts_identifier saver platform sameText text "checkpoint_ns" true valid⟩
    refine ⟨checkpointNs, ?_, trivial, by rw [text]⟩
    rw [text, spaced]
    simp only
    by_cases present : ((entries.lookup "checkpoint_id").getD .none).isNone = false
    · obtain ⟨checkpointId, passes⟩ := idPasses present
      rw [if_pos present, passes]
      rfl
    · rw [if_neg present]
      rfl

end Boundary

def defaultCheckpointConfig : InMemoryCheckpointConfig where
  idleTtlSeconds := 14400
  maxThreads := 1000
  maxNamespacesPerThread := 16
  maxCheckpointsPerThread := 1000
  maxCheckpointBytes := 1048576
  maxPendingWriteBytes := 524288
  maxTotalBytes := 67108864
  maxThreadIdLength := 256
  maxCheckpointNamespaceLength := 256
  ttlPositive := by decide
  threadsPositive := by decide
  namespacesPositive := by decide
  checkpointsPositive := by decide
  checkpointBytesPositive := by decide
  pendingWriteBytesPositive := by decide
  totalBytesPositive := by decide
  threadIdLengthPositive := by decide
  namespaceLengthPositive := by decide
  checkpointWithinTotal := by decide
  pendingWriteWithinTotal := by decide

theorem default_checkpoint_config : InMemoryCheckpointConfig.postInit {} = .ok defaultCheckpointConfig := by
  have ttl : positiveSeconds (.int 14400) = .ok ⟨14400, by decide⟩ := by
    have finite : ¬ tooLargeForFloat ≤ Int.natAbs 14400 := by decide +kernel
    rw [positiveSeconds]
    simp only [finite, if_false, show (0 : Rat) < ((14400 : Int) : Rat) from by decide, dite_true]
    rfl
  simp only [InMemoryCheckpointConfig.postInit, bind, Except.bind, ttl]
  rfl

def defaultSaver : BoundedInMemorySaver Bytes Nat where
  inherited := smallSaver.inherited
  config := defaultCheckpointConfig
  isPrintable := smallPlatform.isPrintable

def configuredRequest (configurable : Metadata) : RunCreate where
  assistantId := "a"
  input := none
  metadata := none
  config := some ⟨none, none, some configurable⟩
  checkpointId := none
  streamMode := none
  onDisconnect := none
  onCompletion := none
  ifNotExists := none

theorem configured_request_accepted (configurable : Metadata)
    (passed : validateCheckpointConfig smallPlatform ⟨none, none, some configurable⟩ = .ok ()) :
    (configuredRequest configurable).Accepted smallPlatform := by
  have named : validIdentifier smallPlatform "a" false = true := by decide
  refine ⟨named, fun config given => ?_, fun checkpointId given => (by cases given)⟩
  cases given
  exact passed

theorem accepted_location_iff_named :
    (∃ checkpointNs,
      defaultSaver.validatedLocation (buildRunnableConfig "t" "a"
        (configuredRequest (Dict.empty.set "checkpoint_ns" (.str "n"))).config none) = .ok ("t", checkpointNs) ∧
      RunnableConfig.entry? (buildRunnableConfig "t" "a"
        (configuredRequest (Dict.empty.set "checkpoint_ns" (.str "n"))).config none) "thread_id" =
        some (.str "t") ∧
      RunnableConfig.entry? (buildRunnableConfig "t" "a"
        (configuredRequest (Dict.empty.set "checkpoint_ns" (.str "n"))).config none) "checkpoint_ns" =
        some (.str checkpointNs)) ↔
    (givenConfigurable (configuredRequest (Dict.empty.set "checkpoint_ns" (.str "n"))).config).get?
      "checkpoint_ns" ≠ some .none :=
  accepted_location_iff defaultSaver smallPlatform rfl default_checkpoint_config "t" rfl
    (configuredRequest (Dict.empty.set "checkpoint_ns" (.str "n"))) (configured_request_accepted _ rfl)

-- The models accept a null namespace, and the saver does not.
theorem null_namespace_rejected :
    (configuredRequest (Dict.empty.set "checkpoint_ns" .none)).Accepted smallPlatform ∧
      InMemoryCheckpointConfig.postInit {} = .ok defaultSaver.config ∧
      defaultSaver.validatedLocation (buildRunnableConfig "t" "a"
        (configuredRequest (Dict.empty.set "checkpoint_ns" .none)).config none) =
          .error (.valueError "checkpoint_ns must be a string") :=
  ⟨configured_request_accepted _ rfl, default_checkpoint_config, rfl⟩

end LangGraphServer
