import Mathlib.Data.List.Sort
import Mathlib.Data.String.Basic
import LangGraphServer.Lib.Joined
import LangGraphServer.Server.Registry
import LangGraphServer.Server.RunRoutes

set_option autoImplicit false

namespace LangGraphServer

open Collections Joined

inductive MultitaskStrategy where
  | reject
  | interrupt
  | rollback
  | enqueue
deriving DecidableEq, Repr

def MultitaskStrategy.text : MultitaskStrategy → String
  | .reject => "reject"
  | .interrupt => "interrupt"
  | .rollback => "rollback"
  | .enqueue => "enqueue"

inductive Durability where
  | sync
  | async
  | exit
deriving DecidableEq, Repr

-- A run request with every option of the protocol. The routes read the options of `RunCreate`.
structure RunBody extends RunCreate where
  interruptBefore : Option (List String)
  interruptAfter : Option (List String)
  webhook : Option String
  multitaskStrategy : Option MultitaskStrategy
  streamSubgraphs : Bool
  streamResumable : Bool
  afterSeconds : Option Nat
  command : Option Metadata
  context : Option Metadata
  checkpoint : Option CheckpointReference
  checkpointDuring : Option Bool
  feedbackKeys : Option (List String)
  durability : Option Durability
  langsmithTracer : Option Metadata

def namesSet (rows : List (String × Bool)) : List String := (rows.filter Prod.snd).map Prod.fst

namespace RunBody

variable (body : RunBody)

def unsupported : List (String × Bool) :=
  [("interrupt_before", body.interruptBefore.isSome),
    ("interrupt_after", body.interruptAfter.isSome),
    ("webhook", body.webhook.isSome),
    ("command", body.command.isSome),
    ("context", body.context.isSome),
    ("checkpoint", body.checkpoint.isSome),
    ("checkpoint_during", body.checkpointDuring.isSome),
    ("feedback_keys", body.feedbackKeys.isSome),
    ("durability", body.durability.isSome),
    ("langsmith_tracer", body.langsmithTracer.isSome),
    ("after_seconds", body.afterSeconds.isSome)]

def strategyOption : List String :=
  match body.multitaskStrategy with
  | none => []
  | some .reject => []
  | some strategy => ["multitask_strategy=" ++ strategy.text]

def requested : List String :=
  namesSet body.unsupported ++
    (if body.streamSubgraphs = true then ["stream_subgraphs"] else []) ++
    (if body.streamResumable = true then ["stream_resumable"] else []) ++
    (if body.onDisconnect = some .continue then ["on_disconnect=continue"] else []) ++
    (if body.onCompletion = some .keep then ["on_completion=keep"] else []) ++
    body.strategyOption

def unsupportedPrefix : String := "unsupported run options: "

def rejectUnsupportedOptions : Except ServerError RunBody :=
  if body.requested = [] then .ok body
  else .error (valueError (unsupportedPrefix ++ ", ".intercalate (body.requested.insertionSort (· ≤ ·))))

inductive AsksFor : String → Prop where
  | field (name : String) (given : (name, true) ∈ body.unsupported) : AsksFor name
  | streamSubgraphs (given : body.streamSubgraphs = true) : AsksFor "stream_subgraphs"
  | streamResumable (given : body.streamResumable = true) : AsksFor "stream_resumable"
  | onDisconnect (given : body.onDisconnect = some .continue) : AsksFor "on_disconnect=continue"
  | onCompletion (given : body.onCompletion = some .keep) : AsksFor "on_completion=keep"
  | multitaskStrategy (strategy : MultitaskStrategy) (given : body.multitaskStrategy = some strategy)
      (other : strategy ≠ .reject) : AsksFor ("multitask_strategy=" ++ strategy.text)

theorem mem_requested (option : String) : option ∈ body.requested ↔ body.AsksFor option := by
  have strategies : option ∈ body.strategyOption ↔
      ∃ strategy, body.multitaskStrategy = some strategy ∧ strategy ≠ .reject ∧ option = "multitask_strategy=" ++
        strategy.text := by
    rw [strategyOption]
    cases body.multitaskStrategy with
    | none => simp
    | some strategy => cases strategy <;> simp
  simp only [requested, namesSet, List.mem_append, List.mem_map, List.mem_filter, List.mem_ite_nil_right,
    List.mem_singleton, strategies, or_assoc]
  constructor
  · rintro (⟨row, ⟨listed, given⟩, rfl⟩ | ⟨given, rfl⟩ | ⟨given, rfl⟩ | ⟨given, rfl⟩ | ⟨given, rfl⟩ | ⟨strategy,
      given, other, rfl⟩)
    · exact .field row.1 (by rw [← given]; exact listed)
    · exact .streamSubgraphs given
    · exact .streamResumable given
    · exact .onDisconnect given
    · exact .onCompletion given
    · exact .multitaskStrategy strategy given other
  · intro asked
    cases asked with
    | field name given => exact Or.inl ⟨_, ⟨given, rfl⟩, rfl⟩
    | streamSubgraphs given => simp [given]
    | streamResumable given => simp [given]
    | onDisconnect given => simp [given]
    | onCompletion given => simp [given]
    | multitaskStrategy strategy given other => simp [given, other]

def optionNames : List String :=
  ["interrupt_before", "interrupt_after", "webhook", "command", "context", "checkpoint", "checkpoint_during",
    "feedback_keys", "durability", "langsmith_tracer", "after_seconds"] ++
    ["stream_subgraphs"] ++ ["stream_resumable"] ++ ["on_disconnect=continue"] ++ ["on_completion=keep"] ++
      body.strategyOption

theorem requested_sublist : body.requested.Sublist body.optionNames := by
  have fields : (namesSet body.unsupported).Sublist (body.unsupported.map Prod.fst) := List.filter_sublist.map Prod.fst
  have optional (name : String) (given : Prop) [Decidable given] : (if given then [name] else []).Sublist [name] := by
    split
    · exact .refl _
    · exact List.nil_sublist _
  exact ((((fields.append (optional _ _)).append (optional _ _)).append (optional _ _)).append (optional _ _)).append
    (.refl _)

theorem option_names_distinct : body.optionNames.Nodup ∧ ∀ name ∈ body.optionNames, ',' ∉ name.toList := by
  rw [optionNames, strategyOption]
  cases body.multitaskStrategy with
  | none => decide
  | some strategy => cases strategy <;> decide

def namedOptions (message : String) : List String :=
  (readBack ',' 1 (message.toList.drop unsupportedPrefix.length)).map String.ofList

theorem named_options_read (names : List String) (some_ : names ≠ []) (clean : ∀ name ∈ names, ',' ∉ name.toList) :
    namedOptions (unsupportedPrefix ++ ", ".intercalate names) = names := by
  have read := read_back_joined ',' [' '] (names.map String.toList)
    (fun nothing => some_ (List.map_eq_nil_iff.mp nothing))
    (fun piece listed => by
      obtain ⟨name, member, rfl⟩ := List.mem_map.mp listed
      exact clean name member) (by decide)
  have text : (unsupportedPrefix ++ ", ".intercalate names).toList.drop unsupportedPrefix.length =
      [',', ' '].intercalate (names.map String.toList) := by
    rw [String.toList_append, ← String.length_toList, List.drop_left, String.toList_intercalate]
    rfl
  rw [namedOptions, text]
  refine (congrArg (List.map String.ofList) read).trans ?_
  simp [Function.comp_def]

theorem requested_named (asked : body.requested ≠ []) :
    namedOptions (unsupportedPrefix ++ ", ".intercalate (body.requested.insertionSort (· ≤ ·))) =
      body.requested.insertionSort (· ≤ ·) := by
  refine named_options_read _ (fun nothing => asked ?_) (fun name listed => ?_)
  · exact List.length_eq_zero_iff.mp ((List.length_insertionSort (· ≤ ·) body.requested).symm.trans
      (by rw [nothing]; rfl))
  · exact body.option_names_distinct.2 name (body.requested_sublist.subset ((List.mem_insertionSort (· ≤ ·)).mp listed))

theorem requested_sorted : (body.requested.insertionSort (· ≤ ·)).Pairwise (· < ·) := by
  have ordered := List.pairwise_insertionSort (· ≤ ·) body.requested
  have distinct := (List.perm_insertionSort (· ≤ ·) body.requested).nodup_iff.mpr
    (body.requested_sublist.nodup body.option_names_distinct.1)
  exact (List.Pairwise.and ordered distinct).imp (fun both => lt_of_le_of_ne both.1 both.2)

def plain (request : RunCreate) (strategy : Option MultitaskStrategy) : RunBody where
  toRunCreate := request
  interruptBefore := none
  interruptAfter := none
  webhook := none
  multitaskStrategy := strategy
  streamSubgraphs := false
  streamResumable := false
  afterSeconds := none
  command := none
  context := none
  checkpoint := none
  checkpointDuring := none
  feedbackKeys := none
  durability := none
  langsmithTracer := none

structure Provided : Prop where
  plainly : body = plain body.toRunCreate body.multitaskStrategy
  strategy : body.multitaskStrategy = none ∨ body.multitaskStrategy = some .reject
  onDisconnect : body.onDisconnect ≠ some .continue
  onCompletion : body.onCompletion ≠ some .keep

theorem strategy_option_nothing : body.strategyOption = [] ↔
    body.multitaskStrategy = none ∨ body.multitaskStrategy = some .reject := by
  rw [strategyOption]
  cases body.multitaskStrategy with
  | none => simp
  | some strategy => cases strategy <;> simp

theorem nothing_requested_iff : body.requested = [] ↔ body.Provided := by
  have fields : namesSet body.unsupported = [] ↔ ∀ row ∈ body.unsupported, row.2 = false := by
    simp [namesSet]
  rw [requested, List.append_eq_nil_iff, List.append_eq_nil_iff, List.append_eq_nil_iff, List.append_eq_nil_iff,
    List.append_eq_nil_iff, fields, strategy_option_nothing]
  obtain ⟨request, interruptBefore, interruptAfter, webhook, multitaskStrategy, streamSubgraphs, streamResumable,
    afterSeconds, command, context, checkpoint, checkpointDuring, feedbackKeys, durability, langsmithTracer⟩ := body
  constructor
  · rintro ⟨⟨⟨⟨⟨unset, subgraphs⟩, resumable⟩, disconnect⟩, completion⟩, strategy⟩
    simp only [unsupported, List.forall_mem_cons, Option.isSome_eq_false_iff, Option.isNone_iff_eq_none] at unset
    obtain ⟨rfl, rfl, rfl, rfl, rfl, rfl, rfl, rfl, rfl, rfl, rfl, _⟩ := unset
    have direct : streamSubgraphs = false ∧ streamResumable = false := by simpa using And.intro subgraphs resumable
    obtain ⟨rfl, rfl⟩ := direct
    exact ⟨rfl, strategy, by simpa using disconnect, by simpa using completion⟩
  · rintro ⟨plainly, strategy, disconnect, completion⟩
    rw [plainly]
    exact ⟨⟨⟨⟨⟨by simp [unsupported, plain], rfl⟩, rfl⟩, if_neg disconnect⟩, if_neg completion⟩, strategy⟩

end RunBody

-- A run body is accepted exactly when the routes read all that it asks for; a rejection says
-- what it asked for beyond that, in order.
theorem run_bodies_checked (body : RunBody) :
    (body.rejectUnsupportedOptions = .ok body ↔ body.Provided) ∧
      ∀ error, body.rejectUnsupportedOptions = .error error → ∃ message, error = valueError message ∧
        (RunBody.namedOptions message).Pairwise (· < ·) ∧ ∀ option, option ∈ RunBody.namedOptions message ↔
          body.AsksFor option := by
  rw [RunBody.rejectUnsupportedOptions]
  by_cases nothing : body.requested = []
  · rw [if_pos nothing]
    exact ⟨⟨fun _ => body.nothing_requested_iff.mp nothing, fun _ => rfl⟩, fun error raised => by cases raised⟩
  · rw [if_neg nothing]
    refine ⟨⟨fun accepted => (by cases accepted), fun provided =>
      absurd (body.nothing_requested_iff.mpr provided) nothing⟩, fun error raised => ?_⟩
    cases raised
    have named := body.requested_named nothing
    refine ⟨_, rfl, ?_, fun option => ?_⟩
    · rw [named]
      exact body.requested_sorted
    · rw [named, List.mem_insertionSort]
      exact body.mem_requested option

def detachedBody : RunBody :=
  { RunBody.plain (runBy "a") (some .enqueue) with webhook := some "hook", onDisconnect := some .continue }

theorem detached_body_rejected : detachedBody.rejectUnsupportedOptions = .error (valueError
    "unsupported run options: multitask_strategy=enqueue, on_disconnect=continue, webhook") := by
  have sorted : detachedBody.requested.insertionSort (· ≤ ·) =
      ["multitask_strategy=enqueue", "on_disconnect=continue", "webhook"] := by decide +kernel
  rw [RunBody.rejectUnsupportedOptions, if_neg (by decide +kernel), sorted]
  rfl

theorem run_bodies_checked_detached : ∃ message, valueError
      "unsupported run options: multitask_strategy=enqueue, on_disconnect=continue, webhook" = valueError message ∧
    (RunBody.namedOptions message).Pairwise (· < ·) ∧ ∀ option, option ∈ RunBody.namedOptions message ↔
      detachedBody.AsksFor option :=
  (run_bodies_checked detachedBody).2 _ detached_body_rejected

def StateUpdate.validateCheckpointTarget (update : StateUpdate) : Except ServerError StateUpdate :=
  if update.checkpointId.isSome = true ∧ update.checkpoint.any
    (fun given => decide (given.checkpointId ≠ update.checkpointId)) = true then
    .error (valueError "checkpoint and checkpoint_id must identify the same state")
  else .ok update

theorem accepted_update_target (update : StateUpdate) (accepted : update.validateCheckpointTarget = .ok update)
    (checkpointId : String) (given : update.checkpointId = some checkpointId) (checkpoint : CheckpointReference)
    (also : update.checkpoint = some checkpoint) : checkpoint.checkpointId = some checkpointId := by
  rw [StateUpdate.validateCheckpointTarget] at accepted
  split at accepted
  · cases accepted
  · rename_i agreeing
    simpa [given, also] using agreeing

-- `buildRunnableConfig` has put the root namespace where the checkpoint puts its own.
theorem root_checkpoint_ns (threadId assistantId checkpointId : String) :
    setCheckpointNs (buildRunnableConfig threadId assistantId none (some checkpointId)) "" =
      buildRunnableConfig threadId assistantId none (some checkpointId) :=
  rfl

-- The two forms of an accepted update's selector ask for one update of the thread.
theorem update_selectors_agree (platform : Platform) (config : ServerConfig) (context : RequestContext)
    (threadId checkpointId : String)
    (update : StateUpdate) (checkpoint : CheckpointReference) (accepted : update.validateCheckpointTarget = .ok update)
    (given : update.checkpointId = some checkpointId) (also : update.checkpoint = some checkpoint)
    (here : checkpoint.threadId = threadId) (root : checkpoint.checkpointNs = "") :
    updateState platform config context threadId update =
      updateState platform config context threadId { update with checkpoint := none } := by
  have target := accepted_update_target update accepted checkpointId given checkpoint also
  have leased : updateUnderLease platform config context threadId update =
      updateUnderLease platform config context threadId { update with checkpoint := none } := by
    simp only [updateUnderLease, also, given, target, here, root, root_checkpoint_ns, Option.any_some,
      Option.any_none, ne_eq, not_true_eq_false, decide_false, Bool.false_eq_true, if_false]
  rw [updateState, updateState, leased]

end LangGraphServer
