import Mathlib.Algebra.Order.Ring.Cast
import LangGraphServer.Server.Identifiers

set_option autoImplicit false

namespace LangGraphServer

open Collections

def valueError (message : String) : ServerError := .raised "ValueError" message

-- What a graph factory returns, as `getattr` and `callable` see it.
structure GraphObject where
  ainvoke : Option (Metadata → RunnableConfig → GraphCall)
  astream : Option (Metadata → RunnableConfig → List String → GraphStream)
  aupdateState : Option (RunnableConfig → PyObj → Option String → GraphCall)

-- The keyword arguments of `AssistantConfig` that the server reads.
structure AssistantArguments where
  assistantId : String
  graphId : String
  name : String
  checkpointedGraphFactory : Option SaverKind → Except ServerError GraphObject
  description : String
  metadata : Metadata
  createdAt : Timestamp
  inputTransformer : Option (Metadata → Except ServerError Metadata)
  outputTransformer : Option (Metadata → Except ServerError PyObj)
  defaultStreamMode : Option (List String)

-- Only `__post_init__` builds an assistant, so its identifiers are as they were checked.
structure RegisteredAssistant (platform : Platform) extends AssistantArguments where
  assistantValid : validIdentifier platform assistantId false = true
  graphValid : validIdentifier platform graphId false = true

theorem valid_of_checks (platform : Platform) (value : String) (filled : ¬ value = "") (short : ¬ 256 < value.length)
    (printable : ¬ value.toList.all platform.isPrintable = false) : validIdentifier platform value false = true :=
  (valid_identifier_iff platform value false).mpr
    ⟨fun blank => filled blank.1, Nat.le_of_not_lt short, (Bool.not_eq_false _).mp printable⟩

-- One round of the loop over the identifiers of an assistant.
def checkedField (platform : Platform) (fieldName value : String) :
    Except ServerError { text : String // validIdentifier platform text false = true } :=
  if filled : value = "" then .error (valueError (fieldName ++ " must not be empty"))
  else if short : 256 < value.length then .error (valueError (fieldName ++ " exceeds its maximum length"))
  else if printable : value.toList.all platform.isPrintable = false then
    .error (valueError (fieldName ++ " must contain only printable characters"))
  else .ok ⟨value, valid_of_checks platform value filled short printable⟩

def RegisteredAssistant.postInit (platform : Platform) (args : AssistantArguments) :
    Except ServerError (RegisteredAssistant platform) := do
  let assistantId ← checkedField platform "assistant_id" args.assistantId
  let graphId ← checkedField platform "graph_id" args.graphId
  return { args with
    assistantId := assistantId.val
    graphId := graphId.val
    assistantValid := assistantId.property
    graphValid := graphId.property }

def RegisteredAssistant.createGraph {platform : Platform} (assistant : RegisteredAssistant platform)
    (checkpointer : Option SaverKind) : Except ServerError GraphRuntime := do
  let graph ← assistant.checkpointedGraphFactory checkpointer
  match graph.ainvoke with
  | none => .error (.raised "TypeError" "checkpointed_graph_factory must return an async graph")
  | some ainvoke =>
      match graph.astream with
      | none => .error (.raised "TypeError" "checkpointed_graph_factory must return a streaming graph")
      | some astream => .ok ⟨ainvoke, astream, graph.aupdateState⟩

-- The keyword arguments of `LangGraphServerConfig`.
structure ServerArguments (platform : Platform) where
  assistants : Dict String (RegisteredAssistant platform)
  checkpointer : Option SaverKind
  maxConcurrentRuns : PyObj
  runTimeoutSeconds : PyObj

def concurrentRuns (value : PyObj) : Except ServerError { runs : Nat // 0 < runs } :=
  let rejected := valueError "max_concurrent_runs must be an integer greater than zero"
  match value with
  | .int number => if positive : 0 < number.toNat then .ok ⟨number.toNat, positive⟩ else .error rejected
  | _ => .error rejected

def timeoutSeconds (value : PyObj) : Except ServerError (Option Rat) :=
  let rejected := valueError "run_timeout_seconds must be a finite number above zero"
  match value with
  | .none => .ok none
  | .int number =>
      if tooLargeForFloat ≤ number.natAbs then .error (.raised "OverflowError" "int too large to convert to float")
      else if 0 < (number : Rat) then .ok (some number)
      else .error rejected
  | .float (some number) => if 0 < number then .ok (some number) else .error rejected
  | _ => .error rejected

section Loops

variable {platform : Platform} (checkpointer : Option SaverKind)

def checkRegistry : List (String × RegisteredAssistant platform) → Except ServerError Unit
  | [] => .ok ()
  | (assistantId, assistant) :: rest =>
      if assistantId ≠ assistant.assistantId then
        .error (valueError "assistant registry key must match AssistantConfig.assistant_id")
      else checkRegistry rest

def createGraphs : List (String × RegisteredAssistant platform) → Except ServerError (List (String × GraphRuntime))
  | [] => .ok []
  | (assistantId, assistant) :: rest => do
      let graph ← assistant.createGraph checkpointer
      let graphs ← createGraphs rest
      return (assistantId, graph) :: graphs

end Loops

-- The registry and the graphs are two dictionaries of the configuration.
structure LangGraphServerConfig (platform : Platform) where
  assistants : Dict String (RegisteredAssistant platform)
  graphs : Dict String GraphRuntime
  checkpointer : Option SaverKind
  runTimeoutSeconds : Option Rat
  runCoordinator : RunCoordinator

namespace LangGraphServerConfig

variable {platform : Platform}

def postInit (args : ServerArguments platform) : Except ServerError (LangGraphServerConfig platform) := do
  let runs ← concurrentRuns args.maxConcurrentRuns
  let timeout ← timeoutSeconds args.runTimeoutSeconds
  checkRegistry args.assistants.entries
  let graphs ← createGraphs args.checkpointer args.assistants.entries
  return ⟨args.assistants, Dict.empty.setAll graphs, args.checkpointer, timeout, RunCoordinator.fresh runs⟩

def getAssistant (config : LangGraphServerConfig platform) (assistantId : String) :
    Option (RegisteredAssistant platform) :=
  config.assistants.get? assistantId

def getGraphRuntime (config : LangGraphServerConfig platform) (assistantId : String) :
    Except ServerError GraphRuntime :=
  match config.graphs.get? assistantId with
  | some graph => .ok graph
  | none => .error (.lookup ("Assistant " ++ assistantId ++ " is not configured"))

end LangGraphServerConfig

-- What the routes run on keeps an assistant and its graph together.
def RegisteredAssistant.serving {platform : Platform} (assistant : RegisteredAssistant platform)
    (graph : GraphRuntime) :
    AssistantConfig where
  assistantId := assistant.assistantId
  inputTransformer := assistant.inputTransformer
  outputTransformer := assistant.outputTransformer
  defaultStreamMode := assistant.defaultStreamMode
  graph := graph
  named blank := ((valid_identifier_iff platform _ false).mp assistant.assistantValid).1 ⟨blank, rfl⟩

namespace LangGraphServerConfig

variable {platform : Platform} (config : LangGraphServerConfig platform)

def servedRows : List (String × AssistantConfig) :=
  config.assistants.entries.filterMap
    (fun row => (config.graphs.get? row.1).map (fun graph => (row.1, row.2.serving graph)))

def servedAssistants : Dict String AssistantConfig := Dict.empty.setAll config.servedRows

theorem mem_served (assistantId : String) (assistant : AssistantConfig) : (assistantId, assistant) ∈ config.servedRows ↔
    ∃ known graph, config.getAssistant assistantId = some known ∧ config.graphs.get? assistantId = some graph ∧
      known.serving graph = assistant := by
  simp only [servedRows, List.mem_filterMap, Option.map_eq_some_iff, Prod.exists, Prod.mk.injEq, getAssistant]
  constructor
  · rintro ⟨name, known, listed, graph, found, rfl, rfl⟩
    exact ⟨known, graph, (Dict.mem_entries _ _ _).mp listed, found, rfl⟩
  · rintro ⟨known, graph, registered, found, rfl⟩
    exact ⟨assistantId, known, (Dict.mem_entries _ _ _).mpr registered, graph, found, rfl, rfl⟩

theorem served_names : (config.servedRows.map Prod.fst).Nodup := by
  have sublist : (config.servedRows.map Prod.fst).Sublist (config.assistants.entries.map Prod.fst) := by
    rw [servedRows]
    induction config.assistants.entries with
    | nil => exact .slnil
    | cons row rest ih =>
        rw [List.filterMap_cons, List.map_cons]
        cases config.graphs.get? row.1 with
        | none => exact ih.cons row.1
        | some graph => exact ih.cons_cons row.1
  exact sublist.nodup config.assistants.unique

theorem served_iff (assistantId : String) (assistant : AssistantConfig) :
    config.servedAssistants.get? assistantId = some assistant ↔ (assistantId, assistant) ∈ config.servedRows := by
  constructor
  · intro found
    have listed := (Dict.mem_keys _ _).mpr ⟨assistant, found⟩
    rw [servedAssistants, Dict.mem_keys_set_all] at listed
    obtain ⟨⟨name, other⟩, member, rfl⟩ := List.mem_map.mp (listed.resolve_right (fun nothing => by cases nothing))
    have stored := Dict.get_set_all config.servedRows .empty name other config.served_names member
    rw [servedAssistants, stored] at found
    cases found
    exact member
  · exact Dict.get_set_all config.servedRows .empty assistantId assistant config.served_names

end LangGraphServerConfig

section Made

variable {platform : Platform} (args : ServerArguments platform)

-- The timeouts that a server can have: none, or a finite positive number. An integer is
-- finite when a double holds it.
inductive Timeout : PyObj → Option Rat → Prop where
  | never : Timeout .none none
  | int (number : Int) : 0 < number → number < 2 ^ 1024 - 2 ^ 970 → Timeout (.int number) (some number)
  | float (seconds : Rat) : 0 < seconds → Timeout (.float (some seconds)) (some seconds)

-- The assistant's factory gives an object with both methods, and the graph is that object.
def MakesGraph (assistant : RegisteredAssistant platform) (checkpointer : Option SaverKind)
    (graph : GraphRuntime) : Prop :=
  ∃ object, assistant.checkpointedGraphFactory checkpointer = .ok object ∧ object.ainvoke = some graph.ainvoke ∧
    object.astream = some graph.astream ∧ object.aupdateState = graph.aupdateState

-- What `__post_init__` asks of its arguments.
structure Configurable : Prop where
  runs : ∃ number : Int, args.maxConcurrentRuns = .int number ∧ 0 < number
  timeout : ∃ seconds, Timeout args.runTimeoutSeconds seconds
  keyed : ∀ assistantId assistant, args.assistants.get? assistantId = some assistant →
    assistant.assistantId = assistantId
  graphs : ∀ assistantId assistant, args.assistants.get? assistantId = some assistant →
    ∃ graph, MakesGraph assistant args.checkpointer graph

-- The server that the routes are modelled with has the assistants, the graphs and the limits
-- of the configuration, and no graph is missing.
structure Represents (config : LangGraphServerConfig platform) (served : ServerConfig) : Prop where
  checkpointer : served.checkpointer = args.checkpointer
  timeout : Timeout args.runTimeoutSeconds served.runTimeoutSeconds
  runs : args.maxConcurrentRuns = .int config.runCoordinator.maxConcurrentRuns
  idle : config.runCoordinator.activeRuns = 0
  registered : ∀ assistantId assistant, config.getAssistant assistantId = some assistant ↔
    args.assistants.get? assistantId = some assistant
  assistants : ∀ assistantId assistant, served.getAssistant assistantId = some assistant ↔
    ∃ known, config.getAssistant assistantId = some known ∧
      MakesGraph known args.checkpointer assistant.graph ∧ assistant = known.serving assistant.graph
  graphs : ∀ assistantId, served.getGraphRuntime assistantId = config.getGraphRuntime assistantId
  made : ∀ assistantId known, args.assistants.get? assistantId = some known →
    ∃ graph, MakesGraph known args.checkpointer graph ∧ config.getGraphRuntime assistantId = .ok graph
  missing : ∀ assistantId, args.assistants.get? assistantId = none →
    config.getGraphRuntime assistantId = .error (.lookup ("Assistant " ++ assistantId ++ " is not configured"))

theorem timeout_seconds_iff (value : PyObj) (seconds : Option Rat) :
    timeoutSeconds value = .ok seconds ↔ Timeout value seconds := by
  constructor
  · intro accepted
    cases value with
    | none =>
        cases accepted
        exact .never
    | int number =>
        rw [timeoutSeconds] at accepted
        split at accepted
        · cases accepted
        · rename_i finite
          split at accepted
          · rename_i positive
            cases accepted
            have above : 0 < number := Int.cast_pos.mp positive
            rw [tooLargeForFloat] at finite
            exact .int number above (by omega)
          · cases accepted
    | float stored =>
        cases stored with
        | none => cases accepted
        | some number =>
            rw [timeoutSeconds] at accepted
            split at accepted
            · rename_i positive
              cases accepted
              exact .float number positive
            · cases accepted
    | _ => cases accepted
  · intro timeout
    cases timeout with
    | never => rfl
    | int number positive finite =>
        have held : ¬ tooLargeForFloat ≤ number.natAbs := by
          rw [tooLargeForFloat]
          omega
        rw [timeoutSeconds, if_neg held, if_pos (Int.cast_pos.mpr positive)]
    | float stored positive => rw [timeoutSeconds, if_pos positive]

theorem create_graph_iff (assistant : RegisteredAssistant platform) (checkpointer : Option SaverKind)
    (graph : GraphRuntime) :
    assistant.createGraph checkpointer = .ok graph ↔ MakesGraph assistant checkpointer graph := by
  rw [RegisteredAssistant.createGraph, MakesGraph]
  cases assistant.checkpointedGraphFactory checkpointer with
  | error error =>
      refine ⟨fun made => (by cases made), ?_⟩
      rintro ⟨object, made, _⟩
      cases made
  | ok object =>
      obtain ⟨ainvoke, astream, aupdateState⟩ := object
      obtain ⟨invoke, stream, update⟩ := graph
      cases ainvoke <;> cases astream <;> simp [bind, Except.bind]

theorem concurrent_runs_iff (value : PyObj) (runs : { runs : Nat // 0 < runs }) :
    concurrentRuns value = .ok runs ↔ value = .int runs.val := by
  constructor
  · intro accepted
    cases value with
    | int number =>
        rw [concurrentRuns] at accepted
        split at accepted
        · rename_i positive
          cases accepted
          have same : number = number.toNat := (Int.toNat_of_nonneg (by omega)).symm
          exact congrArg PyObj.int same
        · cases accepted
    | _ => cases accepted
  · rintro rfl
    have positive : 0 < (runs.val : Int).toNat := runs.property
    rw [concurrentRuns, dif_pos positive]
    rfl

-- The coordinator checks the number once more.
theorem checked_runs_coordinate (number : Int) (runs : { runs : Nat // 0 < runs })
    (checked : concurrentRuns (.int number) = .ok runs) :
    RunCoordinator.new number = .ok (RunCoordinator.fresh runs) := by
  cases (concurrent_runs_iff (.int number) runs).mp checked
  exact dif_pos runs.property

theorem check_registry_iff (rows : List (String × RegisteredAssistant platform)) :
    checkRegistry rows = .ok () ↔ ∀ row ∈ rows, row.2.assistantId = row.1 := by
  induction rows with
  | nil => simp [checkRegistry]
  | cons row rest ih =>
      obtain ⟨assistantId, assistant⟩ := row
      rw [checkRegistry]
      by_cases same : assistantId = assistant.assistantId
      · simp [same, ih]
      · simp [same, Ne.symm same]

theorem create_graphs_names (checkpointer : Option SaverKind) (rows : List (String × RegisteredAssistant platform))
    (graphs : List (String × GraphRuntime)) (created : createGraphs checkpointer rows = .ok graphs) :
    graphs.map Prod.fst = rows.map Prod.fst := by
  induction rows generalizing graphs with
  | nil =>
      cases created
      rfl
  | cons row rest ih =>
      rw [createGraphs] at created
      cases first : row.2.createGraph checkpointer with
      | error error => simp [first, bind, Except.bind] at created
      | ok graph =>
          cases others : createGraphs checkpointer rest with
          | error error => simp [first, others, bind, Except.bind] at created
          | ok later =>
              simp only [first, others, bind, Except.bind] at created
              cases created
              simp [ih later others]

theorem create_graphs_mem (checkpointer : Option SaverKind) (rows : List (String × RegisteredAssistant platform))
    (graphs : List (String × GraphRuntime)) (created : createGraphs checkpointer rows = .ok graphs)
    (row : String × RegisteredAssistant platform) (listed : row ∈ rows) :
    ∃ graph, (row.1, graph) ∈ graphs ∧ row.2.createGraph checkpointer = .ok graph := by
  induction rows generalizing graphs with
  | nil => cases listed
  | cons head rest ih =>
      rw [createGraphs] at created
      cases first : head.2.createGraph checkpointer with
      | error error => simp [first, bind, Except.bind] at created
      | ok graph =>
          cases others : createGraphs checkpointer rest with
          | error error => simp [first, others, bind, Except.bind] at created
          | ok later =>
              simp only [first, others, bind, Except.bind] at created
              cases created
              rcases List.mem_cons.mp listed with rfl | earlier
              · exact ⟨graph, List.mem_cons_self, first⟩
              · obtain ⟨made, member, ran⟩ := ih later others earlier
                exact ⟨made, List.mem_cons_of_mem _ member, ran⟩

theorem create_graphs_succeeds (checkpointer : Option SaverKind) (rows : List (String × RegisteredAssistant platform))
    (all : ∀ row ∈ rows, ∃ graph, row.2.createGraph checkpointer = .ok graph) :
    ∃ graphs, createGraphs checkpointer rows = .ok graphs := by
  induction rows with
  | nil => exact ⟨[], rfl⟩
  | cons row rest ih =>
      obtain ⟨here, others⟩ := List.forall_mem_cons.mp all
      obtain ⟨graph, first⟩ := here
      obtain ⟨later, created⟩ := ih others
      refine ⟨(row.1, graph) :: later, ?_⟩
      rw [createGraphs, first, created]
      rfl

-- The configuration as the routes are modelled with it.
def LangGraphServerConfig.served (config : LangGraphServerConfig platform)
    (keyed : ∀ assistantId assistant, config.getAssistant assistantId = some assistant →
      assistant.assistantId = assistantId) :
    ServerConfig where
  assistants := config.servedAssistants
  checkpointer := config.checkpointer
  runTimeoutSeconds := config.runTimeoutSeconds
  registered assistantId assistant found := by
    obtain ⟨known, _, registered, _, rfl⟩ := (config.mem_served assistantId assistant).mp
      ((config.served_iff assistantId assistant).mp found)
    exact keyed assistantId known registered

-- The stages of `__post_init__` that went well.
structure PostInit (config : LangGraphServerConfig platform) : Prop where
  runs : ∃ runs, concurrentRuns args.maxConcurrentRuns = .ok runs ∧ config.runCoordinator = RunCoordinator.fresh runs
  timeout : timeoutSeconds args.runTimeoutSeconds = .ok config.runTimeoutSeconds
  registry : checkRegistry args.assistants.entries = .ok ()
  assistants : config.assistants = args.assistants
  checkpointer : config.checkpointer = args.checkpointer
  graphs : ∃ graphs, createGraphs args.checkpointer args.assistants.entries = .ok graphs ∧
    config.graphs = Dict.empty.setAll graphs

theorem post_init_stages (config : LangGraphServerConfig platform) :
    LangGraphServerConfig.postInit args = .ok config ↔ PostInit args config := by
  constructor
  · intro made
    rw [LangGraphServerConfig.postInit] at made
    cases runs : concurrentRuns args.maxConcurrentRuns with
    | error error => simp [runs, bind, Except.bind] at made
    | ok limit =>
        cases timeout : timeoutSeconds args.runTimeoutSeconds with
        | error error => simp [runs, timeout, bind, Except.bind] at made
        | ok seconds =>
            cases registry : checkRegistry args.assistants.entries with
            | error error => simp [runs, timeout, registry, bind, Except.bind] at made
            | ok passed =>
                cases created : createGraphs args.checkpointer args.assistants.entries with
                | error error => simp [runs, timeout, registry, created, bind, Except.bind] at made
                | ok graphs =>
                    simp only [runs, timeout, registry, created, bind, Except.bind] at made
                    cases made
                    exact ⟨⟨limit, runs, rfl⟩, timeout, registry, rfl, rfl, graphs, created, rfl⟩
  · rintro ⟨⟨limit, runs, coordinator⟩, timeout, registry, assistants, checkpointer, graphs, created, kept⟩
    rw [LangGraphServerConfig.postInit, runs, timeout, registry, created]
    obtain ⟨_, _, _, _, _⟩ := config
    subst assistants checkpointer coordinator kept
    rfl

theorem post_init_iff : (∃ config, LangGraphServerConfig.postInit args = .ok config) ↔ Configurable args := by
  constructor
  · rintro ⟨config, made⟩
    obtain ⟨⟨limit, runs, _⟩, timeout, registry, _, _, graphs, created, _⟩ := (post_init_stages args config).mp made
    refine ⟨⟨limit.val, (concurrent_runs_iff _ _).mp runs, ?_⟩, ⟨_, (timeout_seconds_iff _ _).mp timeout⟩,
      fun assistantId assistant found => ?_, fun assistantId assistant found => ?_⟩
    · exact Int.ofNat_lt.mpr limit.property
    · exact (check_registry_iff args.assistants.entries).mp registry _ ((Dict.mem_entries _ _ _).mpr found)
    · obtain ⟨graph, _, ran⟩ := create_graphs_mem args.checkpointer args.assistants.entries graphs created
        (assistantId, assistant) ((Dict.mem_entries _ _ _).mpr found)
      exact ⟨graph, (create_graph_iff assistant _ graph).mp ran⟩
  · rintro ⟨⟨number, limit, positive⟩, ⟨seconds, timeout⟩, keyed, graphs⟩
    have several : 0 < number.toNat := by omega
    have whole : number = (number.toNat : Int) := (Int.toNat_of_nonneg positive.le).symm
    have runs := (concurrent_runs_iff args.maxConcurrentRuns ⟨number.toNat, several⟩).mpr
      (limit.trans (congrArg PyObj.int whole))
    have registry := (check_registry_iff args.assistants.entries).mpr
      (fun row listed => keyed row.1 row.2 ((Dict.mem_entries _ _ _).mp listed))
    obtain ⟨made, created⟩ := create_graphs_succeeds args.checkpointer args.assistants.entries
      (fun row listed => (graphs row.1 row.2 ((Dict.mem_entries _ _ _).mp listed)).imp
        (fun graph makes => (create_graph_iff row.2 _ graph).mpr makes))
    refine ⟨⟨args.assistants, Dict.empty.setAll made, args.checkpointer, seconds, RunCoordinator.fresh
      ⟨number.toNat, several⟩⟩, ?_⟩
    exact (post_init_stages args _).mpr ⟨⟨_, runs, rfl⟩, (timeout_seconds_iff _ _).mpr timeout,
      registry, rfl, rfl, made, created, rfl⟩

variable {args}

theorem post_init_keyed (config : LangGraphServerConfig platform) (made : PostInit args config) :
    ∀ assistantId assistant, config.getAssistant assistantId = some assistant →
      assistant.assistantId = assistantId := by
  intro assistantId assistant found
  rw [LangGraphServerConfig.getAssistant, made.assistants] at found
  exact (check_registry_iff args.assistants.entries).mp made.registry _ ((Dict.mem_entries _ _ _).mpr found)

-- There is a graph for each assistant, and for no other.
theorem post_init_graphs (config : LangGraphServerConfig platform) (made : PostInit args config) (assistantId : String)
    (graph : GraphRuntime) : config.graphs.get? assistantId = some graph ↔
      ∃ assistant, config.getAssistant assistantId = some assistant ∧
        assistant.createGraph args.checkpointer = .ok graph := by
  obtain ⟨graphs, created, kept⟩ := made.graphs
  have names := create_graphs_names args.checkpointer args.assistants.entries graphs created
  have unique : (graphs.map Prod.fst).Nodup := names ▸ args.assistants.unique
  rw [LangGraphServerConfig.getAssistant, made.assistants, kept]
  have forward (assistant : RegisteredAssistant platform) (found : args.assistants.get? assistantId = some assistant) :
      ∃ made, (Dict.empty.setAll graphs).get? assistantId = some made ∧
        assistant.createGraph args.checkpointer = .ok made := by
    obtain ⟨made, listed, ran⟩ := create_graphs_mem args.checkpointer args.assistants.entries graphs created
      (assistantId, assistant) ((Dict.mem_entries _ _ _).mpr found)
    exact ⟨made, Dict.get_set_all graphs .empty assistantId made unique listed, ran⟩
  constructor
  · intro found
    have listed : assistantId ∈ args.assistants.keys := by
      have member := (Dict.mem_keys _ _).mpr ⟨graph, found⟩
      rw [Dict.mem_keys_set_all, names] at member
      exact member.resolve_right (fun nothing => by cases nothing)
    obtain ⟨assistant, registered⟩ := (Dict.mem_keys _ _).mp listed
    obtain ⟨made, stored, ran⟩ := forward assistant registered
    rw [found] at stored
    cases stored
    exact ⟨assistant, registered, ran⟩
  · rintro ⟨assistant, registered, ran⟩
    obtain ⟨made, stored, again⟩ := forward assistant registered
    rw [ran] at again
    cases again
    exact stored

theorem served_represents (config : LangGraphServerConfig platform) (made : PostInit args config) :
    Represents args config (config.served (post_init_keyed config made)) := by
  have graphs := post_init_graphs config made
  have served (assistantId : String) (assistant : AssistantConfig) :
    config.servedAssistants.get? assistantId = some assistant ↔
      ∃ known graph, config.getAssistant assistantId = some known ∧ config.graphs.get? assistantId = some graph ∧
        known.serving graph = assistant := (config.served_iff assistantId assistant).trans
          (config.mem_served assistantId assistant)
  obtain ⟨limit, runs, coordinator⟩ := made.runs
  refine ⟨made.checkpointer, (timeout_seconds_iff _ _).mp made.timeout, ?_, ?_, fun assistantId assistant => ?_,
    fun assistantId assistant => ?_, fun assistantId => ?_, fun assistantId known registered => ?_,
      fun assistantId absent => ?_⟩
  · rw [coordinator]
    exact (concurrent_runs_iff _ _).mp runs
  · rw [coordinator]
    rfl
  · rw [LangGraphServerConfig.getAssistant, made.assistants]
  · refine (served assistantId assistant).trans ⟨?_, ?_⟩
    · rintro ⟨known, graph, registered, found, rfl⟩
      obtain ⟨other, again, ran⟩ := (graphs assistantId graph).mp found
      rw [registered] at again
      cases again
      exact ⟨known, registered, (create_graph_iff known _ graph).mp ran, rfl⟩
    · rintro ⟨known, registered, makes, same⟩
      have ran := (create_graph_iff known _ assistant.graph).mpr makes
      exact ⟨known, assistant.graph, registered, (graphs assistantId assistant.graph).mpr
        ⟨known, registered, ran⟩, same.symm⟩
  · rw [ServerConfig.getGraphRuntime, LangGraphServerConfig.getGraphRuntime]
    cases found : config.graphs.get? assistantId with
    | some graph =>
        obtain ⟨known, registered, _⟩ := (graphs assistantId graph).mp found
        have there := (served assistantId (known.serving graph)).mpr ⟨known, graph, registered, found, rfl⟩
        simp only [LangGraphServerConfig.served, there]
        rfl
    | none =>
        have nowhere : config.servedAssistants.get? assistantId = none := by
          rw [Option.eq_none_iff_forall_not_mem]
          intro assistant there
          obtain ⟨_, graph, _, stored, _⟩ := (served assistantId assistant).mp there
          rw [found] at stored
          cases stored
        simp only [LangGraphServerConfig.served, nowhere]
  · obtain ⟨stored, created, kept⟩ := made.graphs
    obtain ⟨graph, _, ran⟩ := create_graphs_mem args.checkpointer args.assistants.entries stored created
      (assistantId, known) ((Dict.mem_entries _ _ _).mpr registered)
    have found := (graphs assistantId graph).mpr
      ⟨known, by rw [LangGraphServerConfig.getAssistant, made.assistants, registered], ran⟩
    exact ⟨graph, (create_graph_iff known _ graph).mp ran, by rw [LangGraphServerConfig.getGraphRuntime, found]⟩
  · cases found : config.graphs.get? assistantId with
    | none => rw [LangGraphServerConfig.getGraphRuntime, found]
    | some graph =>
        obtain ⟨known, registered, _⟩ := (graphs assistantId graph).mp found
        rw [LangGraphServerConfig.getAssistant, made.assistants, absent] at registered
        cases registered

end Made

-- A configuration is accepted exactly when its arguments are fit, and the routes run on what
-- it registers, with a graph for each assistant made by the assistant's own factory.
theorem configured_as_given (platform : Platform) (args : ServerArguments platform) :
    ((∃ config, LangGraphServerConfig.postInit args = .ok config) ↔ Configurable args) ∧
      ∀ config, LangGraphServerConfig.postInit args = .ok config → ∃ keyed, Represents args config
        (config.served keyed) :=
  ⟨post_init_iff args, fun config made => ⟨_, served_represents config ((post_init_stages args config).mp made)⟩⟩

def smallObject : GraphObject := ⟨some (fun _ _ => .done (.dict [])), some (fun _ _ _ => .done), none⟩

def smallArguments (assistantId graphId : String) : AssistantArguments where
  assistantId := assistantId
  graphId := graphId
  name := ""
  checkpointedGraphFactory _ := .ok smallObject
  description := ""
  metadata := .empty
  createdAt := 0
  inputTransformer := none
  outputTransformer := none
  defaultStreamMode := none

def smallRegistered (assistantId graphId : String)
    (assistantValid : validIdentifier smallPlatform assistantId false = true)
    (graphValid : validIdentifier smallPlatform graphId false = true) : RegisteredAssistant smallPlatform :=
  ⟨smallArguments assistantId graphId, assistantValid, graphValid⟩

theorem small_identifiers (letter : String) (listed : letter ∈ ["a", "b", "c", "g", "h"]) :
    validIdentifier smallPlatform letter false = true := by
  revert letter
  decide

theorem small_names : (["a", "b", "c"].map id).Nodup := by decide

-- Two of the three assistants run the graph "g".
def smallRegistry : Dict String (RegisteredAssistant smallPlatform) where
  entries := [("a", smallRegistered "a" "g" (small_identifiers "a" (.head _))
    (small_identifiers "g" (.tail _ (.tail _ (.tail _ (.head _)))))),
    ("b", smallRegistered "b" "h" (small_identifiers "b" (.tail _ (.head _)))
      (small_identifiers "h" (.tail _ (.tail _ (.tail _ (.tail _ (.head _))))))),
    ("c", smallRegistered "c" "g" (small_identifiers "c" (.tail _ (.tail _ (.head _))))
      (small_identifiers "g" (.tail _ (.tail _ (.tail _ (.head _))))))]
  unique := small_names

def smallServerArguments : ServerArguments smallPlatform := ⟨smallRegistry, some ⟨true⟩, .int 2, .none⟩

def smallConfigured : LangGraphServerConfig smallPlatform where
  assistants := smallRegistry
  graphs := Dict.empty.setAll [("a", ⟨fun _ _ => .done (.dict []), fun _ _ _ => .done, none⟩),
    ("b", ⟨fun _ _ => .done (.dict []), fun _ _ _ => .done, none⟩),
      ("c", ⟨fun _ _ => .done (.dict []), fun _ _ _ => .done, none⟩)]
  checkpointer := some ⟨true⟩
  runTimeoutSeconds := none
  runCoordinator := .fresh ⟨2, Nat.two_pos⟩

theorem small_configured : LangGraphServerConfig.postInit smallServerArguments = .ok smallConfigured := rfl

theorem configured_as_given_small : ∃ keyed, Represents smallServerArguments smallConfigured
    (smallConfigured.served keyed) :=
  (configured_as_given smallPlatform smallServerArguments).2 smallConfigured small_configured

end LangGraphServer
