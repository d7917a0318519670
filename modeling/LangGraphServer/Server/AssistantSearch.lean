import LangGraphServer.Lib.Paging
import LangGraphServer.Server.Registry

set_option autoImplicit false

namespace LangGraphServer

open Collections Paging

structure Assistant where
  assistantId : String
  graphId : String
  config : Config
  createdAt : Timestamp
  updatedAt : Timestamp
  metadata : Metadata
  version : Int
  name : String
  description : String

structure AssistantSearch where
  graphId : Option String
  metadata : Option Metadata
  limit : Nat
  offset : Nat

section Search

variable {platform : Platform}

def RegisteredAssistant.response (assistant : RegisteredAssistant platform) : Assistant where
  assistantId := assistant.assistantId
  graphId := assistant.graphId
  config := ⟨none, none, none⟩
  createdAt := assistant.createdAt
  updatedAt := assistant.createdAt
  metadata := assistant.metadata
  version := 1
  name := assistant.name
  description := assistant.description

def assistantResponse (config : LangGraphServerConfig platform) (assistantId : String) : Except ServerError Assistant :=
  match config.getAssistant assistantId with
  | some assistant => .ok assistant.response
  | none => .error (.http 404 ("Assistant " ++ assistantId ++ " not found"))

def AssistantSearch.selects (request : AssistantSearch) (assistant : RegisteredAssistant platform) : Bool :=
  request.graphId.all (fun graphId => decide (assistant.graphId = graphId)) &&
    request.metadata.all (fun given => given.entries.all (fun row =>
      platform.equals ((assistant.metadata.get? row.1).getD .none) row.2))

def searchAssistants (config : LangGraphServerConfig platform) (request : AssistantSearch) : List Assistant :=
  let results := ((config.assistants.entries.map Prod.snd).filter request.selects).map RegisteredAssistant.response
  slice request.limit results request.offset

variable (config : LangGraphServerConfig platform) (request : AssistantSearch)

-- A client turns the pages of a search until one is not full.
def searchPage (turn : Nat) : List Assistant := searchAssistants config { request with offset := turn * request.limit }

def searchPages (turns : Nat) : List Assistant := (List.range (turns + 1)).flatMap (searchPage config request)

-- What a search asks of an assistant, in terms of what the client is shown.
structure AskedFor (platform : Platform) (request : AssistantSearch) (answer : Assistant) : Prop where
  graphId : ∀ graphId, request.graphId = some graphId → answer.graphId = graphId
  metadata : ∀ given, request.metadata = some given → ∀ row ∈ given.entries,
    platform.equals ((answer.metadata.get? row.1).getD .none) row.2 = true

-- The pages are what `get_assistant` shows of the assistants that were asked for, each of
-- them once and in the order of the registry.
structure SearchedWhole (turns : Nat) : Prop where
  full : ∀ turn, turn < turns → (searchPage config request turn).length = request.limit
  last : (searchPage config request turns).length < request.limit
  found : ∀ answer, answer ∈ searchPages config request turns ↔
    assistantResponse config answer.assistantId = .ok answer ∧ AskedFor platform request answer
  ordered : ((searchPages config request turns).map Assistant.assistantId).Sublist config.assistants.keys
  once : ((searchPages config request turns).map Assistant.assistantId).Nodup

theorem selects_iff (assistant : RegisteredAssistant platform) :
    request.selects assistant = true ↔ AskedFor platform request assistant.response := by
  rw [AssistantSearch.selects, Bool.and_eq_true]
  constructor
  · rintro ⟨graph, rows⟩
    constructor
    · intro graphId asked
      simpa [asked, RegisteredAssistant.response] using graph
    · intro given asked
      simpa [asked, RegisteredAssistant.response] using rows
  · rintro ⟨graph, rows⟩
    constructor
    · cases asked : request.graphId with
      | none => rfl
      | some graphId => simpa [RegisteredAssistant.response] using graph graphId asked
    · cases asked : request.metadata with
      | none => rfl
      | some given => simpa [RegisteredAssistant.response] using rows given asked

def matching : List Assistant :=
  ((config.assistants.entries.map Prod.snd).filter request.selects).map RegisteredAssistant.response

theorem search_page_slice (turn : Nat) :
    searchPage config request turn = slice request.limit (matching config request) (turn * request.limit) := rfl

variable {config}

theorem response_found (assistantId : String) (assistant : RegisteredAssistant platform)
    (found : config.getAssistant assistantId = some assistant) : assistantResponse config assistantId =
      .ok assistant.response := by
  rw [assistantResponse, found]

theorem mem_matching (keyed : ∀ assistantId assistant, config.getAssistant assistantId = some assistant →
    assistant.assistantId = assistantId) (answer : Assistant) : answer ∈ matching config request ↔
      assistantResponse config answer.assistantId = .ok answer ∧ AskedFor platform request answer := by
  rw [matching, List.mem_map]
  constructor
  · rintro ⟨assistant, kept, rfl⟩
    obtain ⟨listed, selected⟩ := List.mem_filter.mp kept
    obtain ⟨⟨assistantId, _⟩, row, rfl⟩ := List.mem_map.mp listed
    have registered := (Dict.mem_entries _ _ _).mp row
    have found := (congrArg config.getAssistant (keyed assistantId _ registered)).trans registered
    exact ⟨response_found _ _ found, (selects_iff request _).mp selected⟩
  · rintro ⟨shown, asked⟩
    rw [assistantResponse] at shown
    cases registered : config.getAssistant answer.assistantId with
    | none => simp [registered] at shown
    | some assistant =>
        simp only [registered] at shown
        cases shown
        refine ⟨assistant, List.mem_filter.mpr ⟨?_, (selects_iff request assistant).mpr asked⟩, rfl⟩
        exact List.mem_map.mpr ⟨_, (Dict.mem_entries _ _ _).mpr registered, rfl⟩

theorem matching_ordered (keyed : ∀ assistantId assistant, config.getAssistant assistantId = some assistant →
    assistant.assistantId = assistantId) :
    ((matching config request).map Assistant.assistantId).Sublist config.assistants.keys := by
  have names : (config.assistants.entries.map Prod.snd).map (fun assistant => assistant.assistantId) =
    config.assistants.keys := by
    rw [List.map_map, Dict.keys]
    exact List.map_congr_left (fun row listed => keyed row.1 row.2 ((Dict.mem_entries _ _ _).mp listed))
  rw [matching, List.map_map, ← names]
  exact List.Sublist.map _ List.filter_sublist

end Search

theorem search_pages_complete (platform : Platform) (args : ServerArguments platform)
    (config : LangGraphServerConfig platform)
    (made : LangGraphServerConfig.postInit args = .ok config) (request : AssistantSearch)
    (limited : 0 < request.limit) :
    SearchedWhole config request ((matching config request).length / request.limit) := by
  have keyed := post_init_keyed config ((post_init_stages args config).mp made)
  have whole : searchPages config request ((matching config request).length / request.limit) = matching
    config request :=
    slices_whole request.limit (matching config request) limited
  have ordered := matching_ordered request keyed
  refine ⟨fun turn early => ?_, ?_, fun answer => ?_, ?_, ?_⟩
  · rw [search_page_slice]
    exact slice_full request.limit (matching config request) turn early
  · rw [search_page_slice]
    exact slice_last request.limit (matching config request) limited
  · rw [whole]
    exact mem_matching request keyed answer
  · rw [whole]
    exact ordered
  · rw [whole]
    exact ordered.nodup (Dict.keys_nodup _)

theorem search_pages_complete_small :
    SearchedWhole smallConfigured ⟨some "g", none, 1, 0⟩
      ((matching smallConfigured ⟨some "g", none, 1, 0⟩).length / 1) :=
  search_pages_complete smallPlatform smallServerArguments smallConfigured small_configured
    ⟨some "g", none, 1, 0⟩ Nat.one_pos

end LangGraphServer
