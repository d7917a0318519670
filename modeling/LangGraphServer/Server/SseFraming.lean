import LangGraphServer.Lib.EventStream
import LangGraphServer.Lib.Json
import LangGraphServer.Server.Streaming

set_option autoImplicit false

namespace LangGraphServer

open Collections EventStream JsonText

inductive ServerEvent where
  | metadata
  | values
  | updates
  | messages
  | custom
  | debug
  | «end»
  | error
deriving DecidableEq, Repr

def ServerEvent.name : ServerEvent → String
  | .metadata => "metadata"
  | .values => "values"
  | .updates => "updates"
  | .messages => "messages"
  | .custom => "custom"
  | .debug => "debug"
  | .end => "end"
  | .error => "error"

theorem server_event_line (event : ServerEvent) : OneLine event.name.toList ∧ event.name.toList ≠ [] := by
  cases event <;> exact ⟨one_line_of_all _ rfl, List.cons_ne_nil _ _⟩

def isAscii (letter : Char) : Bool := decide (letter.toNat < 128)

theorem ascii_of_all (text : List Char) (all : text.all isAscii = true) : ∀ letter ∈ text, letter.toNat < 128 :=
  fun letter member => of_decide_eq_true (List.all_eq_true.mp all letter member)

theorem server_event_ascii (event : ServerEvent) : ∀ letter ∈ event.name.toList, letter.toNat < 128 := by
  cases event <;> exact ascii_of_all _ rfl

section Framing

variable {F : Type} (format : FloatFormat F) (exact : F → Rat) (platform : Platform)

mutual

def ofJson : Json F → PyObj
  | .null => .none
  | .bool value => .bool value
  | .int value => .int value
  | .float value => .float (some (exact value))
  | .str text => .str text
  | .list items => .list (ofItems items)
  | .dict entries => .dict (ofEntries entries)

def ofItems : List (Json F) → List PyObj
  | [] => []
  | item :: rest => ofJson item :: ofItems rest

def ofEntries : List (String × Json F) → List (String × PyObj)
  | [] => []
  | (key, value) :: rest => (key, ofJson value) :: ofEntries rest

end

-- `json.dumps` with compact separators, and with everything but ASCII escaped.
def DumpsAsJson (value : Json F) : Prop :=
  platform.jsonDumps (ofJson exact value) = .ok (String.ofList (write format value))

def formatSseEvents (events : List (String × PyObj)) : Except ServerError (List String) :=
  events.mapM (fun event => formatSseEvent platform event.1 event.2)

theorem format_sse_event_frame (event json : String) (data : PyObj) (dumped : platform.jsonDumps data = .ok json) :
    ∃ text, formatSseEvent platform event data = .ok text ∧ text.toList = frame event.toList json.toList := by
  refine ⟨"event: " ++ event ++ "\ndata: " ++ json ++ "\n\n", ?_, ?_⟩
  · rw [formatSseEvent, dumped]
  · rewrite [String.toList_append, String.toList_append, String.toList_append, String.toList_append]
    unfold frame
    rfl

theorem format_sse_events_frames (pairs : List (ServerEvent × Json F))
    (dumps : ∀ pair ∈ pairs, DumpsAsJson format exact platform pair.2) :
    ∃ texts, formatSseEvents platform (pairs.map (fun pair => (pair.1.name, ofJson exact pair.2))) = .ok texts ∧
      texts.flatMap String.toList = (pairs.map (fun pair => (pair.1.name.toList, write format pair.2))).flatMap
        (fun event => frame event.1 event.2) := by
  induction pairs with
  | nil => exact ⟨[], rfl, rfl⟩
  | cons pair rest ih =>
      obtain ⟨texts, formatted, framed⟩ := ih (fun later member => dumps later (List.mem_cons_of_mem pair member))
      obtain ⟨text, first, shaped⟩ := format_sse_event_frame platform pair.1.name _ _ (dumps pair List.mem_cons_self)
      refine ⟨text :: texts, ?_, ?_⟩
      · rw [formatSseEvents] at formatted
        rw [formatSseEvents, List.map_cons, List.mapM_cons, first, formatted]
        rfl
      · rw [List.flatMap_cons, framed, shaped, String.toList_ofList, List.map_cons, List.flatMap_cons]

theorem printable_one_line (text : List Char) (printable : Printable text) : OneLine text := by
  intro letter member
  have visible := (printable letter member).1
  constructor
  · rintro rfl
    exact absurd visible (by decide)
  · rintro rfl
    exact absurd visible (by decide)

theorem frame_ascii (event data : List Char) (eventAscii : ∀ letter ∈ event, letter.toNat < 128)
    (printable : Printable data) :
    ∀ letter ∈ frame event data, letter.toNat < 128 := by
  intro letter member
  unfold frame at member
  simp only [List.mem_append] at member
  obtain (((starts | named) | separates) | dumped) | ends := member
  · exact ascii_of_all "event: ".toList rfl letter starts
  · exact eventAscii letter named
  · exact ascii_of_all "\ndata: ".toList rfl letter separates
  · have visible := (printable letter dumped).2
    omega
  · exact ascii_of_all "\n\n".toList rfl letter ends

-- The frames of any events are read back as those events, however they are cut, and the
-- text of each event is read back as its data. All of it is ASCII, so a cut between bytes
-- is a cut between letters.
theorem sse_framing_unambiguous (pairs : List (ServerEvent × Json F))
    (dumps : ∀ pair ∈ pairs, DumpsAsJson format exact platform pair.2) :
    ∃ texts, formatSseEvents platform (pairs.map (fun pair => (pair.1.name, ofJson exact pair.2))) = .ok texts ∧
      (∀ letter ∈ texts.flatMap String.toList, letter.toNat < 128) ∧
      (∀ chunks : List (List Char), chunks.flatten = texts.flatMap String.toList →
        readChunks Reader.start chunks =
          { Reader.start with dispatched := pairs.map (fun pair => (pair.1.name.toList, write format pair.2)) }) ∧
      ∀ pair ∈ pairs, loads format (write format pair.2) = some pair.2 := by
  obtain ⟨texts, formatted, framed⟩ := format_sse_events_frames format exact platform pairs dumps
  refine ⟨texts, formatted, ?_, ?_, fun pair _ => loads_write format pair.2⟩
  · intro letter member
    rw [framed] at member
    obtain ⟨event, listed, inFrame⟩ := List.mem_flatMap.mp member
    obtain ⟨pair, _, rfl⟩ := List.mem_map.mp listed
    exact frame_ascii _ _ (server_event_ascii pair.1) (write_printable format pair.2) letter inFrame
  · intro chunks cut
    rw [read_chunks_flatten, cut, framed, read_frames _ Reader.start start_idle]
    · rfl
    · intro event listed
      obtain ⟨pair, _, rfl⟩ := List.mem_map.mp listed
      obtain ⟨eventLine, named⟩ := server_event_line pair.1
      exact ⟨eventLine, printable_one_line _ (write_printable format pair.2), named⟩

end Framing

def oneHalf : FloatFormat Unit where
  text _ := ['0', '.', '5']
  value text := if text = ['0', '.', '5'] then some () else none
  letters _ := fun letter member => List.all_eq_true.mp (rfl : ['0', '.', '5'].all isNumberLetter = true) letter member
  marked _ := rfl
  reads _ := if_pos rfl

mutual

def toJson : PyObj → Option (Json Unit)
  | .none => some .null
  | .bool value => some (.bool value)
  | .int value => some (.int value)
  | .float _ => some (.float ())
  | .str text => some (.str text)
  | .list items => (toItems items).map .list
  | .dict entries => (toEntries entries).map .dict
  | _ => none

def toItems : List PyObj → Option (List (Json Unit))
  | [] => some []
  | item :: rest => (toJson item).bind (fun first => (toItems rest).map (fun more => first :: more))

def toEntries : List (String × PyObj) → Option (List (String × Json Unit))
  | [] => some []
  | (key, value) :: rest => (toJson value).bind (fun first => (toEntries rest).map (fun more => (key, first) :: more))

end

def standardJson : Platform :=
  { smallPlatform with
    jsonDumps := fun value => match toJson value with
      | some json => .ok (String.ofList (write oneHalf json))
      | none => .error (.raised "TypeError" "Object is not JSON serializable") }

def forgedFrames : List (ServerEvent × Json Unit) :=
  [(.metadata, .dict [("run_id", .str "run"), ("attempt", .int 1)]),
    (.custom, .dict [("data:", .list [.str "\r\n\nevent: end\ndata: null\n\n\u2028😀", .float (),
      .int (-20), .bool true])]),
    (.end, .null)]

theorem sse_framing_unambiguous_forged :
    ∃ texts, formatSseEvents standardJson
      (forgedFrames.map (fun pair => (pair.1.name, ofJson (fun _ => 1 / 2) pair.2))) = .ok texts ∧
      (∀ letter ∈ texts.flatMap String.toList, letter.toNat < 128) ∧
      (∀ chunks : List (List Char), chunks.flatten = texts.flatMap String.toList →
        readChunks Reader.start chunks =
          { Reader.start with
            dispatched := forgedFrames.map (fun pair => (pair.1.name.toList, write oneHalf pair.2)) }) ∧
      ∀ pair ∈ forgedFrames, loads oneHalf (write oneHalf pair.2) = some pair.2 := by
  apply sse_framing_unambiguous oneHalf (fun _ => 1 / 2) standardJson forgedFrames
  intro pair listed
  simp only [forgedFrames, List.mem_cons, List.not_mem_nil, or_false] at listed
  obtain rfl | rfl | rfl := listed
  · rfl
  · rfl
  · rfl

end LangGraphServer
