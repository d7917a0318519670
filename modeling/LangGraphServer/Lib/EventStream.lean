import Mathlib.Data.List.Basic

set_option autoImplicit false

namespace EventStream

-- A reader of an event stream between two letters: the line so far, whether a carriage
-- return just ended one, the buffers of the event, and the events it dispatched.
structure Reader where
  line : List Char
  afterReturn : Bool
  event : List Char
  data : List Char
  dispatched : List (List Char × List Char)
deriving DecidableEq

def Reader.start : Reader := ⟨[], false, [], [], []⟩

-- An event without data is dropped, and one without a name is a message.
def dispatch (reader : Reader) : Reader :=
  if reader.data = [] then { reader with event := [] }
  else
    { reader with
      event := []
      data := []
      dispatched := reader.dispatched ++
        [(if reader.event = [] then "message".toList else reader.event, reader.data.dropLast)] }

-- One space after the colon does not belong to the value.
def fieldValue (line : List Char) : List Char :=
  match line.dropWhile (fun letter => decide (letter ≠ ':')) with
  | ':' :: ' ' :: value => value
  | ':' :: value => value
  | _ => []

def field (reader : Reader) (line : List Char) : Reader :=
  let name := line.takeWhile (fun letter => decide (letter ≠ ':'))
  if name = "event".toList then { reader with event := fieldValue line }
  else if name = "data".toList then { reader with data := reader.data ++ fieldValue line ++ ['\n'] }
  else reader

def endLine (reader : Reader) : Reader :=
  let ended := { reader with line := [] }
  if reader.line = [] then dispatch ended else field ended reader.line

-- Lines end with a line feed, a carriage return, or both.
def feed (reader : Reader) (letter : Char) : Reader :=
  if letter = '\n' then
    if reader.afterReturn = true then { reader with afterReturn := false } else endLine reader
  else if letter = '\r' then { endLine reader with afterReturn := true }
  else { reader with line := reader.line ++ [letter], afterReturn := false }

def readText (reader : Reader) (text : List Char) : Reader := text.foldl feed reader

def readChunks (reader : Reader) (chunks : List (List Char)) : Reader := chunks.foldl readText reader

theorem read_chunks_flatten (reader : Reader) (chunks : List (List Char)) :
    readChunks reader chunks = readText reader chunks.flatten := by
  rw [readText, List.foldl_flatten]
  rfl

theorem read_text_append (reader : Reader) (first second : List Char) :
    readText reader (first ++ second) = readText (readText reader first) second := List.foldl_append

def OneLine (text : List Char) : Prop := ∀ letter ∈ text, letter ≠ '\n' ∧ letter ≠ '\r'

theorem one_line_of_all (text : List Char)
    (all : text.all (fun letter => decide (letter ≠ '\n' ∧ letter ≠ '\r')) = true) :
    OneLine text := fun letter member => of_decide_eq_true (List.all_eq_true.mp all letter member)

theorem read_one_line (reader : Reader) (text : List Char) (oneLine : OneLine text)
    (fresh : reader.afterReturn = false) :
    readText reader text = { reader with line := reader.line ++ text } := by
  induction text generalizing reader with
  | nil => rw [List.append_nil]; rfl
  | cons letter rest ih =>
      have plain := oneLine letter List.mem_cons_self
      have fed : feed reader letter = { reader with line := reader.line ++ [letter], afterReturn := false } := by
        rw [feed, if_neg plain.1, if_neg plain.2]
      rw [readText, List.foldl_cons, fed]
      refine (ih _ (fun later member => oneLine later (List.mem_cons_of_mem letter member)) rfl).trans ?_
      rw [fresh, List.append_assoc, List.singleton_append]

structure Idle (reader : Reader) : Prop where
  line : reader.line = []
  afterReturn : reader.afterReturn = false
  event : reader.event = []
  data : reader.data = []

theorem start_idle : Idle Reader.start := ⟨rfl, rfl, rfl, rfl⟩

def frame (event data : List Char) : List Char :=
  "event: ".toList ++ event ++ "\ndata: ".toList ++ data ++ "\n\n".toList

theorem frame_lines (event data : List Char) :
    frame event data = ("event: ".toList ++ event) ++ ('\n' :: (("data: ".toList ++ data) ++ ['\n', '\n'])) := by
  have separator : "\ndata: ".toList = '\n' :: "data: ".toList := rfl
  have ending : "\n\n".toList = ['\n', '\n'] := rfl
  unfold frame
  rewrite [separator, ending]
  generalize "event: ".toList = eventStart
  generalize "data: ".toList = dataStart
  simp only [List.append_assoc, List.cons_append]

theorem field_event (reader : Reader) (value : List Char) :
    field reader ("event: ".toList ++ value) = { reader with event := value } := by
  have letters : "event: ".toList = ['e', 'v', 'e', 'n', 't', ':', ' '] := by decide
  rw [letters]
  rfl

theorem field_data (reader : Reader) (value : List Char) :
    field reader ("data: ".toList ++ value) = { reader with data := reader.data ++ value ++ ['\n'] } := by
  have letters : "data: ".toList = ['d', 'a', 't', 'a', ':', ' '] := by decide
  rw [letters]
  rfl

theorem feed_line_feed (reader : Reader) (fresh : reader.afterReturn = false) : feed reader '\n' = endLine reader := by
  rw [feed, if_pos rfl, fresh, if_neg Bool.false_ne_true]

theorem one_line_append (first second : List Char) (firstLine : OneLine first) (secondLine : OneLine second) :
    OneLine (first ++ second) := by
  intro letter member
  cases List.mem_append.mp member with
  | inl inFirst => exact firstLine letter inFirst
  | inr inSecond => exact secondLine letter inSecond

theorem read_line (reader : Reader) (line rest : List Char) (oneLine : OneLine line) (blank : reader.line = [])
    (fresh : reader.afterReturn = false) :
    readText reader (line ++ '\n' :: rest) = readText (endLine { reader with line := line }) rest := by
  rw [read_text_append, read_one_line reader line oneLine fresh, blank, List.nil_append]
  exact congrArg (fun fed => readText fed rest) (feed_line_feed { reader with line := line } fresh)

theorem read_frame (reader : Reader) (event data : List Char) (idle : Idle reader) (eventLine : OneLine event)
    (dataLine : OneLine data) (named : event ≠ []) :
    readText reader (frame event data) = { reader with dispatched := reader.dispatched ++ [(event, data)] } := by
  obtain ⟨line, afterReturn, bufferedEvent, bufferedData, dispatched⟩ := reader
  obtain ⟨rfl, rfl, rfl, rfl⟩ : line = [] ∧ afterReturn = false ∧ bufferedEvent = [] ∧ bufferedData = [] :=
    ⟨idle.line, idle.afterReturn, idle.event, idle.data⟩
  have firstLine : OneLine ("event: ".toList ++ event) := one_line_append _ _ (one_line_of_all _ rfl) eventLine
  have secondLine : OneLine ("data: ".toList ++ data) := one_line_append _ _ (one_line_of_all _ rfl) dataLine
  have eventEnds : endLine ⟨"event: ".toList ++ event, false, [], [], dispatched⟩ = ⟨[], false, event, [],
    dispatched⟩ := by
    rw [endLine, if_neg (by simp), field_event]
  have dataEnds : endLine ⟨"data: ".toList ++ data, false, event, [], dispatched⟩ = ⟨[], false, event, data ++ ['\n'],
    dispatched⟩ := by
    rw [endLine, if_neg (by simp), field_data, List.nil_append]
  have frameEnds : endLine ⟨[], false, event, data ++ ['\n'], dispatched⟩ = ⟨[], false, [], [], dispatched ++
    [(event, data)]⟩ := by
    rw [endLine, if_pos rfl, dispatch, if_neg (by simp), if_neg named, List.dropLast_concat]
  rw [frame_lines, read_line _ _ _ firstLine rfl rfl, eventEnds]
  rw [show ("data: ".toList ++ data) ++ ['\n', '\n'] = ("data: ".toList ++ data) ++ '\n' :: ['\n'] from rfl,
    read_line _ _ _ secondLine rfl rfl, dataEnds]
  exact (feed_line_feed ⟨[], false, event, data ++ ['\n'], dispatched⟩ rfl).trans frameEnds

-- A stream of frames is read as the events it was framed from, and leaves nothing behind.
theorem read_frames (events : List (List Char × List Char)) (reader : Reader) (idle : Idle reader)
    (wellFormed : ∀ event ∈ events, OneLine event.1 ∧ OneLine event.2 ∧ event.1 ≠ []) :
    readText reader (events.flatMap (fun event => frame event.1 event.2))
      = { reader with dispatched := reader.dispatched ++ events } := by
  induction events generalizing reader with
  | nil => rw [List.append_nil]; rfl
  | cons event rest ih =>
      obtain ⟨eventLine, dataLine, named⟩ := wellFormed event List.mem_cons_self
      have laterFormed := fun later member => wellFormed later (List.mem_cons_of_mem event member)
      have restRead := ih { reader with dispatched := reader.dispatched ++ [event] }
        ⟨idle.line, idle.afterReturn, idle.event, idle.data⟩ laterFormed
      rw [List.flatMap_cons, read_text_append, read_frame reader event.1 event.2 idle eventLine dataLine
        named, restRead, List.append_assoc, List.singleton_append]

end EventStream
