import LangGraphServer.Coordination
import LangGraphServer.Lib.Pool
import LangGraphServer.Python

set_option autoImplicit false

namespace LangGraphServer

open Collections

-- `datetime` values in UTC, as microseconds.
abbrev Timestamp := Int

inductive CancelCause where
  | timeout
  | disconnect
  | outer
deriving DecidableEq, Repr

-- `generatorExit` and `cancelled` are the exceptions that are no `Exception`.
inductive ServerError where
  | http (statusCode : Nat) (detail : String)
  | cancelled (cause : CancelCause)
  | generatorExit
  | timeout
  | osError
  | checkpointCapacity
  | invalidUpdate (message : String)
  | notImplemented
  | threadStoreCapacity (message : String)
  | threadAssistantConflict (message : String)
  | threadRunConflict (message : String)
  | runCapacity (message : String)
  | lookup (message : String)
  | raised (name message : String)
deriving DecidableEq, Repr

def ServerError.isCancelled : ServerError → Bool
  | .cancelled _ => true
  | _ => false

def ServerError.isException : ServerError → Bool
  | .cancelled _ => false
  | .generatorExit => false
  | _ => true

inductive StreamMode where
  | values
  | updates
  | messages
  | messagesTuple
  | custom
  | debug
deriving DecidableEq, Repr

def StreamMode.text : StreamMode → String
  | .values => "values"
  | .updates => "updates"
  | .messages => "messages"
  | .messagesTuple => "messages-tuple"
  | .custom => "custom"
  | .debug => "debug"

inductive IfExists where
  | raise
  | doNothing
deriving DecidableEq, Repr

inductive IfNotExists where
  | create
  | reject
deriving DecidableEq, Repr

inductive OnDisconnect where
  | cancel
  | continue
deriving DecidableEq, Repr

inductive OnCompletion where
  | delete
  | keep
deriving DecidableEq, Repr

structure Config where
  tags : Option (List String)
  recursionLimit : Option Int
  configurable : Option Metadata

structure CheckpointReference where
  threadId : String
  checkpointNs : String
  checkpointId : Option String
  checkpointMap : Option PyObj

structure Thread where
  threadId : String
  createdAt : Timestamp
  updatedAt : Timestamp
  metadata : Metadata
  status : String
  values : Metadata

structure ThreadCreate where
  threadId : Option String
  metadata : Option Metadata
  ifExists : Option IfExists

structure RunCreate where
  assistantId : String
  input : Option Metadata
  metadata : Option Metadata
  config : Option Config
  checkpointId : Option String
  streamMode : Option (List StreamMode)
  onDisconnect : Option OnDisconnect
  onCompletion : Option OnCompletion
  ifNotExists : Option IfNotExists

structure StateUpdate where
  values : PyObj
  checkpointId : Option String
  checkpoint : Option CheckpointReference
  asNode : Option String

inductive HistoryBefore where
  | identifier (checkpointId : String)
  | checkpoint (reference : CheckpointReference)

structure HistoryRequest where
  limit : Nat
  before : Option HistoryBefore
  metadata : Option Metadata
  checkpoint : Option CheckpointReference

-- `next`, `tasks` and `interrupts` are always empty.
structure ThreadState where
  values : Metadata
  checkpoint : CheckpointReference
  metadata : Metadata
  createdAt : String
  parentCheckpoint : Option CheckpointReference

-- One `CheckpointTuple` of the configured saver, as far as the server reads it. The saver
-- keeps it under its namespace and id; `id` is what the checkpoint itself says.
structure CheckpointItem where
  checkpointNs : String
  checkpointId : String
  id : Option PyObj
  ts : Option PyObj
  channelValues : Metadata
  metadata : Option Metadata
  parentConfig : Option RunnableConfig
  keyed : ∀ text, id = some (.str text) → text = checkpointId

structure LookupConfig where
  threadId : String
  checkpointNs : String
  checkpointId : Option String
deriving DecidableEq

-- What the server takes from the standard library and from its packages: pydantic's size
-- of a serialized thread, `datetime.fromisoformat` and `isoformat`, `str`, equality and
-- `str.isprintable`, `json.dumps`, and which exceptions the response class absorbs before
-- it runs its background task.
structure Platform where
  threadJsonBytes : Thread → Nat
  fromIsoformat : String → Option Timestamp
  isoformat : Timestamp → String
  str : PyObj → String
  equals : PyObj → PyObj → Bool
  isPrintable : Char → Bool
  jsonDumps : PyObj → Except ServerError String
  absorbs : ServerError → Bool

def smallScalarJson : PyObj → Option String
  | .none => some "null"
  | .int value => some (toString value)
  | .str text => some ("\"" ++ text ++ "\"")
  | _ => none

def smallJson : PyObj → Except ServerError String
  | .dict entries =>
      match entries.mapM (fun row => (smallScalarJson row.2).map (fun text => "\"" ++ row.1 ++ "\":" ++ text)) with
      | some rows => .ok ("\x7b" ++ ",".intercalate rows ++ "\x7d")
      | none => .error (.raised "TypeError" "keys must be str, int, float, bool or None")
  | value => match smallScalarJson value with
      | some text => .ok text
      | none => .error (.raised "TypeError" "Object is not JSON serializable")

def smallEquals : PyObj → PyObj → Bool
  | .none, .none => true
  | .int first, .int second => first == second
  | .str first, .str second => first == second
  | _, _ => false

-- A platform for runs on fixed inputs. Its response class watches for a disconnect and
-- cancels the sending itself, so only that cancellation ends quietly.
def smallPlatform : Platform where
  threadJsonBytes _ := 100
  fromIsoformat _ := none
  isoformat _ := "2025-01-01T00:00:00+00:00"
  str value := match value with
    | .str text => text
    | _ => "None"
  equals := smallEquals
  isPrintable letter := decide (32 ≤ letter.toNat ∧ letter.toNat < 127)
  jsonDumps := smallJson
  absorbs error := decide (error = .cancelled .disconnect)

def validIdentifier (platform : Platform) (text : String) (allowEmpty : Bool) : Bool :=
  (allowEmpty || decide (text ≠ "")) && (decide (text.length ≤ 256) && text.toList.all platform.isPrintable)

-- `Checkpoint(...)`: the model checks its identifiers.
def checkpointReference (platform : Platform) (threadId checkpointNs checkpointId : String)
    (checkpointMap : Option PyObj) : Except ServerError CheckpointReference :=
  if validIdentifier platform threadId false = true ∧ validIdentifier platform checkpointNs true = true ∧
      validIdentifier platform checkpointId false = true then
    .ok ⟨threadId, checkpointNs, some checkpointId, checkpointMap⟩
  else .error (.raised "ValidationError" "Checkpoint")

inductive AsgiMessage where
  | start
  | body (text : String)
  | finish
deriving DecidableEq, Repr

inductive StreamItem where
  | raw (item : PyObj)
  | event (text : String)

inductive Mutation where
  | run (assistantId : String)
  | update
  | deletion
deriving DecidableEq, Repr

inductive LogEntry where
  | claimed (threadId assistantId : String)
  | began (threadId : String) (graphOf : Option String)
  | answered (request statusCode : Nat)
deriving DecidableEq, Repr

end LangGraphServer
