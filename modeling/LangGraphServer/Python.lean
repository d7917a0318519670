import LangGraphServer.Lib.Dict

set_option autoImplicit false

namespace LangGraphServer

open Collections

-- Values that reach the server as plain Python objects. `float none` is nan or an
-- infinity; `object` is read through `getattr` only, and `other` stands for objects that
-- no modelled code looks into.
inductive PyObj where
  | none
  | bool (value : Bool)
  | int (value : Int)
  | float (value : Option Rat)
  | str (text : String)
  | list (items : List PyObj)
  | tuple (items : List PyObj)
  | dict (entries : List (String × PyObj))
  | object (attributes : List (String × PyObj))
  | other (identity : Nat)

def PyObj.entry? : PyObj → String → Option PyObj
  | .dict entries, key => entries.lookup key
  | _, _ => Option.none

def PyObj.isNone : PyObj → Bool
  | .none => true
  | _ => false

def PyObj.attribute? : PyObj → String → Option PyObj
  | .object attributes, name => attributes.lookup name
  | _, _ => Option.none

def PyObj.truthy : PyObj → Bool
  | .none => false
  | .bool value => value
  | .int value => value ≠ 0
  | .float value => value ≠ some 0
  | .str text => text ≠ ""
  | .list items => !items.isEmpty
  | .tuple items => !items.isEmpty
  | .dict entries => !entries.isEmpty
  | .object _ => true
  | .other _ => true

-- A double does not hold integers from here on: they round up to 2 ^ 1024.
def tooLargeForFloat : Nat := 2 ^ 1024 - 2 ^ 970

inductive PyError where
  | valueError (message : String)
  | keyError (key : String)
  | lookupError (message : String)
  | capacityError (message : String)
  | raised (name : String)
deriving DecidableEq, Repr

abbrev Bytes := List UInt8

-- Byte counts of text are taken in UTF-8, as `len(text.encode())` does.
def encodedLength (text : String) : Nat := text.utf8ByteSize

abbrev Metadata := Dict String PyObj

structure RunnableConfig where
  configurable : PyObj
  metadata : Metadata
  tags : Option (List String)
  recursionLimit : Option Int

def RunnableConfig.entry? (config : RunnableConfig) (key : String) : Option PyObj :=
  config.configurable.entry? key

end LangGraphServer
