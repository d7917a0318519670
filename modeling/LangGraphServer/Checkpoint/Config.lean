import Mathlib.Algebra.Order.Ring.Rat
import LangGraphServer.Python

set_option autoImplicit false

namespace LangGraphServer

abbrev Time := Rat

-- Only `__post_init__` builds this object, so every limit comes with what it checked.
structure InMemoryCheckpointConfig where
  idleTtlSeconds : Time
  maxThreads : Nat
  maxNamespacesPerThread : Nat
  maxCheckpointsPerThread : Nat
  maxCheckpointBytes : Nat
  maxPendingWriteBytes : Nat
  maxTotalBytes : Nat
  maxThreadIdLength : Nat
  maxCheckpointNamespaceLength : Nat
  ttlPositive : 0 < idleTtlSeconds
  threadsPositive : 0 < maxThreads
  namespacesPositive : 0 < maxNamespacesPerThread
  checkpointsPositive : 0 < maxCheckpointsPerThread
  checkpointBytesPositive : 0 < maxCheckpointBytes
  pendingWriteBytesPositive : 0 < maxPendingWriteBytes
  totalBytesPositive : 0 < maxTotalBytes
  threadIdLengthPositive : 0 < maxThreadIdLength
  namespaceLengthPositive : 0 < maxCheckpointNamespaceLength
  checkpointWithinTotal : maxCheckpointBytes ≤ maxTotalBytes
  pendingWriteWithinTotal : maxPendingWriteBytes ≤ maxTotalBytes

-- The keyword arguments of the dataclass, as the caller passed them.
structure CheckpointConfigArguments where
  idleTtlSeconds : PyObj := .int 14400
  maxThreads : PyObj := .int 1000
  maxNamespacesPerThread : PyObj := .int 16
  maxCheckpointsPerThread : PyObj := .int 1000
  maxCheckpointBytes : PyObj := .int 1048576
  maxPendingWriteBytes : PyObj := .int 524288
  maxTotalBytes : PyObj := .int 67108864
  maxThreadIdLength : PyObj := .int 256
  maxCheckpointNamespaceLength : PyObj := .int 256

def positiveSeconds (value : PyObj) : Except PyError { seconds : Time // 0 < seconds } :=
  let rejected := PyError.valueError "idle_ttl_seconds must be a finite number greater than zero"
  match value with
  | .int number =>
      if tooLargeForFloat ≤ number.natAbs then .error (.raised "OverflowError")
      else if positive : 0 < (number : Rat) then .ok ⟨number, positive⟩
      else .error rejected
  | .float (some number) => if positive : 0 < number then .ok ⟨number, positive⟩ else .error rejected
  | _ => .error rejected

def positiveInteger (fieldName : String) (value : PyObj) : Except PyError { count : Nat // 0 < count } :=
  let rejected := PyError.valueError (fieldName ++ " must be an integer greater than zero")
  match value with
  | .int number => if positive : 0 < number.toNat then .ok ⟨number.toNat, positive⟩ else .error rejected
  | _ => .error rejected

theorem positive_count (count : { count : Nat // 0 < count }) : 0 < count.val := count.property

def InMemoryCheckpointConfig.postInit (args : CheckpointConfigArguments) :
    Except PyError InMemoryCheckpointConfig := do
  let ttl ← positiveSeconds args.idleTtlSeconds
  let threads ← positiveInteger "max_threads" args.maxThreads
  let namespaces ← positiveInteger "max_namespaces_per_thread" args.maxNamespacesPerThread
  let checkpoints ← positiveInteger "max_checkpoints_per_thread" args.maxCheckpointsPerThread
  let checkpointBytes ← positiveInteger "max_checkpoint_bytes" args.maxCheckpointBytes
  let pendingWriteBytes ← positiveInteger "max_pending_write_bytes" args.maxPendingWriteBytes
  let totalBytes ← positiveInteger "max_total_bytes" args.maxTotalBytes
  let threadIdLength ← positiveInteger "max_thread_id_length" args.maxThreadIdLength
  let namespaceLength ← positiveInteger "max_checkpoint_namespace_length" args.maxCheckpointNamespaceLength
  if checkpointFits : checkpointBytes.val ≤ totalBytes.val then
    if writesFit : pendingWriteBytes.val ≤ totalBytes.val then
      return { idleTtlSeconds := ttl.val, maxThreads := threads.val, maxNamespacesPerThread := namespaces.val,
               maxCheckpointsPerThread := checkpoints.val, maxCheckpointBytes := checkpointBytes.val,
               maxPendingWriteBytes := pendingWriteBytes.val, maxTotalBytes := totalBytes.val,
               maxThreadIdLength := threadIdLength.val, maxCheckpointNamespaceLength := namespaceLength.val,
               ttlPositive := ttl.property, threadsPositive := positive_count threads,
               namespacesPositive := positive_count namespaces, checkpointsPositive := positive_count checkpoints,
               checkpointBytesPositive := positive_count checkpointBytes,
               pendingWriteBytesPositive := positive_count pendingWriteBytes,
               totalBytesPositive := positive_count totalBytes, threadIdLengthPositive := positive_count threadIdLength,
               namespaceLengthPositive := positive_count namespaceLength,
               checkpointWithinTotal := checkpointFits, pendingWriteWithinTotal := writesFit }
    else throw (.valueError "max_pending_write_bytes must not exceed max_total_bytes")
  else throw (.valueError "max_checkpoint_bytes must not exceed max_total_bytes")

end LangGraphServer
