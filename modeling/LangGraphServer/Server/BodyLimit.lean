import Mathlib.Data.List.Infix
import LangGraphServer.Lib.Decimal
import LangGraphServer.Lib.Dict
import LangGraphServer.Python

set_option autoImplicit false

namespace LangGraphServer

open Collections Decimal

inductive ReceivedMessage where
  | request (body : Option Bytes) (moreBody : Option Bool)
  | disconnect
  | other (type : String)
deriving DecidableEq, Repr

-- The messages that the server delivers, one for each `receive`. Where they end, the
-- receiver waits.
abbrev ReceiveChannel := List ReceivedMessage

def receive : ReceiveChannel → Option (ReceivedMessage × ReceiveChannel)
  | [] => none
  | message :: rest => some (message, rest)

structure AsgiScope where
  type : String
  headers : List (Bytes × Bytes)

def contentLengthHeader : Bytes := "content-length".toUTF8.toList

-- Of repeated headers the last one counts, and what is no number counts as nothing.
def declaredLength (headers : List (Bytes × Bytes)) : Option Int :=
  ((Dict.empty.setAll headers).get? contentLengthHeader).map (fun value => (intOfBytes value).getD 0)

inductive BodyRead where
  | tooLarge
  | complete (messages : List ReceivedMessage) (rest : ReceiveChannel)
  | waiting

def readBody (maxBodyBytes consumed : Nat) (messages : List ReceivedMessage) : ReceiveChannel → BodyRead
  | [] => .waiting
  | .request body moreBody :: rest =>
      let consumed := consumed + (body.getD []).length
      if maxBodyBytes < consumed then .tooLarge
      else if moreBody.getD false = false then .complete (messages ++ [.request body moreBody]) rest
      else readBody maxBodyBytes consumed (messages ++ [.request body moreBody]) rest
  | .disconnect :: rest => .complete (messages ++ [.disconnect]) rest
  | .other type :: rest => readBody maxBodyBytes consumed (messages ++ [.other type]) rest

structure ReplayReceive where
  messages : List ReceivedMessage
  messageIndex : Nat
  channel : ReceiveChannel
deriving DecidableEq

def replayReceive (replay : ReplayReceive) : Option (ReceivedMessage × ReplayReceive) :=
  match replay.messages[replay.messageIndex]? with
  | some message => some (message, { replay with messageIndex := replay.messageIndex + 1 })
  | none => (receive replay.channel).map (fun received => (received.1, { replay with channel := received.2 }))

-- What becomes of a request: it is answered, or the wrapped application is called once with
-- its `receive`, or its body has not arrived.
inductive LimitOutcome where
  | rejected (statusCode : Nat) (detail : String)
  | called (replay : ReplayReceive)
  | waiting
deriving DecidableEq

def bodyTooLarge : LimitOutcome := .rejected 413 "Request body exceeds the configured limit"

def requestBodyLimit (maxBodyBytes : Nat) (scope : AsgiScope) (channel : ReceiveChannel) : LimitOutcome :=
  if scope.type ≠ "http" then .called ⟨[], 0, channel⟩
  else if (declaredLength scope.headers).any (fun declared => decide ((maxBodyBytes : Int) < declared))
    then bodyTooLarge
  else match readBody maxBodyBytes 0 [] channel with
    | .tooLarge => bodyTooLarge
    | .complete messages rest => .called ⟨messages, 0, rest⟩
    | .waiting => .waiting

def receivedBy : Nat → ReplayReceive → List ReceivedMessage
  | 0, _ => []
  | calls + 1, replay => match replayReceive replay with
      | some (message, next) => message :: receivedBy calls next
      | none => []

-- The chunks of the body, up to the final one or to a disconnect.
def bodyChunks : ReceiveChannel → List Bytes
  | [] => []
  | .request body moreBody :: rest => body.getD [] :: (if moreBody.getD false then bodyChunks rest else [])
  | .disconnect :: _ => []
  | .other _ :: rest => bodyChunks rest

def BodyEnds : ReceiveChannel → Prop
  | [] => False
  | .request _ moreBody :: rest => moreBody.getD false = true → BodyEnds rest
  | .disconnect :: _ => True
  | .other _ :: rest => BodyEnds rest

-- The length that the headers declare: what the last content-length header spells, and zero
-- where it spells no number.
inductive Declares (headers : List (Bytes × Bytes)) : Int → Prop where
  | spelled (before after : List (Bytes × Bytes)) (value : Bytes) (length : Int) :
      headers = before ++ ("content-length".toUTF8.toList, value) :: after →
      (∀ header ∈ after, header.1 ≠ "content-length".toUTF8.toList) → IntegerLiteral value length →
        Declares headers length
  | malformed (before after : List (Bytes × Bytes)) (value : Bytes) :
      headers = before ++ ("content-length".toUTF8.toList, value) :: after →
      (∀ header ∈ after, header.1 ≠ "content-length".toUTF8.toList) → (∀ length, ¬ IntegerLiteral value length) →
      Declares headers 0

theorem declared_length_iff (headers : List (Bytes × Bytes)) (length : Int) :
    declaredLength headers = some length ↔ Declares headers length := by
  have last (value : Bytes) := Dict.get_set_all_last headers .empty contentLengthHeader value
  simp only [Dict.get_empty, reduceCtorEq, and_false, or_false] at last
  rw [declaredLength, Option.map_eq_some_iff]
  constructor
  · rintro ⟨value, found, rfl⟩
    obtain ⟨before, after, whole, final⟩ := (last value).mp found
    cases read : intOfBytes value with
    | some length => exact .spelled before after value length whole final ((int_of_bytes_iff value length).mp read)
    | none =>
        refine .malformed before after value whole final (fun length spelled => ?_)
        rw [(int_of_bytes_iff value length).mpr spelled] at read
        cases read
  · intro declares
    cases declares with
    | spelled before after value _ whole final spelled =>
        exact ⟨value, (last value).mpr ⟨before, after, whole, final⟩,
          by rw [(int_of_bytes_iff value length).mpr spelled, Option.getD_some]⟩
    | malformed before after value whole final nothing =>
        refine ⟨value, (last value).mpr ⟨before, after, whole, final⟩, ?_⟩
        cases read : intOfBytes value with
        | some length => exact absurd ((int_of_bytes_iff value length).mp read) (nothing length)
        | none => rfl

def totalBytes (chunks : List Bytes) : Nat := (chunks.map List.length).sum

def SomePrefixExceeds (maxBodyBytes : Nat) (chunks : List Bytes) : Prop :=
  ∃ part, part <+: chunks ∧ maxBodyBytes < totalBytes part

theorem some_prefix_exceeds_iff (maxBodyBytes : Nat) (chunks : List Bytes) :
    SomePrefixExceeds maxBodyBytes chunks ↔ maxBodyBytes < totalBytes chunks := by
  constructor
  · rintro ⟨part, ⟨rest, rfl⟩, large⟩
    rw [totalBytes, List.map_append, List.sum_append]
    rw [totalBytes] at large
    omega
  · intro large
    exact ⟨chunks, List.prefix_rfl, large⟩

-- The loop keeps what it reads, in order, and it stops where the body ends or is too large.
structure BodyReadSpec (maxBodyBytes consumed : Nat) (messages : List ReceivedMessage) (channel : ReceiveChannel)
    (outcome : BodyRead) : Prop where
  tooLarge : outcome = .tooLarge ↔ maxBodyBytes < consumed + totalBytes (bodyChunks channel)
  kept : ∀ read rest, outcome = .complete read rest → read ++ rest = messages ++ channel
  ends : BodyEnds channel → outcome ≠ .waiting

theorem read_body_spec (maxBodyBytes consumed : Nat) (messages : List ReceivedMessage) (channel : ReceiveChannel)
    (within : consumed ≤ maxBodyBytes) :
    BodyReadSpec maxBodyBytes consumed messages channel (readBody maxBodyBytes consumed messages channel) := by
  induction channel generalizing consumed messages with
  | nil =>
      refine ⟨⟨fun large => (by cases large), fun large => ?_⟩, fun read rest done => (by cases done),
        fun ends => ends.elim⟩
      rw [bodyChunks, totalBytes, List.map_nil, List.sum_nil] at large
      omega
  | cons message rest ih =>
      cases message with
      | request body moreBody =>
          have total : ∀ chunks, totalBytes (body.getD [] :: chunks) = (body.getD []).length + totalBytes chunks := by
            intro chunks
            rw [totalBytes, List.map_cons, List.sum_cons, totalBytes]
          rw [readBody]
          by_cases large : maxBodyBytes < consumed + (body.getD []).length
          · rw [if_pos large]
            refine ⟨⟨fun _ => ?_, fun _ => rfl⟩, fun read rest done => (by cases done), fun _ waits => (by cases waits)⟩
            rw [bodyChunks, total]
            omega
          · rw [if_neg large]
            cases more : moreBody.getD false with
            | false =>
                rw [if_pos rfl]
                refine ⟨⟨fun done => (by cases done), fun beyond => ?_⟩, fun read rest done => ?_,
                  fun _ waits => (by cases waits)⟩
                · rw [bodyChunks, more, if_neg Bool.false_ne_true, total, totalBytes, List.map_nil, List.sum_nil]
                    at beyond
                  omega
                · cases done
                  rw [List.append_assoc, List.singleton_append]
            | true =>
                rw [if_neg (fun wrong => Bool.noConfusion wrong)]
                have tail := ih (consumed + (body.getD []).length) (messages ++ [.request body moreBody])
                  (Nat.le_of_not_lt large)
                refine ⟨?_, fun read rest done => ?_, fun ends => tail.ends (ends more)⟩
                · rw [tail.tooLarge, bodyChunks, more, if_pos rfl, total, Nat.add_assoc]
                · rw [tail.kept read rest done, List.append_assoc, List.singleton_append]
      | disconnect =>
          rw [readBody]
          refine ⟨⟨fun done => (by cases done), fun beyond => ?_⟩, fun read rest done => ?_,
            fun _ waits => (by cases waits)⟩
          · rw [bodyChunks, totalBytes, List.map_nil, List.sum_nil] at beyond
            omega
          · cases done
            rw [List.append_assoc, List.singleton_append]
      | other type =>
          rw [readBody]
          have tail := ih consumed (messages ++ [.other type]) within
          refine ⟨tail.tooLarge, fun read rest done => ?_, tail.ends⟩
          rw [tail.kept read rest done, List.append_assoc, List.singleton_append]

theorem received_by_replay (calls index : Nat) (messages : List ReceivedMessage) (channel : ReceiveChannel)
    (started : index ≤ messages.length) :
    receivedBy calls ⟨messages, index, channel⟩ = (messages.drop index ++ channel).take calls := by
  induction calls generalizing index channel with
  | zero => rw [receivedBy, List.take_zero]
  | succ calls ih =>
      rw [receivedBy, replayReceive]
      by_cases buffered : index < messages.length
      · rw [List.getElem?_eq_getElem buffered]
        simp only
        rw [ih (index + 1) channel buffered, List.drop_eq_getElem_cons buffered, List.cons_append, List.take_succ_cons]
      · have drained : index = messages.length := Nat.le_antisymm started (Nat.le_of_not_lt buffered)
        rw [List.getElem?_eq_none (Nat.le_of_not_lt buffered)]
        have nothing : messages.drop index = [] := List.drop_eq_nil_of_le (Nat.le_of_not_lt buffered)
        cases channel with
        | nil => rw [receive, Option.map_none, nothing, List.nil_append, List.take_nil]
        | cons message rest =>
            rw [receive, Option.map_some]
            simp only
            rw [ih index rest started, nothing, List.nil_append, List.nil_append, List.take_succ_cons]

-- A request is answered with 413 exactly when its declared length or a prefix of its body
-- is too large; any other whose body ends goes to the application, which receives what the
-- server delivered.
theorem body_limit_exact_and_transparent (maxBodyBytes : Nat) (headers : List (Bytes × Bytes))
    (channel : ReceiveChannel) :
    (requestBodyLimit maxBodyBytes ⟨"http", headers⟩ channel = bodyTooLarge ↔
      (∃ declared, Declares headers declared ∧ (maxBodyBytes : Int) < declared) ∨
        SomePrefixExceeds maxBodyBytes (bodyChunks channel)) ∧
    (∀ replay, requestBodyLimit maxBodyBytes ⟨"http", headers⟩ channel = .called replay →
      (∀ calls, receivedBy calls replay = channel.take calls) ∧ totalBytes (bodyChunks channel) ≤ maxBodyBytes) ∧
    (BodyEnds channel → requestBodyLimit maxBodyBytes ⟨"http", headers⟩ channel = bodyTooLarge ∨
      ∃ replay, requestBodyLimit maxBodyBytes ⟨"http", headers⟩ channel = .called replay) := by
  have read := read_body_spec maxBodyBytes 0 [] channel (Nat.zero_le _)
  have declares : (declaredLength headers).any (fun declared => decide ((maxBodyBytes : Int) < declared)) = true ↔
      ∃ declared, Declares headers declared ∧ (maxBodyBytes : Int) < declared := by
    rw [Option.any_eq_true]
    exact exists_congr (fun declared => and_congr (declared_length_iff headers declared) decide_eq_true_iff)
  rw [some_prefix_exceeds_iff, ← declares]
  rw [requestBodyLimit, if_neg (fun different => different rfl)]
  simp only
  by_cases declared : (declaredLength headers).any (fun declared => decide ((maxBodyBytes : Int) < declared)) = true
  · rw [if_pos declared]
    exact ⟨⟨fun _ => Or.inl declared, fun _ => rfl⟩, fun replay called => (by cases called), fun _ => Or.inl rfl⟩
  · rw [if_neg declared]
    have exact_ := read.tooLarge
    rw [Nat.zero_add] at exact_
    cases outcome : readBody maxBodyBytes 0 [] channel with
    | tooLarge =>
        exact ⟨⟨fun _ => Or.inr (exact_.mp outcome), fun _ => rfl⟩, fun replay called => (by cases called),
          fun _ => Or.inl rfl⟩
    | complete messages rest =>
        have small : ¬ maxBodyBytes < totalBytes (bodyChunks channel) := by
          intro large
          rw [exact_.mpr large] at outcome
          cases outcome
        refine ⟨⟨fun wrong => (by cases wrong), fun beyond => ?_⟩, fun replay called => ?_, fun _ => Or.inr ⟨_, rfl⟩⟩
        · rcases beyond with wrong | wrong
          · exact absurd wrong declared
          · exact absurd wrong small
        · cases called
          refine ⟨fun calls => ?_, Nat.le_of_not_lt small⟩
          rw [received_by_replay calls 0 messages rest (Nat.zero_le _), List.drop_zero, read.kept messages rest outcome,
            List.nil_append]
    | waiting =>
        have small : ¬ maxBodyBytes < totalBytes (bodyChunks channel) := by
          intro large
          rw [exact_.mpr large] at outcome
          cases outcome
        refine ⟨⟨fun wrong => (by cases wrong), fun beyond => ?_⟩, fun replay called => (by cases called),
          fun ends => ?_⟩
        · rcases beyond with wrong | wrong
          · exact absurd wrong declared
          · exact absurd wrong small
        · exact absurd outcome (read.ends ends)

theorem other_scopes_pass (maxBodyBytes : Nat) (scope : AsgiScope) (channel : ReceiveChannel)
    (different : scope.type ≠ "http") :
    ∃ replay, requestBodyLimit maxBodyBytes scope channel = .called replay ∧
      ∀ calls, receivedBy calls replay = channel.take calls := by
  refine ⟨⟨[], 0, channel⟩, by rw [requestBodyLimit, if_pos different], fun calls => ?_⟩
  rw [received_by_replay calls 0 [] channel (Nat.zero_le _), List.drop_zero, List.nil_append]

example : requestBodyLimit 4 ⟨"http", [(contentLengthHeader, "x".toUTF8.toList)]⟩
    [.request (some [1, 2, 3]) (some true), .request (some [4, 5]) none] = bodyTooLarge := by decide +kernel

end LangGraphServer
