import Gatehouse.Call
import Gatehouse.Json.Printer
import Gatehouse.Status

/-!
# The audit trail

Every call leaves a record of its request and its outcome. Records wait in a
queue of bounded length; a record that finds the queue full is dropped and
counted. The values of headers that carry credentials are not recorded.
-/

namespace Gatehouse

/-- What is kept of a call. -/
structure AuditRecord where
  procedure : String
  receivedAt : Moment
  /-- How long the call took, in milliseconds. -/
  duration : Int
  request : Json
  result : CallResult
  headers : OrderedMap String String
  deriving Inhabited

namespace AuditRecord

/-- The headers whose values are not recorded. -/
def redactedHeaders : List String := ["authorization", "cookie"]

/-- What is recorded of a header. -/
def shownHeader (entry : String × Bytes) : String × String :=
  (entry.1, if redactedHeaders.contains entry.1 then "[redacted]" else lenientText entry.2)

/-- The headers of a call as they are recorded; of one name the last value
stays. -/
def shownHeaders (headers : Headers) : OrderedMap String String :=
  .ofList (headers.entries.map shownHeader)

/-- The milliseconds between two moments, less any part of one. -/
def millisBetween (earlier later : Moment) : Int :=
  let nanos := (later.seconds - earlier.seconds) * Span.nanosPerSecond +
    (later.nanos - earlier.nanos : Int)
  nanos.tdiv Span.nanosPerMilli

/-- The record of a call that has ended. -/
def ofCall (context : CallContext) (now : Moment) (request : Json) (result : CallResult) :
    AuditRecord :=
  ⟨context.procedure, context.receivedAt, millisBetween context.receivedAt now, request, result,
    shownHeaders context.headers⟩

/-- Whether the call succeeded. -/
def isOk (record : AuditRecord) : Bool := record.result.isOk

/-- The outcome of the call, as a response or an error. -/
def outcome (record : AuditRecord) : String × Json :=
  match record.result with
  | .ok response => ("response", response)
  | .error status => ("error", Status.codec.write status)

/-- A record in JSON. -/
def toJson (record : AuditRecord) : Json :=
  .object [("procedure", .string record.procedure),
    ("received_at", .string record.receivedAt.text), ("duration_ms", .int record.duration),
    ("request", record.request), record.outcome,
    ("headers", .object (record.headers.entries.map fun entry => (entry.1, .string entry.2)))]

/-- What every line of the trail says. -/
def heading : String := "call audited"

/-- A record as a line of the trail, with its text. -/
def toLine (record : AuditRecord) : Json :=
  .object [("message", .string heading), ("procedure", .string record.procedure),
    ("ok", .bool record.isOk), ("duration_ms", .int record.duration),
    ("record", .string record.toJson.encode)]

end AuditRecord

/-- The records that wait to be written, the oldest first, and the number of
those that were dropped. -/
structure AuditQueue where
  capacity : Nat
  queued : List AuditRecord
  dropped : UInt64
  deriving Inhabited

namespace AuditQueue

/-- The greatest length that a queue can be given. -/
def maxCapacity : Nat := (1 <<< 61) - 1

/-- An empty queue for so many records, but for one at least. -/
def ofCapacity (capacity : Nat) : AuditQueue := ⟨max capacity 1, [], 0⟩

/-- An empty queue, unless it would be too long. -/
def ofCapacity? (capacity : Nat) : Option AuditQueue :=
  if capacity ≤ maxCapacity then some (ofCapacity capacity) else none

/-- Put a record into the queue, or drop it. -/
def offer (queue : AuditQueue) (record : AuditRecord) : AuditQueue :=
  if queue.queued.length < queue.capacity then { queue with queued := queue.queued ++ [record] }
  else { queue with dropped := queue.dropped + 1 }

/-- The queue after its records were written. -/
def drained (queue : AuditQueue) : AuditQueue := { queue with queued := [] }

/-- The length of a queue and what it dropped, in one line. -/
def describe (queue : AuditQueue) : String :=
  "AuditSink \x7b capacity: " ++ toString queue.capacity ++ ", dropped: " ++
    toString queue.dropped.toNat ++ " \x7d"

end AuditQueue

end Gatehouse
