import Gatehouse.Fault
import Gatehouse.Json.Printer
import Gatehouse.Ordered.Map
import Gatehouse.Time.Span

/-!
# A cache whose entries expire

An entry counts before the instant at which it expires, and no longer. Expired
entries are dropped whenever an entry is set.
-/

namespace Gatehouse

/-- A value with the instant at which it expires. -/
structure CacheEntry where
  value : String
  expires : Nat
  deriving DecidableEq, Inhabited

/-- Whether an entry still counts at an instant. -/
def CacheEntry.isLive (now : Nat) (entry : CacheEntry) : Bool := now < entry.expires

/-- Values under keys, each with an expiry. -/
structure TtlCache where
  entries : OrderedMap String CacheEntry
  deriving Inhabited

namespace TtlCache

/-- A cache without entries. -/
def empty : TtlCache := ⟨.empty⟩

/-- The first instant that the clock cannot show. -/
def endOfTime : Nat := (1 <<< 63) * Span.nanosPerSecond

/-- The value under a key. -/
def get? (cache : TtlCache) (now : Nat) (key : String) : Option String :=
  ((cache.entries.get? key).filter (·.isLive now)).map CacheEntry.value

/-- Whether there is a value under a key. -/
def exists_ (cache : TtlCache) (now : Nat) (key : String) : Bool := (cache.get? now key).isSome

/-- Put a value under a key for some time. -/
def set (cache : TtlCache) (now : Nat) (key value : String) (ttl : Span) :
    Except StoreFault TtlCache :=
  if now + ttl.nanos < endOfTime then
    .ok ⟨(cache.entries.filter (·.isLive now)).insert key ⟨value, now + ttl.nanos⟩⟩
  else .error (.cache ("ttl " ++ ttl.text ++ " out of range"))

/-- Put the text of a value under a key for some time. The value comes with why it cannot be
written in JSON, if it cannot. -/
def setObject (cache : TtlCache) (now : Nat) (key : String) (written : Except String Json)
    (ttl : Span) : Except StoreFault TtlCache :=
  match written with
  | .ok json => cache.set now key json.encode ttl
  | .error text => .error (.serialization text)

/-- Take the value under a key away. -/
def delete (cache : TtlCache) (key : String) : TtlCache := ⟨cache.entries.erase key⟩

/-- The number of entries that count. -/
def size (cache : TtlCache) (now : Nat) : Nat := (cache.entries.filter (·.isLive now)).size

/-- Whether no entry counts. -/
def isEmpty (cache : TtlCache) (now : Nat) : Bool := cache.size now == 0

end TtlCache

end Gatehouse
