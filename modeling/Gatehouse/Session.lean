import Gatehouse.Cache
import Gatehouse.Identifier

/-!
# Sessions

A session that was recorded can be ended once, as long as its entry in the
cache counts. Where sessions are not tracked, every session can be ended at any
time.
-/

namespace Gatehouse.Session

/-- The cache key of a session of an account. -/
def key (subject : AccountId) (session : SessionId) : String :=
  "auth:" ++ subject.text ++ ":session:" ++ session.text

/-- Whether sessions are tracked. Where they are not, nothing is recorded, and
every session may end. -/
structure Registry where
  tracks : Bool
  deriving DecidableEq, Inhabited

/-- Record a session for some time. -/
def Registry.record (registry : Registry) (cache : TtlCache) (now : Nat) (subject : AccountId)
    (session : SessionId) (ttl : Span) : Except StoreFault TtlCache :=
  if registry.tracks then cache.set now (key subject session) session.text ttl else .ok cache

/-- End a session: whether it could end, and the cache without it. -/
def Registry.consume (registry : Registry) (cache : TtlCache) (now : Nat) (subject : AccountId)
    (session : SessionId) : Bool × TtlCache :=
  if registry.tracks then
    (cache.exists_ now (key subject session), cache.delete (key subject session))
  else (true, cache)

end Gatehouse.Session
