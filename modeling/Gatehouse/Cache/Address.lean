import Gatehouse.Cache
import Gatehouse.Settings

/-!
# Where the cache is

A cache is kept in memory or under an address of a Redis server. An address is
a URL of one of a few schemes.
-/

namespace Gatehouse.CacheAddress

/-- The schemes of an address. -/
def schemes : List String := ["redis", "rediss", "redis+unix", "unix"]

/-- Whether a character may stand in a scheme behind its first letter. -/
def isSchemeChar (c : Char) : Bool := c.isAlphanum || c == '+' || c == '-' || c == '.'

/-- The scheme of a URL in lower case, and what stands behind its colon.
Controls and blanks at the ends do not count. -/
def splitScheme? (url : String) : Option (String × List Char) :=
  let isOuter (c : Char) : Bool := c.toNat ≤ 0x20
  let chars := ((url.toList.dropWhile isOuter).reverse.dropWhile isOuter).reverse
  let scheme := chars.takeWhile isSchemeChar
  match scheme, chars.drop scheme.length with
  | c :: _, ':' :: rest =>
      if c.isAlpha then some (lowerAscii (String.ofList scheme), rest) else none
  | _, _ => none

/-- Whether a character may stand in the name of a host. -/
def isHostChar (c : Char) : Bool :=
  !("\x00\t\n\r #<>?@[\\]^|").toList.contains c

/-- Whether a port is a number below 2 ^ 16. -/
def isPort (digits : List Char) : Bool :=
  digits.all Char.isDigit && ((String.ofList digits).toNat?.getD 0) < UInt16.size

/-- Whether what stands behind the colon of a scheme may name a host. -/
def hasPlainHost (rest : List Char) : Bool :=
  match rest with
  | '/' :: '/' :: rest =>
      let authority := rest.takeWhile fun c => c != '/' && c != '?' && c != '#'
      let place := (authority.reverse.takeWhile (· != '@')).reverse
      match place with
      | '[' :: _ => true
      | _ =>
          let host := place.takeWhile (· != ':')
          host.all isHostChar && isPort (place.drop (host.length + 1))
  | _ => true

/-- Whether a text is an address of a Redis server. -/
def isAddress (url : String) : Bool :=
  match splitScheme? url with
  | some (scheme, rest) => schemes.contains scheme && hasPlainHost rest
  | none => false

/-- The refusal to connect, with its reason. -/
def refused (reason : String) : StoreFault := .cache ("redis connection failed: " ++ reason)

/-- The cache that settings ask for. Only a cache in memory is at hand. -/
def open_ (settings : Settings) : Except StoreFault TtlCache :=
  match settings.get .cacheBackend with
  | .memory => .ok .empty
  | .redis =>
      if isAddress (settings.get .redisUrl) then
        .error (refused "Connection refused (os error 111)")
      else .error (refused "Redis URL did not parse- InvalidClientConfig")

end Gatehouse.CacheAddress
