import Gatehouse.Digest.Argon2
import Gatehouse.Encoding.Base64

/-!
# Password hash texts

The digest of a password with everything that is needed to compute it again, as
fields between dollar signs: the variant, the version, the costs, the salt and
the digest, the last two in base 64.

A version or costs that are left out have defaults. Costs are decimal numbers
without leading zeros, in any order, of which the last of one name counts.
-/

namespace Gatehouse

/-- A password hash: the costs, the salt and the digest. -/
structure PasswordHash where
  params : Argon2.Params
  salt : Bytes
  digest : Bytes
  deriving DecidableEq, Inhabited

namespace PasswordHash

/-- The name of a variant. -/
def variantName : Argon2.Variant → List Char
  | .dependent => "argon2d".toList
  | .independent => "argon2i".toList
  | .hybrid => "argon2id".toList

/-- The variant of a name. -/
def variantOfName? (name : List Char) : Option Argon2.Variant :=
  [.dependent, .independent, .hybrid].find? fun variant => variantName variant == name

/-- The characters of a hash text. -/
def render (hash : PasswordHash) : List Char :=
  '$' :: variantName hash.params.variant ++
    "$v=".toList ++ Nat.toDigits 10 hash.params.version ++
    "$m=".toList ++ Nat.toDigits 10 hash.params.memory ++
    ",t=".toList ++ Nat.toDigits 10 hash.params.passes ++
    ",p=".toList ++ Nat.toDigits 10 hash.params.lanes ++
    '$' :: Base64.plain.encode hash.salt ++ '$' :: Base64.plain.encode hash.digest

/-- The text of a hash. -/
def text (hash : PasswordHash) : String := String.ofList hash.render

/-! ## Reading -/

/-- Whether a name consists of 1 to 32 lower-case letters, digits and hyphens. -/
def isName (name : List Char) : Bool :=
  0 < name.length && name.length ≤ 32 &&
    name.all fun c => ('a' ≤ c && c ≤ 'z') || c.isDigit || c == '-'

/-- Whether a value consists of at most 64 letters, digits, slashes, pluses,
points and hyphens. -/
def isValue (value : List Char) : Bool :=
  value.length ≤ 64 &&
    value.all fun c => c.isAlphanum || c == '/' || c == '+' || c == '.' || c == '-'

/-- A decimal number below 2 ^ 32 without leading zeros. -/
def decimal? (digits : List Char) : Option Nat :=
  if digits.isEmpty ∨ !digits.all Char.isDigit ∨ (digits.length ≠ 1 ∧ digits.head? = some '0') then
    none
  else
    let n := digits.foldl (fun n c => n * 10 + (c.toNat - 48)) 0
    if n < UInt32.size then some n else none

/-- A name and a value around an equals sign. -/
def pair? (text : List Char) : Option (List Char × List Char) :=
  match text.splitOn '=' with
  | [name, value] => if isName name && isValue value then some (name, value) else none
  | _ => none

/-- The named costs of a field. -/
def pairs? (field : List Char) : Option (List (List Char × List Char)) :=
  if 127 < (field.map Char.utf8Size).foldr (· + ·) 0 then none else (field.splitOn ',').mapM pair?

/-- The costs that hold where a text names none. -/
def defaults (variant : Argon2.Variant) (version length : Nat) : Argon2.Params :=
  ⟨variant, version, 19456, 2, 1, length, []⟩

/-- Costs with one of them named. -/
def setCost? (params : Argon2.Params) (pair : List Char × List Char) : Option Argon2.Params :=
  let (name, value) := pair
  if name = ['m'] then (decimal? value).map fun n => { params with memory := n }
  else if name = ['t'] then (decimal? value).map fun n => { params with passes := n }
  else if name = ['p'] then (decimal? value).map fun n => { params with lanes := n }
  else if name = "keyid".toList then do
    if (← Base64.plain.decode? value).length ≤ 8 then some params else none
  else if name = "data".toList then do
    let data ← Base64.plain.decode? value
    if data.length ≤ 32 then some { params with data := data } else none
  else none

/-- Whether digests can be computed at these costs. -/
def isFeasible (params : Argon2.Params) : Bool :=
  8 ≤ params.memory && 1 ≤ params.passes && 1 ≤ params.lanes && params.lanes < 1 <<< 24 &&
    8 * params.lanes ≤ params.memory

/-- The version in a field that names one. -/
def version? (field : List Char) : Option (Option (List Char)) :=
  match field with
  | 'v' :: '=' :: value =>
      if value.contains ',' then none else some (if isValue value then some value else none)
  | _ => none

/-- The version in front of some fields, with the fields behind it. -/
def versionOf? (fields : List (List Char)) : Option (Nat × List (List Char)) :=
  match fields with
  | field :: rest =>
      match version? field with
      | some value => do
          let version ← decimal? (← value)
          if version = 16 ∨ version = 19 then some (version, rest) else none
      | none => some (19, fields)
  | [] => none

/-- The costs in front of some fields, with the fields behind them. -/
def costsOf? (fields : List (List Char)) :
    Option (List (List Char × List Char) × List (List Char)) :=
  match fields with
  | field :: rest =>
      if field.contains '=' then (pairs? field).map (·, rest) else some ([], fields)
  | [] => none

/-- The hash of a salt and a digest at the costs in front of them. -/
def saltedOf? (variant : Argon2.Variant) (version : Nat) (costs : List (List Char × List Char))
    (fields : List (List Char)) : Option PasswordHash :=
  match fields with
  | [saltText, digestText] =>
      if saltText.length < 4 ∨ !isValue saltText then none
      else do
        let salt ← Base64.plain.decode? saltText
        let digest ← Base64.plain.decode? digestText
        if salt.length < 8 ∨ digest.length < 10 ∨ 64 < digest.length then none
        else
          let params ← costs.foldlM setCost? (defaults variant version digest.length)
          if isFeasible params then some ⟨params, salt, digest⟩ else none
  | _ => none

/-- Read the fields behind the variant. -/
def ofFields? (variant : Argon2.Variant) (fields : List (List Char)) : Option PasswordHash := do
  let (version, fields) ← versionOf? fields
  let (costs, fields) ← costsOf? fields
  saltedOf? variant version costs fields

/-- Read a hash text. -/
def parse? (text : String) : Option PasswordHash :=
  match text.toList.splitOn '$' with
  | [] :: name :: fields => do ofFields? (← variantOfName? name) fields
  | _ => none

end PasswordHash

end Gatehouse
