import Gatehouse.Password.Phc

/-!
# Passwords

A password is kept as the text of its hash with a salt of its own. It is
verified with the costs and the salt of that text; a malformed text matches no
password.
-/

namespace Gatehouse.Password

/-- The costs of new hashes. -/
def costs : Argon2.Params := PasswordHash.defaults .hybrid 19 32

/-- The hash of a password with a salt. -/
def hashed (password : String) (salt : Bytes) : PasswordHash :=
  ⟨costs, salt, Argon2.digest costs (bytesOfText password) salt⟩

/-- The hash text of a password with a salt. -/
def hash (password : String) (salt : Bytes) : String := (hashed password salt).text

/-- Whether a password belongs to a hash. -/
def matchesHash (hash : PasswordHash) (password : String) : Bool :=
  Argon2.digest hash.params (bytesOfText password) hash.salt == hash.digest

/-- Whether a password belongs to a hash text. -/
def verify (hash password : String) : Bool :=
  match PasswordHash.parse? hash with
  | some parsed => matchesHash parsed password
  | none => false

end Gatehouse.Password
