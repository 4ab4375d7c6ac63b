import Gatehouse.Identifier
import Gatehouse.Json.Record
import Gatehouse.Role
import Gatehouse.Time.Moment

/-!
# Accounts

Accounts are found by their e-mail address or identifier as long as they are
not deleted; of several that match, the one stored first is found. The hash of
the password is read from JSON and never written.
-/

namespace Gatehouse

/-- Someone who can log in. -/
structure Account where
  id : AccountId
  name : String
  email : String
  passwordHash : String
  role : Role
  createdAt : Moment
  deletedAt : Option Moment
  deriving DecidableEq, Inhabited

namespace Account

/-- Whether the account has been deleted. -/
def isDeleted (account : Account) : Bool := account.deletedAt.isSome

/-- An account that is made at a moment. -/
def made (id : AccountId) (name email passwordHash : String) (role : Role) (now : Moment) :
    Account :=
  ⟨id, name, email, passwordHash, role, now, none⟩

/-- The fields of an account. -/
def fields : List Json.Field :=
  [.required "id" (Identifier.codec .account), .required "name" .text, .required "email" .text,
    .hidden "password_hash" .text, .required "role" Role.codec,
    .required "created_at" Moment.codec, .valueOrAbsent "deleted_at" Moment.codec]

/-- An account from the values of its fields. -/
def ofValues : Json.Record.Values fields → Account
  | (id, name, email, passwordHash, role, createdAt, deletedAt, ()) =>
      ⟨id, name, email, passwordHash, role, createdAt, deletedAt⟩

/-- The values of the fields of an account. -/
def toValues (account : Account) : Json.Record.Values fields :=
  (account.id, account.name, account.email, account.passwordHash, account.role,
    account.createdAt, account.deletedAt, ())

/-- An account in JSON. -/
def codec : Json.Codec Account := Json.Record.codec "Account" fields ofValues toValues

end Account

/-- The stored accounts, in the order of their insertion. -/
structure AccountStore where
  accounts : List Account
  deriving Inhabited

namespace AccountStore

/-- Store an account behind the others. -/
def insert (store : AccountStore) (account : Account) : AccountStore :=
  ⟨store.accounts ++ [account]⟩

/-- The first account with an e-mail address that is not deleted. -/
def findByEmail? (store : AccountStore) (email : String) : Option Account :=
  store.accounts.find? fun account => !account.isDeleted && account.email == email

/-- The first account with an identifier that is not deleted. -/
def findById? (store : AccountStore) (id : AccountId) : Option Account :=
  store.accounts.find? fun account => !account.isDeleted && account.id == id

/-- Mark the first account with an identifier that is not deleted. -/
def markDeleted (id : AccountId) (now : Moment) : List Account → List Account
  | [] => []
  | account :: rest =>
      if account.id == id && !account.isDeleted then { account with deletedAt := some now } :: rest
      else account :: markDeleted id now rest

/-- Delete the account with an identifier. -/
def delete (store : AccountStore) (id : AccountId) (now : Moment) : AccountStore :=
  ⟨markDeleted id now store.accounts⟩

end AccountStore

end Gatehouse
