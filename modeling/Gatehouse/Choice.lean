import Gatehouse.Text.Blank

/-!
# Closed sets of names

Some settings are one of a few named values. A name is looked up without the
blanks around it and in any letter case.
-/

namespace Gatehouse

/-- The values of a type that have names. -/
structure Choice (α : Type) where
  all : List α
  name : α → String

namespace Choice

variable {α : Type}

/-- The value with exactly this name. -/
def ofName? (choice : Choice α) (name : String) : Option α :=
  choice.all.find? fun value => choice.name value == name

/-- The form in which a name is looked up. -/
def plain (text : String) : String := lowerAscii (trim text)

/-- The wording where a text names no value. -/
def refusal (text : String) : String := "unknown value '" ++ plain text ++ "'"

/-- The value that a text names. -/
def ofText? (choice : Choice α) (text : String) : Option α := choice.ofName? (plain text)

end Choice

/-- Whether the handler of a call runs before or behind the gate. -/
inductive ExecutionOrder where
  | executeThenAuthorize
  | authorizeThenExecute
  deriving DecidableEq, Repr, Inhabited

namespace ExecutionOrder

/-- The orders with their names. -/
def choice : Choice ExecutionOrder where
  all := [.executeThenAuthorize, .authorizeThenExecute]
  name
    | .executeThenAuthorize => "execute_then_authorize"
    | .authorizeThenExecute => "authorize_then_execute"

/-- How an order is shown in a description. -/
def label : ExecutionOrder → String
  | .executeThenAuthorize => "ExecuteThenAuthorize"
  | .authorizeThenExecute => "AuthorizeThenExecute"

end ExecutionOrder

/-- What becomes of calls while the rules cannot be looked up. -/
inductive LookupFailurePolicy where
  /-- Every procedure is taken to have no rule. -/
  | failOpen
  /-- Every call is refused. -/
  | failClosed
  deriving DecidableEq, Repr, Inhabited

namespace LookupFailurePolicy

/-- The policies with their names. -/
def choice : Choice LookupFailurePolicy where
  all := [.failOpen, .failClosed]
  name
    | .failOpen => "fail_open"
    | .failClosed => "fail_closed"

/-- How a policy is shown in a description. -/
def label : LookupFailurePolicy → String
  | .failOpen => "FailOpen"
  | .failClosed => "FailClosed"

end LookupFailurePolicy

/-- Where cached entries are kept. -/
inductive CacheBackend where
  | memory
  | redis
  deriving DecidableEq, Repr, Inhabited

/-- The places with their names. -/
def CacheBackend.choice : Choice CacheBackend where
  all := [.memory, .redis]
  name
    | .memory => "memory"
    | .redis => "redis"

/-- The form of log lines. -/
inductive LogFormat where
  | json
  | pretty
  deriving DecidableEq, Repr, Inhabited

namespace LogFormat

/-- The form that a setting asks for. -/
def ofFlag (json : Bool) : LogFormat := if json then .json else .pretty

/-- How a form is shown in a description. -/
def label : LogFormat → String
  | .json => "Json"
  | .pretty => "Pretty"

end LogFormat

end Gatehouse
