import Gatehouse.Site

/-!
# Changing the policy

Changes are made one after the other. Each is stored first and published then,
so that whoever looks at the grants sees them before or after a change as a
whole; a change that cannot be stored is not published.
-/

namespace Gatehouse

/-- How the policy is changed. -/
structure PolicyEngine where
  /-- How long the store may take to answer. -/
  timeout : Span
  deriving DecidableEq, Inhabited

/-- Grants as they were published, with the number of their publication. -/
structure Snapshot where
  edition : Nat
  grants : Grants
  deriving Inhabited

namespace PolicyEngine

/-- The grants that are enforced now. -/
def snapshot : Routine Site Snapshot := .observe fun site => ⟨site.edition, site.grants⟩

/-- Wait until no change is under way, and begin one. -/
def acquire : Routine Site Unit :=
  .after (.until_ fun site => !site.writing) fun site => ((), { site with writing := true })

/-- End a change. -/
def release : Routine Site Unit := .change fun site => { site with writing := false }

/-- Carry out a task while no other change is under way. -/
def exclusively {α : Type} (task : Task StoreFault α) : Task StoreFault α :=
  .ofRoutine (acquire.bind fun _ => task.toRoutine.bind fun outcome =>
    release.bind fun _ => .done outcome)

/-- Enforce other grants from now on. -/
def publish (grants : Grants) : Routine Site Unit :=
  .change fun site => { site with grants := grants, edition := site.edition + 1 }

/-- Publish the grants with some tuples dropped and others added. -/
def publishChange (removed added : List PolicyTuple) : Routine Site Unit :=
  snapshot.bind fun current => publish (current.grants.change removed added)

/-- Drop tuples from the store and add others in one call. -/
def storeChange (engine : PolicyEngine) (operation : String) (removed added : List PolicyTuple) :
    Task StoreFault Unit :=
  callStore operation engine.timeout .policyWrite fun site =>
    (.ok (), { site with tuples := (site.tuples.eraseAll removed).insertAll added })

/-- Store a change and publish it. -/
def apply (engine : PolicyEngine) (operation : String) (removed added : List PolicyTuple) :
    Task StoreFault Unit := do
  engine.storeChange operation removed added
  publishChange removed added

/-- Add tuples, if there are any. -/
def applyAdd (engine : PolicyEngine) (tuples : List PolicyTuple) : Task StoreFault Unit :=
  if tuples.isEmpty then pure () else engine.apply "policy.add" [] tuples

/-- Drop tuples, if there are any. -/
def applyRemove (engine : PolicyEngine) (tuples : List PolicyTuple) : Task StoreFault Unit :=
  if tuples.isEmpty then pure () else engine.apply "policy.remove" tuples []

/-- The tuples that give procedures to a role. -/
def roleTuples (role : Role) (procedures : List String) : List PolicyTuple :=
  procedures.map fun procedure => ⟨role, procedure⟩

/-- Enforce what is stored. -/
def load (engine : PolicyEngine) : Task StoreFault Unit :=
  exclusively do
    let tuples ← callStore "policy.load" engine.timeout .policyLoad fun site =>
      (.ok site.tuples.toList, site)
    publish (.ofTuples tuples)

/-- Add tuples. -/
def add (engine : PolicyEngine) (tuples : List PolicyTuple) : Task StoreFault Unit :=
  exclusively (engine.applyAdd tuples)

/-- Drop tuples. -/
def remove (engine : PolicyEngine) (tuples : List PolicyTuple) : Task StoreFault Unit :=
  exclusively (engine.applyRemove tuples)

/-- Give procedures to a role that has none; whether it had none. -/
def createRole (engine : PolicyEngine) (role : Role) (procedures : List String) :
    Task StoreFault Bool :=
  exclusively do
    let current ← snapshot
    if (current.grants.filtered role.name).isEmpty then
      engine.applyAdd (roleTuples role procedures)
      return true
    else return false

/-- Give other procedures to a role that has some. The tuples that it had are
the result; there are none if nothing was changed. -/
def replaceRole (engine : PolicyEngine) (role : Role) (procedures : List String) :
    Task StoreFault (List PolicyTuple) :=
  exclusively do
    let current ← snapshot
    let former := current.grants.filtered role.name
    if former.isEmpty then return []
    else
      engine.apply "policy.replace" former (roleTuples role procedures)
      return former

/-- Take all procedures from a role. The tuples that it had are the result. -/
def removeRole (engine : PolicyEngine) (role : Role) : Task StoreFault (List PolicyTuple) :=
  exclusively do
    let current ← snapshot
    let former := current.grants.filtered role.name
    engine.applyRemove former
    return former

/-- The size of the policy in one line. -/
def describe (grants : Grants) : String :=
  "PolicyEngine \x7b tuples: " ++ toString grants.size ++ ", .. \x7d"

end PolicyEngine

end Gatehouse
