import Gatehouse.Proofs.Execution.Fixtures
import Gatehouse.Proofs.Token.Calls

/-!
# Accounts that stand

While logins, renewals and revocations are under way, accounts are inserted and deleted.
Which accounts stand is said of the history alone: those that were inserted, were not
deleted then and have not been deleted since, in the order of their insertion. As long as
identifiers are not used twice, these are the accounts that the store goes by.
-/

namespace Gatehouse

/-! ## The store -/

namespace AccountStore

/-- The stored accounts that are not deleted. -/
def live (store : AccountStore) : List Account :=
  store.accounts.filter fun account => !account.isDeleted

theorem findByEmail?_eq (store : AccountStore) (email : String) :
    store.findByEmail? email = store.live.find? (·.email == email) := by
  simp only [findByEmail?, live, List.find?_filter, Bool.decide_and, Bool.decide_eq_true]

theorem findById?_eq (store : AccountStore) (id : AccountId) :
    store.findById? id = store.live.find? (·.id == id) := by
  simp only [findById?, live, List.find?_filter, Bool.decide_and, Bool.decide_eq_true]

theorem live_insert (store : AccountStore) (account : Account) :
    (store.insert account).live = store.live ++ if account.isDeleted then [] else [account] := by
  rw [live, insert, List.filter_append, live]
  cases deleted : account.isDeleted <;> simp [deleted]

/-- Of the accounts with an identifier the first one is deleted. -/
theorem live_delete (store : AccountStore) (id : AccountId) (now : Moment) :
    (store.delete id now).live = store.live.eraseP (·.id == id) := by
  simp only [live, delete]
  induction store.accounts with
  | nil => rfl
  | cons account rest ih =>
      rw [markDeleted]
      cases deleted : account.isDeleted with
      | true => simp [deleted, ih]
      | false =>
          have marked : ({ account with deletedAt := some now } : Account).isDeleted = true := rfl
          cases same : account.id == id with
          | true => simp [same, deleted, marked]
          | false => simp [same, deleted, ih]

end AccountStore

/-- Where identifiers are not used twice, what is erased is all that has the identifier. -/
theorem Account.eraseP_eq_filter {accounts : List Account}
    (distinct : (accounts.map Account.id).Nodup) (id : AccountId) :
    accounts.eraseP (·.id == id) = accounts.filter (·.id ≠ id) := by
  induction accounts with
  | nil => rfl
  | cons account rest ih =>
      obtain ⟨fresh, others⟩ := List.nodup_cons.mp distinct
      by_cases same : account.id = id
      · have all : rest.filter (·.id ≠ id) = rest := by
          rw [List.filter_eq_self]
          intro other member
          rw [decide_eq_true_iff]
          intro also
          exact fresh (List.mem_map.mpr ⟨other, member, also.trans same.symm⟩)
        rw [List.eraseP_cons_of_pos (by simpa using same),
          List.filter_cons_of_neg (by simpa using same), all]
      · simp [same, ih others]

/-! ## The history -/

/-- Operations on the accounts, and calls of the token service. -/
inductive AccountCall where
  | insert (account : Account)
  | delete (id : AccountId)
  | session (call : SessionCall)

/-- What a call is answered with; a deletion tells whether there was an account to delete. -/
def AccountCall.Answer : AccountCall → Type
  | .insert _ => Unit
  | .delete _ => Bool
  | .session call => call.Answer

/-- Insertions, deletions and calls of the token service over one state. All but the
accounts is open to the world outside. -/
def TokenService.accountWorkload (service : TokenService) : Workload AccountCall where
  Answer := AccountCall.Answer
  program
    | .insert account =>
        .change fun site => { site with accounts := site.accounts.insert account }
    | .delete id =>
        .atomically fun site => ((site.accounts.findById? id).isSome,
          { site with accounts := site.accounts.delete id site.wall })
    | .session call => service.workload.program call
  admits _ site other := other = site
  outside site other := other.accounts = site.accounts

namespace Event

variable (event : Event AccountCall)

/-- The account that an event inserts. -/
def inserted? : Option Account :=
  match event.act with
  | .takes _ (.insert account) => some account
  | _ => none

/-- The identifier of the account that an event deletes. -/
def deleted? : Option AccountId :=
  match event.act with
  | .takes _ (.delete id) => if (event.before.accounts.findById? id).isSome then some id else none
  | _ => none

end Event

namespace Trace

variable (trace : Trace AccountCall)

/-- The accounts that were inserted, in their order. -/
def inserted : List Account := trace.filterMap Event.inserted?

/-- The identifiers of the accounts that were deleted. -/
def deleted : List AccountId := trace.filterMap Event.deleted?

/-- The accounts that stand, in the order of their insertion. -/
def standing : List Account :=
  trace.inserted.filter fun account => !account.isDeleted && !trace.deleted.contains account.id

/-- No identifier is inserted twice. -/
def Distinct : Prop := (trace.inserted.map Account.id).Nodup

/-- An account is the first one inserted of those that stand with an address. -/
def FirstWith (email : String) (account : Account) : Prop :=
  ∃ front back, trace.standing = front ++ account :: back ∧ account.email = email ∧
    ∀ other ∈ front, other.email ≠ email

variable {trace}

theorem mem_standing {account : Account} : account ∈ trace.standing ↔
    account ∈ trace.inserted ∧ account.isDeleted = false ∧ account.id ∉ trace.deleted := by
  simp [standing]

theorem FirstWith.mem {email : String} {account : Account} (first : trace.FirstWith email account) :
    account ∈ trace.standing := by
  obtain ⟨front, back, split, -, -⟩ := first
  simp [split]

theorem inserted_append (early late : Trace AccountCall) :
    (early ++ late).inserted = early.inserted ++ late.inserted :=
  List.filterMap_append ..

theorem deleted_append (early late : Trace AccountCall) :
    (early ++ late).deleted = early.deleted ++ late.deleted :=
  List.filterMap_append ..

theorem Distinct.of_append {early late : Trace AccountCall}
    (distinct : (early ++ late).Distinct) : early.Distinct := by
  rw [Distinct, inserted_append, List.map_append] at distinct
  exact (List.nodup_append.mp distinct).1

theorem Distinct.standing (distinct : trace.Distinct) :
    (trace.standing.map Account.id).Nodup :=
  distinct.sublist (List.filter_sublist.map _)

/-- What inserts nothing leaves what stands as it is but for what it deletes. -/
theorem standing_snoc {event : Event AccountCall} (kept : event.inserted? = none) :
    standing (trace ++ [event]) =
      trace.standing.filter fun account => event.deleted? ≠ some account.id := by
  have nothing : inserted [event] = [] := by simp [inserted, kept]
  rw [standing, standing, inserted_append, deleted_append, nothing, List.append_nil,
    List.filter_filter]
  congr 1
  funext account
  cases gone : event.deleted? with
  | none =>
      have nothing : deleted [event] = [] := by simp [deleted, gone]
      simp [nothing]
  | some id =>
      have given : deleted [event] = [id] := by simp [deleted, gone]
      rw [given]
      by_cases same : account.id = id
      · simp [same]
      · simp [same, Ne.symm same]

end Trace

/-! ## The store and the history -/

/-- The accounts that the store goes by are those that stand, and only accounts that were
inserted have been deleted. -/
structure Reflects (trace : Trace AccountCall) (site : Site) : Prop where
  live : site.accounts.live = trace.standing
  known : ∀ id ∈ trace.deleted, id ∈ trace.inserted.map Account.id

namespace Reflects

variable {trace : Trace AccountCall} {site other : Site} {number : Nat}

/-- What inserts nothing keeps what the store reflects, if it takes from the accounts what
it deletes. -/
theorem snoc (reflects : Reflects trace site) {event : Event AccountCall}
    (kept : event.inserted? = none)
    (live : other.accounts.live =
      trace.standing.filter fun account => event.deleted? ≠ some account.id)
    (known : ∀ id, event.deleted? = some id → ∃ account ∈ trace.standing, account.id = id) :
    Reflects (trace ++ [event]) other where
  live := by rw [live, Trace.standing_snoc kept]
  known := by
    have nothing : Trace.inserted [event] = [] := by simp [Trace.inserted, kept]
    rw [Trace.deleted_append, Trace.inserted_append, nothing, List.append_nil]
    intro id member
    rcases List.mem_append.mp member with early | last
    · exact reflects.known id early
    · obtain ⟨shown, only, gone⟩ := List.mem_filterMap.mp last
      rw [List.mem_singleton.mp only] at gone
      obtain ⟨account, stands, rfl⟩ := known id gone
      exact List.mem_map_of_mem (Trace.mem_standing.mp stands).1

/-- What neither inserts nor deletes and leaves the accounts alone keeps what they
reflect. -/
theorem same (reflects : Reflects trace site) {event : Event AccountCall}
    (kept : event.inserted? = none) (spared : event.deleted? = none)
    (accounts : other.accounts = site.accounts) : Reflects (trace ++ [event]) other := by
  apply reflects.snoc kept
  · rw [accounts, reflects.live, spared, eq_comm, List.filter_eq_self]
    exact fun _ _ => rfl
  · simp [spared]

theorem inserted (reflects : Reflects trace site) (account : Account)
    (distinct : Trace.Distinct (trace ++ [⟨.takes number (.insert account), site,
      { site with accounts := site.accounts.insert account }⟩])) :
    Reflects (trace ++ [⟨.takes number (.insert account), site,
        { site with accounts := site.accounts.insert account }⟩])
      { site with accounts := site.accounts.insert account } := by
  rw [Trace.Distinct, Trace.inserted_append, List.map_append, List.nodup_append] at distinct
  have fresh : account.id ∉ trace.deleted := fun member =>
    distinct.2.2 account.id (reflects.known account.id member) account.id (by simp [Trace.inserted,
      Event.inserted?]) rfl
  have same : Trace.deleted [⟨.takes number (.insert account), site,
    { site with accounts := site.accounts.insert account }⟩] = [] := rfl
  constructor
  · rw [AccountStore.live_insert, reflects.live, Trace.standing, Trace.standing,
      Trace.inserted_append, Trace.deleted_append, same, List.append_nil, List.filter_append]
    congr 1
    cases deleted : account.isDeleted <;> simp [Trace.inserted, Event.inserted?, deleted, fresh]
  · rw [Trace.deleted_append, Trace.inserted_append, same, List.append_nil, List.map_append]
    exact fun id member => List.mem_append_left _ (reflects.known id member)

theorem deleted (reflects : Reflects trace site) (distinct : trace.Distinct) (id : AccountId) :
    Reflects (trace ++ [⟨.takes number (.delete id), site,
        { site with accounts := site.accounts.delete id site.wall }⟩])
      { site with accounts := site.accounts.delete id site.wall } := by
  have found : site.accounts.findById? id = trace.standing.find? (·.id == id) := by
    rw [AccountStore.findById?_eq, reflects.live]
  have taken : Event.deleted? ⟨.takes number (.delete id), site,
      { site with accounts := site.accounts.delete id site.wall }⟩ =
        if (trace.standing.find? (·.id == id)).isSome then some id else none := by
    rw [← found]
    rfl
  have live : (site.accounts.delete id site.wall).live = trace.standing.filter (·.id ≠ id) := by
    rw [AccountStore.live_delete, reflects.live, Account.eraseP_eq_filter distinct.standing]
  apply reflects.snoc rfl
  · rw [taken, live]
    apply List.filter_congr
    intro account member
    cases present : trace.standing.find? (·.id == id) with
    | none =>
        have apart := List.find?_eq_none.mp present account member
        rw [beq_iff_eq] at apart
        simp [apart]
    | some other => simp [eq_comm]
  · intro other gone
    rw [taken] at gone
    split at gone
    · next present =>
        obtain rfl := Option.some.inj gone
        obtain ⟨account, shown⟩ := Option.isSome_iff_exists.mp present
        have same := List.find?_some shown
        exact ⟨account, List.mem_of_find?_eq_some shown, eq_of_beq same⟩
    · contradiction

end Reflects

end Gatehouse
