import Gatehouse.Http
import Gatehouse.Proofs.Guard.Course
import Gatehouse.Proofs.Json.Restored

/-!
# What calls are answered

A call that names no procedure of the registry, or whose body cannot be read, is answered
before anything is done. Every other call is answered what the guard makes of it. The body
of an answer to a failed call is put together by hand, and is the text of its status all
the same.
-/

namespace Gatehouse

/-! ## The two texts of a status -/

/-- The words that stand for a code spell its name. -/
theorem Code.tag_eq_name (code : Code) : code.tag = code.name := by
  cases code <;> decide

/-- Members by ascending key are the members of an object as they stand. -/
theorem Json.ofMembers_of_ascending {members : List (String × Json)}
    (ascending : members.Pairwise fun a b => compare a.1 b.1 = .lt) :
    ofMembers members = .object members :=
  congrArg (fun map : OrderedMap String Json => object map.entries)
    (OrderedMap.ofList_entries ⟨members, ascending⟩)

namespace Status

theorem distinct_fields : (Json.Record.names fields).Nodup := by decide

theorem isIntegral_write (status : Status) : (codec.write status).IsIntegral := by
  have plain : Json.Record.AllPlain fields :=
    ⟨Json.Codec.isPlain_named, Json.Codec.isPlain_text, trivial⟩
  exact Json.Record.isIntegral_write plain status.toValues

/-- A status is read from its text as it was written. -/
theorem decode?_encode (status : Status) : decode? status.encode = some status := by
  have returns : Json.Record.AllReturn fields status.toValues := by
    refine ⟨?_, ?_, trivial⟩
    · apply Json.Record.returns_required
      simp [Code.codec, Json.Codec.named]
    · exact Json.Record.returns_required rfl
  rw [decode?, encode, Json.ofBytes?_encode status.isIntegral_write, Option.bind_some]
  exact Json.Record.ofWritten?_written distinct_fields returns

/-- The members that are put together by hand are those that a status is written with. -/
theorem ofMembers_eq_write (status : Status) :
    Json.ofMembers [("code", .string status.code.name), ("message", .string status.message)] =
      codec.write status := by
  have ascending : [("code", Json.string status.code.name),
      ("message", .string status.message)].Pairwise fun a b => compare a.1 b.1 = .lt := by
    rw [List.pairwise_pair]
    change compare "code" "message" = .lt
    decide
  rw [Json.ofMembers_of_ascending ascending, ← Code.tag_eq_name]
  rfl

end Status

namespace Http

variable {guard : Guard} {registry : Registry} {procedure : String} {headers : Headers}
  {body : Bytes} {moves : List (Site × Site)}

/-! ## Answers to failed calls -/

/-- An answer shows a failed call: it has the HTTP status of the code, and its body is the
text of the status, from which the status can be read. -/
structure Response.Shows (response : Response) (failed : Status) : Prop where
  status : response.status = failed.code.httpStatus
  contentType : response.contentType = some "application/json"
  body : response.body = failed.encode
  decodes : Status.decode? response.body = some failed

theorem Response.shows_ofStatus (failed : Status) : (ofStatus failed).Shows failed := by
  have body : (ofStatus failed).body = failed.encode :=
    congrArg Json.encode (Status.ofMembers_eq_write failed)
  refine ⟨rfl, rfl, body, ?_⟩
  rw [body, Status.decode?_encode]

/-- What a message holds is escaped in the text that is put together by hand too. -/
example : (Response.ofStatus ⟨.permissionDenied, "say \"no\"\n"⟩).body =
    "\x7b\"code\":\"permission_denied\",\"message\":\"say \\\"no\\\"\\n\"\x7d" := by
  decide +kernel

/-! ## Answers to calls -/

/-- What a body is read as: nothing as no members at all, and anything else as JSON. -/
def Reads (body : Bytes) (outcome : Except String Json) : Prop :=
  if body = [] then outcome = .ok (.object []) else Json.ofBytes body = outcome

/-- The moves of a call of a procedure, and the answer that they come to. No move is made
where there is no handler or no payload; there the guard is not asked, and nothing is
recorded. -/
inductive Answers (guard : Guard) (registry : Registry) (procedure : String) (headers : Headers)
    (body : Bytes) : List (Site × Site) → Response → Prop where
  | unregistered (absent : registry.get? procedure = none) :
      Answers guard registry procedure headers body []
        (.ofStatus ⟨.unimplemented, "unknown procedure " ++ procedure⟩)
  | unreadable {handler : Handler} {message : String}
      (registered : registry.get? procedure = some handler) (reads : Reads body (.error message)) :
      Answers guard registry procedure headers body []
        (.ofStatus ⟨.invalidArgument, "invalid JSON body: " ++ message⟩)
  | intercepted {handler : Handler} {payload : Json} {arrival : Site}
      {moves : List (Site × Site)} {result : CallResult}
      (registered : registry.get? procedure = some handler) (reads : Reads body (.ok payload))
      (intercepts : (guard.intercept ⟨procedure, headers, arrival.wall⟩ payload handler).Goes
        moves result) :
      Answers guard registry procedure headers body ((arrival, arrival) :: moves)
        (.ofResult result)

theorem exists_reads (body : Bytes) : ∃ outcome, Reads body outcome := by
  by_cases empty : body = []
  · exact ⟨_, (if_pos empty).mpr rfl⟩
  · exact ⟨_, (if_neg empty).mpr rfl⟩

theorem payloadOf_of_reads {outcome : Except String Json} (reads : Reads body outcome) :
    payloadOf body = outcome.mapError fun message =>
      ⟨.invalidArgument, "invalid JSON body: " ++ message⟩ := by
  rw [Reads] at reads
  rw [payloadOf]
  split at reads
  · next empty =>
      rw [reads, if_pos (List.isEmpty_iff.mpr empty)]
      rfl
  · next filled => rw [reads, if_neg (mt List.isEmpty_iff.mp filled)]

/-- A call makes the moves of its answer and no others. -/
theorem goes_call_iff {response : Response} :
    (call guard registry procedure headers body).Goes moves response ↔
      Answers guard registry procedure headers body moves response := by
  constructor
  · intro goes
    rw [call] at goes
    cases registered : registry.get? procedure with
    | none =>
        rw [registered] at goes
        obtain ⟨rfl, rfl⟩ := Routine.goes_done_iff.mp goes
        exact .unregistered registered
    | some handler =>
        obtain ⟨outcome, reads⟩ := exists_reads body
        rw [registered, payloadOf_of_reads reads] at goes
        cases outcome with
        | error message =>
            obtain ⟨rfl, rfl⟩ := Routine.goes_done_iff.mp goes
            exact .unreadable registered reads
        | ok payload =>
            obtain ⟨_, _, now, rfl, observes, goes⟩ := Routine.goes_bind_iff.mp goes
            obtain ⟨arrival, rfl, rfl⟩ := Routine.goes_observe_iff.mp observes
            obtain ⟨moves, _, result, rfl, intercepts, ends⟩ := Routine.goes_bind_iff.mp goes
            obtain ⟨rfl, rfl⟩ := Routine.goes_done_iff.mp ends
            rw [List.append_nil]
            exact .intercepted registered reads intercepts
  · intro answers
    cases answers with
    | unregistered absent =>
        rw [call, absent]
        exact .done _
    | unreadable registered reads =>
        rw [call, registered, payloadOf_of_reads reads]
        exact .done _
    | @intercepted handler payload arrival moves result registered reads intercepts =>
        rw [call, registered, payloadOf_of_reads reads]
        refine Routine.goes_bind_iff.mpr ⟨[(arrival, arrival)], moves, arrival.wall, rfl,
          Routine.goes_observe_iff.mpr ⟨arrival, rfl, rfl⟩, ?_⟩
        exact Routine.goes_bind_iff.mpr ⟨moves, [], result, (List.append_nil moves).symm,
          intercepts, .done _⟩

/-- Every answer is that of a result, and shows the status of a failed call. -/
theorem Answers.shows {response : Response}
    (answers : Answers guard registry procedure headers body moves response) :
    ∃ result, response = .ofResult result ∧
      ∀ failed, result = .error failed → response.Shows failed := by
  have ofResult : ∀ result failed, result = .error failed →
      (Response.ofResult result).Shows failed := by
    rintro _ failed rfl
    exact Response.shows_ofStatus failed
  cases answers with
  | unregistered absent => exact ⟨.error _, rfl, ofResult (.error _)⟩
  | unreadable registered reads => exact ⟨.error _, rfl, ofResult (.error _)⟩
  | intercepted registered reads intercepts => exact ⟨_, rfl, ofResult _⟩

/-- How calls of a method of a service are answered, whatever happens between two moves. -/
structure IsAnswered (guard : Guard) (registry : Registry) (service method : String)
    (headers : Headers) (body : Bytes) : Prop where
  answers : ∀ moves response,
    (call guard registry (service ++ "/" ++ method) headers body).Goes moves response ↔
      Answers guard registry (service ++ "/" ++ method) headers body moves response
  /-- A guarded call knows one procedure. -/
  serves : ∀ received payload handler moves result,
    (guard.intercept ⟨service ++ "/" ++ method, headers, received⟩ payload handler).Goes moves
        result ↔
      guard.Serves (service ++ "/" ++ method) headers received payload handler moves result
  shows : ∀ moves response,
    (call guard registry (service ++ "/" ++ method) headers body).Goes moves response →
      ∃ result, response = .ofResult result ∧
        ∀ failed, result = .error failed → response.Shows failed

theorem is_answered (guard : Guard) (registry : Registry) (service method : String)
    (headers : Headers) (body : Bytes) :
    IsAnswered guard registry service method headers body where
  answers _ _ := goes_call_iff
  serves _ _ _ _ _ := Guard.goes_intercept_iff
  shows _ _ goes := (goes_call_iff.mp goes).shows

end Http

end Gatehouse
