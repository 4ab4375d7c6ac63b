import Gatehouse.Proofs.Execution.Alone
import Gatehouse.Proofs.Json.Codecs
import Gatehouse.Registry

/-!
# The payloads of requests

A payload is read as a request if it has the fields of the request, as the members of an
object among any others, or as the items of an array in their order. Every other payload is
refused, and a handler that receives it ends at once, without a step.
-/

namespace Gatehouse

open Json (Codec Field)

/-! ## Fields of a payload -/

/-- The names of the members of an object are distinct. -/
def Json.HasDistinctNames : Json → Prop
  | .object members => (members.map Prod.fst).Nodup
  | _ => True

/-- A value in the normal form in which it is read has distinct names. -/
theorem Json.hasDistinctNames_normal (json : Json) : json.normal.HasDistinctNames := by
  cases json with
  | object members => exact nodup_of_ascending (OrderedMap.keys_ascending _)
  | _ => trivial

/-- A payload has fields with these values, and those that are left out not: as members among
any others, or as the items of an array in their order. -/
def Json.Carries (payload : Json) (fields : List (String × Option Json)) : Prop :=
  match payload with
  | .object members => ∀ field ∈ fields, members.lookup field.1 = field.2
  | .array items => items = fields.filterMap Prod.snd
  | _ => False

/-- A kind of request: how it is read, and the fields that may spell a request. -/
structure RequestForm (α : Type) where
  codec : Codec α
  spellings : α → List (List (String × Option Json))

namespace RequestForm

variable {α : Type}

/-- A payload has the fields of a spelling of a request. -/
def Spells (form : RequestForm α) (payload : Json) (request : α) : Prop :=
  ∃ fields ∈ form.spellings request, payload.Carries fields

/-- A payload is read as a request if and only if it spells the request. The fields of a
spelling may be the members of an object or the items of an array, and a payload that spells
no request is refused. -/
structure IsDecoded (form : RequestForm α) : Prop where
  accepts : ∀ payload : Json, payload.HasDistinctNames → ∀ request,
    decodePayload form.codec payload = .ok request ↔ form.Spells payload request
  agrees : ∀ request, ∀ fields ∈ form.spellings request, ∀ members,
    (Json.object members).HasDistinctNames → (Json.object members).Carries fields →
      decodePayload form.codec (.object members) = .ok request ∧
        decodePayload form.codec (.array (fields.filterMap Prod.snd)) = .ok request
  refuses : ∀ payload : Json, payload.HasDistinctNames →
    (∀ request, ¬ form.Spells payload request) →
      ∃ reason, decodePayload form.codec payload =
        .error ⟨.invalidArgument, "invalid request: " ++ reason⟩

end RequestForm

/-- A login names an e-mail address and a password. -/
def LoginRequest.form : RequestForm LoginRequest where
  codec := codec
  spellings request :=
    [[("email", some (.string request.email)), ("password", some (.string request.password))]]

/-- A renewal or a revocation names a token. -/
def TokenRequest.form : RequestForm TokenRequest where
  codec := codec
  spellings request := [[("token", some (.string request.token))]]

/-- A role is looked up or taken away by its name. -/
def NameRequest.form : RequestForm NameRequest where
  codec := codec
  spellings request := [[("name", some (.string request.name))]]

/-- A role is made or changed with its name and its procedures, which may be left out if there
are none. -/
def RoleRequest.form : RequestForm RoleRequest where
  codec := codec
  spellings request :=
    [("name", some (.string request.name)),
        ("permissions", some (.array (request.permissions.map .string)))] ::
      if request.permissions = [] then
        [[("name", some (.string request.name)), ("permissions", none)]] else []

/-! ## What is read of a payload -/

namespace Json.Record

variable {name : String} {rest : List Field} {values : Values rest} {α : Type} {codec : Codec α}

theorem finds_required (exact : codec.IsExact) {found : Option Json} {value : α} :
    Finds (.required name codec) found value ↔ found = some (codec.write value) := by
  cases found with
  | none => exact ⟨nofun, nofun⟩
  | some json =>
      rw [Option.some.injEq]
      exact exact json value

theorem finds_listOrAbsent (exact : codec.IsExact) {found : Option Json} {listed : List α} :
    Finds (.listOrAbsent name codec) found listed ↔
      found = some (.array (listed.map codec.write)) ∨ listed = [] ∧ found = none := by
  cases found with
  | none =>
      change some [] = some listed ↔ _
      simp [eq_comm]
  | some json =>
      change codec.list.read json = .ok listed ↔ _
      rw [exact.list json listed]
      simp [Codec.list]

theorem gathers_required (exact : codec.IsExact) {found : String → Option Json} {value : α} :
    Gathers found (.required name codec :: rest) (value, values) ↔
      found name = some (codec.write value) ∧ Gathers found rest values :=
  and_congr (finds_required exact) Iff.rfl

theorem gathers_listOrAbsent (exact : codec.IsExact) {found : String → Option Json}
    {listed : List α} :
    Gathers found (.listOrAbsent name codec :: rest) (listed, values) ↔
      (found name = some (.array (listed.map codec.write)) ∨ listed = [] ∧ found name = none) ∧
        Gathers found rest values :=
  and_congr (finds_listOrAbsent exact) Iff.rfl

theorem fills_required (exact : codec.IsExact) {items : List Json} {value : α} :
    Fills (.required name codec :: rest) items (value, values) ↔
      ∃ others, items = codec.write value :: others ∧ Fills rest others values := by
  apply Iff.trans (and_congr (finds_required exact) Iff.rfl)
  cases items with
  | nil => simp
  | cons item items => simp [and_assoc]

theorem fills_listOrAbsent (exact : codec.IsExact) {items : List Json} {listed : List α} :
    Fills (.listOrAbsent name codec :: rest) items (listed, values) ↔
      (∃ others, items = .array (listed.map codec.write) :: others ∧ Fills rest others values) ∨
        listed = [] ∧ items = [] ∧ Fills rest [] values := by
  apply Iff.trans (and_congr (finds_listOrAbsent exact) Iff.rfl)
  cases items with
  | nil => simp
  | cons item items => simp [and_assoc]

end Json.Record

section Decoding

open Json.Record

variable {fields : List Field} {α : Type} {title : String} {form : RequestForm α}
  {ofValues : Values fields → α} {toValues : α → Values fields}

/-- A form is decoded if its spellings say what the fields of the record find. -/
theorem RequestForm.isDecoded
    (reads : form.codec = Json.Record.codec title fields ofValues toValues)
    (distinct : (names fields).Nodup)
    (restored : ∀ values, toValues (ofValues values) = values)
    (kept : ∀ request, ofValues (toValues request) = request)
    (gathers : ∀ found request, Gathers found fields (toValues request) ↔
      ∃ spelled ∈ form.spellings request, ∀ field ∈ spelled, found field.1 = field.2)
    (fills : ∀ items request, Fills fields items (toValues request) ↔
      ∃ spelled ∈ form.spellings request, items = spelled.filterMap Prod.snd) :
    form.IsDecoded := by
  -- A request is read where the values of its fields are, since these make up the request.
  have read_iff : ∀ payload request, decodePayload form.codec payload = .ok request ↔
      Json.Record.read title fields payload = .ok (toValues request) := by
    intro payload request
    rw [decodePayload, Task.mapError_eq_ok_iff, reads]
    change (Json.Record.read title fields payload).map ofValues = _ ↔ _
    cases Json.Record.read title fields payload with
    | error mismatch => exact ⟨nofun, nofun⟩
    | ok values =>
        rw [Except.map, Except.ok.injEq, Except.ok.injEq]
        constructor
        · rintro rfl
          rw [restored]
        · rintro rfl
          rw [kept]
  have accepts : ∀ payload : Json, payload.HasDistinctNames → ∀ request,
      decodePayload form.codec payload = .ok request ↔ form.Spells payload request := by
    intro payload single request
    rw [read_iff]
    cases payload with
    | object members =>
        rw [read_object_iff distinct single, gathers]
        exact Iff.rfl
    | array items =>
        rw [read_array_iff, fills]
        exact Iff.rfl
    | _ => simp [Json.Record.read, Spells, Json.Carries]
  constructor
  · exact accepts
  · intro request spelled spells members single carries
    constructor
    · exact (accepts (.object members) single request).mpr ⟨spelled, spells, carries⟩
    · exact (accepts (.array _) trivial request).mpr ⟨spelled, spells, rfl⟩
  · intro payload single strange
    cases decoded : form.codec.read payload with
    | error mismatch => exact ⟨mismatch.message, by rw [decodePayload, decoded]; rfl⟩
    | ok request =>
        have accepted : decodePayload form.codec payload = .ok request := by
          rw [decodePayload, decoded]
          rfl
        exact absurd ((accepts payload single request).mp accepted) (strange request)

end Decoding

section Requests

open Json.Record Json.Codec

theorem LoginRequest.isDecoded : form.IsDecoded := by
  have reads : form.codec = Json.Record.codec "LoginRequest" fields ofValues toValues := rfl
  apply RequestForm.isDecoded reads (by decide) (fun _ => rfl) (fun _ => rfl)
  · intro found request
    have gathers : Gathers found fields request.toValues ↔
        found "email" = some (.string request.email) ∧
          found "password" = some (.string request.password) ∧ True :=
      (gathers_required isExact_text).trans (and_congr Iff.rfl (gathers_required isExact_text))
    rw [gathers]
    simp only [form, List.mem_singleton, exists_eq_left, List.forall_mem_cons]
    simp
  · intro items request
    constructor
    · intro filled
      rcases (fills_required isExact_text).mp filled with ⟨others, rfl, behind⟩
      rcases (fills_required isExact_text).mp behind with ⟨left, rfl, rfl⟩
      exact ⟨_, List.mem_singleton_self _, rfl⟩
    · rintro ⟨spelled, spells, rfl⟩
      rw [List.mem_singleton.mp spells]
      apply (fills_required isExact_text).mpr
      exact ⟨_, rfl, (fills_required isExact_text).mpr ⟨_, rfl, rfl⟩⟩

/-- A form of one text is decoded. -/
theorem RequestForm.isDecoded_text {α : Type} {title name : String} {shown : α → String}
    {form : RequestForm α} {ofValues : Values [.required name .text] → α}
    (reads : form.codec = Json.Record.codec title [.required name .text] ofValues
      fun request => (shown request, ()))
    (restored : ∀ values, (shown (ofValues values), ()) = values)
    (kept : ∀ request, ofValues (shown request, ()) = request)
    (spells : ∀ request, form.spellings request = [[(name, some (.string (shown request)))]]) :
    form.IsDecoded := by
  apply RequestForm.isDecoded reads (List.pairwise_singleton _ name) restored kept
  · intro found request
    have gathers : Gathers found [.required name .text] (shown request, ()) ↔
        found name = some (.string (shown request)) ∧ True := gathers_required isExact_text
    rw [gathers, spells]
    simp only [List.mem_singleton, exists_eq_left]
    simp
  · intro items request
    rw [spells]
    constructor
    · intro filled
      rcases (fills_required isExact_text).mp filled with ⟨others, rfl, rfl⟩
      exact ⟨_, List.mem_singleton_self _, rfl⟩
    · rintro ⟨spelled, member, rfl⟩
      rw [List.mem_singleton.mp member]
      exact (fills_required isExact_text).mpr ⟨_, rfl, rfl⟩

theorem TokenRequest.isDecoded : form.IsDecoded :=
  RequestForm.isDecoded_text rfl (fun _ => rfl) (fun _ => rfl) fun _ => rfl

theorem NameRequest.isDecoded : form.IsDecoded :=
  RequestForm.isDecoded_text rfl (fun _ => rfl) (fun _ => rfl) fun _ => rfl

theorem RoleRequest.isDecoded : form.IsDecoded := by
  have reads : form.codec = Json.Record.codec "RoleRequest" fields ofValues toValues := rfl
  apply RequestForm.isDecoded reads (by decide) (fun _ => rfl) (fun _ => rfl)
  · intro found request
    have gathers : Gathers found fields request.toValues ↔
        found "name" = some (.string request.name) ∧
          (found "permissions" = some (.array (request.permissions.map .string)) ∨
            request.permissions = [] ∧ found "permissions" = none) ∧ True :=
      (gathers_required isExact_text).trans
        (and_congr Iff.rfl (gathers_listOrAbsent isExact_text))
    rw [gathers, form]
    by_cases bare : request.permissions = []
    · simp only [if_pos bare, List.mem_cons, List.not_mem_nil, or_false, exists_eq_or_imp,
        exists_eq_left]
      simp [bare, and_or_left]
    · simp only [if_neg bare, List.mem_singleton, exists_eq_left, List.forall_mem_cons]
      simp [bare]
  · intro items request
    constructor
    · intro filled
      rcases (fills_required isExact_text).mp filled with ⟨others, rfl, behind⟩
      rcases (fills_listOrAbsent isExact_text).mp behind with ⟨left, rfl, rfl⟩ | ⟨bare, rfl, -⟩
      · exact ⟨_, List.mem_cons_self, rfl⟩
      · have spells : [("name", some (.string request.name)), ("permissions", none)] ∈
            form.spellings request := by
          apply List.mem_cons_of_mem
          rw [if_pos bare]
          exact List.mem_singleton_self _
        exact ⟨_, spells, rfl⟩
    · rintro ⟨spelled, spells, rfl⟩
      apply (fills_required isExact_text).mpr
      rcases List.mem_cons.mp spells with rfl | spells
      · exact ⟨_, rfl, (fills_listOrAbsent isExact_text).mpr (.inl ⟨_, rfl, rfl⟩)⟩
      · split at spells
        · next bare =>
          rw [List.mem_singleton.mp spells]
          exact ⟨_, rfl, (fills_listOrAbsent isExact_text).mpr (.inr ⟨bare, rfl, rfl⟩)⟩
        · contradiction

end Requests

/-! ## Handlers -/

/-- A handler takes requests of a form. A payload that spells no request ends it at once: it
takes no step, so it has seen and changed nothing. Two payloads that spell the same request are
handled alike. -/
structure Handler.Takes {α : Type} (handler : Handler) (form : RequestForm α) : Prop where
  refuses : ∀ context payload, payload.HasDistinctNames →
    (∀ request, ¬ form.Spells payload request) →
      ∃ reason, (handler context payload).toRoutine =
        .done (.error ⟨.invalidArgument, "invalid request: " ++ reason⟩)
  agrees : ∀ context payload other request, payload.HasDistinctNames → other.HasDistinctNames →
    form.Spells payload request → form.Spells other request →
      handler context payload = handler context other

/-- A handler that decodes its payload before all else takes requests of the form. -/
theorem Handler.takes_of_decodes {α : Type} {handler : Handler} {form : RequestForm α}
    {next : CallContext → α → Task Status Json} (decoded : form.IsDecoded)
    (decodes : ∀ context payload, handler context payload =
      Task.ofRoutine (.done (decodePayload form.codec payload)) >>= next context) :
    handler.Takes form := by
  constructor
  · intro context payload single strange
    rcases decoded.refuses payload single strange with ⟨reason, refused⟩
    rw [decodes, refused]
    exact ⟨reason, rfl⟩
  · intro context payload other request single otherSingle spells otherSpells
    rw [decodes, decodes, (decoded.accepts payload single request).mpr spells,
      (decoded.accepts other otherSingle request).mpr otherSpells]

/-- To read a result further is to go on with it. -/
theorem RoleService.known_bind {α β : Type} (result : Except Status α)
    (further : α → Except Status β) :
    known (result >>= further) = known result >>= fun value => known (further value) := by
  cases result with
  | error status => rfl
  | ok value => rfl

/-- A handler that decodes its payload and reads the request further takes requests of the
form. -/
theorem RoleService.takes_of_reads {α β : Type} {handler : Handler} {form : RequestForm α}
    {further : α → Except Status β} {next : β → Task Status Json} (decoded : form.IsDecoded)
    (reads : ∀ context payload, handler context payload =
      known (decodePayload form.codec payload >>= further) >>= next) :
    handler.Takes form := by
  have decodes : ∀ context payload, handler context payload =
      known (decodePayload form.codec payload) >>= fun request =>
        known (further request) >>= next := by
    intro context payload
    rw [reads, known_bind, bind_assoc]
  exact Handler.takes_of_decodes decoded decodes

/-- A procedure of a service takes requests of a form. -/
def Service.Takes {α : Type} (service : Service) (procedure : String) (form : RequestForm α) :
    Prop :=
  ∃ handler, service.registry.get? procedure = some handler ∧ handler.Takes form

namespace Service

/-- Payloads are decoded as the forms of the requests say, and every procedure of a service but
the one that lists the roles takes requests of one of the forms. -/
structure DecodesRequests (service : Service) : Prop where
  login : LoginRequest.form.IsDecoded
  token : TokenRequest.form.IsDecoded
  name : NameRequest.form.IsDecoded
  role : RoleRequest.form.IsDecoded
  takesLogin : service.Takes "auth.v1.AuthService/Login" LoginRequest.form
  takesToken : ∀ procedure ∈ ["auth.v1.AuthService/RefreshToken",
    "auth.v1.AuthService/RevokeToken"], service.Takes procedure TokenRequest.form
  takesName : ∀ procedure ∈ ["role.v1.RoleService/FindRoleByName",
    "role.v1.RoleService/DeleteRole"], service.Takes procedure NameRequest.form
  takesRole : ∀ procedure ∈ ["role.v1.RoleService/CreateRole",
    "role.v1.RoleService/UpdateRole"], service.Takes procedure RoleRequest.form
  only : ∀ procedure ∈ service.registry.procedures,
    procedure = "role.v1.RoleService/FindAllRoles" ∨ procedure ∈
      ["auth.v1.AuthService/Login", "auth.v1.AuthService/RefreshToken",
        "auth.v1.AuthService/RevokeToken", "role.v1.RoleService/FindRoleByName",
        "role.v1.RoleService/DeleteRole", "role.v1.RoleService/CreateRole",
        "role.v1.RoleService/UpdateRole"]

variable (service : Service)

/-- The procedures that every service has, in the order of its handlers. -/
theorem names_handlers :
    (AuthService.handlers service.tokens ++ RoleService.handlers service.engine).map Prod.fst =
      ["auth.v1.AuthService/Login", "auth.v1.AuthService/RefreshToken",
        "auth.v1.AuthService/RevokeToken", "role.v1.RoleService/FindAllRoles",
        "role.v1.RoleService/FindRoleByName", "role.v1.RoleService/CreateRole",
        "role.v1.RoleService/UpdateRole", "role.v1.RoleService/DeleteRole"] := by
  simp [AuthService.handlers, AuthService.name, RoleService.handlers, RoleService.name]

theorem takes {α : Type} {procedure : String} {form : RequestForm α} (handler : Handler)
    (member : (procedure, handler) ∈
      AuthService.handlers service.tokens ++ RoleService.handlers service.engine)
    (takes : handler.Takes form) : service.Takes procedure form := by
  have distinct : ((AuthService.handlers service.tokens ++
      RoleService.handlers service.engine).map Prod.fst).Nodup := by
    rw [names_handlers]
    decide
  exact ⟨handler, OrderedMap.get?_ofList_of_mem distinct member, takes⟩

theorem decodes_requests : service.DecodesRequests where
  login := LoginRequest.isDecoded
  token := TokenRequest.isDecoded
  name := NameRequest.isDecoded
  role := RoleRequest.isDecoded
  takesLogin := by
    apply service.takes (AuthService.login service.tokens)
    · simp [AuthService.handlers, AuthService.name]
    · exact Handler.takes_of_decodes LoginRequest.isDecoded fun _ _ => rfl
  takesToken := by
    intro procedure among
    simp only [List.mem_cons, List.not_mem_nil, or_false] at among
    rcases among with rfl | rfl
    · apply service.takes (AuthService.refreshToken service.tokens)
      · simp [AuthService.handlers, AuthService.name]
      · exact Handler.takes_of_decodes TokenRequest.isDecoded fun _ _ => rfl
    · apply service.takes (AuthService.revokeToken service.tokens)
      · simp [AuthService.handlers, AuthService.name]
      · exact Handler.takes_of_decodes TokenRequest.isDecoded fun _ _ => rfl
  takesName := by
    intro procedure among
    simp only [List.mem_cons, List.not_mem_nil, or_false] at among
    rcases among with rfl | rfl
    · apply service.takes RoleService.findRoleByName
      · simp [RoleService.handlers, RoleService.name]
      · exact RoleService.takes_of_reads NameRequest.isDecoded fun _ _ => rfl
    · apply service.takes (RoleService.deleteRole service.engine)
      · simp [RoleService.handlers, RoleService.name]
      · exact RoleService.takes_of_reads NameRequest.isDecoded fun _ _ => rfl
  takesRole := by
    intro procedure among
    simp only [List.mem_cons, List.not_mem_nil, or_false] at among
    rcases among with rfl | rfl
    · apply service.takes (RoleService.createRole service.engine)
      · simp [RoleService.handlers, RoleService.name]
      · exact RoleService.takes_of_reads RoleRequest.isDecoded fun _ _ => rfl
    · apply service.takes (RoleService.updateRole service.engine)
      · simp [RoleService.handlers, RoleService.name]
      · exact RoleService.takes_of_reads RoleRequest.isDecoded fun _ _ => rfl
  only := by
    intro procedure listed
    rcases List.mem_map.mp listed with ⟨⟨listed, handler⟩, member, rfl⟩
    have among := List.mem_map_of_mem (f := Prod.fst)
      (OrderedMap.mem_of_get?_ofList (OrderedMap.mem_entries_iff.mp member))
    rw [names_handlers] at among
    simp only [List.mem_cons, List.not_mem_nil, or_false] at among ⊢
    grind

end Service

end Gatehouse
