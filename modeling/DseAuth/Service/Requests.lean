import DseAuth.Resources.Handlers

/-!
# Requests

An HTTP request is worked on in **two transactions**. The filter of its endpoint authenticates it
in a transaction of the authenticator's own, and hands the principal on as a detached object; the
resource method then runs in a session of its own. A `Request` is what comes over the wire, a `Call`
is what is left of it in between: the method that is going to run, with its principal and its body,
which has not been read yet.

`Request.authenticate` is the first step and `Call.handle` the second. Both are `@UnitOfWork`, the
first by way of the proxies that `ms1Application` makes of the authenticators: the session is
committed when the method returns, whatever it returns, and rolled back when an exception gets out.
A commit that fails is answered 500.

The resources of the debug mode are not among the requests.
-/

namespace DseAuth

/-- What the endpoints behind the JWT filter are asked for. -/
inductive Operation
  /-- `PUT /user`. -/
  | updateUser (newUserCredentials : Body SignUpUser)
  /-- `DELETE /user`. -/
  | deleteUser
  /-- `GET /authentication/refresh`. -/
  | refresh
  /-- `GET /authorization`. -/
  | getPriviliges
  /-- `PUT /authorization`. -/
  | addPrivileges (newPriviliges : Body (List (Option String)))
  /-- `DELETE /authorization`. -/
  | removePrivileges (priviligesToRemove : Body (List (Option String)))
deriving DecidableEq

/-- A request. -/
inductive Request
  /-- `POST /user`, which needs no credentials. -/
  | createUser (user : Body SignUpUser)
  /-- `GET /authentication`, with what its header holds after `Basic`, if that can be read. -/
  | login (credentials : Option BasicCredentials)
  /-- The other endpoints, with what the header holds after `Bearer`. -/
  | bearer (token : Token) (operation : Operation)
deriving DecidableEq

/-- A request that has been let through. -/
inductive Call
  /-- `POST /user`. -/
  | createUser (user : Body SignUpUser)
  /-- `GET /authentication`, with the name of the principal. -/
  | login (user : String)
  /-- The other endpoints, with the user that was loaded. -/
  | bearer (user : User) (operation : Operation)
deriving DecidableEq

/-! ### The first step -/

/-- What a filter makes of the answer of its authenticator. -/
def filterResponse {α : Type} : Except JavaException (Option α) → Except Response α
  | .ok (some principal) => .ok principal
  | .ok none => .error ⟨401, .framework⟩
  | .error e => .error e.toResponse

/-- `basicFilter`, with what the header holds after `Basic`. Its authenticator is a proxy, so the
answer is worth what the commit after it is. -/
def basicFilter (env : Environment) (credentials : Option BasicCredentials) (db : Database) :
    Except Response String :=
  match credentials with
  | none => .error ⟨401, .framework⟩
  | some credentials =>
    filterResponse (transact env (reading (BasicAuthenticator.authenticate env credentials)) db).1

/-- `jwtFilter`, with what the header holds after `Bearer`. Its authenticator is a proxy as well. -/
def jwtFilter (tokenType : String) (env : Environment) (token : Token) (db : Database) :
    Except Response User :=
  match JwtConsumer.process tokenType env.now token with
  | none => .error ⟨401, .framework⟩
  | some claims =>
    filterResponse (transact env (reading (JWTAuthenticator.authenticate env claims)) db).1

/-- Authenticate a request; an error is the response to a request that is turned away. -/
def Request.authenticate (tokenType : String) (env : Environment) (request : Request)
    (db : Database) : Except Response Call :=
  match request with
  | .createUser user => .ok (.createUser user)
  | .login credentials => (basicFilter env credentials db).map .login
  | .bearer token operation =>
    (jwtFilter tokenType env token db).map fun user ↦ .bearer user operation

/-- The request is let through as the account in a row. -/
def Request.AcceptedAs (tokenType : String) (env : Environment) (request : Request) (db : Database)
    (r : UserRow) : Prop :=
  r ∈ db.rows ∧
    (request.authenticate tokenType env db = .ok (.login r.username) ∨
      ∃ operation, request.authenticate tokenType env db = .ok (.bearer r.load operation))

/-- The name a call is let through under. -/
def Call.principal : Call → Option String
  | .createUser _ => none
  | .login name => some name
  | .bearer user _ => some user.username

/-- The name a request is let through under, if any. -/
def Request.principal (tokenType : String) (env : Environment) (db : Database) (request : Request) :
    Option String :=
  match request.authenticate tokenType env db with
  | .ok call => call.principal
  | .error _ => none

/-! ### The second step -/

/-- What a transaction comes to. -/
structure Outcome where
  /-- The response. -/
  response : Response
  /-- The committed database afterwards. -/
  db : Database
  /-- The work that was committed; nothing where the transaction was rolled back. -/
  committed : List Action

/-- `@UnitOfWork` around a method. -/
def unitOfWork (env : Environment) (method : Handler) (db : Database) : Outcome :=
  match method (Session.openSession db) with
  -- the status of the response makes no difference
  | (.ok response, s) =>
    match s.commit env with
    | some db' => ⟨response, db', s.actions⟩
    | none => ⟨JavaException.persistence.toResponse, s.db, []⟩
  | (.error e, s) => ⟨e.toResponse, s.db, []⟩

section

variable (tokenType : String) (env : Environment)

/-- The method behind the JWT filter that runs. -/
def Operation.run (user : User) : Operation → Handler
  | .updateUser body =>
    withParameter body.readValid (UserResource.updateUser tokenType env user)
  | .deleteUser => UserResource.deleteUser env user
  | .refresh => AuthenticationResource.refresh tokenType env user
  | .getPriviliges => AuthorizationResource.getPriviliges user
  | .addPrivileges body =>
    withParameter body.read (AuthorizationResource.addPrivileges tokenType env user)
  | .removePrivileges body =>
    withParameter body.read (AuthorizationResource.removePrivileges tokenType env user)

/-- The method that runs. -/
def Call.run : Call → Handler
  | .createUser body => withParameter body.readValid (UserResource.createUser env)
  | .login user => AuthenticationResource.login tokenType env user
  | .bearer user operation => operation.run tokenType env user

/-- Run the method of a call in its transaction. -/
def Call.handle (call : Call) (db : Database) : Outcome :=
  unitOfWork env (call.run tokenType env) db

end

/-! ### What the first step lets through -/

/-- What the first step asks of the database. -/
structure Environment.Reads (env : Environment) : Prop where
  /-- Queries return. -/
  lookup : env.lookupFails = false
  /-- The transaction is committed. -/
  commit : env.commitFails = false

theorem filterResponse_eq_ok_iff {α : Type} {answer : Except JavaException (Option α)}
    {principal : α} : filterResponse answer = .ok principal ↔ answer = .ok (some principal) := by
  rcases answer with e | _ | found
  · exact ⟨nofun, nofun⟩
  · exact ⟨nofun, nofun⟩
  · exact ⟨fun h ↦ Except.ok.inj h ▸ rfl, fun h ↦ Option.some.inj (Except.ok.inj h) ▸ rfl⟩

/-- What a filter answers itself is not 200. -/
theorem filterResponse_eq_error {α : Type} {answer : Except JavaException (Option α)}
    {response : Response} (h : filterResponse answer = .error response) :
    response.status ≠ 200 ∧ response.entity = .framework := by
  rcases answer with e | _ | principal
  · obtain rfl := Except.error.inj h
    exact ⟨e.toResponse_status_ne, e.toResponse_entity⟩
  · obtain rfl := Except.error.inj h
    exact ⟨nofun, rfl⟩
  · cases h

variable {tokenType : String} {env : Environment} {db : Database}

/-- **What stands behind the principal of the basic filter.** -/
theorem basicFilter_eq_ok_iff {credentials : Option BasicCredentials} {name : String} :
    basicFilter env credentials db = .ok name ↔
      env.Reads ∧ ∃ r ∈ db.rows, credentials = some ⟨r.username, r.password⟩ ∧
        r.username = name := by
  rcases credentials with _ | ⟨username, password⟩
  · exact ⟨nofun, fun ⟨_, _, _, h, _⟩ ↦ nomatch h⟩
  · rw [basicFilter, filterResponse_eq_ok_iff, transact_reading_eq_ok_iff,
      BasicAuthenticator.authenticate_eq_ok_some_iff]
    constructor
    · rintro ⟨⟨hlookup, rfl, r, hr, rfl, rfl⟩, hcommit⟩
      exact ⟨⟨hlookup, hcommit⟩, r, hr, rfl, rfl⟩
    · rintro ⟨hreads, r, hr, hcredentials, rfl⟩
      obtain ⟨rfl, rfl⟩ := BasicCredentials.mk.inj (Option.some.inj hcredentials)
      exact ⟨⟨hreads.lookup, rfl, r, hr, rfl, rfl⟩, hreads.commit⟩

/-- **What stands behind the principal of the JWT filter.** -/
theorem jwtFilter_eq_ok_iff {token : Token} {user : User} :
    jwtFilter tokenType env token db = .ok user ↔
      ∃ claims, JwtConsumer.process tokenType env.now token = some claims ∧ env.Reads ∧
        ∃ r ∈ db.rows, Authenticates claims r ∧ r.load = user := by
  rw [jwtFilter]
  rcases JwtConsumer.process tokenType env.now token with _ | claims
  · exact ⟨nofun, fun ⟨_, h, _⟩ ↦ nomatch h⟩
  · dsimp only
    rw [filterResponse_eq_ok_iff, transact_reading_eq_ok_iff,
      JWTAuthenticator.authenticate_eq_ok_some_iff]
    constructor
    · rintro ⟨⟨hlookup, r, hr, hclaims, rfl⟩, hcommit⟩
      exact ⟨claims, rfl, ⟨hlookup, hcommit⟩, r, hr, hclaims, rfl⟩
    · rintro ⟨_, hsome, hreads, r, hr, hclaims, rfl⟩
      obtain rfl := Option.some.inj hsome
      exact ⟨⟨hreads.lookup, r, hr, hclaims, rfl⟩, hreads.commit⟩

/-- **What stands behind an accepted bearer token.** -/
theorem authenticate_bearer_eq_ok_iff {token : Token} {operation : Operation} {call : Call} :
    (Request.bearer token operation).authenticate tokenType env db = .ok call ↔
      ∃ claims, JwtConsumer.process tokenType env.now token = some claims ∧ env.Reads ∧
        ∃ r ∈ db.rows, Authenticates claims r ∧ .bearer r.load operation = call := by
  rw [Request.authenticate, map_eq_ok_iff]
  constructor
  · rintro ⟨user, hfilter, rfl⟩
    obtain ⟨claims, hprocess, hreads, r, hr, hclaims, rfl⟩ := jwtFilter_eq_ok_iff.1 hfilter
    exact ⟨claims, hprocess, hreads, r, hr, hclaims, rfl⟩
  · rintro ⟨claims, hprocess, hreads, r, hr, hclaims, rfl⟩
    exact ⟨r.load, jwtFilter_eq_ok_iff.2 ⟨claims, hprocess, hreads, r, hr, hclaims, rfl⟩, rfl⟩

/-- **When a bearer token lets a request through as an account.** -/
theorem acceptedAs_bearer_iff {token : Token} {operation : Operation} {r : UserRow} :
    (Request.bearer token operation).AcceptedAs tokenType env db r ↔
      r ∈ db.rows ∧ env.Reads ∧
        ∃ claims, JwtConsumer.process tokenType env.now token = some claims ∧
          Authenticates claims r := by
  constructor
  · rintro ⟨hr, hauth | ⟨op, hauth⟩⟩
    · obtain ⟨-, -, -, q, -, -, hcall⟩ := authenticate_bearer_eq_ok_iff.1 hauth
      cases hcall
    · obtain ⟨claims, hprocess, hreads, q, hq, hclaims, hcall⟩ :=
        authenticate_bearer_eq_ok_iff.1 hauth
      have hid : q.id = r.id := congrArg User.id (Call.bearer.inj hcall).1
      obtain rfl := db.consistent.eq_of_id hq hr hid
      exact ⟨hr, hreads, claims, hprocess, hclaims⟩
  · rintro ⟨hr, hreads, claims, hprocess, hclaims⟩
    exact ⟨hr, Or.inr ⟨operation, authenticate_bearer_eq_ok_iff.2
      ⟨claims, hprocess, hreads, r, hr, hclaims, rfl⟩⟩⟩

/-- **What stands behind an accepted login.** -/
theorem authenticate_login_eq_ok_iff {credentials : Option BasicCredentials} {call : Call} :
    (Request.login credentials).authenticate tokenType env db = .ok call ↔
      env.Reads ∧ ∃ r ∈ db.rows, credentials = some ⟨r.username, r.password⟩ ∧
        .login r.username = call := by
  rw [Request.authenticate, map_eq_ok_iff]
  constructor
  · rintro ⟨name, hfilter, rfl⟩
    obtain ⟨hreads, r, hr, hcredentials, rfl⟩ := basicFilter_eq_ok_iff.1 hfilter
    exact ⟨hreads, r, hr, hcredentials, rfl⟩
  · rintro ⟨hreads, r, hr, hcredentials, rfl⟩
    exact ⟨r.username, basicFilter_eq_ok_iff.2 ⟨hreads, r, hr, hcredentials, rfl⟩, rfl⟩

/-- A request that is turned away is answered by the framework, and not with 200. -/
theorem response_of_authenticate_eq_error {request : Request} {response : Response}
    (h : request.authenticate tokenType env db = .error response) :
    response.status ≠ 200 ∧ response.entity = .framework := by
  rcases request with body | credentials | ⟨token, operation⟩
  · cases h
  · have hfilter := map_eq_error_iff.1 h
    rcases credentials with _ | credentials
    · obtain rfl := Except.error.inj hfilter
      exact ⟨nofun, rfl⟩
    · exact filterResponse_eq_error hfilter
  · have hfilter := map_eq_error_iff.1 h
    rw [jwtFilter] at hfilter
    split at hfilter
    · obtain rfl := Except.error.inj hfilter
      exact ⟨nofun, rfl⟩
    · exact filterResponse_eq_error hfilter

/-- A call with a user comes from a bearer token that authenticates the row it was loaded from. -/
theorem exists_of_authenticate_eq_bearer {request : Request} {user : User} {operation : Operation}
    (h : request.authenticate tokenType env db = .ok (.bearer user operation)) :
    ∃ token claims, request = .bearer token operation ∧
      JwtConsumer.process tokenType env.now token = some claims ∧ env.Reads ∧
        ∃ r ∈ db.rows, Authenticates claims r ∧ user = r.load := by
  cases request with
  | createUser body => cases h
  | login credentials =>
    obtain ⟨-, r, -, -, hcall⟩ := authenticate_login_eq_ok_iff.1 h
    cases hcall
  | bearer token op =>
    obtain ⟨claims, hprocess, hreads, r, hr, hclaims, hcall⟩ := authenticate_bearer_eq_ok_iff.1 h
    obtain ⟨rfl, rfl⟩ := Call.bearer.inj hcall
    exact ⟨token, claims, rfl, hprocess, hreads, r, hr, hclaims, rfl⟩

/-- A login comes from the password of the row that has the name. -/
theorem exists_of_authenticate_eq_login {request : Request} {name : String}
    (h : request.authenticate tokenType env db = .ok (.login name)) :
    ∃ r ∈ db.rows, request = .login (some ⟨r.username, r.password⟩) ∧ name = r.username := by
  cases request with
  | createUser body => cases h
  | login credentials =>
    obtain ⟨-, r, hr, rfl, hcall⟩ := authenticate_login_eq_ok_iff.1 h
    exact ⟨r, hr, rfl, (Call.login.inj hcall).symm⟩
  | bearer token op =>
    obtain ⟨-, -, -, r, -, -, hcall⟩ := authenticate_bearer_eq_ok_iff.1 h
    cases hcall

/-- A sign-up is let through as it is. -/
theorem eq_of_authenticate_eq_createUser {request : Request} {body : Body SignUpUser}
    (h : request.authenticate tokenType env db = .ok (.createUser body)) :
    request = .createUser body := by
  cases request with
  | createUser body' => rw [Call.createUser.inj (Except.ok.inj h)]
  | login credentials =>
    obtain ⟨-, r, -, -, hcall⟩ := authenticate_login_eq_ok_iff.1 h
    cases hcall
  | bearer token op =>
    obtain ⟨-, -, -, r, -, -, hcall⟩ := authenticate_bearer_eq_ok_iff.1 h
    cases hcall

/-- The name of a request that is let through. -/
theorem Request.principal_of_authenticate {request : Request} {call : Call}
    (h : request.authenticate tokenType env db = .ok call) :
    request.principal tokenType env db = call.principal := by
  rw [Request.principal, h]

end DseAuth
