import DseAuth.Service.Schedule

/-!
# The debug mode

The methods of `DebugResource`, which is registered only where the configuration sets `debugMode`.
`GET /debug/allUsers` asks for no credentials at all; the two others are behind the JWT filter.
`GET /debug/signUpExample` has no `@UnitOfWork`, so it runs outside of any session, on the detached
principal.

None of the methods reads the database after its filter has, but for `allUsers`, which has no
filter; so a request is one step here. The entities are the Java objects that the methods return.
-/

namespace DseAuth

namespace DebugResource

/-- `GET /debug/verifyToken`. -/
def verifyToken (user : User) : User := user

/-- `GET /debug/signUpExample`. -/
def getSignUpExampleObject (user : User) : SignUpUser where
  username := some user.username
  email := some user.email
  password := some user.password

/-- `GET /debug/allUsers`. -/
def getAllUsers (env : Environment) (s : Session) : Except JavaException (List User) :=
  UserDAO.findAll env s

end DebugResource

/-- A request to a debug endpoint. -/
inductive DebugRequest
  /-- `GET /debug/verifyToken`, with what the header holds after `Bearer`. -/
  | verifyToken (token : Token)
  /-- `GET /debug/signUpExample`, with the same. -/
  | signUpExample (token : Token)
  /-- `GET /debug/allUsers`. -/
  | allUsers
deriving DecidableEq

/-- The entity of a response to it. -/
inductive DebugEntity
  /-- A `User`. -/
  | user (user : User)
  /-- A `SignUpUser`. -/
  | signUpUser (user : SignUpUser)
  /-- A list of users. -/
  | users (users : List User)
  /-- A message of the framework. -/
  | framework
deriving DecidableEq

/-- A response to it. -/
structure DebugResponse where
  /-- The HTTP status. -/
  status : ℕ
  /-- The entity. -/
  entity : DebugEntity
deriving DecidableEq

/-- The response of the framework with a status. -/
def DebugResponse.error (response : Response) : DebugResponse :=
  ⟨response.status, .framework⟩

/-- `@UnitOfWork` around a method that schedules nothing. -/
def readUnitOfWork (env : Environment) (method : Session → Except JavaException DebugEntity)
    (db : Database) : DebugResponse × Database :=
  match transact env (reading method) db with
  | (.ok entity, db') => (⟨200, entity⟩, db')
  | (.error e, db') => (.error e.toResponse, db')

/-- Serve a debug request; without the debug mode there is no such resource. -/
def DebugRequest.serve (tokenType : String) (debugMode : Bool) (authEnv env : Environment)
    (db : Database) (request : DebugRequest) : DebugResponse × Database :=
  if debugMode then
    match request with
    | .verifyToken token =>
      match jwtFilter tokenType authEnv token db with
      | .ok user => readUnitOfWork env (fun _ ↦ .ok (.user (DebugResource.verifyToken user))) db
      | .error response => (.error response, db)
    | .signUpExample token =>
      match jwtFilter tokenType authEnv token db with
      | .ok user => (⟨200, .signUpUser (DebugResource.getSignUpExampleObject user)⟩, db)
      | .error response => (.error response, db)
    | .allUsers => readUnitOfWork env (fun s ↦ (DebugResource.getAllUsers env s).map .users) db
  else (⟨404, .framework⟩, db)

variable {tokenType : String} {debugMode : Bool} {authEnv env : Environment} {db : Database}

/-- A transaction that has nothing to flush. -/
theorem readUnitOfWork_eq (method : Session → Except JavaException DebugEntity) :
    readUnitOfWork env method db =
      (match method (Session.openSession db) with
        | .error e => .error e.toResponse
        | .ok entity =>
          if env.commitFails then .error JavaException.persistence.toResponse
          else ⟨200, entity⟩, db) := by
  rw [readUnitOfWork, transact_reading]
  rcases method (Session.openSession db) with e | entity
  · rcases env.commitFails with _ | _ <;> rfl
  · rcases env.commitFails with _ | _ <;> rfl

/-- **Debug requests change nothing.** -/
theorem DebugRequest.serve_db (request : DebugRequest) :
    (request.serve tokenType debugMode authEnv env db).2 = db := by
  unfold DebugRequest.serve
  split
  · rcases request with token | token | _
    · dsimp only
      split
      · rw [readUnitOfWork_eq]
      · rfl
    · dsimp only
      split
      · rfl
      · rfl
    · rw [readUnitOfWork_eq]
  · rfl

/-- What `GET /debug/signUpExample` answers 200. -/
theorem signUpExample_eq_iff {token : Token} {body : SignUpUser} :
    ((DebugRequest.signUpExample token).serve tokenType true authEnv env db).1 =
        ⟨200, .signUpUser body⟩ ↔
      ∃ user, jwtFilter tokenType authEnv token db = .ok user ∧
        DebugResource.getSignUpExampleObject user = body := by
  unfold DebugRequest.serve
  rw [if_pos rfl]
  dsimp only
  rcases jwtFilter tokenType authEnv token db with response | user
  · constructor
    · intro h
      cases (DebugResponse.mk.inj h).2
    · rintro ⟨user, h, -⟩
      cases h
  · constructor
    · intro h
      exact ⟨user, rfl, DebugEntity.signUpUser.inj (DebugResponse.mk.inj h).2⟩
    · rintro ⟨user', h, rfl⟩
      rw [Except.ok.inj h]

end DseAuth
