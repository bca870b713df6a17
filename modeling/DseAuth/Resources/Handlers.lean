import DseAuth.Auth.TokenHandler
import DseAuth.Auth.Authenticators

/-!
# The resource methods

The methods of `UserResource`, `AuthenticationResource` and `AuthorizationResource`. A method runs
inside the session of its request: a `Handler` returns a response, or lets an exception out, and in
both cases leaves the session with what it has scheduled by then. What becomes of that is decided
outside (`unitOfWork`), and only by *whether* an exception got out, never by the status of the
response.

The three methods that write an account back share their last lines, `updateAndReissue`; the two
that only issue a token share all of them, `tokenResponse`.
-/

namespace DseAuth

/-- The entity of a response. -/
inductive Entity
  /-- No entity. -/
  | none
  /-- A message, in the words of the source. -/
  | text (message : String)
  /-- `TokenResponse`. -/
  | token (token : Token)
  /-- The set `GET /authorization` returns. -/
  | privileges (privileges : JavaSet (Option String))
  /-- A message of the framework. -/
  | framework
deriving DecidableEq

/-- A response. -/
structure Response where
  /-- The HTTP status. -/
  status : ℕ
  /-- The entity. -/
  entity : Entity
deriving DecidableEq

/-- What the framework answers when an exception reaches it. -/
def JavaException.toResponse : JavaException → Response
  | .constraintViolation => ⟨422, .framework⟩
  | .jsonProcessing => ⟨400, .framework⟩
  | _ => ⟨500, .framework⟩

/-- No exception is answered 200. -/
theorem JavaException.toResponse_status_ne (e : JavaException) : e.toResponse.status ≠ 200 := by
  cases e <;> exact nofun

/-- No exception is answered with a token. -/
theorem JavaException.toResponse_entity (e : JavaException) : e.toResponse.entity = .framework := by
  cases e <;> rfl

/-- A method in the session of its request. -/
abbrev Handler := Session → Except JavaException Response × Session

/-- What is sent as the body of a request. -/
inductive Body (α : Type)
  /-- Not JSON, or not of the type of the parameter. -/
  | unreadable
  /-- No body, or `null`. -/
  | null
  /-- A value of the type of the parameter. -/
  | value (a : α)
deriving DecidableEq

/-- The entity parameter of a method. -/
def Body.read {α : Type} : Body α → Except JavaException (Option α)
  | .unreadable => .error .jsonProcessing
  | .null => .ok none
  | .value a => .ok (some a)

/-- An entity parameter annotated `@Valid`; the annotation has nothing to say about null. -/
def Body.readValid (body : Body SignUpUser) : Except JavaException (Option ValidSignUpUser) :=
  match body.read with
  | .error e => .error e
  | .ok none => .ok none
  | .ok (some user) =>
    match user.validate with
    | none => .error .constraintViolation
    | some valid => .ok (some valid)

/-- Run a method on a parameter, which is read inside the transaction as well. -/
def withParameter {α : Type} (parameter : Except JavaException α) (method : α → Handler) :
    Handler :=
  fun s ↦ match parameter with
    | .error e => (.error e, s)
    | .ok a => method a s

section

variable (tokenType : String) (env : Environment)

/-- Write a user back and answer with a new token; the common end of `UserResource.updateUser`,
`addPrivileges` and `removePrivileges`. -/
def updateAndReissue (user : User) : Handler := fun s ↦
  match UserDAO.updateUser env user s with
  | (false, s) => (.ok ⟨404, .text "User not found!"⟩, s)
  | (true, s) =>
    match TokenHandler.buildToken tokenType env user.getName s with
    | .ok token => (.ok ⟨200, .token token⟩, s)
    -- caught and answered, so what is scheduled by now will be committed
    | .error .jose => (.ok ⟨500, .none⟩, s)
    | .error e => (.error e, s)

/-- Answer with a new token; the common body of `login` and `refresh`. -/
def tokenResponse (name : String) : Handler := fun s ↦
  match TokenHandler.buildToken tokenType env name s with
  | .ok token => (.ok ⟨200, .token token⟩, s)
  | .error (.illegalState message) => (.ok ⟨500, .text ("Server Error: " ++ message)⟩, s)
  | .error .jose => (.ok ⟨500, .none⟩, s)
  | .error e => (.error e, s)

namespace UserResource

/-- `POST /user`. -/
def createUser (user : Option ValidSignUpUser) : Handler := fun s ↦
  match user with
  | none => (.error .nullPointer, s)
  | some user =>
    match UserDAO.addNewUser env user.toSignUpUser s with
    | (.error (.illegalCredentials message), s) =>
      (.ok ⟨409, .text ("\x7b" ++ message ++ "\x7d")⟩, s)
    | (.error e, s) => (.error e, s)
    | (.ok _, s) => (.ok ⟨200, .none⟩, s)

/-- `PUT /user`. -/
def updateUser (user : User) (newUserCredentials : Option ValidSignUpUser) : Handler := fun s ↦
  match newUserCredentials with
  | none => (.error .nullPointer, s)
  | some newUserCredentials =>
    if user.username = newUserCredentials.username then
      updateAndReissue tokenType env
        ((user.setEmail newUserCredentials.email).setPassword newUserCredentials.password) s
    else (.ok ⟨400, .text "Usernames are permanent and can't be changed!"⟩, s)

/-- `DELETE /user`. -/
def deleteUser (user : User) : Handler := fun s ↦
  match UserDAO.deleteUser env user s with
  | (false, s) => (.ok ⟨404, .text "User not found!"⟩, s)
  | (true, s) => (.ok ⟨200, .none⟩, s)

end UserResource

namespace AuthenticationResource

/-- `GET /authentication`; the principal is a `PrincipalImpl`. -/
def login (user : String) : Handler :=
  tokenResponse tokenType env user

/-- `GET /authentication/refresh`. -/
def refresh (user : User) : Handler :=
  tokenResponse tokenType env user.getName

end AuthenticationResource

namespace AuthorizationResource

/-- `GET /authorization`. -/
def getPriviliges (user : User) : Handler := fun s ↦
  (.ok ⟨200, .privileges user.getPrivileges⟩, s)

/-- `PUT /authorization`. -/
def addPrivileges (user : User) (newPriviliges : Option (List (Option String))) : Handler := fun s ↦
  match newPriviliges with
  | none => (.error .nullPointer, s)
  | some newPriviliges =>
    updateAndReissue tokenType env (newPriviliges.foldl User.addPrivilege user) s

/-- `DELETE /authorization`. -/
def removePrivileges (user : User) (priviligesToRemove : Option (List (Option String))) : Handler :=
  fun s ↦
    match priviligesToRemove with
    | none => (.error .nullPointer, s)
    | some priviligesToRemove =>
      updateAndReissue tokenType env (priviligesToRemove.foldl User.removePrivilige user) s

end AuthorizationResource

end

end DseAuth
