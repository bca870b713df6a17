import DseAuth.Library.Family
import DseAuth.Service.Schedule
import Mathlib.Data.Set.Image

/-!
# What the service is for

An account as its owner knows it: a name, an email, a password, and a set of privileges. There are
no ids here, no sessions and no write-backs, and privileges are a set and not rows of a table.

`Account.serve` says what a request does to the account that it names, and how it is answered, when
nothing fails: a name is free or it is taken; whoever has the password is given a token; a token
that says what is true of the account now lets its bearer change it. The name a request is about
(`Exchange.name`) is in the request, and no other account plays a part, so the whole service is
meant to be a `Family` of such accounts, one for each name.

The definitions are not taken from the code. What the code has to do with them is in
`Properties.Refinement`.
-/

namespace DseAuth

/-- An account. -/
structure Account where
  /-- Its name. -/
  username : String
  /-- The email. -/
  email : String
  /-- The password. -/
  password : String
  /-- The lists that its owner has access to. -/
  privileges : Set String

/-- How a request is answered, whatever the response looks like. -/
inductive Reply
  /-- It is done, and there is nothing to say. -/
  | done
  /-- A token that says so much about an account. A privilege may be null in it. -/
  | token (username : String) (privileges : Set (Option String))
  /-- The privileges. -/
  | privileges (privileges : Set String)
  /-- It is refused, with this status. -/
  | refused (status : ℕ)
  /-- It was not let through. -/
  | turnedAway

/-- What claims say about an account. The subject may be any number. -/
structure JwtClaims.Says (claims : JwtClaims) (username : String)
    (privileges : Set (Option String)) : Prop where
  /-- There is a subject. -/
  subject : ∃ sub id, claims.getSubject = .ok (some sub) ∧ JavaInteger.parseInt sub = some id
  /-- The username. -/
  username : claims.getClaimValue "username" = .string username
  /-- The privileges, in any order. -/
  privileges : ∃ elements, claims.getClaimValue "privileges" = .array elements ∧
    ∀ j, j ∈ elements ↔ ∃ p ∈ privileges, Json.ofNullable p = j

namespace Account

/-- The token the owner is given. -/
def token (a : Account) : Reply := .token a.username (some '' a.privileges)

/-- The account fits the columns of the table. -/
def Storable (a : Account) : Prop :=
  javaLength a.username ≤ 20 ∧ javaLength a.email ≤ 60 ∧ javaLength a.password ≤ 30

instance (a : Account) : Decidable a.Storable :=
  inferInstanceAs (Decidable (_ ∧ _))

/-- A request with a parameter: it is refused where the parameter cannot be read or is null. -/
def given {α : Type} (a : Option Account) (parameter : Except JavaException (Option α))
    (serve : α → Option Account × Reply) : Option Account × Reply :=
  match parameter with
  | .error e => (a, .refused e.toResponse.status)
  | .ok none => (a, .refused 500)
  | .ok (some value) => serve value

/-- Put the account in the place of what was there, if it can be stored. -/
def store (old : Option Account) (new : Account) (reply : Reply) : Option Account × Reply :=
  if new.Storable then (some new, reply) else (old, .refused 500)

/-- Sign up for a name. -/
def signUp (old : Option Account) (valid : ValidSignUpUser) : Option Account × Reply :=
  match old with
  | some a => (some a, .refused 409)
  | none => store none ⟨valid.username, valid.email, valid.password, ∅⟩ .done

/-- What the owner can do. -/
def perform (a : Account) : Operation → Option Account × Reply
  | .updateUser body => given (some a) body.readValid fun valid ↦
    if a.username = valid.username then
      store (some a) { a with email := valid.email, password := valid.password } a.token
    else (some a, .refused 400)
  | .deleteUser => (none, .done)
  | .refresh => (some a, a.token)
  | .getPriviliges => (some a, .privileges a.privileges)
  | .addPrivileges body => given (some a) body.read fun newPriviliges ↦
    (some { a with privileges := a.privileges ∪ {p | some p ∈ newPriviliges} },
      .token a.username (some '' a.privileges ∪ {p | p ∈ newPriviliges}))
  | .removePrivileges body => given (some a) body.read fun priviligesToRemove ↦
    (some { a with privileges := a.privileges \ {p | some p ∈ priviligesToRemove} },
      .token a.username (some '' a.privileges \ {p | p ∈ priviligesToRemove}))

open Classical in
/-- **What a request does to the account that it names, and the answer.** -/
noncomputable def serve (tokenType : String) (a : Option Account) (x : Exchange) :
    Option Account × Reply :=
  match x.request with
  | .createUser body => given a body.readValid (signUp a)
  | .login credentials =>
    match a with
    | none => (none, .turnedAway)
    | some a =>
      if credentials = some ⟨a.username, a.password⟩ then (some a, a.token)
      else (some a, .turnedAway)
  | .bearer token operation =>
    match a with
    | none => (none, .turnedAway)
    | some a =>
      if ∃ claims, JwtConsumer.process tokenType x.authEnv.now token = some claims ∧
          claims.Says a.username (some '' a.privileges) then a.perform operation
      else (some a, .turnedAway)

end Account

/-- The name that a request is about, if any. -/
def Exchange.name (tokenType : String) (x : Exchange) : Option String :=
  match x.request with
  | .createUser (.value user) => user.username
  | .createUser _ => none
  | .login credentials => credentials.map BasicCredentials.username
  | .bearer token _ =>
    match JwtConsumer.process tokenType x.authEnv.now token with
    | none => none
    | some claims =>
      match claims.getClaimValue "username" with
      | .string name => some name
      | _ => none

/-- The accounts there are, by their names. There is none without a name. -/
abbrev Registry := Option String → Option Account

namespace Registry

variable (tokenType : String)

/-- A request moves the account that it names. -/
noncomputable def next : Registry → Exchange → Registry :=
  Family.step (Exchange.name tokenType) fun a x ↦ (Account.serve tokenType a x).1

/-- And is answered by it. -/
noncomputable def reply : Registry → Exchange → Reply :=
  Family.answer (Exchange.name tokenType) fun a x ↦ (Account.serve tokenType a x).2

end Registry

end DseAuth
