import DseAuth.Library.PersistentSet
import Mathlib.Data.Int.Notation

/-!
# Users and sign-ups

`User` is an account as a Java object: what the data access object hands out, what the
authenticator passes on as the principal, and what the handlers change. Its privileges are a
collection of the object-relational mapper, so the object carries, besides the set itself, what the
set was loaded with.

`SignUpUser` is the JSON body of a sign-up or of a change of credentials. Its three properties are
annotated `@NotEmpty`; a body that passes validation is a `ValidSignUpUser`.
-/

namespace DseAuth

/-- `core.User`, once it has an id. -/
structure User where
  /-- `int getID()`. -/
  id : ℤ
  /-- `String getUsername()`, which is also `getName()`. -/
  username : String
  /-- `String getEmail()`. -/
  email : String
  /-- `String getPassword()`. -/
  password : String
  /-- `Set<String> getPrivileges()`. -/
  privileges : PersistentSet String
deriving DecidableEq

namespace User

/-- `Principal.getName()`. -/
def getName (u : User) : String := u.username

/-- `setEmail`. -/
def setEmail (u : User) (email : String) : User := { u with email := email }

/-- `setPassword`. -/
def setPassword (u : User) (password : String) : User := { u with password := password }

/-- `getPrivileges`. -/
def getPrivileges (u : User) : JavaSet (Option String) := u.privileges.set

/-- `addPrivilege`. -/
def addPrivilege (u : User) (s : Option String) : User :=
  { u with privileges := u.privileges.add s }

/-- `removePrivilige`, less the boolean it returns and nobody reads. -/
def removePrivilige (u : User) (s : Option String) : User :=
  { u with privileges := u.privileges.remove s }

/-- Adding a list changes the privileges and nothing else. -/
theorem foldl_addPrivilege (u : User) (l : List (Option String)) :
    l.foldl addPrivilege u = { u with privileges := l.foldl PersistentSet.add u.privileges } := by
  induction l generalizing u with
  | nil => rfl
  | cons s l ih => rw [List.foldl_cons, ih]; rfl

/-- Removing a list changes the privileges and nothing else. -/
theorem foldl_removePrivilige (u : User) (l : List (Option String)) :
    l.foldl removePrivilige u =
      { u with privileges := l.foldl PersistentSet.remove u.privileges } := by
  induction l generalizing u with
  | nil => rfl
  | cons s l ih => rw [List.foldl_cons, ih]; rfl

end User

/-- `core.SignUpUser`; a property that is missing or null is `none`. -/
structure SignUpUser where
  /-- `getUsername()`. -/
  username : Option String
  /-- `getEmail()`. -/
  email : Option String
  /-- `getPassword()`. -/
  password : Option String
deriving DecidableEq

/-- A `SignUpUser` that passed `@Valid`. -/
structure ValidSignUpUser where
  /-- `getUsername()`. -/
  username : String
  /-- `getEmail()`. -/
  email : String
  /-- `getPassword()`. -/
  password : String
  /-- `@NotEmpty`. -/
  username_ne : username ≠ ""
  /-- `@NotEmpty`. -/
  email_ne : email ≠ ""
  /-- `@NotEmpty`. -/
  password_ne : password ≠ ""
deriving DecidableEq

/-- The object itself, which is still a `SignUpUser`. -/
def ValidSignUpUser.toSignUpUser (valid : ValidSignUpUser) : SignUpUser where
  username := some valid.username
  email := some valid.email
  password := some valid.password

/-- `@NotEmpty` on a string: neither null nor of length zero. -/
def notEmpty : Option String → Option { s : String // s ≠ "" }
  | none => none
  | some s => if h : s ≠ "" then some ⟨s, h⟩ else none

/-- `@Valid` on a `SignUpUser`; `none` is a violated constraint. -/
def SignUpUser.validate (u : SignUpUser) : Option ValidSignUpUser := do
  let username ← notEmpty u.username
  let email ← notEmpty u.email
  let password ← notEmpty u.password
  return ⟨username, email, password, username.2, email.2, password.2⟩

theorem eq_some_of_notEmpty {s : Option String} {t : { t : String // t ≠ "" }}
    (h : notEmpty s = some t) : s = some t.1 := by
  rcases s with _ | s
  · cases h
  · rw [notEmpty] at h
    split at h
    · obtain rfl := Option.some.inj h
      rfl
    · cases h

/-- Validation passes the properties on as they are. -/
theorem SignUpUser.eq_of_validate {u : SignUpUser} {valid : ValidSignUpUser}
    (h : u.validate = some valid) : u = valid.toSignUpUser := by
  obtain ⟨username, husername, h⟩ := Option.bind_eq_some_iff.1 h
  obtain ⟨email, hemail, h⟩ := Option.bind_eq_some_iff.1 h
  obtain ⟨password, hpassword, h⟩ := Option.bind_eq_some_iff.1 h
  obtain rfl := Option.some.inj h
  rcases u with ⟨_, _, _⟩
  rw [ValidSignUpUser.toSignUpUser, SignUpUser.mk.injEq]
  exact ⟨eq_some_of_notEmpty husername, eq_some_of_notEmpty hemail, eq_some_of_notEmpty hpassword⟩

theorem SignUpUser.username_of_validate {u : SignUpUser} {valid : ValidSignUpUser}
    (h : u.validate = some valid) : u.username = some valid.username := by
  rw [eq_of_validate h]
  rfl

end DseAuth
