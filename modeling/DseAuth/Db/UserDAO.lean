import DseAuth.Db.Session

/-!
# The data access object

`db.UserDAO`, over the session of the current transaction. Methods that change the session return
it; methods that only read it do not.
-/

namespace DseAuth.UserDAO

/-- `findByName`. -/
def findByName (env : Environment) (login : Option String) (s : Session) :
    Except JavaException (Option User) :=
  if env.lookupFails then .error .hibernate else s.byNaturalId login

/-- `persist` of a user of which any property may be null, for a method that returns true
afterwards. The mapper draws the id before it looks at the columns that must not be null. -/
def persistNullable (env : Environment) (username password email : Option String) (s : Session) :
    Except JavaException Bool × Session :=
  match username, password, email with
  | some username, some password, some email =>
    match s.persist env username email password with
    | (.error e, s) => (.error e, s)
    | (.ok (), s) => (.ok true, s)
  | _, _, _ =>
    match s.db.nextval with
    | none => (.error .persistence, s)
    | some (_, db) => (.error .persistence, { s with db := db })

/-- `addNewUser(SignUpUser)`. -/
def addNewUser (env : Environment) (newUser : SignUpUser) (s : Session) :
    Except JavaException Bool × Session :=
  match findByName env newUser.username s with
  | .error e => (.error e, s)
  | .ok (some _) => (.error (.illegalCredentials "Username already in use!"), s)
  | .ok none => persistNullable env newUser.username newUser.password newUser.email s

/-- `addNewUser(String, String, String)`, which does not look the name up. -/
def addNewUserOf (env : Environment) (username password email : Option String) (s : Session) :
    Except JavaException Bool × Session :=
  persistNullable env username password email s

/-- `findByID`; `get` wants an id. -/
def findByID (env : Environment) (id : Option ℤ) (s : Session) :
    Except JavaException (Option User) :=
  match id with
  | none => .error (.illegalArgument "id to load is required for loading")
  | some id => if env.lookupFails then .error .hibernate else .ok (s.get id)

/-- `findAll`. -/
def findAll (env : Environment) (s : Session) : Except JavaException (List User) :=
  if env.lookupFails then .error .hibernate else .ok s.getResultList

/-- `deleteUser`. -/
def deleteUser (env : Environment) (u : User) (s : Session) : Bool × Session :=
  if env.writeFails then (false, s) else (true, s.delete u)

/-- `updateUser`. -/
def updateUser (env : Environment) (updatedUser : User) (s : Session) : Bool × Session :=
  if env.writeFails then (false, s) else (true, s.update updatedUser)

variable {env : Environment} {db : Database}

/-- For an argument that has been validated, what is left to fail is the database. -/
theorem addNewUser_toSignUpUser (valid : ValidSignUpUser) (s : Session) :
    addNewUser env valid.toSignUpUser s =
      match findByName env (some valid.username) s with
      | .error e => (.error e, s)
      | .ok (some _) => (.error (.illegalCredentials "Username already in use!"), s)
      | .ok none =>
        match s.persist env valid.username valid.email valid.password with
        | (.error e, s) => (.error e, s)
        | (.ok (), s) => (.ok true, s) := rfl

/-- A null name cannot be looked up. -/
theorem findByName_none (env : Environment) (s : Session) :
    findByName env none s = .error .hibernate := by
  rw [findByName]
  split <;> rfl

/-- A lookup of a name in a fresh session reads the table. -/
theorem findByName_some (env : Environment) (login : String) (db : Database) :
    findByName env (some login) (Session.openSession db) =
      if env.lookupFails then .error .hibernate
      else .ok ((db.byUsername login).map UserRow.load) := rfl

/-- A lookup that returns has been given a name. -/
theorem exists_of_findByName {login : Option String} {s : Session} {found : Option User}
    (h : findByName env login s = .ok found) : ∃ name, login = some name := by
  rcases login with _ | name
  · cases (findByName_none env s).symm.trans h
  · exact ⟨name, rfl⟩

/-- And it has not failed. -/
theorem lookup_of_findByName {login : Option String} {s : Session} {found : Option User}
    (h : findByName env login s = .ok found) : env.lookupFails = false := by
  by_contra hne
  rw [findByName, if_pos (Bool.not_eq_false _ ▸ hne)] at h
  cases h

/-- A lookup fails in one way. -/
theorem findByName_eq_error {login : Option String} {s : Session} {e : JavaException}
    (h : findByName env login s = .error e) : e = .hibernate := by
  rcases login with _ | name
  · exact Except.error.inj (h.symm.trans (findByName_none env s))
  · rw [findByName] at h
    split at h
    · exact (Except.error.inj h).symm
    · cases h

/-- What a lookup finds is the row of the name. -/
theorem findByName_openSession {login : String} {u : User}
    (h : findByName env (some login) (Session.openSession db) = .ok (some u)) :
    ∃ r ∈ db.rows, r.username = login ∧ u = r.load := by
  rw [findByName_some] at h
  split at h
  · cases h
  · obtain ⟨r, hr, hu⟩ := Option.map_eq_some_iff.1 (Except.ok.inj h)
    obtain ⟨hmem, hname⟩ := Database.byUsername_eq_some_iff.1 hr
    exact ⟨r, hmem, hname, hu.symm⟩

/-- And it finds every row that is there. -/
theorem findByName_openSession_of_mem (hlookup : env.lookupFails = false) {r : UserRow}
    (hr : r ∈ db.rows) :
    findByName env (some r.username) (Session.openSession db) = .ok (some r.load) := by
  have hby : db.byUsername r.username = some r := Database.byUsername_eq_some_iff.2 ⟨hr, rfl⟩
  rw [findByName_some, hlookup, if_neg Bool.false_ne_true, hby]
  rfl

end DseAuth.UserDAO
