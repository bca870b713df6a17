import DseAuth.Auth.Token
import DseAuth.Db.UserDAO

/-!
# The two authenticators

Both are handed what a filter has extracted from the request, look the account up by name in a
session of their own, and answer with the principal or with nothing (`Optional.empty`).

`JWTAuthenticator` trusts the consumer for signature, expiry and the presence of a subject. Of the
claims it demands that the subject is a number, that `username` is a string or null, and that
`privileges` is an array; the last two are unchecked or checked casts, whose `ClassCastException`
is caught, while a number that does not parse and a missing array are not. A null username passes
its cast, and the lookup refuses it like a database that is not there. The parsed subject is bound
to a local variable that nothing reads.

`Authenticates claims r` is the whole condition under which claims authenticate the account in the
row `r`, and `JWTAuthenticator.authenticate_eq_ok_some_iff` and
`BasicAuthenticator.authenticate_eq_ok_some_iff` invert the two authenticators in a fresh session.
What the first of them does with claims that authenticate nobody is listed in
`JWTAuthenticator.Answer`.
-/

namespace DseAuth

/-- A chain of computations returns when its first link does, and then the rest. -/
theorem bind_eq_ok_iff {ε α β : Type} {first : Except ε α} {rest : α → Except ε β} {b : β} :
    first >>= rest = .ok b ↔ ∃ a, first = .ok a ∧ rest a = .ok b := by
  rcases first with e | a
  · exact ⟨nofun, fun ⟨_, h, _⟩ ↦ nomatch h⟩
  · exact ⟨fun h ↦ ⟨a, rfl, h⟩, fun ⟨_, ha, h⟩ ↦ Except.ok.inj ha ▸ h⟩

/-- What is made of a result is returned when the result is. -/
theorem map_eq_ok_iff {ε α β : Type} {result : Except ε α} {f : α → β} {b : β} :
    result.map f = .ok b ↔ ∃ a, result = .ok a ∧ f a = b := by
  rcases result with e | a
  · exact ⟨nofun, fun ⟨_, h, _⟩ ↦ nomatch h⟩
  · exact ⟨fun h ↦ ⟨a, rfl, Except.ok.inj h⟩, fun ⟨_, ha, h⟩ ↦ Except.ok.inj ha ▸ congrArg _ h⟩

theorem map_eq_error_iff {ε α β : Type} {result : Except ε α} {f : α → β} {e : ε} :
    result.map f = .error e ↔ result = .error e := by
  rcases result with e' | a
  · exact ⟨fun h ↦ Except.error.inj h ▸ rfl, fun h ↦ Except.error.inj h ▸ rfl⟩
  · exact ⟨nofun, nofun⟩

/-! ### Bearer tokens -/

namespace JWTAuthenticator

/-- `Integer.parseInt(claims.getSubject())`. -/
def parseInt (s : Option String) : Except JavaException ℤ :=
  match s.bind JavaInteger.parseInt with
  | some id => .ok id
  | none => .error .numberFormat

/-- `(String) claims.getClaimValue("username")`. -/
def castString : Json → Except JavaException (Option String)
  | .null => .ok none
  | .string s => .ok (some s)
  | _ => .error .classCast

/-- `new HashSet<>((ArrayList<String>) claims.getClaimValue("privileges"))`. The element type is
erased, so the elements are not cast. -/
def castHashSet : Json → Except JavaException (JavaSet Json)
  | .null => .error .nullPointer
  | .array elements => .ok (JavaSet.ofList elements)
  | _ => .error .classCast

/-- `user.getPrivileges()` as the token's set is compared with it. -/
def privilegesOf (user : User) : JavaSet Json :=
  user.getPrivileges.map Json.ofNullable Json.ofNullable_injective

/-- What becomes of a user that was found: the check for manipulations or inconsistencies. -/
def checkPrivileges (privileges : JavaSet Json) (user : User) : Option User :=
  if ! privileges.equals (privilegesOf user) then none else some user

/-- The body of the `try` of `authenticate`. -/
def tryAuthenticate (env : Environment) (claims : JwtClaims) (s : Session) :
    Except JavaException (Option User) := do
  let subject ← claims.getSubject
  -- parsed, and never compared with the id of the user that is found
  let _id ← parseInt subject
  let username ← castString (claims.getClaimValue "username")
  let privileges ← castHashSet (claims.getClaimValue "privileges")
  let u ← UserDAO.findByName env username s
  return u.bind (checkPrivileges privileges)

/-- `authenticate`. -/
def authenticate (env : Environment) (claims : JwtClaims) (s : Session) :
    Except JavaException (Option User) :=
  match tryAuthenticate env claims s with
  | .error .classCast => .ok none
  | .error .malformedClaim => .ok none
  | .error .hibernate => .error (.authentication "database unavailable")
  -- a subject that is no number and a missing array get through to the framework
  | outcome => outcome

end JWTAuthenticator

/-- **When claims authenticate the account in a row**: a subject that is some number, the username
of the row, and an array with exactly the stored privileges. -/
structure Authenticates (claims : JwtClaims) (r : UserRow) : Prop where
  /-- Any number will do. -/
  subject : ∃ sub id, claims.getSubject = .ok (some sub) ∧ JavaInteger.parseInt sub = some id
  /-- The username is that of the row. -/
  username : claims.getClaimValue "username" = .string r.username
  /-- The privileges are those of the row, in any order and any number of times each. -/
  privileges : ∃ elements, claims.getClaimValue "privileges" = .array elements ∧
    ∀ j, j ∈ elements ↔ ∃ p ∈ r.privileges, Json.string p = j

namespace JWTAuthenticator

theorem parseInt_eq_ok_iff {s : Option String} {id : ℤ} :
    parseInt s = .ok id ↔ ∃ sub, s = some sub ∧ JavaInteger.parseInt sub = some id := by
  rw [parseInt, ← Option.bind_eq_some_iff]
  rcases s.bind JavaInteger.parseInt with _ | n <;> simp

theorem castString_eq_ok_some_iff {j : Json} {s : String} :
    castString j = .ok (some s) ↔ j = .string s := by
  cases j <;> simp [castString]

theorem castHashSet_eq_ok_iff {j : Json} {t : JavaSet Json} :
    castHashSet j = .ok t ↔ ∃ elements, j = .array elements ∧ JavaSet.ofList elements = t := by
  cases j <;> simp [castHashSet]

/-- A loaded user holds the privileges of its rows, and no null. -/
theorem mem_privilegesOf_load {r : UserRow} {j : Json} :
    j ∈ privilegesOf r.load ↔ ∃ p ∈ r.privileges, Json.string p = j := by
  rw [privilegesOf, JavaSet.mem_map]
  constructor
  · rintro ⟨a, ha, rfl⟩
    rcases a with _ | p
    · exact absurd ha PersistentSet.none_not_mem_load_set
    · exact ⟨p, PersistentSet.some_mem_load_set.1 ha, rfl⟩
  · rintro ⟨p, hp, rfl⟩
    exact ⟨some p, PersistentSet.some_mem_load_set.2 hp, rfl⟩

theorem checkPrivileges_eq_some_iff {privileges : JavaSet Json} {user u : User} :
    checkPrivileges privileges user = some u ↔
      (∀ j, j ∈ privileges ↔ j ∈ privilegesOf user) ∧ user = u := by
  rw [checkPrivileges, ← JavaSet.equals_iff, Option.ite_none_left_eq_some]
  simp

/-- Catching adds no principal. -/
theorem authenticate_eq_ok_some_iff_try {env : Environment} {claims : JwtClaims} {s : Session}
    {u : User} :
    authenticate env claims s = .ok (some u) ↔ tryAuthenticate env claims s = .ok (some u) := by
  rw [authenticate]
  rcases tryAuthenticate env claims s with e | found
  · cases e <;> simp
  · simp

variable {env : Environment} {claims : JwtClaims} {db : Database} {u : User}

/-- **The JWT authenticator accepts exactly the accounts its claims authenticate.** -/
theorem authenticate_eq_ok_some_iff :
    authenticate env claims (Session.openSession db) = .ok (some u) ↔
      env.lookupFails = false ∧ ∃ r ∈ db.rows, Authenticates claims r ∧ u = r.load := by
  rw [authenticate_eq_ok_some_iff_try, tryAuthenticate, bind_eq_ok_iff]
  constructor
  · rintro ⟨subject, hsubject, h⟩
    obtain ⟨id, hid, h⟩ := bind_eq_ok_iff.1 h
    obtain ⟨username, husername, h⟩ := bind_eq_ok_iff.1 h
    obtain ⟨privileges, hprivileges, h⟩ := bind_eq_ok_iff.1 h
    obtain ⟨found, hfound, h⟩ := bind_eq_ok_iff.1 h
    obtain ⟨sub, rfl, hparse⟩ := parseInt_eq_ok_iff.1 hid
    obtain ⟨elements, harray, rfl⟩ := castHashSet_eq_ok_iff.1 hprivileges
    obtain ⟨user, rfl, hcheck⟩ := Option.bind_eq_some_iff.1 (Except.ok.inj h)
    obtain ⟨heq, rfl⟩ := checkPrivileges_eq_some_iff.1 hcheck
    -- a null name is looked up as well, and refused
    obtain ⟨name, rfl⟩ := UserDAO.exists_of_findByName hfound
    obtain ⟨r, hr, rfl, rfl⟩ := UserDAO.findByName_openSession hfound
    refine ⟨UserDAO.lookup_of_findByName hfound, r, hr, ⟨?_, ?_, ?_⟩, rfl⟩
    · exact ⟨sub, id, hsubject, hparse⟩
    · exact castString_eq_ok_some_iff.1 husername
    · refine ⟨elements, harray, fun j ↦ ?_⟩
      rw [← mem_privilegesOf_load, ← heq j, JavaSet.mem_ofList]
  · rintro ⟨hlookup, r, hr, ⟨⟨sub, id, hsubject, hparse⟩, husername, elements, harray, hmem⟩, rfl⟩
    have heq : ∀ j, j ∈ JavaSet.ofList elements ↔ j ∈ privilegesOf r.load := fun j ↦ by
      rw [JavaSet.mem_ofList, hmem, mem_privilegesOf_load]
    refine ⟨some sub, hsubject, bind_eq_ok_iff.2 ⟨id, parseInt_eq_ok_iff.2 ⟨sub, rfl, hparse⟩, ?_⟩⟩
    refine bind_eq_ok_iff.2 ⟨some r.username, castString_eq_ok_some_iff.2 husername, ?_⟩
    refine bind_eq_ok_iff.2 ⟨_, castHashSet_eq_ok_iff.2 ⟨elements, harray, rfl⟩, ?_⟩
    refine bind_eq_ok_iff.2 ⟨some r.load, UserDAO.findByName_openSession_of_mem hlookup hr, ?_⟩
    exact congrArg Except.ok (checkPrivileges_eq_some_iff.2 ⟨heq, rfl⟩)

/-- With the name of a row in them, the claims are accepted when they authenticate that row. -/
theorem exists_authenticate_iff (hlookup : env.lookupFails = false) {r : UserRow} (hr : r ∈ db.rows)
    (hname : claims.getClaimValue "username" = .string r.username) :
    (∃ u, authenticate env claims (Session.openSession db) = .ok (some u)) ↔
      Authenticates claims r := by
  constructor
  · rintro ⟨u, hu⟩
    obtain ⟨-, q, hq, hclaims, -⟩ := authenticate_eq_ok_some_iff.1 hu
    have hqr : q.username = r.username := Json.string.inj (hclaims.username.symm.trans hname)
    rwa [db.consistent.eq_of_username hq hr hqr] at hclaims
  · intro hclaims
    exact ⟨r.load, authenticate_eq_ok_some_iff.2 ⟨hlookup, r, hr, hclaims, rfl⟩⟩

/-! ### All answers -/

theorem castString_eq_ok_iff {j : Json} {name : Option String} :
    castString j = .ok name ↔ j = Json.ofNullable name := by
  cases j <;> cases name <;> simp [castString, Json.ofNullable]

/-- A cast to `String` fails in one way. -/
theorem castString_eq_error {j : Json} {e : JavaException} (h : castString j = .error e) :
    e = .classCast ∧ ∀ name, j ≠ Json.ofNullable name := by
  constructor
  · cases j <;> simp_all [castString]
  · rintro name rfl
    cases name <;> cases h

theorem castHashSet_eq_error {j : Json} {e : JavaException} (h : castHashSet j = .error e) :
    j = .null ∧ e = .nullPointer ∨
      j ≠ .null ∧ (∀ elements, j ≠ .array elements) ∧ e = .classCast := by
  cases j <;> simp_all [castHashSet]

/-- **What the authenticator can answer** to claims whose subject is the string `sub`. -/
inductive Answer (env : Environment) (claims : JwtClaims) (db : Database) (sub : String) :
    Except JavaException (Option User) → Prop
  /-- The subject does not parse, and nobody catches that. -/
  | notNumber (hparse : JavaInteger.parseInt sub = none) :
      Answer env claims db sub (.error .numberFormat)
  /-- The username is neither a string nor null. -/
  | wrongUsername {id : ℤ} (hparse : JavaInteger.parseInt sub = some id)
      (husername : ∀ name, claims.getClaimValue "username" ≠ Json.ofNullable name) :
      Answer env claims db sub (.ok none)
  /-- There are no privileges, and nobody catches that either. -/
  | noPrivileges {id : ℤ} {name : Option String} (hparse : JavaInteger.parseInt sub = some id)
      (husername : claims.getClaimValue "username" = Json.ofNullable name)
      (hprivileges : claims.getClaimValue "privileges" = .null) :
      Answer env claims db sub (.error .nullPointer)
  /-- The privileges are something else than an array. -/
  | wrongPrivileges {id : ℤ} (hparse : JavaInteger.parseInt sub = some id)
      (hnull : claims.getClaimValue "privileges" ≠ .null)
      (harray : ∀ elements, claims.getClaimValue "privileges" ≠ .array elements) :
      Answer env claims db sub (.ok none)
  /-- There is no username, and the lookup of a null name is refused. -/
  | noUsername {id : ℤ} {elements : List Json} (hparse : JavaInteger.parseInt sub = some id)
      (husername : claims.getClaimValue "username" = .null)
      (hprivileges : claims.getClaimValue "privileges" = .array elements) :
      Answer env claims db sub (.error (.authentication "database unavailable"))
  /-- The lookup fails. -/
  | unavailable {id : ℤ} {name : String} {elements : List Json}
      (hparse : JavaInteger.parseInt sub = some id)
      (husername : claims.getClaimValue "username" = .string name)
      (hprivileges : claims.getClaimValue "privileges" = .array elements)
      (hlookup : env.lookupFails = true) :
      Answer env claims db sub (.error (.authentication "database unavailable"))
  /-- There is no such account, or it has other privileges. -/
  | refused {id : ℤ} {name : String} {elements : List Json}
      (hparse : JavaInteger.parseInt sub = some id)
      (husername : claims.getClaimValue "username" = .string name)
      (hprivileges : claims.getClaimValue "privileges" = .array elements)
      (hlookup : env.lookupFails = false) :
      Answer env claims db sub (.ok none)
  /-- The claims authenticate a row. -/
  | found {r : UserRow} (hr : r ∈ db.rows) (hclaims : Authenticates claims r)
      (hlookup : env.lookupFails = false) :
      Answer env claims db sub (.ok (some r.load))

/-- The body of the `try`, step by step. -/
theorem tryAuthenticate_eq {env : Environment} {claims : JwtClaims} {s : Session} {sub : String}
    (hsubject : claims.getSubject = .ok (some sub)) :
    tryAuthenticate env claims s =
      parseInt (some sub) >>= fun _ ↦
        castString (claims.getClaimValue "username") >>= fun username ↦
          castHashSet (claims.getClaimValue "privileges") >>= fun privileges ↦
            UserDAO.findByName env username s >>= fun u ↦
              .ok (u.bind (checkPrivileges privileges)) := by
  rw [tryAuthenticate, hsubject]
  rfl

/-- **The authenticator has no other answers.** -/
theorem authenticate_answer {env : Environment} {claims : JwtClaims} {db : Database} {sub : String}
    (hsubject : claims.getSubject = .ok (some sub)) :
    Answer env claims db sub (authenticate env claims (Session.openSession db)) := by
  have htry := @tryAuthenticate_eq env claims (Session.openSession db) sub hsubject
  rcases hparse : JavaInteger.parseInt sub with _ | id
  · have hid : parseInt (some sub) = .error .numberFormat := by
      rw [parseInt, Option.bind_some, hparse]
    rw [hid] at htry
    rw [authenticate, htry]
    exact .notNumber hparse
  · have hid : parseInt (some sub) = .ok id := parseInt_eq_ok_iff.2 ⟨sub, rfl, hparse⟩
    rw [hid] at htry
    rcases husername : castString (claims.getClaimValue "username") with e | name
    · obtain ⟨rfl, hname⟩ := castString_eq_error husername
      rw [husername] at htry
      rw [authenticate, htry]
      exact .wrongUsername hparse hname
    · rw [husername] at htry
      have hname := castString_eq_ok_iff.1 husername
      rcases hprivileges : castHashSet (claims.getClaimValue "privileges") with e | privileges
      · rw [hprivileges] at htry
        rw [authenticate, htry]
        obtain ⟨hnull, rfl⟩ | ⟨hnull, harray, rfl⟩ := castHashSet_eq_error hprivileges
        · exact .noPrivileges hparse hname hnull
        · exact .wrongPrivileges hparse hnull harray
      · rw [hprivileges] at htry
        obtain ⟨elements, harray, rfl⟩ := castHashSet_eq_ok_iff.1 hprivileges
        have hlookup : tryAuthenticate env claims (Session.openSession db) =
            UserDAO.findByName env name (Session.openSession db) >>= fun u ↦
              .ok (u.bind (checkPrivileges (JavaSet.ofList elements))) := htry
        rcases hfound : UserDAO.findByName env name (Session.openSession db) with e | found
        · obtain rfl := UserDAO.findByName_eq_error hfound
          rw [authenticate, hlookup, hfound]
          rcases name with _ | name
          · exact .noUsername hparse hname harray
          · refine .unavailable hparse hname harray ?_
            by_contra hne
            rw [UserDAO.findByName_some, if_neg hne] at hfound
            cases hfound
        · obtain ⟨name, rfl⟩ := UserDAO.exists_of_findByName hfound
          have hdb := UserDAO.lookup_of_findByName hfound
          rcases hanswer : authenticate env claims (Session.openSession db) with e | _ | u
          · rw [authenticate, hlookup, hfound] at hanswer
            cases hanswer
          · exact .refused hparse hname harray hdb
          · obtain ⟨-, r, hr, hclaims, rfl⟩ := authenticate_eq_ok_some_iff.1 hanswer
            exact .found hr hclaims hdb

end JWTAuthenticator

/-! ### Basic credentials -/

/-- `BasicCredentials`. -/
structure BasicCredentials where
  /-- `getUsername()`. -/
  username : String
  /-- `getPassword()`. -/
  password : String
deriving DecidableEq

namespace BasicAuthenticator

/-- `isValidCredentials`. -/
def isValidCredentials (env : Environment) (credentials : BasicCredentials) (s : Session) :
    Except JavaException Bool :=
  match UserDAO.findByName env (some credentials.username) s with
  | .ok (some u) => .ok (u.password == credentials.password)
  | .ok none => .ok false
  | .error .hibernate => .error (.authentication "database unavailable")
  | .error e => .error e

/-- `authenticate`; the principal is just a name. -/
def authenticate (env : Environment) (credentials : BasicCredentials) (s : Session) :
    Except JavaException (Option String) := do
  if ← isValidCredentials env credentials s then
    return some credentials.username
  else
    return none

variable {env : Environment} {credentials : BasicCredentials} {db : Database} {name : String}

/-- **The basic authenticator accepts exactly the passwords that are stored.** -/
theorem authenticate_eq_ok_some_iff :
    authenticate env credentials (Session.openSession db) = .ok (some name) ↔
      env.lookupFails = false ∧ name = credentials.username ∧
        ∃ r ∈ db.rows, r.username = credentials.username ∧ r.password = credentials.password := by
  rw [authenticate, bind_eq_ok_iff]
  constructor
  · rintro ⟨valid, hvalid, h⟩
    cases valid with
    | false => cases h
    | true =>
      obtain rfl := Option.some.inj (Except.ok.inj h)
      rw [isValidCredentials] at hvalid
      split at hvalid
      · next u hu =>
        obtain ⟨r, hr, hname, rfl⟩ := UserDAO.findByName_openSession hu
        have hpassword : r.password = credentials.password :=
          beq_iff_eq.1 (Except.ok.inj hvalid)
        exact ⟨UserDAO.lookup_of_findByName hu, rfl, r, hr, hname, hpassword⟩
      all_goals cases hvalid
  · rintro ⟨hlookup, rfl, r, hr, hname, hpassword⟩
    have hfound := UserDAO.findByName_openSession_of_mem hlookup hr
    refine ⟨true, ?_, rfl⟩
    rw [isValidCredentials, ← hname, hfound]
    exact congrArg Except.ok (beq_iff_eq.2 hpassword)

end BasicAuthenticator

end DseAuth
