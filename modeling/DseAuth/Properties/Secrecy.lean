import DseAuth.Properties.Privileges
import Mathlib.Data.List.InsertIdx

/-!
# Passwords do not leak

Handlers load the password of their principal and write the whole of it back, `PUT /user` replaces
it, and the principal with its password waits between the two steps of a request. All the same
nothing that is answered depends on it, except for the answer to a login.

To say so, the password of one account is *blanked* (`UserRow.blank`, `User.blank`, `Call.blank`):
two databases that differ in that password at most are those that are the same once it is blanked
(`Database.SameBut`). Every function between a request and its response is shown to commute with
blanking, or not to notice it, and **`passwords_do_not_leak`** is the lockstep rule for the
schedules in which nobody tries to log in as the account.

The one place where the password could show is the flush, which rejects a value that is too long for
its column; a password that was loaded was short enough then (`Call.Fits`).
-/

namespace DseAuth

/-! ### Blanking a password -/

/-- The row, without the password of the account `a`. -/
def UserRow.blank (a : ℤ) (r : UserRow) : UserRow :=
  { r with password := if r.id = a then "" else r.password }

/-- The user, without the password of the account `a`. -/
def User.blank (a : ℤ) (u : User) : User :=
  { u with password := if u.id = a then "" else u.password }

/-- The call, without the password of the account `a`. -/
def Call.blank (a : ℤ) : Call → Call
  | .bearer user operation => .bearer (user.blank a) operation
  | call => call

/-- The databases differ in the password of the account `a` at most. -/
structure Database.SameBut (a : ℤ) (db db' : Database) : Prop where
  /-- The rows are the same. -/
  rows : db.rows.map (UserRow.blank a) = db'.rows.map (UserRow.blank a)
  /-- The sequence is the same. -/
  sequence : db.sequence = db'.sequence

variable {a : ℤ}

@[simp] theorem UserRow.blank_id (r : UserRow) : (r.blank a).id = r.id := rfl
@[simp] theorem UserRow.blank_username (r : UserRow) : (r.blank a).username = r.username := rfl
@[simp] theorem User.blank_id (u : User) : (u.blank a).id = u.id := rfl
@[simp] theorem User.blank_username (u : User) : (u.blank a).username = u.username := rfl
@[simp] theorem User.blank_privileges (u : User) : (u.blank a).privileges = u.privileges := rfl

@[simp] theorem UserRow.blank_blank (r : UserRow) : (r.blank a).blank a = r.blank a := by
  simp only [blank]
  split <;> rfl

/-- A row of another account is not changed. -/
theorem UserRow.blank_of_ne {r : UserRow} (h : r.id ≠ a) : r.blank a = r := by
  rw [blank, if_neg h]

@[simp] theorem User.blank_blank (u : User) : (u.blank a).blank a = u.blank a := by
  simp only [blank]
  split <;> rfl

/-- What is blanked agrees if what is not secret does. -/
theorem blank_password_iff {id id' : ℤ} {password password' : String} (hid : id = id') :
    ((if id = a then "" else password) = if id' = a then "" else password') ↔
      (id ≠ a → password = password') := by
  obtain rfl := hid
  by_cases ha : id = a
  · rw [if_pos ha, if_pos ha]
    exact iff_of_true rfl fun hne ↦ absurd ha hne
  · rw [if_neg ha, if_neg ha]
    exact ⟨fun h _ ↦ h, fun h ↦ h ha⟩

/-- When two rows are the same once blanked. -/
theorem UserRow.blank_eq_iff {r r' : UserRow} :
    r.blank a = r'.blank a ↔ r.id = r'.id ∧ r.username = r'.username ∧ r.email = r'.email ∧
      r.privileges = r'.privileges ∧ (r.id ≠ a → r.password = r'.password) := by
  rw [blank, blank, UserRow.mk.injEq]
  constructor
  · intro h
    obtain ⟨hid, husername, hemail, hpassword, hprivileges⟩ := h
    exact ⟨hid, husername, hemail, hprivileges, (blank_password_iff hid).1 hpassword⟩
  · intro h
    obtain ⟨hid, husername, hemail, hprivileges, hpassword⟩ := h
    exact ⟨hid, husername, hemail, (blank_password_iff hid).2 hpassword, hprivileges⟩

/-- When two users are. -/
theorem User.blank_eq_iff {u u' : User} :
    u.blank a = u'.blank a ↔ u.id = u'.id ∧ u.username = u'.username ∧ u.email = u'.email ∧
      u.privileges = u'.privileges ∧ (u.id ≠ a → u.password = u'.password) := by
  rw [blank, blank, User.mk.injEq]
  constructor
  · intro h
    obtain ⟨hid, husername, hemail, hpassword, hprivileges⟩ := h
    exact ⟨hid, husername, hemail, hprivileges, (blank_password_iff hid).1 hpassword⟩
  · intro h
    obtain ⟨hid, husername, hemail, hprivileges, hpassword⟩ := h
    exact ⟨hid, husername, hemail, (blank_password_iff hid).2 hpassword, hprivileges⟩

/-- The claims in a token do not show the password. -/
theorem TokenHandler.claimsFor_of_blank_eq {env : Environment} {name : String} {u u' : User}
    (h : u.blank a = u'.blank a) : claimsFor env name u = claimsFor env name u' := by
  obtain ⟨hid, -, -, hprivileges, -⟩ := User.blank_eq_iff.1 h
  rw [claimsFor, claimsFor, User.getPrivileges, User.getPrivileges, hid, hprivileges]

/-! ### The statements of the database -/

namespace Database.SameBut

variable {db db' : Database}

theorem symm (h : db.SameBut a db') : db'.SameBut a db := ⟨h.rows.symm, h.sequence.symm⟩

/-- Every row has a counterpart. -/
theorem exists_row (h : db.SameBut a db') {r : UserRow} (hr : r ∈ db.rows) :
    ∃ r' ∈ db'.rows, r'.blank a = r.blank a := by
  have hmem : r.blank a ∈ db'.rows.map (UserRow.blank a) := h.rows ▸ List.mem_map_of_mem hr
  exact List.mem_map.1 hmem

/-- If the account is not there, the databases are the same. -/
theorem eq_of_forall_ne (h : db.SameBut a db') (hgone : ∀ r ∈ db.rows, r.id ≠ a) : db = db' := by
  have hgone' : ∀ r ∈ db'.rows, r.id ≠ a := by
    intro r' hr' hid
    obtain ⟨r, hr, hblank⟩ := h.symm.exists_row hr'
    exact hgone r hr ((UserRow.blank_eq_iff.1 hblank).1.trans hid)
  have hblank {rows : List UserRow} (hrows : ∀ r ∈ rows, r.id ≠ a) :
      rows.map (UserRow.blank a) = rows :=
    calc rows.map (UserRow.blank a) = rows.map id :=
          List.map_congr_left fun r hr ↦ UserRow.blank_of_ne (hrows r hr)
      _ = rows := List.map_id _
  have hrows := h.rows
  rw [hblank hgone, hblank hgone'] at hrows
  exact Database.ext hrows h.sequence

/-- Looking a name up commutes with blanking. -/
theorem byUsername (h : db.SameBut a db') (username : String) :
    (db.byUsername username).map (UserRow.blank a) =
      (db'.byUsername username).map (UserRow.blank a) := by
  have hfind (rows : List UserRow) :
      (rows.find? fun r ↦ r.username = username).map (UserRow.blank a) =
        (rows.map (UserRow.blank a)).find? fun r ↦ r.username = username := by
    rw [List.find?_map]
    rfl
  rw [Database.byUsername, Database.byUsername, hfind, hfind, h.rows]

/-- What is said of the ids and usernames of all rows holds in both, or in neither. -/
theorem forall_rows_iff (h : db.SameBut a db') {P : ℤ → String → Prop} :
    (∀ r ∈ db.rows, P r.id r.username) ↔ ∀ r ∈ db'.rows, P r.id r.username := by
  have hone {d d' : Database} (h : d.SameBut a d') (hP : ∀ r ∈ d.rows, P r.id r.username) :
      ∀ r ∈ d'.rows, P r.id r.username := by
    intro r' hr'
    obtain ⟨r, hr, hblank⟩ := h.symm.exists_row hr'
    obtain ⟨hid, husername, -⟩ := UserRow.blank_eq_iff.1 hblank
    rw [← hid, ← husername]
    exact hP r hr
  exact ⟨hone h, hone h.symm⟩

/-- So does what is said of some row. -/
theorem exists_row_iff (h : db.SameBut a db') {P : ℤ → String → Prop} :
    (∃ r ∈ db.rows, P r.id r.username) ↔ ∃ r ∈ db'.rows, P r.id r.username := by
  have hnot := h.forall_rows_iff (P := fun id username ↦ ¬ P id username)
  rw [← not_iff_not]
  simpa only [not_exists, not_and] using hnot

/-- Two statements that are accepted together and have such results. -/
theorem rel_of_exists_iff {o o' : Option Database} (h : (∃ d, o = some d) ↔ ∃ d, o' = some d)
    (hsome : ∀ d d', o = some d → o' = some d' → d.SameBut a d') :
    Option.Rel (SameBut a) o o' := by
  rcases o with _ | d
  · rcases o' with _ | d'
    · exact .none
    · obtain ⟨d, hd⟩ := h.2 ⟨d', rfl⟩
      cases hd
  · obtain ⟨d', rfl⟩ := h.1 ⟨d, rfl⟩
    exact .some (hsome d d' rfl rfl)

theorem insert (h : db.SameBut a db') (r : UserRow) :
    Option.Rel (SameBut a) (db.insert r) (db'.insert r) := by
  refine rel_of_exists_iff ?_ fun d d' hd hd' ↦ ?_
  · rw [Database.exists_insert_iff, Database.exists_insert_iff, h.sequence]
    exact and_congr_left'
      (h.forall_rows_iff (P := fun id username ↦ id ≠ r.id ∧ username ≠ r.username))
  · obtain ⟨-, hrows, hseq⟩ := Database.insert_eq_some_iff.1 hd
    obtain ⟨-, hrows', hseq'⟩ := Database.insert_eq_some_iff.1 hd'
    refine ⟨?_, by rw [hseq, hseq', h.sequence]⟩
    rw [hrows, hrows', List.map_append, List.map_append, h.rows]

theorem delete (h : db.SameBut a db') {u u' : User} (hid : u.id = u'.id) :
    Option.Rel (SameBut a) (db.delete u) (db'.delete u') := by
  refine rel_of_exists_iff ?_ fun d d' hd hd' ↦ ?_
  · rw [Database.exists_delete_iff, Database.exists_delete_iff, hid]
    exact h.exists_row_iff (P := fun id _ ↦ id = u'.id)
  · obtain ⟨-, hrows, hseq⟩ := Database.delete_eq_some_iff.1 hd
    obtain ⟨-, hrows', hseq'⟩ := Database.delete_eq_some_iff.1 hd'
    have hfilter (rows : List UserRow) :
        (rows.filter fun r ↦ r.id ≠ u'.id).map (UserRow.blank a) =
          (rows.map (UserRow.blank a)).filter fun r ↦ r.id ≠ u'.id := by
      rw [List.filter_map]
      rfl
    refine ⟨?_, by rw [hseq, hseq', h.sequence]⟩
    rw [hrows, hrows', hid, hfilter, hfilter, h.rows]

/-- Blanking the rows first makes no difference to an update. -/
theorem map_blank_update (u : User) (rows : List UserRow) :
    (rows.map fun r ↦ if r.id = u.id then r.writeBack u else r).map (UserRow.blank a) =
      (rows.map (UserRow.blank a)).map fun r ↦
        (if r.id = u.id then r.writeBack u else r).blank a := by
  rw [List.map_map, List.map_map]
  refine List.map_congr_left fun r _ ↦ ?_
  show (if r.id = u.id then r.writeBack u else r).blank a =
    (if r.id = u.id then (r.blank a).writeBack u else r.blank a).blank a
  by_cases hid : r.id = u.id
  · rw [if_pos hid, if_pos hid]
    rfl
  · rw [if_neg hid, if_neg hid, UserRow.blank_blank]

/-- Neither does blanking the user that is written. -/
theorem writeBack_of_blank_eq {u u' : User} (hu : u.blank a = u'.blank a) (r : UserRow) :
    (if r.id = u.id then r.writeBack u else r).blank a =
      (if r.id = u'.id then r.writeBack u' else r).blank a := by
  obtain ⟨hid, -, hemail, hprivileges, hpassword⟩ := User.blank_eq_iff.1 hu
  by_cases hr : r.id = u'.id
  · rw [if_pos (hr.trans hid.symm), if_pos hr]
    have hne (h : r.id ≠ a) : u.id ≠ a := fun hua ↦ h (hr.trans (hid.symm.trans hua))
    exact UserRow.blank_eq_iff.2 ⟨rfl, rfl, hemail,
      congrArg (PersistentSet.writeBack · r.privileges) hprivileges, fun h ↦ hpassword (hne h)⟩
  · rw [if_neg (hid ▸ hr), if_neg hr]

theorem update (h : db.SameBut a db') {u u' : User} (hu : u.blank a = u'.blank a)
    (hfits : javaLength u.password ≤ 30 ↔ javaLength u'.password ≤ 30) :
    Option.Rel (SameBut a) (db.update u) (db'.update u') := by
  obtain ⟨hid, husername, hemail, -⟩ := User.blank_eq_iff.1 hu
  refine rel_of_exists_iff ?_ fun d d' hd hd' ↦ ?_
  · rw [Database.exists_update_iff, Database.exists_update_iff, hid, husername, hemail, hfits]
    exact and_congr_left'
      (h.exists_row_iff (P := fun id username ↦ id = u'.id ∧ username = u'.username))
  · obtain ⟨-, hrows, hseq⟩ := Database.update_eq_some_iff.1 hd
    obtain ⟨-, hrows', hseq'⟩ := Database.update_eq_some_iff.1 hd'
    refine ⟨?_, by rw [hseq, hseq', h.sequence]⟩
    rw [hrows, hrows', map_blank_update, map_blank_update, h.rows]
    exact List.map_congr_left fun r _ ↦ writeBack_of_blank_eq hu r

end Database.SameBut

variable {tokenType : String} {env : Environment} {db db' : Database}

/-! ### Lookups, authenticators and the token handler -/

/-- A chain of computations, of which only the last link depends on what is blanked. -/
theorem map_bind_congr {ε α β γ : Type} {f : β → γ} {first : Except ε α}
    {rest rest' : α → Except ε β} (h : ∀ x, (rest x).map f = (rest' x).map f) :
    (first >>= rest).map f = (first >>= rest').map f := by
  rcases first with e | x
  · rfl
  · exact h x

/-- Looking a user up commutes with blanking. -/
theorem UserDAO.findByName_of_sameBut (h : db.SameBut a db') (login : Option String) :
    (findByName env login (Session.openSession db)).map (Option.map (User.blank a)) =
      (findByName env login (Session.openSession db')).map (Option.map (User.blank a)) := by
  rw [findByName, findByName]
  split
  · rfl
  · rcases login with _ | name
    · rfl
    · have hload (o : Option UserRow) :
          (o.map UserRow.load).map (User.blank a) = (o.map (UserRow.blank a)).map UserRow.load := by
        rw [Option.map_map, Option.map_map]
        rfl
      show Except.ok (((db.byUsername name).map UserRow.load).map (User.blank a)) =
        Except.ok (((db'.byUsername name).map UserRow.load).map (User.blank a))
      rw [hload, hload, h.byUsername]

/-- The check of the privileges commutes with blanking. -/
theorem JWTAuthenticator.map_checkPrivileges (privileges : JavaSet Json) (o : Option User) :
    (o.bind (checkPrivileges privileges)).map (User.blank a) =
      (o.map (User.blank a)).bind (checkPrivileges privileges) := by
  rcases o with _ | u
  · rfl
  · have hprivileges : privilegesOf (u.blank a) = privilegesOf u := rfl
    rw [Option.map_some, Option.bind_some, Option.bind_some, checkPrivileges, checkPrivileges,
      hprivileges]
    split <;> rfl

/-- The body of the JWT authenticator commutes with blanking. -/
theorem JWTAuthenticator.tryAuthenticate_of_sameBut (h : db.SameBut a db') (claims : JwtClaims) :
    (tryAuthenticate env claims (Session.openSession db)).map (Option.map (User.blank a)) =
      (tryAuthenticate env claims (Session.openSession db')).map (Option.map (User.blank a)) := by
  refine map_bind_congr fun subject ↦ map_bind_congr fun _ ↦ map_bind_congr fun username ↦
    map_bind_congr fun privileges ↦ ?_
  have hlast (found : Except JavaException (Option User)) :
      (found >>= fun u ↦ (Except.ok (u.bind (checkPrivileges privileges)) :
          Except JavaException (Option User))).map (Option.map (User.blank a)) =
        (found.map (Option.map (User.blank a))) >>= fun u ↦
          Except.ok (u.bind (checkPrivileges privileges)) := by
    rcases found with e | u
    · rfl
    · exact congrArg Except.ok (map_checkPrivileges privileges u)
  have hfind := @UserDAO.findByName_of_sameBut a env db db' h username
  exact (hlast _).trans ((congrArg (· >>= _) hfind).trans (hlast _).symm)

/-- Two answers that are the same once the user in them is blanked. -/
theorem cases_of_map_blank_eq {answer answer' : Except JavaException (Option User)}
    (h : answer.map (Option.map (User.blank a)) = answer'.map (Option.map (User.blank a))) :
    (∃ e, answer = .error e ∧ answer' = .error e) ∨ (answer = .ok none ∧ answer' = .ok none) ∨
      ∃ u u', answer = .ok (some u) ∧ answer' = .ok (some u') ∧ u.blank a = u'.blank a := by
  rcases answer with e | _ | u <;> rcases answer' with e' | _ | u'
  case error.error => exact Or.inl ⟨e, rfl, congrArg Except.error (Except.error.inj h).symm⟩
  case ok.none.ok.none => exact Or.inr (Or.inl ⟨rfl, rfl⟩)
  case ok.some.ok.some =>
    exact Or.inr (Or.inr ⟨u, u', rfl, rfl, Option.some.inj (Except.ok.inj h)⟩)
  all_goals cases h

/-- The JWT authenticator commutes with blanking. -/
theorem JWTAuthenticator.authenticate_of_sameBut (h : db.SameBut a db') (claims : JwtClaims) :
    (authenticate env claims (Session.openSession db)).map (Option.map (User.blank a)) =
      (authenticate env claims (Session.openSession db')).map (Option.map (User.blank a)) := by
  have htry := @tryAuthenticate_of_sameBut a env db db' h claims
  rw [authenticate, authenticate]
  obtain ⟨e, hleft, hright⟩ | ⟨hleft, hright⟩ | ⟨u, u', hleft, hright, hblank⟩ :=
    cases_of_map_blank_eq htry
  · rw [hleft, hright]
  · rw [hleft, hright]
  · rw [hleft, hright]
    exact congrArg (fun u ↦ Except.ok (some u)) hblank

/-- The basic authenticator compares the password of the account that is named, and of no other. -/
theorem BasicAuthenticator.authenticate_of_sameBut (h : db.SameBut a db')
    {credentials : BasicCredentials}
    (hother : ∀ r ∈ db.rows, r.id = a → r.username ≠ credentials.username) :
    authenticate env credentials (Session.openSession db) =
      authenticate env credentials (Session.openSession db') := by
  have hvalid : isValidCredentials env credentials (Session.openSession db) =
      isValidCredentials env credentials (Session.openSession db') := by
    rw [isValidCredentials, isValidCredentials]
    obtain ⟨e, hleft, hright⟩ | ⟨hleft, hright⟩ | ⟨u, u', hleft, hright, hblank⟩ :=
      cases_of_map_blank_eq
        (@UserDAO.findByName_of_sameBut a env db db' h (some credentials.username))
    · rw [hleft, hright]
    · rw [hleft, hright]
    · obtain ⟨r, hr, hname, rfl⟩ := UserDAO.findByName_openSession hleft
      have hne : r.load.id ≠ a := fun hid ↦ hother r hr hid hname
      obtain ⟨-, -, -, -, hpassword⟩ := User.blank_eq_iff.1 hblank
      rw [hleft, hright]
      show Except.ok (r.load.password == credentials.password) =
        Except.ok (u'.password == credentials.password)
      rw [hpassword hne]
  rw [authenticate, authenticate, hvalid]

/-- A token comes out of both, and it is the same, or of neither. -/
theorem TokenHandler.buildToken_of_sameBut (h : db.SameBut a db') (name : String) :
    buildToken tokenType env name (Session.openSession db) =
      buildToken tokenType env name (Session.openSession db') := by
  rw [buildToken_eq, buildToken_eq]
  obtain ⟨e, hleft, hright⟩ | ⟨hleft, hright⟩ | ⟨u, u', hleft, hright, hblank⟩ :=
    cases_of_map_blank_eq (@UserDAO.findByName_of_sameBut a env db db' h (some name))
  · rw [hleft, hright]
  · rw [hleft, hright]
  · rw [hleft, hright]
    dsimp only
    rw [claimsFor_of_blank_eq hblank]

/-! ### The two steps of a request -/

/-- What a filter makes of an answer commutes with blanking. -/
theorem map_filterResponse (answer : Except JavaException (Option User)) :
    (filterResponse answer).map (User.blank a) =
      filterResponse (answer.map (Option.map (User.blank a))) := by
  rcases answer with e | _ | u <;> rfl

/-- The JWT filter does not notice the password. -/
theorem map_jwtFilter_of_sameBut (h : db.SameBut a db') (token : Token) :
    (jwtFilter tokenType env token db).map (User.blank a) =
      (jwtFilter tokenType env token db').map (User.blank a) := by
  rw [jwtFilter, jwtFilter]
  rcases JwtConsumer.process tokenType env.now token with _ | claims
  · rfl
  · dsimp only
    rw [map_filterResponse, map_filterResponse,
      map_transact_reading_congr (JWTAuthenticator.authenticate_of_sameBut h claims)]

/-- **The first step of a request does not notice the password**, unless it is a login of the
account. -/
theorem Request.authenticate_of_sameBut (h : db.SameBut a db') {request : Request}
    (hother : ∀ credentials, request = .login (some credentials) →
      ∀ r ∈ db.rows, r.id = a → r.username ≠ credentials.username) :
    (request.authenticate tokenType env db).map (Call.blank a) =
      (request.authenticate tokenType env db').map (Call.blank a) := by
  rcases request with body | (_ | credentials) | ⟨token, operation⟩
  · rfl
  · rfl
  · rw [Request.authenticate, Request.authenticate, basicFilter, basicFilter]
    rw [transact_reading_congr
      (BasicAuthenticator.authenticate_of_sameBut h (hother credentials rfl))]
  · have hcall (found : Except Response User) :
        (found.map fun user ↦ .bearer user operation).map (Call.blank a) =
          (found.map (User.blank a)).map fun user ↦ .bearer user operation := by
      rcases found with response | user <;> rfl
    rw [Request.authenticate, Request.authenticate, hcall, hcall, map_jwtFilter_of_sameBut h]

/-- The password of the user of the call, if it has one, fits its column. -/
def Call.Fits : Call → Prop
  | .bearer user _ => javaLength user.password ≤ 30
  | _ => True

/-- Two outcomes that do not show the password. -/
structure Outcome.SameBut (a : ℤ) (o o' : Outcome) : Prop where
  /-- The responses are the same. -/
  response : o.response = o'.response
  /-- The databases differ in the password at most. -/
  db : o.db.SameBut a o'.db

/-- A method that schedules nothing and answers the same. -/
theorem Outcome.sameBut_readOnly (h : db.SameBut a db') {method method' : Handler}
    {result : Except JavaException Response}
    (hmethod : method (Session.openSession db) = (result, Session.openSession db))
    (hmethod' : method' (Session.openSession db') = (result, Session.openSession db')) :
    (unitOfWork env method db).SameBut a (unitOfWork env method' db') := by
  rw [unitOfWork_of_readOnly hmethod, unitOfWork_of_readOnly hmethod']
  exact ⟨rfl, h⟩

/-- A method that schedules one action, which the two databases take or reject together. -/
theorem Outcome.sameBut_commit {method method' : Handler} {response : Response} {s s' : Session}
    {action action' : Action} (hmethod : method (Session.openSession db) = (.ok response, s))
    (hmethod' : method' (Session.openSession db') = (.ok response, s'))
    (hactions : s.actions = [action]) (hactions' : s'.actions = [action'])
    (hdb : s.db.SameBut a s'.db)
    (hrel : Option.Rel (Database.SameBut a) (action.apply s.db) (action'.apply s'.db)) :
    (unitOfWork env method db).SameBut a (unitOfWork env method' db') := by
  have hcommit := @commit_singleton env s action hactions
  have hcommit' := @commit_singleton env s' action' hactions'
  generalize action.apply s.db = o at hcommit hrel
  generalize action'.apply s'.db = o' at hcommit' hrel
  rcases hfails : env.commitFails with _ | _
  · rw [hfails, if_neg Bool.false_ne_true] at hcommit hcommit'
    cases hrel with
    | none =>
      rw [unitOfWork_of_rollback hmethod hcommit, unitOfWork_of_rollback hmethod' hcommit']
      exact ⟨rfl, hdb⟩
    | some hd =>
      rw [unitOfWork_of_commit hmethod hcommit, unitOfWork_of_commit hmethod' hcommit']
      exact ⟨rfl, hd⟩
  · rw [hfails, if_pos rfl] at hcommit hcommit'
    rw [unitOfWork_of_rollback hmethod hcommit, unitOfWork_of_rollback hmethod' hcommit']
    exact ⟨rfl, hdb⟩

theorem sameBut_createUser (h : db.SameBut a db') (valid : ValidSignUpUser) :
    (unitOfWork env (UserResource.createUser env (some valid)) db).SameBut a
      (unitOfWork env (UserResource.createUser env (some valid)) db') := by
  have hfree_iff := h.forall_rows_iff (P := fun _ username ↦ username ≠ valid.username)
  have htaken_iff := h.exists_row_iff (P := fun _ username ↦ username = valid.username)
  by_cases hfails : env.lookupFails = true ∨ (∀ r ∈ db.rows, r.username ≠ valid.username) ∧
      (env.writeFails = true ∨ ¬ JavaInteger.InRange db.sequence)
  · obtain ⟨e, he, hmethod⟩ := createUser_of_failure hfails
    rw [hfree_iff, h.sequence] at hfails
    obtain ⟨e', he', hmethod'⟩ := createUser_of_failure hfails
    rw [unitOfWork_of_error hmethod, unitOfWork_of_error hmethod', he, he']
    exact ⟨rfl, h⟩
  · obtain ⟨hlookup, hrest⟩ := not_or.1 hfails
    have hlookup : env.lookupFails = false := Bool.eq_false_iff.2 hlookup
    by_cases htaken : ∃ r ∈ db.rows, r.username = valid.username
    · exact Outcome.sameBut_readOnly h (createUser_of_taken htaken hlookup)
        (createUser_of_taken (htaken_iff.1 htaken) hlookup)
    · have hfree : ∀ r ∈ db.rows, r.username ≠ valid.username := by
        simpa only [not_exists, not_and] using htaken
      obtain ⟨hwrite, hrange⟩ := not_or.1 fun hcause ↦ hrest ⟨hfree, hcause⟩
      have hwrite : env.writeFails = false := Bool.eq_false_iff.2 hwrite
      have hrange := not_not.1 hrange
      obtain ⟨d, hrows, hseq, hmethod⟩ := createUser_of_free hfree hrange hlookup hwrite
      obtain ⟨d', hrows', hseq', hmethod'⟩ := createUser_of_free (hfree_iff.1 hfree)
        (h.sequence ▸ hrange) hlookup hwrite
      have hnew : newRow db' valid = newRow db valid := by
        rw [newRow, newRow, h.sequence]
      have hd : d.SameBut a d' :=
        ⟨by rw [hrows, hrows', h.rows], by rw [hseq, hseq', h.sequence]⟩
      rw [hnew] at hmethod'
      exact Outcome.sameBut_commit hmethod hmethod' rfl rfl hd (hd.insert _)

theorem sameBut_deleteUser (h : db.SameBut a db') {u u' : User} (hid : u.id = u'.id) :
    (unitOfWork env (UserResource.deleteUser env u) db).SameBut a
      (unitOfWork env (UserResource.deleteUser env u') db') := by
  rcases hwrite : env.writeFails with _ | _
  · have hmethod (u : User) (db : Database) :
        UserResource.deleteUser env u (Session.openSession db) =
          (.ok ⟨200, .none⟩, (Session.openSession db).delete u) := by
      rw [UserResource.deleteUser, UserDAO.deleteUser, hwrite]
      rfl
    exact Outcome.sameBut_commit (hmethod u db) (hmethod u' db') rfl rfl h (h.delete hid)
  · rw [unitOfWork_deleteUser_of_writeFails u hwrite, unitOfWork_deleteUser_of_writeFails u' hwrite]
    exact ⟨rfl, h⟩

theorem sameBut_tokenResponse (h : db.SameBut a db') (name : String) :
    (unitOfWork env (tokenResponse tokenType env name) db).SameBut a
      (unitOfWork env (tokenResponse tokenType env name) db') := by
  rw [unitOfWork_tokenResponse, unitOfWork_tokenResponse, TokenHandler.buildToken_of_sameBut h name]
  exact ⟨rfl, h⟩

theorem sameBut_updateAndReissue (h : db.SameBut a db') {u u' : User}
    (hu : u.blank a = u'.blank a)
    (hfits : javaLength u.password ≤ 30 ↔ javaLength u'.password ≤ 30) :
    (unitOfWork env (updateAndReissue tokenType env u) db).SameBut a
      (unitOfWork env (updateAndReissue tokenType env u') db') := by
  obtain ⟨-, husername, -⟩ := User.blank_eq_iff.1 hu
  have hrel := h.update hu hfits
  have hnot {u : User} {db : Database} (hupdate : db.update u = none) :
      ¬ (Works tokenType env ∧ ∃ d, db.update u = some d) := by
    intro hwritten
    obtain ⟨-, d, hd⟩ := hwritten
    cases hupdate.symm.trans hd
  generalize hupdate : db.update u = o at hrel
  generalize hupdate' : db'.update u' = o' at hrel
  cases hrel with
  | none =>
    rw [updateAndReissue_of_not (hnot hupdate), updateAndReissue_of_not (hnot hupdate')]
    exact ⟨rfl, h⟩
  | some hd =>
    by_cases hworks : Works tokenType env
    · rw [updateAndReissue_of_update hworks hupdate, updateAndReissue_of_update hworks hupdate',
        reissueResponse, reissueResponse, husername, TokenHandler.claimsFor_of_blank_eq hu]
      exact ⟨rfl, hd⟩
    · rw [updateAndReissue_of_not fun hwritten ↦ hworks hwritten.1,
        updateAndReissue_of_not fun hwritten ↦ hworks hwritten.1]
      exact ⟨rfl, h⟩

/-- What is written back is changed in the same way. -/
theorem Operation.updated_of_blank_eq {u u' v : User} {operation : Operation}
    (hu : u.blank a = u'.blank a) (h : operation.updated u = some v) :
    ∃ v', operation.updated u' = some v' ∧ v.blank a = v'.blank a ∧
      (v.password = v'.password ∨ v.password = u.password ∧ v'.password = u'.password) := by
  obtain ⟨hid, husername, hemail, hprivileges, hpassword⟩ := User.blank_eq_iff.1 hu
  unfold Operation.updated at h
  split at h
  · next body =>
    obtain ⟨valid, hvalid, h⟩ := Option.bind_eq_some_iff.1 h
    obtain ⟨hname, h⟩ := Option.ite_none_right_eq_some.1 h
    obtain rfl := Option.some.inj h
    have hupdated : (Operation.updateUser (.value body)).updated u' =
        some ((u'.setEmail valid.email).setPassword valid.password) := by
      show (body.validate.bind fun valid ↦ _) = _
      rw [hvalid, Option.bind_some]
      exact if_pos (husername ▸ hname)
    exact ⟨_, hupdated,
      User.blank_eq_iff.2 ⟨hid, husername, rfl, hprivileges, fun _ ↦ rfl⟩, Or.inl rfl⟩
  · obtain rfl := Option.some.inj h
    refine ⟨_, rfl, ?_⟩
    rw [User.foldl_addPrivilege, User.foldl_addPrivilege, hprivileges]
    exact ⟨User.blank_eq_iff.2 ⟨hid, husername, hemail, rfl, hpassword⟩, Or.inr ⟨rfl, rfl⟩⟩
  · obtain rfl := Option.some.inj h
    refine ⟨_, rfl, ?_⟩
    rw [User.foldl_removePrivilige, User.foldl_removePrivilige, hprivileges]
    exact ⟨User.blank_eq_iff.2 ⟨hid, husername, hemail, rfl, hpassword⟩, Or.inr ⟨rfl, rfl⟩⟩
  · cases h

/-- **Nor does the second step.** -/
theorem Call.handle_sameBut (h : db.SameBut a db') {call call' : Call}
    (hcall : call.blank a = call'.blank a) (hfits : call.Fits) (hfits' : call'.Fits) :
    (call.handle tokenType env db).SameBut a (call'.handle tokenType env db') := by
  cases call with
  | createUser body =>
    cases call' with
    | createUser body' =>
      obtain rfl := Call.createUser.inj hcall
      rw [Call.handle, Call.run, Call.handle, Call.run]
      rcases body.readValid with e | _ | valid
      · exact Outcome.sameBut_readOnly h rfl rfl
      · exact Outcome.sameBut_readOnly h rfl rfl
      · exact sameBut_createUser h valid
    | login name => cases hcall
    | bearer user operation => cases hcall
  | login name =>
    cases call' with
    | createUser body => cases hcall
    | login name' =>
      obtain rfl := Call.login.inj hcall
      exact sameBut_tokenResponse h name
    | bearer user operation => cases hcall
  | bearer u operation =>
    cases call' with
    | createUser body => cases hcall
    | login name => cases hcall
    | bearer u' operation' =>
      obtain ⟨hu, rfl⟩ := Call.bearer.inj hcall
      obtain ⟨hid, husername, -, hprivileges, -⟩ := User.blank_eq_iff.1 hu
      rcases hupdated : operation.updated u with _ | v
      · obtain rfl | rfl | ⟨result, hrun, -⟩ := Operation.run_of_not_updated hupdated
        · exact sameBut_deleteUser h hid
        · have hname : u.getName = u'.getName := husername
          rw [Call.handle, Call.handle]
          show (unitOfWork env (tokenResponse tokenType env u.getName) db).SameBut a
            (unitOfWork env (tokenResponse tokenType env u'.getName) db')
          rw [hname]
          exact sameBut_tokenResponse h _
        · exact Outcome.sameBut_readOnly h (hrun u rfl rfl env _)
            (hrun u' husername.symm hprivileges.symm env _)
      · obtain ⟨v', hupdated', hv, hpassword⟩ := Operation.updated_of_blank_eq hu hupdated
        have hleft : (Call.bearer u operation).updated = some v := hupdated
        have hright : (Call.bearer u' operation).updated = some v' := hupdated'
        rw [Call.handle_of_updated hleft, Call.handle_of_updated hright]
        refine sameBut_updateAndReissue h hv ?_
        obtain hsame | ⟨hloaded, hloaded'⟩ := hpassword
        · rw [hsame]
        · rw [hloaded, hloaded']
          exact iff_of_true hfits hfits'

/-! ### Schedules -/

/-- The step is the first one of a login under the name. -/
def Step.LogsIn (name : String) (x : Step) : Prop :=
  ∃ env credentials, x = .authenticate env (.login (some credentials)) ∧
    credentials.username = name

/-- Two states of the service that differ in the password of the account `a` at most, some time
after `first`. -/
structure State.SameBut (a : ℤ) (first : Database) (s s' : State tokenType) : Prop where
  /-- The databases differ in the password at most. -/
  db : s.db.SameBut a s'.db
  /-- So do the requests in flight. -/
  inFlight : (s.inFlight.map fun f ↦ f.call.blank a) = s'.inFlight.map fun f ↦ f.call.blank a
  /-- Ids are as they were. -/
  after : first ≤ s.db

/-- The password a request has in flight was stored, so it fits. -/
theorem InFlight.fits (f : InFlight tokenType) : f.call.Fits := by
  have haccepted := f.accepted
  generalize f.call = call at haccepted ⊢
  rcases call with body | name | ⟨user, operation⟩
  · trivial
  · trivial
  · obtain ⟨-, -, -, -, -, r, hr, -, rfl⟩ := exists_of_authenticate_eq_bearer haccepted
    exact (f.seen.consistent.fits r hr).2.2

/-- **A step does not show the password**, unless it is the first one of a login of the account. -/
theorem State.SameBut.step {first : Database} {s s' : State tokenType} {x : Step} {r : UserRow}
    (h : s.SameBut a first s') (hr : r ∈ first.rows) (hid : r.id = a)
    (hx : ¬ x.LogsIn r.username) :
    (s.step x).SameBut a first (s'.step x) ∧ s.response x = s'.response x := by
  have hafter : first ≤ (s.step x).db := h.after.trans (s.le_step x)
  cases x with
  | authenticate env request =>
    have hother : ∀ credentials, request = .login (some credentials) →
        ∀ q ∈ s.db.rows, q.id = a → q.username ≠ credentials.username := by
      intro credentials hrequest q hq hqid hname
      have hqr : r.username = q.username :=
        Database.username_eq_of_le h.after hr hq (hid.trans hqid.symm)
      exact hx ⟨env, credentials, by rw [hrequest], (hqr.trans hname).symm⟩
    have hauth := @Request.authenticate_of_sameBut a tokenType env _ _ h.db request hother
    rcases hleft : request.authenticate tokenType env s.db with response | call
    · rcases hright : request.authenticate tokenType env s'.db with response' | call'
      · rw [hleft, hright] at hauth
        obtain rfl := Except.error.inj hauth
        rw [State.step_authenticate_of_error hleft, State.step_authenticate_of_error hright,
          State.response, State.response, hleft, hright]
        exact ⟨h, rfl⟩
      · rw [hleft, hright] at hauth
        cases hauth
    · rcases hright : request.authenticate tokenType env s'.db with response' | call'
      · rw [hleft, hright] at hauth
        cases hauth
      · rw [hleft, hright] at hauth
        have hcall : call.blank a = call'.blank a := Except.ok.inj hauth
        rw [State.step_authenticate_of_ok hleft, State.step_authenticate_of_ok hright,
          State.response, State.response, hleft, hright]
        refine ⟨⟨h.db, ?_, h.after⟩, rfl⟩
        rw [List.map_append, List.map_append, h.inFlight]
        exact congrArg (fun c ↦ _ ++ [c]) hcall
  | handle i env =>
    have hflight : (s.inFlight[i]?).map (fun f ↦ f.call.blank a) =
        (s'.inFlight[i]?).map fun f ↦ f.call.blank a := by
      rw [← List.getElem?_map, ← List.getElem?_map, h.inFlight]
    rcases hleft : s.inFlight[i]? with _ | f
    · rcases hright : s'.inFlight[i]? with _ | f'
      · rw [State.step_handle_of_none hleft, State.step_handle_of_none hright,
          State.response, State.response, hleft, hright]
        exact ⟨h, rfl⟩
      · rw [hleft, hright] at hflight
        cases hflight
    · rcases hright : s'.inFlight[i]? with _ | f'
      · rw [hleft, hright] at hflight
        cases hflight
      · rw [hleft, hright] at hflight
        have hcall : f.call.blank a = f'.call.blank a := Option.some.inj hflight
        have hsame := @Call.handle_sameBut a tokenType env _ _ h.db _ _ hcall f.fits f'.fits
        rw [State.step_handle_of_some hleft] at hafter ⊢
        rw [State.step_handle_of_some hright, State.response, State.response, hleft, hright]
        refine ⟨⟨hsame.db, ?_, hafter⟩, congrArg some hsame.response⟩
        rw [← List.eraseIdx_map, ← List.eraseIdx_map, h.inFlight]

/-- **Passwords do not leak.** Two stores that differ in the password of the account `a` at most
give the same responses, step by step, in every schedule in which nobody sends Basic credentials
with the username of `a`, and they differ in that password at most in the end. -/
theorem passwords_do_not_leak {db db' : Database} (hsame : db.SameBut a db') (steps : List Step)
    (hsteps : ∀ r ∈ db.rows, r.id = a → ∀ x ∈ steps, ¬ x.LogsIn r.username) :
    Machine.answers State.step State.response (State.start tokenType db) steps =
        Machine.answers State.step State.response (State.start tokenType db') steps ∧
      ((State.start tokenType db).run steps).db.SameBut a
        ((State.start tokenType db').run steps).db := by
  by_cases hthere : ∃ r ∈ db.rows, r.id = a
  · obtain ⟨r, hr, hid⟩ := hthere
    have hstart : (State.start tokenType db).SameBut a db (State.start tokenType db') :=
      ⟨hsame, rfl, le_rfl⟩
    have hsecret : Machine.Throughout State.step (fun _ x ↦ ¬ Step.LogsIn r.username x)
        (State.start tokenType db) steps :=
      Machine.throughout_of_forall_mem (hsteps r hr hid) _
    have hstep (s s' : State tokenType) (x : Step) (h : s.SameBut a db s')
        (hx : ¬ x.LogsIn r.username) :
        (s.step x).SameBut a db (s'.step x) ∧ s.response x = s'.response x :=
      h.step hr hid hx
    obtain ⟨hlast, hanswers⟩ := Machine.run_lockstep hstep hstart hsecret
    rw [List.forall₂_eq_eq_eq] at hanswers
    exact ⟨hanswers, hlast.db⟩
  · have hgone : ∀ r ∈ db.rows, r.id ≠ a := by
      simpa only [not_exists, not_and] using hthere
    obtain rfl := hsame.eq_of_forall_ne hgone
    exact ⟨rfl, rfl, rfl⟩

/-- Alice signs up with another password. -/
def aliceSignsUpDifferently : Request :=
  .createUser (.value ⟨some "alice", some "alice@a", some "hunter2"⟩)

theorem passwords_do_not_leak_alice :
    Machine.answers State.step State.response
        (State.start "jws" (serveAll "jws" .empty [aliceSignsUp.quietly]))
        (oneAtATime [aliceAddsTodo.quietly]) =
      Machine.answers State.step State.response
        (State.start "jws" (serveAll "jws" .empty [aliceSignsUpDifferently.quietly]))
        (oneAtATime [aliceAddsTodo.quietly]) := by
  have hsame : (serveAll "jws" .empty [aliceSignsUp.quietly]).SameBut 1
      (serveAll "jws" .empty [aliceSignsUpDifferently.quietly]) :=
    ⟨by decide +kernel, by decide +kernel⟩
  have hsteps : ∀ x ∈ oneAtATime [aliceAddsTodo.quietly], ¬ x.LogsIn "alice" := by
    intro x hx hlogin
    obtain ⟨env, credentials, rfl, -⟩ := hlogin
    obtain h | h := List.mem_pair.1 hx
    · cases (Step.authenticate.inj h).2
    · cases h
  have hname : ∀ r ∈ (serveAll "jws" .empty [aliceSignsUp.quietly]).rows,
      r.id = 1 → r.username = "alice" := by
    decide +kernel
  refine (passwords_do_not_leak hsame _ fun r hr hid ↦ ?_).1
  rw [hname r hr hid]
  exact hsteps

end DseAuth
