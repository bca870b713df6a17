import DseAuth.Service.Requests

/-!
# What the second step can do

`Call.handle` is taken apart once, in `Call.handle_effect`: an `Effect` lists the outcomes a call
can have, with what is true of the database and of the response in each, and the results about
runs split on it instead of on the resource methods.

For the three requests that write an account back there is more to say. `Operation.updated` is the
object they hand to `UserDAO.updateUser`, if they get that far, and `updateAndReissue_of_update` and
`updateAndReissue_of_not` say exactly when that object is written: where the libraries `Work`,
which leaves out signature and encryption, and the database takes it. A failing signature only
changes the response.
-/

namespace DseAuth

/-- The changed principal that a request writes back, if it gets to it. -/
def Operation.updated (user : User) : Operation → Option User
  | .updateUser (.value body) =>
    body.validate.bind fun valid ↦
      if user.username = valid.username then
        some ((user.setEmail valid.email).setPassword valid.password)
      else none
  | .addPrivileges (.value newPriviliges) => some (newPriviliges.foldl User.addPrivilege user)
  | .removePrivileges (.value priviligesToRemove) =>
    some (priviligesToRemove.foldl User.removePrivilige user)
  | _ => none

/-- The changed principal that a call writes back, if it gets to it. -/
def Call.updated : Call → Option User
  | .bearer user operation => operation.updated user
  | _ => none

/-- The name in the token of a call that only issues one. -/
def Call.reissues : Call → Option String
  | .login user => some user
  | .bearer user .refresh => some user.username
  | _ => none

/-- The database does what it is asked. -/
structure Environment.Stores (env : Environment) : Prop where
  /-- `findByName` returns. -/
  lookup : env.lookupFails = false
  /-- `persist`, `update` and `delete` return. -/
  write : env.writeFails = false
  /-- The database commits. -/
  commit : env.commitFails = false

/-- Nothing fails in a transaction, but for signature and encryption, and the token type is one of
the two. -/
structure Works (tokenType : String) (env : Environment) : Prop extends env.Stores where
  /-- `buildToken` knows the token type. -/
  tokenType : TokenHandler.ValidTokenType tokenType

/-- The response of a request whose account has been written back. -/
def reissueResponse (tokenType : String) (env : Environment) (u : User) : Response :=
  if TokenHandler.JoseFails tokenType env then ⟨500, .none⟩
  else ⟨200, .token (TokenHandler.tokenOf tokenType (TokenHandler.claimsFor env u.username u))⟩

/-- The response to a method that has scheduled nothing. -/
def readOnlyResponse (env : Environment) : Except JavaException Response → Response
  | .ok response => if env.commitFails then JavaException.persistence.toResponse else response
  | .error e => e.toResponse

/-- The response of a request whose account has not been written back, after it got that far. -/
def refusalResponse (env : Environment) : Response :=
  if env.writeFails then readOnlyResponse env (.ok ⟨404, .text "User not found!"⟩)
  else ⟨500, .framework⟩

section

variable {user u : User} {operation : Operation}

/-- What a set holds after the request, when `held` is what it held before. -/
def Operation.Holds (held : Option String → Prop) (a : Option String) : Operation → Prop
  | .addPrivileges (.value newPriviliges) => held a ∨ a ∈ newPriviliges
  | .removePrivileges (.value priviligesToRemove) => held a ∧ a ∉ priviligesToRemove
  | _ => held a

/-- The set of the changed principal. -/
theorem Operation.mem_updated (h : operation.updated user = some u) {a : Option String} :
    a ∈ u.privileges.set ↔ operation.Holds (· ∈ user.privileges.set) a := by
  unfold Operation.updated at h
  split at h
  · next body =>
    obtain ⟨valid, -, h⟩ := Option.bind_eq_some_iff.1 h
    obtain ⟨-, h⟩ := Option.ite_none_right_eq_some.1 h
    obtain rfl := Option.some.inj h
    exact Iff.rfl
  · obtain rfl := Option.some.inj h
    rw [User.foldl_addPrivilege]
    exact PersistentSet.mem_set_foldl_add
  · obtain rfl := Option.some.inj h
    rw [User.foldl_removePrivilige]
    exact PersistentSet.mem_set_foldl_remove
  · cases h

/-- What is written over the credentials: those of the body of a `PUT /user`, and for the other
requests those that were loaded. -/
theorem Operation.updated_credentials (h : operation.updated user = some u) :
    u.email = user.email ∧ u.password = user.password ∨
      ∃ body valid, operation = .updateUser (.value body) ∧ body.validate = some valid ∧
        u.email = valid.email ∧ u.password = valid.password := by
  unfold Operation.updated at h
  split at h
  · next body =>
    obtain ⟨valid, hvalid, h⟩ := Option.bind_eq_some_iff.1 h
    obtain ⟨-, h⟩ := Option.ite_none_right_eq_some.1 h
    obtain rfl := Option.some.inj h
    exact Or.inr ⟨body, valid, rfl, hvalid, rfl, rfl⟩
  · obtain rfl := Option.some.inj h
    rw [User.foldl_addPrivilege]
    exact Or.inl ⟨rfl, rfl⟩
  · obtain rfl := Option.some.inj h
    rw [User.foldl_removePrivilige]
    exact Or.inl ⟨rfl, rfl⟩
  · cases h

/-- Neither the id nor the username nor the memory of what was loaded is ever changed. -/
theorem Operation.updated_keeps (h : operation.updated user = some u) :
    u.id = user.id ∧ u.username = user.username ∧
      u.privileges.snapshot = user.privileges.snapshot := by
  unfold Operation.updated at h
  split at h
  · obtain ⟨valid, -, h⟩ := Option.bind_eq_some_iff.1 h
    obtain ⟨-, h⟩ := Option.ite_none_right_eq_some.1 h
    obtain rfl := Option.some.inj h
    exact ⟨rfl, rfl, rfl⟩
  · obtain rfl := Option.some.inj h
    rw [User.foldl_addPrivilege]
    exact ⟨rfl, rfl, PersistentSet.snapshot_foldl_add⟩
  · obtain rfl := Option.some.inj h
    rw [User.foldl_removePrivilige]
    exact ⟨rfl, rfl, PersistentSet.snapshot_foldl_remove⟩
  · cases h

/-- A call that writes an account back has a user and a request that changes it. -/
theorem Call.exists_of_updated {call : Call} (h : call.updated = some u) :
    ∃ user operation, call = .bearer user operation ∧ operation.updated user = some u := by
  cases call with
  | createUser body => cases h
  | login user => cases h
  | bearer user operation => exact ⟨user, operation, rfl, h⟩

/-- A call that only issues a token is a login or a refresh. -/
theorem Call.exists_of_reissues {call : Call} {name : String} (h : call.reissues = some name) :
    call = .login name ∨ ∃ user, call = .bearer user .refresh ∧ user.username = name := by
  rcases call with body | user | ⟨user, operation⟩
  · cases h
  · exact Or.inl (congrArg Call.login (Option.some.inj h))
  · rcases operation with _ | _ | _ | _ | _ | _
    case refresh => exact Or.inr ⟨user, rfl, Option.some.inj h⟩
    all_goals cases h

/-- And it writes nothing back. -/
theorem Call.updated_of_reissues {call : Call} {name : String} (h : call.reissues = some name) :
    call.updated = none := by
  obtain rfl | ⟨user, rfl, -⟩ := Call.exists_of_reissues h
  · rfl
  · rfl

end

variable {tokenType : String} {env : Environment} {db : Database}

/-- What is written back was loaded from a row when the request was let through. -/
theorem exists_of_updated {request : Request} {call : Call} {u : User}
    (hauth : request.authenticate tokenType env db = .ok call) (hu : call.updated = some u) :
    ∃ token operation, request = .bearer token operation ∧
      ∃ r ∈ db.rows, call = .bearer r.load operation ∧ operation.updated r.load = some u := by
  obtain ⟨user, operation, rfl, hupdated⟩ := Call.exists_of_updated hu
  obtain ⟨token, -, hrequest, -, -, r, hr, -, rfl⟩ := exists_of_authenticate_eq_bearer hauth
  exact ⟨token, operation, hrequest, r, hr, rfl, hupdated⟩

/-! ### Transactions -/

theorem unitOfWork_of_error {method : Handler} {e : JavaException} {s : Session}
    (h : method (Session.openSession db) = (.error e, s)) :
    unitOfWork env method db = ⟨e.toResponse, s.db, []⟩ := by
  rw [unitOfWork, h]

theorem unitOfWork_of_commit {method : Handler} {response : Response} {s : Session} {db' : Database}
    (h : method (Session.openSession db) = (.ok response, s)) (hcommit : s.commit env = some db') :
    unitOfWork env method db = ⟨response, db', s.actions⟩ := by
  rw [unitOfWork, h]
  dsimp only
  rw [hcommit]

theorem unitOfWork_of_rollback {method : Handler} {response : Response} {s : Session}
    (h : method (Session.openSession db) = (.ok response, s)) (hcommit : s.commit env = none) :
    unitOfWork env method db = ⟨JavaException.persistence.toResponse, s.db, []⟩ := by
  rw [unitOfWork, h]
  dsimp only
  rw [hcommit]

/-- The response to a method that has scheduled nothing is that of the method, or one that the
framework makes. -/
theorem readOnlyResponse_cases (result : Except JavaException Response) :
    result = .ok (readOnlyResponse env result) ∨
      (readOnlyResponse env result).status ≠ 200 ∧
        (readOnlyResponse env result).entity = .framework := by
  rcases result with e | response
  · exact Or.inr ⟨e.toResponse_status_ne, e.toResponse_entity⟩
  · rw [readOnlyResponse]
    split
    · exact Or.inr ⟨nofun, rfl⟩
    · exact Or.inl rfl

/-- A refusal is not answered 200, and not with a token. -/
theorem refusalResponse_ne : (refusalResponse env).status ≠ 200 ∧
    ∀ token, (refusalResponse env).entity ≠ .token token := by
  rw [refusalResponse]
  split
  · rw [readOnlyResponse]
    split
    · exact ⟨nofun, nofun⟩
    · exact ⟨nofun, nofun⟩
  · exact ⟨nofun, nofun⟩

/-- A method that schedules nothing leaves the database alone. -/
theorem unitOfWork_of_readOnly {method : Handler} {result : Except JavaException Response}
    (h : method (Session.openSession db) = (result, Session.openSession db)) :
    unitOfWork env method db = ⟨readOnlyResponse env result, db, []⟩ := by
  rcases result with e | response
  · exact unitOfWork_of_error h
  · rcases hc : env.commitFails with _ | _
    · have hcommit : (Session.openSession db).commit env = some db := by
        rw [Session.commit, hc]
        rfl
      rw [unitOfWork_of_commit h hcommit, readOnlyResponse, hc]
      rfl
    · have hcommit : (Session.openSession db).commit env = none := by
        rw [Session.commit, hc]
        rfl
      rw [unitOfWork_of_rollback h hcommit, readOnlyResponse, hc]
      rfl

/-! ### Writing an account back -/

/-- An update in a session is what a lookup by name finds from then on, if the row has the name. -/
theorem findByName_update_of_mem {u : User} {r : UserRow} (hr : r ∈ db.rows) (hid : r.id = u.id)
    (hname : r.username = u.username) (hlookup : env.lookupFails = false) :
    UserDAO.findByName env (some u.username) ((Session.openSession db).update u) =
      .ok (some u) := by
  have hby : db.byUsername u.username = some r := Database.byUsername_eq_some_iff.2 ⟨hr, hname⟩
  rw [UserDAO.findByName, hlookup, if_neg Bool.false_ne_true]
  show Except.ok ((db.byUsername u.username).map _) = _
  rw [hby]
  -- the managed object is found by the id of the row
  show Except.ok (some (([u].find? fun v ↦ v.id = r.id).getD r.load)) = _
  rw [List.find?_cons, decide_eq_true hid.symm]
  rfl

/-- What the method answers once `UserDAO.updateUser` has returned true. -/
theorem updateAndReissue_of_write {u : User} (hwrite : env.writeFails = false) :
    updateAndReissue tokenType env u (Session.openSession db) =
      match TokenHandler.buildToken tokenType env u.username
        ((Session.openSession db).update u) with
      | .ok token => (.ok ⟨200, .token token⟩, (Session.openSession db).update u)
      | .error .jose => (.ok ⟨500, .none⟩, (Session.openSession db).update u)
      | .error e => (.error e, (Session.openSession db).update u) := by
  rw [updateAndReissue, UserDAO.updateUser, hwrite, if_neg Bool.false_ne_true]
  rfl

/-- **The account is written** where nothing fails and the database takes it. -/
theorem updateAndReissue_of_update {u : User} {db' : Database} (hworks : Works tokenType env)
    (h : db.update u = some db') :
    unitOfWork env (updateAndReissue tokenType env u) db =
      ⟨reissueResponse tokenType env u, db', [.update u]⟩ := by
  obtain ⟨⟨⟨r, hr, hid, hname⟩, -⟩, -⟩ := Database.update_eq_some_iff.1 h
  have hfind := findByName_update_of_mem hr hid hname hworks.lookup
  have hmethod : updateAndReissue tokenType env u (Session.openSession db) =
      (.ok (reissueResponse tokenType env u), (Session.openSession db).update u) := by
    rw [updateAndReissue_of_write hworks.write, TokenHandler.buildToken_eq,
      if_pos hworks.tokenType, hfind, reissueResponse]
    by_cases hjose : TokenHandler.JoseFails tokenType env
    · simp only [if_pos hjose]
    · simp only [if_neg hjose]
  have hcommit : ((Session.openSession db).update u).commit env = some db' := by
    rw [commit_singleton rfl, hworks.commit]
    exact h
  exact unitOfWork_of_commit hmethod hcommit

/-- **Nothing is written** otherwise. -/
theorem updateAndReissue_of_not {u : User}
    (h : ¬ (Works tokenType env ∧ ∃ db', db.update u = some db')) :
    unitOfWork env (updateAndReissue tokenType env u) db = ⟨refusalResponse env, db, []⟩ := by
  rcases hwrite : env.writeFails with _ | _
  · have hmethod := @updateAndReissue_of_write tokenType env db u hwrite
    -- whatever the token handler lets pass, the commit fails
    have hcommit (hlookup : env.lookupFails = false)
        (hvalid : TokenHandler.ValidTokenType tokenType) :
        ((Session.openSession db).update u).commit env = none := by
      rw [commit_singleton rfl]
      rcases hc : env.commitFails with _ | _
      · rcases hupdate : db.update u with _ | db'
        · exact hupdate
        · exact absurd ⟨⟨⟨hlookup, hwrite, hc⟩, hvalid⟩, db', hupdate⟩ h
      · rfl
    rw [refusalResponse, hwrite]
    rcases hbuild : TokenHandler.buildToken tokenType env u.username
        ((Session.openSession db).update u) with e | token
    · rw [hbuild] at hmethod
      obtain ⟨rfl, hvalid, _, hfind⟩ | rfl | ⟨message, rfl⟩ | ⟨message, rfl⟩ :=
        TokenHandler.buildToken_eq_error hbuild
      · exact unitOfWork_of_rollback hmethod (hcommit (UserDAO.lookup_of_findByName hfind) hvalid)
      · exact unitOfWork_of_error hmethod
      · exact unitOfWork_of_error hmethod
      · exact unitOfWork_of_error hmethod
    · rw [hbuild] at hmethod
      obtain ⟨_, hfind, hvalid, -⟩ := TokenHandler.buildToken_eq_ok_iff.1 hbuild
      exact unitOfWork_of_rollback hmethod (hcommit (UserDAO.lookup_of_findByName hfind) hvalid)
  · have hmethod : updateAndReissue tokenType env u (Session.openSession db) =
        (.ok ⟨404, .text "User not found!"⟩, Session.openSession db) := by
      rw [updateAndReissue, UserDAO.updateUser, hwrite, if_pos rfl]
    rw [unitOfWork_of_readOnly hmethod, refusalResponse, hwrite]
    rfl

/-! ### Issuing a token and nothing else -/

/-- What a method that only issues a token makes of the answer of the token handler. -/
def tokenResult : Except JavaException Token → Except JavaException Response
  | .ok token => .ok ⟨200, .token token⟩
  | .error (.illegalState message) => .ok ⟨500, .text ("Server Error: " ++ message)⟩
  | .error .jose => .ok ⟨500, .none⟩
  | .error e => .error e

theorem tokenResponse_eq {name : String} (s : Session) :
    tokenResponse tokenType env name s =
      (tokenResult (TokenHandler.buildToken tokenType env name s), s) := by
  rw [tokenResponse]
  rcases TokenHandler.buildToken tokenType env name s with e | token
  · cases e <;> rfl
  · rfl

theorem unitOfWork_tokenResponse (name : String) :
    unitOfWork env (tokenResponse tokenType env name) db =
      ⟨readOnlyResponse env (tokenResult
        (TokenHandler.buildToken tokenType env name (Session.openSession db))), db, []⟩ :=
  unitOfWork_of_readOnly (tokenResponse_eq _)

/-! ### All outcomes of a call -/

/-- The row a sign-up inserts. -/
def newRow (db : Database) (valid : ValidSignUpUser) : UserRow :=
  ⟨db.sequence, valid.username, valid.email, valid.password, []⟩

/-- When `POST /user` creates an account. -/
structure SignsUp (env : Environment) (db : Database) (body : SignUpUser)
    (valid : ValidSignUpUser) : Prop where
  /-- The body is valid. -/
  validate : body.validate = some valid
  /-- The name is free. -/
  free : ∀ r ∈ db.rows, r.username ≠ valid.username
  /-- The values fit into the table. -/
  fits : (newRow db valid).Fits
  /-- The sequence has an `int` left. -/
  inRange : JavaInteger.InRange db.sequence
  /-- The database does what it is asked. -/
  stores : env.Stores

/-- **What a call can come to.** -/
inductive Effect (tokenType : String) (env : Environment) (call : Call) (db : Database) :
    Outcome → Prop
  /-- Nothing is committed and no token is handed out; at most a sign-up uses up an id. -/
  | nothing {response : Response} {d : Database} (hrows : d.rows = db.rows)
      (hseq : db.sequence ≤ d.sequence) (hdb : d = db ∨ ∃ body, call = .createUser body)
      (htoken : ∀ token, response.entity ≠ .token token)
      (hok : response.status = 200 → ∃ user, call = .bearer user .getPriviliges) :
      Effect tokenType env call db ⟨response, d, []⟩
  /-- A token is issued for the account that has the name now. -/
  | issued {name : String} {r : UserRow} (hcall : call.reissues = some name) (hr : r ∈ db.rows)
      (hname : r.username = name) (hvalid : TokenHandler.ValidTokenType tokenType)
      (hjose : ¬ TokenHandler.JoseFails tokenType env) :
      Effect tokenType env call db
        ⟨⟨200, .token (TokenHandler.tokenOf tokenType (TokenHandler.claimsFor env name r.load))⟩,
          db, []⟩
  /-- An account is created. -/
  | created {body : SignUpUser} {valid : ValidSignUpUser} {d : Database}
      (hcall : call = .createUser (.value body)) (hsignsUp : SignsUp env db body valid)
      (hrows : d.rows = db.rows ++ [newRow db valid]) (hseq : d.sequence = db.sequence + 1) :
      Effect tokenType env call db ⟨⟨200, .none⟩, d, [.insert (newRow db valid)]⟩
  /-- An account is written back. -/
  | updated {u : User} {d : Database} (hcall : call.updated = some u)
      (hworks : Works tokenType env) (hupdate : db.update u = some d) :
      Effect tokenType env call db ⟨reissueResponse tokenType env u, d, [.update u]⟩
  /-- An account is deleted. -/
  | deleted {u : User} {d : Database} (hcall : call = .bearer u .deleteUser)
      (hdelete : db.delete u = some d) :
      Effect tokenType env call db ⟨⟨200, .none⟩, d, [.delete u]⟩

/-- An exception has no effect. -/
theorem Effect.of_error {call : Call} {method : Handler} {e : JavaException} {s : Session}
    (h : method (Session.openSession db) = (.error e, s)) (hdb : s.db = db) :
    Effect tokenType env call db (unitOfWork env method db) := by
  rw [unitOfWork_of_error h, hdb]
  refine .nothing rfl le_rfl (Or.inl rfl) (fun token htoken ↦ ?_) fun hok ↦
    absurd hok e.toResponse_status_ne
  rw [e.toResponse_entity] at htoken
  cases htoken

/-- Neither has a method that has scheduled nothing, unless it answers with a token. -/
theorem Effect.readOnly {call : Call} {result : Except JavaException Response}
    (h : ∀ response, result = .ok response → (∀ token, response.entity ≠ .token token) ∧
      (response.status = 200 → ∃ user, call = .bearer user .getPriviliges)) :
    Effect tokenType env call db ⟨readOnlyResponse env result, db, []⟩ := by
  rcases @readOnlyResponse_cases env result with hresult | ⟨hstatus, hentity⟩
  · obtain ⟨htoken, hok⟩ := h _ hresult
    exact .nothing rfl le_rfl (Or.inl rfl) htoken hok
  · refine .nothing rfl le_rfl (Or.inl rfl) (fun token htoken ↦ ?_) fun hok ↦ absurd hok hstatus
    cases hentity.symm.trans htoken

/-- The same for the method. -/
theorem Effect.of_readOnly {call : Call} {method : Handler} {status : ℕ} {entity : Entity}
    (h : method (Session.openSession db) = (.ok ⟨status, entity⟩, Session.openSession db))
    (htoken : ∀ token, entity ≠ .token token)
    (hok : status = 200 → ∃ user, call = .bearer user .getPriviliges) :
    Effect tokenType env call db (unitOfWork env method db) := by
  rw [unitOfWork_of_readOnly h]
  refine .readOnly fun response hresponse ↦ ?_
  obtain rfl := Except.ok.inj hresponse
  exact ⟨htoken, hok⟩

/-- A failed commit has none. -/
theorem Effect.of_rollback {call : Call} {method : Handler} {response : Response} {s : Session}
    (h : method (Session.openSession db) = (.ok response, s)) (hcommit : s.commit env = none)
    (hrows : s.db.rows = db.rows) (hseq : db.sequence ≤ s.db.sequence)
    (hdb : s.db = db ∨ ∃ body, call = .createUser body) :
    Effect tokenType env call db (unitOfWork env method db) := by
  rw [unitOfWork_of_rollback h hcommit]
  exact .nothing hrows hseq hdb nofun nofun

/-- **What `POST /user` can do with a body that passed validation**, before the commit. -/
inductive SignUpAttempt (env : Environment) (db : Database) (valid : ValidSignUpUser) :
    Except JavaException Response × Session → Prop
  /-- The lookup fails, or there is no id to be drawn. -/
  | failed {e : JavaException} (he : e.toResponse = ⟨500, .framework⟩)
      (hcause : env.lookupFails = true ∨ (∀ r ∈ db.rows, r.username ≠ valid.username) ∧
        (env.writeFails = true ∨ ¬ JavaInteger.InRange db.sequence)) :
      SignUpAttempt env db valid (.error e, Session.openSession db)
  /-- The name is taken. -/
  | taken (htaken : ∃ r ∈ db.rows, r.username = valid.username)
      (hlookup : env.lookupFails = false) :
      SignUpAttempt env db valid
        (.ok ⟨409, .text ("\x7b" ++ "Username already in use!" ++ "\x7d")⟩, Session.openSession db)
  /-- An id is drawn and the row is scheduled. -/
  | scheduled {d : Database} (hfree : ∀ r ∈ db.rows, r.username ≠ valid.username)
      (hrange : JavaInteger.InRange db.sequence) (hlookup : env.lookupFails = false)
      (hwrite : env.writeFails = false) (hrows : d.rows = db.rows)
      (hseq : d.sequence = db.sequence + 1) :
      SignUpAttempt env db valid
        (.ok ⟨200, .none⟩, ⟨d, [(newRow db valid).load], [.insert (newRow db valid)]⟩)

/-- It can do nothing else. -/
theorem createUser_attempt (env : Environment) (db : Database) (valid : ValidSignUpUser) :
    SignUpAttempt env db valid
      (UserResource.createUser env (some valid) (Session.openSession db)) := by
  have hfind := UserDAO.findByName_some env valid.username db
  rcases hlookup : env.lookupFails with _ | _
  · rw [hlookup, if_neg Bool.false_ne_true] at hfind
    rcases hname : db.byUsername valid.username with _ | r
    · rw [hname] at hfind
      have hfree : ∀ r ∈ db.rows, r.username ≠ valid.username :=
        Database.byUsername_eq_none_iff.1 hname
      rcases hwrite : env.writeFails with _ | _
      · rcases hnext : db.nextval with _ | ⟨id, d⟩
        · have hrange : ¬ JavaInteger.InRange db.sequence := by
            intro hrange
            rw [Database.nextval, if_pos hrange] at hnext
            cases hnext
          have hmethod : UserResource.createUser env (some valid) (Session.openSession db) =
              (.error .persistence, Session.openSession db) := by
            simp only [UserResource.createUser, UserDAO.addNewUser_toSignUpUser, hfind,
              Option.map_none, Session.persist, hwrite, Session.openSession_db, hnext,
              if_neg Bool.false_ne_true]
          rw [hmethod]
          exact .failed rfl (Or.inr ⟨hfree, Or.inr hrange⟩)
        · obtain ⟨hrange, rfl, hrows, hseq⟩ := Database.nextval_eq_some_iff.1 hnext
          have hmethod : UserResource.createUser env (some valid) (Session.openSession db) =
              (.ok ⟨200, .none⟩, ⟨d, [(newRow db valid).load], [.insert (newRow db valid)]⟩) := by
            simp only [UserResource.createUser, UserDAO.addNewUser_toSignUpUser, hfind,
              Option.map_none, Session.persist, hwrite, Session.openSession_db, hnext,
              if_neg Bool.false_ne_true]
            rfl
          rw [hmethod]
          exact .scheduled hfree hrange hlookup hwrite hrows hseq
      · have hmethod : UserResource.createUser env (some valid) (Session.openSession db) =
            (.error .persistence, Session.openSession db) := by
          simp only [UserResource.createUser, UserDAO.addNewUser_toSignUpUser, hfind,
            Option.map_none, Session.persist, hwrite, if_true]
        rw [hmethod]
        exact .failed rfl (Or.inr ⟨hfree, Or.inl hwrite⟩)
    · have hmethod : UserResource.createUser env (some valid) (Session.openSession db) =
          (.ok ⟨409, .text ("\x7b" ++ "Username already in use!" ++ "\x7d")⟩,
            Session.openSession db) := by
        simp only [UserResource.createUser, UserDAO.addNewUser_toSignUpUser, hfind, hname,
          Option.map_some]
      rw [hmethod]
      exact .taken ⟨r, Database.byUsername_eq_some_iff.1 hname⟩ hlookup
  · rw [hlookup, if_pos rfl] at hfind
    have hmethod : UserResource.createUser env (some valid) (Session.openSession db) =
        (.error .hibernate, Session.openSession db) := by
      simp only [UserResource.createUser, UserDAO.addNewUser_toSignUpUser, hfind]
    rw [hmethod]
    exact .failed rfl (Or.inl hlookup)

section

variable {valid : ValidSignUpUser}

theorem createUser_of_failure (hcause : env.lookupFails = true ∨
      (∀ r ∈ db.rows, r.username ≠ valid.username) ∧
        (env.writeFails = true ∨ ¬ JavaInteger.InRange db.sequence)) :
    ∃ e : JavaException, e.toResponse = ⟨500, .framework⟩ ∧
      UserResource.createUser env (some valid) (Session.openSession db) =
        (.error e, Session.openSession db) := by
  have hattempt := createUser_attempt env db valid
  generalize UserResource.createUser env (some valid) (Session.openSession db) = result
    at hattempt ⊢
  cases hattempt with
  | failed he => exact ⟨_, he, rfl⟩
  | taken htaken hlookup =>
    obtain ⟨r, hr, hname⟩ := htaken
    obtain hfails | ⟨hfree, -⟩ := hcause
    · cases hlookup.symm.trans hfails
    · exact absurd hname (hfree r hr)
  | scheduled hfree hrange hlookup hwrite =>
    obtain hfails | ⟨-, hfails | hfails⟩ := hcause
    · cases hlookup.symm.trans hfails
    · cases hwrite.symm.trans hfails
    · exact absurd hrange hfails

theorem createUser_of_taken (htaken : ∃ r ∈ db.rows, r.username = valid.username)
    (hlookup : env.lookupFails = false) :
    UserResource.createUser env (some valid) (Session.openSession db) =
      (.ok ⟨409, .text ("\x7b" ++ "Username already in use!" ++ "\x7d")⟩,
        Session.openSession db) := by
  obtain ⟨r, hr, hname⟩ := htaken
  have hattempt := createUser_attempt env db valid
  generalize UserResource.createUser env (some valid) (Session.openSession db) = result
    at hattempt ⊢
  cases hattempt with
  | failed _ hcause =>
    obtain hfails | ⟨hfree, -⟩ := hcause
    · cases hlookup.symm.trans hfails
    · exact absurd hname (hfree r hr)
  | taken => rfl
  | scheduled hfree => exact absurd hname (hfree r hr)

theorem createUser_of_free (hfree : ∀ r ∈ db.rows, r.username ≠ valid.username)
    (hrange : JavaInteger.InRange db.sequence) (hlookup : env.lookupFails = false)
    (hwrite : env.writeFails = false) :
    ∃ d : Database, d.rows = db.rows ∧ d.sequence = db.sequence + 1 ∧
      UserResource.createUser env (some valid) (Session.openSession db) =
        (.ok ⟨200, .none⟩, ⟨d, [(newRow db valid).load], [.insert (newRow db valid)]⟩) := by
  have hattempt := createUser_attempt env db valid
  generalize UserResource.createUser env (some valid) (Session.openSession db) = result
    at hattempt ⊢
  cases hattempt with
  | failed _ hcause =>
    obtain hfails | ⟨-, hfails | hfails⟩ := hcause
    · cases hlookup.symm.trans hfails
    · cases hwrite.symm.trans hfails
    · exact absurd hrange hfails
  | taken htaken =>
    obtain ⟨r, hr, hname⟩ := htaken
    exact absurd hname (hfree r hr)
  | scheduled _ _ _ _ hrows hseq => exact ⟨_, hrows, hseq, rfl⟩

end

/-- The effect of `POST /user`. -/
theorem createUser_effect {body : SignUpUser} {valid : ValidSignUpUser}
    (hvalid : body.validate = some valid) :
    Effect tokenType env (.createUser (.value body)) db
      (unitOfWork env (UserResource.createUser env (some valid)) db) := by
  have hattempt := createUser_attempt env db valid
  generalize hmethod : UserResource.createUser env (some valid) (Session.openSession db) = result
    at hattempt
  cases hattempt with
  | failed => exact Effect.of_error hmethod rfl
  | taken =>
    refine Effect.of_readOnly hmethod (fun _ h ↦ ?_) fun h ↦ ?_
    · cases h
    · cases h
  | @scheduled d hfree hrange hlookup hwrite hrows hseq =>
    -- the id is drawn by now, the row is inserted by the commit
    let s : Session := ⟨d, [(newRow db valid).load], [.insert (newRow db valid)]⟩
    rcases hcommit : s.commit env with _ | d'
    · exact Effect.of_rollback hmethod hcommit hrows (by show _ ≤ d.sequence; omega)
        (Or.inr ⟨_, rfl⟩)
    · rw [unitOfWork_of_commit hmethod hcommit]
      rw [commit_singleton rfl, Option.ite_none_left_eq_some] at hcommit
      obtain ⟨⟨-, hfits, -⟩, hrows', hseq'⟩ := Database.insert_eq_some_iff.1 hcommit.2
      have hstores : env.Stores := ⟨hlookup, hwrite, Bool.eq_false_iff.2 hcommit.1⟩
      exact .created rfl ⟨hvalid, hfree, hfits, hrange, hstores⟩
        (hrows'.trans (congrArg (· ++ _) hrows)) (hseq'.trans hseq)

/-- `DELETE /user`, where the session accepts the deletion: it is up to the commit. -/
theorem unitOfWork_deleteUser (user : User) (hwrite : env.writeFails = false) :
    unitOfWork env (UserResource.deleteUser env user) db =
      match if env.commitFails then none else db.delete user with
      | some d => ⟨⟨200, .none⟩, d, [.delete user]⟩
      | none => ⟨JavaException.persistence.toResponse, db, []⟩ := by
  have hmethod : UserResource.deleteUser env user (Session.openSession db) =
      (.ok ⟨200, .none⟩, (Session.openSession db).delete user) := by
    rw [UserResource.deleteUser, UserDAO.deleteUser, hwrite]
    rfl
  have hcommit : ((Session.openSession db).delete user).commit env =
      if env.commitFails then none else db.delete user := by
    have hactions : ((Session.openSession db).delete user).actions = [.delete user] := rfl
    rw [commit_singleton hactions]
    rfl
  rcases h : (if env.commitFails then none else db.delete user) with _ | d
  · exact unitOfWork_of_rollback hmethod (hcommit.trans h)
  · exact unitOfWork_of_commit hmethod (hcommit.trans h)

/-- And where it does not. -/
theorem unitOfWork_deleteUser_of_writeFails (user : User) (hwrite : env.writeFails = true) :
    unitOfWork env (UserResource.deleteUser env user) db =
      ⟨readOnlyResponse env (.ok ⟨404, .text "User not found!"⟩), db, []⟩ := by
  have hmethod : UserResource.deleteUser env user (Session.openSession db) =
      (.ok ⟨404, .text "User not found!"⟩, Session.openSession db) := by
    rw [UserResource.deleteUser, UserDAO.deleteUser, hwrite]
    rfl
  exact unitOfWork_of_readOnly hmethod

/-- The effect of `DELETE /user`. -/
theorem deleteUser_effect (user : User) :
    Effect tokenType env (.bearer user .deleteUser) db
      (unitOfWork env (UserResource.deleteUser env user) db) := by
  rcases hwrite : env.writeFails with _ | _
  · rw [unitOfWork_deleteUser user hwrite]
    rcases h : (if env.commitFails then none else db.delete user) with _ | d
    · exact .nothing rfl le_rfl (Or.inl rfl) nofun nofun
    · exact .deleted rfl (Option.ite_none_left_eq_some.1 h).2
  · rw [unitOfWork_deleteUser_of_writeFails user hwrite]
    refine .readOnly fun response hresponse ↦ ?_
    obtain rfl := Except.ok.inj hresponse
    exact ⟨nofun, nofun⟩

/-- What is made of a token handler that fails is not answered 200, and not with a token. -/
theorem tokenResult_error_ne {name : String} {s : Session} {e : JavaException}
    {response : Response} (hbuild : TokenHandler.buildToken tokenType env name s = .error e)
    (h : tokenResult (.error e) = .ok response) :
    response.status ≠ 200 ∧ ∀ token, response.entity ≠ .token token := by
  obtain ⟨rfl, -⟩ | rfl | ⟨message, rfl⟩ | ⟨message, rfl⟩ := TokenHandler.buildToken_eq_error hbuild
  · obtain rfl := Except.ok.inj h
    exact ⟨nofun, nofun⟩
  · cases h
  · obtain rfl := Except.ok.inj h
    exact ⟨nofun, nofun⟩
  · cases h

/-- A method that only issues a token. -/
theorem tokenResponse_effect {call : Call} {name : String} (hcall : call.reissues = some name) :
    Effect tokenType env call db (unitOfWork env (tokenResponse tokenType env name) db) := by
  rw [unitOfWork_tokenResponse]
  rcases hbuild : TokenHandler.buildToken tokenType env name (Session.openSession db) with e | token
  · refine .readOnly fun response hresponse ↦ ?_
    obtain ⟨hstatus, htoken⟩ := tokenResult_error_ne hbuild hresponse
    exact ⟨htoken, fun hok ↦ absurd hok hstatus⟩
  · obtain ⟨u, hfind, hvalid, hjose, rfl⟩ := TokenHandler.buildToken_eq_ok_iff.1 hbuild
    obtain ⟨r, hr, hname, rfl⟩ := UserDAO.findByName_openSession hfind
    rcases @readOnlyResponse_cases env (tokenResult (.ok (TokenHandler.tokenOf tokenType
      (TokenHandler.claimsFor env name r.load)))) with hresult | ⟨hstatus, hentity⟩
    · rw [← Except.ok.inj hresult]
      exact .issued hcall hr hname hvalid hjose
    · refine .nothing rfl le_rfl (Or.inl rfl) (fun token htoken ↦ ?_) fun hok ↦ absurd hok hstatus
      cases hentity.symm.trans htoken

/-- A method that writes an account back. -/
theorem updateAndReissue_effect {call : Call} {u : User} (hcall : call.updated = some u) :
    Effect tokenType env call db (unitOfWork env (updateAndReissue tokenType env u) db) := by
  by_cases h : Works tokenType env ∧ ∃ db', db.update u = some db'
  · obtain ⟨hworks, d, hupdate⟩ := h
    rw [updateAndReissue_of_update hworks hupdate]
    exact .updated hcall hworks hupdate
  · rw [updateAndReissue_of_not h]
    exact .nothing rfl le_rfl (Or.inl rfl) refusalResponse_ne.2 fun hok ↦
      absurd hok refusalResponse_ne.1

/-- A parameter that cannot be read. -/
theorem withParameter_effect {α : Type} {call : Call} {parameter : Except JavaException α}
    {method : α → Handler}
    (h : ∀ a, parameter = .ok a → Effect tokenType env call db (unitOfWork env (method a) db)) :
    Effect tokenType env call db (unitOfWork env (withParameter parameter method) db) := by
  rcases parameter with e | a
  · exact Effect.of_error rfl rfl
  · exact h a rfl

theorem readValid_eq_ok_some_iff {body : Body SignUpUser} {valid : ValidSignUpUser} :
    body.readValid = .ok (some valid) ↔
      ∃ user, body = .value user ∧ user.validate = some valid := by
  constructor
  · intro h
    unfold Body.readValid at h
    rcases body with _ | _ | user
    · cases h
    · cases h
    · rcases hvalidate : user.validate with _ | v
      · simp [Body.read, hvalidate] at h
      · simp only [Body.read, hvalidate] at h
        obtain rfl := Option.some.inj (Except.ok.inj h)
        exact ⟨user, rfl, hvalidate⟩
  · rintro ⟨user, rfl, hvalidate⟩
    simp only [Body.readValid, Body.read, hvalidate]

/-- A request that gets to write its principal back is nothing but that write. -/
theorem Operation.run_of_updated {user u : User} {operation : Operation}
    (h : operation.updated user = some u) :
    operation.run tokenType env user = updateAndReissue tokenType env u := by
  unfold Operation.updated at h
  split at h
  · next body =>
    obtain ⟨valid, hvalid, h⟩ := Option.bind_eq_some_iff.1 h
    obtain ⟨hname, h⟩ := Option.ite_none_right_eq_some.1 h
    obtain rfl := Option.some.inj h
    have hread : (Body.value body).readValid = .ok (some valid) :=
      readValid_eq_ok_some_iff.2 ⟨body, rfl, hvalid⟩
    rw [Operation.run, hread]
    exact funext fun s ↦ if_pos hname
  · obtain rfl := Option.some.inj h
    rfl
  · obtain rfl := Option.some.inj h
    rfl
  · cases h

/-- The other requests, apart from two, schedule nothing, and what they answer depends on nothing
but the request and the name and privileges of its principal. -/
theorem Operation.run_of_not_updated {user : User} {operation : Operation}
    (h : operation.updated user = none) :
    operation = .deleteUser ∨ operation = .refresh ∨ ∃ result,
      (∀ user' : User, user'.username = user.username → user'.privileges = user.privileges →
        ∀ (env : Environment) (s : Session),
          operation.run tokenType env user' s = (result, s)) ∧
        ∀ response, result = .ok response → (∀ token, response.entity ≠ .token token) ∧
          (response.status = 200 → operation = .getPriviliges) := by
  have herror (e : JavaException) (response : Response) (he : Except.error e = .ok response) :
      (∀ token, response.entity ≠ .token token) ∧
        (response.status = 200 → operation = .getPriviliges) := by cases he
  cases operation with
  | updateUser body =>
    refine Or.inr (Or.inr ?_)
    rcases hbody : body.readValid with e | _ | valid
    · exact ⟨.error e, fun _ _ _ env s ↦ by rw [Operation.run, hbody]; rfl, herror e⟩
    · exact ⟨.error .nullPointer, fun _ _ _ env s ↦ by rw [Operation.run, hbody]; rfl, herror _⟩
    · obtain ⟨signUp, rfl, hvalid⟩ := readValid_eq_ok_some_iff.1 hbody
      have hname : ¬ user.username = valid.username := by
        intro hname
        have hupdated : (Operation.updateUser (.value signUp)).updated user =
            some ((user.setEmail valid.email).setPassword valid.password) := by
          show (signUp.validate.bind fun v ↦ _) = _
          rw [hvalid, Option.bind_some, if_pos hname]
        cases h.symm.trans hupdated
      refine ⟨.ok ⟨400, .text "Usernames are permanent and can't be changed!"⟩,
        fun user' hname' _ env s ↦ ?_, fun response hresponse ↦ ?_⟩
      · rw [Operation.run, hbody]
        exact if_neg (hname' ▸ hname)
      · obtain rfl := Except.ok.inj hresponse
        exact ⟨nofun, nofun⟩
  | deleteUser => exact Or.inl rfl
  | refresh => exact Or.inr (Or.inl rfl)
  | getPriviliges =>
    refine Or.inr (Or.inr ⟨.ok ⟨200, .privileges user.getPrivileges⟩,
      fun user' _ hprivileges env s ↦ ?_, fun response hresponse ↦ ?_⟩)
    · show AuthorizationResource.getPriviliges user' s = _
      rw [AuthorizationResource.getPriviliges, User.getPrivileges, hprivileges]
      rfl
    · obtain rfl := Except.ok.inj hresponse
      exact ⟨nofun, fun _ ↦ rfl⟩
  | addPrivileges body =>
    rcases body with _ | _ | newPriviliges
    · exact Or.inr (Or.inr ⟨_, fun _ _ _ _ _ ↦ rfl, herror _⟩)
    · exact Or.inr (Or.inr ⟨_, fun _ _ _ _ _ ↦ rfl, herror _⟩)
    · cases h
  | removePrivileges body =>
    rcases body with _ | _ | priviligesToRemove
    · exact Or.inr (Or.inr ⟨_, fun _ _ _ _ _ ↦ rfl, herror _⟩)
    · exact Or.inr (Or.inr ⟨_, fun _ _ _ _ _ ↦ rfl, herror _⟩)
    · cases h

/-- The same for a call. -/
theorem Call.handle_of_updated {call : Call} {u : User} (h : call.updated = some u) :
    call.handle tokenType env db = unitOfWork env (updateAndReissue tokenType env u) db := by
  obtain ⟨user, operation, rfl, hupdated⟩ := Call.exists_of_updated h
  rw [Call.handle, Call.run, Operation.run_of_updated hupdated]

/-- A request that gets to write its principal back is answered 200 only if it does. -/
theorem Call.update_of_status {call : Call} {u : User} (h : call.updated = some u)
    (hstatus : (call.handle tokenType env db).response.status = 200) :
    Works tokenType env ∧ db.update u = some (call.handle tokenType env db).db := by
  rw [Call.handle_of_updated h] at hstatus ⊢
  by_cases hwritten : Works tokenType env ∧ ∃ db', db.update u = some db'
  · obtain ⟨hworks, d, hupdate⟩ := hwritten
    rw [updateAndReissue_of_update hworks hupdate]
    exact ⟨hworks, hupdate⟩
  · rw [updateAndReissue_of_not hwritten] at hstatus
    exact absurd hstatus refusalResponse_ne.1

/-- **Every outcome of a call is one of the five.** -/
theorem Call.handle_effect (call : Call) (db : Database) :
    Effect tokenType env call db (call.handle tokenType env db) := by
  cases call with
  | createUser body =>
    refine withParameter_effect fun parameter hparameter ↦ ?_
    rcases parameter with _ | valid
    · exact Effect.of_error rfl rfl
    · obtain ⟨user, rfl, hvalid⟩ := readValid_eq_ok_some_iff.1 hparameter
      exact createUser_effect hvalid
  | login user => exact tokenResponse_effect rfl
  | bearer user operation =>
    rcases hupdated : operation.updated user with _ | u
    · obtain rfl | rfl | ⟨result, hrun, hresult⟩ := Operation.run_of_not_updated hupdated
      · exact deleteUser_effect user
      · exact tokenResponse_effect rfl
      · have hhandle : (Call.bearer user operation).handle tokenType env db =
            ⟨readOnlyResponse env result, db, []⟩ :=
          unitOfWork_of_readOnly (hrun user rfl rfl env _)
        rw [hhandle]
        refine .readOnly fun response hresponse ↦ ?_
        obtain ⟨htoken, hok⟩ := hresult response hresponse
        exact ⟨htoken, fun h ↦ ⟨user, by rw [hok h]⟩⟩
    · have hcall : (Call.bearer user operation).updated = some u := hupdated
      rw [Call.handle_of_updated hcall]
      exact updateAndReissue_effect hcall

/-! ### Rows and tokens after a call -/

section

variable {call : Call}

/-- **Where a row comes from**: it was there, and was written back or not, or it is new. -/
theorem Call.mem_handle {r' : UserRow} (hr' : r' ∈ (call.handle tokenType env db).db.rows) :
    (∃ r ∈ db.rows, r.id = r'.id ∧ r.username = r'.username ∧
        (r' = r ∨ ∃ u, call.updated = some u ∧ u.id = r.id ∧ r' = r.writeBack u ∧
          (call.handle tokenType env db).committed = [.update u])) ∨
      ∃ body valid, call = .createUser (.value body) ∧ SignsUp env db body valid ∧
        r' = newRow db valid := by
  have heffect := @Call.handle_effect tokenType env call db
  generalize call.handle tokenType env db = o at hr' heffect ⊢
  cases heffect with
  | nothing hrows => exact Or.inl ⟨r', hrows ▸ hr', rfl, rfl, Or.inl rfl⟩
  | issued => exact Or.inl ⟨r', hr', rfl, rfl, Or.inl rfl⟩
  | created hcall hsignsUp hrows =>
    rw [hrows, List.mem_append, List.mem_singleton] at hr'
    rcases hr' with hr' | rfl
    · exact Or.inl ⟨r', hr', rfl, rfl, Or.inl rfl⟩
    · exact Or.inr ⟨_, _, hcall, hsignsUp, rfl⟩
  | @updated u d hcall _ hupdate =>
    obtain ⟨r, hr, hr', hid, hname⟩ := Database.exists_mem_of_mem_update hupdate hr'
    refine Or.inl ⟨r, hr, hid, hname, ?_⟩
    by_cases hu : r.id = u.id
    · exact Or.inr ⟨u, hcall, hu.symm, hr'.trans (if_pos hu), rfl⟩
    · exact Or.inl (hr'.trans (if_neg hu))
  | deleted hcall hdelete =>
    exact Or.inl ⟨r', ((Database.mem_delete_iff hdelete).1 hr').1, rfl, rfl, Or.inl rfl⟩

/-- **Every call respects identity.** -/
theorem Call.le_handle (call : Call) (db : Database) : db ≤ (call.handle tokenType env db).db := by
  have heffect := @Call.handle_effect tokenType env call db
  generalize call.handle tokenType env db = o at heffect ⊢
  cases heffect with
  | nothing hrows hseq => exact Database.le_of_rows_eq hrows hseq
  | issued => exact le_rfl
  | @created _ valid d _ _ hrows hseq =>
    refine ⟨by show db.sequence ≤ d.sequence; omega, fun r' hr' hlt ↦ ?_⟩
    rw [hrows, List.mem_append, List.mem_singleton] at hr'
    rcases hr' with hr' | rfl
    · exact ⟨r', hr', rfl, rfl⟩
    · exact absurd hlt (lt_irrefl _)
  | updated _ _ hupdate => exact Database.le_of_update hupdate
  | deleted _ hdelete => exact Database.le_of_delete hdelete

/-- **Where a token comes from**: it is for an account that is stored, under its id and name, and
carries the privileges of the row or those of the user just written back. -/
theorem Call.token_handle {token : Token}
    (h : (call.handle tokenType env db).response.entity = .token token) :
    (call.handle tokenType env db).response.status = 200 ∧
      ∃ r ∈ db.rows, ∃ u : User, u.id = r.id ∧ u.username = r.username ∧
        token = TokenHandler.tokenOf tokenType (TokenHandler.claimsFor env r.username u) ∧
        (call.reissues = some r.username ∧ u = r.load ∧ (call.handle tokenType env db).db = db ∧
            (call.handle tokenType env db).committed = [] ∨
          call.updated = some u ∧ db.update u = some (call.handle tokenType env db).db ∧
            (call.handle tokenType env db).committed = [.update u]) := by
  have heffect := @Call.handle_effect tokenType env call db
  generalize call.handle tokenType env db = o at h heffect ⊢
  cases heffect with
  | nothing _ _ _ htoken => exact absurd h (htoken token)
  | @issued _ r hcall hr hname _ _ =>
    obtain rfl := Entity.token.inj h
    obtain rfl := hname
    exact ⟨rfl, r, hr, r.load, rfl, rfl, rfl, Or.inl ⟨hcall, rfl, rfl, rfl⟩⟩
  | created => cases h
  | @updated u d hcall _ hupdate =>
    obtain ⟨⟨⟨r, hr, hid, hname⟩, -⟩, -⟩ := Database.update_eq_some_iff.1 hupdate
    dsimp only [reissueResponse] at h ⊢
    split at h
    · cases h
    · next hjose =>
      obtain rfl := Entity.token.inj h
      rw [if_neg hjose]
      exact ⟨rfl, r, hr, u, hid.symm, hname.symm, by rw [hname], Or.inr ⟨hcall, hupdate, rfl⟩⟩
  | deleted => cases h

/-- The subject and the username in a token are those of a row, which for a request that only
issues a token is the one that has the name. -/
theorem Call.claims_handle {token : Token} {claims : JwtClaims}
    (h : (call.handle tokenType env db).response.entity = .token token)
    (hclaims : token.claims = some claims) :
    ∃ r ∈ db.rows, claims.getSubject = .ok (some (toString r.id)) ∧
      claims.getClaimValue "username" = .string r.username ∧
        ∀ n, call.reissues = some n → r.username = n := by
  obtain ⟨-, r, hr, u, hid, -, rfl, hcall⟩ := Call.token_handle h
  rw [TokenHandler.claims_tokenOf] at hclaims
  obtain rfl := Option.some.inj hclaims
  refine ⟨r, hr, by rw [TokenHandler.getSubject_claimsFor, hid], TokenHandler.username_claimsFor,
    fun n hn ↦ ?_⟩
  rcases hcall with ⟨hreissues, -⟩ | ⟨hupdated, -⟩
  · exact Option.some.inj (hreissues.symm.trans hn)
  · cases hupdated.symm.trans (Call.updated_of_reissues hn)

end

end DseAuth
