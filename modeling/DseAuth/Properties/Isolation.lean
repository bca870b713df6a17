import DseAuth.Properties.WriteBack

/-!
# Accounts do not see each other

Requests are handled one at a time here. A request is *of* an account if it is let through as that
account (`Exchange.account`); sign-ups are of no account, and neither are the requests that are
turned away.

The argument is an unwinding (`Machine.Unwinding`). The view of an account is its row, and what has
to be shown of one step is this:

* a request that is not of the account leaves its row alone (`Exchange.mem_next_of_foreign`) — not
  even a sign-up under the name of the account, a login with the wrong password or a token with
  the wrong privileges touches it;
* a request of the account is let through, answered and written back in the same way by every
  database that holds the row (`Request.authenticate_of_mem`, `Call.same_handle`).

**`account_isolated`** is the purge theorem for it. The repeated requests may run at other times and
draw other token ids in their second step, so tokens are compared by what they say about the
account (`Entity.Same`).
-/

namespace DseAuth

/-! ### Whose a request is -/

/-- The account that a call is let through as. -/
def Call.account (db : Database) : Call → Option ℤ
  | .createUser _ => none
  | .login user => (db.byUsername user).map UserRow.id
  | .bearer user _ => some user.id

/-- The account that a request is let through as, if any. -/
def Exchange.account (tokenType : String) (db : Database) (x : Exchange) : Option ℤ :=
  match x.request.authenticate tokenType x.authEnv db with
  | .ok call => call.account db
  | .error _ => none

/-- The request is let through as the account `b`. -/
def Exchange.Of (tokenType : String) (b : ℤ) (db : Database) (x : Exchange) : Prop :=
  x.account tokenType db = some b

instance (tokenType : String) (b : ℤ) (db : Database) (x : Exchange) :
    Decidable (x.Of tokenType b db) :=
  inferInstanceAs (Decidable (_ = _))

/-- A call with a principal loaded from a row. -/
def Call.From (r : UserRow) (call : Call) : Prop :=
  call = .login r.username ∨ ∃ operation, call = .bearer r.load operation

/-! ### Repeating a request -/

/-- The environment of a second step that is taken again, at another time and with another token
id. -/
def Environment.retimed (env : Environment) (now : ℤ) (jti : String) : Environment :=
  { env with now := now, jti := jti }

/-- `y` is `x` again. -/
def Exchange.Repeats (x y : Exchange) : Prop :=
  y.request = x.request ∧ y.authEnv = x.authEnv ∧ ∃ now jti, y.env = x.env.retimed now jti

/-- Two entities say the same; tokens are compared by subject, username and privileges. -/
inductive Entity.Same : Entity → Entity → Prop
  /-- They are equal. -/
  | refl (entity : Entity) : entity.Same entity
  /-- They are tokens with the same claims about the account. -/
  | token {token token' : Token} {claims claims' : JwtClaims} (h : token.claims = some claims)
      (h' : token'.claims = some claims') (hsubject : claims.getSubject = claims'.getSubject)
      (husername : claims.getClaimValue "username" = claims'.getClaimValue "username")
      (hprivileges : claims.getClaimValue "privileges" = claims'.getClaimValue "privileges") :
      (Entity.token token).Same (.token token')

/-- Two responses say the same. -/
structure Response.Same (response response' : Response) : Prop where
  /-- The status is the same. -/
  status : response.status = response'.status
  /-- The entities say the same. -/
  entity : response.entity.Same response'.entity

theorem Response.Same.of_eq {response response' : Response} (h : response = response') :
    response.Same response' :=
  h ▸ ⟨rfl, .refl _⟩

variable {tokenType : String} {env : Environment} {db db' : Database} {r : UserRow}

/-- Tokens issued for one user in two environments say the same. -/
theorem TokenHandler.same_tokenOf {env' : Environment} {name : String} {u : User} :
    (Entity.token (tokenOf tokenType (claimsFor env name u))).Same
      (.token (tokenOf tokenType (claimsFor env' name u))) :=
  .token claims_tokenOf claims_tokenOf rfl rfl rfl

/-! ### Requests of the account -/

/-- A call that was let through as an account comes from its row. -/
theorem Exchange.exists_of_account {x : Exchange} {b : ℤ} (h : x.Of tokenType b db) :
    ∃ r ∈ db.rows, r.id = b ∧ ∃ call, x.request.authenticate tokenType x.authEnv db = .ok call ∧
      call.From r := by
  rw [Exchange.Of, Exchange.account] at h
  rcases hauth : x.request.authenticate tokenType x.authEnv db with response | call
  · rw [hauth] at h
    cases h
  · rw [hauth] at h
    rcases call with body | name | ⟨user, operation⟩
    · cases h
    · obtain ⟨r, hr, rfl⟩ := Option.map_eq_some_iff.1 h
      obtain ⟨hmem, rfl⟩ := Database.byUsername_eq_some_iff.1 hr
      exact ⟨r, hmem, rfl, _, rfl, Or.inl rfl⟩
    · obtain ⟨-, -, -, -, -, r, hr, -, rfl⟩ := exists_of_authenticate_eq_bearer hauth
      exact ⟨r, hr, Option.some.inj h, _, rfl, Or.inr ⟨operation, rfl⟩⟩

/-- The account of a call that comes from a row that is there. -/
theorem Call.account_of_from {call : Call} (hcall : call.From r) (hr : r ∈ db.rows) :
    call.account db = some r.id := by
  obtain rfl | ⟨operation, rfl⟩ := hcall
  · have hby : db.byUsername r.username = some r := Database.byUsername_eq_some_iff.2 ⟨hr, rfl⟩
    rw [Call.account, hby]
    rfl
  · rfl

/-- Being let through as an account is what `Request.AcceptedAs` says of its row. -/
theorem Exchange.of_iff_acceptedAs {x : Exchange} {b : ℤ} :
    x.Of tokenType b db ↔
      ∃ r, r.id = b ∧ x.request.AcceptedAs tokenType x.authEnv db r := by
  constructor
  · intro h
    obtain ⟨r, hr, hid, call, hauth, rfl | ⟨operation, rfl⟩⟩ := Exchange.exists_of_account h
    · exact ⟨r, hid, hr, Or.inl hauth⟩
    · exact ⟨r, hid, hr, Or.inr ⟨operation, hauth⟩⟩
  · rintro ⟨r, rfl, hr, hauth⟩
    obtain ⟨call, hcall, hfrom⟩ : ∃ call,
        x.request.authenticate tokenType x.authEnv db = .ok call ∧ call.From r := by
      rcases hauth with hauth | ⟨operation, hauth⟩
      · exact ⟨_, hauth, Or.inl rfl⟩
      · exact ⟨_, hauth, Or.inr ⟨operation, rfl⟩⟩
    rw [Exchange.Of, Exchange.account, hcall]
    exact Call.account_of_from hfrom hr

/-- **Being let through depends on the row alone.** -/
theorem Request.authenticate_of_mem {request : Request} {call : Call}
    (h : request.authenticate tokenType env db = .ok call) (hcall : call.From r)
    (hr : r ∈ db.rows) (hr' : r ∈ db'.rows) :
    request.authenticate tokenType env db' = .ok call := by
  obtain rfl | ⟨operation, rfl⟩ := hcall
  · cases request with
    | createUser body => cases h
    | login credentials =>
      obtain ⟨hreads, q, hq, hcredentials, hcall⟩ := authenticate_login_eq_ok_iff.1 h
      -- the row the password was compared with is the one of the name
      obtain rfl := db.consistent.eq_of_username hq hr (Call.login.inj hcall)
      exact authenticate_login_eq_ok_iff.2 ⟨hreads, q, hr', hcredentials, rfl⟩
    | bearer token operation =>
      obtain ⟨-, -, -, q, -, -, hcall⟩ := authenticate_bearer_eq_ok_iff.1 h
      cases hcall
  · obtain ⟨token, claims, rfl, hprocess, hreads, q, hq, hclaims, hload⟩ :=
      exists_of_authenticate_eq_bearer h
    have hid : r.id = q.id := congrArg User.id hload
    obtain rfl := db.consistent.eq_of_id hr hq hid
    exact authenticate_bearer_eq_ok_iff.2 ⟨claims, hprocess, hreads, r, hr', hclaims, rfl⟩

/-! ### How they are handled -/

/-- Two outcomes that the account `id` cannot tell apart. -/
structure Outcome.SameFor (id : ℤ) (o o' : Outcome) : Prop where
  /-- The responses say the same. -/
  response : o.response.Same o'.response
  /-- If the first one has left a row of the account, it is in the second one too. -/
  row : ∀ q ∈ o.db.rows, q.id = id → q ∈ o'.db.rows

/-- Nothing has been written. -/
theorem Outcome.SameFor.of_unchanged {response response' : Response} (h : response.Same response')
    (hr : r ∈ db.rows) (hr' : r ∈ db'.rows) :
    Outcome.SameFor r.id ⟨response, db, []⟩ ⟨response', db', []⟩ := by
  refine ⟨h, fun q hq hid ↦ ?_⟩
  have hqr : q = r := db.consistent.eq_of_id hq hr hid
  exact hqr ▸ hr'

/-- In a fresh session, whether a token for the row comes out depends on the row alone. -/
theorem TokenHandler.buildToken_of_mem (hr : r ∈ db.rows) :
    buildToken tokenType env r.username (Session.openSession db) =
      if ValidTokenType tokenType then
        if env.lookupFails then .error .hibernate
        else if JoseFails tokenType env then .error .jose
        else .ok (tokenOf tokenType (claimsFor env r.username r.load))
      else .error (.illegalArgument "no valid tokentype provided!") := by
  rw [buildToken_eq]
  rcases hlookup : env.lookupFails with _ | _
  · rw [UserDAO.findByName_openSession_of_mem hlookup hr]
    rfl
  · rw [UserDAO.findByName_some, if_pos hlookup]
    rfl

section

variable {now : ℤ} {jti : String}

@[simp] theorem Environment.retimed_lookupFails :
    (env.retimed now jti).lookupFails = env.lookupFails := rfl

@[simp] theorem Environment.retimed_commitFails :
    (env.retimed now jti).commitFails = env.commitFails := rfl

theorem readOnlyResponse_retimed (result : Except JavaException Response) :
    readOnlyResponse (env.retimed now jti) result = readOnlyResponse env result := rfl

theorem refusalResponse_retimed : refusalResponse (env.retimed now jti) = refusalResponse env := rfl

theorem works_retimed : Works tokenType (env.retimed now jti) ↔ Works tokenType env :=
  ⟨fun h ↦ ⟨⟨h.lookup, h.write, h.commit⟩, h.tokenType⟩,
    fun h ↦ ⟨⟨h.lookup, h.write, h.commit⟩, h.tokenType⟩⟩

theorem TokenHandler.joseFails_retimed :
    JoseFails tokenType (env.retimed now jti) ↔ JoseFails tokenType env := Iff.rfl

/-- A token for the account is issued wherever its row is, or nowhere. -/
theorem sameFor_tokenResponse (hr : r ∈ db.rows) (hr' : r ∈ db'.rows) :
    Outcome.SameFor r.id (unitOfWork env (tokenResponse tokenType env r.username) db)
      (unitOfWork (env.retimed now jti)
        (tokenResponse tokenType (env.retimed now jti) r.username) db') := by
  rw [unitOfWork_tokenResponse, unitOfWork_tokenResponse, readOnlyResponse_retimed]
  refine .of_unchanged ?_ hr hr'
  rw [TokenHandler.buildToken_of_mem hr, TokenHandler.buildToken_of_mem hr']
  simp only [TokenHandler.joseFails_retimed, Environment.retimed_lookupFails]
  split_ifs with hvalid hlookup hjose
  · exact .of_eq rfl
  · exact .of_eq rfl
  · rw [tokenResult, tokenResult, readOnlyResponse, readOnlyResponse]
    split_ifs with hcommit
    · exact .of_eq rfl
    · exact ⟨rfl, TokenHandler.same_tokenOf⟩
  · exact .of_eq rfl

/-- The account is written back wherever its row is, or nowhere. -/
theorem sameFor_updateAndReissue {u : User} (hid : u.id = r.id) (hname : u.username = r.username)
    (hr : r ∈ db.rows) (hr' : r ∈ db'.rows) :
    Outcome.SameFor r.id (unitOfWork env (updateAndReissue tokenType env u) db)
      (unitOfWork (env.retimed now jti)
        (updateAndReissue tokenType (env.retimed now jti) u) db') := by
  have hwritten : (∃ d, db'.update u = some d) ↔ ∃ d, db.update u = some d := by
    rw [Database.exists_update_iff, Database.exists_update_iff]
    exact and_congr_left' (iff_of_true ⟨r, hr', hid.symm, hname.symm⟩ ⟨r, hr, hid.symm, hname.symm⟩)
  by_cases h : Works tokenType env ∧ ∃ d, db.update u = some d
  · obtain ⟨hworks, d, hupdate⟩ := h
    obtain ⟨d', hupdate'⟩ := hwritten.2 ⟨d, hupdate⟩
    rw [updateAndReissue_of_update hworks hupdate,
      updateAndReissue_of_update (works_retimed.2 hworks) hupdate']
    refine ⟨?_, fun q hq hqid ↦ ?_⟩
    · simp only [reissueResponse, TokenHandler.joseFails_retimed]
      split_ifs
      · exact .of_eq rfl
      · exact ⟨rfl, TokenHandler.same_tokenOf⟩
    · -- the two databases have the same row, and the same user is written over it
      have hqr : q = r.writeBack u :=
        d.consistent.eq_of_id hq (Database.writeBack_mem_update hupdate hr hid.symm) hqid
      rw [hqr]
      exact Database.writeBack_mem_update hupdate' hr' hid.symm
  · have h' : ¬ (Works tokenType (env.retimed now jti) ∧ ∃ d, db'.update u = some d) := by
      rw [works_retimed, hwritten]
      exact h
    rw [updateAndReissue_of_not h, updateAndReissue_of_not h', refusalResponse_retimed]
    exact .of_unchanged (.of_eq rfl) hr hr'

/-- The account is deleted wherever its row is, or nowhere. -/
theorem sameFor_deleteUser (hr : r ∈ db.rows) (hr' : r ∈ db'.rows) :
    Outcome.SameFor r.id (unitOfWork env (UserResource.deleteUser env r.load) db)
      (unitOfWork (env.retimed now jti)
        (UserResource.deleteUser (env.retimed now jti) r.load) db') := by
  rcases hwrite : env.writeFails with _ | _
  · rw [unitOfWork_deleteUser r.load hwrite,
      @unitOfWork_deleteUser (env.retimed now jti) db' r.load hwrite,
      Environment.retimed_commitFails]
    split_ifs with hcommit
    · exact .of_unchanged (.of_eq rfl) hr hr'
    · obtain ⟨d, hd⟩ : ∃ d, db.delete r.load = some d := Database.exists_delete_iff.2 ⟨r, hr, rfl⟩
      obtain ⟨d', hd'⟩ : ∃ d, db'.delete r.load = some d :=
        Database.exists_delete_iff.2 ⟨r, hr', rfl⟩
      rw [hd, hd']
      exact ⟨.of_eq rfl, fun q hq hid ↦ absurd hid ((Database.mem_delete_iff hd).1 hq).2⟩
  · rw [unitOfWork_deleteUser_of_writeFails r.load hwrite,
      @unitOfWork_deleteUser_of_writeFails (env.retimed now jti) db' r.load hwrite,
      readOnlyResponse_retimed]
    exact .of_unchanged (.of_eq rfl) hr hr'

/-- **A call of the account is handled in the same way by every database that holds its row.** -/
theorem Call.sameFor_handle {call : Call} (hcall : call.From r) (hr : r ∈ db.rows)
    (hr' : r ∈ db'.rows) :
    Outcome.SameFor r.id (call.handle tokenType env db)
      (call.handle tokenType (env.retimed now jti) db') := by
  obtain rfl | ⟨operation, rfl⟩ := hcall
  · exact sameFor_tokenResponse hr hr'
  · rcases hupdated : operation.updated r.load with _ | u
    · obtain rfl | rfl | ⟨result, hrun, -⟩ := Operation.run_of_not_updated hupdated
      · exact sameFor_deleteUser hr hr'
      · exact sameFor_tokenResponse hr hr'
      · have hhandle (env : Environment) (db : Database) :
            (Call.bearer r.load operation).handle tokenType env db =
              ⟨readOnlyResponse env result, db, []⟩ :=
          unitOfWork_of_readOnly (hrun r.load rfl rfl env _)
        rw [hhandle, hhandle, readOnlyResponse_retimed]
        exact .of_unchanged (.of_eq rfl) hr hr'
    · obtain ⟨hid, hname, -⟩ := Operation.updated_keeps hupdated
      have hcall : (Call.bearer r.load operation).updated = some u := hupdated
      rw [Call.handle_of_updated hcall, Call.handle_of_updated hcall]
      exact sameFor_updateAndReissue hid hname hr hr'

end

/-! ### Requests of others -/

/-- **A request that is not of the account leaves its row alone.** -/
theorem Exchange.mem_next_of_foreign {x : Exchange} (hx : ¬ x.Of tokenType r.id db)
    (hr : r ∈ db.rows) : r ∈ (x.next tokenType db).rows := by
  obtain ⟨response, -, -, hserve⟩ | ⟨call, hauth, hserve⟩ := @Exchange.serve_cases tokenType x db
  · rw [Exchange.next, hserve]
    exact hr
  · have haccount : call.account db ≠ some r.id := by
      intro h
      rw [Exchange.Of, Exchange.account, hauth] at hx
      exact hx h
    rw [Exchange.next, hserve]
    have heffect := @Call.handle_effect tokenType x.env call db
    generalize call.handle tokenType x.env db = o at heffect ⊢
    cases heffect with
    | nothing hrows => exact hrows ▸ hr
    | issued => exact hr
    | created _ _ hrows =>
      rw [hrows]
      exact List.mem_append_left _ hr
    | @updated u d hcall _ hupdate =>
      refine Database.mem_update_of_id_ne hupdate hr fun hid ↦ haccount ?_
      obtain ⟨user, operation, rfl, hoperation⟩ := Call.exists_of_updated hcall
      exact congrArg some ((Operation.updated_keeps hoperation).1.symm.trans hid.symm)
    | deleted hcall hdelete =>
      refine (Database.mem_delete_iff hdelete).2 ⟨hr, fun hid ↦ haccount ?_⟩
      rw [hcall, Call.account, hid]

/-! ### Runs -/

/-- What the account can see of two databases: that they hold the same row for it. -/
def SameRow (b : ℤ) (db db' : Database) : Prop :=
  ∃ r, r.id = b ∧ r ∈ db.rows ∧ r ∈ db'.rows

/-- The account is there. -/
def Database.Holds (db : Database) (b : ℤ) : Prop :=
  ∃ r ∈ db.rows, r.id = b

instance (db : Database) (b : ℤ) : Decidable (db.Holds b) :=
  inferInstanceAs (Decidable (∃ r ∈ db.rows, r.id = b))

/-- **A request of the account that is repeated** where its row is the same is let through as the
account again, and comes to the same. -/
theorem Exchange.sameFor_serve {x y : Exchange} {b : ℤ} (hrow : SameRow b db db')
    (hx : x.Of tokenType b db) (hxy : x.Repeats y) :
    y.Of tokenType b db' ∧ Outcome.SameFor b (x.serve tokenType db) (y.serve tokenType db') := by
  obtain ⟨r, rfl, hr, hr'⟩ := hrow
  obtain ⟨q, hq, hid, call, hauth, hcall⟩ := Exchange.exists_of_account hx
  obtain rfl := db.consistent.eq_of_id hq hr hid
  obtain ⟨hrequest, hauthEnv, now, jti, henv⟩ := hxy
  have hauth' : y.request.authenticate tokenType y.authEnv db' = .ok call := by
    rw [hrequest, hauthEnv]
    exact Request.authenticate_of_mem hauth hcall hr hr'
  constructor
  · rw [Exchange.Of, Exchange.account, hauth']
    exact Call.account_of_from hcall hr'
  · rw [Exchange.serve, Exchange.serve, hauth, hauth', henv]
    exact Call.sameFor_handle hcall hr hr'

/-- The unwinding of the service for an account. -/
theorem unwinding (tokenType : String) (b : ℤ) :
    Machine.Unwinding (Exchange.next tokenType) (fun db x ↦ (x.serve tokenType db).response)
      (fun db x ↦ x.Of tokenType b db) Exchange.Repeats Response.Same (SameRow b)
      (Database.Holds · b) where
  foreign := by
    rintro db db' x ⟨r, rfl, hr, hr'⟩ hx
    exact ⟨r, rfl, Exchange.mem_next_of_foreign hx hr, hr'⟩
  own_repeats hrow hx hxy := (Exchange.sameFor_serve hrow hx hxy).1
  answer_same hrow hx hxy := (Exchange.sameFor_serve hrow hx hxy).2.response
  own_step hrow hx hxy halive := by
    obtain ⟨r, hr, hid⟩ := halive
    exact ⟨r, hid, hr, (Exchange.sameFor_serve hrow hx hxy).2.row r hr hid⟩

/-- **Accounts are isolated.** As long as the account `b` is not deleted, the requests that are not
let through as `b` can be deleted from a run: repeating the others, each is let through as `b`
again and answered the same, and the row of `b` is the same in the end. -/
theorem account_isolated {b : ℤ} {db : Database} {xs ys : List Exchange} (hb : db.Holds b)
    (halive : Machine.Throughout (Exchange.next tokenType)
      (fun db x ↦ (x.next tokenType db).Holds b) db xs)
    (hys : List.Forall₂ Exchange.Repeats
      (Machine.purge (Exchange.next tokenType) (fun db x ↦ x.Of tokenType b db) db xs) ys) :
    Machine.Throughout (Exchange.next tokenType) (fun db x ↦ x.Of tokenType b db) db ys ∧
      List.Forall₂ Response.Same
        (Machine.ownAnswers (Exchange.next tokenType)
          (fun db x ↦ (x.serve tokenType db).response) (fun db x ↦ x.Of tokenType b db) db xs)
        (Machine.answers (Exchange.next tokenType)
          (fun db x ↦ (x.serve tokenType db).response) db ys) ∧
      ∃ r, r.id = b ∧ r ∈ (serveAll tokenType db xs).rows ∧
        r ∈ (serveAll tokenType db ys).rows := by
  obtain ⟨r, hr, hid⟩ := hb
  obtain ⟨hrow, hown, hsame⟩ := (unwinding tokenType b).run_purge ⟨r, hid, hr, hr⟩ halive hys
  exact ⟨hown, hsame, hrow⟩

/-- Bob signs up, alice adds a list, somebody tries to sign up under her name, and bob adds the same
list. -/
def aliceAmongOthers : List Exchange :=
  [bobSignsUp.quietly, aliceAddsTodo.quietly, otherAliceSignsUp.quietly, bobAddsTodo.quietly]

/-- Alice adds the list, a minute later. -/
def aliceAlone : List Exchange :=
  [⟨aliceAddsTodo, .quiet, Environment.quiet.retimed 60 "1"⟩]

theorem account_isolated_alice :
    List.Forall₂ Response.Same
        (Machine.ownAnswers (Exchange.next "jws") (fun db x ↦ (x.serve "jws" db).response)
          (fun db x ↦ x.Of "jws" 1 db) (serveAll "jws" .empty [aliceSignsUp.quietly])
          aliceAmongOthers)
        (Machine.answers (Exchange.next "jws") (fun db x ↦ (x.serve "jws" db).response)
          (serveAll "jws" .empty [aliceSignsUp.quietly]) aliceAlone) ∧
      ∃ r, r.id = 1 ∧
        r ∈ (serveAll "jws" (serveAll "jws" .empty [aliceSignsUp.quietly]) aliceAmongOthers).rows ∧
        r ∈ (serveAll "jws" (serveAll "jws" .empty [aliceSignsUp.quietly]) aliceAlone).rows := by
  have hpurge : Machine.purge (Exchange.next "jws") (fun db x ↦ x.Of "jws" 1 db)
      (serveAll "jws" .empty [aliceSignsUp.quietly]) aliceAmongOthers =
        [aliceAddsTodo.quietly] := by
    decide +kernel
  have hys : List.Forall₂ Exchange.Repeats (Machine.purge (Exchange.next "jws")
      (fun db x ↦ x.Of "jws" 1 db) (serveAll "jws" .empty [aliceSignsUp.quietly]) aliceAmongOthers)
      aliceAlone := by
    rw [hpurge]
    exact .cons ⟨rfl, rfl, 60, "1", rfl⟩ .nil
  have halive : Machine.Throughout (Exchange.next "jws") (fun db x ↦ (x.next "jws" db).Holds 1)
      (serveAll "jws" .empty [aliceSignsUp.quietly]) aliceAmongOthers :=
    ⟨by decide +kernel, by decide +kernel, by decide +kernel, by decide +kernel, trivial⟩
  exact (account_isolated (by decide +kernel) halive hys).2

end DseAuth
