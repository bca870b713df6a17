import DseAuth.Properties.WriteBack

/-!
# What is reported when something is wrong

Two places where the service has an answer ready for the case that something is wrong, and where
the answer is not the one that is given.

* `JWTAuthenticator.authenticate` catches what a cast, a claim and the database may throw, and
  answers with no principal or with an `AuthenticationException`. Two exceptions are not among those
  it catches, and **`authenticate_reports_iff`** says for which claims one of them gets out.
* The handlers that write an account answer 404 where the data access object returns false. For an
  account that was deleted under the request it returns true, and what happens shows at the commit.
  **`gone_account_reported_iff`** says when the 404 is given all the same.
-/

namespace DseAuth

/-! ### Tokens with odd claims -/

/-- The subject is a decimal `int`. -/
def JwtClaims.SubjectIsInt (claims : JwtClaims) : Prop :=
  ∃ sub id, claims.getSubject = .ok (some sub) ∧ JavaInteger.parseInt sub = some id

/-- The claims the authenticator reads are there, and of the right type. -/
structure JwtClaims.WellTyped (claims : JwtClaims) : Prop where
  /-- The subject is a decimal `int`. -/
  subject : claims.SubjectIsInt
  /-- The username is a string. -/
  username : ∃ s, claims.getClaimValue "username" = .string s
  /-- The privileges are an array. -/
  privileges : ∃ elements, claims.getClaimValue "privileges" = .array elements

/-- The answers the JWT authenticator is meant to give. -/
inductive JWTAuthenticator.Permitted (env : Environment) (claims : JwtClaims) (db : Database) :
    Except JavaException (Option User) → Prop
  /-- `Optional.empty`. -/
  | empty : Permitted env claims db (.ok none)
  /-- A stored user with the username and the privileges of the claims. -/
  | user {r : UserRow} {elements : List Json} (hr : r ∈ db.rows)
      (husername : claims.getClaimValue "username" = .string r.username)
      (hprivileges : claims.getClaimValue "privileges" = .array elements)
      (hmem : ∀ j, j ∈ elements ↔ ∃ p ∈ r.privileges, Json.string p = j) :
      Permitted env claims db (.ok (some r.load))
  /-- The database is unavailable. -/
  | unavailable (hlookup : env.lookupFails = true) :
      Permitted env claims db (.error (.authentication "database unavailable"))

/-- The authenticator never breaks on the claims: its answer is permitted, and it is empty where a
claim is missing or of the wrong type. -/
structure JWTAuthenticator.NeverBreaks (env : Environment) (claims : JwtClaims) (db : Database) :
    Prop where
  /-- The answer is permitted. -/
  permitted :
    Permitted env claims db (authenticate env claims (Session.openSession db))
  /-- Claims that are not well typed authenticate nobody. -/
  empty : ¬ claims.WellTyped → authenticate env claims (Session.openSession db) = .ok none

/-- The claims that the authenticator is prepared for. -/
structure JwtClaims.Expected (claims : JwtClaims) : Prop where
  /-- The subject parses. -/
  subject : claims.SubjectIsInt
  /-- Where there are no privileges, the cast of the username fails before they are read. -/
  privileges : claims.getClaimValue "privileges" = .null →
    ∀ name, claims.getClaimValue "username" ≠ Json.ofNullable name
  /-- Where there is no username, the cast of the privileges fails before it is looked up. -/
  username : claims.getClaimValue "username" = .null →
    ∀ elements, claims.getClaimValue "privileges" ≠ .array elements

/-- Claims that are well typed are among them. -/
theorem JwtClaims.WellTyped.expected {claims : JwtClaims} (h : claims.WellTyped) :
    claims.Expected := by
  obtain ⟨name, hname⟩ := h.username
  obtain ⟨elements, helements⟩ := h.privileges
  refine ⟨h.subject, fun hnull ↦ ?_, fun hnull ↦ ?_⟩
  · cases helements.symm.trans hnull
  · cases hname.symm.trans hnull

variable {tokenType : String}

/-- **When the JWT authenticator reports odd claims as it should**, for claims that the consumer has
let through. -/
theorem authenticate_reports_iff (env : Environment) (db : Database) {now : ℤ} {token : Token}
    {claims : JwtClaims} (h : JwtConsumer.process tokenType now token = some claims) :
    JWTAuthenticator.NeverBreaks env claims db ↔ claims.Expected := by
  obtain ⟨sub, hsubject⟩ := JwtConsumer.subject_of_process h
  have hanswer := @JWTAuthenticator.authenticate_answer env claims db sub hsubject
  have hint {id : ℤ} (hparse : JavaInteger.parseInt sub = some id) : claims.SubjectIsInt :=
    ⟨sub, id, hsubject, hparse⟩
  constructor
  · intro h
    obtain ⟨hpermitted, hempty⟩ := h
    generalize JWTAuthenticator.authenticate env claims (Session.openSession db) = answer
      at hanswer hpermitted hempty
    cases hanswer with
    | notNumber => cases hpermitted
    | wrongUsername hparse husername =>
      exact ⟨hint hparse, fun _ ↦ husername, fun hnull ↦ absurd hnull (husername none)⟩
    | noPrivileges => cases hpermitted
    | wrongPrivileges hparse hnull harray =>
      exact ⟨hint hparse, fun h ↦ absurd h hnull, fun _ ↦ harray⟩
    | noUsername _ husername =>
      -- the answer is not empty, so that nothing could be wrong with the claims
      have htyped : claims.WellTyped := by
        by_contra hne
        cases hempty hne
      obtain ⟨name, hname⟩ := htyped.username
      cases husername.symm.trans hname
    | unavailable hparse husername hprivileges =>
      exact JwtClaims.WellTyped.expected ⟨hint hparse, ⟨_, husername⟩, _, hprivileges⟩
    | refused hparse husername hprivileges =>
      exact JwtClaims.WellTyped.expected ⟨hint hparse, ⟨_, husername⟩, _, hprivileges⟩
    | found _ hclaims =>
      obtain ⟨elements, hprivileges, -⟩ := hclaims.privileges
      exact JwtClaims.WellTyped.expected
        ⟨hclaims.subject, ⟨_, hclaims.username⟩, elements, hprivileges⟩
  · intro h
    suffices hgoal : JWTAuthenticator.Permitted env claims db
        (JWTAuthenticator.authenticate env claims (Session.openSession db)) ∧
        (¬ claims.WellTyped →
          JWTAuthenticator.authenticate env claims (Session.openSession db) = .ok none) from
      ⟨hgoal.1, hgoal.2⟩
    generalize JWTAuthenticator.authenticate env claims (Session.openSession db) = answer
      at hanswer ⊢
    cases hanswer with
    | notNumber hparse =>
      obtain ⟨sub', id, hsubject', hparse'⟩ := h.subject
      obtain rfl := Option.some.inj (Except.ok.inj (hsubject.symm.trans hsubject'))
      cases hparse.symm.trans hparse'
    | wrongUsername => exact ⟨.empty, fun _ ↦ rfl⟩
    | noPrivileges _ husername hprivileges =>
      exact absurd husername (h.privileges hprivileges _)
    | wrongPrivileges => exact ⟨.empty, fun _ ↦ rfl⟩
    | noUsername _ husername hprivileges =>
      exact absurd hprivileges (h.username husername _)
    | unavailable hparse husername hprivileges hlookup =>
      exact ⟨.unavailable hlookup, fun hne ↦
        absurd ⟨hint hparse, ⟨_, husername⟩, _, hprivileges⟩ hne⟩
    | refused => exact ⟨.empty, fun _ ↦ rfl⟩
    | found hr hclaims _ =>
      obtain ⟨elements, hprivileges, hmem⟩ := hclaims.privileges
      refine ⟨.user hr hclaims.username hprivileges hmem, fun hne ↦ absurd ?_ hne⟩
      exact ⟨hclaims.subject, ⟨_, hclaims.username⟩, elements, hprivileges⟩

theorem authenticate_reports_iff_alice :
    JWTAuthenticator.NeverBreaks .quiet aliceClaims .empty := by
  have hprocess : JwtConsumer.process "jws" 0 (.jws aliceClaims) = some aliceClaims := by
    decide +kernel
  refine (authenticate_reports_iff .quiet .empty hprocess).2 ⟨?_, fun hnull ↦ ?_, fun hnull ↦ ?_⟩
  · exact ⟨"1", 1, rfl, by decide +kernel⟩
  · have harray : aliceClaims.getClaimValue "privileges" = .array [] := rfl
    cases harray.symm.trans hnull
  · have hname : aliceClaims.getClaimValue "username" = .string "alice" := rfl
    cases hname.symm.trans hnull

/-- The claims of alice, with her name for a subject. -/
def aliceBySubject : JwtClaims where
  claimsMap :=
    [("sub", .string "alice"), ("privileges", .array []), ("username", .string "alice"),
      ("exp", .number 2700 0)]

/-- The consumer lets them through, and the authenticator throws a `NumberFormatException`. -/
theorem subject_without_number_breaks :
    JwtConsumer.process "jws" 0 (.jws aliceBySubject) = some aliceBySubject ∧
      JWTAuthenticator.authenticate .quiet aliceBySubject (Session.openSession .empty) =
        .error .numberFormat ∧
      ¬ JWTAuthenticator.NeverBreaks .quiet aliceBySubject .empty := by
  have hthrows : JWTAuthenticator.authenticate .quiet aliceBySubject (Session.openSession .empty) =
      .error .numberFormat := by
    decide +kernel
  refine ⟨by decide +kernel, hthrows, fun h ↦ ?_⟩
  have hpermitted := h.permitted
  rw [hthrows] at hpermitted
  cases hpermitted

/-! ### Accounts that are gone -/

/-- The requests that write an account back or delete it. -/
def Operation.WritesOrDeletes (operation : Operation) : Prop :=
  operation.Writes ∨ operation = .deleteUser

/-- What the data access object returns to the method, if the method gets to it. -/
def Operation.returned (env : Environment) (user : User) (s : Session) : Operation → Option Bool
  | .deleteUser => some (UserDAO.deleteUser env user s).1
  | operation => (operation.updated user).map fun u ↦ (UserDAO.updateUser env u s).1

/-- The method gets to the data access object: its body, if it has one, is readable and valid, and
names the caller where it names somebody. -/
def Operation.Reaches (user : User) (operation : Operation) : Prop :=
  operation = .deleteUser ∨ ∃ u, operation.updated user = some u

/-- The request is answered as it is documented for an account that is not there. -/
structure Event.ReportedGone (e : Event tokenType) (user : User) (operation : Operation) :
    Prop where
  /-- The data access object returns false. -/
  returned : operation.returned e.env user (Session.openSession e.before) = some false
  /-- The answer is the 404 of the documentation, without a token. -/
  response : e.outcome.response = ⟨404, .text "User not found!"⟩
  /-- Nothing changes, neither the account nor another one of the name. -/
  unchanged : e.outcome.db = e.before

section

variable {env : Environment} {db : Database} {user : User} {operation : Operation}

theorem Operation.returned_of_ne {s : Session} (h : operation ≠ .deleteUser) :
    operation.returned env user s =
      (operation.updated user).map fun u ↦ (UserDAO.updateUser env u s).1 := by
  cases operation with
  | deleteUser => exact absurd rfl h
  | _ => rfl

/-- Nothing is returned to a method that does not get to the data access object. -/
theorem Operation.reaches_of_returned {s : Session} {result : Bool}
    (h : operation.returned env user s = some result) : operation.Reaches user := by
  by_cases hdelete : operation = .deleteUser
  · exact Or.inl hdelete
  · rw [Operation.returned_of_ne hdelete] at h
    obtain ⟨u, hu, -⟩ := Option.map_eq_some_iff.1 h
    exact Or.inr ⟨u, hu⟩

/-- Without a row of its id a user cannot be written back. -/
theorem not_update_of_gone {u : User} (hgone : ∀ r ∈ db.rows, r.id ≠ u.id) :
    ¬ (Works tokenType env ∧ ∃ db', db.update u = some db') := by
  intro h
  obtain ⟨-, db', hupdate⟩ := h
  obtain ⟨⟨⟨r, hr, hid, -⟩, -⟩, -⟩ := Database.update_eq_some_iff.1 hupdate
  exact hgone r hr hid

/-- The refusal is the documented one only where the session has thrown. -/
theorem refusalResponse_eq_iff :
    refusalResponse env = ⟨404, .text "User not found!"⟩ ↔
      env.writeFails = true ∧ env.commitFails = false := by
  rw [refusalResponse, readOnlyResponse]
  rcases env.writeFails with _ | _
  · simp
  · rcases env.commitFails with _ | _
    · simp
    · refine iff_of_false (fun h ↦ ?_) (by simp)
      cases h

/-- A deletion of an account that is gone comes to what an update of it comes to. -/
theorem unitOfWork_deleteUser_of_gone (hgone : ∀ r ∈ db.rows, r.id ≠ user.id) :
    unitOfWork env (UserResource.deleteUser env user) db = ⟨refusalResponse env, db, []⟩ := by
  rcases hwrite : env.writeFails with _ | _
  · have hdelete : (if env.commitFails then none else db.delete user) = none := by
      rcases h : (if env.commitFails then none else db.delete user) with _ | d
      · rfl
      · obtain ⟨r, hr, hid⟩ :=
          (Database.delete_eq_some_iff.1 (Option.ite_none_left_eq_some.1 h).2).1
        exact absurd hid (hgone r hr)
    rw [unitOfWork_deleteUser user hwrite, hdelete, refusalResponse, hwrite]
    rfl
  · rw [unitOfWork_deleteUser_of_writeFails user hwrite, refusalResponse, hwrite]
    rfl

/-- **What becomes of a write to an account that is gone**: it changes nothing and is answered
without a token, and if the method gets to the data access object the answer is the refusal. -/
theorem Operation.handle_of_gone (hwrites : operation.WritesOrDeletes)
    (hgone : ∀ r ∈ db.rows, r.id ≠ user.id) :
    ((Call.bearer user operation).handle tokenType env db).db = db ∧
      (∀ token, ((Call.bearer user operation).handle tokenType env db).response.entity ≠
        .token token) ∧
      (operation.Reaches user →
        ((Call.bearer user operation).handle tokenType env db).response = refusalResponse env ∧
          operation.returned env user (Session.openSession db) = some (!env.writeFails)) := by
  by_cases hdelete : operation = .deleteUser
  · obtain rfl := hdelete
    have hhandle : (Call.bearer user .deleteUser).handle tokenType env db =
        ⟨refusalResponse env, db, []⟩ := unitOfWork_deleteUser_of_gone hgone
    rw [hhandle]
    refine ⟨rfl, refusalResponse_ne.2, fun _ ↦ ⟨rfl, ?_⟩⟩
    rw [Operation.returned, UserDAO.deleteUser]
    rcases env.writeFails with _ | _ <;> rfl
  · rcases hupdated : operation.updated user with _ | u
    · have hnot : ¬ operation.Reaches user := by
        intro hreaches
        obtain h | ⟨u, hu⟩ := hreaches
        · exact hdelete h
        · cases hupdated.symm.trans hu
      obtain h | rfl | ⟨result, hrun, hresult⟩ := Operation.run_of_not_updated hupdated
      · exact absurd h hdelete
      · exact absurd hwrites (not_or.2 ⟨id, hdelete⟩)
      · have hhandle : (Call.bearer user operation).handle tokenType env db =
            ⟨readOnlyResponse env result, db, []⟩ :=
          unitOfWork_of_readOnly (hrun user rfl rfl env _)
        rw [hhandle]
        refine ⟨rfl, fun token htoken ↦ ?_, fun hreaches ↦ absurd hreaches hnot⟩
        rcases @readOnlyResponse_cases env result with h | ⟨-, hentity⟩
        · exact (hresult _ h).1 token htoken
        · cases hentity.symm.trans htoken
    · have hgone' : ∀ r ∈ db.rows, r.id ≠ u.id := by
        rw [(Operation.updated_keeps hupdated).1]
        exact hgone
      have hcall : (Call.bearer user operation).updated = some u := hupdated
      rw [Call.handle_of_updated hcall, updateAndReissue_of_not (not_update_of_gone hgone')]
      refine ⟨rfl, refusalResponse_ne.2, fun _ ↦ ⟨rfl, ?_⟩⟩
      rw [Operation.returned_of_ne hdelete, hupdated, Option.map_some, UserDAO.updateUser]
      rcases env.writeFails with _ | _ <;> rfl

end

/-- **When a write to an account that is gone is reported as documented.** In every schedule, a
request that was let through as an account and finds no row of it when it is handled changes nothing
and gets no token. The documented 404 is what it gets exactly where its method gets to the data
access object, the session throws at the call, and the commit goes through. -/
theorem gone_account_reported_iff (db : Database) (steps : List Step) :
    ∀ e ∈ ((State.start tokenType db).run steps).log, ∀ user operation,
      e.call = .bearer user operation → operation.WritesOrDeletes →
        (∀ r ∈ e.before.rows, r.id ≠ user.id) →
          (e.outcome.db = e.before ∧ ∀ token, e.outcome.response.entity ≠ .token token) ∧
            (e.ReportedGone user operation ↔
              operation.Reaches user ∧ e.env.writeFails = true ∧ e.env.commitFails = false) := by
  intro e _ user operation hcall hwrites hgone
  obtain ⟨hdb, htoken, hreach⟩ :=
    @Operation.handle_of_gone tokenType e.env e.before user operation hwrites hgone
  have houtcome : e.outcome = (Call.bearer user operation).handle tokenType e.env e.before := by
    rw [Event.outcome, hcall]
  rw [← houtcome] at hdb htoken hreach
  refine ⟨⟨hdb, htoken⟩, ?_⟩
  constructor
  · intro h
    have hreaches : operation.Reaches user := Operation.reaches_of_returned h.returned
    refine ⟨hreaches, ?_⟩
    rw [← refusalResponse_eq_iff, ← (hreach hreaches).1]
    exact h.response
  · intro h
    obtain ⟨hreaches, hwrite, hcommit⟩ := h
    obtain ⟨hresponse, hreturned⟩ := hreach hreaches
    refine ⟨?_, hresponse.trans (refusalResponse_eq_iff.2 ⟨hwrite, hcommit⟩), hdb⟩
    rw [hreturned, hwrite]
    rfl

/-- Alice starts to add a privilege and deletes her account before that is handled, in an
environment of its own. -/
def deletedUnderway (env : Environment) : List Step :=
  oneAtATime [aliceSignsUp.quietly] ++
    [.authenticate .quiet aliceAddsTodo,
      .authenticate .quiet (.bearer (.jws aliceClaims) .deleteUser), .handle 1 .quiet,
      .handle 0 env]

/-- The request that was overtaken, as an event. -/
def aliceOvertaken (env : Environment) : Event "jws" :=
  { aliceAddingTodo with
    env := env
    before := ((State.start "jws" .empty).run (oneAtATime [aliceSignsUp.quietly] ++
      [.authenticate .quiet aliceAddsTodo,
        .authenticate .quiet (.bearer (.jws aliceClaims) .deleteUser), .handle 1 .quiet])).db }

theorem gone_account_reported_iff_alice :
    (aliceOvertaken { Environment.quiet with writeFails := true }).outcome.response =
      ⟨404, .text "User not found!"⟩ := by
  have hlog : aliceOvertaken { Environment.quiet with writeFails := true } ∈
      ((State.start "jws" .empty).run
        (deletedUnderway { Environment.quiet with writeFails := true })).log :=
    List.mem_cons_self
  have hgone : ∀ r ∈ (aliceOvertaken { Environment.quiet with writeFails := true }).before.rows,
      r.id ≠ 1 := by
    decide +kernel
  have hiff := gone_account_reported_iff .empty _ _ hlog
    ⟨1, "alice", "alice@a", "secret", PersistentSet.load []⟩ _ rfl (Or.inl trivial) hgone
  exact (hiff.2.2 ⟨Or.inr ⟨_, rfl⟩, rfl, rfl⟩).response

/-- Where nothing fails, the data access object returns true and the answer is 500. -/
theorem gone_account_answered_500 :
    ((State.start "jws" .empty).run (deletedUnderway .quiet)).log.head?.map
        (fun e ↦ (e.request, e.before.rows, e.outcome.response)) =
      some (aliceAddsTodo, [], ⟨500, .framework⟩) ∧
    (Operation.addPrivileges (.value [some "todo"])).returned .quiet
        ⟨1, "alice", "alice@a", "secret", PersistentSet.load []⟩
        (Session.openSession (aliceOvertaken .quiet).before) = some true ∧
      ¬ (aliceOvertaken .quiet).ReportedGone
        ⟨1, "alice", "alice@a", "secret", PersistentSet.load []⟩
        (.addPrivileges (.value [some "todo"])) := by
  refine ⟨by decide +kernel, by decide +kernel, fun h ↦ ?_⟩
  have hreturned := h.returned
  have htrue : (Operation.addPrivileges (.value [some "todo"])).returned .quiet
      ⟨1, "alice", "alice@a", "secret", PersistentSet.load []⟩
      (Session.openSession (aliceOvertaken .quiet).before) = some true := by
    decide +kernel
  cases htrue.symm.trans hreturned

end DseAuth
