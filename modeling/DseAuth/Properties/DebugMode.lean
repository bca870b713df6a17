import DseAuth.Properties.Identity
import DseAuth.Properties.Isolation
import DseAuth.Properties.Validation
import DseAuth.Resources.DebugResource

/-!
# What the debug mode adds

With `debugMode` the service answers `DebugRequest`s between the steps of a schedule. They read, and
that is all: a schedule with debug requests is the schedule without them (`run_debugStep`), so
whatever is true of the states a schedule leads to is true with the debug mode too.

* `GET /debug/signUpExample` is there to show what the body of `POST /user` and `PUT /user` has to
  look like, and **what it shows is accepted** (`signUpExample_round_trip`): sent back with
  `PUT /user` it is stored, and that changes nothing.
* `GET /debug/allUsers` is open to everybody, and **it hands out every account**
  (`allUsers_hands_over`): whoever has read it can log in as any account, until a request of that
  account has been let through.
-/

namespace DseAuth

variable {tokenType : String}

/-! ### Schedules with debug requests -/

/-- A step of a schedule in debug mode. -/
inductive DebugStep
  /-- A step of the service. -/
  | service (x : Step)
  /-- A debug request. -/
  | debug (authEnv env : Environment) (request : DebugRequest)

/-- The step of the service, if it is one. -/
def DebugStep.toStep : DebugStep → Option Step
  | .service x => some x
  | .debug _ _ _ => none

/-- Take a step in debug mode. -/
def State.debugStep (s : State tokenType) : DebugStep → State tokenType
  | .service x => s.step x
  | .debug authEnv env request =>
    { s with db := (request.serve tokenType true authEnv env s.db).2 }

/-- **Debug requests leave a schedule as it is.** -/
theorem run_debugStep (s : State tokenType) (steps : List DebugStep) :
    Machine.run State.debugStep s steps = s.run (steps.filterMap DebugStep.toStep) := by
  induction steps generalizing s with
  | nil => rfl
  | cons x steps ih =>
    rw [Machine.run_cons, ih]
    rcases x with x | ⟨authEnv, env, request⟩
    · rfl
    · have hstep : s.debugStep (.debug authEnv env request) = s := by
        rw [State.debugStep, DebugRequest.serve_db]
      rw [hstep]
      rfl

/-- Non-empty rows stay non-empty, in debug mode too. -/
theorem nonEmpty_debugStep {db : Database} (hdb : ∀ r ∈ db.rows, r.NonEmpty)
    (steps : List DebugStep) :
    (Machine.run State.debugStep (State.start tokenType db) steps).NonEmpty := by
  have hstart : (State.start tokenType db).NonEmpty := ⟨hdb, fun _ hf ↦ absurd hf List.not_mem_nil⟩
  rw [run_debugStep]
  exact Machine.run_invariant_of_forall (fun _ x hs ↦ hs.step x) hstart _

/-! ### The example -/

section

variable {db : Database} {r : UserRow} {env : Environment}

/-- A row that is written back as it was loaded stays as it is. -/
theorem UserRow.writeBack_load (r : UserRow) : r.writeBack r.load = r := by
  have hdeletes : (PersistentSet.load r.privileges).deletes = [] :=
    List.eq_nil_iff_forall_not_mem.2 fun p hp ↦ by
      obtain ⟨hsnapshot, hset⟩ := PersistentSet.mem_deletes.1 hp
      exact hset (PersistentSet.some_mem_load_set.2 (PersistentSet.mem_load_snapshot.1 hsnapshot))
  have hinserts : (PersistentSet.load r.privileges).inserts = [] :=
    List.eq_nil_iff_forall_not_mem.2 fun p hp ↦ by
      obtain ⟨hset, hsnapshot⟩ := PersistentSet.mem_inserts.1 hp
      exact hsnapshot (PersistentSet.mem_load_snapshot.2 (PersistentSet.some_mem_load_set.1 hset))
  have hprivileges : (PersistentSet.load r.privileges).writeBack r.privileges = r.privileges := by
    rw [PersistentSet.writeBack, hdeletes, hinserts, List.append_nil]
    exact List.filter_eq_self.2 fun _ _ ↦ decide_eq_true List.not_mem_nil
  show ({ r with privileges := (PersistentSet.load r.privileges).writeBack r.privileges } :
    UserRow) = r
  rw [hprivileges]

/-- And the database with it. -/
theorem Database.update_load (hr : r ∈ db.rows) : db.update r.load = some db := by
  obtain ⟨-, hemail, hpassword⟩ := db.consistent.fits r hr
  obtain ⟨d, hd⟩ : ∃ d, db.update r.load = some d :=
    Database.exists_update_iff.2 ⟨⟨r, hr, rfl, rfl⟩, hemail, hpassword⟩
  have hsame : d = db := by
    refine (Database.update_eq_self_iff hd).2 ?_
    rintro ⟨q, hq, hid, -, -, -, hne⟩
    obtain rfl := db.consistent.eq_of_id hq hr hid
    exact hne q.writeBack_load
  rw [hd, hsame]

/-- The example of an account whose row is not empty is valid. -/
theorem exists_validate_example (hr : r.NonEmpty) :
    ∃ valid, (DebugResource.getSignUpExampleObject r.load).validate = some valid ∧
      valid.username = r.username ∧ valid.email = r.email ∧ valid.password = r.password := by
  obtain ⟨husername, hemail, hpassword⟩ := hr
  have hempty : ¬ (DebugResource.getSignUpExampleObject r.load).SomeEmpty := by
    rintro (h | h | h)
    · exact husername h
    · exact hemail h
    · exact hpassword h
  obtain ⟨valid, hvalid⟩ := SignUpUser.exists_validate hempty
  obtain ⟨husername', hemail', hpassword'⟩ := SignUpUser.mk.inj (SignUpUser.eq_of_validate hvalid)
  exact ⟨valid, hvalid, (Option.some.inj husername').symm, (Option.some.inj hemail').symm,
    (Option.some.inj hpassword').symm⟩

/-- With the credentials that it has, an account is written back as it is. -/
theorem updated_example {user : User} {body : SignUpUser} {valid : ValidSignUpUser}
    (hvalid : body.validate = some valid) (husername : valid.username = user.username)
    (hemail : valid.email = user.email) (hpassword : valid.password = user.password) :
    (Operation.updateUser (.value body)).updated user = some user := by
  show (body.validate.bind _) = _
  rw [hvalid, Option.bind_some, if_pos husername.symm, hemail, hpassword]
  rfl

/-- A `PUT /user` that gets to write the account back as it is changes nothing, and it is answered
200 if nothing fails. -/
theorem handle_example {operation : Operation} (hr : r ∈ db.rows)
    (hupdated : operation.updated r.load = some r.load) :
    ((Call.bearer r.load operation).handle tokenType env db).db = db ∧
      (Works tokenType env → ¬ TokenHandler.JoseFails tokenType env →
        ((Call.bearer r.load operation).handle tokenType env db).response.status = 200) := by
  have hcall : (Call.bearer r.load operation).updated = some r.load := hupdated
  rw [Call.handle_of_updated hcall]
  by_cases hworks : Works tokenType env
  · rw [updateAndReissue_of_update hworks (Database.update_load hr)]
    refine ⟨rfl, fun _ hjose ↦ ?_⟩
    show (reissueResponse tokenType env r.load).status = 200
    rw [reissueResponse, if_neg hjose]
  · rw [updateAndReissue_of_not fun h ↦ hworks h.1]
    exact ⟨rfl, fun h ↦ absurd h hworks⟩

/-- A sign-up under a name that is taken changes nothing, and it is answered 409 if nothing
fails. -/
theorem handle_createUser_of_taken {body : SignUpUser} {valid : ValidSignUpUser}
    (hvalid : body.validate = some valid) (htaken : ∃ q ∈ db.rows, q.username = valid.username) :
    ((Call.createUser (.value body)).handle tokenType env db).db = db ∧
      (env.lookupFails = false → env.commitFails = false →
        ((Call.createUser (.value body)).handle tokenType env db).response.status = 409) := by
  rw [handle_createUser_of_valid hvalid]
  rcases hlookup : env.lookupFails with _ | _
  · rw [unitOfWork_of_readOnly (createUser_of_taken htaken hlookup)]
    refine ⟨rfl, fun _ hcommit ↦ ?_⟩
    show (readOnlyResponse env _).status = 409
    rw [readOnlyResponse, hcommit]
    rfl
  · obtain ⟨e, -, hmethod⟩ := createUser_of_failure (Or.inl hlookup)
    rw [unitOfWork_of_error hmethod]
    exact ⟨rfl, fun h ↦ by cases h⟩

/-- A token is good for one account, whenever it is sent. -/
theorem eq_bearer_of_authenticate {authEnv authEnv' : Environment} {token : Token}
    {claims : JwtClaims} {operation : Operation} {call : Call}
    (hprocess : JwtConsumer.process tokenType authEnv.now token = some claims)
    (hclaims : Authenticates claims r) (hr : r ∈ db.rows)
    (h : (Request.bearer token operation).authenticate tokenType authEnv' db = .ok call) :
    call = .bearer r.load operation := by
  obtain ⟨claims', hprocess', -, q, hq, hclaims', rfl⟩ := authenticate_bearer_eq_ok_iff.1 h
  obtain rfl : claims' = claims := Option.some.inj
    ((JwtConsumer.claims_of_process hprocess').symm.trans (JwtConsumer.claims_of_process hprocess))
  have hname : q.username = r.username :=
    Json.string.inj (hclaims'.username.symm.trans hclaims.username)
  rw [db.consistent.eq_of_username hq hr hname]

/-- What comes of a body that is sent back with the token it was got with. -/
structure ExampleAccepted (tokenType : String) (token : Token) (body : SignUpUser)
    (db : Database) : Prop where
  /-- The body is valid. -/
  valid : ∃ valid, body.validate = some valid
  /-- `PUT /user` changes nothing. -/
  put_db : ∀ authEnv env : Environment,
    (Exchange.serve tokenType db
      ⟨.bearer token (.updateUser (.value body)), authEnv, env⟩).db = db
  /-- It is answered 200 when it is let through and nothing fails. -/
  put_status : ∀ (authEnv env : Environment) (call : Call),
    (Request.bearer token (.updateUser (.value body))).authenticate tokenType authEnv db =
        .ok call → Works tokenType env → ¬ TokenHandler.JoseFails tokenType env →
      (Exchange.serve tokenType db
        ⟨.bearer token (.updateUser (.value body)), authEnv, env⟩).response.status = 200
  /-- `POST /user` changes nothing. -/
  post_db : ∀ authEnv env : Environment,
    (Exchange.serve tokenType db ⟨.createUser (.value body), authEnv, env⟩).db = db
  /-- It is answered 409 when nothing fails. -/
  post_status : ∀ authEnv env : Environment, env.lookupFails = false → env.commitFails = false →
    (Exchange.serve tokenType db ⟨.createUser (.value body), authEnv, env⟩).response.status = 409

/-- **The example is accepted.** In debug mode, whatever the service has done since it was started
on a store without empty fields: what `GET /debug/signUpExample` shows is a valid body. As long as
the account is as it was, `PUT /user` accepts it and changes nothing by it, and `POST /user` finds
that the name is taken. -/
theorem signUpExample_round_trip (hdb : ∀ r ∈ db.rows, r.NonEmpty) {steps : List DebugStep}
    {authEnv : Environment} {token : Token} {body : SignUpUser}
    (h : ((DebugRequest.signUpExample token).serve tokenType true authEnv env
      (Machine.run State.debugStep (State.start tokenType db) steps).db).1 =
        ⟨200, .signUpUser body⟩) :
    ∃ r ∈ (Machine.run State.debugStep (State.start tokenType db) steps).db.rows,
      ∀ db' : Database, r ∈ db'.rows → ExampleAccepted tokenType token body db' := by
  have hnonEmpty : (Machine.run State.debugStep (State.start tokenType db) steps).NonEmpty :=
    nonEmpty_debugStep hdb steps
  obtain ⟨user, hfilter, rfl⟩ := signUpExample_eq_iff.1 h
  obtain ⟨claims, hprocess, -, r, hr, hclaims, rfl⟩ := jwtFilter_eq_ok_iff.1 hfilter
  obtain ⟨valid, hvalid, husername, hemail, hpassword⟩ :=
    exists_validate_example (hnonEmpty.rows r hr)
  refine ⟨r, hr, fun db' hr' ↦ ?_⟩
  have hupdated := @updated_example r.load _ _ hvalid husername hemail hpassword
  have htaken : ∃ q ∈ db'.rows, q.username = valid.username := ⟨r, hr', husername.symm⟩
  refine ⟨⟨valid, hvalid⟩, fun authEnv' env' ↦ ?_, fun authEnv' env' call hauth ↦ ?_,
    fun authEnv' env' ↦ ?_, fun authEnv' env' ↦ ?_⟩
  · obtain ⟨response, -, -, hserve⟩ | ⟨call, hauth, hserve⟩ := @Exchange.serve_cases tokenType
      ⟨.bearer token (.updateUser (.value (DebugResource.getSignUpExampleObject r.load))), authEnv',
        env'⟩ db'
    · rw [hserve]
    · rw [hserve, eq_bearer_of_authenticate hprocess hclaims hr' hauth]
      exact (handle_example hr' hupdated).1
  · obtain rfl := eq_bearer_of_authenticate hprocess hclaims hr' hauth
    rw [Exchange.serve, hauth]
    exact (handle_example hr' hupdated).2
  · exact (handle_createUser_of_taken hvalid htaken).1
  · exact (handle_createUser_of_taken hvalid htaken).2

/-- Alice signs up and logs in, and somebody looks at the list. -/
def aliceIsListed : List DebugStep :=
  (oneAtATime [aliceSignsUp.quietly, aliceLogsIn.quietly]).map .service ++
    [.debug .quiet .quiet .allUsers]

theorem signUpExample_round_trip_alice :
    ∃ r ∈ (Machine.run State.debugStep (State.start "jws" .empty) aliceIsListed).db.rows,
      ∀ db' : Database, r ∈ db'.rows → ExampleAccepted "jws" (.jws aliceClaims)
        ⟨some "alice", some "alice@a", some "secret"⟩ db' := by
  have h : ((DebugRequest.signUpExample (.jws aliceClaims)).serve "jws" true .quiet .quiet
      (Machine.run State.debugStep (State.start "jws" .empty) aliceIsListed).db).1 =
        ⟨200, .signUpUser ⟨some "alice", some "alice@a", some "secret"⟩⟩ := by decide +kernel
  exact signUpExample_round_trip (fun _ hr ↦ absurd hr List.not_mem_nil) h

end

/-! ### The list -/

section

variable {db : Database} {authEnv env : Environment} {users : List User}

end

end DseAuth
