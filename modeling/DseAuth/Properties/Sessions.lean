import DseAuth.Properties.Identity
import DseAuth.Properties.Isolation

/-!
# Sessions

The service keeps no sessions. A client is let through because it holds a token, and it gets the
next token for the present one, so what stands behind a request is a chain of tokens. As long as
nobody but the service makes tokens that verify (`State.Forged`), three things are true of it.

* **Every chain starts with a password** (`sessions_rooted`): a request that is let through under a
  name was sent with the password of the account, or with a token that was issued less than 2730
  seconds ago to such a request; that is 45 minutes and the 30 seconds that the consumer allows for.
  Chains are by name and not by account, as the authenticator goes by the name alone.
* **A chain does not break** (`client_never_locked_out`): a client that always sends the newest
  token it has is let through where the transaction of the filter goes through, whatever it asks for
  and whatever the others do, unless signing or encryption fails or it adds a null.
* **Without a token type there are no chains** (`misconfigured_fails_closed`): a configuration with
  a `tokenType` that is neither `jws` nor `jwe` passes validation, and the service that is started
  with it takes sign-ups and does nothing else.
-/

namespace DseAuth

variable {tokenType : String} {n : String}

/-! ### Tokens in a schedule -/

/-- The token has been issued. -/
def State.Issued (s : State tokenType) (token : Token) : Prop :=
  ∃ e ∈ s.log, e.outcome.response.entity = .token token

/-- A token is presented that verifies, and that the service has not issued. -/
def State.Forged (s : State tokenType) : Step → Prop
  | .authenticate env (.bearer token _) =>
    (JwtConsumer.process tokenType env.now token).isSome ∧ ¬ s.Issued token
  | _ => False

/-- **What stands behind a request**: a password, or a token that was young enough and was issued
to a request that has such a thing behind it. -/
inductive InFlight.Rooted (log : List (Event tokenType)) (n : String) :
    InFlight tokenType → Prop
  /-- A login with the password of the account. -/
  | login {f : InFlight tokenType} {r : UserRow} (hr : r ∈ f.seen.rows) (hname : r.username = n)
      (hrequest : f.request = .login (some ⟨n, r.password⟩)) : InFlight.Rooted log n f
  /-- The use of a token. -/
  | renewal {f : InFlight tokenType} {e : Event tokenType} {token : Token} {operation : Operation}
      (he : e ∈ log) (htoken : e.outcome.response.entity = .token token)
      (hrequest : f.request = .bearer token operation)
      (hage : f.authEnv.now < e.env.now + 45 * 60 + 30)
      (hroot : InFlight.Rooted log n e.toInFlight) : InFlight.Rooted log n f

/-- What is known of the names that requests were let through under. -/
structure State.Rooted (s : State tokenType) : Prop where
  /-- Of the requests in flight. -/
  inFlight : ∀ f ∈ s.inFlight, ∀ n, f.call.principal = some n → f.Rooted s.log n
  /-- Of the answered requests. -/
  log : ∀ e ∈ s.log, ∀ n, e.call.principal = some n → e.toInFlight.Rooted s.log n

theorem InFlight.Rooted.mono {log log' : List (Event tokenType)} (hsub : log ⊆ log')
    {f : InFlight tokenType} (h : f.Rooted log n) : f.Rooted log' n := by
  induction h with
  | login hr hname hrequest => exact .login hr hname hrequest
  | renewal he htoken hrequest hage _ ih => exact .renewal (hsub he) htoken hrequest hage ih

/-- A token is issued under the name of the request that it answers. -/
theorem Call.principal_of_token {call : Call} {env : Environment} {db : Database} {token : Token}
    (h : (call.handle tokenType env db).response.entity = .token token) :
    ∃ name u, call.principal = some name ∧
      token = TokenHandler.tokenOf tokenType (TokenHandler.claimsFor env name u) := by
  obtain ⟨-, r, -, u, -, hname, htoken, hcall⟩ := Call.token_handle h
  refine ⟨r.username, u, ?_, htoken⟩
  obtain ⟨hreissues, -⟩ | ⟨hupdated, -⟩ := hcall
  · obtain rfl | ⟨user, rfl, huser⟩ := Call.exists_of_reissues hreissues
    · rfl
    · exact congrArg some huser
  · obtain ⟨user, operation, rfl, hoperation⟩ := Call.exists_of_updated hupdated
    obtain ⟨-, husername, -⟩ := Operation.updated_keeps hoperation
    exact congrArg some (husername.symm.trans hname)

/-- An issued token is let through under the name it was issued under, and not for long. -/
theorem age_of_process {env : Environment} {now : ℤ} {name : String} {u : User} {claims : JwtClaims}
    {r : UserRow} (hprocess : JwtConsumer.process tokenType now
      (TokenHandler.tokenOf tokenType (TokenHandler.claimsFor env name u)) = some claims)
    (hclaims : Authenticates claims r) : r.username = name ∧ now < env.now + 45 * 60 + 30 := by
  rw [JwtConsumer.process, TokenHandler.decrypt_tokenOf] at hprocess
  obtain ⟨hsome, hcheck⟩ := Option.filter_eq_some_iff.1 hprocess
  obtain rfl := Option.some.inj hsome
  rw [TokenHandler.check_claimsFor, decide_eq_true_eq] at hcheck
  have hname : Json.string r.username = .string name :=
    hclaims.username.symm.trans TokenHandler.username_claimsFor
  exact ⟨Json.string.inj hname, by omega⟩

/-- **A request that is let through has something behind it.** -/
theorem State.Rooted.authenticate {s : State tokenType} (h : s.Rooted) {env : Environment}
    {request : Request} {call : Call} (hauth : request.authenticate tokenType env s.db = .ok call)
    (hno : ¬ s.Forged (.authenticate env request)) (hn : call.principal = some n) :
    InFlight.Rooted s.log n ⟨request, env, s.db, call, hauth⟩ := by
  rcases call with body | name | ⟨user, operation⟩
  · cases hn
  · obtain rfl := Option.some.inj hn
    obtain ⟨r, hr, rfl, rfl⟩ := exists_of_authenticate_eq_login hauth
    exact .login hr rfl rfl
  · obtain ⟨token, claims, rfl, hprocess, -, r, hr, hclaims, rfl⟩ :=
      exists_of_authenticate_eq_bearer hauth
    have hissued : s.Issued token := by
      by_contra hnot
      exact hno ⟨by rw [hprocess]; rfl, hnot⟩
    obtain ⟨e, he, htoken⟩ := hissued
    obtain ⟨name, u, hprincipal, rfl⟩ := Call.principal_of_token htoken
    obtain ⟨hname, hage⟩ := age_of_process hprocess hclaims
    have hnn : name = n := hname.symm.trans (Option.some.inj hn)
    exact .renewal he htoken rfl hage (h.log e he n (hnn ▸ hprincipal))

theorem State.Rooted.step {s : State tokenType} (h : s.Rooted) {x : Step} (hno : ¬ s.Forged x) :
    (s.step x).Rooted := by
  rcases x with ⟨env, request⟩ | ⟨i, env⟩
  · rcases hauth : request.authenticate tokenType env s.db with response | call
    · rw [State.step_authenticate_of_error hauth]
      exact h
    · rw [State.step_authenticate_of_ok hauth]
      refine ⟨fun f hf m hm ↦ ?_, h.log⟩
      rcases List.mem_append.1 hf with hf | hf
      · exact h.inFlight f hf m hm
      · obtain rfl := List.mem_singleton.1 hf
        exact h.authenticate hauth hno hm
  · rcases hi : s.inFlight[i]? with _ | f
    · rw [State.step_handle_of_none hi]
      exact h
    · rw [State.step_handle_of_some hi]
      have hsub : s.log ⊆ { f with env := env, before := s.db } :: s.log :=
        List.subset_cons_self _ _
      refine ⟨fun g hg m hm ↦ (h.inFlight g (List.mem_of_mem_eraseIdx hg) m hm).mono hsub,
        fun e he m hm ↦ ?_⟩
      rcases List.mem_cons.1 he with rfl | he
      · exact (h.inFlight f (List.mem_of_getElem? hi) m hm).mono hsub
      · exact (h.log e he m hm).mono hsub

/-- **Every session goes back to a password.** In every schedule, from any store, in which no token
is presented that verifies and was not issued in it: each request that was let through under the
name `n` was a login with the password of the account, or carried a token that had been issued less
than 2730 seconds before to a request of which the same is true. -/
theorem sessions_rooted {db : Database} {steps : List Step}
    (hno : Machine.Throughout State.step (fun s x ↦ ¬ s.Forged x) (State.start tokenType db) steps)
    {f : InFlight tokenType} (hf : f ∈ ((State.start tokenType db).run steps).inFlight ∨
      ∃ e ∈ ((State.start tokenType db).run steps).log, e.toInFlight = f)
    (hn : f.call.principal = some n) :
    f.Rooted ((State.start tokenType db).run steps).log n := by
  have hstart : (State.start tokenType db).Rooted :=
    ⟨fun _ hf ↦ absurd hf List.not_mem_nil, fun _ he ↦ absurd he List.not_mem_nil⟩
  have hstep (s : State tokenType) (x : Step) (hs : s.Rooted) (hx : ¬ s.Forged x) :
      (s.step x).Rooted := hs.step hx
  have hrun : ((State.start tokenType db).run steps).Rooted :=
    Machine.run_invariant hstep hstart hno
  obtain hf | ⟨e, he, rfl⟩ := hf
  · exact hrun.inFlight f hf n hn
  · exact hrun.log e he n hn

/-- Alice logs in, and begins to add a list with the token. -/
def loginThenAdd : List Step :=
  oneAtATime [aliceLogsIn.quietly] ++ [.authenticate .quiet aliceAddsTodo]

theorem sessions_rooted_todo : aliceAddingTodo.Rooted
    ((State.start "jws" (serveAll "jws" .empty [aliceSignsUp.quietly])).run loginThenAdd).log
    "alice" := by
  have hissued : State.Issued ((State.start "jws" (serveAll "jws" .empty
      [aliceSignsUp.quietly])).run (oneAtATime [aliceLogsIn.quietly])) (.jws aliceClaims) :=
    ⟨aliceLogin (serveAll "jws" .empty [aliceSignsUp.quietly]), List.mem_cons_self,
      by decide +kernel⟩
  have hno : Machine.Throughout State.step (fun s x ↦ ¬ s.Forged x)
      (State.start "jws" (serveAll "jws" .empty [aliceSignsUp.quietly])) loginThenAdd :=
    ⟨id, id, fun hforged ↦ hforged.2 hissued, trivial⟩
  exact sessions_rooted hno (Or.inl List.mem_cons_self) rfl

/-! ### A client with its newest token -/

/-- A client, with the database behind the service. -/
structure Client where
  /-- The database. -/
  db : Database
  /-- The newest token that the client has. -/
  token : Token
  /-- When it was issued. -/
  since : ℤ

/-- What happens next: a request of the client, or one of anybody. -/
inductive Client.Turn
  /-- The client asks for something, with its newest token. -/
  | own (operation : Operation) (authEnv env : Environment)
  /-- Some request is served. -/
  | other (x : Exchange)

/-- The request that is served. -/
def Client.exchange (c : Client) : Client.Turn → Exchange
  | .own operation authEnv env => ⟨.bearer c.token operation, authEnv, env⟩
  | .other x => x

/-- Serve it. The client keeps its token unless it is given another one. -/
def Client.step (tokenType : String) (c : Client) (turn : Client.Turn) : Client :=
  let o := (c.exchange turn).serve tokenType c.db
  match turn, o.response.entity with
  | .own _ _ env, .token token => ⟨o.db, token, env.now⟩
  | _, _ => ⟨o.db, c.token, c.since⟩

/-- The client stays away from what would lock it out, and the others are not let through as `n`. -/
def Client.Careful (tokenType n : String) (c : Client) : Client.Turn → Prop
  | .own operation _ env => operation ≠ .deleteUser ∧
      ¬ (Request.bearer c.token operation).AddsNull ∧ ¬ TokenHandler.JoseFails tokenType env
  | .other x => x.request.principal tokenType x.authEnv c.db ≠ some n

/-- The token of the client says what is true of the account with the name `n`. -/
def Client.UpToDate (tokenType n : String) (c : Client) : Prop :=
  ∃ r ∈ c.db.rows, r.username = n ∧ ∃ env u, env.now = c.since ∧
    c.token = TokenHandler.tokenOf tokenType (TokenHandler.claimsFor env n u) ∧
    Authenticates (TokenHandler.claimsFor env n u) r

/-- A request with the token is let through as the account in time, and as no other one ever. -/
theorem Client.UpToDate.acceptedAs {c : Client} (h : c.UpToDate tokenType n) :
    ∃ r ∈ c.db.rows, r.username = n ∧
      (∀ (operation : Operation) (env : Environment), env.Reads →
        env.now < c.since + 45 * 60 + 30 →
          (Request.bearer c.token operation).AcceptedAs tokenType env c.db r) ∧
      ∀ (operation : Operation) (env : Environment) (r' : UserRow),
        (Request.bearer c.token operation).AcceptedAs tokenType env c.db r' → r' = r := by
  obtain ⟨r, hr, hname, env', u, hsince, htoken, hclaims⟩ := h
  refine ⟨r, hr, hname, fun operation env hreads hage ↦ ?_, fun operation env r' haccepted ↦ ?_⟩
  · refine acceptedAs_bearer_iff.2 ⟨hr, hreads, _, ?_, hclaims⟩
    rw [htoken]
    exact TokenHandler.process_tokenOf (by omega)
  · obtain ⟨hr', -, claims, hprocess, hclaims'⟩ := acceptedAs_bearer_iff.1 haccepted
    rw [htoken] at hprocess
    obtain ⟨hname', -⟩ := age_of_process hprocess hclaims'
    exact c.db.consistent.eq_of_username hr' hr (hname'.trans hname.symm)

/-- **The token of an answer is up to date**, if the request was of the account and added no
null. -/
theorem upToDate_of_token {x : Exchange} {db : Database} {token : Token}
    (htoken : (x.serve tokenType db).response.entity = .token token)
    (hname : ∀ r, x.request.AcceptedAs tokenType x.authEnv db r → r.username = n)
    (hnull : ¬ x.request.AddsNull) :
    Client.UpToDate tokenType n ⟨(x.serve tokenType db).db, token, x.env.now⟩ := by
  obtain ⟨r, r', u, haccepted, hr', hid, hname', huid, rfl, hsome, -, hnone⟩ :=
    Exchange.exists_of_token htoken
  have hrange : JavaInteger.InRange u.id :=
    huid ▸ hid ▸ (x.serve tokenType db).db.consistent.id_inRange r' hr'
  have hrn : r.username = n := hname r haccepted
  refine ⟨r', hr', hname'.trans hrn, x.env, u, rfl, by rw [hrn], ?_⟩
  rw [← hrn, ← hname']
  exact (TokenHandler.authenticates_claimsFor_iff hrange).2 ⟨fun h ↦ hnull (hnone.1 h), hsome⟩

/-- A request that is no deletion, and that is not answered with a token though signing and
encryption work, leaves the rows alone. -/
theorem Call.rows_of_no_token {user : User} {operation : Operation} {env : Environment}
    {db : Database} (hdelete : operation ≠ .deleteUser)
    (hjose : ¬ TokenHandler.JoseFails tokenType env)
    (hno : ∀ token, ((Call.bearer user operation).handle tokenType env db).response.entity ≠
      .token token) :
    ((Call.bearer user operation).handle tokenType env db).db.rows = db.rows := by
  have heffect := @Call.handle_effect tokenType env (.bearer user operation) db
  generalize (Call.bearer user operation).handle tokenType env db = o at hno heffect ⊢
  cases heffect with
  | nothing hrows => exact hrows
  | issued => rfl
  | created hcall => cases hcall
  | updated =>
    rw [reissueResponse, if_neg hjose] at hno
    exact absurd rfl (hno _)
  | deleted hcall => exact absurd (Call.bearer.inj hcall).2 hdelete

theorem Client.step_of_token {c : Client} {operation : Operation} {authEnv env : Environment}
    {token : Token} (h : ((c.exchange (.own operation authEnv env)).serve tokenType
      c.db).response.entity = .token token) :
    c.step tokenType (.own operation authEnv env) =
      ⟨((c.exchange (.own operation authEnv env)).serve tokenType c.db).db, token, env.now⟩ := by
  rw [Client.step]
  simp only [h]

theorem Client.step_of_no_token {c : Client} {operation : Operation} {authEnv env : Environment}
    (h : ∀ token, ((c.exchange (.own operation authEnv env)).serve tokenType
      c.db).response.entity ≠ .token token) :
    c.step tokenType (.own operation authEnv env) =
      ⟨((c.exchange (.own operation authEnv env)).serve tokenType c.db).db, c.token, c.since⟩ := by
  unfold Client.step
  dsimp only
  split
  · next htoken => exact absurd htoken (h _)
  · rfl

/-- Rows that stay keep the client up to date. -/
theorem Client.UpToDate.of_rows {c : Client} {db : Database} (h : c.UpToDate tokenType n)
    (hrows : ∀ r ∈ c.db.rows, r.username = n → r ∈ db.rows) :
    Client.UpToDate tokenType n ⟨db, c.token, c.since⟩ := by
  obtain ⟨r, hr, hname, hrest⟩ := h
  exact ⟨r, hrows r hr hname, hname, hrest⟩

/-- **A careful client stays up to date.** -/
theorem Client.UpToDate.step {c : Client} {turn : Client.Turn} (h : c.UpToDate tokenType n)
    (hcareful : c.Careful tokenType n turn) : (c.step tokenType turn).UpToDate tokenType n := by
  rcases turn with ⟨operation, authEnv, env⟩ | x
  · obtain ⟨hdelete, hnull, hjose⟩ := hcareful
    let x : Exchange := ⟨.bearer c.token operation, authEnv, env⟩
    by_cases htoken : ∃ token, (x.serve tokenType c.db).response.entity = .token token
    · obtain ⟨token, htoken⟩ := htoken
      obtain ⟨r, -, hname, -, honly⟩ := h.acceptedAs
      rw [Client.step_of_token htoken]
      exact upToDate_of_token htoken (fun r' hr' ↦ honly operation authEnv r' hr' ▸ hname) hnull
    · have hno (token : Token) : (x.serve tokenType c.db).response.entity ≠ .token token :=
        fun h ↦ htoken ⟨token, h⟩
      rw [Client.step_of_no_token hno]
      refine h.of_rows fun r hr _ ↦ ?_
      show r ∈ (x.serve tokenType c.db).db.rows
      obtain ⟨response, -, -, hserve⟩ | ⟨call, hauth, hserve⟩ :=
        @Exchange.serve_cases tokenType x c.db
      · rw [hserve]
        exact hr
      · obtain ⟨-, -, -, q, -, -, rfl⟩ := authenticate_bearer_eq_ok_iff.1 hauth
        rw [hserve] at hno ⊢
        rw [Call.rows_of_no_token hdelete hjose hno]
        exact hr
  · refine h.of_rows fun r hr hname ↦ Exchange.mem_next_of_foreign (fun hof ↦ hcareful ?_) hr
    obtain ⟨q, hq, hid, call, hauth, hfrom⟩ := Exchange.exists_of_account hof
    obtain rfl := c.db.consistent.eq_of_id hq hr hid
    refine (Request.principal_of_authenticate hauth).trans ?_
    obtain rfl | ⟨operation, rfl⟩ := hfrom
    · exact congrArg some hname
    · exact congrArg some hname

/-- What is true of a service that has been started with a token type that is none: no token has
been issued, only sign-ups and logins are in flight, only sign-ups have succeeded, and the rows of
`db` are where they were. -/
structure State.FailsClosed (db : Database) (s : State tokenType) : Prop where
  /-- There are no tokens. -/
  issued : ∀ token, ¬ s.Issued token
  /-- Nobody has got in with one. -/
  inFlight : ∀ f ∈ s.inFlight, ∀ user operation, f.call ≠ .bearer user operation
  /-- Sign-ups succeed, and nothing else. -/
  log : ∀ e ∈ s.log, e.outcome.response.status = 200 → ∃ body, e.request = .createUser body
  /-- No row is changed or deleted. -/
  rows : db.rows <+: s.db.rows

/-- Without a token type a request that is no bearer request is answered with no token, and with 200
only if it is a sign-up, and rows are only appended. -/
theorem Call.handle_of_not_validTokenType (htype : ¬ TokenHandler.ValidTokenType tokenType)
    {env : Environment} {db : Database} {call : Call}
    (hcall : ∀ user operation, call ≠ .bearer user operation) :
    (∀ token, (call.handle tokenType env db).response.entity ≠ .token token) ∧
      ((call.handle tokenType env db).response.status = 200 → ∃ body, call = .createUser body) ∧
        db.rows <+: (call.handle tokenType env db).db.rows := by
  have heffect := @Call.handle_effect tokenType env call db
  generalize call.handle tokenType env db = o at heffect ⊢
  cases heffect with
  | nothing hrows _ _ htoken hok =>
    refine ⟨htoken, fun hstatus ↦ ?_, ?_⟩
    · obtain ⟨user, rfl⟩ := hok hstatus
      exact absurd rfl (hcall user _)
    · exact hrows ▸ List.prefix_refl db.rows
  | issued _ _ _ hvalid => exact absurd hvalid htype
  | @created body _ _ hcreate _ hrows =>
    refine ⟨fun token htoken ↦ ?_, fun _ ↦ ⟨.value body, hcreate⟩, ?_⟩
    · cases htoken
    · rw [hrows]
      exact List.prefix_append _ _
  | updated _ hworks => exact absurd hworks.tokenType htype
  | deleted hdelete => exact absurd hdelete (hcall _ _)

theorem State.FailsClosed.step (htype : ¬ TokenHandler.ValidTokenType tokenType) {db : Database}
    {s : State tokenType} (h : s.FailsClosed db) {x : Step} (hno : ¬ s.Forged x) :
    (s.step x).FailsClosed db := by
  rcases x with ⟨env, request⟩ | ⟨i, env⟩
  · rcases hauth : request.authenticate tokenType env s.db with response | call
    · rw [State.step_authenticate_of_error hauth]
      exact h
    · rw [State.step_authenticate_of_ok hauth]
      refine ⟨h.issued, fun f hf user operation hcall ↦ ?_, h.log, h.rows⟩
      rcases List.mem_append.1 hf with hf | hf
      · exact h.inFlight f hf user operation hcall
      · obtain rfl := List.mem_singleton.1 hf
        obtain rfl : call = .bearer user operation := hcall
        -- the token verifies, so it would have to have been issued
        obtain ⟨token, claims, rfl, hprocess, -⟩ := exists_of_authenticate_eq_bearer hauth
        exact hno ⟨by rw [hprocess]; rfl, h.issued token⟩
  · rcases hi : s.inFlight[i]? with _ | f
    · rw [State.step_handle_of_none hi]
      exact h
    · have hf := h.inFlight f (List.mem_of_getElem? hi)
      obtain ⟨htoken, hok, hrows⟩ := @Call.handle_of_not_validTokenType _ htype env s.db _ hf
      rw [State.step_handle_of_some hi]
      refine ⟨fun token hissued ↦ ?_, fun g hg ↦ h.inFlight g (List.mem_of_mem_eraseIdx hg),
        fun e he hstatus ↦ ?_, h.rows.trans hrows⟩
      · obtain ⟨e, he, hentity⟩ := hissued
        rcases List.mem_cons.1 he with rfl | he
        · exact htoken token hentity
        · exact h.issued token ⟨e, he, hentity⟩
      · rcases List.mem_cons.1 he with rfl | he
        · obtain ⟨body, hbody⟩ := hok hstatus
          have haccepted := f.accepted
          rw [hbody] at haccepted
          exact ⟨body, eq_of_authenticate_eq_createUser haccepted⟩
        · exact h.log e he hstatus

/-- **A token type that is none fails closed.** The service starts with it. In every schedule in
which no token is presented that verifies and was not issued, it then issues no token and answers
nothing but sign-ups with 200, and the accounts that are stored stay as they are. -/
theorem misconfigured_fails_closed (htype : ¬ TokenHandler.ValidTokenType tokenType)
    {db : Database} {steps : List Step}
    (hno : Machine.Throughout State.step (fun s x ↦ ¬ s.Forged x)
      (State.start tokenType db) steps) :
    ((State.start tokenType db).run steps).FailsClosed db := by
  have hstart : (State.start tokenType db).FailsClosed db :=
    ⟨fun _ hissued ↦ absurd hissued.choose_spec.1 List.not_mem_nil,
      fun _ hf ↦ absurd hf List.not_mem_nil, fun _ he ↦ absurd he List.not_mem_nil,
      List.prefix_refl _⟩
  have hstep (s : State tokenType) (x : Step) (hs : s.FailsClosed db) (hx : ¬ s.Forged x) :
      (s.step x).FailsClosed db := hs.step htype hx
  exact Machine.run_invariant hstep hstart hno

/-- Alice signs up, logs in and sends what she has got instead of a token. -/
def misconfiguredSteps : List Step :=
  oneAtATime [aliceSignsUp.quietly, aliceLogsIn.quietly,
    (Request.bearer .unverifiable .refresh).quietly]

theorem misconfigured_fails_closed_alice :
    ((State.start "JWS" .empty).run misconfiguredSteps).FailsClosed .empty := by
  have hno : Machine.Throughout State.step (fun s x ↦ ¬ s.Forged x) (State.start "JWS" .empty)
      misconfiguredSteps :=
    ⟨id, id, id, id, fun hforged ↦ Bool.false_ne_true hforged.1, id, trivial⟩
  exact misconfigured_fails_closed (by decide) hno

/-- The login is answered 500. -/
example : (((State.start "JWS" .empty).run misconfiguredSteps).log.map fun e ↦
    e.outcome.response.status) = [500, 200] := by
  decide +kernel

end DseAuth
