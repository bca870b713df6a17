import DseAuth.Service.Schedule

/-!
# Who an account is, and whom a token is for

An account is its id; what requests and tokens carry around is its name. As long as the account is
stored the two go together, and that is an invariant of every schedule (`identity_run`): names are
distinct and never change, ids are never given out twice, and the id and the name in a token belong
together for good.

What is *not* kept together is a name and the account that answers to it, because a name becomes
free again when its account is deleted. The service looks accounts up by name wherever it needs
them, and it never compares the id it finds with the id it started from. That happens in two places:

* the JWT authenticator reads the id of the token and drops it, so an old token is accepted as the
  new account of that name (`deleted_account_token_accepted`);
* the token handler looks the account up again, so a login or a refresh can be answered with a token
  for an account that was created in the meantime (`login_token_of_other_account`).

Both need a sign-up that takes a name over, and nothing else: without one, a token authenticates the
account it was issued for (`token_stays_bound`) and is handed to whoever proved to own that account
(`token_of_checked_account`).
-/

namespace DseAuth

variable {tokenType : String}

/-- Nothing in the row is empty that a user has chosen. -/
def UserRow.NonEmpty (r : UserRow) : Prop :=
  r.username ≠ "" ∧ r.email ≠ "" ∧ r.password ≠ ""

/-! ### Non-empty rows -/

/-- The rows are non-empty, and so are those that the requests in flight were authenticated
against: what one of these writes back may have been read long before. -/
structure State.NonEmpty (s : State tokenType) : Prop where
  /-- The rows that are stored. -/
  rows : ∀ r ∈ s.db.rows, r.NonEmpty
  /-- The rows that were seen. -/
  seen : ∀ f ∈ s.inFlight, ∀ r ∈ f.seen.rows, r.NonEmpty

/-- What a call writes is not empty when the row it was authenticated against was not. -/
theorem InFlight.nonEmpty_of_updated (f : InFlight tokenType)
    (hseen : ∀ r ∈ f.seen.rows, r.NonEmpty) {u : User} (hu : f.call.updated = some u) :
    u.email ≠ "" ∧ u.password ≠ "" := by
  obtain ⟨-, operation, -, r, hr, -, hoperation⟩ := exists_of_updated f.accepted hu
  obtain ⟨hemail, hpassword⟩ | ⟨-, valid, -, -, hemail, hpassword⟩ :=
    Operation.updated_credentials hoperation
  · rw [hemail, hpassword]
    exact (hseen r hr).2
  · rw [hemail, hpassword]
    exact ⟨valid.email_ne, valid.password_ne⟩

theorem State.NonEmpty.step {s : State tokenType} (h : s.NonEmpty) (x : Step) :
    (s.step x).NonEmpty := by
  obtain hs | ⟨f, hseen, hs⟩ | ⟨i, e, hi, hbefore, -, hs⟩ := s.step_cases x
  · rw [hs]
    exact h
  · rw [hs]
    refine ⟨h.rows, fun g hg ↦ ?_⟩
    rcases List.mem_append.1 hg with hg | hg
    · exact h.seen g hg
    · rw [List.mem_singleton.1 hg, hseen]
      exact h.rows
  · rw [hs]
    refine ⟨fun r' hr' ↦ ?_, fun g hg ↦ h.seen g (List.mem_of_mem_eraseIdx hg)⟩
    have hrows : ∀ r ∈ e.before.rows, r.NonEmpty := hbefore ▸ h.rows
    obtain ⟨r, hr, -, -, rfl | ⟨u, hu, -, rfl, -⟩⟩ | ⟨-, valid, -, -, rfl⟩ := Call.mem_handle hr'
    · exact hrows r' hr
    · exact ⟨(hrows r hr).1,
        e.toInFlight.nonEmpty_of_updated (h.seen _ (List.mem_of_getElem? hi)) hu⟩
    · exact ⟨valid.username_ne, valid.email_ne, valid.password_ne⟩

/-! ### The identity invariant -/

/-- What holds of the states, the rows and the tokens along a schedule that starts with no
accounts. -/
structure IdentityInvariant (tokenType : String) (steps : List Step) : Prop where
  /-- Usernames are distinct. -/
  usernames_nodup :
    (((State.start tokenType .empty).run steps).db.rows.map UserRow.username).Nodup
  /-- Usernames, emails and passwords are not empty. -/
  nonEmpty : ∀ r ∈ ((State.start tokenType .empty).run steps).db.rows, r.NonEmpty
  /-- Usernames are permanent. -/
  username_permanent : ∀ before, before <+: steps →
    ∀ r ∈ ((State.start tokenType .empty).run before).db.rows,
      ∀ r' ∈ ((State.start tokenType .empty).run steps).db.rows,
        r.id = r'.id → r.username = r'.username
  /-- Ids are not reused. -/
  id_not_reused : ∀ stored deleted, stored <+: deleted → deleted <+: steps →
    ∀ r ∈ ((State.start tokenType .empty).run stored).db.rows,
      (∀ r' ∈ ((State.start tokenType .empty).run deleted).db.rows, r'.id ≠ r.id) →
        ∀ r' ∈ ((State.start tokenType .empty).run steps).db.rows, r'.id ≠ r.id
  /-- The id in an issued token only ever was an account of the name in the token. -/
  token_username : ∀ e ∈ ((State.start tokenType .empty).run steps).log, ∀ token claims,
    e.outcome.response.entity = .token token → token.claims = some claims →
      ∃ i n, claims.getSubject = .ok (some (toString i)) ∧
        claims.getClaimValue "username" = .string n ∧
          ∀ before, before <+: steps →
            ∀ r ∈ ((State.start tokenType .empty).run before).db.rows, r.id = i → r.username = n
  /-- Issued tokens with one subject have one username. -/
  tokens_agree : ∀ e ∈ ((State.start tokenType .empty).run steps).log,
    ∀ e' ∈ ((State.start tokenType .empty).run steps).log, ∀ token token' claims claims',
      e.outcome.response.entity = .token token → e'.outcome.response.entity = .token token' →
        token.claims = some claims → token'.claims = some claims' →
          claims.getSubject = claims'.getSubject →
            claims.getClaimValue "username" = claims'.getClaimValue "username"

/-- Rows with one id that a schedule passes through have one username. -/
theorem State.username_eq_of_run (s : State tokenType) {steps before before' : List Step}
    (h : before <+: steps) (h' : before' <+: steps) {r r' : UserRow}
    (hr : r ∈ (s.run before).db.rows) (hr' : r' ∈ (s.run before').db.rows) (hid : r.id = r'.id) :
    r.username = r'.username := by
  rcases s.le_or_le_run h h' with hle | hle
  · exact Database.username_eq_of_le hle hr hr' hid
  · exact (Database.username_eq_of_le hle hr' hr hid.symm).symm

/-- The row a token was issued for was stored when the schedule came by. -/
theorem State.exists_row_of_token (db : Database) {steps : List Step} {e : Event tokenType}
    (he : e ∈ ((State.start tokenType db).run steps).log) {token : Token} {claims : JwtClaims}
    (htoken : e.outcome.response.entity = .token token) (hclaims : token.claims = some claims) :
    ∃ before, before <+: steps ∧ ∃ r ∈ ((State.start tokenType db).run before).db.rows,
      claims.getSubject = .ok (some (toString r.id)) ∧
        claims.getClaimValue "username" = .string r.username := by
  obtain ⟨r, hr, hsubject, husername, -⟩ := Call.claims_handle htoken hclaims
  obtain hmem | ⟨before, after, hsteps, -, hbefore⟩ := State.exists_prefix_of_mem_log he
  · exact absurd hmem List.not_mem_nil
  · exact ⟨before, ⟨after, hsteps.symm⟩, r, hbefore ▸ hr, hsubject, husername⟩

/-- **Identity is invariant** under every schedule, whatever the order in which the two steps of
the requests are taken. -/
theorem identity_run (tokenType : String) (steps : List Step) :
    IdentityInvariant tokenType steps where
  usernames_nodup := Database.consistent _ |>.usernames_nodup
  nonEmpty := by
    have hstart : (State.start tokenType .empty).NonEmpty :=
      ⟨fun _ h ↦ absurd h List.not_mem_nil, fun _ h ↦ absurd h List.not_mem_nil⟩
    exact (Machine.run_invariant_of_forall (fun _ x hs ↦ hs.step x) hstart steps).rows
  username_permanent before hbefore r hr r' hr' hid :=
    State.username_eq_of_run _ hbefore (List.prefix_refl steps) hr hr' hid
  id_not_reused stored deleted hstored hdeleted r hr hgone := by
    obtain ⟨rest, rfl⟩ := hstored
    obtain ⟨rest', rfl⟩ := hdeleted
    -- the sequence had passed the id when the row was stored, and does not go back
    have hseq : r.id < ((State.start tokenType .empty).run (stored ++ rest)).db.sequence := by
      have hle := ((State.start tokenType .empty).run stored).le_run rest
      rw [← State.run_append] at hle
      exact (((State.start tokenType .empty).run stored).db.consistent.id_lt r hr).trans_le hle.1
    have hle := ((State.start tokenType .empty).run (stored ++ rest)).le_run rest'
    rw [← State.run_append] at hle
    exact Database.not_mem_of_le hle hseq hgone
  token_username e he token claims htoken hclaims := by
    obtain ⟨at_, hat, r, hr, hsubject, husername⟩ :=
      State.exists_row_of_token .empty he htoken hclaims
    exact ⟨r.id, r.username, hsubject, husername, fun before hbefore r' hr' hid ↦
      State.username_eq_of_run _ hbefore hat hr' hr hid⟩
  tokens_agree e he e' he' token token' claims claims' htoken htoken' hclaims hclaims'
      hsubject := by
    obtain ⟨at_, hat, r, hr, hr_subject, hr_username⟩ :=
      State.exists_row_of_token .empty he htoken hclaims
    obtain ⟨at', hat', r', hr', hr'_subject, hr'_username⟩ :=
      State.exists_row_of_token .empty he' htoken' hclaims'
    have hid : r.id = r'.id := by
      rw [hr_subject, hr'_subject] at hsubject
      exact JavaInteger.toString_injective (Option.some.inj (Except.ok.inj hsubject))
    rw [hr_username, hr'_username, State.username_eq_of_run _ hat hat' hr hr' hid]

/-! ### Tokens outliving their account -/

/-- A sign-up that takes a name. -/
def Exchange.TakesName (n : String) (db : Database) (x : Exchange) : Prop :=
  ∃ body valid, x.request = .createUser (.value body) ∧ SignsUp x.env db body valid ∧
    valid.username = n

/-- As long as nobody takes a name, the account of that name stays the one it was. -/
theorem id_eq_of_not_takesName {n : String} {i : ℤ} {db : Database} {xs : List Exchange}
    (hdb : ∀ r ∈ db.rows, r.username = n → r.id = i)
    (hxs : Machine.Throughout (Exchange.next tokenType) (fun db x ↦ ¬ x.TakesName n db) db xs) :
    ∀ r ∈ (serveAll tokenType db xs).rows, r.username = n → r.id = i := by
  refine Machine.run_invariant (I := fun db ↦ ∀ r ∈ db.rows, r.username = n → r.id = i)
    (fun db x hdb hx r' hr' hname ↦ ?_) hdb hxs
  obtain ⟨r, hr, hid, hname', -⟩ | ⟨body, valid, hrequest, hsignsUp, rfl⟩ := Exchange.mem_serve hr'
  · rw [← hid]
    exact hdb r hr (hname'.trans hname)
  · exact absurd ⟨body, valid, hrequest, hsignsUp, hname⟩ hx

/-- When a token has been issued, the account of its name is the one with its subject. -/
theorem Exchange.subject_of_token {x : Exchange} {db : Database} {token : Token}
    {claims : JwtClaims} {n : String} (h : (x.serve tokenType db).response.entity = .token token)
    (hclaims : token.claims = some claims) (hname : claims.getClaimValue "username" = .string n) :
    ∃ i : ℤ, claims.getSubject = .ok (some (toString i)) ∧
      ∀ r ∈ (x.serve tokenType db).db.rows, r.username = n → r.id = i := by
  obtain ⟨call, -, hserve⟩ := Exchange.exists_call_of_token h
  rw [hserve] at h ⊢
  obtain ⟨r, hr, hsubject, husername, -⟩ := Call.claims_handle h hclaims
  obtain rfl := Json.string.inj (husername.symm.trans hname)
  refine ⟨r.id, hsubject, fun r' hr' hname' ↦ ?_⟩
  obtain ⟨-, q, -, u, -, -, -, ⟨hcall, -⟩ | ⟨hcall, -⟩⟩ := Call.token_handle h
  all_goals
    obtain ⟨r₀, hr₀, hid, hname₀, -⟩ | ⟨body, -, rfl, -⟩ := Call.mem_handle hr'
    · rw [← hid, db.consistent.eq_of_username hr₀ hr (hname₀.trans hname')]
    · cases hcall

/-- **A token authenticates the account it was issued for**, and no other, as long as nobody signs
up under its username after the account is gone. The requests are handled one at a time: `xs` before
the request that is answered with the token, `ys` after it. -/
theorem token_stays_bound (db : Database) (xs ys : List Exchange) (x : Exchange) {token : Token}
    {claims : JwtClaims} {n : String}
    (hissued : (x.serve tokenType (serveAll tokenType db xs)).response.entity = .token token)
    (hclaims : token.claims = some claims) (hname : claims.getClaimValue "username" = .string n)
    (hys : Machine.Throughout (Exchange.next tokenType) (fun db y ↦ ¬ y.TakesName n db)
      (serveAll tokenType db (xs ++ [x])) ys)
    {env : Environment} {u : User}
    (hauth : JWTAuthenticator.authenticate env claims
      (Session.openSession (serveAll tokenType db (xs ++ x :: ys))) = .ok (some u)) :
    claims.getSubject = .ok (some (toString u.id)) ∧
      ∃ r ∈ (serveAll tokenType db (xs ++ x :: ys)).rows, u = r.load := by
  have hx : serveAll tokenType db (xs ++ [x]) = (x.serve tokenType (serveAll tokenType db xs)).db :=
    Machine.run_append _ _ _ _
  have hxys : serveAll tokenType db (xs ++ x :: ys) =
      serveAll tokenType (serveAll tokenType db (xs ++ [x])) ys := by
    rw [List.append_cons]
    exact Machine.run_append _ _ _ _
  obtain ⟨i, hsubject, hi⟩ := Exchange.subject_of_token hissued hclaims hname
  rw [← hx] at hi
  have hbound := id_eq_of_not_takesName hi hys
  obtain ⟨-, r, hr, hmatch, rfl⟩ := JWTAuthenticator.authenticate_eq_ok_some_iff.1 hauth
  refine ⟨?_, r, hr, rfl⟩
  have hrn : r.username = n := Json.string.inj (hmatch.username.symm.trans hname)
  rw [hxys] at hr
  rw [hsubject, ← hbound r hr hrn]
  rfl

theorem token_stays_bound_login :
    aliceClaims.getSubject = .ok (some (toString (1 : ℤ))) ∧
      ∃ r ∈ (serveAll "jws" .empty
        ([aliceSignsUp.quietly] ++ aliceLogsIn.quietly :: [aliceLogsIn.quietly])).rows,
        (⟨1, "alice", "alice@a", "secret", PersistentSet.load []⟩ : User) = r.load := by
  have hissued : (aliceLogsIn.quietly.serve "jws"
      (serveAll "jws" .empty [aliceSignsUp.quietly])).response.entity =
        .token (.jws aliceClaims) := by
    decide +kernel
  have hys : Machine.Throughout (Exchange.next "jws") (fun db y ↦ ¬ y.TakesName "alice" db)
      (serveAll "jws" .empty ([aliceSignsUp.quietly] ++ [aliceLogsIn.quietly]))
      [aliceLogsIn.quietly] := by
    refine ⟨?_, trivial⟩
    rintro ⟨body, valid, hrequest, -⟩
    cases hrequest
  have hauth : JWTAuthenticator.authenticate .quiet aliceClaims (Session.openSession
      (serveAll "jws" .empty
        ([aliceSignsUp.quietly] ++ aliceLogsIn.quietly :: [aliceLogsIn.quietly]))) =
      .ok (some ⟨1, "alice", "alice@a", "secret", PersistentSet.load []⟩) := by
    decide +kernel
  exact token_stays_bound .empty [aliceSignsUp.quietly] [aliceLogsIn.quietly] aliceLogsIn.quietly
    hissued rfl rfl hys hauth

/-- A token is issued to alice under the id 1; alice deletes her account; somebody else signs up as
alice and becomes the account 2; the old token is accepted as the account 2. -/
theorem deleted_account_token_accepted :
    (aliceLogsIn.quietly.serve "jws"
        (serveAll "jws" .empty [aliceSignsUp.quietly])).response.entity =
          .token (.jws aliceClaims) ∧
      aliceClaims.getSubject = .ok (some "1") ∧
      (JWTAuthenticator.authenticate .quiet aliceClaims (Session.openSession
          (serveAll "jws" .empty [aliceSignsUp.quietly, aliceLogsIn.quietly,
            (Request.bearer (.jws aliceClaims) .deleteUser).quietly, otherAliceSignsUp.quietly]))) =
        .ok (some ⟨2, "alice", "other@b", "other", PersistentSet.load []⟩) := by
  decide +kernel

/-! ### Tokens handed to somebody else -/

/-- The first step of the request has checked the password, or the token, of the account in this
row. -/
def InFlight.Checked (f : InFlight tokenType) (r : UserRow) : Prop :=
  r ∈ f.seen.rows ∧
    match f.request with
    | .createUser _ => False
    | .login credentials => credentials = some ⟨r.username, r.password⟩
    | .bearer token _ => ∃ claims, token.claims = some claims ∧ Authenticates claims r

/-- The step signs somebody up under the name for which a token is being issued. -/
def State.Intrudes (s : State tokenType) (x : Step) : Prop :=
  ∃ i env f body valid, x = .handle i env ∧ s.inFlight[i]? = some f ∧
    f.call = .createUser (.value body) ∧ SignsUp env s.db body valid ∧
      ∃ g ∈ s.inFlight, g.call.reissues = some valid.username

/-- A request that issues a token has checked the row of that name. -/
theorem InFlight.exists_checked (f : InFlight tokenType) {n : String}
    (h : f.call.reissues = some n) : ∃ r, f.Checked r ∧ r.username = n := by
  obtain hcall | ⟨user, hcall, rfl⟩ := Call.exists_of_reissues h
  · obtain ⟨r, hr, hrequest, rfl⟩ := exists_of_authenticate_eq_login (hcall ▸ f.accepted)
    refine ⟨r, ⟨hr, ?_⟩, rfl⟩
    rw [hrequest]
  · obtain ⟨token, claims, hrequest, hprocess, -, r, hr, hclaims, rfl⟩ :=
      exists_of_authenticate_eq_bearer (hcall ▸ f.accepted)
    refine ⟨r, ⟨hr, ?_⟩, rfl⟩
    rw [hrequest]
    exact ⟨claims, JwtConsumer.claims_of_process hprocess, hclaims⟩

/-- A login and a refresh only issue a token. -/
theorem InFlight.exists_reissues (f : InFlight tokenType)
    (h : (∃ credentials, f.request = .login credentials) ∨
      ∃ token, f.request = .bearer token .refresh) :
    ∃ n, f.call.reissues = some n := by
  have haccepted := f.accepted
  rcases h with ⟨credentials, hrequest⟩ | ⟨token, hrequest⟩
  · rw [hrequest] at haccepted
    obtain ⟨-, r, -, -, hcall⟩ := authenticate_login_eq_ok_iff.1 haccepted
    exact ⟨r.username, hcall ▸ rfl⟩
  · rw [hrequest] at haccepted
    obtain ⟨-, -, -, r, -, -, hcall⟩ := authenticate_bearer_eq_ok_iff.1 haccepted
    exact ⟨r.username, hcall ▸ rfl⟩

/-- The account that answers to a name in `db`, if there is one, is the one the request checked. -/
def InFlight.Bound (f : InFlight tokenType) (db : Database) : Prop :=
  ∀ n, f.call.reissues = some n →
    ∃ r, f.Checked r ∧ r.username = n ∧ ∀ r' ∈ db.rows, r'.username = n → r'.id = r.id

/-- Right after its first step a request is bound. -/
theorem InFlight.bound_seen (f : InFlight tokenType) : f.Bound f.seen := by
  intro n hn
  obtain ⟨r, hchecked, rfl⟩ := f.exists_checked hn
  refine ⟨r, hchecked, rfl, fun r' hr' hname ↦ ?_⟩
  rw [f.seen.consistent.eq_of_username hr' hchecked.1 hname]

/-- All requests in flight are bound, and the answered ones were when they were handled. -/
structure State.Bound (s : State tokenType) : Prop where
  /-- The requests in flight. -/
  inFlight : ∀ f ∈ s.inFlight, f.Bound s.db
  /-- The answered requests. -/
  log : ∀ e ∈ s.log, e.toInFlight.Bound e.before

/-- Only an intruder loosens a request. -/
theorem State.Bound.step {s : State tokenType} {x : Step} (h : s.Bound) (hx : ¬ s.Intrudes x) :
    (s.step x).Bound := by
  obtain hs | ⟨f, hseen, hs⟩ | ⟨i, e, hi, hbefore, hstep, hs⟩ := s.step_cases x
  · rw [hs]
    exact h
  · rw [hs]
    refine ⟨fun g hg ↦ ?_, h.log⟩
    rcases List.mem_append.1 hg with hg | hg
    · exact h.inFlight g hg
    · rw [List.mem_singleton.1 hg]
      exact hseen ▸ f.bound_seen
  · rw [hs]
    refine ⟨fun g hg n hn ↦ ?_, fun g hg ↦ ?_⟩
    · have hg' : g ∈ s.inFlight := List.mem_of_mem_eraseIdx hg
      obtain ⟨r, hchecked, hrn, hr⟩ := h.inFlight g hg' n hn
      refine ⟨r, hchecked, hrn, fun r' hr' hname ↦ ?_⟩
      obtain ⟨r₀, hr₀, hid, hname₀, -⟩ | ⟨body, valid, hcall, hsignsUp, rfl⟩ :=
        Call.mem_handle hr'
      · rw [← hid]
        exact hr r₀ (hbefore ▸ hr₀) (hname₀.trans hname)
      · -- a new row of the name is an intruder's
        refine absurd ⟨i, e.env, e.toInFlight, body, valid, hstep, hi, hcall, hbefore ▸ hsignsUp, g,
          hg', ?_⟩ hx
        exact hn.trans (congrArg some hname.symm)
    · rcases List.mem_cons.1 hg with rfl | hg
      · rw [hbefore]
        exact h.inFlight g.toInFlight (List.mem_of_getElem? hi)
      · exact h.log g hg

/-- **A token goes to the account that was checked.** In a schedule in which nobody signs up under a
free name for which a token is being issued, every login and every refresh that is answered with a
token is answered with one for the very account whose password or token it was let through with. -/
theorem token_of_checked_account (db : Database) (steps : List Step)
    (hsteps : Machine.Throughout State.step (fun s x ↦ ¬ s.Intrudes x) (State.start tokenType db)
      steps)
    {e : Event tokenType} (he : e ∈ ((State.start tokenType db).run steps).log)
    (hrequest : (∃ credentials, e.request = .login credentials) ∨
      ∃ token, e.request = .bearer token .refresh)
    {token : Token} {claims : JwtClaims} (hresponse : e.outcome.response = ⟨200, .token token⟩)
    (hclaims : token.claims = some claims) :
    ∃ r, e.Checked r ∧ claims.getSubject = .ok (some (toString r.id)) := by
  have hstart : (State.start tokenType db).Bound :=
    ⟨fun _ h ↦ absurd h List.not_mem_nil, fun _ h ↦ absurd h List.not_mem_nil⟩
  have hbound : ((State.start tokenType db).run steps).Bound :=
    Machine.run_invariant (fun _ _ hs hx ↦ hs.step hx) hstart hsteps
  have hentity : e.outcome.response.entity = .token token := by rw [hresponse]
  obtain ⟨n, hn⟩ := e.toInFlight.exists_reissues hrequest
  obtain ⟨q, hq, hsubject, -, hqn⟩ := Call.claims_handle hentity hclaims
  obtain ⟨r, hchecked, -, hr⟩ := hbound.log e he n hn
  exact ⟨r, hchecked, by rw [hsubject, hr q hq (hqn n hn)]⟩

/-- The same claims, but for the second account of the service. -/
def otherAliceClaims : JwtClaims where
  claimsMap :=
    [("sub", .string "2"), ("privileges", .array []), ("username", .string "alice"),
      ("iat", .number 0 0), ("exp", .number 2700 0), ("jti", .string "0")]

/-- While a login of alice is being handled, bob signs up, and somebody tries to as alice. -/
def loginAmidSignUps : List Step :=
  oneAtATime [aliceSignsUp.quietly] ++
    [.authenticate .quiet aliceLogsIn, .authenticate .quiet bobSignsUp,
      .authenticate .quiet otherAliceSignsUp, .handle 1 .quiet, .handle 1 .quiet]

/-- The login, as an event. -/
def aliceLogin (before : Database) : Event "jws" where
  request := aliceLogsIn
  authEnv := .quiet
  seen := serveAll "jws" .empty [aliceSignsUp.quietly]
  call := .login "alice"
  accepted := by rfl
  env := .quiet
  before := before

theorem token_of_checked_account_login :
    ∃ r, (aliceLogin ((State.start "jws" .empty).run loginAmidSignUps).db).Checked r ∧
      aliceClaims.getSubject = .ok (some (toString r.id)) := by
  have hsteps : Machine.Throughout State.step (fun s x ↦ ¬ s.Intrudes x) (State.start "jws" .empty)
      (loginAmidSignUps ++ [.handle 0 .quiet]) := by
    refine ⟨?_, ?_, ?_, ?_, ?_, ?_, ?_, ?_, trivial⟩
    · rintro ⟨i, env, f, body, valid, hx, -⟩
      cases hx
    · rintro ⟨i, env, f, body, valid, -, -, -, -, g, hg, hn⟩
      obtain rfl := List.mem_singleton.1 hg
      cases hn
    · rintro ⟨i, env, f, body, valid, hx, -⟩
      cases hx
    · rintro ⟨i, env, f, body, valid, hx, -⟩
      cases hx
    · rintro ⟨i, env, f, body, valid, hx, -⟩
      cases hx
    · -- bob does not take the name of alice, nor does anybody log in under his
      rintro ⟨i, env, f, body, valid, hx, hf, hcall, hsignsUp, g, hg, hn⟩
      obtain ⟨rfl, -⟩ := Step.handle.inj hx
      obtain rfl := Option.some.inj hf
      obtain rfl := Body.value.inj (Call.createUser.inj hcall)
      obtain hbob : valid.username = "bob" :=
        (Option.some.inj (SignUpUser.username_of_validate hsignsUp.validate)).symm
      rw [hbob] at hn
      revert g
      decide +kernel
    · -- and the name of alice is taken
      rintro ⟨i, env, f, body, valid, hx, hf, hcall, hsignsUp, -⟩
      obtain ⟨rfl, -⟩ := Step.handle.inj hx
      obtain rfl := Option.some.inj hf
      obtain rfl := Body.value.inj (Call.createUser.inj hcall)
      exact hsignsUp.free ⟨1, "alice", "alice@a", "secret", []⟩ (by decide +kernel)
        (Option.some.inj (SignUpUser.username_of_validate hsignsUp.validate))
    · rintro ⟨i, env, f, body, valid, hx, hf, hcall, -⟩
      obtain ⟨rfl, -⟩ := Step.handle.inj hx
      obtain rfl := Option.some.inj hf
      cases hcall
  have hlog : aliceLogin ((State.start "jws" .empty).run loginAmidSignUps).db ∈
      ((State.start "jws" .empty).run (loginAmidSignUps ++ [.handle 0 .quiet])).log :=
    List.mem_cons_self
  have hresponse :
      (aliceLogin ((State.start "jws" .empty).run loginAmidSignUps).db).outcome.response =
        ⟨200, .token (.jws aliceClaims)⟩ := by
    decide +kernel
  exact token_of_checked_account .empty _ hsteps hlog (Or.inl ⟨_, rfl⟩) hresponse rfl

/-- While a login of alice is being handled, she deletes her account and somebody else signs up as
alice. -/
def interruptedLogin : List Step :=
  oneAtATime [aliceSignsUp.quietly] ++
    [.authenticate .quiet aliceLogsIn,
      .authenticate .quiet (.bearer (.jws aliceClaims) .deleteUser), .handle 1 .quiet,
      .authenticate .quiet otherAliceSignsUp, .handle 1 .quiet,
      .handle 0 .quiet]

/-- The login, let through with the password of the account 1, is answered with a token for the
account 2. -/
theorem login_token_of_other_account :
    ((State.start "jws" .empty).run interruptedLogin).log.head?.map
        (fun e ↦ (e.request, e.seen.rows, e.outcome.response)) =
      some (aliceLogsIn, [⟨1, "alice", "alice@a", "secret", []⟩],
        ⟨200, .token (.jws otherAliceClaims)⟩) ∧
      otherAliceClaims.getSubject = .ok (some "2") := by
  decide +kernel

end DseAuth
