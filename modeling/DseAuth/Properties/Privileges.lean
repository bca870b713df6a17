import DseAuth.Service.Schedule

/-!
# Privileges and the tokens that carry them

A token carries the privileges its account had when it was issued, and the JWT authenticator accepts
it only while the account still has exactly these. The privileges therefore are in three places, in
the object the request has changed, in the table, and in the claims of the token, and what a client
can do depends on the three agreeing.

* `token_gives_back_iff` — with requests handled one at a time they do, and the token of an answer
  can be used for the next request, **except** where a `PUT /authorization` names a null: the object
  holds it, the token carries it, the table cannot store it.
* `revoked_until_added` — a privilege that was revoked stays out of reach of every token, old or
  new, until its account is given it back.
* `privileges_by_owner` — the privileges of an account are those its own requests have named. That
  is all that keeps accounts apart: an identifier that another account holds already is as good as
  any other (`privilege_held_twice`).
-/

namespace DseAuth

variable {tokenType : String}

/-! ### Issuing and authenticating -/

/-- The privileges of an account after a request accepted as it, when it `held` some before. -/
def Request.privilegesAfter (held : List String) (p : String) : Request → Prop
  | .bearer _ (.addPrivileges (.value newPriviliges)) => p ∈ held ∨ some p ∈ newPriviliges
  | .bearer _ (.removePrivileges (.value priviligesToRemove)) =>
    p ∈ held ∧ some p ∉ priviligesToRemove
  | _ => p ∈ held

/-- A `PUT /authorization` that names a null. -/
def Request.AddsNull : Request → Prop
  | .bearer _ (.addPrivileges (.value newPriviliges)) => none ∈ newPriviliges
  | _ => False

/-- The token in the answer to `x` can be used for the next request, if that comes in time: it is
accepted as the account `x` was accepted as, and `GET /authorization` returns the privileges that
account then has. -/
def Exchange.GivesBack (tokenType : String) (db : Database) (x : Exchange) (token : Token) : Prop :=
  ∃ r, x.request.AcceptedAs tokenType x.authEnv db r ∧
    ∀ next : Environment, next.lookupFails = false → next.commitFails = false →
      next.now - 30 < x.env.now + 45 * 60 →
        ∃ r', r'.id = r.id ∧ r'.username = r.username ∧
          (Request.bearer token .getPriviliges).AcceptedAs tokenType next
            (x.serve tokenType db).db r' ∧
          ∃ privileges : JavaSet (Option String),
            ((⟨.bearer token .getPriviliges, next, next⟩ : Exchange).serve tokenType
              (x.serve tokenType db).db).response = ⟨200, .privileges privileges⟩ ∧
            ∀ a, a ∈ privileges ↔ ∃ p, some p = a ∧ x.request.privilegesAfter r.privileges p

/-- The set a request leaves its principal with, in terms of the rows it was loaded from. -/
theorem Operation.some_mem_updated {r : UserRow} {u : User} {operation : Operation} {token : Token}
    (h : operation.updated r.load = some u) {p : String} :
    some p ∈ u.privileges.set ↔
      (Request.bearer token operation).privilegesAfter r.privileges p := by
  have hload : some p ∈ r.load.privileges.set ↔ p ∈ r.privileges :=
    PersistentSet.some_mem_load_set
  rw [Operation.mem_updated h]
  unfold Operation.Holds
  split
  · exact or_congr_left hload
  · exact and_congr_left' hload
  · next hadd hremove =>
    refine hload.trans ?_
    unfold Request.privilegesAfter
    split
    · next heq => exact absurd (Request.bearer.inj heq).2 (hadd _)
    · next heq => exact absurd (Request.bearer.inj heq).2 (hremove _)
    · exact Iff.rfl

/-- Nulls come in with `PUT /authorization` and in no other way. -/
theorem Operation.none_mem_updated {r : UserRow} {u : User} {operation : Operation} {token : Token}
    (h : operation.updated r.load = some u) :
    none ∈ u.privileges.set ↔ (Request.bearer token operation).AddsNull := by
  have hload : none ∉ r.load.privileges.set := PersistentSet.none_not_mem_load_set
  rw [Operation.mem_updated h]
  unfold Operation.Holds
  split
  · exact or_iff_right hload
  · exact iff_of_false (fun hheld ↦ hload hheld.1) not_false
  · next hadd _ =>
    refine iff_of_false hload ?_
    unfold Request.AddsNull
    split
    · next heq => exact absurd (Request.bearer.inj heq).2 (hadd _)
    · exact not_false

/-- Writing a request back over the rows it was loaded from stores what it holds. -/
theorem Operation.mem_writeBack_updated {r : UserRow} {u : User} {operation : Operation}
    (h : operation.updated r.load = some u) {p : String} :
    p ∈ (r.writeBack u).privileges ↔ some p ∈ u.privileges.set := by
  refine PersistentSet.mem_writeBack_of_fresh fun q ↦ ?_
  rw [(Operation.updated_keeps h).2.2]
  exact PersistentSet.mem_load_snapshot.symm

/-- **What an answer with a token amounts to**: the account `r` the request was accepted as, its row
`r'` afterwards, and the user `u` in the token, with what each of them holds. -/
theorem Exchange.exists_of_token {x : Exchange} {db : Database} {token : Token}
    (h : (x.serve tokenType db).response.entity = .token token) :
    ∃ r r' u, x.request.AcceptedAs tokenType x.authEnv db r ∧
      r' ∈ (x.serve tokenType db).db.rows ∧ r'.id = r.id ∧ r'.username = r.username ∧
      u.id = r.id ∧
      token = TokenHandler.tokenOf tokenType (TokenHandler.claimsFor x.env r.username u) ∧
      (∀ p, some p ∈ u.privileges.set ↔ p ∈ r'.privileges) ∧
      (∀ p, p ∈ r'.privileges ↔ x.request.privilegesAfter r.privileges p) ∧
      (none ∈ u.privileges.set ↔ x.request.AddsNull) := by
  obtain ⟨call, hauth, hserve⟩ := Exchange.exists_call_of_token h
  rw [hserve] at h ⊢
  obtain ⟨-, r, hr, u, hid, hname, htoken, ⟨hreissues, rfl, hdb, -⟩ | ⟨hupdated, hupdate, -⟩⟩ :=
    Call.token_handle h
  · -- a login or a refresh: nothing has changed
    have hsome (p : String) : some p ∈ r.load.privileges.set ↔ p ∈ r.privileges :=
      PersistentSet.some_mem_load_set
    have hnone : none ∉ r.load.privileges.set := PersistentSet.none_not_mem_load_set
    rw [hdb]
    obtain rfl | ⟨user, rfl, hname⟩ := Call.exists_of_reissues hreissues
    · obtain ⟨q, hq, hrequest, hname⟩ := exists_of_authenticate_eq_login hauth
      obtain rfl := db.consistent.eq_of_username hr hq hname
      refine ⟨r, r, r.load, ⟨hr, Or.inl hauth⟩, hr, rfl, rfl, rfl, htoken, hsome, fun p ↦ ?_, ?_⟩
      · rw [hrequest]
        exact Iff.rfl
      · rw [hrequest]
        exact iff_of_false hnone not_false
    · obtain ⟨t, -, hrequest, -, -, q, hq, -, rfl⟩ := exists_of_authenticate_eq_bearer hauth
      obtain rfl := db.consistent.eq_of_username hq hr hname
      refine ⟨q, q, q.load, ⟨hq, Or.inr ⟨_, hauth⟩⟩, hq, rfl, rfl, rfl, htoken, hsome,
        fun p ↦ ?_, ?_⟩
      · rw [hrequest]
        exact Iff.rfl
      · rw [hrequest]
        exact iff_of_false hnone not_false
  · -- the account was written back over the row it was loaded from
    obtain ⟨t, operation, hrequest, q, hq, rfl, hoperation⟩ := exists_of_updated hauth hupdated
    have hqr : q.id = r.id := (Operation.updated_keeps hoperation).1.symm.trans hid
    obtain rfl := db.consistent.eq_of_id hq hr hqr
    refine ⟨q, q.writeBack u, u, ⟨hq, Or.inr ⟨_, hauth⟩⟩,
      Database.writeBack_mem_update hupdate hq hid.symm, rfl, rfl, hid, htoken, fun p ↦ ?_,
      fun p ↦ ?_, ?_⟩
    · exact (Operation.mem_writeBack_updated hoperation).symm
    · rw [hrequest, Operation.mem_writeBack_updated hoperation]
      exact Operation.some_mem_updated hoperation
    · rw [hrequest]
      exact Operation.none_mem_updated hoperation

/-- `GET /authorization` with an accepted token. -/
theorem Exchange.serve_getPriviliges {db : Database} {next : Environment} {token : Token}
    {r : UserRow} (hauth : (Request.bearer token .getPriviliges).authenticate tokenType next db =
      .ok (.bearer r.load .getPriviliges)) (hcommit : next.commitFails = false) :
    ((⟨.bearer token .getPriviliges, next, next⟩ : Exchange).serve tokenType db).response =
      ⟨200, .privileges r.load.getPrivileges⟩ := by
  have hserve : (⟨.bearer token .getPriviliges, next, next⟩ : Exchange).serve tokenType db =
      (Call.bearer r.load .getPriviliges).handle tokenType next db := by
    rw [Exchange.serve]
    dsimp only
    rw [hauth]
  have hhandle : (Call.bearer r.load .getPriviliges).handle tokenType next db =
      ⟨readOnlyResponse next (.ok ⟨200, .privileges r.load.getPrivileges⟩), db, []⟩ :=
    unitOfWork_of_readOnly rfl
  rw [hserve, hhandle, readOnlyResponse, hcommit]
  rfl

/-- **Issuing and authenticating are inverse**, unless the request names a null. The request is the
only one that is handled between its authentication and the use of the token. -/
theorem token_gives_back_iff {db : Database} {x : Exchange} {token : Token}
    (h : (x.serve tokenType db).response = ⟨200, .token token⟩) :
    x.GivesBack tokenType db token ↔ ¬ x.request.AddsNull := by
  have hentity : (x.serve tokenType db).response.entity = .token token := by rw [h]
  obtain ⟨r, r', u, haccepted, hr', hid, hname, huid, rfl, hsome, hafter, hnull⟩ :=
    Exchange.exists_of_token hentity
  have hrange : JavaInteger.InRange u.id := huid ▸ db.consistent.id_inRange r haccepted.1
  have hclaims : Authenticates (TokenHandler.claimsFor x.env r.username u) r' ↔
      ¬ x.request.AddsNull := by
    rw [← hname, TokenHandler.authenticates_claimsFor_iff hrange, hnull]
    exact and_iff_left hsome
  constructor
  · rintro ⟨q, hq, hgives⟩
    -- a moment in which nothing fails
    have hnow : x.env.now - 30 < x.env.now + 45 * 60 := by omega
    obtain ⟨q', -, -, haccepted', -⟩ := hgives { now := x.env.now, jti := "" } rfl rfl hnow
    obtain ⟨hq', -, claims, hprocess, hclaims'⟩ := acceptedAs_bearer_iff.1 haccepted'
    rw [TokenHandler.process_tokenOf hnow] at hprocess
    obtain rfl := Option.some.inj hprocess
    have hname' : q'.username = r'.username :=
      (Json.string.inj hclaims'.username).symm.trans hname.symm
    obtain rfl := (x.serve tokenType db).db.consistent.eq_of_username hq' hr' hname'
    exact hclaims.1 hclaims'
  · intro hnonull
    refine ⟨r, haccepted, fun next hlookup hcommit hnow ↦ ?_⟩
    have hauth : (Request.bearer (TokenHandler.tokenOf tokenType
          (TokenHandler.claimsFor x.env r.username u)) .getPriviliges).authenticate tokenType next
        (x.serve tokenType db).db = .ok (.bearer r'.load .getPriviliges) :=
      authenticate_bearer_eq_ok_iff.2
        ⟨_, TokenHandler.process_tokenOf hnow, ⟨hlookup, hcommit⟩, r', hr', hclaims.2 hnonull, rfl⟩
    refine ⟨r', hid, hname, ⟨hr', Or.inr ⟨_, hauth⟩⟩, r'.load.getPrivileges,
      Exchange.serve_getPriviliges hauth hcommit, fun a ↦ ?_⟩
    rcases a with _ | p
    · refine iff_of_false PersistentSet.none_not_mem_load_set ?_
      rintro ⟨p, hp, -⟩
      cases hp
    · have hload : some p ∈ r'.load.getPrivileges ↔ p ∈ r'.privileges :=
        PersistentSet.some_mem_load_set
      rw [hload, hafter]
      exact ⟨fun hp ↦ ⟨p, rfl, hp⟩, fun ⟨q, hq, hp⟩ ↦ Option.some.inj hq ▸ hp⟩

/-- The claims in the token that alice gets when she adds the list `todo`. -/
def aliceTodoClaims : JwtClaims where
  claimsMap :=
    [("sub", .string "1"), ("privileges", .array [.string "todo"]), ("username", .string "alice"),
      ("iat", .number 0 0), ("exp", .number 2700 0), ("jti", .string "0")]

/-- Alice adds the list. -/
def aliceAddsTodo : Request := .bearer (.jws aliceClaims) (.addPrivileges (.value [some "todo"]))

/-- Alice adds another list, and once more, twice, the one that she has. -/
def aliceAddsAgain : Request :=
  .bearer (.jws aliceTodoClaims) (.addPrivileges (.value [some "todo", some "other", some "todo"]))

/-- The claims in a token of alice with both lists. -/
def aliceBothClaims : JwtClaims where
  claimsMap :=
    [("sub", .string "1"), ("privileges", .array [.string "todo", .string "other"]),
      ("username", .string "alice"), ("iat", .number 0 0), ("exp", .number 2700 0),
      ("jti", .string "0")]

theorem token_gives_back_iff_again :
    aliceAddsAgain.quietly.GivesBack "jws"
      (serveAll "jws" .empty [aliceSignsUp.quietly, aliceAddsTodo.quietly])
      (.jws aliceBothClaims) := by
  have hresponse : (aliceAddsAgain.quietly.serve "jws" (serveAll "jws" .empty
      [aliceSignsUp.quietly, aliceAddsTodo.quietly])).response =
        ⟨200, .token (.jws aliceBothClaims)⟩ := by
    decide +kernel
  have hnull : none ∉ [some "todo", some "other", some "todo"] := by decide
  exact (token_gives_back_iff hresponse).2 hnull

/-- Alice's token, with a null among the privileges. -/
def aliceNullClaims : JwtClaims where
  claimsMap :=
    [("sub", .string "1"), ("privileges", .array [.null]), ("username", .string "alice"),
      ("iat", .number 0 0), ("exp", .number 2700 0), ("jti", .string "0")]

/-- Alice asks for the privilege null; the token she gets for it is turned away. -/
theorem null_privilege_token_rejected :
    let db := serveAll "jws" .empty [aliceSignsUp.quietly]
    let addsNull := (Request.bearer (.jws aliceClaims) (.addPrivileges (.value [none]))).quietly
    (addsNull.serve "jws" db).response = ⟨200, .token (.jws aliceNullClaims)⟩ ∧
      ((Request.bearer (.jws aliceNullClaims) .getPriviliges).quietly.serve "jws"
        (addsNull.serve "jws" db).db).response.status = 401 := by
  decide +kernel

/-! ### Revocation -/

/-- The request gives the account named `n` the privilege `p`: a `PUT /authorization` that names it,
is accepted as that account, and is committed. -/
def Exchange.Adds (tokenType : String) (n p : String) (db : Database) (x : Exchange) : Prop :=
  (∃ token newPriviliges, x.request = .bearer token (.addPrivileges (.value newPriviliges)) ∧
      some p ∈ newPriviliges) ∧
    (∃ r, x.request.AcceptedAs tokenType x.authEnv db r ∧ r.username = n) ∧
      (x.serve tokenType db).committed ≠ []

/-- What a request can add to the privileges of a row, which need not be as it was when its
principal was loaded from it. -/
theorem Operation.privileges_writeBack {q r : UserRow} {u : User} {operation : Operation}
    (h : operation.updated q.load = some u) {p : String} (hp : p ∈ (r.writeBack u).privileges) :
    p ∈ r.privileges ∨
      ∃ newPriviliges, operation = .addPrivileges (.value newPriviliges) ∧
        some p ∈ newPriviliges := by
  obtain ⟨hold, -⟩ | ⟨hset, hsnapshot⟩ := PersistentSet.mem_writeBack.1 hp
  · exact Or.inl hold
  · have hload : some p ∉ q.load.privileges.set := by
      rw [(Operation.updated_keeps h).2.2] at hsnapshot
      exact fun hmem ↦ hsnapshot
        (PersistentSet.mem_load_snapshot.2 (PersistentSet.some_mem_load_set.1 hmem))
    rw [Operation.mem_updated h] at hset
    unfold Operation.Holds at hset
    split at hset
    · next newPriviliges => exact Or.inr ⟨newPriviliges, rfl, hset.resolve_left hload⟩
    · exact absurd hset.1 hload
    · exact absurd hset hload

/-- As long as nobody adds `p` for `n`, whoever has the name `n` does without it: a row is written
back with what it had, and a new account has nothing. -/
theorem not_mem_privileges_of_not_adds {n p : String} {db : Database} {xs : List Exchange}
    (hdb : ∀ r ∈ db.rows, r.username = n → p ∉ r.privileges)
    (hxs : Machine.Throughout (Exchange.next tokenType) (fun db x ↦ ¬ x.Adds tokenType n p db) db
      xs) :
    ∀ r ∈ (serveAll tokenType db xs).rows, r.username = n → p ∉ r.privileges := by
  refine Machine.run_invariant (I := fun db ↦ ∀ r ∈ db.rows, r.username = n → p ∉ r.privileges)
    (fun db x hdb hx r' hr' hname hp ↦ ?_) hdb hxs
  obtain ⟨r, hr, -, hrr', rfl | ⟨operation, u, hauth, hu, rfl, hcommitted⟩⟩ |
    ⟨-, valid, -, -, rfl⟩ := Exchange.mem_serve hr'
  · exact hdb r' hr hname hp
  · have hrn : r.username = n := hrr'.trans hname
    obtain hold | ⟨newPriviliges, rfl, hmem⟩ := Operation.privileges_writeBack hu hp
    · exact hdb r hr hrn hold
    · obtain ⟨token, -, hrequest, -⟩ := exists_of_authenticate_eq_bearer hauth
      refine hx ⟨⟨token, newPriviliges, hrequest, hmem⟩, ⟨r, ⟨hr, Or.inr ⟨_, hauth⟩⟩, hrn⟩, ?_⟩
      rw [hcommitted]
      exact List.cons_ne_nil _ _
  · exact absurd hp List.not_mem_nil

/-- An answered `DELETE /authorization` takes its privileges away. -/
theorem not_mem_privileges_of_remove {db : Database} {x : Exchange} {token : Token} {r : UserRow}
    {p : String} {priviligesToRemove : List (Option String)}
    (hrequest : x.request = .bearer token (.removePrivileges (.value priviligesToRemove)))
    (hp : some p ∈ priviligesToRemove) (haccepted : x.request.AcceptedAs tokenType x.authEnv db r)
    (hstatus : (x.serve tokenType db).response.status = 200) :
    ∀ r' ∈ (x.serve tokenType db).db.rows, r'.username = r.username → p ∉ r'.privileges := by
  rw [Exchange.serve_bearer hrequest haccepted] at hstatus ⊢
  obtain ⟨u, hu⟩ : ∃ u, Operation.updated r.load (.removePrivileges (.value priviligesToRemove)) =
      some u := ⟨_, rfl⟩
  have hcall : (Call.bearer r.load (.removePrivileges (.value priviligesToRemove))).updated =
      some u := hu
  obtain ⟨-, hupdate⟩ := Call.update_of_status hcall hstatus
  intro r' hr' hname
  have hid : r.id = u.id := (Operation.updated_keeps hu).1.symm
  have hwritten := Database.writeBack_mem_update hupdate haccepted.1 hid
  obtain rfl := (Database.consistent _).eq_of_username hr' hwritten hname
  rw [Operation.mem_writeBack_updated hu, Operation.mem_updated hu]
  exact fun hheld ↦ hheld.2 hp

/-- **A revoked privilege stays revoked.** Once a `DELETE /authorization` of the account named `n`
has taken `p` away, no token that names `n` and carries `p` is accepted, whoever signed it and
whenever, until a `PUT /authorization` of the account named `n` has brought `p` back. -/
theorem revoked_until_added {db : Database} {x : Exchange} {token : Token} {r : UserRow}
    {p : String} {priviligesToRemove : List (Option String)}
    (hrequest : x.request = .bearer token (.removePrivileges (.value priviligesToRemove)))
    (hp : some p ∈ priviligesToRemove) (haccepted : x.request.AcceptedAs tokenType x.authEnv db r)
    (hstatus : (x.serve tokenType db).response.status = 200) {ys : List Exchange}
    (hys : Machine.Throughout (Exchange.next tokenType)
      (fun db y ↦ ¬ y.Adds tokenType r.username p db) (x.serve tokenType db).db ys)
    {env : Environment} {claims : JwtClaims} {elements : List Json}
    (hname : claims.getClaimValue "username" = .string r.username)
    (hprivileges : claims.getClaimValue "privileges" = .array elements)
    (hcarries : Json.string p ∈ elements) (u : User) :
    JWTAuthenticator.authenticate env claims
      (Session.openSession (serveAll tokenType (x.serve tokenType db).db ys)) ≠ .ok (some u) := by
  intro hauth
  obtain ⟨-, q, hq, hclaims, rfl⟩ := JWTAuthenticator.authenticate_eq_ok_some_iff.1 hauth
  have hqname : q.username = r.username := Json.string.inj (hclaims.username.symm.trans hname)
  obtain ⟨elements', harray, hmem⟩ := hclaims.privileges
  obtain rfl := Json.array.inj (harray.symm.trans hprivileges)
  obtain ⟨p', hp', hpp'⟩ := (hmem _).1 hcarries
  obtain rfl := Json.string.inj hpp'
  have hgone := not_mem_privileges_of_remove hrequest hp haccepted hstatus
  exact not_mem_privileges_of_not_adds hgone hys q hq hqname hp'

/-- Alice removes the list. -/
def aliceRemovesTodo : Request :=
  .bearer (.jws aliceTodoClaims) (.removePrivileges (.value [some "todo"]))

theorem revoked_until_added_todo :
    JWTAuthenticator.authenticate .quiet aliceTodoClaims (Session.openSession
      (serveAll "jws" (aliceRemovesTodo.quietly.serve "jws"
        (serveAll "jws" .empty [aliceSignsUp.quietly, aliceAddsTodo.quietly])).db
        [aliceLogsIn.quietly])) ≠
      .ok (some ⟨1, "alice", "alice@a", "secret", PersistentSet.load ["todo"]⟩) := by
  have haccepted : aliceRemovesTodo.AcceptedAs "jws" .quiet
      (serveAll "jws" .empty [aliceSignsUp.quietly, aliceAddsTodo.quietly])
      ⟨1, "alice", "alice@a", "secret", ["todo"]⟩ := by
    refine ⟨List.mem_cons_self, Or.inr ⟨.removePrivileges (.value [some "todo"]), ?_⟩⟩
    rfl
  have hstatus : (aliceRemovesTodo.quietly.serve "jws"
      (serveAll "jws" .empty [aliceSignsUp.quietly, aliceAddsTodo.quietly])).response.status =
        200 := by
    decide +kernel
  have hys : Machine.Throughout (Exchange.next "jws") (fun db y ↦ ¬ y.Adds "jws" "alice" "todo" db)
      (aliceRemovesTodo.quietly.serve "jws"
        (serveAll "jws" .empty [aliceSignsUp.quietly, aliceAddsTodo.quietly])).db
      [aliceLogsIn.quietly] := by
    refine ⟨?_, trivial⟩
    rintro ⟨⟨token, l, hrequest, -⟩, -⟩
    cases hrequest
  exact revoked_until_added rfl List.mem_cons_self haccepted hstatus hys rfl rfl
    List.mem_cons_self _

/-! ### Whose privileges they are -/

/-- The event has given the account with this id the privilege `p`: a `PUT /authorization` that
names it, was authenticated as that account, and was committed. -/
def Event.AddsTo (e : Event tokenType) (id : ℤ) (p : String) : Prop :=
  ∃ user newPriviliges, e.call = .bearer user (.addPrivileges (.value newPriviliges)) ∧
    some p ∈ newPriviliges ∧ user.id = id ∧ e.outcome.committed ≠ []

/-- The step runs a `PUT /authorization` that names a privilege which another account holds. -/
def State.Shares (s : State tokenType) (x : Step) : Prop :=
  ∃ i env f user newPriviliges p, x = .handle i env ∧ s.inFlight[i]? = some f ∧
    f.call = .bearer user (.addPrivileges (.value newPriviliges)) ∧ some p ∈ newPriviliges ∧
      ∃ r ∈ s.db.rows, r.id ≠ user.id ∧ p ∈ r.privileges

/-- Where the privileges of a row come from when an event has taken place. -/
theorem Event.mem_privileges {e : Event tokenType} {r' : UserRow} (hr' : r' ∈ e.outcome.db.rows)
    {p : String} (hp : p ∈ r'.privileges) :
    (∃ r ∈ e.before.rows, r.id = r'.id ∧ p ∈ r.privileges) ∨ e.AddsTo r'.id p := by
  obtain ⟨r, hr, hid, -, rfl | ⟨u, hu, huid, rfl, hcommitted⟩⟩ | ⟨-, valid, -, -, rfl⟩ :=
    Call.mem_handle hr'
  · exact Or.inl ⟨r', hr, rfl, hp⟩
  · obtain ⟨-, operation, -, q, -, hcall, hoperation⟩ := exists_of_updated e.accepted hu
    have hqid : q.load.id = r.id := (Operation.updated_keeps hoperation).1.symm.trans huid
    obtain hold | ⟨newPriviliges, rfl, hmem⟩ := Operation.privileges_writeBack hoperation hp
    · exact Or.inl ⟨r, hr, hid, hold⟩
    · refine Or.inr ⟨q.load, newPriviliges, hcall, hmem, hqid.trans hid, ?_⟩
      rw [Event.outcome, hcommitted]
      exact List.cons_ne_nil _ _
  · exact absurd hp List.not_mem_nil

/-- Every stored privilege was added by its account. -/
def State.Owned (s : State tokenType) : Prop :=
  ∀ r ∈ s.db.rows, ∀ p ∈ r.privileges, ∃ e ∈ s.log, e.AddsTo r.id p

theorem State.Owned.step {s : State tokenType} (h : s.Owned) (x : Step) : (s.step x).Owned := by
  obtain hs | ⟨f, -, hs⟩ | ⟨i, e, -, hbefore, -, hs⟩ := s.step_cases x
  · rw [hs]
    exact h
  · rw [hs]
    exact h
  · rw [hs]
    intro r' hr' p hp
    obtain ⟨r, hr, hid, hold⟩ | hadds := Event.mem_privileges hr' hp
    · obtain ⟨e', he', hadds⟩ := h r (hbefore ▸ hr) p hold
      exact ⟨e', List.mem_cons_of_mem e he', hid ▸ hadds⟩
    · exact ⟨e, List.mem_cons_self, hadds⟩

/-- No two accounts hold the same privilege. -/
def Database.PrivilegesDisjoint (db : Database) : Prop :=
  ∀ r ∈ db.rows, ∀ r' ∈ db.rows, r.id ≠ r'.id → ∀ p ∈ r.privileges, p ∉ r'.privileges

theorem State.privilegesDisjoint_step {s : State tokenType} {x : Step}
    (h : s.db.PrivilegesDisjoint) (hx : ¬ s.Shares x) : (s.step x).db.PrivilegesDisjoint := by
  obtain hs | ⟨f, -, hs⟩ | ⟨i, e, hi, hbefore, hstep, hs⟩ := s.step_cases x
  · rw [hs]
    exact h
  · rw [hs]
    exact h
  · rw [hs]
    intro r₁ hr₁ r₂ hr₂ hne p hp₁ hp₂
    -- what an event adds, its account alone holds
    have hadded {id : ℤ} (hadds : e.AddsTo id p) {q : UserRow} (hq : q ∈ e.before.rows)
        (hqid : q.id ≠ id) : p ∉ q.privileges := by
      obtain ⟨user, newPriviliges, hcall, hmem, rfl, -⟩ := hadds
      exact fun hp ↦ hx ⟨i, e.env, e.toInFlight, user, newPriviliges, p, hstep, hi, hcall, hmem, q,
        hbefore ▸ hq, hqid, hp⟩
    obtain ⟨q₁, hq₁, hid₁, hold₁⟩ | hadds₁ := Event.mem_privileges hr₁ hp₁
    · obtain ⟨q₂, hq₂, hid₂, hold₂⟩ | hadds₂ := Event.mem_privileges hr₂ hp₂
      · exact h q₁ (hbefore ▸ hq₁) q₂ (hbefore ▸ hq₂) (by rwa [hid₁, hid₂]) p hold₁ hold₂
      · exact hadded hadds₂ hq₁ (by rwa [hid₁]) hold₁
    · obtain ⟨q₂, hq₂, hid₂, hold₂⟩ | hadds₂ := Event.mem_privileges hr₂ hp₂
      · exact hadded hadds₁ hq₂ (by rw [hid₂]; exact hne.symm) hold₂
      · obtain ⟨user₁, l₁, hcall₁, -, huser₁, -⟩ := hadds₁
        obtain ⟨user₂, l₂, hcall₂, -, huser₂, -⟩ := hadds₂
        have huser : user₁ = user₂ := (Call.bearer.inj (hcall₁.symm.trans hcall₂)).1
        exact hne (huser₁.symm.trans (huser ▸ huser₂))

/-- **Privileges are their account's own doing.** In every state that a schedule reaches from the
empty service, each stored privilege has been added by a committed `PUT /authorization` of its
account that named it. And if no `PUT /authorization` of the schedule names a privilege that another
account holds when it runs, no two accounts ever hold the same one, and no token is accepted for one
account that carries a privilege of another. -/
theorem privileges_by_owner (tokenType : String) (steps : List Step) :
    ((State.start tokenType .empty).run steps).Owned ∧
      (Machine.Throughout State.step (fun s x ↦ ¬ s.Shares x) (State.start tokenType .empty) steps →
        ((State.start tokenType .empty).run steps).db.PrivilegesDisjoint ∧
          ∀ r ∈ ((State.start tokenType .empty).run steps).db.rows, ∀ p ∈ r.privileges,
            ∀ env claims u elements,
              JWTAuthenticator.authenticate env claims (Session.openSession
                ((State.start tokenType .empty).run steps).db) = .ok (some u) → u.id ≠ r.id →
                claims.getClaimValue "privileges" = .array elements →
                  Json.string p ∉ elements) := by
  constructor
  · exact Machine.run_invariant_of_forall (fun _ x hs ↦ hs.step x)
      (fun r hr ↦ absurd hr List.not_mem_nil) steps
  · intro hsteps
    have hdisjoint : ((State.start tokenType .empty).run steps).db.PrivilegesDisjoint :=
      Machine.run_invariant (I := fun s ↦ s.db.PrivilegesDisjoint)
        (fun _ _ hs hx ↦ State.privilegesDisjoint_step hs hx)
        (fun r hr ↦ absurd hr List.not_mem_nil) hsteps
    refine ⟨hdisjoint, fun r hr p hp env claims u elements hauth hne hprivileges hcarries ↦ ?_⟩
    obtain ⟨-, q, hq, hclaims, rfl⟩ := JWTAuthenticator.authenticate_eq_ok_some_iff.1 hauth
    obtain ⟨elements', harray, hmem⟩ := hclaims.privileges
    obtain rfl := Json.array.inj (harray.symm.trans hprivileges)
    obtain ⟨p', hp', hpp'⟩ := (hmem _).1 hcarries
    obtain rfl := Json.string.inj hpp'
    exact hdisjoint r hr q hq (Ne.symm hne) p' hp hp'

/-- The claims in a token of bob, the second account of the service. -/
def bobClaims (privileges : List Json) : JwtClaims where
  claimsMap :=
    [("sub", .string "2"), ("privileges", .array privileges), ("username", .string "bob"),
      ("iat", .number 0 0), ("exp", .number 2700 0), ("jti", .string "0")]

/-- Bob adds the list that is alice's. -/
def bobAddsTodo : Request := .bearer (.jws (bobClaims [])) (.addPrivileges (.value [some "todo"]))

theorem privileges_by_owner_todo :
    ((State.start "jws" .empty).run (oneAtATime
      [aliceSignsUp.quietly, bobSignsUp.quietly,
        aliceAddsTodo.quietly])).db.PrivilegesDisjoint := by
  have hempty : ∀ r ∈ ((State.start "jws" .empty).run (oneAtATime
      [aliceSignsUp.quietly, bobSignsUp.quietly])).db.rows, r.privileges = [] := by
    decide +kernel
  have hsteps : Machine.Throughout State.step (fun s x ↦ ¬ s.Shares x) (State.start "jws" .empty)
      (oneAtATime [aliceSignsUp.quietly, bobSignsUp.quietly, aliceAddsTodo.quietly]) := by
    refine ⟨?_, ?_, ?_, ?_, ?_, ?_, trivial⟩
    · rintro ⟨i, env, f, user, l, p, hx, -⟩
      cases hx
    · rintro ⟨i, env, f, user, l, p, hx, hf, hcall, -⟩
      obtain ⟨rfl, -⟩ := Step.handle.inj hx
      obtain rfl := Option.some.inj hf
      cases hcall
    · rintro ⟨i, env, f, user, l, p, hx, -⟩
      cases hx
    · rintro ⟨i, env, f, user, l, p, hx, hf, hcall, -⟩
      obtain ⟨rfl, -⟩ := Step.handle.inj hx
      obtain rfl := Option.some.inj hf
      cases hcall
    · rintro ⟨i, env, f, user, l, p, hx, -⟩
      cases hx
    · rintro ⟨i, env, f, user, l, p, -, -, -, -, r, hr, -, hp⟩
      rw [hempty r hr] at hp
      cases hp
  exact ((privileges_by_owner "jws" _).2 hsteps).1

/-- Alice adds the list `todo` and bob adds it too; both accounts hold it, and bob's token for it is
accepted. -/
theorem privilege_held_twice :
    let s := (State.start "jws" .empty).run (oneAtATime [aliceSignsUp.quietly, bobSignsUp.quietly,
      aliceAddsTodo.quietly, bobAddsTodo.quietly])
    s.db.rows.map (fun r ↦ (r.id, r.privileges)) = [(1, ["todo"]), (2, ["todo"])] ∧
      JWTAuthenticator.authenticate .quiet (bobClaims [.string "todo"]) (Session.openSession s.db) =
        .ok (some ⟨2, "bob", "bob@b", "hidden", PersistentSet.load ["todo"]⟩) := by
  decide +kernel

end DseAuth
