import DseAuth.Abstract.Account
import DseAuth.Properties.Isolation
import DseAuth.Properties.Validation

/-!
# The service is a family of accounts

What the code does is compared with `Account.serve`. The abstraction of a database is its
`Database.registry`, the accounts by their names; ids, the order of the rows and repeated privileges
are gone. A response `Means` a reply.

The comparison is made of one request first. `Agrees` is what can come of it: the request has done
to the account that it names what it should have and the response means what it should, or
something has failed, and then the request has been done or not, and is answered 500 or 404
(`Exchange.serve_agrees`). The cases are those of the code: `perform_agrees` for the methods behind
the JWT filter, `tokenResponse_agrees` for those that only issue a token, and `createUser_agrees`.

From there three results about runs follow by the rules of `Machine` and `Family`:

* `registry_serveAll` — as long as nothing fails, the service is the family of accounts;
* `registry_serveAll_lossy` — whatever fails, no request is done twice or in part or to another
  account, and one that is answered with neither 500 nor 404 has been done;
* `serveAll_reorder` — as long as nothing fails, only the order of the requests about each name
  matters.
-/

namespace DseAuth

/-! ### Abstraction -/

/-- The account in a row. -/
def UserRow.account (r : UserRow) : Account where
  username := r.username
  email := r.email
  password := r.password
  privileges := {p | p ∈ r.privileges}

/-- The accounts in a database. -/
def Database.registry (db : Database) : Registry :=
  fun name ↦ name.bind fun n ↦ (db.byUsername n).map UserRow.account

/-- A response means a reply. -/
inductive Response.Means : Response → Reply → Prop
  /-- An empty 200. -/
  | done : Response.Means ⟨200, .none⟩ .done
  /-- A token whose claims say so. -/
  | token {token : Token} {claims : JwtClaims} {username : String}
      {privileges : Set (Option String)} (h : token.claims = some claims)
      (hclaims : claims.Says username privileges) :
      Response.Means ⟨200, .token token⟩ (.token username privileges)
  /-- The privileges, and no null. -/
  | privileges {s : JavaSet (Option String)} {privileges : Set String}
      (h : ∀ a, a ∈ s ↔ a ∈ some '' privileges) :
      Response.Means ⟨200, .privileges s⟩ (.privileges privileges)
  /-- An error with the status. -/
  | refused {response : Response} (h : response.status ≠ 200) :
      Response.Means response (.refused response.status)
  /-- An error of a filter. -/
  | turnedAway {response : Response} (hstatus : response.status ≠ 200)
      (hentity : response.entity = .framework) : Response.Means response .turnedAway

/-- What can come of a request that should have led from `before` to `after` and have been answered
with `reply`, when it is known that it does if `ok`. -/
inductive Agrees (ok : Prop) (before after : Registry) (reply : Reply) (o : Outcome) : Prop
  /-- It does. -/
  | kept (hafter : o.db.registry = after) (hmeans : o.response.Means reply)
  /-- Something has failed, and that is answered. -/
  | lost (hfails : ¬ ok) (hregistry : o.db.registry = before ∨ o.db.registry = after)
      (hstatus : o.response.status = 500 ∨ o.response.status = 404)

/-- Nothing fails in a transaction, and a token can be issued. -/
structure Issues (tokenType : String) (env : Environment) : Prop where
  /-- The database does what it is asked, and the token type is one of the two. -/
  works : Works tokenType env
  /-- Tokens are signed and encrypted. -/
  jose : ¬ TokenHandler.JoseFails tokenType env

/-- The libraries do what they are asked when the request is served. -/
structure Exchange.Healthy (tokenType : String) (db : Database) (x : Exchange) : Prop where
  /-- The filter reads the database, and its transaction is committed. -/
  reads : x.authEnv.Reads
  /-- Nothing fails in the method. -/
  issues : Issues tokenType x.env
  /-- There is an id for a new account. -/
  inRange : JavaInteger.InRange db.sequence

section

variable {db d : Database} {r : UserRow} {n : String}

theorem Database.registry_eq_some_iff {a : Account} :
    db.registry (some n) = some a ↔ ∃ r ∈ db.rows, r.username = n ∧ r.account = a := by
  show (db.byUsername n).map UserRow.account = some a ↔ _
  rw [Option.map_eq_some_iff]
  constructor
  · rintro ⟨r, hr, ha⟩
    obtain ⟨hmem, hname⟩ := Database.byUsername_eq_some_iff.1 hr
    exact ⟨r, hmem, hname, ha⟩
  · rintro ⟨r, hmem, hname, ha⟩
    exact ⟨r, Database.byUsername_eq_some_iff.2 ⟨hmem, hname⟩, ha⟩

theorem Database.registry_of_mem (hr : r ∈ db.rows) :
    db.registry (some r.username) = some r.account :=
  Database.registry_eq_some_iff.2 ⟨r, hr, rfl, rfl⟩

theorem Database.registry_eq_none_iff :
    db.registry (some n) = none ↔ ∀ r ∈ db.rows, r.username ≠ n := by
  show (db.byUsername n).map UserRow.account = none ↔ _
  rw [Option.map_eq_none_iff, Database.byUsername_eq_none_iff]

/-- The rows of a name decide about its account. -/
theorem Database.registry_congr (h : ∀ r, r.username = n → (r ∈ d.rows ↔ r ∈ db.rows)) :
    d.registry (some n) = db.registry (some n) := by
  refine Option.ext fun a ↦ ?_
  rw [Database.registry_eq_some_iff, Database.registry_eq_some_iff]
  constructor
  · rintro ⟨r, hr, hname, ha⟩
    exact ⟨r, (h r hname).1 hr, hname, ha⟩
  · rintro ⟨r, hr, hname, ha⟩
    exact ⟨r, (h r hname).2 hr, hname, ha⟩

theorem Database.registry_of_rows_eq (h : d.rows = db.rows) : d.registry = db.registry := by
  funext name
  cases name with
  | none => rfl
  | some n => exact Database.registry_congr fun r _ ↦ h ▸ Iff.rfl

/-- A database in which the rows of one name have changed. -/
theorem Database.registry_eq_update {a : Option Account} (hself : d.registry (some n) = a)
    (hother : ∀ r, r.username ≠ n → (r ∈ d.rows ↔ r ∈ db.rows)) :
    d.registry = Function.update db.registry (some n) a := by
  funext name
  by_cases hname : name = some n
  · rw [hname, hself, Function.update_self]
  · rw [Function.update_of_ne hname]
    cases name with
    | none => rfl
    | some m =>
      refine Database.registry_congr fun r hr ↦ hother r ?_
      rw [hr]
      exact fun h ↦ hname (congrArg some h)

theorem Database.registry_append (hrows : d.rows = db.rows ++ [r]) :
    d.registry = Function.update db.registry (some r.username) (some r.account) := by
  have hr : r ∈ d.rows := by
    rw [hrows]
    exact List.mem_append_right _ (List.mem_singleton_self r)
  refine Database.registry_eq_update (Database.registry_of_mem hr) fun q hq ↦ ?_
  rw [hrows, List.mem_append, List.mem_singleton]
  constructor
  · rintro (hmem | rfl)
    · exact hmem
    · exact absurd rfl hq
  · exact Or.inl

theorem Database.registry_update {u : User} (h : db.update u = some d) (hr : r ∈ db.rows)
    (hid : r.id = u.id) :
    d.registry = Function.update db.registry (some r.username) (some (r.writeBack u).account) := by
  have hself : r.writeBack u ∈ d.rows := Database.writeBack_mem_update h hr hid
  refine Database.registry_eq_update (Database.registry_of_mem hself) fun q hq ↦ ⟨?_, ?_⟩
  · intro hmem
    obtain ⟨q', hq', heq, -, hname⟩ := Database.exists_mem_of_mem_update h hmem
    have hne : q'.id ≠ u.id := by
      intro hid'
      rw [db.consistent.eq_of_id hq' hr (hid'.trans hid.symm)] at hname
      exact hq hname.symm
    rw [if_neg hne] at heq
    exact heq ▸ hq'
  · intro hmem
    refine Database.mem_update_of_id_ne h hmem fun hid' ↦ hq ?_
    rw [db.consistent.eq_of_id hmem hr (hid'.trans hid.symm)]

theorem Database.registry_delete {u : User} (h : db.delete u = some d) (hr : r ∈ db.rows)
    (hid : r.id = u.id) : d.registry = Function.update db.registry (some r.username) none := by
  have hrow (q : UserRow) (hq : q ∈ db.rows) : q.id = u.id ↔ q.username = r.username :=
    ⟨fun h ↦ by rw [db.consistent.eq_of_id hq hr (h.trans hid.symm)],
      fun h ↦ by rw [db.consistent.eq_of_username hq hr h, hid]⟩
  refine Database.registry_eq_update (Database.registry_eq_none_iff.2 fun q hq hname ↦ ?_)
    fun q hq ↦ ?_
  · obtain ⟨hmem, hne⟩ := (Database.mem_delete_iff h).1 hq
    exact hne ((hrow q hmem).2 hname)
  · rw [Database.mem_delete_iff h]
    exact ⟨And.left, fun hmem ↦ ⟨hmem, fun hid' ↦ hq ((hrow q hmem).1 hid')⟩⟩

end

/-! ### What claims say -/

/-- Claims authenticate a row if they say what is true of its account. -/
theorem authenticates_iff_says {claims : JwtClaims} {r : UserRow} :
    Authenticates claims r ↔ claims.Says r.account.username (some '' r.account.privileges) := by
  have hmem (j : Json) : (∃ a ∈ some '' r.account.privileges, Json.ofNullable a = j) ↔
      ∃ p ∈ r.privileges, Json.string p = j := by
    constructor
    · rintro ⟨_, ⟨p, hp, rfl⟩, hj⟩
      exact ⟨p, hp, hj⟩
    · rintro ⟨p, hp, hj⟩
      exact ⟨some p, ⟨p, hp, rfl⟩, hj⟩
  constructor
  · rintro ⟨hsubject, husername, elements, harray, helements⟩
    exact ⟨hsubject, husername, elements, harray, fun j ↦ (helements j).trans (hmem j).symm⟩
  · rintro ⟨hsubject, husername, elements, harray, helements⟩
    exact ⟨hsubject, husername, elements, harray, fun j ↦ (helements j).trans (hmem j)⟩

/-- What the claims say that are issued for a user. -/
theorem TokenHandler.claimsFor_says {env : Environment} {name : String} {u : User}
    (hid : JavaInteger.InRange u.id) :
    (claimsFor env name u).Says name {a | a ∈ u.privileges.set} where
  subject := ⟨toString u.id, u.id, rfl, JavaInteger.parseInt_toString hid⟩
  username := rfl
  privileges := ⟨_, rfl, fun _ ↦ List.mem_map⟩

/-- The set of a user that was loaded. -/
theorem UserRow.mem_load_set (r : UserRow) :
    {a | a ∈ r.load.privileges.set} = some '' r.account.privileges := by
  ext a
  constructor
  · intro ha
    rcases a with _ | p
    · exact absurd ha PersistentSet.none_not_mem_load_set
    · exact ⟨p, PersistentSet.some_mem_load_set.1 ha, rfl⟩
  · rintro ⟨p, hp, rfl⟩
    exact PersistentSet.some_mem_load_set.2 hp

/-- A response with a token that is issued for a user. -/
theorem means_tokenOf {tokenType name : String} {env : Environment} {u : User}
    (hid : JavaInteger.InRange u.id) :
    Response.Means
      ⟨200, .token (TokenHandler.tokenOf tokenType (TokenHandler.claimsFor env name u))⟩
      (.token name {a | a ∈ u.privileges.set}) :=
  .token TokenHandler.claims_tokenOf (TokenHandler.claimsFor_says hid)

/-! ### The methods behind the filter -/

section

variable {tokenType : String} {env : Environment} {db : Database} {r : UserRow} {ok : Prop}
  {before after : Registry} {reply : Reply}

/-- A weaker promise. -/
theorem Agrees.imp {ok' : Prop} {o : Outcome} (h : Agrees ok before after reply o)
    (hok : ok' → ok) : Agrees ok' before after reply o := by
  obtain ⟨hafter, hmeans⟩ | ⟨hfails, hregistry, hstatus⟩ := h
  · exact .kept hafter hmeans
  · exact .lost (fun h ↦ hfails (hok h)) hregistry hstatus

/-- A request that is refused with an error, and should be. -/
theorem Agrees.of_status {response : Response} {d : Database} (hd : d.rows = db.rows)
    (hstatus : response.status ≠ 200) :
    Agrees ok before db.registry (.refused response.status) ⟨response, d, []⟩ :=
  .kept (Database.registry_of_rows_eq hd) (.refused hstatus)

/-- A request that is refused with an error, because something has failed. -/
theorem Agrees.of_failure {response : Response} {d : Database} (hd : d.rows = db.rows)
    (hfails : ¬ ok) (hstatus : response.status = 500 ∨ response.status = 404) :
    Agrees ok db.registry after reply ⟨response, d, []⟩ :=
  .lost hfails (Or.inl (Database.registry_of_rows_eq hd)) hstatus

/-- A method that schedules nothing and answers as it should. -/
theorem Agrees.of_readOnly {response : Response} (hmeans : response.Means reply)
    (hok : ok → env.commitFails = false) :
    Agrees ok db.registry db.registry reply ⟨readOnlyResponse env (.ok response), db, []⟩ := by
  rw [readOnlyResponse]
  split
  · next hcommit =>
    exact .of_failure rfl (fun h ↦ Bool.false_ne_true ((hok h).symm.trans hcommit)) (Or.inl rfl)
  · exact .kept rfl hmeans

/-- A failing commit does not hide that something has failed. -/
theorem readOnlyResponse_status {response : Response}
    (h : response.status = 500 ∨ response.status = 404) :
    (readOnlyResponse env (.ok response)).status = 500 ∨
      (readOnlyResponse env (.ok response)).status = 404 := by
  rw [readOnlyResponse]
  split
  · exact Or.inl rfl
  · exact h

/-- A method that only issues a token. -/
theorem tokenResponse_agrees (hr : r ∈ db.rows) :
    Agrees (Issues tokenType env) db.registry db.registry r.account.token
      (unitOfWork env (tokenResponse tokenType env r.username) db) := by
  have hmeans : Response.Means ⟨200, .token (TokenHandler.tokenOf tokenType
      (TokenHandler.claimsFor env r.username r.load))⟩ r.account.token := by
    rw [Account.token, ← r.mem_load_set]
    exact means_tokenOf (db.consistent.id_inRange r hr)
  rw [unitOfWork_tokenResponse, TokenHandler.buildToken_of_mem hr]
  split_ifs with hvalid hlookup hjose
  · exact .of_failure rfl (fun h ↦ Bool.false_ne_true (h.works.lookup.symm.trans hlookup))
      (Or.inl rfl)
  · exact .of_failure rfl (fun h ↦ h.jose hjose) (readOnlyResponse_status (Or.inl rfl))
  · exact .of_readOnly hmeans fun h ↦ h.works.commit
  · exact .of_failure rfl (fun h ↦ hvalid h.works.tokenType) (Or.inl rfl)

/-- The status of a refusal. -/
theorem refusalResponse_status :
    (refusalResponse env).status = 500 ∨ (refusalResponse env).status = 404 := by
  rw [refusalResponse]
  split
  · exact readOnlyResponse_status (Or.inr rfl)
  · exact Or.inl rfl

/-- The account in a row that is written back right after it was loaded. -/
theorem account_writeBack {u : User}
    (hsnapshot : u.privileges.snapshot = r.load.privileges.snapshot) :
    (r.writeBack u).account =
      ⟨r.username, u.email, u.password, {p | some p ∈ u.privileges.set}⟩ := by
  have hfresh (p : String) : p ∈ r.privileges ↔ p ∈ u.privileges.snapshot := by
    rw [hsnapshot]
    exact PersistentSet.mem_load_snapshot.symm
  have hprivileges : {p | p ∈ u.privileges.writeBack r.privileges} =
      {p | some p ∈ u.privileges.set} :=
    Set.ext fun _ ↦ PersistentSet.mem_writeBack_of_fresh hfresh
  rw [← hprivileges]
  rfl

/-- An account of which only the privileges are changed is stored. -/
theorem perform_of_credentials {u : User} {privileges : Set String}
    {tokenPrivileges : Set (Option String)} (hfits : r.Fits)
    (haccount : (r.writeBack u).account =
      ⟨r.username, u.email, u.password, {p | some p ∈ u.privileges.set}⟩)
    (hcredentials : u.email = r.email ∧ u.password = r.password)
    (hprivileges : {p | some p ∈ u.privileges.set} = privileges)
    (htoken : {a | a ∈ u.privileges.set} = tokenPrivileges) :
    (some { r.account with privileges := privileges }, Reply.token r.username tokenPrivileges) =
      Account.store (some r.account) (r.writeBack u).account
        (.token r.username {a | a ∈ u.privileges.set}) := by
  obtain ⟨hemail, hpassword⟩ := hcredentials
  rw [haccount, hprivileges, htoken, hemail, hpassword]
  exact (if_pos hfits).symm

/-- **What a request writes back is what it does to the account.** -/
theorem perform_of_updated {u : User} {operation : Operation} (hfits : r.Fits)
    (h : operation.updated r.load = some u) :
    r.account.perform operation =
      Account.store (some r.account) (r.writeBack u).account
        (.token r.username {a | a ∈ u.privileges.set}) := by
  have hmem (a : Option String) :
      a ∈ u.privileges.set ↔ operation.Holds (· ∈ r.load.privileges.set) a :=
    Operation.mem_updated h
  obtain ⟨-, -, hsnapshot⟩ := Operation.updated_keeps h
  have haccount := account_writeBack hsnapshot
  unfold Operation.updated at h
  split at h
  · next body =>
    obtain ⟨valid, hvalid, h⟩ := Option.bind_eq_some_iff.1 h
    obtain ⟨hname, h⟩ := Option.ite_none_right_eq_some.1 h
    obtain rfl := Option.some.inj h
    have hread : (Body.value body).readValid = .ok (some valid) :=
      readValid_eq_ok_some_iff.2 ⟨body, rfl, hvalid⟩
    have htoken : {a | a ∈ r.load.privileges.set} = some '' r.account.privileges := r.mem_load_set
    have hprivileges : {p | some p ∈ r.load.privileges.set} = r.account.privileges :=
      Set.ext fun _ ↦ PersistentSet.some_mem_load_set
    rw [Account.perform, hread, haccount]
    show (if r.username = valid.username then _ else _) = _
    rw [if_pos (show r.username = valid.username from hname)]
    show _ = Account.store _ ⟨_, _, _, {p | some p ∈ r.load.privileges.set}⟩
      (.token r.username {a | a ∈ r.load.privileges.set})
    rw [hprivileges, htoken]
    rfl
  · next newPriviliges =>
    obtain rfl := Option.some.inj h
    refine perform_of_credentials hfits haccount ?_ ?_ ?_
    · rw [User.foldl_addPrivilege]
      exact ⟨rfl, rfl⟩
    · exact Set.ext fun p ↦ (hmem (some p)).trans (or_congr_left PersistentSet.some_mem_load_set)
    · rw [← r.mem_load_set]
      exact Set.ext hmem
  · next priviligesToRemove =>
    obtain rfl := Option.some.inj h
    refine perform_of_credentials hfits haccount ?_ ?_ ?_
    · rw [User.foldl_removePrivilige]
      exact ⟨rfl, rfl⟩
    · exact Set.ext fun p ↦ (hmem (some p)).trans (and_congr_left' PersistentSet.some_mem_load_set)
    · rw [← r.mem_load_set]
      exact Set.ext hmem
  · cases h

/-- An account whose row is there is the one in the registry. -/
theorem update_registry_self (hr : r ∈ db.rows) :
    Function.update db.registry (some r.username) (some r.account) = db.registry := by
  rw [← Database.registry_of_mem hr, Function.update_eq_self]

/-- A method that writes its principal back. -/
theorem updateAndReissue_agrees {u : User} (hr : r ∈ db.rows) (hid : u.id = r.id)
    (hname : u.username = r.username) :
    let done := Account.store (some r.account) (r.writeBack u).account
      (.token r.username {a | a ∈ u.privileges.set})
    Agrees (Issues tokenType env) db.registry
      (Function.update db.registry (some r.username) done.1) done.2
      (unitOfWork env (updateAndReissue tokenType env u) db) := by
  dsimp only
  by_cases hstorable : (r.writeBack u).account.Storable
  · rw [Account.store, if_pos hstorable]
    obtain ⟨d, hupdate⟩ : ∃ d, db.update u = some d :=
      Database.exists_update_iff.2 ⟨⟨r, hr, hid.symm, hname.symm⟩, hstorable.2⟩
    by_cases hworks : Works tokenType env
    · have hregistry := Database.registry_update hupdate hr hid.symm
      have hrange : JavaInteger.InRange u.id := hid ▸ db.consistent.id_inRange r hr
      rw [updateAndReissue_of_update hworks hupdate, reissueResponse, hname]
      split
      · next hjose => exact .lost (fun h ↦ h.jose hjose) (Or.inr hregistry) (Or.inl rfl)
      · exact .kept hregistry (means_tokenOf hrange)
    · rw [updateAndReissue_of_not fun h ↦ hworks h.1]
      exact .of_failure rfl (fun h ↦ hworks h.works) refusalResponse_status
  · have hno : ¬ ∃ d, db.update u = some d := fun h ↦
      hstorable ⟨(db.consistent.fits r hr).1, (Database.exists_update_iff.1 h).2⟩
    rw [Account.store, if_neg hstorable, updateAndReissue_of_not fun h ↦ hno h.2,
      update_registry_self hr]
    rcases hwrite : env.writeFails with _ | _
    · have hrefusal : refusalResponse env = ⟨500, .framework⟩ := by
        rw [refusalResponse, hwrite]
        rfl
      have hstatus : (⟨500, .framework⟩ : Response).status ≠ 200 := by decide
      rw [hrefusal]
      exact .of_status rfl hstatus
    · exact .of_failure rfl (fun h ↦ Bool.false_ne_true (h.works.write.symm.trans hwrite))
        refusalResponse_status

/-- A method with a parameter. -/
theorem withParameter_agrees {α : Type} {parameter : Except JavaException (Option α)}
    {method : Option α → Handler} {name : Option String} {old : Option Account}
    {serve : α → Option Account × Reply} (hold : Function.update db.registry name old = db.registry)
    (hnull : ∀ s, method none s = (.error .nullPointer, s))
    (hsome : ∀ value, parameter = .ok (some value) →
      Agrees ok db.registry (Function.update db.registry name (serve value).1) (serve value).2
        (unitOfWork env (method (some value)) db)) :
    let done := Account.given old parameter serve
    Agrees ok db.registry (Function.update db.registry name done.1) done.2
      (unitOfWork env (withParameter parameter method) db) := by
  dsimp only
  rcases parameter with e | _ | value
  · have hmethod : withParameter (.error e) method (Session.openSession db) =
        (.error e, Session.openSession db) := rfl
    rw [unitOfWork_of_error hmethod, Account.given, hold]
    exact .of_status rfl e.toResponse_status_ne
  · have hmethod : withParameter (.ok none) method (Session.openSession db) =
        (.error .nullPointer, Session.openSession db) := hnull _
    rw [unitOfWork_of_error hmethod, Account.given, hold]
    exact .of_status rfl JavaException.nullPointer.toResponse_status_ne
  · exact hsome value rfl

theorem Body.eq_of_read {α : Type} {body : Body α} {value : α} (h : body.read = .ok (some value)) :
    body = .value value := by
  rcases body with _ | _ | a
  · cases h
  · cases h
  · obtain rfl := Option.some.inj (Except.ok.inj h)
    rfl

/-- `PUT /user` with a body that it does not write. -/
theorem updateUser_agrees {body : Body SignUpUser} (hr : r ∈ db.rows)
    (hupdated : (Operation.updateUser body).updated r.load = none) :
    let done := r.account.perform (.updateUser body)
    Agrees (Issues tokenType env) db.registry
      (Function.update db.registry (some r.username) done.1) done.2
      ((Call.bearer r.load (.updateUser body)).handle tokenType env db) := by
  refine withParameter_agrees (update_registry_self hr) (fun _ ↦ rfl) fun valid hread ↦ ?_
  obtain ⟨user, rfl, hvalid⟩ := readValid_eq_ok_some_iff.1 hread
  have hname : ¬ r.username = valid.username := by
    intro hname
    have hwritten : (Operation.updateUser (.value user)).updated r.load =
        some ((r.load.setEmail valid.email).setPassword valid.password) := by
      show (user.validate.bind fun v ↦ _) = _
      rw [hvalid, Option.bind_some]
      exact if_pos hname
    cases hupdated.symm.trans hwritten
  have hmethod : UserResource.updateUser tokenType env r.load (some valid)
      (Session.openSession db) =
        (.ok ⟨400, .text "Usernames are permanent and can't be changed!"⟩,
          Session.openSession db) :=
    if_neg hname
  have hmeans : Response.Means ⟨400, .text "Usernames are permanent and can't be changed!"⟩
      (.refused 400) := .refused (by decide)
  rw [unitOfWork_of_readOnly hmethod, if_neg (show ¬ r.account.username = _ from hname),
    update_registry_self hr]
  exact .of_readOnly hmeans fun h ↦ h.works.commit

/-- `DELETE /user`. -/
theorem deleteUser_agrees (hr : r ∈ db.rows) :
    Agrees (Issues tokenType env) db.registry
      (Function.update db.registry (some r.username) none) .done
      (unitOfWork env (UserResource.deleteUser env r.load) db) := by
  rcases hwrite : env.writeFails with _ | _
  · rw [unitOfWork_deleteUser r.load hwrite]
    rcases hcommit : env.commitFails with _ | _
    · obtain ⟨d, hd⟩ : ∃ d, db.delete r.load = some d := Database.exists_delete_iff.2 ⟨r, hr, rfl⟩
      rw [if_neg Bool.false_ne_true, hd]
      exact .kept (Database.registry_delete hd hr rfl) .done
    · rw [if_pos rfl]
      exact .of_failure rfl (fun h ↦ Bool.false_ne_true (h.works.commit.symm.trans hcommit))
        (Or.inl rfl)
  · rw [unitOfWork_deleteUser_of_writeFails r.load hwrite]
    exact .of_failure rfl (fun h ↦ Bool.false_ne_true (h.works.write.symm.trans hwrite))
      (readOnlyResponse_status (Or.inr rfl))

/-- **The methods behind the JWT filter do to the account in the row what they should.** -/
theorem perform_agrees (hr : r ∈ db.rows) (operation : Operation) :
    let done := r.account.perform operation
    Agrees (Issues tokenType env) db.registry
      (Function.update db.registry (some r.username) done.1) done.2
      ((Call.bearer r.load operation).handle tokenType env db) := by
  dsimp only
  rcases hupdated : operation.updated r.load with _ | u
  · rcases operation with body | _ | _ | _ | body | body
    · exact updateUser_agrees hr hupdated
    · exact deleteUser_agrees hr
    · rw [Account.perform, update_registry_self hr]
      exact tokenResponse_agrees hr
    · have hmethod : AuthorizationResource.getPriviliges r.load (Session.openSession db) =
          (.ok ⟨200, .privileges r.load.getPrivileges⟩, Session.openSession db) := rfl
      rw [Account.perform, update_registry_self hr, Call.handle]
      refine unitOfWork_of_readOnly hmethod ▸ .of_readOnly (.privileges fun a ↦ ?_)
        fun h ↦ h.works.commit
      rw [← r.mem_load_set]
      exact Iff.rfl
    · refine withParameter_agrees (update_registry_self hr) (fun _ ↦ rfl) fun value hread ↦ ?_
      obtain rfl := Body.eq_of_read hread
      cases hupdated
    · refine withParameter_agrees (update_registry_self hr) (fun _ ↦ rfl) fun value hread ↦ ?_
      obtain rfl := Body.eq_of_read hread
      cases hupdated
  · have hcall : (Call.bearer r.load operation).updated = some u := hupdated
    obtain ⟨hid, hname, -⟩ := Operation.updated_keeps hupdated
    rw [perform_of_updated (db.consistent.fits r hr) hupdated, Call.handle_of_updated hcall]
    exact updateAndReissue_agrees hr hid hname

/-! ### Signing up -/

/-- What commits nothing leaves the rows alone. -/
theorem Effect.rows_of_committed_nil {call : Call} {o : Outcome}
    (h : Effect tokenType env call db o) (hnil : o.committed = []) : o.db.rows = db.rows := by
  cases h with
  | nothing hrows => exact hrows
  | issued => rfl
  | created => cases hnil
  | updated => cases hnil
  | deleted => cases hnil

/-- The account in a row that is inserted. -/
theorem account_newRow (valid : ValidSignUpUser) :
    (newRow db valid).account = ⟨valid.username, valid.email, valid.password, ∅⟩ := by
  have hnone : {p | p ∈ ([] : List String)} = ∅ :=
    Set.eq_empty_of_forall_notMem fun _ ↦ List.not_mem_nil
  rw [← hnone]
  rfl

/-- **`POST /user` does to the name what it should.** -/
theorem createUser_agrees {body : Body SignUpUser} {name : Option String}
    (hname : ∀ valid, body.readValid = .ok (some valid) → name = some valid.username) :
    let done := Account.given (db.registry name) body.readValid (Account.signUp (db.registry name))
    Agrees (env.Stores ∧ JavaInteger.InRange db.sequence) db.registry
      (Function.update db.registry name done.1) done.2
      ((Call.createUser body).handle tokenType env db) := by
  refine withParameter_agrees (Function.update_eq_self name _) (fun _ ↦ rfl) fun valid hread ↦ ?_
  obtain rfl := hname valid hread
  obtain ⟨user, rfl, hvalid⟩ := readValid_eq_ok_some_iff.1 hread
  have heffect := @createUser_effect tokenType env db user valid hvalid
  have houtcome := @createUser_outcome env db valid
  generalize unitOfWork env (UserResource.createUser env (some valid)) db = o
    at heffect houtcome ⊢
  cases houtcome with
  | failed hcause =>
    have hrows := heffect.rows_of_committed_nil rfl
    obtain hfails | hfails | ⟨hfree, hfails | hfails | hfits⟩ := hcause
    · exact .of_failure hrows (fun h ↦ Bool.false_ne_true (h.1.lookup.symm.trans hfails))
        (Or.inl rfl)
    · exact .of_failure hrows (fun h ↦ Bool.false_ne_true (h.1.commit.symm.trans hfails))
        (Or.inl rfl)
    · exact .of_failure hrows (fun h ↦ Bool.false_ne_true (h.1.write.symm.trans hfails))
        (Or.inl rfl)
    · exact .of_failure hrows (fun h ↦ hfails h.2) (Or.inl rfl)
    · -- the database has refused what the table has no room for
      have hnone : db.registry (some valid.username) = none :=
        Database.registry_eq_none_iff.2 hfree
      have hstorable : ¬ Account.Storable ⟨valid.username, valid.email, valid.password, ∅⟩ := hfits
      have hstatus : (⟨500, .framework⟩ : Response).status ≠ 200 := by decide
      rw [hnone, Account.signUp, Account.store, if_neg hstorable, ← hnone, Function.update_eq_self]
      exact .of_status hrows hstatus
  | taken htaken =>
    obtain ⟨r, hr, hrname⟩ := htaken
    have hsome : db.registry (some valid.username) = some r.account :=
      hrname ▸ Database.registry_of_mem hr
    rw [hsome, Account.signUp, ← hsome, Function.update_eq_self]
    exact .kept rfl (.refused (by decide : 409 ≠ 200))
  | stored hfree hfits _ _ hrows =>
    have hnone : db.registry (some valid.username) = none := Database.registry_eq_none_iff.2 hfree
    have hstorable : Account.Storable ⟨valid.username, valid.email, valid.password, ∅⟩ := hfits
    rw [hnone, Account.signUp, Account.store, if_pos hstorable, ← account_newRow]
    exact .kept (Database.registry_append hrows) .done

end

/-! ### Serving a request -/

section

variable {tokenType : String} {db : Database} {r : UserRow} {x : Exchange}

/-- Right claims, unless the lookup fails. -/
theorem JWTAuthenticator.authenticate_of_authenticates {env : Environment} {claims : JwtClaims}
    (hr : r ∈ db.rows) (hclaims : Authenticates claims r) :
    authenticate env claims (Session.openSession db) =
      if env.lookupFails then .error (.authentication "database unavailable")
      else .ok (some r.load) := by
  rcases hlookup : env.lookupFails with _ | _
  · exact authenticate_eq_ok_some_iff.2 ⟨hlookup, r, hr, hclaims, rfl⟩
  · obtain ⟨⟨sub, id, hsubject, hparse⟩, husername, elements, harray, -⟩ := hclaims
    have hanswer := @authenticate_answer env claims db sub hsubject
    generalize authenticate env claims (Session.openSession db) = answer at hanswer ⊢
    cases hanswer with
    | notNumber h => cases hparse.symm.trans h
    | wrongUsername _ h => exact absurd husername (h (some r.username))
    | noPrivileges _ _ h => cases harray.symm.trans h
    | wrongPrivileges _ _ h => exact absurd harray (h elements)
    | noUsername => rfl
    | unavailable => rfl
    | refused _ _ _ h => cases hlookup.symm.trans h
    | found _ _ h => cases hlookup.symm.trans h

/-- The same for a password. -/
theorem BasicAuthenticator.authenticate_of_password {env : Environment} (hr : r ∈ db.rows) :
    authenticate env ⟨r.username, r.password⟩ (Session.openSession db) =
      if env.lookupFails then .error (.authentication "database unavailable")
      else .ok (some r.username) := by
  rcases hlookup : env.lookupFails with _ | _
  · exact authenticate_eq_ok_some_iff.2 ⟨hlookup, rfl, r, hr, rfl, rfl⟩
  · rw [authenticate, isValidCredentials, UserDAO.findByName_some, if_pos hlookup]
    rfl

/-- A filter that does not get at the database, or not out of its transaction, answers 500. -/
theorem filterResponse_of_not_reads {α : Type} {env : Environment}
    {authenticator : Session → Except JavaException (Option α)} {principal : α}
    (hreads : ¬ env.Reads) (hanswer : authenticator (Session.openSession db) =
      if env.lookupFails then .error (.authentication "database unavailable")
      else .ok (some principal)) :
    filterResponse (transact env (reading authenticator) db).1 = .error ⟨500, .framework⟩ := by
  rw [transact_reading, hanswer]
  rcases hlookup : env.lookupFails with _ | _
  · rcases hcommit : env.commitFails with _ | _
    · exact absurd ⟨hlookup, hcommit⟩ hreads
    · rfl
  · rcases env.commitFails with _ | _ <;> rfl

/-- A request that is turned away, and should be. -/
theorem Exchange.agrees_of_turnedAway {response : Response}
    (hauth : x.request.authenticate tokenType x.authEnv db = .error response)
    (hserve : Account.serve tokenType (db.registry (x.name tokenType)) x =
      (db.registry (x.name tokenType), .turnedAway)) :
    Agrees (x.Healthy tokenType db) db.registry (Registry.next tokenType db.registry x)
      (Registry.reply tokenType db.registry x) (x.serve tokenType db) := by
  obtain ⟨hstatus, hentity⟩ := response_of_authenticate_eq_error hauth
  rw [Registry.next, Registry.reply, Family.step, Family.answer, hserve, Function.update_eq_self,
    Exchange.serve, hauth]
  exact .kept rfl (.turnedAway hstatus hentity)

/-- A request that is turned away because the filter cannot read the database. -/
theorem Exchange.agrees_of_unreachable (hreads : ¬ x.authEnv.Reads)
    (hauth : x.request.authenticate tokenType x.authEnv db = .error ⟨500, .framework⟩) :
    Agrees (x.Healthy tokenType db) db.registry (Registry.next tokenType db.registry x)
      (Registry.reply tokenType db.registry x) (x.serve tokenType db) := by
  rw [Exchange.serve, hauth]
  exact .of_failure rfl (fun h ↦ hreads h.reads) (Or.inl rfl)

/-- A request that is let through as the account that it names. -/
theorem Exchange.agrees_of_call {call : Call} {done : Option Account × Reply} (hr : r ∈ db.rows)
    (hauth : x.request.authenticate tokenType x.authEnv db = .ok call)
    (hname : x.name tokenType = some r.username)
    (hserve : Account.serve tokenType (some r.account) x = done)
    (h : Agrees (Issues tokenType x.env) db.registry
      (Function.update db.registry (some r.username) done.1) done.2
      (call.handle tokenType x.env db)) :
    Agrees (x.Healthy tokenType db) db.registry (Registry.next tokenType db.registry x)
      (Registry.reply tokenType db.registry x) (x.serve tokenType db) := by
  rw [Registry.next, Registry.reply, Family.step, Family.answer, hname,
    Database.registry_of_mem hr, hserve, Exchange.serve, hauth]
  exact h.imp fun h ↦ h.issues

/-- **A login is served as it should be.** -/
theorem login_agrees {credentials : Option BasicCredentials}
    (hrequest : x.request = .login credentials) :
    Agrees (x.Healthy tokenType db) db.registry (Registry.next tokenType db.registry x)
      (Registry.reply tokenType db.registry x) (x.serve tokenType db) := by
  by_cases h : ∃ r ∈ db.rows, credentials = some ⟨r.username, r.password⟩
  · obtain ⟨r, hr, rfl⟩ := h
    by_cases hreads : x.authEnv.Reads
    · have hauth : x.request.authenticate tokenType x.authEnv db = .ok (.login r.username) := by
        rw [hrequest]
        exact authenticate_login_eq_ok_iff.2 ⟨hreads, r, hr, rfl, rfl⟩
      have hname : x.name tokenType = some r.username := by
        rw [Exchange.name, hrequest]
        rfl
      have hserve : Account.serve tokenType (some r.account) x =
          (some r.account, r.account.token) := by
        rw [Account.serve, hrequest]
        exact if_pos rfl
      refine Exchange.agrees_of_call hr hauth hname hserve ?_
      rw [update_registry_self hr]
      exact tokenResponse_agrees hr
    · refine Exchange.agrees_of_unreachable hreads ?_
      rw [hrequest]
      exact map_eq_error_iff.2
        (filterResponse_of_not_reads hreads (BasicAuthenticator.authenticate_of_password hr))
  · rcases hauth : x.request.authenticate tokenType x.authEnv db with response | call
    · refine Exchange.agrees_of_turnedAway hauth ?_
      rcases credentials with _ | credentials
      · rw [Exchange.name, Account.serve, hrequest]
        rfl
      · have hname : x.name tokenType = some credentials.username := by
          rw [Exchange.name, hrequest]
          rfl
        rw [hname]
        rcases ha : db.registry (some credentials.username) with _ | a
        · rw [Account.serve, hrequest]
        · obtain ⟨r, hr, -, rfl⟩ := Database.registry_eq_some_iff.1 ha
          rw [Account.serve, hrequest]
          exact if_neg fun hcredentials ↦ h ⟨r, hr, hcredentials⟩
    · rw [hrequest] at hauth
      obtain ⟨-, r, hr, hcredentials, -⟩ := authenticate_login_eq_ok_iff.1 hauth
      exact absurd ⟨r, hr, hcredentials⟩ h

/-- **A request with a token is served as it should be.** -/
theorem bearer_agrees {token : Token} {operation : Operation}
    (hrequest : x.request = .bearer token operation) :
    Agrees (x.Healthy tokenType db) db.registry (Registry.next tokenType db.registry x)
      (Registry.reply tokenType db.registry x) (x.serve tokenType db) := by
  by_cases h : ∃ r ∈ db.rows, ∃ claims,
      JwtConsumer.process tokenType x.authEnv.now token = some claims ∧ Authenticates claims r
  · obtain ⟨r, hr, claims, hprocess, hclaims⟩ := h
    by_cases hreads : x.authEnv.Reads
    · have hauth : x.request.authenticate tokenType x.authEnv db =
          .ok (.bearer r.load operation) := by
        rw [hrequest]
        exact authenticate_bearer_eq_ok_iff.2 ⟨claims, hprocess, hreads, r, hr, hclaims, rfl⟩
      have hname : x.name tokenType = some r.username := by
        simp only [Exchange.name, hrequest, hprocess, hclaims.username]
      have hserve : Account.serve tokenType (some r.account) x = r.account.perform operation := by
        rw [Account.serve, hrequest]
        exact if_pos ⟨claims, hprocess, authenticates_iff_says.1 hclaims⟩
      exact Exchange.agrees_of_call hr hauth hname hserve (perform_agrees hr operation)
    · refine Exchange.agrees_of_unreachable hreads ?_
      rw [hrequest, Request.authenticate, map_eq_error_iff, jwtFilter, hprocess]
      exact filterResponse_of_not_reads hreads
        (JWTAuthenticator.authenticate_of_authenticates hr hclaims)
  · rcases hauth : x.request.authenticate tokenType x.authEnv db with response | call
    · refine Exchange.agrees_of_turnedAway hauth ?_
      rcases ha : db.registry (x.name tokenType) with _ | a
      · rw [Account.serve, hrequest]
      · rcases hname : x.name tokenType with _ | n
        · rw [hname] at ha
          cases ha
        · rw [hname] at ha
          obtain ⟨r, hr, -, rfl⟩ := Database.registry_eq_some_iff.1 ha
          rw [Account.serve, hrequest]
          refine if_neg ?_
          rintro ⟨claims, hprocess, hclaims⟩
          exact h ⟨r, hr, claims, hprocess, authenticates_iff_says.2 hclaims⟩
    · rw [hrequest] at hauth
      obtain ⟨claims, hprocess, -, r, hr, hclaims, -⟩ := authenticate_bearer_eq_ok_iff.1 hauth
      exact absurd ⟨r, hr, claims, hprocess, hclaims⟩ h

/-- **A request does what it should, unless something fails.** -/
theorem Exchange.serve_agrees (x : Exchange) (db : Database) :
    Agrees (x.Healthy tokenType db) db.registry (Registry.next tokenType db.registry x)
      (Registry.reply tokenType db.registry x) (x.serve tokenType db) := by
  rcases hrequest : x.request with body | credentials | ⟨token, operation⟩
  · have hname (valid : ValidSignUpUser) (hread : body.readValid = .ok (some valid)) :
        x.name tokenType = some valid.username := by
      obtain ⟨user, rfl, hvalid⟩ := readValid_eq_ok_some_iff.1 hread
      rw [Exchange.name, hrequest]
      exact SignUpUser.username_of_validate hvalid
    have hagrees := @createUser_agrees tokenType x.env db body _ hname
    rw [Registry.next, Registry.reply, Family.step, Family.answer, Account.serve, Exchange.serve,
      hrequest]
    exact hagrees.imp fun h ↦ ⟨h.issues.works.toStores, h.inRange⟩
  · exact login_agrees hrequest
  · exact bearer_agrees hrequest

end

/-! ### Runs -/

section

variable {tokenType : String} {db db' : Database} {xs ys : List Exchange}

/-- One request that is served while nothing fails. -/
theorem Exchange.refines (db : Database) (registry : Registry) (x : Exchange)
    (hdb : db.registry = registry) (hx : x.Healthy tokenType db) :
    (x.next tokenType db).registry = Registry.next tokenType registry x ∧
      (x.serve tokenType db).response.Means (Registry.reply tokenType registry x) := by
  subst hdb
  obtain ⟨hafter, hmeans⟩ | ⟨hfails, -, -⟩ := @Exchange.serve_agrees tokenType x db
  · exact ⟨hafter, hmeans⟩
  · exact absurd hx hfails

/-- **The service is a family of accounts**, one for each name, as long as nothing fails: the
accounts that are stored in the end are those that the requests should have led to, and every
response means what it should. -/
theorem registry_serveAll
    (h : Machine.Throughout (Exchange.next tokenType) (fun db x ↦ x.Healthy tokenType db) db xs) :
    (serveAll tokenType db xs).registry =
        Machine.run (Registry.next tokenType) db.registry xs ∧
      List.Forall₂ Response.Means
        (Machine.answers (Exchange.next tokenType) (fun db x ↦ (x.serve tokenType db).response)
          db xs)
        (Machine.answers (Registry.next tokenType) (Registry.reply tokenType) db.registry xs) :=
  Machine.run_lockstep Exchange.refines rfl h

theorem Request.healthy_quietly (request : Request) (hrange : JavaInteger.InRange db.sequence) :
    request.quietly.Healthy "jws" db where
  reads := ⟨rfl, rfl⟩
  issues := ⟨⟨⟨rfl, rfl, rfl⟩, Or.inl rfl⟩, (by decide : ¬ TokenHandler.JoseFails "jws" .quiet)⟩
  inRange := hrange

/-- Alice signs up and adds a list; bob signs up in between. -/
def aliceThenBob : List Exchange :=
  [aliceSignsUp.quietly, bobSignsUp.quietly, aliceAddsTodo.quietly]

theorem healthy_aliceThenBob : Machine.Throughout (Exchange.next "jws")
    (fun db x ↦ x.Healthy "jws" db) .empty aliceThenBob :=
  ⟨Request.healthy_quietly _ (by decide +kernel), Request.healthy_quietly _ (by decide +kernel),
    Request.healthy_quietly _ (by decide +kernel), trivial⟩

theorem registry_serveAll_todo :
    (serveAll "jws" .empty aliceThenBob).registry =
      Machine.run (Registry.next "jws") Database.empty.registry aliceThenBob :=
  (registry_serveAll healthy_aliceThenBob).1

/-- Unless it is a 500 or a 404, a response says that the request has been done, and with what
result. -/
def Response.Acknowledges (response : Response) (reply : Reply × Bool) : Prop :=
  response.status ≠ 500 → response.status ≠ 404 → reply.2 = true ∧ response.Means reply.1

/-- One request, whatever fails. -/
theorem Exchange.refines_lossy (db : Database) (registry : Registry) (x : Exchange)
    (hdb : db.registry = registry) :
    ∃ b, (x.next tokenType db).registry = Machine.lossy (Registry.next tokenType) registry (x, b) ∧
      (x.serve tokenType db).response.Acknowledges (Registry.reply tokenType registry x, b) := by
  subst hdb
  obtain ⟨hafter, hmeans⟩ | ⟨-, hbefore | hafter, hstatus⟩ := @Exchange.serve_agrees tokenType x db
  · exact ⟨true, hafter, fun _ _ ↦ ⟨rfl, hmeans⟩⟩
  · exact ⟨false, hbefore, fun h h' ↦ absurd hstatus (not_or.2 ⟨h, h'⟩)⟩
  · exact ⟨true, hafter, fun h h' ↦ absurd hstatus (not_or.2 ⟨h, h'⟩)⟩

/-- **Whatever fails**, the service takes some of the steps that the family of accounts would take,
in the same order and each of them as a whole. Those it leaves out are answered 500 or 404; a
request that is answered in another way has been done, and the response means what it should. -/
theorem registry_serveAll_lossy (tokenType : String) (db : Database) (xs : List Exchange) :
    ∃ zs : List (Exchange × Bool), zs.map Prod.fst = xs ∧
      (serveAll tokenType db xs).registry =
        Machine.run (Registry.next tokenType) db.registry ((zs.filter Prod.snd).map Prod.fst) ∧
      List.Forall₂ Response.Acknowledges
        (Machine.answers (Exchange.next tokenType) (fun db x ↦ (x.serve tokenType db).response)
          db xs)
        (Machine.answers (Machine.lossy (Registry.next tokenType))
          (fun registry z ↦ (Registry.reply tokenType registry z.1, z.2)) db.registry zs) := by
  obtain ⟨zs, hzs, hlast, hanswers⟩ :=
    Machine.run_lockstep_lossy (@Exchange.refines_lossy tokenType) rfl xs
  exact ⟨zs, hzs, hlast.trans (Machine.run_lossy _ _ _), hanswers⟩

/-- The responses to the requests about a name. -/
theorem own_refines {registry : Registry} (name : Option String) (hdb : db.registry = registry)
    (h : Machine.Throughout (Exchange.next tokenType) (fun db x ↦ x.Healthy tokenType db) db xs) :
    List.Forall₂ Response.Means
      (Machine.ownAnswers (Exchange.next tokenType) (fun db x ↦ (x.serve tokenType db).response)
        (fun _ x ↦ x.name tokenType = name) db xs)
      (Machine.ownAnswers (Registry.next tokenType) (Registry.reply tokenType)
        (fun _ x ↦ x.name tokenType = name) registry xs) :=
  Machine.ownAnswers_lockstep Exchange.refines hdb h

/-- **Requests about different names commute.** While nothing fails, two sequences in which the
requests about each name come in the same order lead to the same accounts, and for each name the
responses to the requests about it say the same. What ids the accounts have got, and in which order
they are stored, does not matter. -/
theorem serveAll_reorder (hdb : db.registry = db'.registry)
    (hxs : Machine.Throughout (Exchange.next tokenType) (fun db x ↦ x.Healthy tokenType db) db xs)
    (hys : Machine.Throughout (Exchange.next tokenType) (fun db x ↦ x.Healthy tokenType db) db' ys)
    (h : ∀ name, (xs.filter fun x ↦ x.name tokenType = name) =
      ys.filter fun x ↦ x.name tokenType = name) :
    (serveAll tokenType db xs).registry = (serveAll tokenType db' ys).registry ∧
      ∀ name, ∃ replies,
        List.Forall₂ Response.Means
          (Machine.ownAnswers (Exchange.next tokenType) (fun db x ↦ (x.serve tokenType db).response)
            (fun _ x ↦ x.name tokenType = name) db xs) replies ∧
        List.Forall₂ Response.Means
          (Machine.ownAnswers (Exchange.next tokenType) (fun db x ↦ (x.serve tokenType db).response)
            (fun _ x ↦ x.name tokenType = name) db' ys) replies := by
  have hlast {db : Database} {xs : List Exchange} (hxs : Machine.Throughout
      (Exchange.next tokenType) (fun db x ↦ x.Healthy tokenType db) db xs) :
      (serveAll tokenType db xs).registry =
        Machine.run (Registry.next tokenType) db.registry xs :=
    (Machine.run_lockstep Exchange.refines rfl hxs).1
  refine ⟨?_, fun name ↦ ⟨_, own_refines name rfl hxs, ?_⟩⟩
  · calc (serveAll tokenType db xs).registry
        = Machine.run (Registry.next tokenType) db.registry xs := hlast hxs
      _ = Machine.run (Registry.next tokenType) db.registry ys := Family.run_eq_of_filter_eq h _
      _ = Machine.run (Registry.next tokenType) db'.registry ys := by rw [hdb]
      _ = (serveAll tokenType db' ys).registry := (hlast hys).symm
  · have hsame : Machine.ownAnswers (Registry.next tokenType) (Registry.reply tokenType)
        (fun _ x ↦ x.name tokenType = name) db.registry xs =
          Machine.ownAnswers (Registry.next tokenType) (Registry.reply tokenType)
            (fun _ x ↦ x.name tokenType = name) db.registry ys :=
      Family.ownAnswers_eq_of_filter_eq (h name) db.registry
    rw [hsame]
    exact own_refines name hdb.symm hys

/-- Bob signs up first. -/
def bobThenAlice : List Exchange :=
  [bobSignsUp.quietly, aliceSignsUp.quietly, aliceAddsTodo.quietly]

theorem serveAll_reorder_todo :
    (serveAll "jws" .empty aliceThenBob).registry =
      (serveAll "jws" .empty bobThenAlice).registry := by
  have hfilter (name : Option String) :
      (aliceThenBob.filter fun x ↦ x.name "jws" = name) =
        bobThenAlice.filter fun x ↦ x.name "jws" = name := by
    have halice : aliceSignsUp.quietly.name "jws" = some "alice" := rfl
    have hbob : bobSignsUp.quietly.name "jws" = some "bob" := rfl
    by_cases hname : some "alice" = name
    · obtain rfl := hname
      decide +kernel
    · simp only [aliceThenBob, bobThenAlice, List.filter_cons, halice, hbob, decide_eq_true_eq,
        if_neg hname]
  have hhealthy : Machine.Throughout (Exchange.next "jws") (fun db x ↦ x.Healthy "jws" db) .empty
      bobThenAlice :=
    ⟨Request.healthy_quietly _ (by decide +kernel), Request.healthy_quietly _ (by decide +kernel),
      Request.healthy_quietly _ (by decide +kernel), trivial⟩
  exact (serveAll_reorder rfl healthy_aliceThenBob hhealthy hfilter).1

end

end DseAuth
