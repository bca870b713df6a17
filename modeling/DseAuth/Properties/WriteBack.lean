import DseAuth.Properties.Privileges

/-!
# Writing a principal back

`PUT /user`, `PUT /authorization` and `DELETE /authorization` change the user their authentication
has loaded, in a transaction of its own, and write it back in another. Nothing connects the two: no
lock is taken and no version is compared. What is written is the whole of the credentials, and of
the privileges the difference to what was loaded.

* `failed_request_changes_nothing_iff` — what a request that is not answered 200 may have written;
* `stored_eq_lastWrite` — what is stored after any schedule, from the log of what was written;
* `last_token_accepted_iff` — when the token of the last writer agrees with what is stored.
-/

namespace DseAuth

variable {tokenType : String}

/-! ### Requests that fail -/

/-- The requests that write their principal back. -/
def Operation.Writes : Operation → Prop
  | .updateUser _ => True
  | .addPrivileges _ => True
  | .removePrivileges _ => True
  | _ => False

/-- A request that is not answered 200 has left the database as it was; the token that was sent with
it, like every other, is accepted as before. -/
def InFlight.FailsCleanly (f : InFlight tokenType) (env : Environment) (db : Database) : Prop :=
  (f.call.handle tokenType env db).response.status ≠ 200 →
    (f.call.handle tokenType env db).db = db ∧
      ∀ next token operation r, (Request.bearer token operation).AcceptedAs tokenType next db r →
        (Request.bearer token operation).AcceptedAs tokenType next
          (f.call.handle tokenType env db).db r

/-- The signature, or the encryption, fails while everything else works, and there is something to
write. -/
def InFlight.WrittenUnsigned (f : InFlight tokenType) (env : Environment) (db : Database) : Prop :=
  Works tokenType env ∧ TokenHandler.JoseFails tokenType env ∧
    ∃ u, f.call.updated = some u ∧ db.Changes u

/-- A request that does not get to its write changes nothing. -/
theorem Call.handle_of_not_updated {user : User} {operation : Operation}
    (hwrites : operation.Writes) (h : operation.updated user = none) (env : Environment)
    (db : Database) :
    ((Call.bearer user operation).handle tokenType env db).db = db := by
  have heffect := @Call.handle_effect tokenType env (.bearer user operation) db
  generalize (Call.bearer user operation).handle tokenType env db = o at heffect ⊢
  cases heffect with
  | nothing _ _ hdb =>
    rcases hdb with rfl | ⟨body, hbody⟩
    · rfl
    · cases hbody
  | issued => rfl
  | created hcall => cases hcall
  | updated hcall => cases h.symm.trans hcall
  | deleted hcall =>
    obtain ⟨rfl, rfl⟩ := Call.bearer.inj hcall
    cases hwrites

/-- **When a request that fails changes nothing**: always, except where the token cannot be signed
or encrypted after the principal has been written. The response is a 500 then, and the transaction
is committed, because the method returns it. -/
theorem failed_request_changes_nothing_iff (f : InFlight tokenType) {token : Token}
    {operation : Operation} (hrequest : f.request = .bearer token operation)
    (hwrites : operation.Writes) (env : Environment) (db : Database) :
    f.FailsCleanly env db ↔ ¬ f.WrittenUnsigned env db := by
  have hclean (hdb : (f.call.handle tokenType env db).db = db) : f.FailsCleanly env db := by
    intro _
    rw [hdb]
    exact ⟨rfl, fun _ _ _ _ haccepted ↦ haccepted⟩
  obtain ⟨user, hcall⟩ : ∃ user, f.call = .bearer user operation := by
    have haccepted := f.accepted
    rw [hrequest] at haccepted
    obtain ⟨-, -, -, r, -, -, hcall⟩ := authenticate_bearer_eq_ok_iff.1 haccepted
    exact ⟨r.load, hcall.symm⟩
  rcases hupdated : f.call.updated with _ | u
  · refine iff_of_true (hclean ?_) ?_
    · rw [hcall] at hupdated ⊢
      exact Call.handle_of_not_updated hwrites hupdated env db
    · rintro ⟨-, -, u, hu, -⟩
      cases hupdated.symm.trans hu
  · by_cases hwritten : Works tokenType env ∧ ∃ db', db.update u = some db'
    · obtain ⟨hworks, d, hupdate⟩ := hwritten
      have hout := updateAndReissue_of_update hworks hupdate
      rw [← Call.handle_of_updated hupdated] at hout
      by_cases hjose : TokenHandler.JoseFails tokenType env
      · -- committed without a token
        have hstatus : (f.call.handle tokenType env db).response.status ≠ 200 := by
          rw [hout, reissueResponse, if_pos hjose]
          show (500 : ℕ) ≠ 200
          decide
        have hself : (f.call.handle tokenType env db).db = db ↔ ¬ db.Changes u := by
          rw [hout]
          exact Database.update_eq_self_iff hupdate
        constructor
        · rintro hfails ⟨-, -, u', hu', hchanges⟩
          obtain rfl := Option.some.inj (hupdated.symm.trans hu')
          exact hself.1 (hfails hstatus).1 hchanges
        · intro hno
          exact hclean (hself.2 fun hchanges ↦ hno ⟨hworks, hjose, u, hupdated, hchanges⟩)
      · refine iff_of_true (fun hstatus ↦ absurd ?_ hstatus) fun hno ↦ hjose hno.2.1
        rw [hout, reissueResponse, if_neg hjose]
    · have hout := updateAndReissue_of_not hwritten
      rw [← Call.handle_of_updated hupdated] at hout
      refine iff_of_true (hclean (by rw [hout])) ?_
      rintro ⟨hworks, -, u', hu', hchanges⟩
      obtain rfl := Option.some.inj (hupdated.symm.trans hu')
      exact hwritten ⟨hworks, Database.exists_update_of_changes hchanges⟩

/-- Alice's `PUT /authorization`, after its first step. -/
def aliceAddingTodo : InFlight "jws" where
  request := aliceAddsTodo
  authEnv := .quiet
  seen := serveAll "jws" .empty [aliceSignsUp.quietly]
  call := .bearer ⟨1, "alice", "alice@a", "secret", PersistentSet.load []⟩
    (.addPrivileges (.value [some "todo"]))
  accepted := by rfl

theorem failed_request_changes_nothing_iff_todo :
    aliceAddingTodo.FailsCleanly .quiet (serveAll "jws" .empty [aliceSignsUp.quietly]) ↔
      ¬ aliceAddingTodo.WrittenUnsigned .quiet (serveAll "jws" .empty [aliceSignsUp.quietly]) :=
  failed_request_changes_nothing_iff aliceAddingTodo rfl trivial _ _

/-- When the signature fails, alice's request is answered 500 and her new privilege is stored all
the same; the token she has used is turned away from then on. -/
theorem unsigned_request_written :
    let db := serveAll "jws" .empty [aliceSignsUp.quietly]
    let o := aliceAddingTodo.call.handle "jws" { Environment.quiet with signingFails := true } db
    o.response = ⟨500, .none⟩ ∧ db.rows.map UserRow.privileges = [[]] ∧
      o.db.rows.map UserRow.privileges = [["todo"]] ∧
      ((Request.bearer (.jws aliceClaims) .getPriviliges).quietly.serve "jws" db).response.status =
        200 ∧
      ((Request.bearer (.jws aliceClaims) .getPriviliges).quietly.serve "jws"
        o.db).response.status = 401 := by
  decide +kernel

/-! ### Requests that overtake each other -/

/-- The user an event has written over the account with this id. -/
def Event.written (e : Event tokenType) (id : ℤ) : Option User :=
  match e.outcome.committed with
  | [.update u] => if u.id = id then some u else none
  | _ => none

/-- The email and the password a request writes over its principal's: those in the body of a
`PUT /user`, and otherwise those that its authentication has read. -/
def Operation.credentials (user : User) : Operation → String × String
  | .updateUser (.value ⟨_, some email, some password⟩) => (email, password)
  | _ => (user.email, user.password)

/-- What a request does to a privilege, when its authentication has read the set `held`: only an
addition of what is not held and a removal of what is change anything. -/
def Operation.changes (held : JavaSet String) (p : String) : Operation → Option Bool
  | .addPrivileges (.value newPriviliges) =>
    if some p ∈ newPriviliges ∧ p ∉ held then some true else none
  | .removePrivileges (.value priviligesToRemove) =>
    if some p ∈ priviligesToRemove ∧ p ∈ held then some false else none
  | _ => none

/-- The credentials an event has written for the account with this id. -/
def Event.setsCredentials (id : ℤ) (e : Event tokenType) : Option (String × String) :=
  match e.call with
  | .bearer user operation => (e.written id).map fun _ ↦ operation.credentials user
  | _ => none

/-- What an event has done to a privilege of the account with this id. -/
def Event.setsPrivilege (id : ℤ) (p : String) (e : Event tokenType) : Option Bool :=
  match e.call with
  | .bearer user operation =>
    (e.written id).bind fun _ ↦ operation.changes user.privileges.snapshot p
  | _ => none

theorem Operation.credentials_of_updated {user u : User} {operation : Operation}
    (h : operation.updated user = some u) :
    (u.email, u.password) = operation.credentials user := by
  unfold Operation.updated at h
  split at h
  · next body =>
    obtain ⟨valid, hvalid, h⟩ := Option.bind_eq_some_iff.1 h
    obtain ⟨-, h⟩ := Option.ite_none_right_eq_some.1 h
    obtain rfl := Option.some.inj h
    rw [SignUpUser.eq_of_validate hvalid]
    rfl
  · obtain rfl := Option.some.inj h
    rw [User.foldl_addPrivilege]
    rfl
  · obtain rfl := Option.some.inj h
    rw [User.foldl_removePrivilige]
    rfl
  · cases h

/-- What `changes` says is what becomes of the object: the privileges it leaves out are as they were
loaded, the others are as it says. -/
theorem Operation.changes_of_updated {q : UserRow} {u : User} {operation : Operation}
    (h : operation.updated q.load = some u) (p : String) :
    (operation.changes q.load.privileges.snapshot p = none ↔ ¬ u.privileges.Changed p) ∧
      ∀ b, operation.changes q.load.privileges.snapshot p = some b →
        (some p ∈ u.privileges.set ↔ b = true) := by
  have hload : some p ∈ q.load.privileges.set ↔ p ∈ q.load.privileges.snapshot :=
    PersistentSet.some_mem_load_set.trans PersistentSet.mem_load_snapshot.symm
  rw [PersistentSet.Changed, (Operation.updated_keeps h).2.2, not_not]
  generalize hchanges : operation.changes q.load.privileges.snapshot p = c
  unfold Operation.changes at hchanges
  split at hchanges
  · next newPriviliges =>
    have hset : some p ∈ u.privileges.set ↔
        p ∈ q.load.privileges.snapshot ∨ some p ∈ newPriviliges :=
      (Operation.mem_updated h).trans (or_congr_left hload)
    split at hchanges
    · -- it is named and not held yet
      next hnew =>
      obtain rfl := hchanges
      refine ⟨iff_of_false (Option.some_ne_none _) (by tauto), fun b hb ↦ ?_⟩
      exact iff_of_true (hset.2 (Or.inr hnew.1)) (Option.some.inj hb).symm
    · next hold =>
      obtain rfl := hchanges
      exact ⟨iff_of_true rfl (by tauto), fun b hb ↦ absurd hb.symm (Option.some_ne_none b)⟩
  · next priviligesToRemove =>
    have hset : some p ∈ u.privileges.set ↔
        p ∈ q.load.privileges.snapshot ∧ some p ∉ priviligesToRemove :=
      (Operation.mem_updated h).trans (and_congr_left' hload)
    split at hchanges
    · next hold =>
      obtain rfl := hchanges
      refine ⟨iff_of_false (Option.some_ne_none _) (by tauto), fun b hb ↦ ?_⟩
      obtain rfl := Option.some.inj hb
      exact iff_of_false (fun hmem ↦ (hset.1 hmem).2 hold.1) Bool.false_ne_true
    · next hnew =>
      obtain rfl := hchanges
      exact ⟨iff_of_true rfl (by tauto), fun b hb ↦ absurd hb.symm (Option.some_ne_none b)⟩
  · next hadd hremove =>
    obtain rfl := hchanges
    have hset : some p ∈ u.privileges.set ↔ p ∈ q.load.privileges.snapshot := by
      refine (Operation.mem_updated h).trans ?_
      unfold Operation.Holds
      split
      · exact absurd rfl (hadd _)
      · exact absurd rfl (hremove _)
      · exact hload
    exact ⟨iff_of_true rfl hset.symm, fun b hb ↦ absurd hb.symm (Option.some_ne_none b)⟩

/-- The privileges of a row that is written back, from what it held and what the request changes. -/
theorem Operation.mem_writeBack_of_changes {q r : UserRow} {u : User} {operation : Operation}
    (h : operation.updated q.load = some u) {p : String} :
    p ∈ (r.writeBack u).privileges ↔
      (operation.changes q.load.privileges.snapshot p).getD (decide (p ∈ r.privileges)) = true := by
  obtain ⟨hnone, hsome⟩ := Operation.changes_of_updated h p
  rcases hchanges : operation.changes q.load.privileges.snapshot p with _ | b
  · rw [Option.getD_none, decide_eq_true_iff]
    exact PersistentSet.mem_writeBack_of_not_changed (hnone.1 hchanges)
  · have hchanged : u.privileges.Changed p := by
      by_contra hno
      rw [hnone.2 hno] at hchanges
      cases hchanges
    rw [Option.getD_some, ← hsome b hchanges]
    exact PersistentSet.mem_writeBack_of_changed hchanged

/-- **The row of an account after an event**: the old one, with what the event has written over it.
Only a new account has no old row. -/
theorem Event.mem_outcome {e : Event tokenType} {r' : UserRow} (hr' : r' ∈ e.outcome.db.rows) :
    (∃ r ∈ e.before.rows, r.id = r'.id ∧
        (e.written r'.id = none ∧ r' = r ∨
          ∃ u, e.call.updated = some u ∧ e.written r'.id = some u ∧ r' = r.writeBack u)) ∨
      r'.id = e.before.sequence := by
  have heffect := @Call.handle_effect tokenType e.env e.call e.before
  rw [Event.written, Event.outcome] at *
  generalize e.call.handle tokenType e.env e.before = o at hr' heffect ⊢
  cases heffect with
  | nothing hrows => exact Or.inl ⟨r', hrows ▸ hr', rfl, Or.inl ⟨rfl, rfl⟩⟩
  | issued => exact Or.inl ⟨r', hr', rfl, Or.inl ⟨rfl, rfl⟩⟩
  | created _ _ hrows =>
    rw [hrows, List.mem_append, List.mem_singleton] at hr'
    rcases hr' with hr' | rfl
    · exact Or.inl ⟨r', hr', rfl, Or.inl ⟨rfl, rfl⟩⟩
    · exact Or.inr rfl
  | @updated u d hcall _ hupdate =>
    obtain ⟨r, hr, hr', hid, -⟩ := Database.exists_mem_of_mem_update hupdate hr'
    refine Or.inl ⟨r, hr, hid, ?_⟩
    rw [← hid]
    by_cases hu : r.id = u.id
    · exact Or.inr ⟨u, hcall, if_pos hu.symm, hr'.trans (if_pos hu)⟩
    · exact Or.inl ⟨if_neg (Ne.symm hu), hr'.trans (if_neg hu)⟩
  | deleted _ hdelete =>
    exact Or.inl ⟨r', ((Database.mem_delete_iff hdelete).1 hr').1, rfl, Or.inl ⟨rfl, rfl⟩⟩

/-- What the log says about the row of the account that was `r₀` at the start. -/
structure State.FollowsLog (r₀ : UserRow) (s : State tokenType) : Prop where
  /-- The id has been given out. -/
  id_lt : r₀.id < s.db.sequence
  /-- The credentials. -/
  credentials : ∀ r ∈ s.db.rows, r.id = r₀.id → (r.email, r.password) =
    lastWrite (Event.setsCredentials r₀.id) s.log (r₀.email, r₀.password)
  /-- The privileges. -/
  privileges : ∀ r ∈ s.db.rows, r.id = r₀.id → ∀ p, p ∈ r.privileges ↔
    lastWrite (Event.setsPrivilege r₀.id p) s.log (decide (p ∈ r₀.privileges)) = true

theorem State.FollowsLog.step {r₀ : UserRow} {s : State tokenType} (h : s.FollowsLog r₀)
    (x : Step) : (s.step x).FollowsLog r₀ := by
  obtain hs | ⟨f, -, hs⟩ | ⟨i, e, -, hbefore, -, hs⟩ := s.step_cases x
  · rw [hs]
    exact h
  · rw [hs]
    exact ⟨h.id_lt, h.credentials, h.privileges⟩
  · have hlt : r₀.id < e.before.sequence := hbefore ▸ h.id_lt
    have hle : e.before ≤ e.outcome.db := e.call.le_handle e.before
    -- the row before the event, and what the event has written over it
    have hrow {r' : UserRow} (hr' : r' ∈ e.outcome.db.rows) (hid : r'.id = r₀.id) :
        ∃ r ∈ s.db.rows, r.id = r₀.id ∧
          (r'.email, r'.password) = (e.setsCredentials r₀.id).getD (r.email, r.password) ∧
            ∀ p, p ∈ r'.privileges ↔
              (e.setsPrivilege r₀.id p).getD (decide (p ∈ r.privileges)) = true := by
      obtain ⟨r, hr, hrid, hwritten⟩ | hnew := Event.mem_outcome hr'
      · rw [hid] at hrid hwritten
        refine ⟨r, hbefore ▸ hr, hrid, ?_⟩
        rw [Event.setsCredentials]
        simp only [Event.setsPrivilege]
        obtain ⟨hnone, rfl⟩ | ⟨u, hu, hsome, rfl⟩ := hwritten
        · rw [hnone]
          cases e.call <;> simp
        · obtain ⟨-, operation, -, q, -, hcall, hoperation⟩ := exists_of_updated e.accepted hu
          rw [hsome, hcall]
          exact ⟨Operation.credentials_of_updated hoperation, fun p ↦
            Operation.mem_writeBack_of_changes hoperation⟩
      · omega
    rw [hs]
    refine ⟨hlt.trans_le hle.1, fun r' hr' hid ↦ ?_, fun r' hr' hid p ↦ ?_⟩
    · obtain ⟨r, hr, hrid, hcredentials, -⟩ := hrow hr' hid
      rw [lastWrite_cons, hcredentials, h.credentials r hr hrid]
    · obtain ⟨r, hr, hrid, -, hprivileges⟩ := hrow hr' hid
      have hold : decide (p ∈ r.privileges) =
          lastWrite (Event.setsPrivilege r₀.id p) s.log (decide (p ∈ r₀.privileges)) :=
        Bool.eq_iff_iff.2 (decide_eq_true_iff.trans (h.privileges r hr hrid p))
      rw [lastWrite_cons, hprivileges p, hold]

/-- **What is stored is what was written last.** After any schedule the email and the password of an
account are those of the last request on it that was committed: the ones in the body if that was a
`PUT /user`, and the ones its authentication had read if it was a `PUT` or a `DELETE` of
privileges. A privilege is stored just when the last committed request that named it, and found it
to be a change of the set its authentication had read, was a `PUT`. -/
theorem stored_eq_lastWrite (db : Database) (steps : List Step) {r₀ r : UserRow}
    (hr₀ : r₀ ∈ db.rows) (hr : r ∈ ((State.start tokenType db).run steps).db.rows)
    (hid : r.id = r₀.id) :
    (r.email, r.password) = lastWrite (Event.setsCredentials r₀.id)
        ((State.start tokenType db).run steps).log (r₀.email, r₀.password) ∧
      ∀ p, p ∈ r.privileges ↔ lastWrite (Event.setsPrivilege r₀.id p)
        ((State.start tokenType db).run steps).log (decide (p ∈ r₀.privileges)) = true := by
  have hstart : (State.start tokenType db).FollowsLog r₀ := by
    refine ⟨db.consistent.id_lt r₀ hr₀, fun r hr hid ↦ ?_, fun r hr hid p ↦ ?_⟩
    · obtain rfl := db.consistent.eq_of_id hr hr₀ hid
      rfl
    · obtain rfl := db.consistent.eq_of_id hr hr₀ hid
      exact decide_eq_true_iff.symm
  have hend : ((State.start tokenType db).run steps).FollowsLog r₀ :=
    Machine.run_invariant_of_forall (fun _ x hs ↦ hs.step x) hstart steps
  exact ⟨hend.credentials r hr hid, hend.privileges r hr hid⟩

/-- Alice changes her email and her password. -/
def aliceChangesEmail : Request :=
  .bearer (.jws aliceClaims) (.updateUser (.value ⟨some "alice", some "new@a", some "changed"⟩))

/-- Alice adds a list, and changes her credentials before that is through. -/
def overtakingSteps : List Step :=
  [.authenticate .quiet aliceAddsTodo, .authenticate .quiet aliceChangesEmail, .handle 1 .quiet,
    .handle 0 .quiet]

theorem stored_eq_lastWrite_overtaking :
    ("alice@a", "secret") = lastWrite (Event.setsCredentials 1)
        ((State.start "jws" (serveAll "jws" .empty [aliceSignsUp.quietly])).run overtakingSteps).log
        ("alice@a", "secret") ∧
      ∀ p, p ∈ ["todo"] ↔ lastWrite (Event.setsPrivilege 1 p)
        ((State.start "jws" (serveAll "jws" .empty [aliceSignsUp.quietly])).run overtakingSteps).log
        (decide (p ∈ ([] : List String))) = true := by
  have hr₀ : (⟨1, "alice", "alice@a", "secret", []⟩ : UserRow) ∈
      (serveAll "jws" .empty [aliceSignsUp.quietly]).rows := by
    decide +kernel
  have hr : (⟨1, "alice", "alice@a", "secret", ["todo"]⟩ : UserRow) ∈ ((State.start "jws"
      (serveAll "jws" .empty [aliceSignsUp.quietly])).run overtakingSteps).db.rows := by
    decide +kernel
  exact stored_eq_lastWrite _ overtakingSteps hr₀ hr rfl

/-- Both requests are answered 200, and the new credentials are lost. -/
theorem credentials_lost :
    let s := (State.start "jws" (serveAll "jws" .empty [aliceSignsUp.quietly])).run overtakingSteps
    s.inFlight.isEmpty = true ∧
      s.log.map (fun e ↦ (e.request, e.outcome.response.status)) =
        [(aliceAddsTodo, 200), (aliceChangesEmail, 200)] ∧
      s.db.rows = [⟨1, "alice", "alice@a", "secret", ["todo"]⟩] := by
  decide +kernel

/-! ### The token of the last writer -/

/-- An event that commits nothing leaves the rows as they were. -/
theorem Event.rows_of_committed_nil {e : Event tokenType} (h : e.outcome.committed = []) :
    e.outcome.db.rows = e.before.rows := by
  have heffect := @Call.handle_effect tokenType e.env e.call e.before
  rw [Event.outcome] at h ⊢
  generalize e.call.handle tokenType e.env e.before = o at h heffect ⊢
  cases heffect with
  | nothing hrows => exact hrows
  | issued => rfl
  | created => cases h
  | updated => cases h
  | deleted => cases h

/-- The rows that are stored are those the last event has left that committed something. -/
def State.FollowsLast (s : State tokenType) : Prop :=
  ∀ later e earlier, s.log = later ++ e :: earlier → (∀ e' ∈ later, e'.outcome.committed = []) →
    s.db.rows = e.outcome.db.rows

theorem State.FollowsLast.step {s : State tokenType} (h : s.FollowsLast) (x : Step) :
    (s.step x).FollowsLast := by
  obtain hs | ⟨f, -, hs⟩ | ⟨i, e₀, -, hbefore, -, hs⟩ := s.step_cases x
  · rw [hs]
    exact h
  · rw [hs]
    exact h
  · rw [hs]
    intro later e earlier hlog hlater
    cases later with
    -- the newest event has committed something
    | nil =>
      obtain ⟨rfl, -⟩ := List.cons.inj hlog
      rfl
    -- it has not, so the rows are those it found
    | cons e' later =>
      obtain ⟨rfl, hrest⟩ := List.cons.inj hlog
      have hrows : e₀.outcome.db.rows = s.db.rows := by
        rw [Event.rows_of_committed_nil (hlater e₀ List.mem_cons_self), hbefore]
      exact hrows.trans
        (h later e earlier hrest fun e' he' ↦ hlater e' (List.mem_cons_of_mem e₀ he'))

/-- Nobody has disturbed the event: on the privileges that its request does not change itself, what
its authentication has read is what was stored when it was handled. -/
def Event.Undisturbed (e : Event tokenType) : Prop :=
  ∀ user operation, e.call = .bearer user operation → (operation.updated user).isSome →
    ∀ r ∈ e.before.rows, r.id = user.id → ∀ p,
      operation.changes user.privileges.snapshot p = none →
        (p ∈ r.privileges ↔ p ∈ user.privileges.snapshot)

/-- For an event that has written its principal over the row `r`: the two privilege sets agree on
what the principal has not changed. -/
theorem Event.undisturbed_iff {e : Event tokenType} {q r : UserRow} {u : User}
    {operation : Operation} (hcall : e.call = .bearer q.load operation)
    (hoperation : operation.updated q.load = some u) (hr : r ∈ e.before.rows) (hid : r.id = q.id) :
    e.Undisturbed ↔
      ∀ p, ¬ u.privileges.Changed p → (p ∈ r.privileges ↔ p ∈ u.privileges.snapshot) := by
  rw [(Operation.updated_keeps hoperation).2.2]
  constructor
  · intro hundisturbed p hunchanged
    exact hundisturbed q.load operation hcall (by rw [hoperation]; rfl) r hr hid p
      ((Operation.changes_of_updated hoperation p).1.2 hunchanged)
  · intro hagree user' operation' hcall' _ r' hr' hr'id p hchanges
    obtain ⟨rfl, rfl⟩ := Call.bearer.inj (hcall.symm.trans hcall')
    obtain rfl := e.before.consistent.eq_of_id hr' hr (hr'id.trans hid.symm)
    exact hagree p ((Operation.changes_of_updated hoperation p).1.1 hchanges)

/-- **When the token of the last writer is usable**: when nobody has come in between. A refresh is
never disturbed. The event is the last that has committed anything, or that was handled at all. -/
theorem last_token_accepted_iff (db : Database) (steps : List Step)
    {later earlier : List (Event tokenType)} {e : Event tokenType}
    (hlog : ((State.start tokenType db).run steps).log = later ++ e :: earlier)
    (hlater : ∀ e' ∈ later, e'.outcome.committed = []) {token : Token} {claims : JwtClaims}
    (hresponse : e.outcome.response = ⟨200, .token token⟩) (hclaims : token.claims = some claims)
    (hnull : ¬ e.request.AddsNull) {env : Environment} (hlookup : env.lookupFails = false) :
    (∃ u, JWTAuthenticator.authenticate env claims
        (Session.openSession ((State.start tokenType db).run steps).db) = .ok (some u)) ↔
      e.Undisturbed := by
  have hfollows : ((State.start tokenType db).run steps).FollowsLast :=
    Machine.run_invariant_of_forall (fun _ x hs ↦ hs.step x)
      (fun later e earlier hlog ↦ absurd hlog (by simp [State.start])) steps
  have hrows := hfollows later e earlier hlog hlater
  have hentity : e.outcome.response.entity = .token token := by rw [hresponse]
  obtain ⟨-, r, hr, u, hid, hname, rfl, hcase⟩ := Call.token_handle hentity
  rw [TokenHandler.claims_tokenOf] at hclaims
  obtain rfl := Option.some.inj hclaims
  have hrange : JavaInteger.InRange u.id := hid ▸ e.before.consistent.id_inRange r hr
  rcases hcase with ⟨hreissues, rfl, hdb, -⟩ | ⟨hupdated, hupdate, -⟩
  · -- a login or a refresh, whose token is for the row as it is stored
    have hr' : r ∈ ((State.start tokenType db).run steps).db.rows := by
      rw [hrows, Event.outcome, hdb]
      exact hr
    refine iff_of_true ?_ ?_
    · rw [JWTAuthenticator.exists_authenticate_iff hlookup hr' TokenHandler.username_claimsFor,
        TokenHandler.authenticates_claimsFor_iff hrange]
      exact ⟨PersistentSet.none_not_mem_load_set, fun p ↦ PersistentSet.some_mem_load_set⟩
    · intro user operation hcall hsome
      have hnone := Call.updated_of_reissues hreissues
      rw [hcall] at hnone
      have hnot : operation.updated user = none := hnone
      rw [hnot] at hsome
      cases hsome
  · -- a request that has written its principal over `r`
    obtain ⟨t, operation, hrequest, q, -, hcall, hoperation⟩ :=
      exists_of_updated e.accepted hupdated
    have huid : u.id = q.id := (Operation.updated_keeps hoperation).1
    have hr' : r.writeBack u ∈ ((State.start tokenType db).run steps).db.rows := by
      rw [hrows]
      exact Database.writeBack_mem_update hupdate hr hid.symm
    have hnone : none ∉ u.privileges.set := by
      rw [hrequest] at hnull
      exact fun hmem ↦ hnull ((Operation.none_mem_updated hoperation).1 hmem)
    have hname' : (TokenHandler.claimsFor e.env r.username u).getClaimValue "username" =
        .string (r.writeBack u).username := TokenHandler.username_claimsFor
    calc (∃ v, JWTAuthenticator.authenticate env (TokenHandler.claimsFor e.env r.username u)
            (Session.openSession ((State.start tokenType db).run steps).db) = .ok (some v))
        ↔ Authenticates (TokenHandler.claimsFor e.env r.username u) (r.writeBack u) :=
          JWTAuthenticator.exists_authenticate_iff hlookup hr' hname'
      _ ↔ ∀ p, some p ∈ u.privileges.set ↔ p ∈ (r.writeBack u).privileges :=
          (TokenHandler.authenticates_claimsFor_iff (r := r.writeBack u) hrange).trans
            (and_iff_right hnone)
      _ ↔ ∀ p, p ∈ u.privileges.writeBack r.privileges ↔ some p ∈ u.privileges.set :=
          forall_congr' fun p ↦ Iff.comm
      _ ↔ ∀ p, ¬ u.privileges.Changed p → (p ∈ r.privileges ↔ p ∈ u.privileges.snapshot) :=
          PersistentSet.writeBack_agrees_iff
      _ ↔ e.Undisturbed :=
          (Event.undisturbed_iff hcall hoperation hr (hid.symm.trans huid)).symm

/-- Alice adds both lists. -/
def aliceAddsBoth : Request :=
  .bearer (.jws aliceClaims) (.addPrivileges (.value [some "todo", some "other"]))

/-- While alice is adding both lists, another request of hers adds the first of them. -/
def overlappingSteps : List Step :=
  [.authenticate .quiet aliceAddsTodo, .authenticate .quiet aliceAddsBoth, .handle 0 .quiet]

/-- The request for both, as an event. -/
def aliceAddedBoth : Event "jws" where
  request := aliceAddsBoth
  authEnv := .quiet
  seen := serveAll "jws" .empty [aliceSignsUp.quietly]
  call := .bearer ⟨1, "alice", "alice@a", "secret", PersistentSet.load []⟩
    (.addPrivileges (.value [some "todo", some "other"]))
  accepted := by rfl
  env := .quiet
  before :=
    ((State.start "jws" (serveAll "jws" .empty [aliceSignsUp.quietly])).run overlappingSteps).db

/-- The other request has changed nothing but what this one changes as well. -/
theorem last_token_accepted_iff_both : aliceAddedBoth.Undisturbed := by
  obtain ⟨earlier, hlog⟩ : ∃ earlier,
      ((State.start "jws" (serveAll "jws" .empty [aliceSignsUp.quietly])).run
        (overlappingSteps ++ [.handle 0 .quiet])).log = [] ++ aliceAddedBoth :: earlier := ⟨_, rfl⟩
  have hresponse : aliceAddedBoth.outcome.response = ⟨200, .token (.jws aliceBothClaims)⟩ := by
    decide +kernel
  have hnull : ¬ aliceAddedBoth.request.AddsNull := by
    show none ∉ [some "todo", some "other"]
    decide
  have haccepted : JWTAuthenticator.authenticate .quiet aliceBothClaims (Session.openSession
      ((State.start "jws" (serveAll "jws" .empty [aliceSignsUp.quietly])).run
        (overlappingSteps ++ [.handle 0 .quiet])).db) =
      .ok (some ⟨1, "alice", "alice@a", "secret", .load ["todo", "todo", "other"]⟩) := by
    decide +kernel
  exact (last_token_accepted_iff _ _ hlog (fun e' he' ↦ absurd he' List.not_mem_nil) hresponse rfl
    hnull rfl).1 ⟨_, haccepted⟩

/-- Alice asks for a second list. -/
def aliceAddsOther : Request := .bearer (.jws aliceClaims) (.addPrivileges (.value [some "other"]))

/-- Alice adds two lists at the same time. -/
def concurrentSteps : List Step :=
  [.authenticate .quiet aliceAddsTodo, .authenticate .quiet aliceAddsOther, .handle 1 .quiet,
    .handle 0 .quiet]

/-- Both requests are answered 200, both lists are stored, and the token of the second answer, which
knows of one list only, is turned away. -/
theorem last_token_rejected :
    let s := (State.start "jws" (serveAll "jws" .empty [aliceSignsUp.quietly])).run concurrentSteps
    s.inFlight.isEmpty = true ∧
      s.log.map (fun e ↦ (e.request, e.outcome.response.status)) =
        [(aliceAddsTodo, 200), (aliceAddsOther, 200)] ∧
      s.log.head?.map (fun e ↦ e.outcome.response.entity) = some (.token (.jws aliceTodoClaims)) ∧
      s.db.rows = [⟨1, "alice", "alice@a", "secret", ["other", "todo"]⟩] ∧
      JWTAuthenticator.authenticate .quiet aliceTodoClaims (Session.openSession s.db) =
        .ok none := by
  decide +kernel

end DseAuth
