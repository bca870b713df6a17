import DseAuth.Properties.Isolation

/-!
# What the others can see of an account

Nothing, as long as nobody is let through as the account. Two stores that agree on all accounts but
the one with the name `n` (`Database.AgreesBut`) give the same responses in every schedule in which
no request is let through as `n` in either of them, whatever that account holds in the one and in
the other: its id, email, password and privileges, all of it. Attempts to get in are covered: a
wrong password, and a token with privileges that the account does not have, are turned away with the
response that is given for a name that nobody has (`Request.authenticate_of_agreesBut`).

There is one thing that a client can find out, and it is whether the name is taken, by signing up
for it. So the stores have to agree on that too, unless nobody tries (`known`).

The account of a request in flight is not the account `n`, and never becomes it, since an id keeps
its name (`Call.Avoids`, `Call.Bound`); that is what keeps a deletion, which goes by the id, away
from it. **`account_confidential`** is the lockstep rule for the two stores.
-/

namespace DseAuth

variable {tokenType : String} {env : Environment} {n : String} {known : Prop}

/-- The databases agree on everything but the account with the name `n`, and on whether there is one
if that is `known`. -/
structure Database.AgreesBut (n : String) (known : Prop) (db db' : Database) : Prop where
  /-- The other rows are the same, in any order. -/
  rows : ∀ r : UserRow, r.username ≠ n → (r ∈ db.rows ↔ r ∈ db'.rows)
  /-- So is the sequence. -/
  sequence : db.sequence = db'.sequence
  /-- The name is taken in both or in none. -/
  taken : known → ((∃ r ∈ db.rows, r.username = n) ↔ ∃ r ∈ db'.rows, r.username = n)

/-- The call is not let through as `n`, and it does not sign up for `n` unless it is `known` whether
the name is taken. -/
def Call.Avoids (n : String) (known : Prop) : Call → Prop
  | .createUser body => known ∨ ∀ user, body = .value user → user.username ≠ some n
  | .login name => name ≠ n
  | .bearer user _ => user.username ≠ n

/-- The id of the principal does not belong to an account of another name. -/
def Call.Bound (db : Database) : Call → Prop
  | .bearer user _ => ∀ r ∈ db.rows, r.id = user.id → r.username = user.username
  | _ => True

/-- Two outcomes that are the same but for the account with the name `n`. -/
structure Outcome.AgreesBut (n : String) (known : Prop) (o o' : Outcome) : Prop where
  /-- The responses are the same. -/
  response : o.response = o'.response
  /-- The databases agree on everything else. -/
  db : o.db.AgreesBut n known o'.db

/-! ### The two databases -/

namespace Database.AgreesBut

variable {db db' d d' : Database}

theorem symm (h : db.AgreesBut n known db') : db'.AgreesBut n known db :=
  ⟨fun r hr ↦ (h.rows r hr).symm, h.sequence.symm, fun hknown ↦ (h.taken hknown).symm⟩

/-- Another name is looked up. -/
theorem byUsername (h : db.AgreesBut n known db') {m : String} (hm : m ≠ n) :
    db.byUsername m = db'.byUsername m := by
  refine Option.ext fun r ↦ ?_
  rw [Database.byUsername_eq_some_iff, Database.byUsername_eq_some_iff]
  refine and_congr_left fun hname ↦ h.rows r ?_
  exact hname ▸ hm

/-- Another name is taken in both or in none, and `n` is if that is `known`. -/
theorem exists_username_iff (h : db.AgreesBut n known db') {m : String} (hm : m ≠ n ∨ known) :
    (∃ r ∈ db.rows, r.username = m) ↔ ∃ r ∈ db'.rows, r.username = m := by
  by_cases hmn : m = n
  · subst hmn
    exact h.taken (hm.resolve_left fun hne ↦ hne rfl)
  · have hrow (r : UserRow) (hr : r.username = m) : r ∈ db.rows ↔ r ∈ db'.rows :=
      h.rows r (hr ▸ hmn)
    constructor
    · rintro ⟨r, hr, hname⟩
      exact ⟨r, (hrow r hname).1 hr, hname⟩
    · rintro ⟨r, hr, hname⟩
      exact ⟨r, (hrow r hname).2 hr, hname⟩

/-- Both databases use up an id. -/
theorem of_rows_eq (h : db.AgreesBut n known db') (hrows : d.rows = db.rows)
    (hrows' : d'.rows = db'.rows) (hseq : d.sequence = d'.sequence) : d.AgreesBut n known d' := by
  refine ⟨?_, hseq, ?_⟩
  · rw [hrows, hrows']
    exact h.rows
  · rw [hrows, hrows']
    exact h.taken

/-- Both databases get the same row. -/
theorem append (h : db.AgreesBut n known db') {r : UserRow} (hrows : d.rows = db.rows ++ [r])
    (hrows' : d'.rows = db'.rows ++ [r]) (hseq : d.sequence = d'.sequence) :
    d.AgreesBut n known d' := by
  have hmem (P : UserRow → Prop) (rows : List UserRow) :
      (∃ q ∈ rows ++ [r], P q) ↔ (∃ q ∈ rows, P q) ∨ P r := by
    simp only [List.mem_append, List.mem_singleton, or_and_right, exists_or, exists_eq_left]
  refine ⟨fun q hq ↦ ?_, hseq, fun hknown ↦ ?_⟩
  · rw [hrows, hrows', List.mem_append, List.mem_append, h.rows q hq]
  · rw [hrows, hrows', hmem, hmem, h.taken hknown]

/-- Both databases change their rows in the same way, but for the names. -/
theorem map (h : db.AgreesBut n known db') {f : UserRow → UserRow}
    (hf : ∀ r, (f r).username = r.username) (hrows : d.rows = db.rows.map f)
    (hrows' : d'.rows = db'.rows.map f) (hseq : d.sequence = d'.sequence) :
    d.AgreesBut n known d' := by
  have htaken (rows : List UserRow) :
      (∃ q ∈ rows.map f, q.username = n) ↔ ∃ q ∈ rows, q.username = n := by
    constructor
    · rintro ⟨q, hq, hname⟩
      obtain ⟨r, hr, rfl⟩ := List.mem_map.1 hq
      exact ⟨r, hr, (hf r).symm.trans hname⟩
    · rintro ⟨r, hr, hname⟩
      exact ⟨f r, List.mem_map_of_mem hr, (hf r).trans hname⟩
  have hsub {rows rows' : List UserRow} {q : UserRow}
      (hsame : ∀ r : UserRow, r.username ≠ n → (r ∈ rows ↔ r ∈ rows')) (hq : q.username ≠ n)
      (hmem : q ∈ rows.map f) : q ∈ rows'.map f := by
    obtain ⟨r, hr, rfl⟩ := List.mem_map.1 hmem
    exact List.mem_map.2 ⟨r, (hsame r (hf r ▸ hq)).1 hr, rfl⟩
  refine ⟨fun q hq ↦ ?_, hseq, fun hknown ↦ ?_⟩
  · rw [hrows, hrows']
    exact ⟨hsub h.rows hq, hsub h.symm.rows hq⟩
  · rw [hrows, hrows', htaken, htaken]
    exact h.taken hknown

/-- Both databases delete rows of other names. -/
theorem filter (h : db.AgreesBut n known db') {p : UserRow → Bool}
    (hp : ∀ r ∈ db.rows, r.username = n → p r = true)
    (hp' : ∀ r ∈ db'.rows, r.username = n → p r = true) (hrows : d.rows = db.rows.filter p)
    (hrows' : d'.rows = db'.rows.filter p) (hseq : d.sequence = d'.sequence) :
    d.AgreesBut n known d' := by
  have htaken {rows : List UserRow} (hp : ∀ r ∈ rows, r.username = n → p r = true) :
      (∃ q ∈ rows.filter p, q.username = n) ↔ ∃ q ∈ rows, q.username = n := by
    constructor
    · rintro ⟨q, hq, hname⟩
      exact ⟨q, List.mem_of_mem_filter hq, hname⟩
    · rintro ⟨q, hq, hname⟩
      exact ⟨q, List.mem_filter.2 ⟨hq, hp q hq hname⟩, hname⟩
  refine ⟨fun q hq ↦ ?_, hseq, fun hknown ↦ ?_⟩
  · rw [hrows, hrows', List.mem_filter, List.mem_filter, h.rows q hq]
  · rw [hrows, hrows', htaken hp, htaken hp']
    exact h.taken hknown

end Database.AgreesBut

/-! ### What a transaction makes of them -/

section

variable {db db' : Database}

/-- A method that schedules nothing and answers the same. -/
theorem Outcome.agreesBut_readOnly (h : db.AgreesBut n known db') {method : Handler}
    {result : Except JavaException Response}
    (hmethod : method (Session.openSession db) = (result, Session.openSession db))
    (hmethod' : method (Session.openSession db') = (result, Session.openSession db')) :
    (unitOfWork env method db).AgreesBut n known (unitOfWork env method db') := by
  rw [unitOfWork_of_readOnly hmethod, unitOfWork_of_readOnly hmethod']
  exact ⟨rfl, h⟩

/-- A method that schedules one action, which the two databases take or reject together. -/
theorem Outcome.agreesBut_commit {method : Handler} {response : Response} {s s' : Session}
    {action : Action} (hmethod : method (Session.openSession db) = (.ok response, s))
    (hmethod' : method (Session.openSession db') = (.ok response, s'))
    (hactions : s.actions = [action]) (hactions' : s'.actions = [action])
    (hdb : s.db.AgreesBut n known s'.db)
    (hrel : Option.Rel (Database.AgreesBut n known) (action.apply s.db) (action.apply s'.db)) :
    (unitOfWork env method db).AgreesBut n known (unitOfWork env method db') := by
  have hcommit := @commit_singleton env s action hactions
  have hcommit' := @commit_singleton env s' action hactions'
  generalize action.apply s.db = o at hcommit hrel
  generalize action.apply s'.db = o' at hcommit' hrel
  rcases hfails : env.commitFails with _ | _
  · rw [hfails, if_neg Bool.false_ne_true] at hcommit hcommit'
    rcases hrel with ⟨hd⟩ | _
    · rw [unitOfWork_of_commit hmethod hcommit, unitOfWork_of_commit hmethod' hcommit',
        hactions, hactions']
      exact ⟨rfl, hd⟩
    · rw [unitOfWork_of_rollback hmethod hcommit, unitOfWork_of_rollback hmethod' hcommit']
      exact ⟨rfl, hdb⟩
  · rw [hfails, if_pos rfl] at hcommit hcommit'
    rw [unitOfWork_of_rollback hmethod hcommit, unitOfWork_of_rollback hmethod' hcommit']
    exact ⟨rfl, hdb⟩

/-- An insertion is taken by both or by none. -/
theorem Database.AgreesBut.insert (h : db.AgreesBut n known db') {r : UserRow}
    (hid : ∀ q, q ∈ db.rows ∨ q ∈ db'.rows → q.id ≠ r.id) (hname : r.username ≠ n ∨ known) :
    Option.Rel (Database.AgreesBut n known) (db.insert r) (db'.insert r) := by
  have hfree {db : Database} (hid : ∀ q ∈ db.rows, q.id ≠ r.id) :
      (∀ q ∈ db.rows, q.id ≠ r.id ∧ q.username ≠ r.username) ↔
        ¬ ∃ q ∈ db.rows, q.username = r.username := by
    constructor
    · rintro h ⟨q, hq, hname⟩
      exact (h q hq).2 hname
    · exact fun h q hq ↦ ⟨hid q hq, fun hname ↦ h ⟨q, hq, hname⟩⟩
  have hiff : (∃ d, db.insert r = some d) ↔ ∃ d, db'.insert r = some d := by
    rw [Database.exists_insert_iff, Database.exists_insert_iff, hfree fun q hq ↦ hid q (Or.inl hq),
      hfree fun q hq ↦ hid q (Or.inr hq), h.exists_username_iff hname, h.sequence]
  rcases hd : db.insert r with _ | d
  · rcases hd' : db'.insert r with _ | d'
    · exact .none
    · obtain ⟨d, hsome⟩ := hiff.2 ⟨d', hd'⟩
      cases hd.symm.trans hsome
  · obtain ⟨d', hd'⟩ := hiff.1 ⟨d, hd⟩
    obtain ⟨-, hrows, hseq⟩ := Database.insert_eq_some_iff.1 hd
    obtain ⟨-, hrows', hseq'⟩ := Database.insert_eq_some_iff.1 hd'
    rw [hd']
    exact .some (h.append hrows hrows' (hseq.trans (h.sequence.trans hseq'.symm)))

theorem agreesBut_createUser (h : db.AgreesBut n known db') {valid : ValidSignUpUser}
    (hname : valid.username ≠ n ∨ known) :
    (unitOfWork env (UserResource.createUser env (some valid)) db).AgreesBut n known
      (unitOfWork env (UserResource.createUser env (some valid)) db') := by
  have htaken_iff := h.exists_username_iff hname
  have hfree_iff : (∀ r ∈ db.rows, r.username ≠ valid.username) ↔
      ∀ r ∈ db'.rows, r.username ≠ valid.username := by
    simpa only [not_exists, not_and] using not_congr htaken_iff
  by_cases hfails : env.lookupFails = true ∨ (∀ r ∈ db.rows, r.username ≠ valid.username) ∧
      (env.writeFails = true ∨ ¬ JavaInteger.InRange db.sequence)
  · obtain ⟨e, he, hmethod⟩ := createUser_of_failure hfails
    rw [hfree_iff, h.sequence] at hfails
    obtain ⟨e', he', hmethod'⟩ := createUser_of_failure hfails
    rw [unitOfWork_of_error hmethod, unitOfWork_of_error hmethod', he, he']
    exact ⟨rfl, h⟩
  · obtain ⟨hlookup, hrest⟩ := not_or.1 hfails
    have hlookup : env.lookupFails = false := Bool.eq_false_iff.2 hlookup
    by_cases htaken : ∃ r ∈ db.rows, r.username = valid.username
    · exact Outcome.agreesBut_readOnly h (createUser_of_taken htaken hlookup)
        (createUser_of_taken (htaken_iff.1 htaken) hlookup)
    · have hfree : ∀ r ∈ db.rows, r.username ≠ valid.username := by
        simpa only [not_exists, not_and] using htaken
      obtain ⟨hwrite, hrange⟩ := not_or.1 fun hcause ↦ hrest ⟨hfree, hcause⟩
      have hwrite : env.writeFails = false := Bool.eq_false_iff.2 hwrite
      have hrange := not_not.1 hrange
      obtain ⟨d, hrows, hseq, hmethod⟩ := createUser_of_free hfree hrange hlookup hwrite
      obtain ⟨d', hrows', hseq', hmethod'⟩ := createUser_of_free (hfree_iff.1 hfree)
        (h.sequence ▸ hrange) hlookup hwrite
      have hnew : newRow db' valid = newRow db valid := by
        rw [newRow, newRow, h.sequence]
      have hd : d.AgreesBut n known d' :=
        h.of_rows_eq hrows hrows' (by rw [hseq, hseq', h.sequence])
      -- the id was drawn a moment ago, so no row has it
      have hid (q : UserRow) (hq : q ∈ d.rows ∨ q ∈ d'.rows) : q.id ≠ (newRow db valid).id := by
        show q.id ≠ db.sequence
        rw [hrows, hrows'] at hq
        obtain hq | hq := hq
        · have hlt := db.consistent.id_lt q hq
          omega
        · have hlt := db'.consistent.id_lt q hq
          have hseq := h.sequence
          omega
      rw [hnew] at hmethod'
      exact Outcome.agreesBut_commit hmethod hmethod' rfl rfl hd (hd.insert hid hname)

theorem agreesBut_tokenResponse (h : db.AgreesBut n known db') {name : String} (hname : name ≠ n) :
    (unitOfWork env (tokenResponse tokenType env name) db).AgreesBut n known
      (unitOfWork env (tokenResponse tokenType env name) db') := by
  have hfind : UserDAO.findByName env (some name) (Session.openSession db) =
      UserDAO.findByName env (some name) (Session.openSession db') := by
    rw [UserDAO.findByName, UserDAO.findByName]
    show (if _ then _ else Except.ok ((db.byUsername name).map UserRow.load)) = _
    rw [h.byUsername hname]
    rfl
  rw [unitOfWork_tokenResponse, unitOfWork_tokenResponse, TokenHandler.buildToken_eq,
    TokenHandler.buildToken_eq, hfind]
  exact ⟨rfl, h⟩

theorem agreesBut_deleteUser (h : db.AgreesBut n known db') {u : User} (hname : u.username ≠ n)
    (hbound : ∀ r ∈ db.rows, r.id = u.id → r.username = u.username)
    (hbound' : ∀ r ∈ db'.rows, r.id = u.id → r.username = u.username) :
    (unitOfWork env (UserResource.deleteUser env u) db).AgreesBut n known
      (unitOfWork env (UserResource.deleteUser env u) db') := by
  rcases hwrite : env.writeFails with _ | _
  · have hmethod (db : Database) : UserResource.deleteUser env u (Session.openSession db) =
        (.ok ⟨200, .none⟩, (Session.openSession db).delete u) := by
      rw [UserResource.deleteUser, UserDAO.deleteUser, hwrite]
      rfl
    have hrow {db db' : Database} (h : db.AgreesBut n known db')
        (hbound : ∀ r ∈ db.rows, r.id = u.id → r.username = u.username)
        (hr : ∃ r ∈ db.rows, r.id = u.id) : ∃ r ∈ db'.rows, r.id = u.id := by
      obtain ⟨r, hr, hid⟩ := hr
      exact ⟨r, (h.rows r (hbound r hr hid ▸ hname)).1 hr, hid⟩
    have hkeep {db : Database} (hbound : ∀ r ∈ db.rows, r.id = u.id → r.username = u.username)
        (r : UserRow) (hr : r ∈ db.rows) (hrname : r.username = n) :
        decide (r.id ≠ u.id) = true :=
      decide_eq_true fun hid ↦ hname ((hbound r hr hid).symm.trans hrname)
    have hrel : Option.Rel (Database.AgreesBut n known) (db.delete u) (db'.delete u) := by
      rcases hd : db.delete u with _ | d
      · rcases hd' : db'.delete u with _ | d'
        · exact .none
        · obtain ⟨d, hsome⟩ := Database.exists_delete_iff.2
            (hrow h.symm hbound' (Database.exists_delete_iff.1 ⟨d', hd'⟩))
          cases hd.symm.trans hsome
      · obtain ⟨d', hd'⟩ := Database.exists_delete_iff.2
          (hrow h hbound (Database.exists_delete_iff.1 ⟨d, hd⟩))
        obtain ⟨-, hrows, hseq⟩ := Database.delete_eq_some_iff.1 hd
        obtain ⟨-, hrows', hseq'⟩ := Database.delete_eq_some_iff.1 hd'
        rw [hd']
        exact .some (h.filter (hkeep hbound) (hkeep hbound') hrows hrows'
          (hseq.trans (h.sequence.trans hseq'.symm)))
    exact Outcome.agreesBut_commit (hmethod db) (hmethod db') rfl rfl h hrel
  · rw [unitOfWork_deleteUser_of_writeFails u hwrite, unitOfWork_deleteUser_of_writeFails u hwrite]
    exact ⟨rfl, h⟩

theorem agreesBut_updateAndReissue (h : db.AgreesBut n known db') {u : User}
    (hname : u.username ≠ n) :
    (unitOfWork env (updateAndReissue tokenType env u) db).AgreesBut n known
      (unitOfWork env (updateAndReissue tokenType env u) db') := by
  have hrow {db db' : Database} (h : db.AgreesBut n known db')
      (hr : ∃ r ∈ db.rows, r.id = u.id ∧ r.username = u.username) :
      ∃ r ∈ db'.rows, r.id = u.id ∧ r.username = u.username := by
    obtain ⟨r, hr, hid, hrname⟩ := hr
    exact ⟨r, (h.rows r (hrname ▸ hname)).1 hr, hid, hrname⟩
  have hiff : (∃ d, db.update u = some d) ↔ ∃ d, db'.update u = some d := by
    rw [Database.exists_update_iff, Database.exists_update_iff]
    exact and_congr_left' ⟨hrow h, hrow h.symm⟩
  by_cases hwritten : Works tokenType env ∧ ∃ d, db.update u = some d
  · obtain ⟨hworks, d, hd⟩ := hwritten
    obtain ⟨d', hd'⟩ := hiff.1 ⟨d, hd⟩
    obtain ⟨-, hrows, hseq⟩ := Database.update_eq_some_iff.1 hd
    obtain ⟨-, hrows', hseq'⟩ := Database.update_eq_some_iff.1 hd'
    rw [updateAndReissue_of_update hworks hd, updateAndReissue_of_update hworks hd']
    refine ⟨rfl, h.map (fun r ↦ ?_) hrows hrows' (hseq.trans (h.sequence.trans hseq'.symm))⟩
    split
    · rfl
    · rfl
  · rw [updateAndReissue_of_not hwritten,
      updateAndReissue_of_not fun hwritten' ↦ hwritten (hwritten'.imp_right hiff.2)]
    exact ⟨rfl, h⟩

/-- **The second step of a request of somebody else.** -/
theorem Call.handle_agreesBut (h : db.AgreesBut n known db') {call : Call}
    (hcall : call.Avoids n known) (hbound : call.Bound db) (hbound' : call.Bound db') :
    (call.handle tokenType env db).AgreesBut n known (call.handle tokenType env db') := by
  rcases call with body | name | ⟨user, operation⟩
  · rcases hread : body.readValid with e | _ | valid
    · have hmethod (db : Database) : (Call.createUser body).run tokenType env
          (Session.openSession db) = (.error e, Session.openSession db) := by
        rw [Call.run, hread]
        rfl
      exact Outcome.agreesBut_readOnly h (hmethod db) (hmethod db')
    · have hmethod (db : Database) : (Call.createUser body).run tokenType env
          (Session.openSession db) = (.error .nullPointer, Session.openSession db) := by
        rw [Call.run, hread]
        rfl
      exact Outcome.agreesBut_readOnly h (hmethod db) (hmethod db')
    · obtain ⟨user, rfl, hvalid⟩ := readValid_eq_ok_some_iff.1 hread
      have hname : valid.username ≠ n ∨ known := by
        refine hcall.symm.imp_left fun hne hvalidname ↦ hne user rfl ?_
        rw [SignUpUser.username_of_validate hvalid, hvalidname]
      rw [Call.handle, Call.handle, Call.run, hread]
      exact agreesBut_createUser h hname
  · exact agreesBut_tokenResponse h hcall
  · rcases hupdated : operation.updated user with _ | u
    · obtain rfl | rfl | ⟨result, hrun, -⟩ := Operation.run_of_not_updated hupdated
      · exact agreesBut_deleteUser h hcall hbound hbound'
      · exact agreesBut_tokenResponse h hcall
      · exact Outcome.agreesBut_readOnly h (hrun user rfl rfl env _) (hrun user rfl rfl env _)
    · have hupdates : (Call.bearer user operation).updated = some u := hupdated
      have hname : u.username ≠ n := (Operation.updated_keeps hupdated).2.1 ▸ hcall
      rw [Call.handle_of_updated hupdates, Call.handle_of_updated hupdates]
      exact agreesBut_updateAndReissue h hname

end

/-! ### Being turned away -/

section

variable {db db' : Database}

/-- A lookup finds a user, or comes to what it would come to in an empty database. -/
theorem UserDAO.findByName_cases (login : Option String) :
    (∃ u, findByName env login (Session.openSession db) = .ok (some u)) ∨
      findByName env login (Session.openSession db) =
        findByName env login (Session.openSession .empty) := by
  rcases login with _ | login
  · rw [findByName_none, findByName_none]
    exact Or.inr rfl
  · rw [findByName_some, findByName_some]
    rcases env.lookupFails with _ | _
    · rcases db.byUsername login with _ | r
      · exact Or.inr rfl
      · exact Or.inl ⟨r.load, rfl⟩
    · exact Or.inr rfl

/-- Nobody is found in an empty database. -/
theorem UserDAO.findByName_empty {login : Option String} {s : Session} {u : User}
    (h : findByName env login s = .ok (some u)) :
    findByName env login (Session.openSession .empty) = .ok none := by
  obtain ⟨name, rfl⟩ := exists_of_findByName h
  rw [findByName_some, lookup_of_findByName h]
  rfl

/-- Who is turned away is answered as if there were no accounts at all, and without accounts nobody
is let through. -/
theorem JWTAuthenticator.authenticate_cases (claims : JwtClaims) :
    (∃ u, authenticate env claims (Session.openSession db) = .ok (some u) ∧
        authenticate env claims (Session.openSession .empty) = .ok none) ∨
      authenticate env claims (Session.openSession db) =
        authenticate env claims (Session.openSession .empty) := by
  rw [authenticate, authenticate, tryAuthenticate, tryAuthenticate]
  rcases claims.getSubject with e | subject
  · exact Or.inr rfl
  rcases hid : parseInt subject with e | id
  · exact Or.inr (by simp only [hid, bind, Except.bind])
  rcases hname : castString (claims.getClaimValue "username") with e | name
  · exact Or.inr (by simp only [hid, bind, Except.bind])
  rcases hprivileges : castHashSet (claims.getClaimValue "privileges") with e | privileges
  · exact Or.inr (by simp only [hid, bind, Except.bind])
  simp only [hid, bind, Except.bind, pure, Except.pure]
  obtain ⟨u, hfound⟩ | hsame := @UserDAO.findByName_cases env db name
  · simp only [hfound, UserDAO.findByName_empty hfound, Option.bind_some, Option.bind_none]
    -- a user with other privileges is as good as none
    rcases checkPrivileges privileges u with _ | u
    · exact Or.inr rfl
    · exact Or.inl ⟨u, rfl, trivial⟩
  · exact Or.inr (by rw [hsame])

/-- The same for passwords. -/
theorem BasicAuthenticator.authenticate_cases (credentials : BasicCredentials) :
    (∃ name, authenticate env credentials (Session.openSession db) = .ok (some name) ∧
        authenticate env credentials (Session.openSession .empty) = .ok none) ∨
      authenticate env credentials (Session.openSession db) =
        authenticate env credentials (Session.openSession .empty) := by
  rw [authenticate, authenticate, isValidCredentials, isValidCredentials]
  obtain ⟨u, hfound⟩ | hsame := @UserDAO.findByName_cases env db (some credentials.username)
  · rw [hfound, UserDAO.findByName_empty hfound]
    rcases hpassword : u.password == credentials.password with _ | _
    · exact Or.inr (by simp only [hpassword])
    · exact Or.inl ⟨credentials.username, by simp only [hpassword]; rfl, rfl⟩
  · exact Or.inr (by rw [hsame])

/-- What is true of an authenticator is true of its filter, also where the commit fails. -/
theorem filterResponse_cases {α : Type} {authenticator : Session → Except JavaException (Option α)}
    (h : (∃ principal, authenticator (Session.openSession db) = .ok (some principal) ∧
        authenticator (Session.openSession .empty) = .ok none) ∨
      authenticator (Session.openSession db) = authenticator (Session.openSession .empty)) :
    (∃ principal, filterResponse (transact env (reading authenticator) db).1 = .ok principal) ∨
      filterResponse (transact env (reading authenticator) db).1 =
        filterResponse (transact env (reading authenticator) .empty).1 := by
  obtain ⟨principal, hfound, hempty⟩ | hsame := h
  · rw [transact_reading, transact_reading, hfound, hempty]
    rcases env.commitFails with _ | _
    · exact Or.inl ⟨principal, rfl⟩
    · exact Or.inr rfl
  · exact Or.inr (by rw [transact_reading_congr hsame])

theorem Request.authenticate_cases (request : Request) :
    (∃ call, request.authenticate tokenType env db = .ok call) ∨
      request.authenticate tokenType env db = request.authenticate tokenType env .empty := by
  rcases request with body | (_ | credentials) | ⟨token, operation⟩
  · exact Or.inl ⟨.createUser body, rfl⟩
  · exact Or.inr rfl
  · obtain ⟨name, hname⟩ | hnone :=
      filterResponse_cases (@BasicAuthenticator.authenticate_cases env db credentials)
    · exact Or.inl ⟨.login name, map_eq_ok_iff.2 ⟨name, hname, rfl⟩⟩
    · exact Or.inr (congrArg (Except.map Call.login) hnone)
  · rw [Request.authenticate, Request.authenticate, jwtFilter, jwtFilter]
    rcases JwtConsumer.process tokenType env.now token with _ | claims
    · exact Or.inr rfl
    · obtain ⟨user, huser⟩ | hnone :=
        filterResponse_cases (@JWTAuthenticator.authenticate_cases env db claims)
      · exact Or.inl ⟨.bearer user operation, map_eq_ok_iff.2 ⟨user, huser, rfl⟩⟩
      · exact Or.inr (congrArg (Except.map fun user ↦ Call.bearer user operation) hnone)

/-- Who is let through as somebody else in the one database is in the other one. -/
theorem Request.authenticate_of_agreesBut (h : db.AgreesBut n known db') {request : Request}
    {call : Call} (hauth : request.authenticate tokenType env db = .ok call)
    (hno : request.principal tokenType env db ≠ some n) :
    request.authenticate tokenType env db' = .ok call := by
  rw [Request.principal_of_authenticate hauth] at hno
  rcases call with body | name | ⟨user, operation⟩
  · rw [eq_of_authenticate_eq_createUser hauth]
    rfl
  · obtain ⟨r, hr, -, rfl⟩ := exists_of_authenticate_eq_login hauth
    have hname : r.username ≠ n := fun hname ↦ hno (congrArg some hname)
    exact Request.authenticate_of_mem hauth (Or.inl rfl) hr ((h.rows r hname).1 hr)
  · obtain ⟨-, -, -, -, -, r, hr, -, rfl⟩ := exists_of_authenticate_eq_bearer hauth
    have hname : r.username ≠ n := fun hname ↦ hno (congrArg some hname)
    exact Request.authenticate_of_mem hauth (Or.inr ⟨operation, rfl⟩) hr ((h.rows r hname).1 hr)

/-- **The first step of a request of somebody else.** -/
theorem Request.authenticate_agreesBut (h : db.AgreesBut n known db') {request : Request}
    (hno : request.principal tokenType env db ≠ some n)
    (hno' : request.principal tokenType env db' ≠ some n) :
    request.authenticate tokenType env db = request.authenticate tokenType env db' := by
  obtain ⟨call, hauth⟩ | hempty := @Request.authenticate_cases tokenType env db request
  · rw [hauth, Request.authenticate_of_agreesBut h hauth hno]
  · obtain ⟨call, hauth'⟩ | hempty' := @Request.authenticate_cases tokenType env db' request
    · rw [hauth', Request.authenticate_of_agreesBut h.symm hauth' hno']
    · rw [hempty, hempty']

end

/-! ### Schedules -/

/-- A request is let through as the account with the name `n` in the step. -/
def State.LetsIn (n : String) (s : State tokenType) : Step → Prop
  | .authenticate env request => request.principal tokenType env s.db = some n
  | .handle _ _ => False

instance (s : State tokenType) : DecidablePred (s.LetsIn n)
  | .authenticate env request =>
    inferInstanceAs (Decidable (request.principal tokenType env s.db = some n))
  | .handle _ _ => inferInstanceAs (Decidable False)

/-- The step is the first one of a sign-up for the name `n`. -/
def Step.SignsUpFor (n : String) (x : Step) : Prop :=
  ∃ env user, x = .authenticate env (.createUser (.value user)) ∧ user.username = some n

/-- Two states of the service that are the same but for the account with the name `n`. -/
structure State.AgreesBut (n : String) (known : Prop) (s s' : State tokenType) : Prop where
  /-- The databases agree on everything else. -/
  db : s.db.AgreesBut n known s'.db
  /-- The requests in flight are the same. -/
  inFlight : s.inFlight.map InFlight.call = s'.inFlight.map InFlight.call
  /-- None of them is of the account. -/
  avoids : ∀ f ∈ s.inFlight, f.call.Avoids n known
  /-- The first state remembers in order. -/
  inOrder : s.InOrder
  /-- So does the second one. -/
  inOrder' : s'.InOrder

/-- The id of the principal keeps its name. -/
theorem InFlight.call_bound {f : InFlight tokenType} {db : Database} (hseen : f.seen ≤ db) :
    f.call.Bound db := by
  rcases hcall : f.call with body | name | ⟨user, operation⟩
  · trivial
  · trivial
  · obtain ⟨-, -, -, -, -, r, hr, -, rfl⟩ := exists_of_authenticate_eq_bearer (hcall ▸ f.accepted)
    exact fun q hq hid ↦ (Database.username_eq_of_le hseen hr hq hid.symm).symm

/-- A request that is not let through as the account is handled as that of somebody else. -/
theorem Request.call_avoids {request : Request} {call : Call} {db : Database}
    (hauth : request.authenticate tokenType env db = .ok call)
    (hno : request.principal tokenType env db ≠ some n)
    (hsignUp : known ∨ ∀ user, request = .createUser (.value user) → user.username ≠ some n) :
    call.Avoids n known := by
  rw [Request.principal_of_authenticate hauth] at hno
  rcases call with body | name | ⟨user, operation⟩
  · obtain rfl := eq_of_authenticate_eq_createUser hauth
    exact hsignUp.imp_right fun hne user hbody ↦ hne user (congrArg Request.createUser hbody)
  · exact fun hname ↦ hno (congrArg some hname)
  · exact fun hname ↦ hno (congrArg some hname)

/-- **A step shows nothing of the account**, unless a request is let through as it. -/
theorem State.AgreesBut.step {s s' : State tokenType} {x : Step} (h : s.AgreesBut n known s')
    (hno : ¬ s.LetsIn n x) (hno' : ¬ s'.LetsIn n x) (hsignUp : known ∨ ¬ x.SignsUpFor n) :
    (s.step x).AgreesBut n known (s'.step x) ∧ s.response x = s'.response x := by
  have hinOrder := h.inOrder.step x
  have hinOrder' := h.inOrder'.step x
  rcases x with ⟨env, request⟩ | ⟨i, env⟩
  · have hauth := Request.authenticate_agreesBut h.db hno hno'
    rcases hleft : request.authenticate tokenType env s.db with response | call
    · have hright := hauth.symm.trans hleft
      rw [State.step_authenticate_of_error hleft, State.step_authenticate_of_error hright,
        State.response, State.response, hleft, hright]
      exact ⟨h, rfl⟩
    · have hright := hauth.symm.trans hleft
      have havoids : call.Avoids n known := Request.call_avoids hleft hno <|
        hsignUp.imp_right fun hne user hcreate hname ↦ hne ⟨env, user, by rw [hcreate], hname⟩
      rw [State.step_authenticate_of_ok hleft] at hinOrder ⊢
      rw [State.step_authenticate_of_ok hright] at hinOrder' ⊢
      rw [State.response, State.response, hleft, hright]
      refine ⟨⟨h.db, ?_, fun f hf ↦ ?_, hinOrder, hinOrder'⟩, rfl⟩
      · rw [List.map_append, List.map_append, h.inFlight]
        rfl
      · rcases List.mem_append.1 hf with hf | hf
        · exact h.avoids f hf
        · obtain rfl := List.mem_singleton.1 hf
          exact havoids
  · have hflight : (s.inFlight[i]?).map InFlight.call = (s'.inFlight[i]?).map InFlight.call := by
      rw [← List.getElem?_map, ← List.getElem?_map, h.inFlight]
    rcases hleft : s.inFlight[i]? with _ | f
    · have hright : s'.inFlight[i]? = none := by
        rw [hleft] at hflight
        exact Option.map_eq_none_iff.1 hflight.symm
      rw [State.step_handle_of_none hleft, State.step_handle_of_none hright,
        State.response, State.response, hleft, hright]
      exact ⟨h, rfl⟩
    · rw [hleft] at hflight
      obtain ⟨f', hright, hcall⟩ := Option.map_eq_some_iff.1 hflight.symm
      have hf := List.mem_of_getElem? hleft
      have hbound : f.call.Bound s.db := InFlight.call_bound (h.inOrder.inFlight f hf)
      have hbound' : f.call.Bound s'.db :=
        hcall ▸ InFlight.call_bound (h.inOrder'.inFlight f' (List.mem_of_getElem? hright))
      have hagrees := @Call.handle_agreesBut tokenType env n known _ _ h.db f.call
        (h.avoids f hf) hbound hbound'
      rw [State.step_handle_of_some hleft] at hinOrder ⊢
      rw [State.step_handle_of_some hright] at hinOrder' ⊢
      simp only [State.response, hleft, hright, Option.map_some]
      rw [hcall] at hinOrder' ⊢
      refine ⟨⟨hagrees.db, ?_, fun g hg ↦ ?_, hinOrder, hinOrder'⟩, congrArg some hagrees.response⟩
      · rw [← List.eraseIdx_map, ← List.eraseIdx_map, h.inFlight]
      · exact h.avoids g (List.mem_of_mem_eraseIdx hg)

/-- **An account is confidential.** Two stores that agree on everything but the account with the
name `n` give the same responses, step by step, in every schedule in which no request is let through
as `n` in either of them; and they agree on everything else in the end. Whether there is such an
account at all shows only in the answers to sign-ups for the name. -/
theorem account_confidential {db db' : Database} (h : db.AgreesBut n known db') {steps : List Step}
    (hno : Machine.Throughout State.step (fun s x ↦ ¬ s.LetsIn n x) (State.start tokenType db)
      steps)
    (hno' : Machine.Throughout State.step (fun s x ↦ ¬ s.LetsIn n x) (State.start tokenType db')
      steps)
    (hsignUp : known ∨ ∀ x ∈ steps, ¬ x.SignsUpFor n) :
    Machine.answers State.step State.response (State.start tokenType db) steps =
        Machine.answers State.step State.response (State.start tokenType db') steps ∧
      ((State.start tokenType db).run steps).db.AgreesBut n known
        ((State.start tokenType db').run steps).db := by
  have hstart : (State.start tokenType db).AgreesBut n known (State.start tokenType db') :=
    ⟨h, rfl, fun _ hf ↦ absurd hf List.not_mem_nil, State.inOrder_run db [],
      State.inOrder_run db' []⟩
  have hsignUps : Machine.Throughout State.step (fun _ x ↦ known ∨ ¬ Step.SignsUpFor n x)
      (State.start tokenType db) steps :=
    Machine.throughout_of_forall_mem (fun x hx ↦ hsignUp.imp_right fun hne ↦ hne x hx) _
  have hstep (s s' : State tokenType) (x : Step) (hs : s.AgreesBut n known s')
      (hx : ¬ s.LetsIn n x ∧ (known ∨ ¬ x.SignsUpFor n)) (hx' : ¬ s'.LetsIn n x) :
      (s.step x).AgreesBut n known (s'.step x) ∧ s.response x = s'.response x :=
    hs.step hx.1 hx' hx.2
  obtain ⟨hlast, hanswers⟩ :=
    Machine.run_lockstep_both hstep hstart (hno.and hsignUps) hno'
  rw [List.forall₂_eq_eq_eq] at hanswers
  exact ⟨hanswers, hlast.db⟩

/-- Alice and bob have signed up. -/
def aliceAndBob : Database := serveAll "jws" .empty [aliceSignsUp.quietly, bobSignsUp.quietly]

/-- Alice has signed up with another email and password, and has a list. -/
def otherAliceAndBob : Database :=
  serveAll "jws" .empty [otherAliceSignsUp.quietly, bobSignsUp.quietly, aliceAddsTodo.quietly]

/-- Somebody guesses the password of alice and tries to sign up under her name; bob adds a list. -/
def probingSteps : List Step :=
  [.authenticate .quiet (.login (some ⟨"alice", "guess"⟩)), .authenticate .quiet aliceSignsUp,
    .handle 0 .quiet, .authenticate .quiet bobAddsTodo, .handle 0 .quiet]

theorem account_confidential_alice :
    Machine.answers State.step State.response (State.start "jws" aliceAndBob) probingSteps =
      Machine.answers State.step State.response (State.start "jws" otherAliceAndBob)
        probingSteps := by
  have hothers : (aliceAndBob.rows.filter fun r ↦ r.username ≠ "alice") =
      otherAliceAndBob.rows.filter fun r ↦ r.username ≠ "alice" := by
    decide +kernel
  have hagrees : aliceAndBob.AgreesBut "alice" True otherAliceAndBob := by
    refine ⟨fun r hr ↦ ?_, by decide +kernel, fun _ ↦ by decide +kernel⟩
    have hmem (rows : List UserRow) : r ∈ rows ↔ r ∈ rows.filter fun r ↦ r.username ≠ "alice" :=
      ⟨fun h ↦ List.mem_filter.2 ⟨h, decide_eq_true hr⟩, List.mem_of_mem_filter⟩
    rw [hmem aliceAndBob.rows, hothers, ← hmem]
  have hno : Machine.Throughout State.step (fun s x ↦ ¬ s.LetsIn "alice" x)
      (State.start "jws" aliceAndBob) probingSteps :=
    ⟨by decide +kernel, by decide +kernel, by decide +kernel, by decide +kernel,
      by decide +kernel, trivial⟩
  have hno' : Machine.Throughout State.step (fun s x ↦ ¬ s.LetsIn "alice" x)
      (State.start "jws" otherAliceAndBob) probingSteps :=
    ⟨by decide +kernel, by decide +kernel, by decide +kernel, by decide +kernel,
      by decide +kernel, trivial⟩
  exact (account_confidential hagrees hno hno' (Or.inl trivial)).1

end DseAuth
