import DseAuth.Db.MapUserDAO
import DseAuth.Service.Effects

/-!
# The two implementations side by side

`AbstractUserDAO` has two implementations, `mapUserDAO` and `UserDAO`. The machine of this module
makes every call of the interface on both, in a transaction of its own on the side of the database.

The two give their accounts ids of their own. Which ids belong together is a `Renaming`, to which
every account that both have added contributes a pair. `SameRecord`, `SameAccounts` and `SameAnswer`
say what is the same up to that.

A `User` that is passed in is a copy of one that an earlier call has returned, with some `Edit`s;
the machine keeps the pairs of records that corresponding calls have returned (`found`).
-/

namespace DseAuth

/-- What a caller does to its copy of a record. -/
inductive Edit
  | setEmail (email : String)
  | setPassword (password : String)
  | addPrivilege (s : Option String)
  | removePrivilige (s : Option String)
deriving DecidableEq

/-- An edit of a record of `UserDAO`. -/
def User.edit (u : User) : Edit → User
  | .setEmail email => u.setEmail email
  | .setPassword password => u.setPassword password
  | .addPrivilege s => u.addPrivilege s
  | .removePrivilige s => u.removePrivilige s

/-- An edit of a record of `mapUserDAO`. -/
def UserObject.edit (u : UserObject) : Edit → UserObject
  | .setEmail email => { u with email := some email }
  | .setPassword password => { u with password := some password }
  | .addPrivilege s => { u with privileges := u.privileges.map fun t ↦ t.add s }
  | .removePrivilige s => { u with privileges := u.privileges.map fun t ↦ t.remove s }

/-- Edits leave id and username alone. -/
theorem User.foldl_edit (u : User) (edits : List Edit) :
    (edits.foldl User.edit u).id = u.id ∧ (edits.foldl User.edit u).username = u.username := by
  induction edits generalizing u with
  | nil => exact ⟨rfl, rfl⟩
  | cons e edits ih =>
    obtain ⟨hid, hname⟩ := ih (u.edit e)
    have hedit : (u.edit e).id = u.id ∧ (u.edit e).username = u.username := by
      cases e <;> exact ⟨rfl, rfl⟩
    exact ⟨hid.trans hedit.1, hname.trans hedit.2⟩

theorem UserObject.foldl_edit (u : UserObject) (edits : List Edit) :
    (edits.foldl UserObject.edit u).id = u.id ∧
      (edits.foldl UserObject.edit u).username = u.username := by
  induction edits generalizing u with
  | nil => exact ⟨rfl, rfl⟩
  | cons e edits ih =>
    obtain ⟨hid, hname⟩ := ih (u.edit e)
    have hedit : (u.edit e).id = u.id ∧ (u.edit e).username = u.username := by
      cases e <;> exact ⟨rfl, rfl⟩
    exact ⟨hid.trans hedit.1, hname.trans hedit.2⟩

/-! ### Up to a renaming -/

/-- Which id of `mapUserDAO` goes with which id of `UserDAO`: a one-to-one correspondence. -/
abbrev Renaming := BiMap (BitVec 32) ℤ ℤ id

/-- Enter the ids of a new account. An id that has been renamed before cannot be renamed again. -/
def Renaming.extend (ρ : Renaming) (m : BitVec 32) (d : ℤ) : Renaming :=
  if ∀ e ∈ ρ.entries, e.1 ≠ m then (BiMap.put ρ m d).getD ρ else ρ

theorem Renaming.extend_of_used {ρ : Renaming} {m : BitVec 32} {d : ℤ}
    (h : ¬ ∀ e ∈ ρ.entries, e.1 ≠ m) : ρ.extend m d = ρ :=
  if_neg h

theorem Renaming.mem_extend {ρ : Renaming} {m : BitVec 32} {d : ℤ} (hm : ∀ e ∈ ρ.entries, e.1 ≠ m)
    (hd : ∀ e ∈ ρ.entries, e.2 ≠ d) {e : BitVec 32 × ℤ} :
    e ∈ (ρ.extend m d).entries ↔ e ∈ ρ.entries ∨ e = (m, d) := by
  obtain ⟨ρ', hput, hentries⟩ := BiMap.put_of_new (k := m) (v := d) hm hd
  rw [extend, if_pos hm, hput, Option.getD_some, hentries, List.mem_append, List.mem_singleton]

/-- The two records are the same, but for the renaming. -/
structure SameRecord (ρ : Renaming) (u : UserObject) (v : User) : Prop where
  /-- The ids go together. -/
  id : ∃ m, u.id = some m ∧ (m, v.id) ∈ ρ.entries
  /-- The usernames are equal, -/
  username : u.username = some v.username
  /-- and so are the emails, -/
  email : u.email = some v.email
  /-- the passwords -/
  password : u.password = some v.password
  /-- and the sets of privileges. -/
  privileges : ∃ t, u.privileges = some t ∧ ∀ p, p ∈ t ↔ p ∈ v.getPrivileges

/-- The two lists have the same records. -/
def SameRecords (ρ : Renaming) (us : List UserObject) (vs : List User) : Prop :=
  (∀ u ∈ us, ∃ v ∈ vs, SameRecord ρ u v) ∧ ∀ v ∈ vs, ∃ u ∈ us, SameRecord ρ u v

/-- The two stores hold the same accounts. -/
def SameAccounts (ρ : Renaming) (dao : MapUserDAO) (db : Database) : Prop :=
  SameRecords ρ dao.db.values (db.rows.map UserRow.load)

theorem SameRecord.mono {ρ ρ' : Renaming} {u : UserObject} {v : User} (h : SameRecord ρ u v)
    (hsub : ∀ e ∈ ρ.entries, e ∈ ρ'.entries) : SameRecord ρ' u v := by
  obtain ⟨m, hm, hid⟩ := h.id
  exact ⟨⟨m, hm, hsub _ hid⟩, h.username, h.email, h.password, h.privileges⟩

theorem sameAccounts_iff {ρ : Renaming} {dao : MapUserDAO} {db : Database} :
    SameAccounts ρ dao db ↔
      (∀ u ∈ dao.db.values, ∃ r ∈ db.rows, SameRecord ρ u r.load) ∧
        ∀ r ∈ db.rows, ∃ u ∈ dao.db.values, SameRecord ρ u r.load := by
  rw [SameAccounts, SameRecords, List.forall_mem_map]
  refine and_congr_left' (forall₂_congr fun u _ ↦ ?_)
  simp only [List.mem_map, exists_exists_and_eq_and]

/-- Two methods that return a boolean have returned the same, or both have thrown an exception,
both or neither of them an `IllegalCredentialsException`. -/
def SameDone : Except JavaException Bool → Except JavaException Bool → Prop
  | .ok b, .ok b' => b = b'
  | .error e, .error e' =>
    (∃ message, e = .illegalCredentials message) ↔ ∃ message, e' = .illegalCredentials message
  | _, _ => False

/-- What a call of the interface comes back with. -/
inductive Answer (α : Type)
  /-- A method that returns a boolean. -/
  | done (r : Except JavaException Bool)
  /-- A method that returns a record or none. -/
  | one (r : Except JavaException (Option α))
  /-- A method that returns a list. -/
  | all (r : Except JavaException (List α))
  /-- A call that is not made, for want of the record it is about. -/
  | skipped

/-- The answers are the same. -/
def SameAnswer (ρ : Renaming) : Answer UserObject → Answer User → Prop
  | .done r, .done r' => SameDone r r'
  | .one (.ok none), .one (.ok none) => True
  | .one (.ok (some u)), .one (.ok (some v)) => SameRecord ρ u v
  | .all (.ok us), .all (.ok vs) => SameRecords ρ us vs
  | .skipped, .skipped => True
  | _, _ => False

/-! ### The machine -/

/-- A call of the interface. -/
inductive AbstractUserDAO.Call
  | addNewUser (newUser : SignUpUser)
  | addNewUserOf (username password email : Option String)
  /-- With a copy of the `k`-th record that was found, edited. -/
  | deleteUser (k : ℕ) (edits : List Edit)
  /-- Likewise. -/
  | updateUser (k : ℕ) (edits : List Edit)
  /-- With the id of one store and the id of the other. -/
  | findByID (key : Option (BitVec 32 × ℤ))
  | findByName (username : Option String)
  | findAll

/-- The two stores. -/
structure Twins where
  /-- The one. -/
  dao : MapUserDAO
  /-- The other. -/
  db : Database
  /-- The ids that go together. -/
  ids : Renaming
  /-- The records that have been returned by both. -/
  found : List (UserObject × User)

/-- A method of `UserDAO` that returns a boolean and throws nothing. -/
def writing (method : Session → Bool × Session) : Session → Except JavaException Bool × Session :=
  fun session ↦ (method session).map .ok id

/-! ### What a transaction comes to -/

section

variable {env : Environment} {db : Database} {username password email : Option String}

/-- A method that schedules one action and returns true. -/
theorem transact_writing {method : Session → Bool × Session} {session : Session} {action : Action}
    (hmethod : method (Session.openSession db) = (true, session)) (hdb : session.db = db)
    (hactions : session.actions = [action]) (hcommits : env.commitFails = false) :
    transact env (writing method) db =
      match action.apply db with
      | some d => (.ok true, d)
      | none => (.error .persistence, db) := by
  have hwrite : writing method (Session.openSession db) = (.ok true, session) := by
    rw [writing, hmethod]
    rfl
  have hcommit : session.commit env = action.apply db := by
    rw [commit_singleton hactions, hcommits, hdb]
    rfl
  rcases happly : action.apply db with _ | d
  · rw [transact_of_rollback hwrite (hcommit.trans happly), hdb]
  · rw [transact_of_commit hwrite (hcommit.trans happly)]

/-- A deletion succeeds where the row is there. -/
theorem transact_deleteUser (henv : env.Stores) (u : User) (db : Database) :
    transact env (writing (UserDAO.deleteUser env u)) db =
      match db.delete u with
      | some d => (.ok true, d)
      | none => (.error .persistence, db) := by
  have hmethod : UserDAO.deleteUser env u (Session.openSession db) =
      (true, (Session.openSession db).delete u) := by
    rw [UserDAO.deleteUser, henv.write]
    rfl
  exact transact_writing hmethod rfl rfl henv.commit

/-- So does an update, where the values fit. -/
theorem transact_updateUser (henv : env.Stores) (u : User) (db : Database) :
    transact env (writing (UserDAO.updateUser env u)) db =
      match db.update u with
      | some d => (.ok true, d)
      | none => (.error .persistence, db) := by
  have hmethod : UserDAO.updateUser env u (Session.openSession db) =
      (true, (Session.openSession db).update u) := by
    rw [UserDAO.updateUser, henv.write]
    rfl
  exact transact_writing hmethod rfl rfl henv.commit

/-- The row of a new user that can be inserted. -/
structure CanInsert (db : Database) (username password email : Option String) (r : UserRow) :
    Prop where
  /-- No property is null. -/
  properties : username = some r.username ∧ password = some r.password ∧ email = some r.email
  /-- The id is the next one of the sequence, -/
  id : r.id = db.sequence
  /-- which is an `int`. -/
  inRange : JavaInteger.InRange r.id
  /-- There are no privileges yet. -/
  privileges : r.privileges = []
  /-- The name is free. -/
  free : ∀ q ∈ db.rows, q.username ≠ r.username
  /-- The values fit. -/
  fits : r.Fits

/-- **What the insertion of a new user comes to.** -/
inductive PersistEffect (db : Database) (username password email : Option String) :
    Except JavaException Bool × Database → Prop
  | stored (r : UserRow) (hinsert : CanInsert db username password email r) (d : Database)
    (hrows : d.rows = db.rows ++ [r]) (hseq : d.sequence = db.sequence + 1) :
    PersistEffect db username password email (.ok true, d)
  | failed (hcannot : ∀ r, ¬ CanInsert db username password email r) (d : Database)
    (hrows : d.rows = db.rows) (hseq : db.sequence ≤ d.sequence) :
    PersistEffect db username password email (.error .persistence, d)

/-- The mapper refuses a property that is null. -/
theorem persistNullable_of_null (env : Environment)
    (hnull : username = none ∨ password = none ∨ email = none)
    (s : Session) : ∃ s' : Session,
      UserDAO.persistNullable env username password email s = (.error .persistence, s') ∧
        s'.db.rows = s.db.rows ∧ s.db.sequence ≤ s'.db.sequence := by
  have hrefused : UserDAO.persistNullable env username password email s =
      UserDAO.persistNullable env none none none s := by
    rcases username with _ | username
    · rfl
    · rcases password with _ | password
      · rfl
      · rcases email with _ | email
        · rfl
        · obtain h | h | h := hnull <;> cases h
  rw [hrefused]
  rcases hnext : s.db.nextval with _ | ⟨id, d⟩
  · refine ⟨s, ?_, rfl, le_rfl⟩
    simp only [UserDAO.persistNullable, hnext]
  · obtain ⟨-, -, hrows, hseq⟩ := Database.nextval_eq_some_iff.1 hnext
    refine ⟨{ s with db := d }, ?_, hrows, ?_⟩
    · simp only [UserDAO.persistNullable, hnext]
    · show s.db.sequence ≤ d.sequence
      omega

theorem transact_persistNullable (henv : env.Stores) (db : Database)
    (username password email : Option String) :
    PersistEffect db username password email
      (transact env (UserDAO.persistNullable env username password email) db) := by
  by_cases hnull : username = none ∨ password = none ∨ email = none
  · obtain ⟨s', hmethod, hrows, hseq⟩ :=
      persistNullable_of_null env hnull (Session.openSession db)
    rw [transact_of_error hmethod]
    refine .failed (fun r hr ↦ ?_) _ hrows hseq
    obtain ⟨hn, hp, he⟩ := hr.properties
    obtain h | h | h := hnull
    · cases hn.symm.trans h
    · cases hp.symm.trans h
    · cases he.symm.trans h
  · rw [not_or, not_or] at hnull
    obtain ⟨n, rfl⟩ := Option.ne_none_iff_exists'.1 hnull.1
    obtain ⟨p, rfl⟩ := Option.ne_none_iff_exists'.1 hnull.2.1
    obtain ⟨e, rfl⟩ := Option.ne_none_iff_exists'.1 hnull.2.2
    have hsame {r : UserRow} (hr : CanInsert db (some n) (some p) (some e) r) :
        r = ⟨db.sequence, n, e, p, []⟩ := by
      obtain ⟨hn, hp, he⟩ := hr.properties
      obtain rfl := Option.some.inj hn
      obtain rfl := Option.some.inj hp
      obtain rfl := Option.some.inj he
      rw [← hr.id, ← hr.privileges]
    let r : UserRow := ⟨db.sequence, n, e, p, []⟩
    rcases hnext : db.nextval with _ | ⟨id, d⟩
    · have hmethod : UserDAO.persistNullable env (some n) (some p) (some e)
          (Session.openSession db) = (.error .persistence, Session.openSession db) := by
        simp only [UserDAO.persistNullable, Session.persist, henv.write, Session.openSession_db,
          hnext, if_neg Bool.false_ne_true]
      rw [transact_of_error hmethod]
      refine .failed (fun r' hr' ↦ ?_) _ rfl le_rfl
      have hrange : JavaInteger.InRange db.sequence := hr'.id ▸ hr'.inRange
      rw [Database.nextval, if_pos hrange] at hnext
      cases hnext
    · obtain ⟨hrange, rfl, hrows, hseq⟩ := Database.nextval_eq_some_iff.1 hnext
      have hmethod : UserDAO.persistNullable env (some n) (some p) (some e)
          (Session.openSession db) = (.ok true, ⟨d, [r.load], [.insert r]⟩) := by
        simp only [UserDAO.persistNullable, Session.persist, henv.write, Session.openSession_db,
          hnext, if_neg Bool.false_ne_true]
        rfl
      have hcommit : (⟨d, [r.load], [.insert r]⟩ : Session).commit env = d.insert r := by
        rw [commit_singleton rfl, henv.commit]
        rfl
      rcases hinsert : d.insert r with _ | d'
      · rw [transact_of_rollback hmethod (hcommit.trans hinsert)]
        refine .failed (fun r' hr' ↦ ?_) d hrows (by omega)
        obtain rfl := hsame hr'
        obtain ⟨d', hd'⟩ :=
          Database.exists_insert_of_next hrows hseq hr'.id hr'.inRange hr'.free hr'.fits
        cases hinsert.symm.trans hd'
      · rw [transact_of_commit hmethod (hcommit.trans hinsert)]
        obtain ⟨⟨hnew, hfits, -⟩, hrows', hseq'⟩ := Database.insert_eq_some_iff.1 hinsert
        rw [hrows] at hnew hrows'
        exact .stored r ⟨⟨rfl, rfl, rfl⟩, rfl, hrange, rfl, fun q hq ↦ (hnew q hq).2, hfits⟩ d'
          hrows' (hseq'.trans hseq)

end

namespace Twins

/-- The call on the map. -/
def onMap (s : Twins) : AbstractUserDAO.Call → Answer UserObject × MapUserDAO
  | .addNewUser newUser => (s.dao.addNewUser newUser).map .done id
  | .addNewUserOf username password email =>
    (s.dao.addNewUserOf username password email).map .done id
  | .deleteUser k edits =>
    match s.found[k]? with
    | none => (.skipped, s.dao)
    | some c => (s.dao.deleteUser (edits.foldl UserObject.edit c.1)).map .done id
  | .updateUser k edits =>
    match s.found[k]? with
    | none => (.skipped, s.dao)
    | some c => (s.dao.updateUser (edits.foldl UserObject.edit c.1)).map .done id
  | .findByID key => (.one (.ok (s.dao.findByID (key.map Prod.fst))), s.dao)
  | .findByName username => (.one (s.dao.findByName username), s.dao)
  | .findAll => (.all (.ok s.dao.findAll), s.dao)

/-- The call on the database. -/
def onDatabase (env : Environment) (s : Twins) : AbstractUserDAO.Call → Answer User × Database
  | .addNewUser newUser =>
    (transact env (UserDAO.addNewUser env newUser) s.db).map .done id
  | .addNewUserOf username password email =>
    (transact env (UserDAO.addNewUserOf env username password email) s.db).map .done id
  | .deleteUser k edits =>
    match s.found[k]? with
    | none => (.skipped, s.db)
    | some c =>
      (transact env (writing (UserDAO.deleteUser env (edits.foldl User.edit c.2))) s.db).map
        .done id
  | .updateUser k edits =>
    match s.found[k]? with
    | none => (.skipped, s.db)
    | some c =>
      (transact env (writing (UserDAO.updateUser env (edits.foldl User.edit c.2))) s.db).map
        .done id
  | .findByID key =>
    (transact env (reading (UserDAO.findByID env (key.map Prod.snd))) s.db).map .one id
  | .findByName username =>
    (transact env (reading (UserDAO.findByName env username)) s.db).map .one id
  | .findAll => (transact env (reading (UserDAO.findAll env)) s.db).map .all id

/-- The pairs of records that the two answers hold. -/
def paired : Answer UserObject → Answer User → List (UserObject × User)
  | .one (.ok (some u)), .one (.ok (some v)) => [(u, v)]
  | .all (.ok us), .all (.ok vs) => us.flatMap fun u ↦
      (vs.filter fun v ↦ u.username = some v.username).map fun v ↦ (u, v)
  | _, _ => []

/-- The ids after a call. A new account that both have added has the next id of each. -/
def idsAfter (s : Twins) (c : AbstractUserDAO.Call) (a : Answer UserObject) (b : Answer User) :
    Renaming :=
  match c, a, b with
  | .addNewUser _, .done (.ok true), .done (.ok true)
  | .addNewUserOf _ _ _, .done (.ok true), .done (.ok true) =>
    s.ids.extend s.dao.idCounter s.db.sequence
  | _, _, _ => s.ids

/-- Make a call on both. -/
def step (env : Environment) (s : Twins) (c : AbstractUserDAO.Call) : Twins :=
  let a := s.onMap c
  let b := s.onDatabase env c
  ⟨a.2, b.2, s.idsAfter c a.1 b.1, s.found ++ paired a.1 b.1⟩

/-- A call by id is the same call on both when the ids go together, or belong to no account. -/
def Admits (s : Twins) : AbstractUserDAO.Call → Prop
  | .findByID (some (m, d)) =>
    (m, d) ∈ s.ids.entries ∨ ∀ e ∈ s.ids.entries, e.1 ≠ m ∧ e.2 ≠ d
  | _ => True

/-- **The two agree on a call**: it has the same outcome in both, and leaves the same accounts. -/
def Agrees (env : Environment) (s : Twins) (c : AbstractUserDAO.Call) : Prop :=
  SameAnswer (s.step env c).ids (s.onMap c).1 (s.onDatabase env c).1 ∧
    SameAccounts (s.step env c).ids (s.step env c).dao (s.step env c).db

end Twins

end DseAuth
