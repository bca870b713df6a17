import DseAuth.Core.Runtime
import DseAuth.Db.Database

/-!
# Sessions

A Hibernate session over one transaction. Queries read the committed database. `persist`, `update`
and `delete` only schedule an `Action`; the statements are issued by the flush at commit, when the
method that asked for them has returned, and it is there that a missing row, a taken username or a
value that is too long shows up.

An object that was reattached by `update` is *managed*: from then on a lookup that ends at its id
returns this very object, with the changes it carries, instead of reading the row.

Ids are drawn from the sequence by `persist` itself. That is the only effect on the database that a
rollback does not undo.
-/

namespace DseAuth

/-- Work scheduled for the flush. -/
inductive Action
  | insert (r : UserRow)
  | update (u : User)
  | delete (u : User)

/-- Issue the statements of an action; `none` is an exception. -/
def Action.apply (db : Database) : Action → Option Database
  | .insert r => db.insert r
  | .update u => db.update u
  | .delete u => db.delete u

/-- The flush: the scheduled actions in order, all or nothing. -/
def flush (actions : List Action) (db : Database) : Option Database :=
  actions.foldlM Action.apply db

/-- A session and what it has scheduled. -/
structure Session where
  /-- The committed database. -/
  db : Database
  /-- The objects that belong to the session. -/
  managed : List User
  /-- What the flush will do. -/
  actions : List Action

namespace Session

/-- `SessionFactory.openSession`. -/
def openSession (db : Database) : Session where
  db := db
  managed := []
  actions := []

@[simp] theorem openSession_db (db : Database) : (openSession db).db = db := rfl
@[simp] theorem openSession_managed (db : Database) : (openSession db).managed = [] := rfl
@[simp] theorem openSession_actions (db : Database) : (openSession db).actions = [] := rfl

/-- `byNaturalId(User.class).using("username", login).load()`: the id is looked up in the table,
the object by that id. The column of the natural id is not nullable, and a null name is refused
before anything is read. -/
def byNaturalId (s : Session) : Option String → Except JavaException (Option User)
  | none => .error .hibernate
  | some login => .ok ((s.db.byUsername login).map fun r ↦
      (s.managed.find? fun u ↦ u.id = r.id).getD r.load)

/-- `get(User.class, id)`, for an id that the session has not deleted. -/
def get (s : Session) (id : ℤ) : Option User :=
  (s.managed.find? fun u ↦ u.id = id).or ((s.db.byId id).map UserRow.load)

/-- A query for all users, in a session that has nothing to flush before it. -/
def getResultList (s : Session) : List User :=
  s.db.rows.map fun r ↦ (s.managed.find? fun u ↦ u.id = r.id).getD r.load

/-- `persist` of a user without privileges. -/
def persist (s : Session) (env : Environment) (username email password : String) :
    Except JavaException Unit × Session :=
  if env.writeFails then (.error .persistence, s)
  else match s.db.nextval with
    | none => (.error .persistence, s)
    | some (id, db) =>
      -- the session goes on with the sequence as it is now, whatever becomes of the transaction
      let r : UserRow := ⟨id, username, email, password, []⟩
      (.ok (), { db, managed := s.managed ++ [r.load], actions := s.actions ++ [.insert r] })

/-- `update` of a detached user. -/
def update (s : Session) (u : User) : Session :=
  { s with managed := s.managed ++ [u], actions := s.actions ++ [.update u] }

/-- `delete` of a detached user. -/
def delete (s : Session) (u : User) : Session :=
  { s with actions := s.actions ++ [.delete u] }

/-- `Transaction.commit`. -/
def commit (s : Session) (env : Environment) : Option Database :=
  if env.commitFails then none else flush s.actions s.db

end Session

/-- A commit that has one action to flush. -/
theorem commit_singleton {env : Environment} {s : Session} {action : Action}
    (h : s.actions = [action]) :
    s.commit env = if env.commitFails then none else action.apply s.db := by
  rw [Session.commit, flush, h, List.foldlM_cons]
  cases action.apply s.db <;> rfl

/-! ### Transactions -/

/-- Run a method in a transaction of its own, which is committed when the method returns and rolled
back when it throws. -/
def transact {α : Type} (env : Environment) (method : Session → Except JavaException α × Session)
    (db : Database) : Except JavaException α × Database :=
  match method (Session.openSession db) with
  | (.error e, s) => (.error e, s.db)
  | (.ok a, s) =>
    match s.commit env with
    | some db' => (.ok a, db')
    | none => (.error .persistence, s.db)

/-- A method that only reads. -/
def reading {α : Type} (method : Session → Except JavaException α) :
    Session → Except JavaException α × Session :=
  fun session ↦ (method session, session)

section

variable {env : Environment} {db : Database} {α : Type}

theorem transact_of_error {method : Session → Except JavaException α × Session} {e : JavaException}
    {session : Session} (h : method (Session.openSession db) = (.error e, session)) :
    transact env method db = (.error e, session.db) := by
  rw [transact, h]

theorem transact_of_commit {method : Session → Except JavaException α × Session} {a : α}
    {session : Session} {d : Database} (h : method (Session.openSession db) = (.ok a, session))
    (hcommit : session.commit env = some d) : transact env method db = (.ok a, d) := by
  simp only [transact, h, hcommit]

theorem transact_of_rollback {method : Session → Except JavaException α × Session} {a : α}
    {session : Session} (h : method (Session.openSession db) = (.ok a, session))
    (hcommit : session.commit env = none) :
    transact env method db = (.error .persistence, session.db) := by
  simp only [transact, h, hcommit]

theorem transact_congr {method method' : Session → Except JavaException α × Session}
    (h : method (Session.openSession db) = method' (Session.openSession db)) :
    transact env method db = transact env method' db := by
  rw [transact, transact, h]

/-- **Reading leaves the database alone**, and what was read is lost if the commit fails. -/
theorem transact_reading (method : Session → Except JavaException α) :
    transact env (reading method) db =
      (if env.commitFails then method (Session.openSession db) >>= fun _ ↦ .error .persistence
        else method (Session.openSession db), db) := by
  rcases hmethod : method (Session.openSession db) with e | a
  · have hread : reading method (Session.openSession db) = (.error e, Session.openSession db) := by
      rw [reading, hmethod]
    rw [transact_of_error hread]
    split <;> rfl
  · have hread : reading method (Session.openSession db) = (.ok a, Session.openSession db) := by
      rw [reading, hmethod]
    rcases hc : env.commitFails with _ | _
    · have hcommit : (Session.openSession db).commit env = some db := by
        rw [Session.commit, hc]
        rfl
      exact transact_of_commit hread hcommit
    · have hcommit : (Session.openSession db).commit env = none := by
        rw [Session.commit, hc]
        rfl
      exact transact_of_rollback hread hcommit

theorem transact_reading_of_commits (method : Session → Except JavaException α)
    (hcommits : env.commitFails = false) :
    transact env (reading method) db = (method (Session.openSession db), db) := by
  rw [transact_reading, hcommits]
  rfl

/-- What a transaction that only reads comes back with. -/
theorem transact_reading_eq_ok_iff {method : Session → Except JavaException α} {a : α} :
    (transact env (reading method) db).1 = .ok a ↔
      method (Session.openSession db) = .ok a ∧ env.commitFails = false := by
  rw [transact_reading]
  rcases env.commitFails with _ | _
  · exact (and_iff_left rfl).symm
  · rcases method (Session.openSession db) with e | b
    · exact ⟨nofun, fun h ↦ nomatch h.2⟩
    · exact ⟨nofun, fun h ↦ nomatch h.2⟩

/-- Two transactions that read the same come back with the same, -/
theorem transact_reading_congr {method : Session → Except JavaException α} {db' : Database}
    (h : method (Session.openSession db) = method (Session.openSession db')) :
    (transact env (reading method) db).1 = (transact env (reading method) db').1 := by
  rw [transact_reading, transact_reading, h]

/-- and what is the same in what they read is the same in what they come back with. -/
theorem map_transact_reading_congr {β : Type} {f : α → β}
    {method : Session → Except JavaException α} {db' : Database}
    (h : (method (Session.openSession db)).map f = (method (Session.openSession db')).map f) :
    (transact env (reading method) db).1.map f = (transact env (reading method) db').1.map f := by
  rw [transact_reading, transact_reading]
  dsimp only
  split
  · generalize method (Session.openSession db) = result, method (Session.openSession db') = result'
      at h
    rcases result with e | a <;> rcases result' with e' | a'
    case error.error => exact congrArg Except.error (Except.error.inj h)
    case ok.ok => rfl
    all_goals cases h
  · exact h

end

end DseAuth
