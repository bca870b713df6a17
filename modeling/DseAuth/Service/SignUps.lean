import DseAuth.Library.Machine
import DseAuth.Service.Effects

/-!
# Interleaved sign-ups

`Call.handle` runs a resource method and its commit in one step. Where sign-ups compete for a name
that is too coarse: the name is checked by the method and the row is inserted by the commit, and
between the two other transactions get through. Here a `POST /user` takes a step for each of them,
`Step.lookup` and `Step.commit`, and a schedule of such steps is any interleaving of any number of
sign-ups. A lookup with its own commit right after it is `Call.handle` again (`lookup_commit`).

A `Pending` request is one between its two steps. Like `InFlight` it carries the proof that its
method ran as recorded; from that follows all there is to know about it: either it was refused and
has nothing to commit, or it is about to insert the one row it has `scheduled`.
-/

namespace DseAuth.SignUps

/-- `UserResource.createUser` with the body of a request. -/
def method (env : Environment) (body : Body SignUpUser) : Handler :=
  withParameter body.readValid (UserResource.createUser env)

/-- A sign-up whose method has returned a response, and which is to be committed. -/
structure Pending where
  /-- The body. -/
  body : Body SignUpUser
  /-- The environment of its transaction. -/
  env : Environment
  /-- The database the method has found. -/
  seen : Database
  /-- The response, if the commit succeeds. -/
  response : Response
  /-- The session as the method has left it. -/
  session : Session
  /-- The method ran like this. -/
  ran : method env body (Session.openSession seen) = (.ok response, session)

/-- Its session when the commit finds a database. -/
def Pending.atCommit (p : Pending) (db : Database) : Session where
  db := db
  managed := p.session.managed
  actions := p.session.actions

/-- A sign-up that has been answered, with the database around each of its two steps. -/
structure Answered where
  /-- The body. -/
  body : Body SignUpUser
  /-- The response. -/
  response : Response
  /-- What the method has found, -/
  seen : Database
  /-- and left; -/
  left : Database
  /-- what the commit has found, -/
  before : Database
  /-- and left. -/
  after : Database

/-- A state of the service, as far as sign-ups are concerned. -/
structure State where
  /-- The committed database. -/
  db : Database
  /-- The sign-ups between their two steps. -/
  pending : List Pending
  /-- The sign-ups that have been answered, newest first. -/
  log : List Answered

/-- A step of a schedule. -/
inductive Step
  /-- The method of a sign-up that comes in. -/
  | lookup (body : Body SignUpUser) (env : Environment)
  /-- The commit of a pending one, by its place. -/
  | commit (i : ℕ)

namespace State

/-- The service on a database, with nothing pending. -/
def start (db : Database) : State where
  db := db
  pending := []
  log := []

/-- Run the method. An exception is answered at once. -/
def lookup (s : State) (body : Body SignUpUser) (env : Environment) : State :=
  match h : method env body (Session.openSession s.db) with
  | (.ok response, session) =>
    ⟨session.db, s.pending ++ [⟨body, env, s.db, response, session, h⟩], s.log⟩
  | (.error e, session) =>
    ⟨session.db, s.pending,
      ⟨body, e.toResponse, s.db, session.db, session.db, session.db⟩ :: s.log⟩

/-- Commit the session of a pending request to the database as it is now. -/
def commit (s : State) (i : ℕ) : State :=
  match s.pending[i]? with
  | none => s
  | some p =>
    match (p.atCommit s.db).commit p.env with
    | some db =>
      ⟨db, s.pending.eraseIdx i, ⟨p.body, p.response, p.seen, p.session.db, s.db, db⟩ :: s.log⟩
    | none =>
      ⟨s.db, s.pending.eraseIdx i, ⟨p.body, JavaException.persistence.toResponse, p.seen,
        p.session.db, s.db, s.db⟩ :: s.log⟩

/-- Take a step. -/
def step (s : State) : Step → State
  | .lookup body env => s.lookup body env
  | .commit i => s.commit i

end State

variable {tokenType : String} {env : Environment} {body : Body SignUpUser} {db : Database}
  {s : State} {p : Pending}

/-! ### What the method can do -/

/-- The outcomes of the method: an exception, a refusal, or a row scheduled for insertion. -/
inductive Ran (env : Environment) (body : Body SignUpUser) (db : Database) :
    Except JavaException Response × Session → Prop
  | failed {e : JavaException} (hcause : ∀ valid, body.readValid = .ok (some valid) →
      env.lookupFails = true ∨ (∀ r ∈ db.rows, r.username ≠ valid.username) ∧
        (env.writeFails = true ∨ ¬ JavaInteger.InRange db.sequence)) :
      Ran env body db (.error e, Session.openSession db)
  | refused {valid : ValidSignUpUser} (hread : body.readValid = .ok (some valid))
      (htaken : ∃ r ∈ db.rows, r.username = valid.username) :
      Ran env body db
        (.ok ⟨409, .text ("\x7b" ++ "Username already in use!" ++ "\x7d")⟩, Session.openSession db)
  | scheduled {valid : ValidSignUpUser} {d : Database} (hread : body.readValid = .ok (some valid))
      (hfree : ∀ r ∈ db.rows, r.username ≠ valid.username)
      (hrange : JavaInteger.InRange db.sequence) (hrows : d.rows = db.rows)
      (hseq : d.sequence = db.sequence + 1) :
      Ran env body db
        (.ok ⟨200, .none⟩, ⟨d, [(newRow db valid).load], [.insert (newRow db valid)]⟩)

theorem method_ran (env : Environment) (body : Body SignUpUser) (db : Database) :
    Ran env body db (method env body (Session.openSession db)) := by
  simp only [method, withParameter]
  rcases hread : body.readValid with e | _ | valid
  · refine .failed fun valid hvalid ↦ ?_
    cases hread.symm.trans hvalid
  · refine .failed fun valid hvalid ↦ ?_
    cases hread.symm.trans hvalid
  · have hattempt := createUser_attempt env db valid
    show Ran env body db (UserResource.createUser env (some valid) (Session.openSession db))
    generalize UserResource.createUser env (some valid) (Session.openSession db) = result
      at hattempt
    cases hattempt with
    | failed he hcause =>
      refine .failed fun valid' hvalid' ↦ ?_
      obtain rfl := Option.some.inj (Except.ok.inj (hread.symm.trans hvalid'))
      exact hcause
    | taken htaken hlookup => exact .refused hread htaken
    | scheduled hfree hrange hlookup hwrite hrows hseq =>
      exact .scheduled hread hfree hrange hrows hseq

/-! ### Pending requests -/

/-- The row a commit is going to insert. -/
def Pending.scheduled (p : Pending) : Option UserRow :=
  match p.session.actions with
  | [.insert r] => some r
  | _ => none

/-- A request that has scheduled nothing was refused. -/
theorem Pending.of_scheduled_eq_none (h : p.scheduled = none) :
    p.response.status = 409 ∧ p.session = Session.openSession p.seen := by
  rcases p with ⟨body, env, seen, response, session, ran⟩
  have hran : Ran env body seen (.ok response, session) := ran ▸ method_ran env body seen
  cases hran with
  | refused hread htaken => exact ⟨rfl, rfl⟩
  | scheduled => cases h

/-- A request that has scheduled a row will be answered 200 if that is inserted, and the row holds
what is in the body. -/
theorem Pending.of_scheduled_eq_some {r : UserRow} (h : p.scheduled = some r) :
    p.response = ⟨200, .none⟩ ∧ p.session.actions = [.insert r] ∧
      p.body = .value ⟨some r.username, some r.email, some r.password⟩ ∧
      r.id = p.seen.sequence ∧ r.id < p.session.db.sequence ∧ JavaInteger.InRange r.id ∧
      p.session.db.rows = p.seen.rows := by
  rcases p with ⟨body, env, seen, response, session, ran⟩
  have hran : Ran env body seen (.ok response, session) := ran ▸ method_ran env body seen
  cases hran with
  | refused hread htaken => cases h
  | @scheduled valid d hread hfree hrange hrows hseq =>
    obtain rfl := Option.some.inj h
    obtain ⟨user, rfl, hvalid⟩ := readValid_eq_ok_some_iff.1 hread
    refine ⟨rfl, rfl, congrArg Body.value (SignUpUser.eq_of_validate hvalid), rfl, ?_, hrange,
      hrows⟩
    show seen.sequence < d.sequence
    omega

/-- What the commit of a pending request comes to. -/
theorem Pending.commit_eq (p : Pending) (db : Database) :
    (p.atCommit db).commit p.env =
      if p.env.commitFails then none else
        match p.scheduled with
        | none => some db
        | some r => db.insert r := by
  rcases h : p.scheduled with _ | r
  · obtain ⟨-, hsession⟩ := Pending.of_scheduled_eq_none h
    have hactions : (p.atCommit db).actions = [] := congrArg Session.actions hsession
    rw [Session.commit, hactions]
    rfl
  · obtain ⟨-, hactions, -⟩ := Pending.of_scheduled_eq_some h
    exact commit_singleton (s := p.atCommit db) hactions

namespace State

theorem lookup_of_ok {response : Response} {session : Session}
    (h : method env body (Session.openSession s.db) = (.ok response, session)) :
    s.lookup body env =
      ⟨session.db, s.pending ++ [⟨body, env, s.db, response, session, h⟩], s.log⟩ := by
  rw [lookup]
  split
  · next h' =>
    obtain ⟨hresponse, rfl⟩ := Prod.mk.inj (h.symm.trans h')
    obtain rfl := Except.ok.inj hresponse
    rfl
  · next h' => cases (Prod.mk.inj (h.symm.trans h')).1

theorem lookup_of_error {e : JavaException} {session : Session}
    (h : method env body (Session.openSession s.db) = (.error e, session)) :
    s.lookup body env = ⟨session.db, s.pending,
      ⟨body, e.toResponse, s.db, session.db, session.db, session.db⟩ :: s.log⟩ := by
  rw [lookup]
  split
  · next h' => cases (Prod.mk.inj (h.symm.trans h')).1
  · next h' =>
    obtain ⟨he, rfl⟩ := Prod.mk.inj (h.symm.trans h')
    obtain rfl := Except.error.inj he
    rfl

theorem commit_of_none {i : ℕ} (h : s.pending[i]? = none) : s.commit i = s := by
  rw [commit]
  split
  · rfl
  · next h' => cases h.symm.trans h'

theorem commit_of_some {i : ℕ} {d : Database} (h : s.pending[i]? = some p)
    (hcommit : (p.atCommit s.db).commit p.env = some d) :
    s.commit i = ⟨d, s.pending.eraseIdx i,
      ⟨p.body, p.response, p.seen, p.session.db, s.db, d⟩ :: s.log⟩ := by
  simp only [commit, h, hcommit]

theorem commit_of_rollback {i : ℕ} (h : s.pending[i]? = some p)
    (hcommit : (p.atCommit s.db).commit p.env = none) :
    s.commit i = ⟨s.db, s.pending.eraseIdx i, ⟨p.body, JavaException.persistence.toResponse,
      p.seen, p.session.db, s.db, s.db⟩ :: s.log⟩ := by
  simp only [commit, h, hcommit]

/-- **A lookup with its own commit right after it** is a request that is handled in one step. -/
theorem lookup_commit (s : State) (body : Body SignUpUser) (env : Environment) (tokenType : String)
    (hidle : s.pending = []) :
    ∃ a : Answered, a.body = body ∧
      a.response = ((Call.createUser body).handle tokenType env s.db).response ∧
      Machine.run step s [.lookup body env, .commit 0] =
        ⟨((Call.createUser body).handle tokenType env s.db).db, [], a :: s.log⟩ := by
  show ∃ a : Answered, a.body = body ∧
    a.response = (unitOfWork env (method env body) s.db).response ∧
      (s.lookup body env).commit 0 = ⟨(unitOfWork env (method env body) s.db).db, [], a :: s.log⟩
  rcases hmethod : method env body (Session.openSession s.db) with ⟨e | response, session⟩
  · have hnone : (s.lookup body env).pending[0]? = none := by
      rw [lookup_of_error hmethod, hidle]
      rfl
    rw [commit_of_none hnone, lookup_of_error hmethod, hidle, unitOfWork_of_error hmethod]
    exact ⟨_, rfl, rfl, rfl⟩
  · let p : Pending := ⟨body, env, s.db, response, session, hmethod⟩
    have hlookup : s.lookup body env = ⟨session.db, [p], s.log⟩ := by
      rw [lookup_of_ok hmethod, hidle]
      rfl
    have hsome : (s.lookup body env).pending[0]? = some p := by
      rw [hlookup]
      rfl
    have hatCommit : p.atCommit (s.lookup body env).db = session := by
      rw [hlookup]
      rfl
    rcases hcommit : session.commit env with _ | d
    · rw [commit_of_rollback hsome (hatCommit ▸ hcommit), hlookup,
        unitOfWork_of_rollback hmethod hcommit]
      exact ⟨_, rfl, rfl, rfl⟩
    · rw [commit_of_some hsome (hatCommit ▸ hcommit), hlookup, unitOfWork_of_commit hmethod hcommit]
      exact ⟨_, rfl, rfl, rfl⟩

/-- **What a lookup can do**: answer the request with the database as it was, or put it among the
pending ones. -/
inductive LookupEffect (s : State) (body : Body SignUpUser) (env : Environment) : State → Prop
  | answered (e : JavaException) (hcause : ∀ valid, body.readValid = .ok (some valid) →
      env.lookupFails = true ∨ (∀ r ∈ s.db.rows, r.username ≠ valid.username) ∧
        (env.writeFails = true ∨ ¬ JavaInteger.InRange s.db.sequence)) :
      LookupEffect s body env
        ⟨s.db, s.pending, ⟨body, e.toResponse, s.db, s.db, s.db, s.db⟩ :: s.log⟩
  | refused (p : Pending) (hbody : p.body = body) (henv : p.env = env)
      (hscheduled : p.scheduled = none) (valid : ValidSignUpUser)
      (hread : body.readValid = .ok (some valid))
      (htaken : ∃ r ∈ s.db.rows, r.username = valid.username) :
      LookupEffect s body env ⟨s.db, s.pending ++ [p], s.log⟩
  | scheduled (p : Pending) (hbody : p.body = body) (henv : p.env = env) (valid : ValidSignUpUser)
      (hscheduled : p.scheduled = some (newRow s.db valid))
      (hread : body.readValid = .ok (some valid))
      (hfree : ∀ r ∈ s.db.rows, r.username ≠ valid.username)
      (hrange : JavaInteger.InRange s.db.sequence) (d : Database) (hrows : d.rows = s.db.rows)
      (hseq : d.sequence = s.db.sequence + 1) :
      LookupEffect s body env ⟨d, s.pending ++ [p], s.log⟩

theorem lookup_effect (s : State) (body : Body SignUpUser) (env : Environment) :
    LookupEffect s body env (s.lookup body env) := by
  rcases hmethod : method env body (Session.openSession s.db) with ⟨result, session⟩
  have hran : Ran env body s.db (result, session) := hmethod ▸ method_ran env body s.db
  cases hran with
  | failed hcause =>
    rw [lookup_of_error hmethod]
    exact .answered _ hcause
  | refused hread htaken =>
    rw [lookup_of_ok hmethod]
    exact .refused ⟨body, env, s.db, _, _, hmethod⟩ rfl rfl rfl _ hread htaken
  | scheduled hread hfree hrange hrows hseq =>
    rw [lookup_of_ok hmethod]
    exact .scheduled ⟨body, env, s.db, _, _, hmethod⟩ rfl rfl _ rfl hread hfree hrange _ hrows hseq

/-- **What a commit can do**: nothing, where no request is at the place; otherwise the request
leaves the pending ones, and is answered as its method has decided, with its row inserted if it has
scheduled one, or with an error and nothing changed. -/
inductive CommitEffect (s : State) : State → Prop
  | absent : CommitEffect s s
  | done (before after : List Pending) (p : Pending) (hpending : s.pending = before ++ p :: after)
      (hcommits : p.env.commitFails = false) (hscheduled : p.scheduled = none) :
      CommitEffect s ⟨s.db, before ++ after,
        ⟨p.body, p.response, p.seen, p.session.db, s.db, s.db⟩ :: s.log⟩
  | inserted (before after : List Pending) (p : Pending)
      (hpending : s.pending = before ++ p :: after) (hcommits : p.env.commitFails = false)
      (r : UserRow) (hscheduled : p.scheduled = some r) (d : Database)
      (hinsert : s.db.insert r = some d) :
      CommitEffect s ⟨d, before ++ after,
        ⟨p.body, p.response, p.seen, p.session.db, s.db, d⟩ :: s.log⟩
  | rejected (before after : List Pending) (p : Pending)
      (hpending : s.pending = before ++ p :: after) (hcause : p.env.commitFails = true ∨
        ∃ r, p.scheduled = some r ∧ s.db.insert r = none) :
      CommitEffect s ⟨s.db, before ++ after, ⟨p.body, JavaException.persistence.toResponse,
        p.seen, p.session.db, s.db, s.db⟩ :: s.log⟩

theorem commit_effect (s : State) (i : ℕ) : CommitEffect s (s.commit i) := by
  rcases hp : s.pending[i]? with _ | p
  · rw [commit_of_none hp]
    exact .absent
  · obtain ⟨hi, hget⟩ := List.getElem?_eq_some_iff.1 hp
    have hpending : s.pending = s.pending.take i ++ p :: s.pending.drop (i + 1) := by
      rw [← hget, ← List.drop_eq_getElem_cons hi, List.take_append_drop]
    have herase : s.pending.eraseIdx i = s.pending.take i ++ s.pending.drop (i + 1) :=
      List.eraseIdx_eq_take_drop_succ _ _
    have hcommit := p.commit_eq s.db
    rcases hfails : p.env.commitFails with _ | _
    · rw [hfails, if_neg Bool.false_ne_true] at hcommit
      rcases hscheduled : p.scheduled with _ | r
      · rw [hscheduled] at hcommit
        rw [commit_of_some hp hcommit, herase]
        exact .done _ _ p hpending hfails hscheduled
      · rw [hscheduled] at hcommit
        rcases hinsert : s.db.insert r with _ | d
        · rw [commit_of_rollback hp (hcommit.trans hinsert), herase]
          exact .rejected _ _ p hpending (Or.inr ⟨r, hscheduled, hinsert⟩)
        · rw [commit_of_some hp (hcommit.trans hinsert), herase]
          exact .inserted _ _ p hpending hfails r hscheduled d hinsert
    · rw [hfails, if_pos rfl] at hcommit
      rw [commit_of_rollback hp hcommit, herase]
      exact .rejected _ _ p hpending (Or.inl hfails)

/-! ### No request is lost -/

/-- The requests that were made and not yet answered, and those that were. -/
def bodies (s : State) : List (Body SignUpUser) :=
  s.pending.map Pending.body ++ s.log.map Answered.body

/-- The requests that come in during a step. -/
def requested : Step → List (Body SignUpUser)
  | .lookup body _ => [body]
  | .commit _ => []

theorem bodies_lookup : (s.lookup body env).bodies.Perm (body :: s.bodies) := by
  have heffect := lookup_effect s body env
  generalize s.lookup body env = s' at heffect
  cases heffect with
  | answered e hcause => exact List.perm_middle
  | refused p hbody | scheduled p hbody =>
    rw [bodies, bodies, List.map_append, List.append_assoc, List.map_singleton, hbody]
    exact List.perm_middle

theorem bodies_commit (s : State) (i : ℕ) : (s.commit i).bodies.Perm s.bodies := by
  have heffect := commit_effect s i
  generalize s.commit i = s' at heffect
  have hmove {p : Pending} {before after : List Pending} {a : Answered}
      (hpending : s.pending = before ++ p :: after) (ha : a.body = p.body) :
      ((before ++ after).map Pending.body ++ (a :: s.log).map Answered.body).Perm s.bodies := by
    rw [bodies, hpending, List.map_append, List.map_append, List.map_cons, List.map_cons, ha,
      List.append_assoc, List.append_assoc]
    exact List.perm_middle.append_left _
  cases heffect with
  | absent => exact List.Perm.refl _
  | done before after p hpending => exact hmove hpending rfl
  | inserted before after p hpending => exact hmove hpending rfl
  | rejected before after p hpending => exact hmove hpending rfl

/-- **Every request is pending or has been answered**, once. -/
theorem bodies_run (s : State) (xs : List Step) :
    (Machine.run step s xs).bodies.Perm (xs.flatMap requested ++ s.bodies) := by
  induction xs generalizing s with
  | nil => exact List.Perm.refl _
  | cons x xs ih =>
    have hstep : (s.step x).bodies.Perm (requested x ++ s.bodies) := by
      cases x with
      | lookup body env => exact bodies_lookup
      | commit i => exact bodies_commit s i
    rw [List.flatMap_cons, List.append_assoc]
    exact (ih (s.step x)).trans ((hstep.append_left _).trans
      (List.perm_append_comm_assoc _ _ _))

/-! ### The rows to come -/

/-- The rows that are going to be inserted. -/
def scheduled (s : State) : List UserRow :=
  s.pending.filterMap Pending.scheduled

/-- The rows that are stored and those that are going to be inserted. -/
def rows (s : State) : List UserRow :=
  s.db.rows ++ s.scheduled

theorem mem_scheduled {r : UserRow} :
    r ∈ s.scheduled ↔ ∃ p ∈ s.pending, p.scheduled = some r :=
  List.mem_filterMap

theorem scheduled_eq {before after : List Pending} (h : s.pending = before ++ p :: after)
    (hp : p.scheduled = none) : s.scheduled = (before ++ after).filterMap Pending.scheduled := by
  rw [scheduled, h, List.filterMap_append, List.filterMap_cons_none hp, List.filterMap_append]

theorem scheduled_perm {before after : List Pending} {r : UserRow}
    (h : s.pending = before ++ p :: after) (hp : p.scheduled = some r) :
    s.scheduled.Perm (r :: (before ++ after).filterMap Pending.scheduled) := by
  rw [scheduled, h, List.filterMap_append, List.filterMap_cons_some hp, List.filterMap_append]
  exact List.perm_middle

/-- A lookup schedules one row at most, with an id that is drawn from the sequence. -/
theorem rows_lookup (s : State) (body : Body SignUpUser) (env : Environment) :
    (s.lookup body env).db.rows = s.db.rows ∧
      ((s.lookup body env).scheduled = s.scheduled ∧
          (s.lookup body env).db.sequence = s.db.sequence ∨
        ∃ r : UserRow, (s.lookup body env).scheduled = s.scheduled ++ [r] ∧
          r.id = s.db.sequence ∧ JavaInteger.InRange r.id ∧
            (s.lookup body env).db.sequence = s.db.sequence + 1) := by
  have heffect := lookup_effect s body env
  generalize s.lookup body env = s' at heffect
  cases heffect with
  | answered e hcause => exact ⟨rfl, Or.inl ⟨rfl, rfl⟩⟩
  | refused p hbody henv hscheduled =>
    refine ⟨rfl, Or.inl ⟨?_, rfl⟩⟩
    show (s.pending ++ [p]).filterMap Pending.scheduled = _
    rw [List.filterMap_append, List.filterMap_cons_none hscheduled]
    exact List.append_nil _
  | scheduled p hbody henv valid hscheduled hread hfree hrange d hrows hseq =>
    refine ⟨hrows, Or.inr ⟨newRow s.db valid, ?_, rfl, hrange, hseq⟩⟩
    show (s.pending ++ [p]).filterMap Pending.scheduled = _
    rw [List.filterMap_append, List.filterMap_cons_some hscheduled]
    rfl

/-- A commit stores a row that was scheduled, or has none, or gives it up with an error. -/
theorem rows_commit (s : State) (i : ℕ) :
    (s.commit i).db.sequence = s.db.sequence ∧
      ((s.commit i).rows.Perm s.rows ∨
        ∃ p ∈ s.pending, ∃ r, p.scheduled = some r ∧ s.rows.Perm (r :: (s.commit i).rows) ∧
          ∃ a ∈ (s.commit i).log, a.body = p.body ∧ a.response.status = 500) := by
  have heffect := commit_effect s i
  generalize s.commit i = s' at heffect
  cases heffect with
  | absent => exact ⟨rfl, Or.inl (List.Perm.refl _)⟩
  | done before after p hpending hcommits hscheduled =>
    refine ⟨rfl, Or.inl ?_⟩
    rw [rows, rows, scheduled_eq hpending hscheduled]
    exact List.Perm.refl _
  | inserted before after p hpending hcommits r hscheduled d hinsert =>
    obtain ⟨-, hrows, hseq⟩ := Database.insert_eq_some_iff.1 hinsert
    refine ⟨hseq, Or.inl ?_⟩
    show (d.rows ++ (before ++ after).filterMap Pending.scheduled).Perm _
    rw [hrows, List.append_assoc]
    exact (scheduled_perm hpending hscheduled).symm.append_left _
  | rejected before after p hpending hcause =>
    rcases hscheduled : p.scheduled with _ | r
    · refine ⟨rfl, Or.inl ?_⟩
      rw [rows, rows, scheduled_eq hpending hscheduled]
      exact List.Perm.refl _
    · have hmem : p ∈ s.pending := hpending ▸ List.mem_append_right _ List.mem_cons_self
      have hperm : s.rows.Perm
          (s.db.rows ++ r :: (before ++ after).filterMap Pending.scheduled) :=
        (scheduled_perm hpending hscheduled).append_left _
      exact ⟨rfl, Or.inr ⟨p, hmem, r, hscheduled, hperm.trans List.perm_middle, _,
        List.mem_cons_self, rfl, rfl⟩⟩

/-! ### Ids -/

/-- The ids of the rows, stored or scheduled, differ, and the sequence has passed them. -/
structure Fresh (s : State) : Prop where
  /-- No two rows have one id. -/
  ids_nodup : (s.rows.map UserRow.id).Nodup
  /-- The ids come from the sequence. -/
  id_lt : ∀ r ∈ s.rows, r.id < s.db.sequence
  /-- They are Java ints. -/
  id_inRange : ∀ r ∈ s.rows, JavaInteger.InRange r.id

theorem fresh_start (db : Database) : (start db).Fresh := by
  have hrows : (start db).rows = db.rows := List.append_nil _
  exact ⟨hrows ▸ db.consistent.ids_nodup, hrows ▸ db.consistent.id_lt,
    hrows ▸ db.consistent.id_inRange⟩

theorem fresh_step (h : s.Fresh) (x : Step) : (s.step x).Fresh := by
  cases x with
  | lookup body env =>
    obtain ⟨hrows, ⟨hscheduled, hseq⟩ | ⟨r, hscheduled, hid, hrange, hseq⟩⟩ :=
      rows_lookup s body env
    · have hsame : (s.step (.lookup body env)).rows = s.rows := by
        show (s.lookup body env).db.rows ++ (s.lookup body env).scheduled = _
        rw [hrows, hscheduled, rows]
      refine ⟨hsame ▸ h.ids_nodup, fun q hq ↦ ?_, hsame ▸ h.id_inRange⟩
      exact lt_of_lt_of_eq (h.id_lt q (hsame ▸ hq)) hseq.symm
    · have hmore : (s.step (.lookup body env)).rows = s.rows ++ [r] := by
        show (s.lookup body env).db.rows ++ (s.lookup body env).scheduled = _
        rw [hrows, hscheduled, rows, List.append_assoc]
      refine ⟨?_, fun q hq ↦ ?_, fun q hq ↦ ?_⟩
      · rw [hmore]
        refine Keys.nodup_append h.ids_nodup fun q hq ↦ ?_
        have hlt : q.id < s.db.sequence := h.id_lt q hq
        omega
      · show q.id < (s.lookup body env).db.sequence
        rcases List.mem_append.1 (hmore ▸ hq) with hq | hq
        · have hlt : q.id < s.db.sequence := h.id_lt q hq
          omega
        · obtain rfl := List.mem_singleton.1 hq
          omega
      · rcases List.mem_append.1 (hmore ▸ hq) with hq | hq
        · exact h.id_inRange q hq
        · obtain rfl := List.mem_singleton.1 hq
          exact hrange
  | commit i =>
    obtain ⟨hseq, hrows⟩ := rows_commit s i
    have hleft : ∃ l, (l ++ (s.commit i).rows).Perm s.rows := by
      obtain hperm | ⟨p, -, r, -, hperm, -⟩ := hrows
      · exact ⟨[], hperm⟩
      · exact ⟨[r], hperm.symm⟩
    obtain ⟨l, hperm⟩ := hleft
    have hmem : ∀ r ∈ (s.commit i).rows, r ∈ s.rows := fun r hr ↦
      hperm.subset (List.mem_append_right l hr)
    refine ⟨?_, fun r hr ↦ lt_of_lt_of_eq (h.id_lt r (hmem r hr)) hseq.symm,
      fun r hr ↦ h.id_inRange r (hmem r hr)⟩
    have hnodup : ((l ++ (s.commit i).rows).map UserRow.id).Nodup :=
      (hperm.map UserRow.id).nodup_iff.2 h.ids_nodup
    rw [List.map_append] at hnodup
    exact hnodup.of_append_right

theorem fresh_run (db : Database) (xs : List Step) : (Machine.run step (start db) xs).Fresh :=
  Machine.run_invariant_of_forall (I := Fresh) (fun _ x h ↦ fresh_step h x) (fresh_start db) xs

end State

end DseAuth.SignUps
