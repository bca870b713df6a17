import DseAuth.Service.Schedule

/-!
# Requests in three steps

In a `State` a method runs with its commit in one step. Here a request takes three: it is
authenticated, its method runs, and its transaction is committed, and between any two of them others
get through. The method reads the database that it finds, and what it has scheduled is issued
against the database that the commit finds.

A `Running` request is one between its method and its commit. What its session can hold is said
once, in `Running.cases`: nothing, or one update of the principal, or its deletion. (A sign-up can
schedule an insertion too; its two steps are in `SignUps`.) With that `State.commit_of_writes` shows
that a request that has something to write might as well run its method when it is committed.
-/

namespace DseAuth.Transactions

/-- A request whose method has returned a response, and which is to be committed. -/
structure Running (tokenType : String) extends InFlight tokenType where
  /-- The environment of its transaction. -/
  env : Environment
  /-- The database that the method has found. -/
  found : Database
  /-- The response, if the commit succeeds. -/
  response : Response
  /-- The session as the method has left it. -/
  session : Session
  /-- The method ran like this. -/
  ran : call.run tokenType env (Session.openSession found) = (.ok response, session)

/-- A request that has been answered. -/
structure Answered (tokenType : String) extends InFlight tokenType where
  /-- The environment of its transaction. -/
  env : Environment
  /-- The response. -/
  response : Response

/-- A state of the service. -/
structure State (tokenType : String) where
  /-- The committed database. -/
  db : Database
  /-- The requests that have been authenticated. -/
  inFlight : List (InFlight tokenType)
  /-- The requests whose method has run. -/
  running : List (Running tokenType)
  /-- The requests that have been answered, newest first. -/
  log : List (Answered tokenType)

/-- A step of a schedule. -/
inductive Step
  /-- The first step of a request. -/
  | authenticate (env : Environment) (request : Request)
  /-- The method of a request in flight, by its place. -/
  | method (i : ℕ) (env : Environment)
  /-- The commit of a running request, by its place. -/
  | commit (i : ℕ)

variable {tokenType : String}

/-- The session of a running request when the commit finds a database. -/
def Running.atCommit (r : Running tokenType) (db : Database) : Session where
  db := db
  managed := r.session.managed
  actions := r.session.actions

namespace State

/-- The service on a database, with nothing going on. -/
def start (tokenType : String) (db : Database) : State tokenType where
  db := db
  inFlight := []
  running := []
  log := []

/-- Run the method of a request, and leave the others in flight. An exception is answered at
once. -/
def method (s : State tokenType) (f : InFlight tokenType) (others : List (InFlight tokenType))
    (env : Environment) : State tokenType :=
  match h : f.call.run tokenType env (Session.openSession s.db) with
  | (.ok response, session) =>
    ⟨session.db, others, s.running ++ [⟨f, env, s.db, response, session, h⟩], s.log⟩
  | (.error e, session) => ⟨session.db, others, s.running, ⟨f, env, e.toResponse⟩ :: s.log⟩

/-- Commit the session of a request to the database as it is now, and leave the others running. -/
def commit (s : State tokenType) (r : Running tokenType) (others : List (Running tokenType)) :
    State tokenType :=
  match (r.atCommit s.db).commit r.env with
  | some db => ⟨db, s.inFlight, others, ⟨r.toInFlight, r.env, r.response⟩ :: s.log⟩
  | none =>
    ⟨s.db, s.inFlight, others,
      ⟨r.toInFlight, r.env, JavaException.persistence.toResponse⟩ :: s.log⟩

/-- Take a step. -/
def step (s : State tokenType) : Step → State tokenType
  | .authenticate env request =>
    match h : request.authenticate tokenType env s.db with
    | .ok call => { s with inFlight := s.inFlight ++ [⟨request, env, s.db, call, h⟩] }
    | .error _ => s
  | .method i env =>
    match s.inFlight[i]? with
    | none => s
    | some f => s.method f (s.inFlight.eraseIdx i) env
  | .commit i =>
    match s.running[i]? with
    | none => s
    | some r => s.commit r (s.running.eraseIdx i)

end State

variable {env : Environment} {db : Database} {call : Call} {user u : User}

/-! ### What a method leaves behind -/

/-- What a method can make of its session, apart from a sign-up. -/
inductive Left (tokenType : String) (env : Environment) (call : Call) (db : Database) :
    Except JavaException Response × Session → Prop
  /-- It has scheduled nothing. -/
  | nothing (result : Except JavaException Response) :
      Left tokenType env call db (result, Session.openSession db)
  /-- It has scheduled an update of its principal, and then looked for a token. -/
  | update {u : User} (hcall : call.updated = some u) (hwrite : env.writeFails = false) :
      Left tokenType env call db
        (updateAndReissue tokenType env u (Session.openSession db))
  /-- It has scheduled the deletion of its principal. -/
  | delete {user : User} (hcall : call = .bearer user .deleteUser)
      (hwrite : env.writeFails = false) :
      Left tokenType env call db (.ok ⟨200, .none⟩, (Session.openSession db).delete user)

theorem updateAndReissue_left (hcall : call.updated = some u) :
    Left tokenType env call db (updateAndReissue tokenType env u (Session.openSession db)) := by
  rcases hwrite : env.writeFails with _ | _
  · exact .update hcall hwrite
  · have hmethod : updateAndReissue tokenType env u (Session.openSession db) =
        (.ok ⟨404, .text "User not found!"⟩, Session.openSession db) := by
      rw [updateAndReissue, UserDAO.updateUser, hwrite, if_pos rfl]
    rw [hmethod]
    exact .nothing _

theorem deleteUser_left (hcall : call = .bearer user .deleteUser) :
    Left tokenType env call db (UserResource.deleteUser env user (Session.openSession db)) := by
  rw [UserResource.deleteUser, UserDAO.deleteUser]
  rcases hwrite : env.writeFails with _ | _
  · exact .delete hcall hwrite
  · exact .nothing _

/-- **It can make nothing else of it.** -/
theorem call_left (hcall : ∀ body, call ≠ .createUser body) :
    Left tokenType env call db (call.run tokenType env (Session.openSession db)) := by
  rcases call with body | name | ⟨user, operation⟩
  · exact absurd rfl (hcall body)
  · rw [Call.run, AuthenticationResource.login, tokenResponse_eq]
    exact .nothing _
  · rw [Call.run]
    rcases hupdated : operation.updated user with _ | u
    · obtain rfl | rfl | ⟨result, hresult, -⟩ :=
        @Operation.run_of_not_updated tokenType _ _ hupdated
      · exact deleteUser_left rfl
      · rw [Operation.run, AuthenticationResource.refresh, tokenResponse_eq]
        exact .nothing _
      · rw [hresult user rfl rfl env]
        exact .nothing _
    · rw [Operation.run_of_updated hupdated]
      exact updateAndReissue_left hupdated

/-! ### Running requests -/

/-- An update that leaves the method with a response. Nothing has failed by then but signature or
encryption, and if the row was there the response is the one that the update is worth. -/
theorem updateAndReissue_ok {response : Response} {session : Session}
    (hwrite : env.writeFails = false)
    (h : updateAndReissue tokenType env u (Session.openSession db) = (.ok response, session)) :
    session = (Session.openSession db).update u ∧ env.lookupFails = false ∧
      TokenHandler.ValidTokenType tokenType ∧
        ((∃ r ∈ db.rows, r.id = u.id ∧ r.username = u.username) →
          response = reissueResponse tokenType env u) := by
  rw [updateAndReissue_of_write hwrite] at h
  rcases hbuild : TokenHandler.buildToken tokenType env u.username
      ((Session.openSession db).update u) with e | token
  · rw [hbuild] at h
    obtain ⟨rfl, hvalid, found, hfind⟩ | rfl | ⟨message, rfl⟩ | ⟨message, rfl⟩ :=
      TokenHandler.buildToken_eq_error hbuild
    · obtain ⟨hresponse, rfl⟩ := Prod.mk.inj h
      obtain rfl := Except.ok.inj hresponse
      refine ⟨rfl, UserDAO.lookup_of_findByName hfind, hvalid, fun _ ↦ ?_⟩
      have hjose : TokenHandler.JoseFails tokenType env := by
        by_contra hjose
        rw [TokenHandler.buildToken_eq, if_pos hvalid, hfind] at hbuild
        cases (if_neg hjose).symm.trans hbuild
      rw [reissueResponse, if_pos hjose]
    · cases (Prod.mk.inj h).1
    · cases (Prod.mk.inj h).1
    · cases (Prod.mk.inj h).1
  · rw [hbuild] at h
    obtain ⟨hresponse, rfl⟩ := Prod.mk.inj h
    obtain rfl := Except.ok.inj hresponse
    obtain ⟨found, hfind, hvalid, hjose, rfl⟩ := TokenHandler.buildToken_eq_ok_iff.1 hbuild
    have hlookup := UserDAO.lookup_of_findByName hfind
    refine ⟨rfl, hlookup, hvalid, ?_⟩
    rintro ⟨r, hr, hid, hname⟩
    rw [findByName_update_of_mem hr hid hname hlookup] at hfind
    obtain rfl := Option.some.inj (Except.ok.inj hfind)
    rw [reissueResponse, if_neg hjose]

/-- The request has something to write. -/
def Running.writes (r : Running tokenType) : Bool :=
  !r.session.actions.isEmpty

/-- **What a running request is about to do**, if it is no sign-up. -/
theorem Running.cases (r : Running tokenType) (hcall : ∀ body, r.call ≠ .createUser body) :
    (r.writes = false ∧ r.session = Session.openSession r.found) ∨
      (r.writes = true ∧ r.env.writeFails = false ∧ ∃ u, r.call.updated = some u ∧
        updateAndReissue tokenType r.env u (Session.openSession r.found) =
          (.ok r.response, r.session)) ∨
      r.writes = true ∧ r.env.writeFails = false ∧ ∃ user, r.call = .bearer user .deleteUser ∧
        r.response = ⟨200, .none⟩ ∧ r.session = (Session.openSession r.found).delete user := by
  have hleft := @call_left tokenType r.env r.found r.call hcall
  have hran := r.ran
  generalize r.call.run tokenType r.env (Session.openSession r.found) = left at hleft hran
  cases hleft with
  | nothing result =>
    obtain ⟨-, hsession⟩ := Prod.mk.inj hran
    exact Or.inl ⟨by rw [Running.writes, ← hsession]; rfl, hsession.symm⟩
  | update hupdated hwrite =>
    obtain ⟨hsession, -⟩ := updateAndReissue_ok hwrite hran
    exact Or.inr (Or.inl ⟨by rw [Running.writes, hsession]; rfl, hwrite, _, hupdated, hran⟩)
  | delete hdelete hwrite =>
    obtain ⟨hresponse, hsession⟩ := Prod.mk.inj hran
    exact Or.inr (Or.inr ⟨by rw [Running.writes, ← hsession]; rfl, hwrite, _, hdelete,
      (Except.ok.inj hresponse).symm, hsession.symm⟩)

/-! ### The two steps of a transaction -/

section

variable {s : State tokenType} {r : Running tokenType} {f : InFlight tokenType}
  {others : List (InFlight tokenType)} {rest : List (Running tokenType)}

theorem Left.db_eq {left : Except JavaException Response × Session}
    (h : Left tokenType env call db left) : left.2.db = db := by
  cases h with
  | nothing => rfl
  | update hcall hwrite =>
    rw [updateAndReissue_of_write hwrite]
    split
    · rfl
    · rfl
    · rfl
  | delete => rfl

theorem State.method_of_ok {response : Response} {session : Session}
    (h : f.call.run tokenType env (Session.openSession s.db) = (.ok response, session)) :
    s.method f others env =
      ⟨session.db, others, s.running ++ [⟨f, env, s.db, response, session, h⟩], s.log⟩ := by
  rw [State.method]
  split
  · next h' =>
    obtain ⟨hresponse, rfl⟩ := Prod.mk.inj (h.symm.trans h')
    obtain rfl := Except.ok.inj hresponse
    rfl
  · next h' => cases (Prod.mk.inj (h.symm.trans h')).1

theorem State.method_of_error {e : JavaException} {session : Session}
    (h : f.call.run tokenType env (Session.openSession s.db) = (.error e, session)) :
    s.method f others env =
      ⟨session.db, others, s.running, ⟨f, env, e.toResponse⟩ :: s.log⟩ := by
  rw [State.method]
  split
  · next h' => cases (Prod.mk.inj (h.symm.trans h')).1
  · next h' =>
    obtain ⟨he, rfl⟩ := Prod.mk.inj (h.symm.trans h')
    obtain rfl := Except.error.inj he
    rfl

theorem State.step_authenticate_of_error {request : Request} {response : Response}
    (h : request.authenticate tokenType env s.db = .error response) :
    s.step (.authenticate env request) = s := by
  rw [State.step]
  split
  · next h' => cases h.symm.trans h'
  · rfl

theorem State.step_authenticate_of_ok {request : Request} {call : Call}
    (h : request.authenticate tokenType env s.db = .ok call) :
    s.step (.authenticate env request) =
      { s with inFlight := s.inFlight ++ [⟨request, env, s.db, call, h⟩] } := by
  rw [State.step]
  split
  · next h' =>
    obtain rfl := Except.ok.inj (h.symm.trans h')
    rfl
  · next h' => cases h.symm.trans h'

/-- What a request is told that has nothing to write. -/
def Running.answered (r : Running tokenType) : Answered tokenType :=
  ⟨r.toInFlight, r.env, readOnlyResponse r.env (.ok r.response)⟩

/-- **What the method of a request can do**: leave it with something to write, or come to what the
whole request comes to, in which case nothing is written. -/
theorem State.method_cases (s : State tokenType) (f : InFlight tokenType)
    (others : List (InFlight tokenType)) (env : Environment)
    (hcall : ∀ body, f.call ≠ .createUser body) :
    (∃ r : Running tokenType, r.toInFlight = f ∧ r.found = s.db ∧ r.writes = true ∧
        s.method f others env = ⟨s.db, others, s.running ++ [r], s.log⟩) ∨
      (f.call.handle tokenType env s.db).db = s.db ∧
        (s.method f others env = ⟨s.db, others, s.running,
            ⟨f, env, (f.call.handle tokenType env s.db).response⟩ :: s.log⟩ ∨
          ∃ r : Running tokenType, r.toInFlight = f ∧ r.found = s.db ∧ r.writes = false ∧
            r.answered = ⟨f, env, (f.call.handle tokenType env s.db).response⟩ ∧
              s.method f others env = ⟨s.db, others, s.running ++ [r], s.log⟩) := by
  have hdb := (@call_left tokenType env s.db f.call hcall).db_eq
  rcases hmethod : f.call.run tokenType env (Session.openSession s.db) with ⟨e | response, session⟩
  · rw [hmethod] at hdb
    have hhandle : f.call.handle tokenType env s.db = ⟨e.toResponse, session.db, []⟩ :=
      unitOfWork_of_error hmethod
    rw [State.method_of_error hmethod, hhandle]
    exact Or.inr ⟨hdb, Or.inl (by rw [hdb])⟩
  · rw [hmethod] at hdb
    let r : Running tokenType := ⟨f, env, s.db, response, session, hmethod⟩
    have hnext : s.method f others env = ⟨s.db, others, s.running ++ [r], s.log⟩ := by
      rw [State.method_of_ok hmethod, hdb]
    obtain ⟨hwrites, hsession⟩ | ⟨hwrites, -⟩ | ⟨hwrites, -⟩ := r.cases hcall
    · obtain rfl : session = Session.openSession s.db := hsession
      have hhandle : f.call.handle tokenType env s.db =
          ⟨readOnlyResponse env (.ok response), s.db, []⟩ := unitOfWork_of_readOnly hmethod
      rw [hhandle]
      exact Or.inr ⟨rfl, Or.inr ⟨r, rfl, rfl, hwrites, rfl, hnext⟩⟩
    · exact Or.inl ⟨r, rfl, rfl, hwrites, hnext⟩
    · exact Or.inl ⟨r, rfl, rfl, hwrites, hnext⟩

/-- A commit that has nothing to write. -/
theorem State.commit_of_not_writes (hcall : ∀ body, r.call ≠ .createUser body)
    (hwrites : r.writes = false) :
    s.commit r rest = ⟨s.db, s.inFlight, rest, r.answered :: s.log⟩ := by
  obtain ⟨-, hsession⟩ | ⟨hwrites', -⟩ | ⟨hwrites', -⟩ := r.cases hcall
  · have hactions : (r.atCommit s.db).actions = [] := congrArg Session.actions hsession
    rw [State.commit, Session.commit, hactions, Running.answered, readOnlyResponse]
    rcases r.env.commitFails with _ | _
    · rfl
    · rfl
  · cases hwrites.symm.trans hwrites'
  · cases hwrites.symm.trans hwrites'

/-- A row that is written back now was there when the method ran. -/
theorem exists_mem_of_update (f : InFlight tokenType) {found d : Database}
    (hupdated : f.call.updated = some u) (hseen : f.seen ≤ found) (hfound : found ≤ db)
    (h : db.update u = some d) : ∃ r ∈ found.rows, r.id = u.id ∧ r.username = u.username := by
  obtain ⟨⟨⟨q, hq, hid, hname⟩, -⟩, -⟩ := Database.update_eq_some_iff.1 h
  obtain ⟨token, operation, -, row, hrow, -, hoperation⟩ := exists_of_updated f.accepted hupdated
  have hrowid : u.id = row.id := (Operation.updated_keeps hoperation).1
  have hlt : q.id < found.sequence := by
    have hlt' : row.id < f.seen.sequence := f.seen.consistent.id_lt row hrow
    have hle : f.seen.sequence ≤ found.sequence := hseen.1
    omega
  obtain ⟨r, hr, hrid, hrname⟩ := hfound.2 q hq hlt
  exact ⟨r, hr, hrid.trans hid, hrname.trans hname⟩

/-- **A request that has something to write might as well run its method now.** The response that it
has made up is the one it would make up now, or its commit fails. -/
theorem State.commit_of_writes (hcall : ∀ body, r.call ≠ .createUser body)
    (hwrites : r.writes = true) (hseen : r.seen ≤ r.found) (hfound : r.found ≤ s.db) :
    s.commit r rest = ⟨(r.call.handle tokenType r.env s.db).db, s.inFlight, rest,
      ⟨r.toInFlight, r.env, (r.call.handle tokenType r.env s.db).response⟩ :: s.log⟩ := by
  obtain ⟨hwrites', -⟩ | ⟨-, hwrite, u, hupdated, hmethod⟩ |
    ⟨-, hwrite, user, hdelete, hresponse, hsession⟩ := r.cases hcall
  · cases hwrites'.symm.trans hwrites
  · obtain ⟨hsession, hlookup, hvalid, hreissue⟩ := updateAndReissue_ok hwrite hmethod
    have hactions : (r.atCommit s.db).actions = [.update u] := congrArg Session.actions hsession
    have hcommit := @commit_singleton r.env _ _ hactions
    have hrefused (h : ¬ (Works tokenType r.env ∧ ∃ d, s.db.update u = some d)) :
        r.call.handle tokenType r.env s.db =
          ⟨JavaException.persistence.toResponse, s.db, []⟩ := by
      rw [Call.handle_of_updated hupdated, updateAndReissue_of_not h, refusalResponse, hwrite]
      rfl
    rcases hc : r.env.commitFails with _ | _
    · rw [hc, if_neg Bool.false_ne_true] at hcommit
      rcases hupdate : s.db.update u with _ | d
      · have hnot : ¬ (Works tokenType r.env ∧ ∃ d, s.db.update u = some d) := by
          rintro ⟨-, d, hd⟩
          cases hupdate.symm.trans hd
        rw [hrefused hnot, State.commit, hcommit.trans hupdate]
      · have hresponse : r.response = reissueResponse tokenType r.env u :=
          hreissue (exists_mem_of_update r.toInFlight hupdated hseen hfound hupdate)
        rw [Call.handle_of_updated hupdated,
          updateAndReissue_of_update ⟨⟨hlookup, hwrite, hc⟩, hvalid⟩ hupdate, State.commit,
          hcommit.trans hupdate, hresponse]
    · rw [hc, if_pos rfl] at hcommit
      have hnot : ¬ (Works tokenType r.env ∧ ∃ d, s.db.update u = some d) := by
        rintro ⟨hworks, -⟩
        cases hc.symm.trans hworks.commit
      rw [hrefused hnot, State.commit, hcommit]
  · have hactions : (r.atCommit s.db).actions = [.delete user] := congrArg Session.actions hsession
    have hcommit := @commit_singleton r.env _ _ hactions
    have hhandle : r.call.handle tokenType r.env s.db =
        unitOfWork r.env (UserResource.deleteUser r.env user) s.db := by
      rw [hdelete]
      rfl
    rw [hhandle, unitOfWork_deleteUser user hwrite, State.commit, hcommit, hresponse]
    show (match (if r.env.commitFails then none else s.db.delete user) with
      | some db => _
      | none => _) = _
    rcases (if r.env.commitFails then none else s.db.delete user) with _ | d
    · rfl
    · rfl

end

end DseAuth.Transactions
