import DseAuth.Library.Machine
import DseAuth.Service.Effects
import Mathlib.Data.List.Induction

/-!
# Schedules

The service as a machine. Its input is a **schedule**: steps that authenticate a request and steps
that handle one of the requests in flight, in any order, each with the environment of its choice.
Every interleaving of the two transactions of any number of requests is a schedule, and every
prefix of a schedule is one.

* `InFlight` is a request between its two steps. It carries the proof that its first step let it
  through, against the database it has `seen` then.
* `Event` is a request that has been answered, with the database `before` its second step. The `log`
  of a `State` holds the events, newest first.
* `step_cases` says once what a step can do, and `InOrder` is the first invariant drawn from it: in
  the identity order of `Database` everything that was seen comes before what is there now.

Requests handled **one at a time** are the special case in which each request that was let through
is handled by the next step. `Exchange.serve` is one of them from end to end, and
`run_oneAtATime` identifies the two.
-/

namespace DseAuth

/-- A request between its two steps. -/
structure InFlight (tokenType : String) where
  /-- The request. -/
  request : Request
  /-- The environment of its first step. -/
  authEnv : Environment
  /-- The database its first step has read. -/
  seen : Database
  /-- What is left of it. -/
  call : Call
  /-- The first step let it through. -/
  accepted : request.authenticate tokenType authEnv seen = .ok call

/-- A request that has been answered. -/
structure Event (tokenType : String) extends InFlight tokenType where
  /-- The environment of its second step. -/
  env : Environment
  /-- The database its second step has found. -/
  before : Database

/-- What came of it. -/
def Event.outcome {tokenType : String} (e : Event tokenType) : Outcome :=
  e.call.handle tokenType e.env e.before

/-- A state of the service. -/
structure State (tokenType : String) where
  /-- The committed database. -/
  db : Database
  /-- The requests between their two steps. -/
  inFlight : List (InFlight tokenType)
  /-- The requests that have been answered, newest first. -/
  log : List (Event tokenType)

/-- A step of a schedule. -/
inductive Step
  /-- The first step of a request. -/
  | authenticate (env : Environment) (request : Request)
  /-- The second step of a request in flight, by its place. -/
  | handle (i : ℕ) (env : Environment)

/-- The service on a database, with nothing in flight. -/
def State.start (tokenType : String) (db : Database) : State tokenType where
  db := db
  inFlight := []
  log := []

/-- Take a step; handling a request that is not there does nothing. -/
def State.step {tokenType : String} (s : State tokenType) : Step → State tokenType
  | .authenticate env request =>
    match h : request.authenticate tokenType env s.db with
    | .ok call => { s with inFlight := s.inFlight ++ [⟨request, env, s.db, call, h⟩] }
    | .error _ => s
  | .handle i env =>
    match s.inFlight[i]? with
    | none => s
    | some f =>
      let e : Event tokenType := { f with env := env, before := s.db }
      ⟨e.outcome.db, s.inFlight.eraseIdx i, e :: s.log⟩

variable {tokenType : String}

/-- Run a schedule. -/
def State.run (s : State tokenType) (steps : List Step) : State tokenType :=
  Machine.run State.step s steps

theorem State.run_append (s : State tokenType) (before after : List Step) :
    s.run (before ++ after) = (s.run before).run after :=
  Machine.run_append _ _ _ _

theorem State.step_authenticate_of_error {s : State tokenType} {env : Environment}
    {request : Request} {response : Response}
    (h : request.authenticate tokenType env s.db = .error response) :
    s.step (.authenticate env request) = s := by
  rw [State.step]
  split
  · next h' => cases h.symm.trans h'
  · rfl

theorem State.step_authenticate_of_ok {s : State tokenType} {env : Environment}
    {request : Request} {call : Call} (h : request.authenticate tokenType env s.db = .ok call) :
    s.step (.authenticate env request) =
      { s with inFlight := s.inFlight ++ [⟨request, env, s.db, call, h⟩] } := by
  rw [State.step]
  split
  · next h' =>
    obtain rfl := Except.ok.inj (h.symm.trans h')
    rfl
  · next h' => cases h.symm.trans h'

theorem State.step_handle_of_none {s : State tokenType} {i : ℕ} {env : Environment}
    (h : s.inFlight[i]? = none) : s.step (.handle i env) = s := by
  rw [State.step]
  split
  · rfl
  · next h' => cases h.symm.trans h'

theorem State.step_handle_of_some {s : State tokenType} {i : ℕ} {env : Environment}
    {f : InFlight tokenType} (h : s.inFlight[i]? = some f) :
    s.step (.handle i env) = ⟨(f.call.handle tokenType env s.db).db, s.inFlight.eraseIdx i,
      { f with env := env, before := s.db } :: s.log⟩ := by
  rw [State.step]
  split
  · next h' => cases h.symm.trans h'
  · next f' h' =>
    obtain rfl := Option.some.inj (h.symm.trans h')
    rfl

/-- The response that is sent in a step: to a request that is turned away, or to one that is
handled. -/
def State.response (s : State tokenType) : Step → Option Response
  | .authenticate env request =>
    match request.authenticate tokenType env s.db with
    | .ok _ => none
    | .error response => some response
  | .handle i env => (s.inFlight[i]?).map fun f ↦ (f.call.handle tokenType env s.db).response

/-- **What a step can do**: nothing, put a request in flight that has seen the present database, or
answer one that was in flight. -/
theorem State.step_cases (s : State tokenType) (x : Step) :
    s.step x = s ∨
      (∃ f : InFlight tokenType, f.seen = s.db ∧
        s.step x = { s with inFlight := s.inFlight ++ [f] }) ∨
      ∃ (i : ℕ) (e : Event tokenType), s.inFlight[i]? = some e.toInFlight ∧ e.before = s.db ∧
        x = .handle i e.env ∧ s.step x = ⟨e.outcome.db, s.inFlight.eraseIdx i, e :: s.log⟩ := by
  cases x with
  | authenticate env request =>
    rw [State.step]
    split
    · next call h => exact Or.inr (Or.inl ⟨⟨request, env, s.db, call, h⟩, rfl, rfl⟩)
    · exact Or.inl rfl
  | handle i env =>
    rw [State.step]
    split
    · exact Or.inl rfl
    · next f hf =>
      exact Or.inr (Or.inr ⟨i, { f with env := env, before := s.db }, hf, rfl, rfl, rfl⟩)

/-! ### Identity along a schedule -/

/-- A step respects identity. -/
theorem State.le_step (s : State tokenType) (x : Step) : s.db ≤ (s.step x).db := by
  obtain h | ⟨f, -, h⟩ | ⟨i, e, -, hbefore, -, h⟩ := s.step_cases x
  · rw [h]
  · rw [h]
  · rw [h, ← hbefore]
    exact e.call.le_handle e.before

/-- So does a schedule. -/
theorem State.le_run (s : State tokenType) (steps : List Step) : s.db ≤ (s.run steps).db :=
  Machine.run_rel (fun s x ↦ State.le_step s x) s steps

/-- Of two states that one schedule passes through, one comes before the other. -/
theorem State.le_or_le_run (s : State tokenType) {steps before before' : List Step}
    (h : before <+: steps) (h' : before' <+: steps) :
    (s.run before).db ≤ (s.run before').db ∨ (s.run before').db ≤ (s.run before).db := by
  rcases List.prefix_or_prefix_of_prefix h h' with ⟨rest, rfl⟩ | ⟨rest, rfl⟩
  · exact Or.inl (s.run_append before rest ▸ (s.run before).le_run rest)
  · exact Or.inr (s.run_append before' rest ▸ (s.run before').le_run rest)

/-- Everything the service remembers comes before the present. -/
structure State.InOrder (s : State tokenType) : Prop where
  /-- What the requests in flight have seen. -/
  inFlight : ∀ f ∈ s.inFlight, f.seen ≤ s.db
  /-- What the answered requests had seen when they were handled, and what they left behind. -/
  log : ∀ e ∈ s.log, e.seen ≤ e.before ∧ e.outcome.db ≤ s.db

theorem State.InOrder.step {s : State tokenType} (h : s.InOrder) (x : Step) :
    (s.step x).InOrder := by
  obtain hs | ⟨f, hseen, hs⟩ | ⟨i, e, hi, hbefore, -, hs⟩ := s.step_cases x
  · rw [hs]
    exact h
  · rw [hs]
    refine ⟨fun g hg ↦ ?_, h.log⟩
    rcases List.mem_append.1 hg with hg | hg
    · exact h.inFlight g hg
    · rw [List.mem_singleton.1 hg, hseen]
  · -- the present moves up, and so stays above everything that was below it
    have hle : e.before ≤ e.outcome.db := e.call.le_handle e.before
    have hseen : e.seen ≤ s.db := h.inFlight e.toInFlight (List.mem_of_getElem? hi)
    rw [← hbefore] at hseen
    rw [hs]
    refine ⟨fun g hg ↦ ?_, fun g hg ↦ ?_⟩
    · have hg' : g.seen ≤ s.db := h.inFlight g (List.mem_of_mem_eraseIdx hg)
      rw [← hbefore] at hg'
      exact hg'.trans hle
    · rcases List.mem_cons.1 hg with rfl | hg
      · exact ⟨hseen, le_refl g.outcome.db⟩
      · obtain ⟨hseen', hg'⟩ := h.log g hg
        rw [← hbefore] at hg'
        exact ⟨hseen', hg'.trans hle⟩

/-- **Memory is in order** along every schedule. -/
theorem State.inOrder_run (db : Database) (steps : List Step) :
    ((State.start tokenType db).run steps).InOrder := by
  have hstart : (State.start tokenType db).InOrder :=
    ⟨fun _ h ↦ absurd h List.not_mem_nil, fun _ h ↦ absurd h List.not_mem_nil⟩
  exact Machine.run_invariant_of_forall (fun _ x hs ↦ hs.step x) hstart steps

/-- Every event of a run happened in a state the run passed through. -/
theorem State.exists_prefix_of_mem_log {s : State tokenType} {steps : List Step}
    {e : Event tokenType} (he : e ∈ (s.run steps).log) :
    e ∈ s.log ∨ ∃ before after, steps = before ++ after ∧ after ≠ [] ∧
      e.before = (s.run before).db := by
  induction steps using List.reverseRecOn with
  | nil => exact Or.inl he
  | append_singleton steps x ih =>
    have hrun : s.run (steps ++ [x]) = (s.run steps).step x := s.run_append steps [x]
    rw [hrun] at he
    have hold (h : e ∈ (s.run steps).log) : e ∈ s.log ∨ ∃ before after,
        steps ++ [x] = before ++ after ∧ after ≠ [] ∧ e.before = (s.run before).db := by
      refine (ih h).imp_right ?_
      rintro ⟨before, after, rfl, -, hbefore⟩
      exact ⟨before, after ++ [x], List.append_assoc _ _ _, by simp, hbefore⟩
    obtain h | ⟨f, -, h⟩ | ⟨i, e', -, hbefore, -, h⟩ := (s.run steps).step_cases x
    · rw [h] at he
      exact hold he
    · rw [h] at he
      exact hold he
    · rw [h] at he
      rcases List.mem_cons.1 he with rfl | he
      · exact Or.inr ⟨steps, [x], rfl, List.cons_ne_nil _ _, hbefore⟩
      · exact hold he

/-! ### One request at a time -/

/-- A request with the environments of its two steps. -/
structure Exchange where
  /-- The request. -/
  request : Request
  /-- The environment of its first step. -/
  authEnv : Environment
  /-- The environment of its second step. -/
  env : Environment
deriving DecidableEq

/-- Both steps of a request, one right after the other. -/
def Exchange.serve (tokenType : String) (db : Database) (x : Exchange) : Outcome :=
  match x.request.authenticate tokenType x.authEnv db with
  | .ok call => call.handle tokenType x.env db
  | .error response => ⟨response, db, []⟩

/-- The database after a request. -/
def Exchange.next (tokenType : String) (db : Database) (x : Exchange) : Database :=
  (x.serve tokenType db).db

/-- Serve requests one at a time. -/
def serveAll (tokenType : String) (db : Database) (xs : List Exchange) : Database :=
  Machine.run (Exchange.next tokenType) db xs

/-- The schedule of a sequence of requests handled one at a time: each that was let through is
handled at once. -/
def oneAtATime (xs : List Exchange) : List Step :=
  xs.flatMap fun x ↦ [.authenticate x.authEnv x.request, .handle 0 x.env]

/-- **Serving one at a time is a schedule.** -/
theorem run_oneAtATime (s : State tokenType) (hs : s.inFlight = []) (xs : List Exchange) :
    (s.run (oneAtATime xs)).db = serveAll tokenType s.db xs ∧
      (s.run (oneAtATime xs)).inFlight = [] := by
  induction xs generalizing s with
  | nil => exact ⟨rfl, hs⟩
  | cons x xs ih =>
    have hrun : s.run (oneAtATime (x :: xs)) =
        ((s.step (.authenticate x.authEnv x.request)).step (.handle 0 x.env)).run
          (oneAtATime xs) := rfl
    have hserve : serveAll tokenType s.db (x :: xs) =
        serveAll tokenType (x.serve tokenType s.db).db xs := rfl
    obtain ⟨hdb, hempty⟩ :
        ((s.step (.authenticate x.authEnv x.request)).step (.handle 0 x.env)).db =
            (x.serve tokenType s.db).db ∧
          ((s.step (.authenticate x.authEnv x.request)).step (.handle 0 x.env)).inFlight = [] := by
      rw [Exchange.serve]
      rcases hauth : x.request.authenticate tokenType x.authEnv s.db with response | call
      · -- turned away, and nothing is there for the second step to handle
        have hnone : s.inFlight[0]? = none := by rw [hs]; rfl
        rw [State.step_authenticate_of_error hauth, State.step_handle_of_none hnone]
        exact ⟨rfl, hs⟩
      · rw [State.step_authenticate_of_ok hauth, hs]
        exact ⟨rfl, rfl⟩
    rw [hrun, hserve, ← hdb]
    exact ih _ hempty

/-! ### Serving a request -/

/-- A request is turned away, or let through and handled. -/
theorem Exchange.serve_cases (x : Exchange) (db : Database) :
    (∃ response : Response, response.status ≠ 200 ∧ response.entity = .framework ∧
        x.serve tokenType db = ⟨response, db, []⟩) ∨
      ∃ call, x.request.authenticate tokenType x.authEnv db = .ok call ∧
        x.serve tokenType db = call.handle tokenType x.env db := by
  rcases h : x.request.authenticate tokenType x.authEnv db with response | call
  · obtain ⟨hstatus, hentity⟩ := response_of_authenticate_eq_error h
    exact Or.inl ⟨response, hstatus, hentity, by rw [Exchange.serve, h]⟩
  · exact Or.inr ⟨call, rfl, by rw [Exchange.serve, h]⟩

/-- Where a row comes from when a request is served: it was there, and was written back if the
request was let through as its account, or it is new. -/
theorem Exchange.mem_serve {x : Exchange} {db : Database} {r' : UserRow}
    (hr' : r' ∈ (x.serve tokenType db).db.rows) :
    (∃ r ∈ db.rows, r.id = r'.id ∧ r.username = r'.username ∧
        (r' = r ∨ ∃ operation u,
          x.request.authenticate tokenType x.authEnv db = .ok (.bearer r.load operation) ∧
            operation.updated r.load = some u ∧ r' = r.writeBack u ∧
              (x.serve tokenType db).committed = [.update u])) ∨
      ∃ body valid, x.request = .createUser (.value body) ∧ SignsUp x.env db body valid ∧
        r' = newRow db valid := by
  obtain ⟨response, -, -, hserve⟩ | ⟨call, hauth, hserve⟩ := @Exchange.serve_cases tokenType x db
  · rw [hserve] at hr'
    exact Or.inl ⟨r', hr', rfl, rfl, Or.inl rfl⟩
  · rw [hserve] at hr' ⊢
    obtain ⟨r, hr, hid, hname, rfl | ⟨u, hu, huid, hwrite, hcommitted⟩⟩ |
      ⟨body, valid, rfl, hsignsUp, rfl⟩ := Call.mem_handle hr'
    · exact Or.inl ⟨r', hr, hid, hname, Or.inl rfl⟩
    · refine Or.inl ⟨r, hr, hid, hname, Or.inr ?_⟩
      obtain ⟨-, operation, -, q, hq, rfl, hoperation⟩ := exists_of_updated hauth hu
      -- the user was loaded from the very row it is written back to
      have hqr : q.id = r.id := (Operation.updated_keeps hoperation).1.symm.trans huid
      obtain rfl := db.consistent.eq_of_id hq hr hqr
      exact ⟨operation, u, hauth, hoperation, hwrite, hcommitted⟩
    · exact Or.inr ⟨body, valid, eq_of_authenticate_eq_createUser hauth, hsignsUp, rfl⟩

/-- A request with a bearer token that is let through as an account. -/
theorem Exchange.serve_bearer {x : Exchange} {db : Database} {token : Token} {operation : Operation}
    {r : UserRow} (hrequest : x.request = .bearer token operation)
    (haccepted : x.request.AcceptedAs tokenType x.authEnv db r) :
    x.serve tokenType db = (Call.bearer r.load operation).handle tokenType x.env db := by
  rw [hrequest] at haccepted
  obtain ⟨hr, hlookup, claims, hprocess, hclaims⟩ := acceptedAs_bearer_iff.1 haccepted
  have hauth : x.request.authenticate tokenType x.authEnv db = .ok (.bearer r.load operation) := by
    rw [hrequest]
    exact authenticate_bearer_eq_ok_iff.2 ⟨claims, hprocess, hlookup, r, hr, hclaims, rfl⟩
  rw [Exchange.serve, hauth]

/-- A token that is issued comes from a request that was let through. -/
theorem Exchange.exists_call_of_token {x : Exchange} {db : Database} {token : Token}
    (h : (x.serve tokenType db).response.entity = .token token) :
    ∃ call, x.request.authenticate tokenType x.authEnv db = .ok call ∧
      x.serve tokenType db = call.handle tokenType x.env db := by
  obtain ⟨response, -, hentity, hserve⟩ | hcall := @Exchange.serve_cases tokenType x db
  · rw [hserve, hentity] at h
    cases h
  · exact hcall

/-! ### A first user -/

/-- An environment in which nothing fails. -/
def Environment.quiet : Environment where
  now := 0
  jti := "0"

/-- A request in quiet environments. -/
def Request.quietly (request : Request) : Exchange where
  request := request
  authEnv := .quiet
  env := .quiet

/-- The claims in the token that is issued to the first account, `alice`, of an empty service. -/
def aliceClaims : JwtClaims where
  claimsMap :=
    [("sub", .string "1"), ("privileges", .array []), ("username", .string "alice"),
      ("iat", .number 0 0), ("exp", .number 2700 0), ("jti", .string "0")]

/-- Alice signs up, with a password that only she knows. -/
def aliceSignsUp : Request := .createUser (.value ⟨some "alice", some "alice@a", some "secret"⟩)

/-- Alice logs in. -/
def aliceLogsIn : Request := .login (some ⟨"alice", "secret"⟩)

/-- Somebody else signs up under the same name. -/
def otherAliceSignsUp : Request := .createUser (.value ⟨some "alice", some "other@b", some "other"⟩)

/-- Bob signs up. -/
def bobSignsUp : Request := .createUser (.value ⟨some "bob", some "bob@b", some "hidden"⟩)

end DseAuth
