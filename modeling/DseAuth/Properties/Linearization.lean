import DseAuth.Properties.Isolation

/-!
# When a schedule is a sequence

A request is worked on in two transactions, and between them others may be handled. A request that
writes an account back then overwrites what the others have done to the account, and this is the
only thing that can go wrong: **a schedule is linearizable** if no request that changes an account
is handled while another request of the same account is in flight. Requests of other accounts,
sign-ups and requests that are turned away may be interleaved with it in any way.

A request takes effect where it is answered, which is between its two steps or at the second of
them. So the sequence is that of the responses (`State.exchange`), and the result says more than
that there is some sequence.

The invariant is that what was authenticated is still there (`InFlight.Fresh`): a request whose row
has not been touched would be let through again, in the same way, by the database it is handled in
(`InFlight.serve_eq`).
-/

namespace DseAuth

variable {tokenType : String}

/-- The call may change the account it was let through as. -/
def Call.Changes : Call → Prop
  | .createUser _ => False
  | .login _ => False
  | .bearer _ .refresh => False
  | .bearer _ .getPriviliges => False
  | .bearer _ _ => True

instance : DecidablePred Call.Changes := fun call ↦ by
  unfold Call.Changes
  split <;> infer_instance

/-- The account that a request in flight was let through as. -/
def InFlight.account (f : InFlight tokenType) : Option ℤ :=
  f.call.account f.seen

/-- The row that a request in flight was let through with is in the database. -/
def InFlight.Fresh (f : InFlight tokenType) (db : Database) : Prop :=
  ∀ r ∈ f.seen.rows, f.call.From r → r ∈ db.rows

/-- A request that may change an account is handled, while another one of the account is in
flight. -/
def State.Overlaps (s : State tokenType) : Step → Prop
  | .authenticate _ _ => False
  | .handle i _ => ∃ f ∈ s.inFlight[i]?, f.call.Changes ∧
      ∃ g ∈ s.inFlight.eraseIdx i, g.account = f.account

instance (s : State tokenType) : DecidablePred s.Overlaps
  | .authenticate _ _ => inferInstanceAs (Decidable False)
  | .handle i _ => inferInstanceAs (Decidable (∃ f ∈ s.inFlight[i]?, f.call.Changes ∧
      ∃ g ∈ s.inFlight.eraseIdx i, g.account = f.account))

/-- The request that is answered in a step. One that is turned away has no second step, so the
environment of that does not matter. -/
def State.exchange (s : State tokenType) : Step → Option Exchange
  | .authenticate env request =>
    match request.authenticate tokenType env s.db with
    | .ok _ => none
    | .error _ => some ⟨request, env, env⟩
  | .handle i env => (s.inFlight[i]?).map fun f ↦ ⟨f.request, f.authEnv, env⟩

/-- The requests that a schedule answers, in the order of the responses. -/
def State.exchanges (s : State tokenType) (steps : List Step) : List Exchange :=
  Machine.trace State.step (fun s x ↦ (s.exchange x).toList) s steps

/-- The responses that a schedule sends. -/
def State.responses (s : State tokenType) (steps : List Step) : List Response :=
  Machine.trace State.step (fun s x ↦ (s.response x).toList) s steps

/-- What was authenticated is still there. -/
def State.Fresh (s : State tokenType) : Prop :=
  ∀ f ∈ s.inFlight, f.Fresh s.db

section

variable {f : InFlight tokenType} {db : Database} {env : Environment}

/-- A request in flight is a sign-up, or it was let through with a row. -/
theorem InFlight.exists_from (f : InFlight tokenType) :
    (∃ body, f.call = .createUser body) ∨ ∃ r ∈ f.seen.rows, f.call.From r := by
  rcases hcall : f.call with body | name | ⟨user, operation⟩
  · exact Or.inl ⟨body, rfl⟩
  · obtain ⟨r, hr, -, rfl⟩ := exists_of_authenticate_eq_login (hcall ▸ f.accepted)
    exact Or.inr ⟨r, hr, Or.inl rfl⟩
  · obtain ⟨-, -, -, -, -, r, hr, -, rfl⟩ := exists_of_authenticate_eq_bearer (hcall ▸ f.accepted)
    exact Or.inr ⟨r, hr, Or.inr ⟨operation, rfl⟩⟩

/-- It would be let through again. -/
theorem InFlight.Fresh.authenticate (h : f.Fresh db) :
    f.request.authenticate tokenType f.authEnv db = .ok f.call := by
  obtain ⟨body, hbody⟩ | ⟨r, hr, hfrom⟩ := f.exists_from
  · have haccepted := f.accepted
    rw [hbody] at haccepted ⊢
    rw [eq_of_authenticate_eq_createUser haccepted]
    rfl
  · exact Request.authenticate_of_mem f.accepted hfrom hr (h r hr hfrom)

/-- **Handling it is serving it from the beginning.** -/
theorem InFlight.serve_eq (h : f.Fresh db) :
    (⟨f.request, f.authEnv, env⟩ : Exchange).serve tokenType db =
      f.call.handle tokenType env db := by
  rw [Exchange.serve, h.authenticate]

/-- It is of the account that it was let through as. -/
theorem InFlight.account_eq (h : f.Fresh db) :
    (⟨f.request, f.authEnv, env⟩ : Exchange).account tokenType db = f.account := by
  rw [Exchange.account, h.authenticate]
  show f.call.account db = f.call.account f.seen
  obtain ⟨body, hbody⟩ | ⟨r, hr, hfrom⟩ := f.exists_from
  · rw [hbody]
    rfl
  · rw [Call.account_of_from hfrom hr, Call.account_of_from hfrom (h r hr hfrom)]

/-- A call that does not change its account, and is no sign-up, changes nothing. -/
theorem Call.handle_db_of_not_changes {call : Call} (h : ¬ call.Changes)
    (hcreate : ∀ body, call ≠ .createUser body) : (call.handle tokenType env db).db = db := by
  rcases call with body | name | ⟨user, operation⟩
  · exact absurd rfl (hcreate body)
  · exact congrArg Outcome.db (unitOfWork_tokenResponse name)
  · rcases operation with _ | _ | _ | _ | _ | _
    case refresh => exact congrArg Outcome.db (unitOfWork_tokenResponse user.username)
    case getPriviliges => exact congrArg Outcome.db (unitOfWork_of_readOnly rfl)
    all_goals exact absurd trivial h

/-- A row that somebody in flight was let through with stays, unless a request of its account that
may change it is handled. -/
theorem InFlight.Fresh.mem_handle (h : f.Fresh db) {r : UserRow} (hr : r ∈ db.rows)
    (hother : f.call.Changes → f.account ≠ some r.id) :
    r ∈ (f.call.handle tokenType env db).db.rows := by
  let x : Exchange := ⟨f.request, f.authEnv, env⟩
  by_cases hof : x.Of tokenType r.id db
  · have haccount : f.account = some r.id := (InFlight.account_eq h).symm.trans hof
    have hcreate (body : Body SignUpUser) : f.call ≠ .createUser body := by
      intro hbody
      rw [InFlight.account, hbody] at haccount
      cases haccount
    rw [Call.handle_db_of_not_changes (fun hchanges ↦ hother hchanges haccount) hcreate]
    exact hr
  · rw [← InFlight.serve_eq h]
    exact Exchange.mem_next_of_foreign hof hr

end

/-! ### One step -/

/-- **What was authenticated stays there** in a step that does not overlap. -/
theorem State.Fresh.step {s : State tokenType} {x : Step} (h : s.Fresh) (hx : ¬ s.Overlaps x) :
    (s.step x).Fresh := by
  obtain hs | ⟨f, hseen, hs⟩ | ⟨i, e, hi, hbefore, rfl, hs⟩ := s.step_cases x
  · rw [hs]
    exact h
  · rw [hs]
    intro g hg
    rcases List.mem_append.1 hg with hg | hg
    · exact h g hg
    · obtain rfl := List.mem_singleton.1 hg
      exact fun r hr _ ↦ hseen ▸ hr
  · have hfresh : e.toInFlight.Fresh s.db := h _ (List.mem_of_getElem? hi)
    rw [hs]
    intro g hg r hr hfrom
    have hmem : r ∈ s.db.rows := h g (List.mem_of_mem_eraseIdx hg) r hr hfrom
    have hother (hchanges : e.call.Changes) : e.toInFlight.account ≠ some r.id := by
      intro haccount
      have hg' : g.account = some r.id := Call.account_of_from hfrom hr
      exact hx ⟨e.toInFlight, hi, hchanges, g, hg, hg'.trans haccount.symm⟩
    rw [Event.outcome, hbefore]
    exact hfresh.mem_handle hmem hother

/-- **A step of a schedule serves the request that it answers**, if there is one. -/
theorem State.step_serves {s : State tokenType} {db : Database} {x : Step} (h : s.Fresh)
    (hdb : s.db = db) :
    (s.step x).db = Machine.run (Exchange.next tokenType) db (s.exchange x).toList ∧
      (s.response x).toList = Machine.answers (Exchange.next tokenType)
        (fun db x ↦ (x.serve tokenType db).response) db (s.exchange x).toList := by
  subst hdb
  rcases x with ⟨env, request⟩ | ⟨i, env⟩
  · rcases hauth : request.authenticate tokenType env s.db with response | call
    · have hserve : (⟨request, env, env⟩ : Exchange).serve tokenType s.db =
          ⟨response, s.db, []⟩ := by
        rw [Exchange.serve, hauth]
      rw [State.step_authenticate_of_error hauth]
      simp only [State.exchange, State.response, hauth, Option.toList_some, Machine.run_cons,
        Exchange.next, hserve]
      exact ⟨rfl, congrArg (fun o : Outcome ↦ [o.response]) hserve.symm⟩
    · rw [State.step_authenticate_of_ok hauth]
      simp only [State.exchange, State.response, hauth]
      exact ⟨rfl, rfl⟩
  · rcases hi : s.inFlight[i]? with _ | f
    · rw [State.step_handle_of_none hi]
      simp only [State.exchange, State.response, hi]
      exact ⟨rfl, rfl⟩
    · have hserve : (⟨f.request, f.authEnv, env⟩ : Exchange).serve tokenType s.db =
          f.call.handle tokenType env s.db := InFlight.serve_eq (h f (List.mem_of_getElem? hi))
      rw [State.step_handle_of_some hi]
      simp only [State.exchange, State.response, hi, Option.map_some, Option.toList_some]
      exact ⟨congrArg Outcome.db hserve.symm,
        congrArg (fun o : Outcome ↦ [o.response]) hserve.symm⟩

/-! ### Schedules -/

/-- **A schedule without overlapping requests is linearizable.** If no request that may change an
account is handled while another request of that account is in flight, the schedule leaves the
database, and gives the responses, that serving the requests from the beginning to the end one after
the other does, in the order in which they are answered. -/
theorem run_linearizable {db : Database} {steps : List Step}
    (h : Machine.Throughout State.step (fun s x ↦ ¬ s.Overlaps x) (State.start tokenType db)
      steps) :
    ((State.start tokenType db).run steps).db =
        serveAll tokenType db ((State.start tokenType db).exchanges steps) ∧
      (State.start tokenType db).responses steps =
        Machine.answers (Exchange.next tokenType) (fun db x ↦ (x.serve tokenType db).response) db
          ((State.start tokenType db).exchanges steps) := by
  have hstart : (State.start tokenType db).Fresh := fun _ hf ↦ absurd hf List.not_mem_nil
  have hweak := Machine.run_weak
    (R := fun (s : State tokenType) (db : Database) ↦ s.Fresh ∧ s.db = db)
    (fun _ _ _ hs hx ↦ ⟨⟨hs.1.step hx, (State.step_serves hs.1 hs.2).1⟩,
      (State.step_serves hs.1 hs.2).2⟩) ⟨hstart, rfl⟩ h
  exact ⟨hweak.1.2, hweak.2⟩

/-- Alice and bob sign up at the same time, and add a list at the same time. -/
def interleavedSteps : List Step :=
  [.authenticate .quiet aliceSignsUp, .authenticate .quiet bobSignsUp, .handle 1 .quiet,
    .handle 0 .quiet, .authenticate .quiet aliceAddsTodo, .authenticate .quiet bobAddsTodo,
    .handle 1 .quiet, .handle 0 .quiet]

theorem run_linearizable_interleaved :
    ((State.start "jws" .empty).run interleavedSteps).db =
        serveAll "jws" .empty ((State.start "jws" .empty).exchanges interleavedSteps) ∧
      (State.start "jws" .empty).exchanges interleavedSteps =
        [bobSignsUp.quietly, aliceSignsUp.quietly, bobAddsTodo.quietly, aliceAddsTodo.quietly] := by
  have hno : Machine.Throughout State.step (fun s x ↦ ¬ s.Overlaps x) (State.start "jws" .empty)
      interleavedSteps :=
    ⟨by decide +kernel, by decide +kernel, by decide +kernel, by decide +kernel,
      by decide +kernel, by decide +kernel, by decide +kernel, by decide +kernel, trivial⟩
  exact ⟨(run_linearizable hno).1, by decide +kernel⟩

end DseAuth
