import DseAuth.Service.Transactions

/-!
# A method and its commit are one step

The results about schedules let a request run its method and commit it in one step. This is where
that is justified: **every schedule in three steps comes to a schedule in two**
(`transactions_atomic`), with the same database, and the same requests answered in the same way.
Sign-ups are not covered; what becomes of them when others get in between is in `SerialSignUps`.

A request that has something to write takes effect when it is committed, the others when their
method runs. So in the schedule in two steps (`Atomically`) the ones are still in flight while they
run, and the others have been answered by then.
-/

namespace DseAuth.Transactions

variable {tokenType : String}

/-- What a request that was handled in one step has been told. -/
def ofEvent (e : Event tokenType) : Answered tokenType :=
  ⟨e.toInFlight, e.env, e.outcome.response⟩

/-- The requests that have something to write. -/
def writing (running : List (Running tokenType)) : List (InFlight tokenType) :=
  (running.filter Running.writes).map Running.toInFlight

/-- The requests that have nothing to write, and what they are going to be told. -/
def reading (running : List (Running tokenType)) : List (Answered tokenType) :=
  (running.filter fun r ↦ !r.writes).map Running.answered

/-- A state in which methods and commits are one step, for one in which they are two. -/
structure Atomically (s : State tokenType) (t : DseAuth.State tokenType) : Prop where
  /-- The database is the same. -/
  db : t.db = s.db
  /-- The requests that are running and have something to write are still in flight. -/
  inFlight : t.inFlight.Perm (s.inFlight ++ writing s.running)
  /-- The requests that are running and have nothing to write have been answered. -/
  log : (t.log.map ofEvent).Perm (s.log ++ reading s.running)

/-- The step brings in no sign-up. -/
def Step.NoSignUp : Step → Prop
  | .authenticate _ request => ∀ body, request ≠ .createUser body
  | _ => True

/-- What is true of the requests that are going on. -/
structure State.Sound (s : State tokenType) : Prop where
  /-- The requests in flight are no sign-ups, and have seen an earlier database. -/
  inFlight : ∀ f ∈ s.inFlight, (∀ body, f.call ≠ .createUser body) ∧ f.seen ≤ s.db
  /-- Neither are those that are running, and they have found one that came in between. -/
  running : ∀ r ∈ s.running, (∀ body, r.call ≠ .createUser body) ∧ r.seen ≤ r.found ∧
    r.found ≤ s.db

variable {s : State tokenType} {t : DseAuth.State tokenType}

/-! ### Places in lists -/

/-- What is at a place, and what is left without it. -/
theorem exists_around {α : Type} {l : List α} {i : ℕ} {a : α} (h : l[i]? = some a) :
    ∃ before after, l = before ++ a :: after ∧ l.eraseIdx i = before ++ after := by
  obtain ⟨hi, hget⟩ := List.getElem?_eq_some_iff.1 h
  refine ⟨l.take i, l.drop (i + 1), ?_, List.eraseIdx_eq_take_drop_succ _ _⟩
  rw [← hget, ← List.drop_eq_getElem_cons hi, List.take_append_drop]

/-- **A request in flight can be handled**, wherever it is. -/
theorem exists_handle {f : InFlight tokenType} {others : List (InFlight tokenType)}
    (h : t.inFlight.Perm (f :: others)) (env : Environment) :
    ∃ (i : ℕ) (rest : List (InFlight tokenType)), rest.Perm others ∧
      t.run [.handle i env] = ⟨(f.call.handle tokenType env t.db).db, rest,
        { f with env := env, before := t.db } :: t.log⟩ := by
  obtain ⟨i, hi⟩ := List.getElem?_of_mem (h.symm.subset List.mem_cons_self)
  obtain ⟨before, after, hsplit, herase⟩ := exists_around hi
  refine ⟨i, before ++ after, ?_, ?_⟩
  · have hperm : (f :: (before ++ after)).Perm (f :: others) :=
      List.perm_middle.symm.trans (hsplit ▸ h)
    exact hperm.cons_inv
  · show t.step (.handle i env) = _
    rw [DseAuth.State.step_handle_of_some hi, herase]

/-- One more at the end is one more in front. -/
theorem perm_append_snoc {α : Type} {a : α} {l m n : List α} (h : l.Perm (m ++ n)) :
    (a :: l).Perm (m ++ (n ++ [a])) := by
  rw [← List.append_assoc]
  exact (h.cons a).trans (List.perm_append_singleton a (m ++ n)).symm

/-- One in the middle is one in front. -/
theorem perm_append_middle {α : Type} {a : α} {m before after : List α} :
    (m ++ (before ++ a :: after)).Perm (a :: (m ++ (before ++ after))) := by
  rw [← List.append_assoc, ← List.append_assoc]
  exact List.perm_middle

section

variable {r : Running tokenType} {running others : List (Running tokenType)}

theorem writing_append : writing (running ++ others) = writing running ++ writing others := by
  rw [writing, List.filter_append, List.map_append]
  rfl

theorem reading_append : reading (running ++ others) = reading running ++ reading others := by
  rw [reading, List.filter_append, List.map_append]
  rfl

theorem writing_cons_of_writes (h : r.writes = true) :
    writing (r :: others) = r.toInFlight :: writing others := by
  rw [writing, List.filter_cons_of_pos h]
  rfl

theorem writing_cons_of_not (h : r.writes = false) : writing (r :: others) = writing others := by
  rw [writing, List.filter_cons_of_neg (Bool.eq_false_iff.1 h)]
  rfl

theorem reading_cons_of_writes (h : r.writes = true) : reading (r :: others) = reading others := by
  rw [reading, List.filter_cons_of_neg (by rw [h]; exact Bool.false_ne_true)]
  rfl

theorem reading_cons_of_not (h : r.writes = false) :
    reading (r :: others) = r.answered :: reading others := by
  rw [reading, List.filter_cons_of_pos (by rw [h]; rfl)]
  rfl

end

/-! ### Steps -/

theorem Atomically.authenticate (h : Atomically s t) (env : Environment) (request : Request) :
    Atomically (s.step (.authenticate env request)) (t.run [.authenticate env request]) := by
  obtain ⟨db, inFlight, log⟩ := t
  obtain rfl : db = s.db := h.db
  show Atomically _ (DseAuth.State.step ⟨s.db, inFlight, log⟩ (.authenticate env request))
  rcases hauth : request.authenticate tokenType env s.db with response | call
  · have hturnedAway := @DseAuth.State.step_authenticate_of_error tokenType
      ⟨s.db, inFlight, log⟩ env request response hauth
    rw [hturnedAway, State.step_authenticate_of_error hauth]
    exact h
  · have hletThrough := @DseAuth.State.step_authenticate_of_ok tokenType
      ⟨s.db, inFlight, log⟩ env request call hauth
    rw [hletThrough, State.step_authenticate_of_ok hauth]
    refine ⟨rfl, ?_, h.log⟩
    have hperm := h.inFlight.cons (⟨request, env, s.db, call, hauth⟩ : InFlight tokenType)
    refine (List.perm_append_singleton _ _).trans (hperm.trans ?_)
    rw [List.append_assoc]
    exact List.perm_middle.symm

/-- **The method of a request** comes to nothing if it leaves something to write, and otherwise to
handling the request. -/
theorem Atomically.method (h : Atomically s t) {f : InFlight tokenType}
    {before after : List (InFlight tokenType)} (hsplit : s.inFlight = before ++ f :: after)
    (hcall : ∀ body, f.call ≠ .createUser body) (env : Environment) :
    ∃ ys, Atomically (s.method f (before ++ after) env) (t.run ys) := by
  have hperm : t.inFlight.Perm (f :: (before ++ after ++ writing s.running)) := by
    refine h.inFlight.trans ?_
    rw [hsplit]
    exact List.perm_middle.append_right (writing s.running)
  obtain ⟨r, rfl, -, hwrites, hmethod⟩ | ⟨hdb, hmethod⟩ :=
    s.method_cases f (before ++ after) env hcall
  · refine ⟨[], ?_⟩
    rw [hmethod]
    refine ⟨h.db, ?_, ?_⟩
    · rw [writing_append, writing_cons_of_writes hwrites]
      exact hperm.trans (perm_append_snoc (List.Perm.refl _))
    · rw [reading_append, reading_cons_of_writes hwrites]
      exact (List.append_nil (reading s.running)).symm ▸ h.log
  · obtain ⟨i, rest, hrest, hhandle⟩ := exists_handle hperm env
    refine ⟨[.handle i env], ?_⟩
    rw [hhandle, h.db]
    obtain hmethod | ⟨r, -, -, hwrites, hanswered, hmethod⟩ := hmethod
    · rw [hmethod]
      exact ⟨hdb, hrest, h.log.cons _⟩
    · rw [hmethod]
      refine ⟨hdb, ?_, ?_⟩
      · rw [writing_append, writing_cons_of_not hwrites]
        exact (List.append_nil (writing s.running)).symm ▸ hrest
      · rw [reading_append, reading_cons_of_not hwrites, hanswered]
        exact perm_append_snoc h.log

/-- **The commit of a request** comes to handling it if it has something to write, and otherwise to
nothing. -/
theorem Atomically.commit (h : Atomically s t) {r : Running tokenType}
    {before after : List (Running tokenType)} (hsplit : s.running = before ++ r :: after)
    (hcall : ∀ body, r.call ≠ .createUser body) (hseen : r.seen ≤ r.found)
    (hfound : r.found ≤ s.db) : ∃ ys, Atomically (s.commit r (before ++ after)) (t.run ys) := by
  have hinFlight := h.inFlight
  have hlog := h.log
  rcases hwrites : r.writes with _ | _
  · refine ⟨[], ?_⟩
    rw [State.commit_of_not_writes hcall hwrites]
    rw [hsplit, writing_append, writing_cons_of_not hwrites, ← writing_append] at hinFlight
    rw [hsplit, reading_append, reading_cons_of_not hwrites] at hlog
    refine ⟨h.db, hinFlight, hlog.trans ?_⟩
    rw [reading_append]
    exact perm_append_middle
  · rw [hsplit, writing_append, writing_cons_of_writes hwrites] at hinFlight
    rw [hsplit, reading_append, reading_cons_of_writes hwrites, ← reading_append] at hlog
    obtain ⟨i, rest, hrest, hhandle⟩ := exists_handle (hinFlight.trans perm_append_middle) r.env
    refine ⟨[.handle i r.env], ?_⟩
    rw [hhandle, h.db, State.commit_of_writes hcall hwrites hseen hfound]
    exact ⟨rfl, by rw [writing_append]; exact hrest, hlog.cons _⟩

/-! ### Schedules -/

/-- A step brings in requests that have seen, or found, the present database. -/
theorem State.mem_step (s : State tokenType) {x : Step} (hx : x.NoSignUp) :
    (∀ f ∈ (s.step x).inFlight, f ∈ s.inFlight ∨
        (∀ body, f.call ≠ .createUser body) ∧ f.seen = s.db) ∧
      ∀ r ∈ (s.step x).running, r ∈ s.running ∨ r.toInFlight ∈ s.inFlight ∧ r.found = s.db := by
  rcases x with ⟨env, request⟩ | ⟨i, env⟩ | i
  · rcases hauth : request.authenticate tokenType env s.db with response | call
    · rw [State.step_authenticate_of_error hauth]
      exact ⟨fun _ hf ↦ Or.inl hf, fun _ hr ↦ Or.inl hr⟩
    · rw [State.step_authenticate_of_ok hauth]
      refine ⟨fun f hf ↦ (List.mem_append.1 hf).imp_right fun hf ↦ ?_, fun _ hr ↦ Or.inl hr⟩
      obtain rfl := List.mem_singleton.1 hf
      refine ⟨fun body hbody ↦ hx body ?_, rfl⟩
      obtain rfl : call = .createUser body := hbody
      exact eq_of_authenticate_eq_createUser hauth
  · rcases hi : s.inFlight[i]? with _ | f
    · rw [State.step, hi]
      exact ⟨fun _ hf ↦ Or.inl hf, fun _ hr ↦ Or.inl hr⟩
    · rw [State.step, hi]
      dsimp only
      have hf := List.mem_of_getElem? hi
      rcases hmethod : f.call.run tokenType env (Session.openSession s.db) with
        ⟨e | response, session⟩
      · rw [State.method_of_error hmethod]
        exact ⟨fun _ hf ↦ Or.inl (List.mem_of_mem_eraseIdx hf), fun _ hr ↦ Or.inl hr⟩
      · rw [State.method_of_ok hmethod]
        refine ⟨fun _ hf ↦ Or.inl (List.mem_of_mem_eraseIdx hf), fun r hr ↦
          (List.mem_append.1 hr).imp_right fun hr ↦ ?_⟩
        obtain rfl := List.mem_singleton.1 hr
        exact ⟨hf, rfl⟩
  · rcases hi : s.running[i]? with _ | r
    · rw [State.step, hi]
      exact ⟨fun _ hf ↦ Or.inl hf, fun _ hr ↦ Or.inl hr⟩
    · rw [State.step, hi]
      dsimp only
      rw [State.commit]
      split
      · exact ⟨fun _ hf ↦ Or.inl hf, fun _ hr ↦ Or.inl (List.mem_of_mem_eraseIdx hr)⟩
      · exact ⟨fun _ hf ↦ Or.inl hf, fun _ hr ↦ Or.inl (List.mem_of_mem_eraseIdx hr)⟩

theorem State.Sound.step (h : s.Sound) {x : Step} (hx : x.NoSignUp)
    (hle : s.db ≤ (s.step x).db) : (s.step x).Sound := by
  obtain ⟨hinFlight, hrunning⟩ := s.mem_step hx
  refine ⟨fun f hf ↦ ?_, fun r hr ↦ ?_⟩
  · obtain hold | ⟨hcall, hseen⟩ := hinFlight f hf
    · obtain ⟨hcall, hseen⟩ := h.inFlight f hold
      exact ⟨hcall, hseen.trans hle⟩
    · exact ⟨hcall, hseen ▸ hle⟩
  · obtain hold | ⟨hf, hfound⟩ := hrunning r hr
    · obtain ⟨hcall, hseen, hfound⟩ := h.running r hold
      exact ⟨hcall, hseen, hfound.trans hle⟩
    · obtain ⟨hcall, hseen⟩ := h.inFlight _ hf
      exact ⟨hcall, hfound ▸ hseen, hfound ▸ hle⟩

/-- **Every step is a step or none.** -/
theorem Atomically.step (h : Atomically s t) (hs : s.Sound) {x : Step} (hx : x.NoSignUp) :
    ∃ ys, Atomically (s.step x) (t.run ys) ∧ (s.step x).Sound := by
  obtain ⟨ys, hnext⟩ : ∃ ys, Atomically (s.step x) (t.run ys) := by
    rcases x with ⟨env, request⟩ | ⟨i, env⟩ | i
    · exact ⟨_, h.authenticate env request⟩
    · rcases hi : s.inFlight[i]? with _ | f
      · rw [State.step, hi]
        exact ⟨[], h⟩
      · obtain ⟨before, after, hsplit, herase⟩ := exists_around hi
        rw [State.step, hi, herase]
        exact h.method hsplit (hs.inFlight f (List.mem_of_getElem? hi)).1 env
    · rcases hi : s.running[i]? with _ | r
      · rw [State.step, hi]
        exact ⟨[], h⟩
      · obtain ⟨before, after, hsplit, herase⟩ := exists_around hi
        obtain ⟨hcall, hseen, hfound⟩ := hs.running r (List.mem_of_getElem? hi)
        rw [State.step, hi, herase]
        exact h.commit hsplit hcall hseen hfound
  have hle : s.db ≤ (s.step x).db := h.db ▸ hnext.db ▸ t.le_run ys
  exact ⟨ys, hnext, hs.step hx hle⟩

/-- **Transactions are atomic.** Take any interleaving of the three steps of any number of requests
other than sign-ups, whatever fails: the filter of a request, its method, and its commit. There is
an interleaving of two steps, the filter, and the method with its commit, that goes in step with it
and leads through the same databases. In it the same requests have been answered, and told the same,
but for those that are between method and commit: they have been answered if they have nothing to
write, and are in flight otherwise. -/
theorem transactions_atomic (db : Database) {steps : List Step}
    (hno : ∀ x ∈ steps, x.NoSignUp) :
    ∃ steps' : List (List DseAuth.Step), steps'.length = steps.length ∧
      ∀ k, Atomically (Machine.run State.step (State.start tokenType db) (steps.take k))
        ((DseAuth.State.start tokenType db).run (steps'.take k).flatten) := by
  have hstart : Atomically (State.start tokenType db) (DseAuth.State.start tokenType db) :=
    ⟨rfl, List.Perm.refl _, List.Perm.refl _⟩
  have hsound : (State.start tokenType db).Sound :=
    ⟨fun _ hf ↦ absurd hf List.not_mem_nil, fun _ hr ↦ absurd hr List.not_mem_nil⟩
  have hstep (s : State tokenType) (t : DseAuth.State tokenType) (x : Step)
      (h : Atomically s t ∧ s.Sound) (hx : x.NoSignUp) :
      ∃ ys, Atomically (s.step x) (Machine.run DseAuth.State.step t ys) ∧ (s.step x).Sound :=
    h.1.step h.2 hx
  obtain ⟨steps', hlength, hrun⟩ := Machine.run_simulation hstep ⟨hstart, hsound⟩
    (Machine.throughout_of_forall_mem hno _)
  exact ⟨steps', hlength, fun k ↦ (hrun k).1⟩

/-- Alice adds a list and asks for her lists at the same time. -/
def aliceAddsAndAsks : List Step :=
  [.authenticate .quiet (.bearer (.jws aliceClaims) (.addPrivileges (.value [some "todo"]))),
    .authenticate .quiet (.bearer (.jws aliceClaims) .getPriviliges), .method 0 .quiet,
    .method 0 .quiet, .commit 0, .commit 0]

theorem transactions_atomic_alice :
    ∃ steps' : List (List DseAuth.Step), steps'.length = aliceAddsAndAsks.length ∧
      ∀ k, Atomically (Machine.run State.step (State.start "jws" (serveAll "jws" .empty
          [aliceSignsUp.quietly])) (aliceAddsAndAsks.take k))
        ((DseAuth.State.start "jws" (serveAll "jws" .empty [aliceSignsUp.quietly])).run
          (steps'.take k).flatten) := by
  have hbearer (operation : Operation) (body : Body SignUpUser) :
      Request.bearer (.jws aliceClaims) operation ≠ .createUser body := fun h ↦ by cases h
  refine transactions_atomic _ ?_
  rw [aliceAddsAndAsks]
  simp only [List.forall_mem_cons]
  exact ⟨hbearer _, hbearer _, trivial, trivial, trivial, trivial,
    fun _ hx ↦ absurd hx List.not_mem_nil⟩

end DseAuth.Transactions
