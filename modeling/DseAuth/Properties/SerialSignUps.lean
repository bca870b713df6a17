import DseAuth.Properties.OneWinner

/-!
# Interleaved sign-ups and sign-ups one after the other

Everywhere but in `SignUps` a method runs with its commit in one step. For sign-ups that is as good
as the two steps that they are: **every interleaving is some sequence** (`signUps_serializable`).
The sequence is that of the answers, each request is in it once and with the failures that it met,
and one at a time the requests leave the same accounts, though with other ids.

What does not come out the same is the answer to a request that loses a race. Its method has found
the name free and its commit finds it taken, and it is told 500; one at a time it is told 409
(`Response.StandsFor`). And a request that loses uses up an id, so all of this is true only as long
as there are ids left.

The invariant (`State.Shadowed`) is that the database of the sequence holds the same accounts and
has drawn fewer ids, by one for each row that is still to be inserted.
-/

namespace DseAuth

/-- What is in a row, but for the id. -/
def UserRow.content (r : UserRow) : String × String × String × List String :=
  (r.username, r.email, r.password, r.privileges)

/-- The response is the other one, or it is a 500 where that is a 409. -/
def Response.StandsFor (response other : Response) : Prop :=
  response = other ∨ response.status = 500 ∧ other.status = 409

namespace SignUps

/-- A sign-up that is served in one step. -/
def signUp (body : Body SignUpUser) (env : Environment) : Exchange :=
  ⟨.createUser body, env, env⟩

/-- The request. -/
def Pending.exchange (p : Pending) : Exchange :=
  signUp p.body p.env

/-- The request that comes in with a step. -/
def Step.exchange : Step → Option Exchange
  | .lookup body env => some (signUp body env)
  | .commit _ => none

/-- The requests `xs`, served one at a time from `db` on, come to what has been done. -/
structure Serializes (tokenType : String) (db : Database) (xs : List Exchange) (s : State) :
    Prop where
  /-- They are the requests that have been answered, in the order of the answers. -/
  requests : xs.map Exchange.request = s.log.reverse.map fun a ↦ .createUser a.body
  /-- They have been given the answers that they get one at a time, or 500 instead of 409. -/
  answers : List.Forall₂ Response.StandsFor (s.log.reverse.map Answered.response)
    (Machine.answers (Exchange.next tokenType) (fun db x ↦ (x.serve tokenType db).response) db xs)
  /-- They leave the same accounts. -/
  rows : s.db.rows.map UserRow.content = (serveAll tokenType db xs).rows.map UserRow.content

/-- What is true of the database of the sequence. -/
structure State.Shadowed (s : State) (t : Database) : Prop where
  /-- It holds the same accounts. -/
  rows : s.db.rows.map UserRow.content = t.rows.map UserRow.content
  /-- It has drawn fewer ids, and will have when the scheduled rows are inserted. -/
  sequence : t.sequence + s.scheduled.length ≤ s.db.sequence
  /-- Its ids are ints as long as the others are. -/
  low : JavaInteger.InRange s.db.sequence → -2147483648 ≤ t.sequence
  /-- The ids are fresh. -/
  fresh : s.Fresh
  /-- No account goes away. -/
  seen : ∀ p ∈ s.pending, p.seen.rows ⊆ s.db.rows

variable {tokenType : String} {env : Environment} {body : Body SignUpUser} {db t t' : Database}
  {s s' : State} {p : Pending} {valid : ValidSignUpUser} {n : String} {xs : List Exchange}

/-! ### The same accounts -/

theorem names_eq (h : db.rows.map UserRow.content = t.rows.map UserRow.content) :
    db.rows.map UserRow.username = t.rows.map UserRow.username := by
  have hnames (rows : List UserRow) :
      rows.map UserRow.username = (rows.map UserRow.content).map Prod.fst := by
    rw [List.map_map]
    rfl
  rw [hnames, hnames, h]

theorem taken_of_taken (h : db.rows.map UserRow.content = t.rows.map UserRow.content)
    (htaken : ∃ r ∈ db.rows, r.username = n) : ∃ r ∈ t.rows, r.username = n := by
  have hmem : n ∈ db.rows.map UserRow.username := List.mem_map.2 htaken
  rw [names_eq h] at hmem
  exact List.mem_map.1 hmem

theorem free_of_free (h : db.rows.map UserRow.content = t.rows.map UserRow.content)
    (hfree : ∀ r ∈ db.rows, r.username ≠ n) : ∀ r ∈ t.rows, r.username ≠ n := by
  intro r hr hname
  obtain ⟨q, hq, hqname⟩ := taken_of_taken h.symm ⟨r, hr, hname⟩
  exact hfree q hq hqname

/-! ### A sign-up in one step -/

/-- The answer to a sign-up under a name that is taken. -/
def conflict : Response :=
  ⟨409, .text ("\x7b" ++ "Username already in use!" ++ "\x7d")⟩

theorem method_of_valid (hread : body.readValid = .ok (some valid)) :
    method env body = UserResource.createUser env (some valid) := by
  rw [method, hread]
  rfl

theorem serve_signUp :
    (signUp body env).serve tokenType t = unitOfWork env (method env body) t := rfl

theorem serve_of_taken (hread : body.readValid = .ok (some valid))
    (htaken : ∃ r ∈ t.rows, r.username = valid.username) (hlookup : env.lookupFails = false) :
    (signUp body env).serve tokenType t = ⟨readOnlyResponse env (.ok conflict), t, []⟩ := by
  rw [serve_signUp, method_of_valid hread]
  exact unitOfWork_of_readOnly (createUser_of_taken htaken hlookup)

theorem serve_of_failure (hread : body.readValid = .ok (some valid))
    (hcause : env.lookupFails = true ∨
      (∀ r ∈ t.rows, r.username ≠ valid.username) ∧ env.writeFails = true) :
    (signUp body env).serve tokenType t = ⟨⟨500, .framework⟩, t, []⟩ := by
  obtain ⟨e, he, hmethod⟩ := createUser_of_failure (hcause.imp_right fun h ↦ ⟨h.1, Or.inl h.2⟩)
  rw [serve_signUp, method_of_valid hread, unitOfWork_of_error hmethod, he]
  rfl

/-- Where the name is free an id is drawn, and it is up to the commit whether it is used. -/
theorem serve_of_free (hread : body.readValid = .ok (some valid))
    (hfree : ∀ r ∈ t.rows, r.username ≠ valid.username) (hrange : JavaInteger.InRange t.sequence)
    (hlookup : env.lookupFails = false) (hwrite : env.writeFails = false) :
    ∃ d : Database, d.sequence = t.sequence + 1 ∧
      ((env.commitFails = true ∨ ¬ (newRow t valid).Fits) ∧ d.rows = t.rows ∧
          (signUp body env).serve tokenType t = ⟨JavaException.persistence.toResponse, d, []⟩ ∨
        env.commitFails = false ∧ (newRow t valid).Fits ∧ d.rows = t.rows ++ [newRow t valid] ∧
          (signUp body env).serve tokenType t =
            ⟨⟨200, .none⟩, d, [.insert (newRow t valid)]⟩) := by
  obtain ⟨d, hrows, hseq, hmethod⟩ := createUser_of_free hfree hrange hlookup hwrite
  rw [serve_signUp, method_of_valid hread]
  have hcommit : (⟨d, [(newRow t valid).load], [.insert (newRow t valid)]⟩ : Session).commit env =
      if env.commitFails then none else d.insert (newRow t valid) := by
    rw [commit_singleton rfl]
    rfl
  rcases hc : env.commitFails with _ | _
  · rw [hc, if_neg Bool.false_ne_true] at hcommit
    by_cases hfits : (newRow t valid).Fits
    · obtain ⟨d', hd'⟩ := Database.exists_insert_of_next hrows hseq rfl hrange hfree hfits
      obtain ⟨-, hrows', hseq'⟩ := Database.insert_eq_some_iff.1 hd'
      refine ⟨d', hseq'.trans hseq, Or.inr ⟨rfl, hfits, by rw [hrows', hrows], ?_⟩⟩
      exact unitOfWork_of_commit hmethod (hcommit.trans hd')
    · have hnone : d.insert (newRow t valid) = none := by
        refine Option.eq_none_iff_forall_ne_some.2 fun d' hd' ↦ hfits ?_
        exact (Database.insert_eq_some_iff.1 hd').1.2.1
      refine ⟨d, hseq, Or.inl ⟨Or.inr hfits, hrows, ?_⟩⟩
      exact unitOfWork_of_rollback hmethod (hcommit.trans hnone)
  · rw [hc, if_pos rfl] at hcommit
    exact ⟨d, hseq, Or.inl ⟨Or.inl rfl, hrows, unitOfWork_of_rollback hmethod hcommit⟩⟩

/-! ### A sign-up in two steps -/

/-- A method that throws: whatever the database is, or because something fails. -/
theorem method_error {e : JavaException} {session : Session}
    (h : method env body (Session.openSession db) = (.error e, session)) :
    session = Session.openSession db ∧
      ((∀ t, method env body (Session.openSession t) = (.error e, Session.openSession t)) ∨
        ∃ valid, body.readValid = .ok (some valid) ∧ e.toResponse = ⟨500, .framework⟩ ∧
          (env.lookupFails = true ∨ (∀ r ∈ db.rows, r.username ≠ valid.username) ∧
            (env.writeFails = true ∨ ¬ JavaInteger.InRange db.sequence))) := by
  rcases hread : body.readValid with e' | _ | valid
  · have hmethod (t : Database) :
        method env body (Session.openSession t) = (.error e', Session.openSession t) := by
      rw [method, hread]
      rfl
    obtain ⟨he, rfl⟩ := Prod.mk.inj ((hmethod db).symm.trans h)
    obtain rfl := Except.error.inj he
    exact ⟨rfl, Or.inl hmethod⟩
  · have hmethod (t : Database) :
        method env body (Session.openSession t) = (.error .nullPointer, Session.openSession t) := by
      rw [method, hread]
      rfl
    obtain ⟨he, rfl⟩ := Prod.mk.inj ((hmethod db).symm.trans h)
    obtain rfl := Except.error.inj he
    exact ⟨rfl, Or.inl hmethod⟩
  · have hattempt := createUser_attempt env db valid
    rw [← method_of_valid hread, h] at hattempt
    cases hattempt with
    | failed he hcause => exact ⟨rfl, Or.inr ⟨valid, rfl, he, hcause⟩⟩

/-- A pending sign-up has been refused, or it has scheduled its row. -/
theorem Pending.exists_valid (p : Pending) :
    ∃ valid, p.body.readValid = .ok (some valid) ∧ p.env.lookupFails = false ∧
      (p.scheduled = none ∧ p.response = conflict ∧
          (∃ r ∈ p.seen.rows, r.username = valid.username) ∨
        p.scheduled = some (newRow p.seen valid) ∧ p.response = ⟨200, .none⟩ ∧
          p.env.writeFails = false) := by
  rcases p with ⟨body, env, seen, response, session, ran⟩
  rcases hread : body.readValid with e | _ | valid
  · rw [method, hread] at ran
    cases (Prod.mk.inj ran).1
  · rw [method, hread] at ran
    cases (Prod.mk.inj ran).1
  · have hattempt := createUser_attempt env seen valid
    rw [← method_of_valid hread, ran] at hattempt
    cases hattempt with
    | taken htaken hlookup => exact ⟨valid, rfl, hlookup, Or.inl ⟨rfl, rfl, htaken⟩⟩
    | scheduled _ _ hlookup hwrite =>
      exact ⟨valid, rfl, hlookup, Or.inr ⟨rfl, rfl, hwrite⟩⟩

/-! ### One step -/

/-- A commit settles at most one of the rows that were to be inserted. -/
theorem scheduled_length {before after : List Pending} (h : s.pending = before ++ p :: after) :
    s.scheduled.length =
      ((before ++ after).filterMap Pending.scheduled).length + p.scheduled.toList.length := by
  rcases hp : p.scheduled with _ | r
  · rw [State.scheduled_eq h hp]
    rfl
  · rw [(State.scheduled_perm h hp).length_eq]
    rfl

/-- A pending request has been answered, and no account has gone away. -/
theorem State.Shadowed.answered (h : s.Shadowed t) (hids : JavaInteger.InRange s.db.sequence)
    {before after : List Pending} (hpending : s.pending = before ++ p :: after) {d : Database}
    {a : Answered} (hfresh : (⟨d, before ++ after, a :: s.log⟩ : State).Fresh)
    (hsub : s.db.rows ⊆ d.rows)
    (hrows : d.rows.map UserRow.content = t'.rows.map UserRow.content)
    (hseq : d.sequence = s.db.sequence) (hle : t.sequence ≤ t'.sequence)
    (hdrawn : t'.sequence ≤ t.sequence + p.scheduled.toList.length) :
    (⟨d, before ++ after, a :: s.log⟩ : State).Shadowed t' where
  rows := hrows
  sequence := by
    have hsequence := h.sequence
    have hlength := scheduled_length hpending
    show t'.sequence + (((before ++ after).filterMap Pending.scheduled).length : ℕ) ≤ d.sequence
    omega
  low _ := (h.low hids).trans hle
  fresh := hfresh
  seen q hq _ hr := by
    have hsublist := (List.sublist_cons_self p after).append_left before
    exact hsub (h.seen q (hpending ▸ hsublist.subset hq) hr)

/-- A request whose method throws is answered the same in one step. -/
theorem serve_error (h : s.Shadowed t) (hids : JavaInteger.InRange s.db.sequence)
    {e : JavaException} {session : Session}
    (hmethod : method env body (Session.openSession s.db) = (.error e, session)) :
    (signUp body env).serve tokenType t = ⟨e.toResponse, t, []⟩ := by
  obtain ⟨-, hall | ⟨valid, hread, he, hcause⟩⟩ := method_error hmethod
  · rw [serve_signUp, unitOfWork_of_error (hall t)]
    rfl
  · rw [he]
    refine serve_of_failure hread (hcause.imp_right fun hcause ↦ ?_)
    obtain ⟨hfree, hwrite | hrange⟩ := hcause
    · exact ⟨free_of_free h.rows hfree, hwrite⟩
    · exact absurd hids hrange

/-- A pending request, served in one step instead: what becomes of it. -/
inductive ServedInstead (tokenType : String) (s : State) (t : Database) (p : Pending) : Prop
  /-- It was refused, and is refused again. -/
  | refused (hscheduled : p.scheduled = none) (hresponse : p.response = conflict)
      (hserve : p.exchange.serve tokenType t = ⟨readOnlyResponse p.env (.ok conflict), t, []⟩)
  /-- It has scheduled a row, but the name is taken by now. -/
  | lost {r : UserRow} (hscheduled : p.scheduled = some r)
      (htaken : ∃ q ∈ s.db.rows, q.username = r.username)
      (hserve : p.exchange.serve tokenType t = ⟨readOnlyResponse p.env (.ok conflict), t, []⟩)
  /-- It has scheduled a row, and that cannot be inserted. -/
  | failed {r : UserRow} {d : Database} (hscheduled : p.scheduled = some r)
      (hcause : p.env.commitFails = true ∨ ¬ r.Fits) (hrows : d.rows = t.rows)
      (hseq : d.sequence = t.sequence + 1)
      (hserve : p.exchange.serve tokenType t = ⟨JavaException.persistence.toResponse, d, []⟩)
  /-- It has scheduled a row, and that can be inserted. -/
  | stored {r r' : UserRow} {d : Database} {committed : List Action}
      (hscheduled : p.scheduled = some r) (hcommits : p.env.commitFails = false) (hfits : r.Fits)
      (hfree : ∀ q ∈ s.db.rows, q.username ≠ r.username) (hcontent : r'.content = r.content)
      (hresponse : p.response = ⟨200, .none⟩) (hrows : d.rows = t.rows ++ [r'])
      (hseq : d.sequence = t.sequence + 1)
      (hserve : p.exchange.serve tokenType t = ⟨p.response, d, committed⟩)

theorem servedInstead (tokenType : String) (h : s.Shadowed t)
    (hids : JavaInteger.InRange s.db.sequence) (hp : p ∈ s.pending) :
    ServedInstead tokenType s t p := by
  obtain ⟨valid, hread, hlookup, ⟨hscheduled, hresponse, htaken⟩ |
    ⟨hscheduled, hresponse, hwrite⟩⟩ := p.exists_valid
  · obtain ⟨r, hr, hname⟩ := htaken
    have htaken := taken_of_taken h.rows ⟨r, h.seen p hp hr, hname⟩
    exact .refused hscheduled hresponse (serve_of_taken hread htaken hlookup)
  · by_cases htaken : ∃ q ∈ s.db.rows, q.username = valid.username
    · exact .lost hscheduled htaken (serve_of_taken hread (taken_of_taken h.rows htaken) hlookup)
    · have hfree : ∀ q ∈ s.db.rows, q.username ≠ valid.username :=
        fun q hq hname ↦ htaken ⟨q, hq, hname⟩
      have hrange : JavaInteger.InRange t.sequence := by
        have hsequence := h.sequence
        exact ⟨h.low hids, by have := hids.2; omega⟩
      obtain ⟨d, hseq, ⟨hcause, hrows, hserve⟩ | ⟨hcommits, hfits, hrows, hserve⟩⟩ :=
        serve_of_free hread (free_of_free h.rows hfree) hrange hlookup hwrite
      · exact .failed hscheduled hcause hrows hseq hserve
      · have hcontent : (newRow t valid).content = (newRow p.seen valid).content := rfl
        exact .stored hscheduled hcommits hfits hfree hcontent hresponse hrows hseq
          (hresponse ▸ hserve)

/-- **A commit is the whole request in one step.** -/
theorem commit_answered (tokenType : String) (h : s.Shadowed t)
    (hids : JavaInteger.InRange s.db.sequence) (i : ℕ) :
    s.commit i = s ∨ ∃ before p after a, s.pending = before ++ p :: after ∧
      (s.commit i).pending = before ++ after ∧ (s.commit i).log = a :: s.log ∧ a.body = p.body ∧
        a.response.StandsFor (p.exchange.serve tokenType t).response ∧
          (s.commit i).Shadowed (p.exchange.serve tokenType t).db := by
  have hfresh : (s.commit i).Fresh := State.fresh_step h.fresh (.commit i)
  have heffect := State.commit_effect s i
  have hsame : s.db.rows ⊆ s.db.rows := fun _ hr ↦ hr
  generalize s.commit i = s' at hfresh heffect ⊢
  cases heffect with
  | absent => exact Or.inl rfl
  | done before after p hpending hcommits hscheduled =>
    have hp : p ∈ s.pending := hpending ▸ List.mem_append_right _ List.mem_cons_self
    refine Or.inr ⟨before, p, after, _, hpending, rfl, rfl, rfl, ?_⟩
    cases servedInstead tokenType h hids hp with
    | refused _ hresponse hserve =>
      rw [hserve]
      refine ⟨Or.inl ?_, h.answered hids hpending hfresh hsame h.rows rfl le_rfl
        (le_add_of_nonneg_right (Int.natCast_nonneg _))⟩
      show p.response = readOnlyResponse p.env (.ok conflict)
      rw [hresponse, readOnlyResponse, hcommits]
      rfl
    | lost hscheduled' => cases hscheduled.symm.trans hscheduled'
    | failed hscheduled' => cases hscheduled.symm.trans hscheduled'
    | stored hscheduled' => cases hscheduled.symm.trans hscheduled'
  | inserted before after p hpending hcommits r hscheduled d hinsert =>
    have hp : p ∈ s.pending := hpending ▸ List.mem_append_right _ List.mem_cons_self
    obtain ⟨⟨hnew, hfits, -⟩, hrows, hseq⟩ := Database.insert_eq_some_iff.1 hinsert
    refine Or.inr ⟨before, p, after, _, hpending, rfl, rfl, rfl, ?_⟩
    cases servedInstead tokenType h hids hp with
    | refused hscheduled' => cases hscheduled.symm.trans hscheduled'
    | lost hscheduled' htaken =>
      obtain rfl := Option.some.inj (hscheduled.symm.trans hscheduled')
      obtain ⟨q, hq, hname⟩ := htaken
      exact absurd hname (hnew q hq).2
    | failed hscheduled' hcause =>
      obtain rfl := Option.some.inj (hscheduled.symm.trans hscheduled')
      obtain hfails | hunfit := hcause
      · cases hcommits.symm.trans hfails
      · exact absurd hfits hunfit
    | @stored r' q t' _ hscheduled' _ _ _ hcontent _ hrows' hseq' hserve =>
      obtain rfl := Option.some.inj (hscheduled.symm.trans hscheduled')
      rw [hserve]
      have hsub : s.db.rows ⊆ d.rows := by
        rw [hrows]
        exact List.subset_append_left _ _
      have hsame : d.rows.map UserRow.content = t'.rows.map UserRow.content := by
        rw [hrows, hrows', List.map_append, List.map_append, h.rows]
        exact congrArg (_ ++ [·]) hcontent.symm
      have hle : t.sequence ≤ t'.sequence := by omega
      exact ⟨Or.inl rfl, h.answered hids hpending hfresh hsub hsame hseq hle
        (by rw [hscheduled]; exact hseq'.le)⟩
  | rejected before after p hpending hcause =>
    have hp : p ∈ s.pending := hpending ▸ List.mem_append_right _ List.mem_cons_self
    refine Or.inr ⟨before, p, after, _, hpending, rfl, rfl, rfl, ?_⟩
    cases servedInstead tokenType h hids hp with
    | refused hscheduled _ hserve =>
      rw [hserve]
      refine ⟨Or.inl ?_, h.answered hids hpending hfresh hsame h.rows rfl le_rfl
        (le_add_of_nonneg_right (Int.natCast_nonneg _))⟩
      obtain hfails | ⟨r, hscheduled', -⟩ := hcause
      · show JavaException.persistence.toResponse = readOnlyResponse p.env (.ok conflict)
        rw [readOnlyResponse, hfails]
        rfl
      · cases hscheduled.symm.trans hscheduled'
    | lost _ _ hserve =>
      rw [hserve]
      refine ⟨?_, h.answered hids hpending hfresh hsame h.rows rfl le_rfl
        (le_add_of_nonneg_right (Int.natCast_nonneg _))⟩
      show JavaException.persistence.toResponse.StandsFor (readOnlyResponse p.env (.ok conflict))
      rw [readOnlyResponse]
      split
      · exact Or.inl rfl
      -- the one place where the two differ: told 500 by the commit, 409 by the method
      · exact Or.inr ⟨rfl, rfl⟩
    | @failed _ t' hscheduled _ hrows hseq hserve =>
      rw [hserve]
      have hsame' : s.db.rows.map UserRow.content = t'.rows.map UserRow.content := by
        rw [hrows, h.rows]
      have hle : t.sequence ≤ t'.sequence := by omega
      exact ⟨Or.inl rfl, h.answered hids hpending hfresh hsame hsame' rfl hle
        (by rw [hscheduled]; exact hseq.le)⟩
    | @stored r _ _ _ hscheduled hcommits hfits hfree =>
      obtain ⟨d, hd⟩ := exists_insert_of_fresh h.fresh hp hscheduled hfits hfree
      obtain hfails | ⟨r', hscheduled', hnone⟩ := hcause
      · cases hcommits.symm.trans hfails
      · obtain rfl := Option.some.inj (hscheduled.symm.trans hscheduled')
        cases hd.symm.trans hnone

/-- **A lookup is nothing**, unless the method throws. Then it is the whole request. -/
theorem lookup_answered (tokenType : String) (h : s.Shadowed t)
    (hids : JavaInteger.InRange s.db.sequence) (body : Body SignUpUser) (env : Environment) :
    (∃ p, p.exchange = signUp body env ∧ (s.lookup body env).pending = s.pending ++ [p] ∧
        (s.lookup body env).log = s.log ∧ (s.lookup body env).Shadowed t) ∨
      ∃ a, (s.lookup body env).pending = s.pending ∧ (s.lookup body env).log = a :: s.log ∧
        a.body = body ∧ a.response.StandsFor ((signUp body env).serve tokenType t).response ∧
          (s.lookup body env).Shadowed ((signUp body env).serve tokenType t).db := by
  have hfresh : (s.lookup body env).Fresh := State.fresh_step h.fresh (.lookup body env)
  obtain ⟨hrows, hdrawn⟩ := State.rows_lookup s body env
  have hsequence := h.sequence
  rcases hmethod : method env body (Session.openSession s.db) with ⟨e | response, session⟩
  · obtain ⟨rfl, -⟩ := method_error hmethod
    rw [State.lookup_of_error hmethod] at hfresh ⊢
    refine Or.inr ⟨_, rfl, rfl, rfl, ?_⟩
    rw [serve_error h hids hmethod]
    exact ⟨Or.inl rfl, h.rows, h.sequence, h.low, hfresh, h.seen⟩
  · have hlow : JavaInteger.InRange (s.lookup body env).db.sequence → -2147483648 ≤ t.sequence :=
      fun _ ↦ h.low hids
    have hsequence' : t.sequence + (s.lookup body env).scheduled.length ≤
        (s.lookup body env).db.sequence := by
      obtain ⟨hscheduled, hseq⟩ | ⟨r, hscheduled, -, -, hseq⟩ := hdrawn
      · rw [hscheduled, hseq]
        exact hsequence
      · rw [hscheduled, List.length_append, List.length_singleton]
        omega
    rw [State.lookup_of_ok hmethod] at hfresh hrows hlow hsequence' ⊢
    refine Or.inl ⟨⟨body, env, s.db, response, session, hmethod⟩, rfl, rfl, rfl, ?_, hsequence',
      hlow, hfresh, fun p hp r hr ↦ ?_⟩
    · exact (congrArg (List.map UserRow.content) hrows).trans h.rows
    · have hsub : r ∈ s.db.rows := by
        rcases List.mem_append.1 hp with hp | hp
        · exact h.seen p hp hr
        · obtain rfl := List.mem_singleton.1 hp
          exact hr
      exact hrows.symm ▸ hsub

/-! ### Every step -/

/-- One more request has been answered. -/
theorem Serializes.append (h : Serializes tokenType db xs s) {a : Answered} {x : Exchange}
    (hlog : s'.log = a :: s.log) (hrequest : x.request = .createUser a.body)
    (hanswer : a.response.StandsFor (x.serve tokenType (serveAll tokenType db xs)).response)
    (hrows : s'.db.rows.map UserRow.content =
      (x.serve tokenType (serveAll tokenType db xs)).db.rows.map UserRow.content) :
    Serializes tokenType db (xs ++ [x]) s' where
  requests := by
    rw [hlog, List.reverse_cons, List.map_append, List.map_append, h.requests]
    exact congrArg (_ ++ [·]) hrequest
  answers := by
    rw [hlog, List.reverse_cons, List.map_append, Machine.answers_append]
    exact List.rel_append h.answers (List.Forall₂.cons hanswer List.Forall₂.nil)
  rows := by
    rw [serveAll, Machine.run_append]
    exact hrows

theorem Serializes.step (h : Serializes tokenType db xs s)
    (hshadow : s.Shadowed (serveAll tokenType db xs)) (hids : JavaInteger.InRange s.db.sequence)
    (x : Step) :
    ∃ ys, Serializes tokenType db (xs ++ ys) (s.step x) ∧
      (s.step x).Shadowed (serveAll tokenType db (xs ++ ys)) ∧
        (ys ++ (s.step x).pending.map Pending.exchange).Perm
          (x.exchange.toList ++ s.pending.map Pending.exchange) := by
  have hnext (y : Exchange) : serveAll tokenType db (xs ++ [y]) =
      (y.serve tokenType (serveAll tokenType db xs)).db := by
    rw [serveAll, Machine.run_append]
    rfl
  rcases x with ⟨body, env⟩ | i
  · obtain ⟨p, hp, hpending, hlog, hshadow'⟩ | ⟨a, hpending, hlog, hbody, hanswer, hshadow'⟩ :=
      lookup_answered tokenType hshadow hids body env
    · refine ⟨[], ?_, ?_, ?_⟩
      · rw [List.append_nil]
        exact ⟨by rw [h.requests, State.step, hlog], by rw [State.step, hlog]; exact h.answers,
          hshadow'.rows⟩
      · rw [List.append_nil]
        exact hshadow'
      · rw [State.step, hpending, List.map_append, List.map_singleton, hp]
        show (s.pending.map Pending.exchange ++ [signUp body env]).Perm
          ([signUp body env] ++ s.pending.map Pending.exchange)
        exact List.perm_append_comm
    · refine ⟨[signUp body env], h.append hlog (by rw [hbody]; rfl) hanswer hshadow'.rows, ?_, ?_⟩
      · rw [hnext]
        exact hshadow'
      · rw [State.step, hpending]
        exact List.Perm.refl _
  · obtain hsame | ⟨before, p, after, a, hpending, hpending', hlog, hbody, hanswer, hshadow'⟩ :=
      commit_answered tokenType hshadow hids i
    · refine ⟨[], ?_, ?_, ?_⟩
      · rw [List.append_nil, State.step, hsame]
        exact h
      · rw [List.append_nil, State.step, hsame]
        exact hshadow
      · rw [State.step, hsame]
        exact List.Perm.refl _
    · refine ⟨[p.exchange], h.append hlog (by rw [hbody]; rfl) hanswer hshadow'.rows, ?_, ?_⟩
      · rw [hnext]
        exact hshadow'
      · rw [State.step, hpending', hpending, List.map_append, List.map_append]
        show (p.exchange :: (before.map Pending.exchange ++ after.map Pending.exchange)).Perm
          (before.map Pending.exchange ++ p.exchange :: after.map Pending.exchange)
        exact List.perm_middle.symm

theorem Serializes.run (h : Serializes tokenType db xs s)
    (hshadow : s.Shadowed (serveAll tokenType db xs)) {steps : List Step}
    (hids : Machine.Throughout State.step (fun s _ ↦ JavaInteger.InRange s.db.sequence) s steps) :
    ∃ ys, Serializes tokenType db (xs ++ ys) (Machine.run State.step s steps) ∧
      (ys ++ (Machine.run State.step s steps).pending.map Pending.exchange).Perm
        (steps.filterMap Step.exchange ++ s.pending.map Pending.exchange) := by
  induction steps generalizing s xs with
  | nil => exact ⟨[], by rwa [List.append_nil], List.Perm.refl _⟩
  | cons x steps ih =>
    obtain ⟨ys, hstep, hshadow', hperm⟩ := h.step hshadow hids.1 x
    obtain ⟨zs, hrun, hperm'⟩ := ih hstep hshadow' hids.2
    refine ⟨ys ++ zs, by rwa [← List.append_assoc], ?_⟩
    have hexchange : (x :: steps).filterMap Step.exchange =
        x.exchange.toList ++ steps.filterMap Step.exchange := by
      rcases x with ⟨body, env⟩ | i
      · rfl
      · rfl
    rw [hexchange, List.append_assoc, List.append_assoc]
    exact ((hperm'.append_left ys).trans (List.perm_append_comm_assoc _ _ _)).trans
      ((hperm.append_left _).trans (List.perm_append_comm_assoc _ _ _))

/-- **Interleaved sign-ups are serializable.** Take any interleaving of the lookups and the commits
of any number of sign-ups, whatever fails, that never finds the ids used up. The requests that have
been answered by its end, served one at a time in the order of the answers and with the failures
they have met, are answered the same, but for a 409 where they have been told 500, and leave the
same accounts. These and the ones still pending are the requests that were made, each once. -/
theorem signUps_serializable (tokenType : String) {db : Database} {steps : List Step}
    (hids : Machine.Throughout State.step (fun s _ ↦ JavaInteger.InRange s.db.sequence)
      (State.start db) steps) :
    ∃ xs : List Exchange,
      (xs ++ (Machine.run State.step (State.start db) steps).pending.map Pending.exchange).Perm
        (steps.filterMap Step.exchange) ∧
      Serializes tokenType db xs (Machine.run State.step (State.start db) steps) := by
  have hstart : Serializes tokenType db [] (State.start db) := ⟨rfl, List.Forall₂.nil, rfl⟩
  have hshadow : (State.start db).Shadowed db :=
    ⟨rfl, (add_zero db.sequence).le, fun h ↦ h.1, State.fresh_start db,
      fun _ hp ↦ absurd hp List.not_mem_nil⟩
  obtain ⟨xs, hrun, hperm⟩ := hstart.run hshadow hids
  have hnone : steps.filterMap Step.exchange ++ (State.start db).pending.map Pending.exchange =
      steps.filterMap Step.exchange := List.append_nil _
  exact ⟨xs, hnone ▸ hperm, hrun⟩

/-- Of the two who have looked the name up at once, the one who commits last comes last. -/
theorem signUps_serializable_aliceAtOnce :
    ∃ xs : List Exchange,
      (xs ++ (Machine.run State.step (State.start .empty) aliceAtOnce).pending.map
        Pending.exchange).Perm (aliceAtOnce.filterMap Step.exchange) ∧
      Serializes "jws" .empty xs (Machine.run State.step (State.start .empty) aliceAtOnce) := by
  refine signUps_serializable "jws" ⟨?_, ?_, ?_, ?_, trivial⟩
  all_goals decide +kernel

end SignUps

end DseAuth
