import DseAuth.Service.Schedule
import DseAuth.Service.SignUps

/-!
# One winner for a name

Any number of sign-ups for one name, in any interleaving with each other and with sign-ups for other
names. The name is checked by `findByName` and its uniqueness is enforced by the table, and the two
are answered differently: a request that is refused by the check is told 409, one that loses at the
commit 500.

`OneWinner` is what should be the case when all have finished. Whether it is depends on one thing
(`oneWinner_iff`): no request for the name may look it up while the name is free and another request
for it is pending (`State.Crowds`).

For one name it is enough to look at the `View` of the name: its account, and the requests for it
that are pending or have been answered. While nobody crowds in, a view is in one of three phases
(`Phase`): nothing has happened, one request is underway, or it has won and the rest is refused.
Once somebody has crowded in, somebody will be told 500 (`Doomed`).
-/

namespace DseAuth

/-- The request is for this username. -/
def Body.For (n : String) : Body SignUpUser → Prop
  | .value user => user.username = some n
  | .null => False
  | .unreadable => False

instance (n : String) : DecidablePred (Body.For n)
  | .value user => inferInstanceAs (Decidable (user.username = some n))
  | .null => inferInstanceAs (Decidable False)
  | .unreadable => inferInstanceAs (Decidable False)

namespace SignUps

variable {n : String} {env : Environment} {body : Body SignUpUser} {s : State} {p : Pending}

/-- A valid request for an account that can be stored. -/
def Storable (db : Database) (env : Environment) (body : Body SignUpUser) : Prop :=
  ∃ valid, body.readValid = .ok (some valid) ∧ (newRow db valid).Fits ∧
    JavaInteger.InRange db.sequence ∧ env.Stores

/-- A step is for another name, or brings a request that is valid and storable. -/
def State.Admits (n : String) (s : State) : Step → Prop
  | .lookup body env => body.For n → Storable s.db env body
  | .commit _ => True

/-- A request for the name looks it up while it is free and another request for it is pending. -/
def State.Crowds (n : String) (s : State) : Step → Prop
  | .lookup body _ =>
    body.For n ∧ (∀ r ∈ s.db.rows, r.username ≠ n) ∧ ∃ p ∈ s.pending, p.body.For n
  | .commit _ => False

/-- What should have come of the requests for a name. -/
structure Decided (n : String) (s : State) (r : UserRow) (before : List Answered)
    (winner : Answered) (after : List Answered) : Prop where
  /-- There is one account of the name. -/
  account : ∀ q, q ∈ s.db.rows ∧ q.username = n ↔ q = r
  /-- It was asked for by one of the requests for the name, -/
  log : (s.log.filter fun a ↦ a.body.For n) = before ++ winner :: after
  /-- with the email and the password it has, -/
  body : winner.body = .value ⟨some n, some r.email, some r.password⟩
  /-- and this one was answered 200. -/
  status : winner.response.status = 200
  /-- The others were answered 409, and neither of their steps has changed anything. -/
  losers : ∀ a ∈ before ++ after,
    a.response.status = 409 ∧ a.left = a.seen ∧ a.after = a.before

/-- There is one account of the name and one winner, and the losers were told so. -/
def OneWinner (n : String) (s : State) : Prop :=
  ∃ r before winner after, Decided n s r before winner after

/-! ### The view of a name -/

/-- What there is about a name. -/
structure View where
  /-- The account. -/
  account : Option UserRow
  /-- The pending requests for it. -/
  pending : List Pending
  /-- The requests for it that have been answered. -/
  log : List Answered

/-- The view of a name. -/
def State.view (n : String) (s : State) : View where
  account := s.db.byUsername n
  pending := s.pending.filter fun p ↦ p.body.For n
  log := s.log.filter fun a ↦ a.body.For n

/-- A row scheduled for a request has its name. -/
theorem for_iff_of_scheduled {r : UserRow} (h : p.scheduled = some r) :
    p.body.For n ↔ r.username = n := by
  obtain ⟨-, -, hbody, -⟩ := Pending.of_scheduled_eq_some h
  rw [hbody]
  exact Option.some_inj

/-- A valid request for a name has it. -/
theorem username_of_for {valid : ValidSignUpUser} (hread : body.readValid = .ok (some valid))
    (hbody : body.For n) : valid.username = n := by
  obtain ⟨user, rfl, hvalid⟩ := readValid_eq_ok_some_iff.1 hread
  have hname : user.username = some n := hbody
  exact Option.some.inj ((SignUpUser.username_of_validate hvalid).symm.trans hname)

theorem byUsername_congr {db db' : Database} (h : db'.rows = db.rows) :
    db'.byUsername n = db.byUsername n := by
  rw [Database.byUsername, Database.byUsername, h]

theorem view_lookup_of_other (hbody : ¬ body.For n) :
    (s.lookup body env).view n = s.view n := by
  have heffect := State.lookup_effect s body env
  generalize s.lookup body env = s' at heffect
  cases heffect with
  | answered e hcause =>
    rw [State.view, State.view, List.filter_cons_of_neg (by simpa using hbody)]
  | refused p hp =>
    rw [State.view, State.view, List.filter_append,
      List.filter_cons_of_neg (by simpa [hp] using hbody), List.filter_nil, List.append_nil]
  | scheduled p hp henv valid hscheduled hread hfree hrange d hrows =>
    rw [State.view, State.view, List.filter_append,
      List.filter_cons_of_neg (by simpa [hp] using hbody), List.filter_nil, List.append_nil,
      byUsername_congr hrows]

/-- A request for a name that is taken is refused. -/
theorem view_lookup_of_taken (hbody : body.For n) (hstorable : Storable s.db env body)
    {r : UserRow} (hr : s.db.byUsername n = some r) :
    ∃ p : Pending, p.scheduled = none ∧ p.env.commitFails = false ∧
      (s.lookup body env).view n = ⟨some r, (s.view n).pending ++ [p], (s.view n).log⟩ := by
  obtain ⟨valid, hread, hfits, hrange, hstores⟩ := hstorable
  obtain ⟨hmem, hname⟩ := Database.byUsername_eq_some_iff.1 hr
  have hvalid : r.username = valid.username := hname.trans (username_of_for hread hbody).symm
  have heffect := State.lookup_effect s body env
  generalize s.lookup body env = s' at heffect
  cases heffect with
  | answered e hcause =>
    obtain hfails | ⟨hfree, -⟩ := hcause valid hread
    · exact absurd hfails (Bool.eq_false_iff.1 hstores.lookup)
    · exact absurd hvalid (hfree r hmem)
  | refused p hp henv hscheduled =>
    refine ⟨p, hscheduled, henv ▸ hstores.commit, ?_⟩
    rw [State.view, State.view, List.filter_append,
      List.filter_cons_of_pos (by simpa [hp] using hbody), List.filter_nil, hr]
  | scheduled p hp henv valid' hscheduled hread' hfree =>
    obtain rfl := Option.some.inj (Except.ok.inj (hread.symm.trans hread'))
    exact absurd hvalid (hfree r hmem)

/-- A request for a name that is free is going to insert its row. -/
theorem view_lookup_of_free (hbody : body.For n) (hstorable : Storable s.db env body)
    (hfree : s.db.byUsername n = none) :
    ∃ (p : Pending) (r : UserRow), p.scheduled = some r ∧ r.username = n ∧ r.Fits ∧
      p.env.commitFails = false ∧ (s.lookup body env).rows = s.rows ++ [r] ∧
        (s.lookup body env).view n = ⟨none, (s.view n).pending ++ [p], (s.view n).log⟩ := by
  obtain ⟨valid, hread, hfits, hrange, hstores⟩ := hstorable
  have hname : valid.username = n := username_of_for hread hbody
  have heffect := State.lookup_effect s body env
  generalize s.lookup body env = s' at heffect
  cases heffect with
  | answered e hcause =>
    obtain hfails | ⟨-, hfails | hfails⟩ := hcause valid hread
    · exact absurd hfails (Bool.eq_false_iff.1 hstores.lookup)
    · exact absurd hfails (Bool.eq_false_iff.1 hstores.write)
    · exact absurd hrange hfails
  | refused p hp henv hscheduled valid' hread' htaken =>
    obtain rfl := Option.some.inj (Except.ok.inj (hread.symm.trans hread'))
    obtain ⟨r, hr, hrname⟩ := htaken
    exact absurd (hrname.trans hname) (Database.byUsername_eq_none_iff.1 hfree r hr)
  | scheduled p hp henv valid' hscheduled hread' hfree' hrange' d hrows hseq =>
    obtain rfl := Option.some.inj (Except.ok.inj (hread.symm.trans hread'))
    refine ⟨p, newRow s.db valid, hscheduled, hname, hfits, henv ▸ hstores.commit, ?_, ?_⟩
    · show d.rows ++ (s.pending ++ [p]).filterMap Pending.scheduled = _
      rw [hrows, List.filterMap_append, List.filterMap_cons_some hscheduled, List.filterMap_nil,
        State.rows, State.scheduled, List.append_assoc]
    · rw [State.view, State.view, List.filter_append,
        List.filter_cons_of_pos (by simpa [hp] using hbody), List.filter_nil,
        byUsername_congr hrows, hfree]

/-- **What a commit can do to the view of a name**: nothing, or take one of the requests from the
pending ones and answer it. -/
inductive CommitView (n : String) (s : State) : View → Prop
  | other : CommitView n s (s.view n)
  | refused (before after : List Pending) (p : Pending)
      (hpending : (s.view n).pending = before ++ p :: after) (hscheduled : p.scheduled = none)
      (a : Answered) (hstatus : a.response.status = 409)
      (hunchanged : a.left = a.seen ∧ a.after = a.before) :
      CommitView n s ⟨(s.view n).account, before ++ after, a :: (s.view n).log⟩
  | inserted (before after : List Pending) (p : Pending)
      (hpending : (s.view n).pending = before ++ p :: after) (r : UserRow)
      (hscheduled : p.scheduled = some r) (a : Answered) (hbody : a.body = p.body)
      (hstatus : a.response.status = 200) :
      CommitView n s ⟨some r, before ++ after, a :: (s.view n).log⟩
  | rejected (before after : List Pending) (p : Pending)
      (hpending : (s.view n).pending = before ++ p :: after)
      (hcause : p.env.commitFails = true ∨ ∃ r, p.scheduled = some r ∧ s.db.insert r = none)
      (a : Answered) :
      CommitView n s ⟨(s.view n).account, before ++ after, a :: (s.view n).log⟩

/-- The pending requests for a name around one of them. -/
theorem pending_around {before after : List Pending} (hpending : s.pending = before ++ p :: after)
    (hp : p.body.For n) :
    (s.view n).pending = (before.filter fun q ↦ q.body.For n) ++
      p :: after.filter fun q ↦ q.body.For n := by
  show s.pending.filter _ = _
  rw [hpending, List.filter_append, List.filter_cons_of_pos (by simpa using hp)]

/-- The view after a request for the name has been answered. -/
theorem view_answered {db : Database} {before after : List Pending} {a : Answered}
    (ha : a.body.For n) :
    (⟨db, before ++ after, a :: s.log⟩ : State).view n =
      ⟨db.byUsername n, (before.filter fun q ↦ q.body.For n) ++
        after.filter fun q ↦ q.body.For n, a :: (s.view n).log⟩ := by
  rw [State.view, List.filter_append, List.filter_cons_of_pos (by simpa using ha)]
  rfl

/-- And after one for another name has. -/
theorem view_answered_other {db : Database} {before after : List Pending} {a : Answered}
    (hpending : s.pending = before ++ p :: after) (hp : ¬ p.body.For n) (ha : a.body = p.body)
    (hdb : db.byUsername n = s.db.byUsername n) :
    (⟨db, before ++ after, a :: s.log⟩ : State).view n = s.view n := by
  rw [State.view, State.view, hpending, List.filter_append, List.filter_append,
    List.filter_cons_of_neg (by rw [ha]; simpa using hp),
    List.filter_cons_of_neg (by simpa using hp), hdb]

theorem byUsername_insert_of_ne {db d : Database} {r : UserRow} (h : db.insert r = some d)
    (hr : r.username ≠ n) : d.byUsername n = db.byUsername n := by
  obtain ⟨-, hrows, -⟩ := Database.insert_eq_some_iff.1 h
  rw [Database.byUsername, Database.byUsername, hrows, List.find?_append,
    List.find?_singleton, if_neg (by simpa using hr), Option.or_none]

theorem byUsername_insert_self {db d : Database} {r : UserRow} (h : db.insert r = some d)
    (hr : r.username = n) : d.byUsername n = some r := by
  obtain ⟨-, hrows, -⟩ := Database.insert_eq_some_iff.1 h
  refine Database.byUsername_eq_some_iff.2 ⟨?_, hr⟩
  rw [hrows]
  exact List.mem_append_right _ (List.mem_singleton_self r)

theorem commit_view (n : String) (s : State) (i : ℕ) : CommitView n s ((s.commit i).view n) := by
  have heffect := State.commit_effect s i
  generalize s.commit i = s' at heffect
  cases heffect with
  | absent => exact .other
  | done before after p hpending hcommits hscheduled =>
    by_cases hp : p.body.For n
    · obtain ⟨hstatus, hsession⟩ := Pending.of_scheduled_eq_none hscheduled
      rw [view_answered hp]
      exact .refused _ _ p (pending_around hpending hp) hscheduled _ hstatus
        ⟨congrArg Session.db hsession, rfl⟩
    · rw [view_answered_other hpending hp rfl rfl]
      exact .other
  | inserted before after p hpending hcommits r hscheduled d hinsert =>
    have hiff : p.body.For n ↔ r.username = n := for_iff_of_scheduled hscheduled
    by_cases hp : p.body.For n
    · obtain ⟨hresponse, -⟩ := Pending.of_scheduled_eq_some hscheduled
      rw [view_answered hp, byUsername_insert_self hinsert (hiff.1 hp)]
      exact .inserted _ _ p (pending_around hpending hp) r hscheduled _ rfl
        (congrArg Response.status hresponse)
    · have hdb : d.byUsername n = s.db.byUsername n :=
        byUsername_insert_of_ne hinsert (mt hiff.2 hp)
      rw [view_answered_other hpending hp rfl hdb]
      exact .other
  | rejected before after p hpending hcause =>
    by_cases hp : p.body.For n
    · rw [view_answered hp]
      exact .rejected _ _ p (pending_around hpending hp) hcause _
    · rw [view_answered_other hpending hp rfl rfl]
      exact .other

/-! ### While nobody crowds in -/

/-- The phases of a name. -/
inductive Phase (n : String) : View → Prop
  /-- Nobody has asked for the name. -/
  | idle : Phase n ⟨none, [], []⟩
  /-- One request is about to insert its row. -/
  | underway (p : Pending) (r : UserRow) (hscheduled : p.scheduled = some r)
      (hname : r.username = n) (hfits : r.Fits) (hcommits : p.env.commitFails = false) :
      Phase n ⟨none, [p], []⟩
  /-- It was answered 200, and the others are or will be refused. -/
  | won (r : UserRow) (before after : List Answered) (winner : Answered)
      (hbody : winner.body = .value ⟨some n, some r.email, some r.password⟩)
      (hstatus : winner.response.status = 200)
      (hlosers : ∀ a ∈ before ++ after,
        a.response.status = 409 ∧ a.left = a.seen ∧ a.after = a.before)
      (pending : List Pending)
      (hpending : ∀ p ∈ pending, p.scheduled = none ∧ p.env.commitFails = false) :
      Phase n ⟨some r, pending, before ++ winner :: after⟩

/-- The lone request of a list. -/
theorem eq_of_singleton {before after : List Pending} {q : Pending}
    (h : [p] = before ++ q :: after) : before = [] ∧ q = p ∧ after = [] := by
  rcases before with _ | ⟨first, before⟩
  · obtain ⟨rfl, rfl⟩ := List.cons.inj h
    exact ⟨rfl, rfl, rfl⟩
  · have hnil := (List.cons.inj h).2
    exact absurd hnil.symm (List.append_ne_nil_of_right_ne_nil _ (List.cons_ne_nil q after))

theorem phase_lookup (h : Phase n (s.view n)) (hadmits : s.Admits n (.lookup body env))
    (hcrowds : ¬ s.Crowds n (.lookup body env)) : Phase n ((s.lookup body env).view n) := by
  by_cases hbody : body.For n
  · have hstorable : Storable s.db env body := hadmits hbody
    generalize hview : s.view n = v at h
    have haccount : s.db.byUsername n = v.account := congrArg View.account hview
    cases h with
    | idle =>
      obtain ⟨p, r, hscheduled, hname, hfits, hcommits, -, hafter⟩ :=
        view_lookup_of_free hbody hstorable haccount
      rw [hafter, hview]
      exact .underway p r hscheduled hname hfits hcommits
    | underway p r hscheduled hname =>
      have hpending : s.pending.filter (fun q ↦ q.body.For n) = [p] :=
        congrArg View.pending hview
      have hp : p ∈ s.pending := List.mem_of_mem_filter (hpending ▸ List.mem_singleton_self p)
      have hfree : ∀ q ∈ s.db.rows, q.username ≠ n := Database.byUsername_eq_none_iff.1 haccount
      exact absurd ⟨hbody, hfree, p, hp, (for_iff_of_scheduled hscheduled).2 hname⟩ hcrowds
    | won r before after winner hwinner hstatus hlosers pending hpending =>
      obtain ⟨p, hscheduled, hcommits, hafter⟩ := view_lookup_of_taken hbody hstorable haccount
      rw [hafter, hview]
      refine .won r before after winner hwinner hstatus hlosers _ fun q hq ↦ ?_
      rcases List.mem_append.1 hq with hq | hq
      · exact hpending q hq
      · obtain rfl := List.mem_singleton.1 hq
        exact ⟨hscheduled, hcommits⟩
  · rw [view_lookup_of_other hbody]
    exact h

/-- The row of the only request underway can be inserted. -/
theorem exists_insert_of_fresh (hfresh : s.Fresh) {r : UserRow} (hp : p ∈ s.pending)
    (hscheduled : p.scheduled = some r) (hfits : r.Fits)
    (hfree : ∀ q ∈ s.db.rows, q.username ≠ r.username) : ∃ d, s.db.insert r = some d := by
  have hr : r ∈ s.scheduled := State.mem_scheduled.2 ⟨p, hp, hscheduled⟩
  have hmem : r ∈ s.rows := List.mem_append_right _ hr
  have hids : ∀ q ∈ s.db.rows, q.id ≠ r.id := by
    have hnodup := hfresh.ids_nodup
    rw [State.rows, List.map_append, List.nodup_append] at hnodup
    exact fun q hq ↦ hnodup.2.2 q.id (List.mem_map_of_mem hq) r.id (List.mem_map_of_mem hr)
  exact Database.exists_insert_iff.2 ⟨fun q hq ↦ ⟨hids q hq, hfree q hq⟩, hfits,
    hfresh.id_lt r hmem, hfresh.id_inRange r hmem⟩

theorem phase_commit (hfresh : s.Fresh) (h : Phase n (s.view n)) (i : ℕ) :
    Phase n ((s.commit i).view n) := by
  have hcommit := commit_view n s i
  generalize (s.commit i).view n = v' at hcommit
  generalize hview : s.view n = v at h
  cases hcommit with
  | other =>
    rw [hview]
    exact h
  | refused before after p hpending hscheduled a hstatus hunchanged =>
    rw [hview] at hpending ⊢
    cases h with
    | idle => exact absurd hpending.symm (by simp)
    | underway q r hscheduled' =>
      obtain ⟨-, rfl, -⟩ := eq_of_singleton hpending
      cases hscheduled.symm.trans hscheduled'
    | won r before' after' winner hwinner hstatus' hlosers pending hall =>
      refine .won r (a :: before') after' winner hwinner hstatus' (fun b hb ↦ ?_) _ fun q hq ↦ ?_
      · rcases List.mem_cons.1 hb with rfl | hb
        · exact ⟨hstatus, hunchanged⟩
        · exact hlosers b hb
      · have hpending' : pending = before ++ p :: after := hpending
        rw [hpending'] at hall
        refine hall q ?_
        rcases List.mem_append.1 hq with hq | hq
        · exact List.mem_append_left _ hq
        · exact List.mem_append_right _ (List.mem_cons_of_mem _ hq)
  | inserted before after p hpending r hscheduled a hbody hstatus =>
    rw [hview] at hpending ⊢
    cases h with
    | idle => exact absurd hpending.symm (by simp)
    | underway q r' hscheduled' hname =>
      obtain ⟨rfl, rfl, rfl⟩ := eq_of_singleton hpending
      obtain rfl := Option.some.inj (hscheduled.symm.trans hscheduled')
      obtain ⟨-, -, hbody', -⟩ := Pending.of_scheduled_eq_some hscheduled
      refine .won r [] [] a ?_ hstatus (fun b hb ↦ absurd hb List.not_mem_nil) _
        fun b hb ↦ absurd hb List.not_mem_nil
      rw [hbody, hbody', hname]
    | won r' before' after' winner hwinner hstatus' hlosers pending hall =>
      have hpending' : pending = before ++ p :: after := hpending
      have hp : p ∈ pending := hpending' ▸ List.mem_append_right _ List.mem_cons_self
      cases hscheduled.symm.trans (hall p hp).1
  | rejected before after p hpending hcause a =>
    have hmem : p ∈ (s.view n).pending :=
      hpending ▸ List.mem_append_right _ List.mem_cons_self
    have hp : p ∈ s.pending := List.mem_of_mem_filter hmem
    have haccount : s.db.byUsername n = v.account := congrArg View.account hview
    rw [hview] at hpending hmem ⊢
    cases h with
    | idle => exact absurd hpending.symm (by simp)
    | underway q r hscheduled hname hfits hcommits =>
      obtain ⟨-, rfl, -⟩ := eq_of_singleton hpending
      have hfree : ∀ q ∈ s.db.rows, q.username ≠ r.username :=
        hname ▸ Database.byUsername_eq_none_iff.1 haccount
      obtain ⟨d, hd⟩ := exists_insert_of_fresh hfresh hp hscheduled hfits hfree
      obtain hfails | ⟨r', hscheduled', hnone⟩ := hcause
      · exact absurd hfails (Bool.eq_false_iff.1 hcommits)
      · obtain rfl := Option.some.inj (hscheduled.symm.trans hscheduled')
        cases hd.symm.trans hnone
    | won r' before' after' winner hwinner hstatus' hlosers pending hall =>
      obtain ⟨hscheduled, hcommits⟩ := hall p hmem
      obtain hfails | ⟨r, hscheduled', -⟩ := hcause
      · exact absurd hfails (Bool.eq_false_iff.1 hcommits)
      · cases hscheduled.symm.trans hscheduled'

/-! ### Once somebody has crowded in -/

/-- Somebody was told 500, or will be: two rows of the name are there or to come. -/
def Doomed (n : String) (s : State) : Prop :=
  (∃ a ∈ s.log, a.body.For n ∧ a.response.status = 500) ∨
    2 ≤ (s.rows.map UserRow.username).count n

theorem mem_log_step {x : Step} {a : Answered} (ha : a ∈ s.log) : a ∈ (s.step x).log := by
  cases x with
  | lookup body env =>
    have heffect := State.lookup_effect s body env
    show a ∈ (s.lookup body env).log
    generalize s.lookup body env = s' at heffect
    cases heffect with
    | answered => exact List.mem_cons_of_mem _ ha
    | refused => exact ha
    | scheduled => exact ha
  | commit i =>
    have heffect := State.commit_effect s i
    show a ∈ (s.commit i).log
    generalize s.commit i = s' at heffect
    cases heffect with
    | absent => exact ha
    | done => exact List.mem_cons_of_mem _ ha
    | inserted => exact List.mem_cons_of_mem _ ha
    | rejected => exact List.mem_cons_of_mem _ ha

theorem doomed_step (h : Doomed n s) (x : Step) : Doomed n (s.step x) := by
  obtain ⟨a, ha, hfor, hstatus⟩ | hcount := h
  · exact Or.inl ⟨a, mem_log_step ha, hfor, hstatus⟩
  · cases x with
    | lookup body env =>
      refine Or.inr (hcount.trans ?_)
      obtain ⟨hrows, hscheduled⟩ := State.rows_lookup s body env
      show _ ≤ (((s.lookup body env).db.rows ++ (s.lookup body env).scheduled).map
        UserRow.username).count n
      obtain ⟨hsame, -⟩ | ⟨r, hmore, -⟩ := hscheduled
      · rw [hrows, hsame, State.rows]
      · rw [hrows, hmore, ← List.append_assoc, List.map_append, List.count_append, State.rows]
        exact Nat.le_add_right _ _
    | commit i =>
      obtain ⟨-, hperm | ⟨p, -, r, hscheduled, hperm, a, ha, hbody, hstatus⟩⟩ :=
        State.rows_commit s i
      · refine Or.inr ?_
        show 2 ≤ ((s.commit i).rows.map UserRow.username).count n
        rwa [(hperm.map UserRow.username).count_eq]
      · by_cases hname : r.username = n
        · exact Or.inl ⟨a, ha, hbody ▸ (for_iff_of_scheduled hscheduled).2 hname, hstatus⟩
        · refine Or.inr ?_
          show 2 ≤ ((s.commit i).rows.map UserRow.username).count n
          rwa [(hperm.map UserRow.username).count_eq, List.map_cons,
            List.count_cons_of_ne hname] at hcount

/-- A request that crowds in. -/
theorem doomed_of_crowds {x : Step} (h : Phase n (s.view n)) (hadmits : s.Admits n x)
    (hcrowds : s.Crowds n x) : Doomed n (s.step x) := by
  cases x with
  | commit i => exact hcrowds.elim
  | lookup body env =>
    obtain ⟨hbody, hfree, p, hp, hfor⟩ := hcrowds
    have haccount : s.db.byUsername n = none := Database.byUsername_eq_none_iff.2 hfree
    obtain ⟨p', r', -, hname', -, -, hrows, -⟩ :=
      view_lookup_of_free hbody (hadmits hbody) haccount
    have hmem : p ∈ (s.view n).pending := List.mem_filter.2 ⟨hp, decide_eq_true hfor⟩
    generalize hview : s.view n = v at h hmem
    have hnone : none = v.account := haccount ▸ congrArg View.account hview
    cases h with
    | idle => exact absurd hmem List.not_mem_nil
    | underway q r hscheduled hname =>
      obtain rfl : p = q := List.mem_singleton.1 hmem
      -- two rows of the name are to come: the one underway and the new one
      have hr : r ∈ s.rows :=
        List.mem_append_right _ (State.mem_scheduled.2 ⟨p, hp, hscheduled⟩)
      have hone : 0 < (s.rows.map UserRow.username).count n :=
        List.count_pos_iff.2 (List.mem_map.2 ⟨r, hr, hname⟩)
      refine Or.inr ?_
      show 2 ≤ ((s.lookup body env).rows.map UserRow.username).count n
      rw [hrows, List.map_append, List.count_append, List.map_singleton, hname',
        List.count_singleton_self]
      omega
    | won => cases hnone

/-- **A run either stays in phase, and then nobody has crowded in, or it is doomed.** -/
theorem phase_or_doomed {xs : List Step} (hfresh : s.Fresh) (h : Phase n (s.view n))
    (hadmits : Machine.Throughout State.step (fun s x ↦ s.Admits n x) s xs) :
    Machine.Throughout State.step (fun s x ↦ ¬ s.Crowds n x) s xs ∧
        Phase n ((Machine.run State.step s xs).view n) ∨
      ¬ Machine.Throughout State.step (fun s x ↦ ¬ s.Crowds n x) s xs ∧
        Doomed n (Machine.run State.step s xs) := by
  induction xs generalizing s with
  | nil => exact Or.inl ⟨trivial, h⟩
  | cons x xs ih =>
    by_cases hcrowds : s.Crowds n x
    · have hdoomed : Doomed n (Machine.run State.step (s.step x) xs) :=
        Machine.run_invariant_of_forall (I := Doomed n) (fun _ x h ↦ doomed_step h x)
          (doomed_of_crowds h hadmits.1 hcrowds) xs
      exact Or.inr ⟨fun hthroughout ↦ hthroughout.1 hcrowds, hdoomed⟩
    · have hphase : Phase n ((s.step x).view n) := by
        cases x with
        | lookup body env => exact phase_lookup h hadmits.1 hcrowds
        | commit i => exact phase_commit hfresh h i
      obtain ⟨hquiet, hrun⟩ | ⟨hcrowd, hrun⟩ :=
        ih (State.fresh_step hfresh x) hphase hadmits.2
      · exact Or.inl ⟨⟨hcrowds, hquiet⟩, hrun⟩
      · exact Or.inr ⟨fun hthroughout ↦ hcrowd hthroughout.2, hrun⟩

/-! ### When all have finished -/

/-- With nobody pending, a doomed name has seen an error. -/
theorem exists_error_of_doomed (h : Doomed n s) (hdone : s.pending = []) :
    ∃ a ∈ s.log, a.body.For n ∧ a.response.status = 500 := by
  obtain herror | hcount := h
  · exact herror
  · have hrows : s.rows = s.db.rows := by
      rw [State.rows, State.scheduled, hdone]
      exact List.append_nil _
    have hle := List.nodup_iff_count_le_one.1 s.db.consistent.usernames_nodup n
    rw [hrows] at hcount
    omega

/-- An error is the answer neither to a winner nor to a loser. -/
theorem not_oneWinner_of_error {a : Answered} (ha : a ∈ s.log) (hfor : a.body.For n)
    (hstatus : a.response.status = 500) : ¬ OneWinner n s := by
  intro h
  obtain ⟨r, before, winner, after, hdecided⟩ := h
  have hcase : a = winner ∨ a ∈ before ++ after := by
    have ha : a ∈ before ++ winner :: after :=
      hdecided.log ▸ List.mem_filter.2 ⟨ha, decide_eq_true hfor⟩
    rcases List.mem_append.1 ha with ha | ha
    · exact Or.inr (List.mem_append_left _ ha)
    · rcases List.mem_cons.1 ha with rfl | ha
      · exact Or.inl rfl
      · exact Or.inr (List.mem_append_right _ ha)
  obtain rfl | hloser := hcase
  · have hok := hdecided.status
    omega
  · have hconflict := (hdecided.losers a hloser).1
    omega

/-- With nobody pending, a name that somebody has asked for in phase has its winner. -/
theorem oneWinner_of_phase {a : Answered} (h : Phase n (s.view n)) (hdone : s.pending = [])
    (ha : a ∈ s.log) (hfor : a.body.For n) : OneWinner n s := by
  have hmem : a ∈ (s.view n).log := List.mem_filter.2 ⟨ha, decide_eq_true hfor⟩
  have hpending : (s.view n).pending = [] := by
    show s.pending.filter _ = []
    rw [hdone, List.filter_nil]
  generalize hview : s.view n = v at h hmem hpending
  cases h with
  | idle => exact absurd hmem List.not_mem_nil
  | underway p => exact absurd hpending (List.cons_ne_nil p [])
  | won r before after winner hbody hstatus hlosers =>
    refine ⟨r, before, winner, after, fun q ↦ ?_, congrArg View.log hview, hbody, hstatus, hlosers⟩
    have haccount : s.db.byUsername n = some r := congrArg View.account hview
    rw [← Database.byUsername_eq_some_iff, haccount, Option.some_inj]
    exact eq_comm

/-- **When concurrent sign-ups for one name have one winner, and the losers are told so**: when none
of them looks the name up while it is free and another one is pending. Whatever happens, every
request is answered, once. -/
theorem oneWinner_iff (n : String) (db : Database) (hfree : ∀ r ∈ db.rows, r.username ≠ n)
    (xs : List Step)
    (hadmits : Machine.Throughout State.step (fun s x ↦ s.Admits n x) (State.start db) xs)
    (hasked : ∃ body ∈ xs.flatMap State.requested, body.For n)
    (hdone : (Machine.run State.step (State.start db) xs).pending = []) :
    ((Machine.run State.step (State.start db) xs).log.map Answered.body).Perm
          (xs.flatMap State.requested) ∧
        OneWinner n (Machine.run State.step (State.start db) xs) ↔
      Machine.Throughout State.step (fun s x ↦ ¬ s.Crowds n x) (State.start db) xs := by
  have hanswered : ((Machine.run State.step (State.start db) xs).log.map Answered.body).Perm
      (xs.flatMap State.requested) := by
    have hbodies := State.bodies_run (State.start db) xs
    rw [State.bodies, hdone] at hbodies
    exact hbodies.trans (List.append_nil _ ▸ List.Perm.refl _)
  obtain ⟨body, hbody, hfor⟩ := hasked
  obtain ⟨a, ha, rfl⟩ := List.mem_map.1 (hanswered.symm.subset hbody)
  have hidle : Phase n ((State.start db).view n) := by
    have hview : (State.start db).view n = ⟨none, [], []⟩ := by
      rw [State.view]
      show View.mk (db.byUsername n) [] [] = _
      rw [Database.byUsername_eq_none_iff.2 hfree]
    exact hview ▸ .idle
  obtain ⟨hquiet, hphase⟩ | ⟨hcrowd, hdoomed⟩ :=
    phase_or_doomed (State.fresh_start db) hidle hadmits
  · exact iff_of_true ⟨hanswered, oneWinner_of_phase hphase hdone ha hfor⟩ hquiet
  · obtain ⟨b, hb, hbfor, hstatus⟩ := exists_error_of_doomed hdoomed hdone
    exact iff_of_false (fun h ↦ not_oneWinner_of_error hb hbfor hstatus h.2) hcrowd

/-- A request for the name `alice`. -/
def aliceBody : Body SignUpUser := .value ⟨some "alice", some "alice@a", some "secret"⟩

/-- Another one. -/
def otherAliceBody : Body SignUpUser := .value ⟨some "alice", some "other@b", some "other"⟩

theorem storable_aliceBody {db : Database} (h : JavaInteger.InRange db.sequence) :
    Storable db .quiet aliceBody :=
  ⟨⟨"alice", "alice@a", "secret", by decide, by decide, by decide⟩, rfl, by
    show javaLength "alice" ≤ 20 ∧ javaLength "alice@a" ≤ 60 ∧ javaLength "secret" ≤ 30
    decide +kernel, h, ⟨rfl, rfl, rfl⟩⟩

theorem storable_otherAliceBody {db : Database} (h : JavaInteger.InRange db.sequence) :
    Storable db .quiet otherAliceBody :=
  ⟨⟨"alice", "other@b", "other", by decide, by decide, by decide⟩, rfl, by
    show javaLength "alice" ≤ 20 ∧ javaLength "other@b" ≤ 60 ∧ javaLength "other" ≤ 30
    decide +kernel, h, ⟨rfl, rfl, rfl⟩⟩

/-- A request for the name `bob`. -/
def bobBody : Body SignUpUser := .value ⟨some "bob", some "bob@b", some "hidden"⟩

/-- Bob looks his name up while alice is underway, and commits while somebody else is who has found
her name taken. -/
def aliceAmongOthers : List Step :=
  [.lookup aliceBody .quiet, .lookup bobBody .quiet, .commit 0, .lookup otherAliceBody .quiet,
    .commit 0, .commit 0]

theorem oneWinner_aliceAmongOthers :
    ((Machine.run State.step (State.start .empty) aliceAmongOthers).log.map Answered.body).Perm
        (aliceAmongOthers.flatMap State.requested) ∧
      OneWinner "alice" (Machine.run State.step (State.start .empty) aliceAmongOthers) := by
  have hbob : ¬ bobBody.For "alice" := by decide
  refine (oneWinner_iff "alice" .empty (fun r hr ↦ absurd hr List.not_mem_nil) aliceAmongOthers
    ⟨fun _ ↦ storable_aliceBody (by decide +kernel), fun h ↦ absurd h hbob, trivial,
      fun _ ↦ storable_otherAliceBody (by decide +kernel), trivial, trivial, trivial⟩
    ⟨aliceBody, List.mem_cons_self, by decide +kernel⟩ rfl).2 ⟨?_, ?_, ?_, ?_, ?_, ?_, trivial⟩
  · intro h
    obtain ⟨-, -, p, hp, -⟩ := h
    exact absurd hp List.not_mem_nil
  · exact fun h ↦ hbob h.1
  · exact fun h ↦ h
  · intro h
    obtain ⟨-, hfree, -⟩ := h
    exact hfree ⟨1, "alice", "alice@a", "secret", []⟩ (by decide +kernel) rfl
  · exact fun h ↦ h
  · exact fun h ↦ h

/-- Both look the name up before one of them commits. -/
def aliceAtOnce : List Step :=
  [.lookup aliceBody .quiet, .lookup otherAliceBody .quiet, .commit 0, .commit 0]

/-- The loser is told 500. -/
theorem not_oneWinner_aliceAtOnce :
    ¬ ∀ (n : String) (db : Database), (∀ r ∈ db.rows, r.username ≠ n) → ∀ xs : List Step,
      Machine.Throughout State.step (fun s x ↦ s.Admits n x) (State.start db) xs →
      (∃ body ∈ xs.flatMap State.requested, body.For n) →
      (Machine.run State.step (State.start db) xs).pending = [] →
      ((Machine.run State.step (State.start db) xs).log.map Answered.body).Perm
          (xs.flatMap State.requested) ∧
        OneWinner n (Machine.run State.step (State.start db) xs) := by
  intro h
  have hwinner := (h "alice" .empty (fun r hr ↦ absurd hr List.not_mem_nil) aliceAtOnce
    ⟨fun _ ↦ storable_aliceBody (by decide +kernel),
      fun _ ↦ storable_otherAliceBody (by decide +kernel), trivial, trivial, trivial⟩
    ⟨aliceBody, List.mem_cons_self, by decide +kernel⟩ rfl).2
  have hlog : (Machine.run State.step (State.start .empty) aliceAtOnce).log.map
      (fun a ↦ (a.body, a.response.status)) = [(otherAliceBody, 500), (aliceBody, 200)] := by
    decide +kernel
  obtain ⟨a, ha, heq⟩ := List.mem_map.1 (hlog ▸ List.mem_cons_self)
  obtain ⟨hbody, hstatus⟩ := Prod.mk.inj heq
  exact not_oneWinner_of_error ha (hbody ▸ by decide +kernel) hstatus hwinner

end SignUps

end DseAuth
