import DseAuth.Db.MapUserDAO
import Mathlib.Algebra.Group.Nat.Defs

/-!
# The in-memory store over time

A `History` is a `mapUserDAO` with a ghost: the ids its counter has handed out. What happens to it
is a `Call` of one of the four methods that write, with any argument, or a caller that changes one
of the stored objects it holds.

Two results about all histories. **An update is never carried out**: `updateUser` answers true and
leaves the store as it was, so what it reports is right only where there was nothing to update
(`updateUser_visible_iff`). And **the representation is sound** (`representation_sound`): keys are
ids, names are unique, no id is used twice, the two lookups agree, and a call that reports a failure
has changed nothing.
-/

namespace DseAuth

/-- The same email, password and privileges. -/
def UserObject.SameData (u v : UserObject) : Prop :=
  u.email = v.email ∧ u.password = v.password ∧
    Option.Rel (fun s t : JavaSet (Option String) ↦ s.equals t = true) u.privileges v.privileges

namespace MapUserDAO

/-- A call of a method that writes. -/
inductive Call
  | addNewUser (newUser : SignUpUser)
  | addNewUserOf (username password email : Option String)
  | deleteUser (u : UserObject)
  | updateUser (u : UserObject)

/-- The answer to a call, and what it leaves. -/
def Call.perform (dao : MapUserDAO) : Call → Except JavaException Bool × MapUserDAO
  | .addNewUser newUser => dao.addNewUser newUser
  | .addNewUserOf username password email => dao.addNewUserOf username password email
  | .deleteUser u => dao.deleteUser u
  | .updateUser u => dao.updateUser u

/-- What can happen to a store. -/
inductive Event
  | call (c : Call)
  | mutate (id : BitVec 32) (email password : Option String)
    (privileges : Option (JavaSet (Option String)))

/-- A store and the ids that were drawn from its counter, the last one first. -/
structure History where
  /-- The store. -/
  dao : MapUserDAO
  /-- The ids drawn. -/
  drawn : List (BitVec 32)

namespace History

/-- After a call. The counter has moved when an id was drawn. -/
def perform (s : History) (c : Call) : History :=
  let dao := (c.perform s.dao).2
  { dao
    drawn := if dao.idCounter = s.dao.idCounter then s.drawn else s.dao.idCounter :: s.drawn }

/-- After an event. -/
def step (s : History) : Event → History
  | .call c => s.perform c
  | .mutate id email password privileges =>
    { s with dao := s.dao.mutate id email password privileges }

/-- After the constructor, which draws three ids. -/
def start (uuid : ℕ → String) : History where
  dao := create uuid
  drawn := [2, 1, 0]

end History

/-! ### Updates -/

/-- What `updateUser` should do with `u`, said of its outcome `r`. -/
structure UpdateVisible (dao : MapUserDAO) (u : UserObject)
    (r : Except JavaException Bool × MapUserDAO) : Prop where
  /-- After an answer true both lookups yield the data of `u`. -/
  visible : r.1 = .ok true →
    (∃ v, r.2.findByID u.id = some v ∧ v.SameData u) ∧
      ∃ v, r.2.findByName u.username = .ok (some v) ∧ v.SameData u
  /-- And the records of other ids are what they were. -/
  others : r.1 = .ok true → ∀ id, u.id ≠ some id → r.2.findByID (some id) = dao.findByID (some id)
  /-- The answer false changes nothing. -/
  refused : r.1 = .ok false → r.2 = dao
  /-- It is given where the id has no record, or one of another name. -/
  refused_iff : r.1 = .ok false ↔ ∀ v, dao.findByID u.id = some v → v.username ≠ u.username

/-- There is nothing to update: `u` has an id, and the record of that id, if it has the name of `u`,
has the data of `u` as well and is found by that name, since no record without a name comes before
it. A record without a name is the record of no named `u`. -/
def NothingToUpdate (dao : MapUserDAO) (u : UserObject) : Prop :=
  ∃ id, u.id = some id ∧ ∀ v, (id, v) ∈ dao.db.entries →
    (v.username = none → u.username = none) ∧
      (v.username ≠ none → v.username = u.username → v.SameData u ∧
        ∃ before after, dao.db.values = before ++ v :: after ∧ ∀ w ∈ before, w.username ≠ none)

variable {dao : MapUserDAO} {u v : UserObject} {id : BitVec 32}

/-- The record of a name is found by it when no record without a name comes first. -/
theorem findByName_self_iff (hname : v.username ≠ none) :
    dao.findByName v.username = .ok (some v) ↔
      ∃ before after, dao.db.values = before ++ v :: after ∧ ∀ w ∈ before, w.username ≠ none := by
  rw [findByName, findEntry_eq_ok_some_iff]
  constructor
  · intro h
    obtain ⟨before, after, heq, -, -, hbefore⟩ := h
    exact ⟨before, after, heq, fun w hw ↦ (hbefore w hw).1⟩
  · intro h
    obtain ⟨before, after, heq, hbefore⟩ := h
    exact ⟨before, after, heq, hname, rfl,
      fun w hw ↦ ⟨hbefore w hw, BiMap.label_ne_of_before heq hw⟩⟩

/-- The only record that a lookup by name can find. -/
theorem eq_of_findByName {w : UserObject} (h : dao.findByName u.username = .ok (some w))
    (hmem : (id, v) ∈ dao.db.entries) (hname : v.username = u.username) : w = v := by
  obtain ⟨before, after, heq, -, hw, -⟩ := findEntry_eq_ok_some_iff.1 h
  have hwmem : w ∈ dao.db.values := heq ▸ List.mem_append_right before List.mem_cons_self
  obtain ⟨k, hk⟩ := BiMap.mem_values.1 hwmem
  exact congrArg Prod.snd (BiMap.eq_of_label hk hmem (hw.trans hname.symm))

/-- `UpdateVisible` admits an exception only where there is a record to update. -/
theorem updateVisible_error_iff {dao' : MapUserDAO} {e : JavaException} :
    UpdateVisible dao u (.error e, dao') ↔
      ∃ v, dao.findByID u.id = some v ∧ v.username = u.username := by
  constructor
  · intro h
    by_contra hno
    have hfalse := h.refused_iff.2 fun v hv hsame ↦ hno ⟨v, hv, hsame⟩
    cases hfalse
  · intro hrecord
    obtain ⟨v, hv, hsame⟩ := hrecord
    have hok {b : Bool} (h : (Except.error e : Except JavaException Bool) = .ok b) : False := by
      cases h
    exact ⟨fun h ↦ (hok h).elim, fun h ↦ (hok h).elim, fun h ↦ (hok h).elim,
      fun h ↦ (hok h).elim, fun hother ↦ absurd hsame (hother v hv)⟩

/-- Refusing is right where there is no record to update. -/
theorem updateVisible_refused (hno : ∀ v, dao.findByID u.id = some v → v.username ≠ u.username) :
    UpdateVisible dao u (.ok false, dao) := by
  have hfalse (h : (Except.ok false : Except JavaException Bool) = .ok true) : False := by
    cases h
  exact ⟨fun h ↦ (hfalse h).elim, fun h ↦ (hfalse h).elim, fun _ ↦ rfl, fun _ ↦ hno, fun _ ↦ rfl⟩

/-- Answering true without an update is right where the record is up to date and is found. -/
theorem updateVisible_true_iff (hid : u.id = some id) (hmem : (id, v) ∈ dao.db.entries)
    (hsame : v.username = u.username) :
    UpdateVisible dao u (.ok true, dao) ↔
      v.SameData u ∧ dao.findByName u.username = .ok (some v) := by
  have hfind : dao.findByID u.id = some v := hid ▸ findByID_eq_some_iff.2 hmem
  constructor
  · intro h
    obtain ⟨⟨w, hw, hdata⟩, w', hw', -⟩ := h.visible rfl
    obtain rfl : w = v := Option.some.inj (hw.symm.trans hfind)
    have hw'w : w' = w := eq_of_findByName (hw' : dao.findByName u.username = _) hmem hsame
    exact ⟨hdata, hw'w ▸ hw'⟩
  · intro h
    obtain ⟨hdata, hbyName⟩ := h
    have htrue (h : (Except.ok true : Except JavaException Bool) = .ok false) : False := by
      cases h
    exact ⟨fun _ ↦ ⟨⟨v, hfind, hdata⟩, v, hbyName, hdata⟩, fun _ _ _ ↦ rfl,
      fun h ↦ (htrue h).elim, fun h ↦ (htrue h).elim, fun hother ↦ absurd hsame (hother v hfind)⟩

/-- What there is to update, where a record has the id of `u`. -/
theorem nothingToUpdate_iff (hid : u.id = some id) (hmem : (id, v) ∈ dao.db.entries) :
    dao.NothingToUpdate u ↔
      (v.username = none → u.username = none) ∧
        (v.username ≠ none → v.username = u.username →
          v.SameData u ∧ dao.findByName v.username = .ok (some v)) := by
  constructor
  · intro h
    obtain ⟨id', hid', hall⟩ := h
    obtain rfl : id' = id := Option.some.inj (hid'.symm.trans hid)
    refine ⟨(hall v hmem).1, fun hname hsame ↦ ?_⟩
    obtain ⟨hdata, hfirst⟩ := (hall v hmem).2 hname hsame
    exact ⟨hdata, (findByName_self_iff hname).2 hfirst⟩
  · intro h
    refine ⟨id, hid, fun w hw ↦ ?_⟩
    obtain rfl : w = v := congrArg Prod.snd (BiMap.eq_of_key hw hmem rfl)
    refine ⟨h.1, fun hname hsame ↦ ?_⟩
    obtain ⟨hdata, hbyName⟩ := h.2 hname hsame
    exact ⟨hdata, (findByName_self_iff hname).1 hbyName⟩

theorem updateVisible_iff (dao : MapUserDAO) (u : UserObject) :
    UpdateVisible dao u (dao.updateUser u) ↔ dao.NothingToUpdate u := by
  have hattempt := updateUser_attempt dao u
  generalize dao.updateUser u = r at hattempt
  cases hattempt with
  | nullId hid =>
    -- there is no record of that id, so the exception is not admitted
    refine updateVisible_error_iff.trans (iff_of_false (fun h ↦ ?_) fun h ↦ ?_)
    · obtain ⟨v, hv, -⟩ := h
      rw [hid] at hv
      exact absurd hv (Option.some_ne_none v).symm
    · obtain ⟨id, hsome, -⟩ := h
      exact absurd (hsome.symm.trans hid) (Option.some_ne_none id)
  | nullName id v hid hmem hnull =>
    -- an exception again, which is admitted for a `u` without a name
    have hfind : dao.findByID u.id = some v := hid ▸ findByID_eq_some_iff.2 hmem
    rw [updateVisible_error_iff, nothingToUpdate_iff hid hmem]
    constructor
    · intro h
      obtain ⟨w, hw, hsame⟩ := h
      obtain rfl : w = v := Option.some.inj (hw.symm.trans hfind)
      exact ⟨fun _ ↦ hsame.symm.trans hnull, fun hname ↦ absurd hnull hname⟩
    · intro h
      exact ⟨v, hfind, hnull.trans (h.1 hnull).symm⟩
  | refused id hid hother =>
    refine iff_of_true (updateVisible_refused fun v hv ↦ ?_) ⟨id, hid, fun v hv ↦ ?_⟩
    · rw [hid] at hv
      exact (hother v (findByID_eq_some_iff.1 hv)).2
    · exact ⟨fun hnull ↦ absurd hnull (hother v hv).1,
        fun _ hsame ↦ absurd hsame (hother v hv).2⟩
  | updated id v hid hmem hname hsame =>
    -- both lookups yield the record as it was
    rw [updateVisible_true_iff hid hmem hsame, nothingToUpdate_iff hid hmem, ← hsame]
    constructor
    · intro h
      exact ⟨fun hnull ↦ absurd hnull hname, fun _ _ ↦ h⟩
    · intro h
      exact h.2 hname rfl

/-- **When an update is visible**, in every store that comes about: when there is nothing to
update. -/
theorem updateUser_visible_iff (uuid : ℕ → String) (xs : List Event) (u : UserObject) :
    let dao := (Machine.run History.step (History.start uuid) xs).dao
    UpdateVisible dao u (dao.updateUser u) ↔ dao.NothingToUpdate u :=
  updateVisible_iff _ u

/-- A caller that hands in the first example account with another email is told that the update was
made, and the store still has the old email. -/
theorem updateUser_not_visible :
    ¬ ∀ (uuid : ℕ → String) (xs : List Event) (u : UserObject),
      let dao := (Machine.run History.step (History.start uuid) xs).dao
      UpdateVisible dao u (dao.updateUser u) := by
  intro h
  let u : UserObject := { testuser 0 "Testuser" [] with email := some "new@example.com" }
  have hvisible := (h (fun _ ↦ "privilege") [] u).visible (by decide +kernel)
  obtain ⟨⟨v, hv, hemail, -⟩, -⟩ := hvisible
  have hold : v = testuser 0 "Testuser" ["privilege", "privilege", "privilege"] :=
    (Option.some.inj (hv.symm.trans (by decide +kernel)))
  rw [hold] at hemail
  exact absurd hemail (by decide)

/-! ### The representation -/

/-- The new account of a call has a name. -/
def Call.Named : Call → Prop
  | .addNewUser newUser => newUser.username ≠ none
  | .addNewUserOf username _ _ => username ≠ none
  | .deleteUser _ => True
  | .updateUser _ => True

instance : DecidablePred Call.Named
  | .addNewUser newUser => inferInstanceAs (Decidable (newUser.username ≠ none))
  | .addNewUserOf username _ _ => inferInstanceAs (Decidable (username ≠ none))
  | .deleteUser _ => inferInstanceAs (Decidable True)
  | .updateUser _ => inferInstanceAs (Decidable True)

/-- No account without a name comes in by this event. -/
def Event.Named : Event → Prop
  | .call c => c.Named
  | .mutate _ _ _ _ => True

instance : DecidablePred Event.Named
  | .call c => inferInstanceAs (Decidable c.Named)
  | .mutate _ _ _ _ => inferInstanceAs (Decidable True)

/-- What a call can do to a store: nothing, remove accounts, or add one under the next id. -/
inductive Effect (dao : MapUserDAO) : Except JavaException Bool × MapUserDAO → Prop
  | unchanged (r : Except JavaException Bool)
    (hclash : ∀ message, r ≠ .error (.illegalArgument message)) : Effect dao (r, dao)
  | removed (db : BiMap (BitVec 32) UserObject (Option String) UserObject.username)
    (hsub : ∀ e ∈ db.entries, e ∈ dao.db.entries) : Effect dao (.ok true, ⟨db, dao.idCounter⟩)
  | added (v : UserObject) (hid : v.id = some dao.idCounter) (hname : v.username ≠ none)
    (hnew : ∀ e ∈ dao.db.entries, e.2.username ≠ v.username)
    (db : BiMap (BitVec 32) UserObject (Option String) UserObject.username)
    (hput : dao.db.put dao.idCounter v = some db) : Effect dao (.ok true, ⟨db, dao.idCounter + 1⟩)

theorem effect_addUser {username password email : Option String} (hname : username ≠ none) :
    Effect dao (dao.addUser username password email) := by
  have hattempt := addUser_attempt dao username password email
  generalize dao.addUser username password email = r at hattempt
  rcases hattempt with ⟨w, -, -⟩ | ⟨w, -⟩ | ⟨db, hfree, hput⟩
  · refine .unchanged _ fun message h ↦ ?_
    cases h
  · refine .unchanged _ fun message h ↦ ?_
    cases h
  · refine .added _ rfl hname (fun e he ↦ ?_) db hput
    exact (findEntry_eq_ok_none_iff.1 hfree e.2 (BiMap.mem_values.2 ⟨e.1, he⟩)).2

theorem effect_deleteUser (dao : MapUserDAO) (u : UserObject) : Effect dao (dao.deleteUser u) := by
  by_cases h : (dao.deleteUser u).1 = .ok true
  · have hdone : dao.deleteUser u = (.ok true, ⟨(dao.db.removeValue u).2, dao.idCounter⟩) :=
      Prod.ext h rfl
    rw [hdone]
    exact .removed _ fun e he ↦ (BiMap.mem_removeValue.1 he).1
  · rw [deleteUser_of_ne_true h]
    refine .unchanged _ fun message h ↦ ?_
    cases h

theorem effect_updateUser (dao : MapUserDAO) (u : UserObject) : Effect dao (dao.updateUser u) := by
  have hattempt := updateUser_attempt dao u
  generalize dao.updateUser u = r at hattempt
  rcases hattempt with _ | _ | _ | _ <;>
    exact .unchanged _ fun message h ↦ by cases h

theorem effect_perform {c : Call} (hc : c.Named) : Effect dao (c.perform dao) := by
  cases c with
  | addNewUser newUser => exact effect_addUser hc
  | addNewUserOf username password email => exact effect_addUser hc
  | deleteUser u => exact effect_deleteUser dao u
  | updateUser u => exact effect_updateUser dao u

/-- An entry as it should be: an account with a name, under its id, which was drawn. -/
structure IsAccount (drawn : List (BitVec 32)) (e : BitVec 32 × UserObject) : Prop where
  /-- It is stored under its id. -/
  id_eq : e.2.id = some e.1
  /-- It has a name. -/
  named : e.2.username ≠ none
  /-- The id comes from the counter. -/
  mem_drawn : e.1 ∈ drawn

namespace History

/-- What holds between the map and the counter. -/
structure Invariant (s : History) : Prop where
  /-- The entries are accounts. -/
  isAccount : ∀ e ∈ s.dao.db.entries, IsAccount s.drawn e
  /-- The counter has counted up, -/
  drawn_eq : s.drawn = ((List.range s.drawn.length).map (BitVec.ofNat 32)).reverse
  /-- and goes on counting. -/
  counter_eq : s.dao.idCounter = BitVec.ofNat 32 s.drawn.length

variable {s : History}

theorem invariant_start (uuid : ℕ → String) : (start uuid).Invariant where
  isAccount := by
    have h0 : (0 : BitVec 32) ∈ [(2 : BitVec 32), 1, 0] := by decide
    have h1 : (1 : BitVec 32) ∈ [(2 : BitVec 32), 1, 0] := by decide
    have h2 : (2 : BitVec 32) ∈ [(2 : BitVec 32), 1, 0] := by decide
    show ∀ e ∈ (create uuid).db.entries, IsAccount [2, 1, 0] e
    simp only [create, List.forall_mem_cons]
    exact ⟨⟨rfl, Option.some_ne_none _, h0⟩, ⟨rfl, Option.some_ne_none _, h1⟩,
      ⟨rfl, Option.some_ne_none _, h2⟩, fun e he ↦ absurd he List.not_mem_nil⟩
  drawn_eq := by
    show [(2 : BitVec 32), 1, 0] = ((List.range 3).map (BitVec.ofNat 32)).reverse
    decide
  counter_eq := rfl

/-- An id that was drawn stays drawn. -/
theorem mem_drawn_perform {c : Call} {id : BitVec 32} (h : id ∈ s.drawn) :
    id ∈ (s.perform c).drawn := by
  show id ∈ if _ then s.drawn else _
  split
  · exact h
  · exact List.mem_cons_of_mem _ h

/-- A call that does not move the counter draws nothing. -/
theorem perform_of_counter_eq {c : Call}
    (h : (c.perform s.dao).2.idCounter = s.dao.idCounter) :
    s.perform c = ⟨(c.perform s.dao).2, s.drawn⟩ := by
  rw [perform, if_pos h]

/-- A call that moves it draws one id. -/
theorem perform_of_counter_succ {c : Call}
    (h : (c.perform s.dao).2.idCounter = s.dao.idCounter + 1) :
    s.perform c = ⟨(c.perform s.dao).2, s.dao.idCounter :: s.drawn⟩ := by
  have hmoved : (c.perform s.dao).2.idCounter ≠ s.dao.idCounter := by
    rw [h]
    bv_omega
  rw [perform, if_neg hmoved]

theorem invariant_perform {c : Call} (hc : c.Named) (h : s.Invariant) :
    (s.perform c).Invariant := by
  have heffect : Effect s.dao (c.perform s.dao) := effect_perform hc
  rcases hr : c.perform s.dao with ⟨r, dao⟩
  rw [hr] at heffect
  cases heffect with
  | unchanged _ hclash =>
    have hsame : s.perform c = s := by
      rw [perform_of_counter_eq (by rw [hr]), hr]
    rw [hsame]
    exact h
  | removed db hsub =>
    rw [perform_of_counter_eq (by rw [hr]), hr]
    exact ⟨fun e he ↦ h.isAccount e (hsub e he), h.drawn_eq, h.counter_eq⟩
  | added v hid hname hnew db hput =>
    rw [perform_of_counter_succ (by rw [hr]), hr]
    obtain ⟨db', hput', hentries⟩ := BiMap.exists_put (k := s.dao.idCounter) hnew
    obtain rfl : db = db' := Option.some.inj (hput.symm.trans hput')
    refine ⟨fun e he ↦ ?_, ?_, ?_⟩
    · rcases hentries e he with rfl | hmem
      · exact ⟨hid, hname, List.mem_cons_self⟩
      · have hold := h.isAccount e hmem
        exact ⟨hold.id_eq, hold.named, List.mem_cons_of_mem _ hold.mem_drawn⟩
    · rw [List.length_cons, List.range_succ, List.map_append, List.reverse_append, ← h.drawn_eq,
        h.counter_eq]
      rfl
    · show s.dao.idCounter + 1 = BitVec.ofNat 32 (s.drawn.length + 1)
      rw [h.counter_eq]
      bv_omega

theorem invariant_step {x : Event} (hx : x.Named) (h : s.Invariant) : (s.step x).Invariant := by
  cases x with
  | call c => exact invariant_perform hx h
  | mutate id email password privileges =>
    refine ⟨fun e he ↦ ?_, h.drawn_eq, h.counter_eq⟩
    obtain ⟨e', he', rfl⟩ := BiMap.mem_modify.1 he
    have hold := h.isAccount e' he'
    split
    · next hkey =>
      subst hkey
      exact ⟨hold.id_eq, hold.named, hold.mem_drawn⟩
    · exact hold

/-- **The invariant holds of all histories.** -/
theorem invariant_run (uuid : ℕ → String) {xs : List Event} (hxs : ∀ x ∈ xs, x.Named) :
    (Machine.run step (start uuid) xs).Invariant :=
  Machine.run_invariant (P := fun _ x ↦ x.Named) (fun _ _ h hx ↦ invariant_step hx h)
    (invariant_start uuid) (Machine.throughout_of_forall_mem hxs _)

/-- **No id is drawn twice** before the counter wraps around. -/
theorem Invariant.drawn_nodup (h : s.Invariant) (hlt : s.drawn.length ≤ 2 ^ 32) :
    s.drawn.Nodup := by
  rw [h.drawn_eq, List.nodup_reverse]
  refine List.Nodup.map_on (fun i hi j hj hij ↦ ?_) List.nodup_range
  rw [List.mem_range] at hi hj
  have hnat : i % 2 ^ 32 = j % 2 ^ 32 := congrArg BitVec.toNat hij
  rwa [Nat.mod_eq_of_lt (by omega), Nat.mod_eq_of_lt (by omega)] at hnat

/-- The next id has not been drawn. -/
theorem Invariant.counter_not_mem (h : s.Invariant) (hlt : s.drawn.length < 2 ^ 32) :
    s.dao.idCounter ∉ s.drawn := by
  rw [h.counter_eq]
  intro hmem
  have hrange : BitVec.ofNat 32 s.drawn.length ∈
      ((List.range s.drawn.length).map (BitVec.ofNat 32)).reverse := h.drawn_eq ▸ hmem
  obtain ⟨i, hi, hieq⟩ := List.mem_map.1 (List.mem_reverse.1 hrange)
  rw [List.mem_range] at hi
  have hnat : i % 2 ^ 32 = s.drawn.length % 2 ^ 32 := congrArg BitVec.toNat hieq
  rw [Nat.mod_eq_of_lt (by omega), Nat.mod_eq_of_lt hlt] at hnat
  omega

/-- **A store that represents a set of accounts**, and goes on doing so. -/
structure Represents (s : History) : Prop where
  /-- Every key is the id of its account. -/
  key_id : ∀ id u, s.dao.findByID (some id) = some u → u.id = some id
  /-- Usernames are not null -/
  named : ∀ u ∈ s.dao.findAll, u.username ≠ none
  /-- and pairwise distinct. -/
  usernames_nodup : (s.dao.findAll.map UserObject.username).Nodup
  /-- No id was drawn twice. -/
  drawn_nodup : s.drawn.Nodup
  /-- The accounts have ids that were drawn. -/
  key_drawn : ∀ id u, s.dao.findByID (some id) = some u → id ∈ s.drawn
  /-- An id that was drawn once counts as drawn from then on, whatever is deleted. -/
  drawn_mono : ∀ (c : Call), ∀ id ∈ s.drawn, id ∈ (s.perform c).drawn
  /-- After a call, an account that was not there before has an id that was never drawn before. -/
  new_id : ∀ c : Call, c.Named → ∀ id u, (s.perform c).dao.findByID (some id) = some u →
    s.dao.findByID (some id) = some u ∨ id ∉ s.drawn ∧ id ∈ (s.perform c).drawn
  /-- The two lookups agree. -/
  lookups : ∀ username u, s.dao.findByName username = .ok (some u) ↔
    s.dao.findByID u.id = some u ∧ u.username = username
  /-- A call that does not return true changes nothing. -/
  failed : ∀ c : Call, c.Named → (c.perform s.dao).1 ≠ .ok true → (c.perform s.dao).2 = s.dao
  /-- The map never refuses a user. -/
  no_clash : ∀ c : Call, c.Named → ∀ message,
    (c.perform s.dao).1 ≠ .error (.illegalArgument message)

theorem Invariant.findByName_eq_some_iff (h : s.Invariant) {username : Option String}
    {u : UserObject} : s.dao.findByName username = .ok (some u) ↔
      s.dao.findByID u.id = some u ∧ u.username = username := by
  have hnamed : ∀ w ∈ s.dao.db.values, w.username ≠ none := by
    intro w hw
    obtain ⟨k, hk⟩ := BiMap.mem_values.1 hw
    exact (h.isAccount (k, w) hk).named
  rw [MapUserDAO.findByName_eq_some_iff hnamed, BiMap.mem_values]
  constructor
  · intro hu
    obtain ⟨⟨k, hk⟩, hname⟩ := hu
    have hid : u.id = some k := (h.isAccount (k, u) hk).id_eq
    exact ⟨hid ▸ findByID_eq_some_iff.2 hk, hname⟩
  · intro hu
    obtain ⟨hfind, hname⟩ := hu
    obtain ⟨k, -, hget⟩ := Option.bind_eq_some_iff.1 hfind
    exact ⟨⟨k, BiMap.get_eq_some_iff.1 hget⟩, hname⟩

/-- What is in the store after a call was there before, or has the id that was next. -/
theorem Invariant.mem_perform (h : s.Invariant) (hlt : s.drawn.length < 2 ^ 32) {c : Call}
    (hc : c.Named) {e : BitVec 32 × UserObject} (he : e ∈ (s.perform c).dao.db.entries) :
    e ∈ s.dao.db.entries ∨ e.1 ∉ s.drawn ∧ e.1 ∈ (s.perform c).drawn := by
  have hdrawn : e.1 ∈ (s.perform c).drawn :=
    ((invariant_perform hc h).isAccount e he).mem_drawn
  have heffect : Effect s.dao (c.perform s.dao) := effect_perform hc
  have hmem : e ∈ (c.perform s.dao).2.db.entries := he
  rcases hr : c.perform s.dao with ⟨r, dao⟩
  rw [hr] at heffect hmem
  cases heffect with
  | unchanged _ hclash => exact Or.inl hmem
  | removed db hsub => exact Or.inl (hsub e hmem)
  | added v hid hname hnew db hput =>
    obtain ⟨db', hput', hentries⟩ := BiMap.exists_put (k := s.dao.idCounter) hnew
    obtain rfl : db = db' := Option.some.inj (hput.symm.trans hput')
    rcases hentries e hmem with rfl | hold
    · exact Or.inr ⟨h.counter_not_mem hlt, hdrawn⟩
    · exact Or.inl hold

theorem Invariant.represents (h : s.Invariant) (hlt : s.drawn.length < 2 ^ 32) :
    Represents s where
  key_id id u hu := (h.isAccount _ (findByID_eq_some_iff.1 hu)).id_eq
  named u hu := by
    obtain ⟨k, hk⟩ := BiMap.mem_values.1 hu
    exact (h.isAccount _ hk).named
  usernames_nodup := BiMap.values_nodup
  drawn_nodup := h.drawn_nodup (Nat.le_of_lt hlt)
  key_drawn id u hu := (h.isAccount _ (findByID_eq_some_iff.1 hu)).mem_drawn
  drawn_mono _ _ h := mem_drawn_perform h
  new_id c hc id u hu := by
    rw [findByID_eq_some_iff] at hu ⊢
    exact h.mem_perform hlt hc hu
  lookups username u := h.findByName_eq_some_iff
  failed c hc hne := by
    have heffect : Effect s.dao (c.perform s.dao) := effect_perform hc
    generalize c.perform s.dao = r at heffect hne
    cases heffect with
    | unchanged _ hclash => rfl
    | removed db hsub => exact absurd rfl hne
    | added v hid hname hnew db hput => exact absurd rfl hne
  no_clash c hc message := by
    have heffect : Effect s.dao (c.perform s.dao) := effect_perform hc
    generalize c.perform s.dao = r at heffect
    cases heffect with
    | unchanged _ hclash => exact hclash message
    | removed db hsub => exact fun h ↦ by cases h
    | added v hid hname hnew db hput => exact fun h ↦ by cases h

end History

/-- **The store represents a set of accounts all along**, while accounts have names and fewer than
`2 ^ 32` ids have been drawn. -/
theorem representation_sound (uuid : ℕ → String) (xs : List Event) (hxs : ∀ x ∈ xs, x.Named)
    (hdrawn : (Machine.run History.step (History.start uuid) xs).drawn.length < 2 ^ 32) :
    (Machine.run History.step (History.start uuid) xs).Represents :=
  (History.invariant_run uuid hxs).represents hdrawn

/-- A name that is deleted and signed up again. -/
def recreation : List Event :=
  [.call (.addNewUserOf (some "alice") (some "pw") (some "a@example.com")),
    .call (.deleteUser ⟨none, some "alice", none, none, none⟩),
    .call (.addNewUser ⟨some "alice", some "b@example.com", some "pw2"⟩),
    .call (.updateUser (testuser 4 "Testuser" []))]

theorem representation_sound_recreation :
    (Machine.run History.step (History.start fun _ ↦ "p") recreation).Represents :=
  representation_sound _ recreation (by decide +kernel) (by decide +kernel)

end MapUserDAO

end DseAuth
