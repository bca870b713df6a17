import DseAuth.Service.Schedule
import DseAuth.Service.Twins

/-!
# When the two implementations agree

`mapUserDAO` and `UserDAO` start with the same accounts and are given the same calls. They do not
agree on all of them: an update never reaches the map, `UserDAO` does not look up the name that one
of its two methods `addNewUser` is given, it does not notice a missing account before the commit,
and where a name has been taken again the map deletes the new account for a copy of the old one. A
null name is one that nobody has for the map, and an exception for `UserDAO`.

`Twins.Safe` says on which calls they agree, in terms of the accounts that are stored when the call
is made, and **`agree_iff`** that the two agree all along exactly when every call is safe. The
invariant of the runs that are safe is `Twins.Linked`.
-/

namespace DseAuth.Twins

/-- Both can add a new user: the database accepts its row, and the map has an id for it that it has
never given to another. -/
def CanAdd (s : Twins) (username password email : Option String) : Prop :=
  (∃ r, CanInsert s.db username password email r) ∧ ∀ e ∈ s.ids.entries, e.1 ≠ s.dao.idCounter

/-- There is nothing in `v` that its row does not have already: not the email, not the password, and
none of the privileges that were added to or removed from `v` since it was loaded. -/
def WritesNothing (r : UserRow) (v : User) : Prop :=
  v.email = r.email ∧ v.password = r.password ∧
    ∀ p, v.privileges.Changed p → (p ∈ r.privileges ↔ some p ∈ v.privileges.set)

/-- **A call on which the two agree.** -/
def Safe (s : Twins) : AbstractUserDAO.Call → Prop
  | .addNewUser newUser =>
    (∃ r ∈ s.db.rows, some r.username = newUser.username) ∨
      s.CanAdd newUser.username newUser.password newUser.email
  | .addNewUserOf username password email => s.CanAdd username password email
  | .deleteUser k _ => ∀ c, s.found[k]? = some c → ∃ r ∈ s.db.rows, r.id = c.2.id
  | .updateUser k edits => ∀ c, s.found[k]? = some c →
    ∃ r ∈ s.db.rows, r.id = c.2.id ∧ WritesNothing r (edits.foldl User.edit c.2)
  | .findByID key => key ≠ none
  | .findByName username => username ≠ none
  | .findAll => True

/-! ### The invariant -/

/-- A pair of records that was returned for one account, which may be gone or changed by now. -/
structure IsCopy (ρ : Renaming) (db : Database) (c : UserObject × User) : Prop where
  /-- The ids go together. -/
  id : ∃ m, c.1.id = some m ∧ (m, c.2.id) ∈ ρ.entries
  /-- The usernames are equal, -/
  username : c.1.username = some c.2.username
  /-- and the account has kept its own. -/
  kept : ∀ r ∈ db.rows, r.id = c.2.id → r.username = c.2.username

/-- What holds between the two stores. -/
structure Linked (s : Twins) : Prop where
  /-- They hold the same accounts, -/
  accounts : SameAccounts s.ids s.dao s.db
  /-- which the map keeps under their ids. -/
  key_id : ∀ e ∈ s.dao.db.entries, e.2.id = some e.1
  /-- The ids that have been renamed come from the sequence. -/
  issued : ∀ e ∈ s.ids.entries, e.2 < s.db.sequence
  /-- What has been found are copies. -/
  copies : ∀ c ∈ s.found, IsCopy s.ids s.db c

variable {ρ ρ' : Renaming} {s : Twins} {env : Environment} {u : UserObject} {v : User} {r : UserRow}
  {m : BitVec 32} {d : ℤ} {username password email : Option String}

theorem isCopy_of_sameRecord {db : Database} (hr : r ∈ db.rows) (h : SameRecord ρ u r.load) :
    IsCopy ρ db (u, r.load) where
  id := h.id
  username := h.username
  kept q hq hid := by
    rw [db.consistent.eq_of_id hq hr hid]
    rfl

theorem IsCopy.of_le {db db' : Database} {c : UserObject × User} (h : IsCopy ρ db c)
    (hsub : ∀ e ∈ ρ.entries, e ∈ ρ'.entries) (hissued : ∀ e ∈ ρ.entries, e.2 < db.sequence)
    (hle : db ≤ db') : IsCopy ρ' db' c := by
  obtain ⟨m, hm, hid⟩ := h.id
  refine ⟨⟨m, hm, hsub _ hid⟩, h.username, fun r' hr' hid' ↦ ?_⟩
  have hlt : r'.id < db.sequence := hid' ▸ hissued _ hid
  obtain ⟨r, hr, hrid, hrname⟩ := hle.2 r' hr' hlt
  exact hrname ▸ h.kept r hr (hrid.trans hid')

namespace Linked

theorem exists_row (h : s.Linked) (hu : (m, u) ∈ s.dao.db.entries) :
    ∃ r ∈ s.db.rows, (m, r.id) ∈ s.ids.entries ∧ SameRecord s.ids u r.load := by
  obtain ⟨r, hr, hsame⟩ := (sameAccounts_iff.1 h.accounts).1 u (BiMap.mem_values.2 ⟨m, hu⟩)
  obtain ⟨m', hm', hid⟩ := hsame.id
  obtain rfl : m' = m := Option.some.inj (hm'.symm.trans (h.key_id _ hu))
  exact ⟨r, hr, hid, hsame⟩

theorem exists_entry (h : s.Linked) (hr : r ∈ s.db.rows) :
    ∃ m u, (m, u) ∈ s.dao.db.entries ∧ (m, r.id) ∈ s.ids.entries ∧ SameRecord s.ids u r.load := by
  obtain ⟨u, hu, hsame⟩ := (sameAccounts_iff.1 h.accounts).2 r hr
  obtain ⟨m, hm⟩ := BiMap.mem_values.1 hu
  obtain ⟨m', hm', hid⟩ := hsame.id
  obtain rfl : m' = m := Option.some.inj (hm'.symm.trans (h.key_id _ hm))
  exact ⟨m', u, hm, hid, hsame⟩

/-- The account of the map that goes with a row. -/
theorem entry_of_id (h : s.Linked) (hr : r ∈ s.db.rows) (hid : (m, r.id) ∈ s.ids.entries) :
    ∃ u, (m, u) ∈ s.dao.db.entries ∧ SameRecord s.ids u r.load := by
  obtain ⟨m', u, hu, hid', hsame⟩ := h.exists_entry hr
  obtain rfl : m' = m := congrArg Prod.fst (BiMap.eq_of_label hid' hid rfl)
  exact ⟨u, hu, hsame⟩

/-- The row that goes with an account of the map. -/
theorem row_of_id (h : s.Linked) (hu : (m, u) ∈ s.dao.db.entries) (hid : (m, d) ∈ s.ids.entries) :
    ∃ r ∈ s.db.rows, r.id = d ∧ SameRecord s.ids u r.load := by
  obtain ⟨r, hr, hid', hsame⟩ := h.exists_row hu
  exact ⟨r, hr, congrArg Prod.snd (BiMap.eq_of_key hid' hid rfl), hsame⟩

theorem named (h : s.Linked) : ∀ w ∈ s.dao.db.values, w.username ≠ none := by
  intro w hw
  obtain ⟨m, hm⟩ := BiMap.mem_values.1 hw
  obtain ⟨r, -, -, hsame⟩ := h.exists_row hm
  exact hsame.username ▸ Option.some_ne_none _

/-- A name is taken in both or in neither. -/
theorem taken_iff (h : s.Linked) :
    (∃ w ∈ s.dao.db.values, w.username = username) ↔
      ∃ r ∈ s.db.rows, some r.username = username := by
  constructor
  · intro hw
    obtain ⟨w, hmem, hname⟩ := hw
    obtain ⟨m, hm⟩ := BiMap.mem_values.1 hmem
    obtain ⟨r, hr, -, hsame⟩ := h.exists_row hm
    exact ⟨r, hr, hsame.username.symm.trans hname⟩
  · intro hr
    obtain ⟨r, hmem, hname⟩ := hr
    obtain ⟨m, u, hu, -, hsame⟩ := h.exists_entry hmem
    exact ⟨u, BiMap.mem_values.2 ⟨m, hu⟩, hsame.username.trans hname⟩

/-- After a call that changes one of the stores. -/
theorem of_le (h : s.Linked) {dao : MapUserDAO} {db : Database}
    (haccounts : SameAccounts ρ dao db) (hkey : ∀ e ∈ dao.db.entries, e.2.id = some e.1)
    (hissued : ∀ e ∈ ρ.entries, e.2 < db.sequence) (hsub : ∀ e ∈ s.ids.entries, e ∈ ρ.entries)
    (hle : s.db ≤ db) : Linked ⟨dao, db, ρ, s.found ++ []⟩ where
  accounts := haccounts
  key_id := hkey
  issued := hissued
  copies c hc := by
    rw [List.append_nil] at hc
    exact (h.copies c hc).of_le hsub h.issued hle

/-- After a call that has found something. -/
theorem of_found (h : s.Linked) {found : List (UserObject × User)}
    (hfound : ∀ c ∈ found, IsCopy s.ids s.db c) :
    Linked ⟨s.dao, s.db, s.ids, s.found ++ found⟩ where
  accounts := h.accounts
  key_id := h.key_id
  issued := h.issued
  copies c hc := by
    rcases List.mem_append.1 hc with hc | hc
    · exact h.copies c hc
    · exact hfound c hc

/-- After a call that has changed nothing and found nothing. -/
theorem unchanged (h : s.Linked) : Linked ⟨s.dao, s.db, s.ids, s.found ++ []⟩ :=
  h.of_found fun _ hc ↦ absurd hc List.not_mem_nil

/-! ### Lookups -/

/-- A lookup by name in the map finds the record of a row, or there is no such row. -/
theorem map_findByName (h : s.Linked) (username : Option String) :
    (∃ u, ∃ r ∈ s.db.rows, some r.username = username ∧ SameRecord s.ids u r.load ∧
        s.dao.findByName username = .ok (some u)) ∨
      (∀ r ∈ s.db.rows, some r.username ≠ username) ∧ s.dao.findByName username = .ok none := by
  by_cases htaken : ∃ r ∈ s.db.rows, some r.username = username
  · obtain ⟨r, hr, rfl⟩ := htaken
    obtain ⟨m, u, hu, -, hsame⟩ := h.exists_entry hr
    refine Or.inl ⟨u, r, hr, rfl, hsame, ?_⟩
    exact (MapUserDAO.findByName_eq_some_iff h.named).2 ⟨BiMap.mem_values.2 ⟨m, hu⟩, hsame.username⟩
  · refine Or.inr ⟨fun r hr hname ↦ htaken ⟨r, hr, hname⟩, ?_⟩
    refine MapUserDAO.findEntry_eq_ok_none_iff.2 fun w hw ↦ ⟨h.named w hw, fun hname ↦ ?_⟩
    exact htaken (h.taken_iff.1 ⟨w, hw, hname⟩)

/-- A null is no name of the map, while the database does not even look for it. -/
theorem map_findByName_none (h : s.Linked) : s.dao.findByName none = .ok none := by
  obtain ⟨_, _, _, hname, _⟩ | ⟨-, hfree⟩ := h.map_findByName none
  · cases hname
  · exact hfree

/-- A lookup by name finds the two records of one account, or none in either. -/
theorem findByName (h : s.Linked) (hlookup : env.lookupFails = false) (name : String) :
    (∃ u, ∃ r ∈ s.db.rows, r.username = name ∧ SameRecord s.ids u r.load ∧
        s.dao.findByName (some name) = .ok (some u) ∧
          UserDAO.findByName env (some name) (Session.openSession s.db) = .ok (some r.load)) ∨
      (∀ r ∈ s.db.rows, r.username ≠ name) ∧ s.dao.findByName (some name) = .ok none ∧
        UserDAO.findByName env (some name) (Session.openSession s.db) = .ok none := by
  obtain ⟨u, r, hr, hname, hsame, hmap⟩ | ⟨hfree, hmap⟩ := h.map_findByName (some name)
  · obtain rfl := Option.some.inj hname
    exact Or.inl ⟨u, r, hr, rfl, hsame, hmap, UserDAO.findByName_openSession_of_mem hlookup hr⟩
  · have hno : ∀ r ∈ s.db.rows, r.username ≠ name := fun r hr hname ↦
      hfree r hr (congrArg some hname)
    refine Or.inr ⟨hno, hmap, ?_⟩
    rw [UserDAO.findByName_some, hlookup, if_neg Bool.false_ne_true,
      Database.byUsername_eq_none_iff.2 hno]
    rfl

/-- A lookup by ids that go together, or are unknown, likewise. -/
theorem findByID (h : s.Linked) (hlookup : env.lookupFails = false)
    (hkey : (m, d) ∈ s.ids.entries ∨ ∀ e ∈ s.ids.entries, e.1 ≠ m ∧ e.2 ≠ d) :
    (∃ u, ∃ r ∈ s.db.rows, SameRecord s.ids u r.load ∧ s.dao.findByID (some m) = some u ∧
        UserDAO.findByID env (some d) (Session.openSession s.db) = .ok (some r.load)) ∨
      s.dao.findByID (some m) = none ∧
        UserDAO.findByID env (some d) (Session.openSession s.db) = .ok none := by
  have hget : UserDAO.findByID env (some d) (Session.openSession s.db) =
      .ok ((s.db.byId d).map UserRow.load) := by
    rw [UserDAO.findByID, hlookup]
    rfl
  rcases hfind : s.dao.findByID (some m) with _ | u
  · refine Or.inr ⟨rfl, ?_⟩
    rcases hrow : s.db.byId d with _ | r
    · rw [hget, hrow]
      rfl
    · -- a row of the id would have its account in the map
      obtain ⟨hr, rfl⟩ := Database.byId_eq_some_iff.1 hrow
      obtain ⟨m', u, hu, hid, -⟩ := h.exists_entry hr
      obtain hkey | hunknown := hkey
      · obtain rfl : m' = m := congrArg Prod.fst (BiMap.eq_of_label hid hkey rfl)
        cases hfind.symm.trans (MapUserDAO.findByID_eq_some_iff.2 hu)
      · exact absurd rfl (hunknown _ hid).2
  · have hu : (m, u) ∈ s.dao.db.entries :=
      MapUserDAO.findByID_eq_some_iff.1 hfind
    obtain hkey | hunknown := hkey
    · obtain ⟨r, hr, rfl, hsame⟩ := h.row_of_id hu hkey
      refine Or.inl ⟨u, r, hr, hsame, rfl, ?_⟩
      rw [hget, Database.byId_eq_some_iff.2 ⟨hr, rfl⟩]
      rfl
    · obtain ⟨r, -, hid, -⟩ := h.exists_row hu
      exact absurd rfl (hunknown _ hid).1

end Linked

/-! ### One call -/

/-- What is to be shown of a call: that the two agree on it exactly when it is safe, and that a safe
call keeps the invariant. -/
structure Verdict (env : Environment) (s : Twins) (c : AbstractUserDAO.Call) : Prop where
  /-- When they agree. -/
  agrees_iff : s.Agrees env c ↔ s.Safe c
  /-- What is kept. -/
  linked : s.Safe c → (s.step env c).Linked

section

variable {c : AbstractUserDAO.Call} {a : Answer UserObject} {b : Answer User} {dao : MapUserDAO}
  {db : Database}

theorem step_eq (ha : s.onMap c = (a, dao)) (hb : s.onDatabase env c = (b, db)) :
    s.step env c = ⟨dao, db, s.idsAfter c a b, s.found ++ paired a b⟩ := by
  rw [step, ha, hb]

theorem agrees_iff_of_eq (ha : s.onMap c = (a, dao)) (hb : s.onDatabase env c = (b, db)) :
    s.Agrees env c ↔
      SameAnswer (s.idsAfter c a b) a b ∧ SameAccounts (s.idsAfter c a b) dao db := by
  rw [Agrees, step_eq ha hb, ha, hb]

theorem Verdict.of_safe (ha : s.onMap c = (a, dao)) (hb : s.onDatabase env c = (b, db))
    (hsafe : s.Safe c) (hanswer : SameAnswer (s.idsAfter c a b) a b)
    (hlinked : Linked ⟨dao, db, s.idsAfter c a b, s.found ++ paired a b⟩) : Verdict env s c where
  agrees_iff := by
    rw [agrees_iff_of_eq ha hb]
    exact iff_of_true ⟨hanswer, hlinked.accounts⟩ hsafe
  linked _ := step_eq ha hb ▸ hlinked

theorem Verdict.of_not_safe (ha : s.onMap c = (a, dao)) (hb : s.onDatabase env c = (b, db))
    (hsafe : ¬ s.Safe c)
    (hdiffer : SameAnswer (s.idsAfter c a b) a b → ¬ SameAccounts (s.idsAfter c a b) dao db) :
    Verdict env s c where
  agrees_iff := by
    rw [agrees_iff_of_eq ha hb]
    exact iff_of_false (fun h ↦ hdiffer h.1 h.2) hsafe
  linked h := absurd h hsafe

end

/-- The new account of the map and the new row are the same. -/
theorem sameRecord_of_canInsert {db : Database}
    (hinsert : CanInsert db username password email r) (hid : (m, db.sequence) ∈ ρ.entries) :
    SameRecord ρ ⟨some m, username, email, password, some ∅⟩ r.load := by
  refine ⟨⟨m, rfl, ?_⟩, hinsert.properties.1, hinsert.properties.2.2, hinsert.properties.2.1, ∅,
    rfl, fun p ↦ ?_⟩
  · show (m, r.id) ∈ ρ.entries
    rw [hinsert.id]
    exact hid
  · show p ∈ ∅ ↔ p ∈ (PersistentSet.load r.privileges).set
    rw [hinsert.privileges]
    rfl

/-- The map stores a new account where the database does. -/
theorem Linked.entries_of_put (h : s.Linked) (hinsert : CanInsert s.db username password email r)
    (hfresh : ∀ e ∈ s.ids.entries, e.1 ≠ s.dao.idCounter) (hname : u.username = username)
    {db : BiMap (BitVec 32) UserObject (Option String) UserObject.username}
    (hput : s.dao.db.put s.dao.idCounter u = some db) :
    db.entries = s.dao.db.entries ++ [(s.dao.idCounter, u)] := by
  have hkey : ∀ e ∈ s.dao.db.entries, e.1 ≠ s.dao.idCounter := by
    intro e he
    obtain ⟨q, -, hid, -⟩ := h.exists_row (m := e.1) (u := e.2) he
    exact hfresh _ hid
  have hother : ∀ e ∈ s.dao.db.entries, e.2.username ≠ u.username := by
    intro e he hsame
    obtain ⟨q, hq, hqname⟩ :=
      h.taken_iff.1 ⟨e.2, BiMap.mem_values.2 ⟨e.1, he⟩, hsame.trans hname⟩
    exact hinsert.free q hq (Option.some.inj (hqname.trans hinsert.properties.1))
  obtain ⟨db', hput', hentries⟩ := BiMap.put_of_new hkey hother
  obtain rfl : db = db' := Option.some.inj (hput.symm.trans hput')
  exact hentries

/-- After both have added a user. -/
theorem Linked.added (h : s.Linked) (hinsert : CanInsert s.db username password email r)
    (hfresh : ∀ e ∈ s.ids.entries, e.1 ≠ s.dao.idCounter)
    {db : BiMap (BitVec 32) UserObject (Option String) UserObject.username} {d : Database}
    (hput : s.dao.db.put s.dao.idCounter
      ⟨some s.dao.idCounter, username, email, password, some ∅⟩ = some db)
    (hrows : d.rows = s.db.rows ++ [r]) (hseq : d.sequence = s.db.sequence + 1) :
    Linked ⟨⟨db, s.dao.idCounter + 1⟩, d, s.ids.extend s.dao.idCounter s.db.sequence,
      s.found ++ []⟩ := by
  let u : UserObject := ⟨some s.dao.idCounter, username, email, password, some ∅⟩
  have hids : ∀ e, e ∈ (s.ids.extend s.dao.idCounter s.db.sequence).entries ↔
      e ∈ s.ids.entries ∨ e = (s.dao.idCounter, s.db.sequence) := fun e ↦
    Renaming.mem_extend hfresh fun e he ↦ (h.issued e he).ne
  have hsub : ∀ e ∈ s.ids.entries, e ∈ (s.ids.extend s.dao.idCounter s.db.sequence).entries :=
    fun e he ↦ (hids e).2 (Or.inl he)
  have hentries : db.entries = s.dao.db.entries ++ [(s.dao.idCounter, u)] :=
    h.entries_of_put hinsert hfresh rfl hput
  have hrecord : SameRecord (s.ids.extend s.dao.idCounter s.db.sequence) u r.load :=
    sameRecord_of_canInsert hinsert ((hids _).2 (Or.inr rfl))
  refine h.of_le (sameAccounts_iff.2 ⟨fun w hw ↦ ?_, fun q hq ↦ ?_⟩) (fun e he ↦ ?_)
    (fun e he ↦ ?_) hsub (Database.le_of_append hrows hinsert.id (by omega))
  · obtain ⟨k, hk⟩ := BiMap.mem_values.1 hw
    have hk : (k, w) ∈ s.dao.db.entries ++ [(s.dao.idCounter, u)] := hentries ▸ hk
    rw [hrows]
    rcases List.mem_append.1 hk with hold | hnew
    · obtain ⟨q, hq, -, hsame⟩ := h.exists_row hold
      exact ⟨q, List.mem_append_left _ hq, hsame.mono hsub⟩
    · obtain rfl : w = u := congrArg Prod.snd (List.mem_singleton.1 hnew)
      exact ⟨r, List.mem_append_right _ (List.mem_singleton_self r), hrecord⟩
  · rw [hrows] at hq
    have hvalues : db.values = s.dao.db.values ++ [u] := by
      rw [BiMap.values, hentries, List.map_append]
      rfl
    show ∃ w ∈ db.values, _
    rw [hvalues]
    rcases List.mem_append.1 hq with hold | hnew
    · obtain ⟨k, w, hw, -, hsame⟩ := h.exists_entry hold
      exact ⟨w, List.mem_append_left _ (BiMap.mem_values.2 ⟨k, hw⟩), hsame.mono hsub⟩
    · obtain rfl := List.mem_singleton.1 hnew
      exact ⟨u, List.mem_append_right _ (List.mem_singleton_self u), hrecord⟩
  · have he : e ∈ s.dao.db.entries ++ [(s.dao.idCounter, u)] := hentries ▸ he
    rcases List.mem_append.1 he with hold | hnew
    · exact h.key_id e hold
    · obtain rfl := List.mem_singleton.1 hnew
      rfl
  · obtain hold | rfl := (hids e).1 he
    · have hlt := h.issued e hold
      omega
    · show s.db.sequence < d.sequence
      omega

/-- **A new user whose name is free.** The map always adds it. -/
theorem Linked.add (h : s.Linked) (henv : env.Stores) (username password email : Option String)
    (hfree : s.dao.findByName username = .ok none) :
    ∃ dao, s.dao.addUser username password email = (.ok true, dao) ∧
      (s.CanAdd username password email ∧
          (∃ db, transact env (UserDAO.persistNullable env username password email) s.db =
              (.ok true, db) ∧
            Linked ⟨dao, db, s.ids.extend s.dao.idCounter s.db.sequence, s.found ++ []⟩) ∨
        ¬ s.CanAdd username password email ∧
          ∃ r db, transact env (UserDAO.persistNullable env username password email) s.db =
              (r, db) ∧
            (r = .error .persistence ∨ r = .ok true ∧
              ¬ SameAccounts (s.ids.extend s.dao.idCounter s.db.sequence) dao db)) := by
  have hattempt := MapUserDAO.addUser_attempt s.dao username password email
  generalize s.dao.addUser username password email = result at hattempt
  cases hattempt with
  | failed w hmem hnull => exact absurd hnull (h.named w hmem)
  | taken w hfound => cases hfree.symm.trans hfound
  | added db hfree' hput =>
    refine ⟨_, rfl, ?_⟩
    have heffect := transact_persistNullable henv s.db username password email
    generalize transact env (UserDAO.persistNullable env username password email) s.db = result'
      at heffect
    cases heffect with
    | stored r hinsert d hrows hseq =>
      by_cases hfresh : ∀ e ∈ s.ids.entries, e.1 ≠ s.dao.idCounter
      · exact Or.inl ⟨⟨⟨r, hinsert⟩, hfresh⟩, d, rfl, h.added hinsert hfresh hput hrows hseq⟩
      · refine Or.inr ⟨fun hcan ↦ hfresh hcan.2, _, d, rfl, Or.inr ⟨rfl, fun hsame ↦ ?_⟩⟩
        -- the new row has an id that no account of the map can go with
        rw [Renaming.extend_of_used hfresh] at hsame
        have hr : r ∈ d.rows := hrows ▸ List.mem_append_right _ (List.mem_singleton_self r)
        obtain ⟨u, -, hrecord⟩ := (sameAccounts_iff.1 hsame).2 r hr
        obtain ⟨m, -, hid⟩ := hrecord.id
        exact absurd hinsert.id (h.issued _ hid).ne
    | failed hcannot d hrows hseq =>
      refine Or.inr ⟨fun hcan ↦ ?_, _, d, rfl, Or.inl rfl⟩
      obtain ⟨⟨r, hr⟩, -⟩ := hcan
      exact hcannot r hr

/-- A call that comes to adding a user whose name is free. -/
theorem Linked.verdict_add (h : s.Linked) (henv : env.Stores) {c : AbstractUserDAO.Call}
    (hfree : s.dao.findByName username = .ok none)
    (hmap : s.onMap c = (s.dao.addUser username password email).map .done id)
    (hdatabase : s.onDatabase env c =
      (transact env (UserDAO.persistNullable env username password email) s.db).map .done id)
    (hids : s.idsAfter c (.done (.ok true)) (.done (.ok true)) =
      s.ids.extend s.dao.idCounter s.db.sequence)
    (hsafe : s.Safe c ↔ s.CanAdd username password email) : Verdict env s c := by
  obtain ⟨dao, hleft, ⟨hcan, db, hright, hlinked⟩ | ⟨hcannot, result, db, hright, hresult⟩⟩ :=
    h.add henv username password email hfree
  · have ha : s.onMap c = (.done (.ok true), dao) := by rw [hmap, hleft]; rfl
    have hb : s.onDatabase env c = (.done (.ok true), db) := by rw [hdatabase, hright]; rfl
    refine .of_safe ha hb (hsafe.2 hcan) rfl ?_
    rw [hids]
    exact hlinked
  · have ha : s.onMap c = (.done (.ok true), dao) := by rw [hmap, hleft]; rfl
    have hb : s.onDatabase env c = (.done result, db) := by rw [hdatabase, hright]; rfl
    refine .of_not_safe ha hb (fun h ↦ hcannot (hsafe.1 h)) fun hanswer ↦ ?_
    obtain rfl | ⟨rfl, hdiffer⟩ := hresult
    · exact hanswer.elim
    · rw [hids]
      exact hdiffer

theorem verdict_addNewUserOf (h : s.Linked) (henv : env.Stores)
    (username password email : Option String) :
    Verdict env s (.addNewUserOf username password email) := by
  obtain ⟨u, r, hr, hname, -, hmap⟩ | ⟨-, hfree⟩ := h.map_findByName username
  · -- the map refuses the name, the database the row
    have hleft : s.dao.addUser username password email =
        (.error (.illegalCredentials "Username already in use!"), s.dao) := by
      rw [MapUserDAO.addUser, hmap]
    have ha : s.onMap (.addNewUserOf username password email) =
        (.done (.error (.illegalCredentials "Username already in use!")), s.dao) :=
      congrArg (Prod.map Answer.done id) hleft
    have hcannot : ∀ q, ¬ CanInsert s.db username password email q := by
      intro q hq
      exact hq.free r hr (Option.some.inj (hname.trans hq.properties.1))
    have heffect := transact_persistNullable henv s.db username password email
    rcases hright : transact env (UserDAO.persistNullable env username password email) s.db
      with ⟨result, db⟩
    have hb : s.onDatabase env (.addNewUserOf username password email) = (.done result, db) :=
      congrArg (Prod.map Answer.done id) hright
    rw [hright] at heffect
    refine .of_not_safe ha hb (fun hsafe ↦ ?_) fun hanswer ↦ ?_
    · obtain ⟨⟨q, hq⟩, -⟩ := hsafe
      exact absurd hq (hcannot q)
    · cases heffect with
      | stored q hinsert => exact absurd hinsert (hcannot q)
      | failed =>
        obtain ⟨message, hmessage⟩ := hanswer.1 ⟨_, rfl⟩
        cases hmessage
  · exact h.verdict_add henv hfree rfl rfl rfl Iff.rfl

/-- A sign-up without a name: the map stores it, and the database does not look the name up. -/
theorem verdict_addNewUser_none (h : s.Linked) (henv : env.Stores)
    (email password : Option String) :
    Verdict env s (.addNewUser ⟨none, email, password⟩) := by
  obtain ⟨dao, hleft, -⟩ := h.add henv none password email h.map_findByName_none
  have hmethod : UserDAO.addNewUser env ⟨none, email, password⟩ (Session.openSession s.db) =
      (.error .hibernate, Session.openSession s.db) := by
    rw [UserDAO.addNewUser, UserDAO.findByName_none]
  have ha : s.onMap (.addNewUser ⟨none, email, password⟩) = (.done (.ok true), dao) :=
    congrArg (Prod.map Answer.done id) hleft
  have hb : s.onDatabase env (.addNewUser ⟨none, email, password⟩) =
      (.done (.error .hibernate), s.db) :=
    congrArg (Prod.map Answer.done id) (transact_of_error hmethod)
  refine .of_not_safe ha hb (fun hsafe ↦ ?_) fun hanswer ↦ hanswer.elim
  obtain ⟨r, -, hname⟩ | ⟨⟨r, hr⟩, -⟩ := hsafe
  · cases hname
  · cases hr.properties.1

theorem verdict_addNewUser (h : s.Linked) (henv : env.Stores) (newUser : SignUpUser) :
    Verdict env s (.addNewUser newUser) := by
  rcases newUser with ⟨_ | name, email, password⟩
  · exact verdict_addNewUser_none h henv email password
  obtain ⟨u, r, hr, hname, -, hmap, hdb⟩ | ⟨hno, hfree, hdb⟩ := h.findByName henv.lookup name
  · have hleft : s.dao.addNewUser ⟨some name, email, password⟩ =
        (.error (.illegalCredentials "Username already in use!"), s.dao) := by
      rw [MapUserDAO.addNewUser, MapUserDAO.addUser, hmap]
    have hmethod :
        UserDAO.addNewUser env ⟨some name, email, password⟩ (Session.openSession s.db) =
          (.error (.illegalCredentials "Username already in use!"), Session.openSession s.db) := by
      rw [UserDAO.addNewUser, hdb]
    have ha : s.onMap (.addNewUser ⟨some name, email, password⟩) =
        (.done (.error (.illegalCredentials "Username already in use!")), s.dao) :=
      congrArg (Prod.map Answer.done id) hleft
    have hb : s.onDatabase env (.addNewUser ⟨some name, email, password⟩) =
        (.done (.error (.illegalCredentials "Username already in use!")), s.db) :=
      congrArg (Prod.map Answer.done id) (transact_of_error hmethod)
    exact .of_safe ha hb (Or.inl ⟨r, hr, congrArg some hname⟩) Iff.rfl h.unchanged
  · have hmethod :
        UserDAO.addNewUser env ⟨some name, email, password⟩ (Session.openSession s.db) =
          UserDAO.persistNullable env (some name) password email (Session.openSession s.db) := by
      rw [UserDAO.addNewUser, hdb]
    have hsame : transact env (UserDAO.addNewUser env ⟨some name, email, password⟩) s.db =
        transact env (UserDAO.persistNullable env (some name) password email) s.db :=
      transact_congr hmethod
    have hsafe : s.Safe (.addNewUser ⟨some name, email, password⟩) ↔
        s.CanAdd (some name) password email := by
      refine or_iff_right fun htaken ↦ ?_
      obtain ⟨r, hr, hname⟩ := htaken
      exact hno r hr (Option.some.inj hname)
    exact h.verdict_add henv hfree rfl (congrArg (Prod.map Answer.done id) hsame) rfl hsafe

theorem verdict_findByName (h : s.Linked) (henv : env.Stores) (username : Option String) :
    Verdict env s (.findByName username) := by
  have hright : transact env (reading (UserDAO.findByName env username)) s.db =
      (UserDAO.findByName env username (Session.openSession s.db), s.db) :=
    transact_reading_of_commits _ henv.commit
  rcases username with _ | name
  · have ha : s.onMap (.findByName none) = (.one (.ok none), s.dao) := by
      rw [onMap, h.map_findByName_none]
    have hb : s.onDatabase env (.findByName none) = (.one (.error .hibernate), s.db) := by
      rw [onDatabase, hright, UserDAO.findByName_none]
      rfl
    exact .of_not_safe ha hb (fun hsafe ↦ hsafe rfl) fun hanswer ↦ hanswer.elim
  have hsafe : s.Safe (.findByName (some name)) := Option.some_ne_none name
  obtain ⟨u, r, hr, -, hsame, hmap, hdb⟩ | ⟨-, hmap, hdb⟩ := h.findByName henv.lookup name
  · have ha : s.onMap (.findByName (some name)) = (.one (.ok (some u)), s.dao) := by
      rw [onMap, hmap]
    have hb : s.onDatabase env (.findByName (some name)) = (.one (.ok (some r.load)), s.db) := by
      rw [onDatabase, hright, hdb]
      rfl
    refine .of_safe ha hb hsafe hsame (h.of_found fun c hc ↦ ?_)
    obtain rfl := List.mem_singleton.1 hc
    exact isCopy_of_sameRecord hr hsame
  · have ha : s.onMap (.findByName (some name)) = (.one (.ok none), s.dao) := by rw [onMap, hmap]
    have hb : s.onDatabase env (.findByName (some name)) = (.one (.ok none), s.db) := by
      rw [onDatabase, hright, hdb]
      rfl
    exact .of_safe ha hb hsafe trivial h.unchanged

theorem verdict_findByID (h : s.Linked) (henv : env.Stores) {key : Option (BitVec 32 × ℤ)}
    (hadmits : s.Admits (.findByID key)) : Verdict env s (.findByID key) := by
  have hright : transact env (reading (UserDAO.findByID env (key.map Prod.snd))) s.db =
      (UserDAO.findByID env (key.map Prod.snd) (Session.openSession s.db), s.db) :=
    transact_reading_of_commits _ henv.commit
  rcases key with _ | ⟨m, d⟩
  · have hb : s.onDatabase env (.findByID none) =
        (.one (.error (.illegalArgument "id to load is required for loading")), s.db) := by
      rw [onDatabase, hright]
      rfl
    refine .of_not_safe rfl hb (fun hsafe ↦ hsafe rfl) fun hanswer ↦ ?_
    exact hanswer.elim
  · have hsafe : s.Safe (.findByID (some (m, d))) := Option.some_ne_none _
    obtain ⟨u, r, hr, hsame, hmap, hdb⟩ | ⟨hmap, hdb⟩ := h.findByID henv.lookup hadmits
    · have ha : s.onMap (.findByID (some (m, d))) = (.one (.ok (some u)), s.dao) := by
        rw [onMap, Option.map_some, hmap]
      have hb : s.onDatabase env (.findByID (some (m, d))) = (.one (.ok (some r.load)), s.db) := by
        rw [onDatabase, hright, Option.map_some, hdb]
        rfl
      refine .of_safe ha hb hsafe hsame (h.of_found fun c hc ↦ ?_)
      obtain rfl := List.mem_singleton.1 hc
      exact isCopy_of_sameRecord hr hsame
    · have ha : s.onMap (.findByID (some (m, d))) = (.one (.ok none), s.dao) := by
        rw [onMap, Option.map_some, hmap]
      have hb : s.onDatabase env (.findByID (some (m, d))) = (.one (.ok none), s.db) := by
        rw [onDatabase, hright, Option.map_some, hdb]
        rfl
      exact .of_safe ha hb hsafe trivial h.unchanged

theorem verdict_findAll (h : s.Linked) (henv : env.Stores) : Verdict env s .findAll := by
  have hall : UserDAO.findAll env (Session.openSession s.db) =
      .ok (s.db.rows.map UserRow.load) := by
    rw [UserDAO.findAll, henv.lookup]
    rfl
  have hright : transact env (reading (UserDAO.findAll env)) s.db =
      (.ok (s.db.rows.map UserRow.load), s.db) := by
    rw [transact_reading_of_commits _ henv.commit, hall]
  have hb : s.onDatabase env .findAll = (.all (.ok (s.db.rows.map UserRow.load)), s.db) :=
    congrArg (Prod.map Answer.all id) hright
  refine .of_safe rfl hb trivial h.accounts (h.of_found fun c hc ↦ ?_)
  -- two records of one name belong to one account
  obtain ⟨u, hu, hpair⟩ := List.mem_flatMap.1 hc
  obtain ⟨v, hv, rfl⟩ := List.mem_map.1 hpair
  obtain ⟨hmem, hname⟩ := List.mem_filter.1 hv
  obtain ⟨r, hr, rfl⟩ := List.mem_map.1 hmem
  obtain ⟨q, hq, hsame⟩ := (sameAccounts_iff.1 h.accounts).1 u hu
  have hqr : q.username = r.username := by
    have hqname : u.username = some q.username := hsame.username
    have hrname : u.username = some r.username := of_decide_eq_true hname
    exact Option.some.inj (hqname.symm.trans hrname)
  obtain rfl := s.db.consistent.eq_of_username hq hr hqr
  exact isCopy_of_sameRecord hq hsame

/-! ### Calls with a copy -/

/-- A copy that has been edited, as it is passed in. -/
theorem IsCopy.edited {db : Database} {c : UserObject × User} (h : IsCopy ρ db c)
    (edits : List Edit) :
    IsCopy ρ db (edits.foldl UserObject.edit c.1, edits.foldl User.edit c.2) := by
  obtain ⟨huid, huname⟩ := UserObject.foldl_edit c.1 edits
  obtain ⟨hvid, hvname⟩ := User.foldl_edit c.2 edits
  refine ⟨?_, ?_, fun r hr hid ↦ ?_⟩
  · rw [huid, hvid]
    exact h.id
  · rw [huname, hvname]
    exact h.username
  · rw [hvname]
    exact h.kept r hr (hid.trans hvid)

/-- The account that goes with a copy, while its row is there. -/
theorem Linked.entry_of_copy (h : s.Linked) (hcopy : IsCopy s.ids s.db (u, v))
    (hr : r ∈ s.db.rows) (hid : r.id = v.id) :
    ∃ m w, u.id = some m ∧ (m, w) ∈ s.dao.db.entries ∧ SameRecord s.ids w r.load ∧
      w.username = u.username := by
  obtain ⟨m, hm, hpair⟩ := hcopy.id
  obtain ⟨w, hw, hsame⟩ := h.entry_of_id hr (hid.symm ▸ hpair)
  have hname : r.username = v.username := hcopy.kept r hr hid
  have hwname : w.username = some r.username := hsame.username
  exact ⟨m, w, hm, hw, hsame, hwname.trans ((congrArg some hname).trans hcopy.username.symm)⟩

/-- After both have deleted an account. -/
theorem Linked.deleted (h : s.Linked) (hcopy : IsCopy s.ids s.db (u, v)) (hr : r ∈ s.db.rows)
    (hid : r.id = v.id) {d : Database} (hdelete : s.db.delete v = some d) :
    Linked ⟨⟨(s.dao.db.removeValue u).2, s.dao.idCounter⟩, d, s.ids, s.found ++ []⟩ := by
  obtain ⟨m, w, -, hw, hsame, hname⟩ := h.entry_of_copy hcopy hr hid
  have hwname : w.username = some r.username := hsame.username
  obtain ⟨-, -, hseq⟩ := Database.delete_eq_some_iff.1 hdelete
  refine h.of_le (sameAccounts_iff.2 ⟨fun w' hw' ↦ ?_, fun q hq ↦ ?_⟩)
    (fun e he ↦ h.key_id e (BiMap.mem_removeValue.1 he).1)
    (fun e he ↦ lt_of_lt_of_eq (h.issued e he) hseq.symm) (fun _ he ↦ he)
    (Database.le_of_delete hdelete)
  · obtain ⟨k, hk⟩ := BiMap.mem_values.1 hw'
    obtain ⟨hmem, hother⟩ := BiMap.mem_removeValue.1 hk
    obtain ⟨q, hq, -, hsame'⟩ := h.exists_row hmem
    refine ⟨q, (Database.mem_delete_iff hdelete).2 ⟨hq, fun hqid ↦ ?_⟩, hsame'⟩
    -- the account of the row that goes has the name that goes
    obtain rfl := s.db.consistent.eq_of_id hq hr (hqid.trans hid.symm)
    have hw'name : w'.username = some q.username := hsame'.username
    exact hother (hw'name.trans (hwname.symm.trans hname))
  · obtain ⟨hmem, hother⟩ := (Database.mem_delete_iff hdelete).1 hq
    obtain ⟨k, w', hw', -, hsame'⟩ := h.exists_entry hmem
    refine ⟨w', BiMap.mem_values.2 ⟨k, BiMap.mem_removeValue.2 ⟨hw', fun hw'u ↦ ?_⟩⟩, hsame'⟩
    have hw'name : w'.username = some q.username := hsame'.username
    have hqr : some q.username = some r.username :=
      hw'name.symm.trans (hw'u.trans (hname.symm.trans hwname))
    obtain rfl := s.db.consistent.eq_of_username hmem hr (Option.some.inj hqr)
    exact hother hid

theorem verdict_deleteUser (h : s.Linked) (henv : env.Stores) (k : ℕ) (edits : List Edit) :
    Verdict env s (.deleteUser k edits) := by
  rcases hfound : s.found[k]? with _ | c
  · have ha : s.onMap (.deleteUser k edits) = (.skipped, s.dao) := by rw [onMap, hfound]
    have hb : s.onDatabase env (.deleteUser k edits) = (.skipped, s.db) := by
      rw [onDatabase, hfound]
    have hsafe : s.Safe (.deleteUser k edits) := fun c hc ↦
      absurd (hfound.symm.trans hc) (Option.some_ne_none c).symm
    exact .of_safe ha hb hsafe trivial h.unchanged
  · have hcopy := (h.copies c (List.mem_of_getElem? hfound)).edited edits
    have hvid := (User.foldl_edit c.2 edits).1
    have hright := transact_deleteUser henv (edits.foldl User.edit c.2) s.db
    by_cases hstored : ∃ r ∈ s.db.rows, r.id = c.2.id
    · obtain ⟨r, hr, hid⟩ := hstored
      have hid' := hid.trans hvid.symm
      obtain ⟨m, w, -, hw, hsame, hname⟩ := h.entry_of_copy hcopy hr hid'
      obtain ⟨d, hd⟩ := Database.exists_delete_iff.2 ⟨r, hr, hid'⟩
      have htrue : (s.dao.deleteUser (edits.foldl UserObject.edit c.1)).1 = .ok true :=
        MapUserDAO.deleteUser_eq_true_iff.2 ⟨_, hw, hname⟩
      have ha : s.onMap (.deleteUser k edits) = (.done (.ok true),
          ⟨(s.dao.db.removeValue (edits.foldl UserObject.edit c.1)).2, s.dao.idCounter⟩) := by
        rw [onMap, hfound]
        exact Prod.ext (congrArg Answer.done htrue) rfl
      have hb : s.onDatabase env (.deleteUser k edits) = (.done (.ok true), d) := by
        rw [onDatabase, hfound]
        dsimp only
        rw [hright, hd]
        rfl
      refine .of_safe ha hb (fun c' hc' ↦ ?_) rfl (h.deleted hcopy hr hid' hd)
      obtain rfl := Option.some.inj (hfound.symm.trans hc')
      exact ⟨r, hr, hid⟩
    · -- the row is gone, which only the commit notices
      have hnone : s.db.delete (edits.foldl User.edit c.2) = none := by
        by_contra hsome
        obtain ⟨d, hd⟩ := Option.ne_none_iff_exists'.1 hsome
        obtain ⟨r, hr, hid⟩ := Database.exists_delete_iff.1 ⟨d, hd⟩
        exact hstored ⟨r, hr, hid.trans hvid⟩
      have ha : s.onMap (.deleteUser k edits) =
          (s.dao.deleteUser (edits.foldl UserObject.edit c.1)).map .done id := by
        rw [onMap, hfound]
      have hb : s.onDatabase env (.deleteUser k edits) = (.done (.error .persistence), s.db) := by
        rw [onDatabase, hfound]
        dsimp only
        rw [hright, hnone]
        rfl
      refine .of_not_safe ha hb (fun hsafe ↦ hstored (hsafe c hfound)) fun hanswer ↦ ?_
      exact hanswer.elim

/-- The account of the map is the same as the row that was written back when nothing was. -/
theorem sameRecord_writeBack_iff (h : SameRecord ρ u r.load) :
    SameRecord ρ u (r.writeBack v).load ↔ WritesNothing r v := by
  obtain ⟨t, ht, hmem⟩ := h.privileges
  have hemail : u.email = some r.email := h.email
  have hpassword : u.password = some r.password := h.password
  constructor
  · intro hback
    obtain ⟨t', ht', hmem'⟩ := hback.privileges
    obtain rfl : t' = t := Option.some.inj (ht'.symm.trans ht)
    refine ⟨Option.some.inj (hback.email.symm.trans hemail),
      Option.some.inj (hback.password.symm.trans hpassword),
      PersistentSet.writeBack_keeps_iff.1 fun p ↦ ?_⟩
    have hp : some p ∈ (PersistentSet.load (r.writeBack v).privileges).set ↔
        some p ∈ (PersistentSet.load r.privileges).set :=
      (hmem' (some p)).symm.trans (hmem (some p))
    rwa [PersistentSet.some_mem_load_set, PersistentSet.some_mem_load_set] at hp
  · intro hnothing
    obtain ⟨hemail', hpassword', hprivileges⟩ := hnothing
    refine ⟨h.id, h.username, hemail.trans (congrArg some hemail'.symm),
      hpassword.trans (congrArg some hpassword'.symm), t, ht, fun p ↦ (hmem p).trans ?_⟩
    show p ∈ (PersistentSet.load r.privileges).set ↔
      p ∈ (PersistentSet.load (r.writeBack v).privileges).set
    rcases p with _ | p
    · exact iff_of_false PersistentSet.none_not_mem_load_set PersistentSet.none_not_mem_load_set
    · rw [PersistentSet.some_mem_load_set, PersistentSet.some_mem_load_set]
      exact (PersistentSet.writeBack_keeps_iff.2 hprivileges p).symm

/-- An update that writes nothing leaves the same accounts. -/
theorem Linked.updated (h : s.Linked) (hr : r ∈ s.db.rows) (hid : r.id = v.id)
    (hnothing : WritesNothing r v) {d : Database} (hupdate : s.db.update v = some d) :
    Linked ⟨s.dao, d, s.ids, s.found ++ []⟩ := by
  obtain ⟨-, -, hseq⟩ := Database.update_eq_some_iff.1 hupdate
  refine h.of_le (sameAccounts_iff.2 ⟨fun w hw ↦ ?_, fun q' hq' ↦ ?_⟩) h.key_id
    (fun e he ↦ lt_of_lt_of_eq (h.issued e he) hseq.symm) (fun _ he ↦ he)
    (Database.le_of_update hupdate)
  · obtain ⟨q, hq, hsame⟩ := (sameAccounts_iff.1 h.accounts).1 w hw
    by_cases hqid : q.id = v.id
    · obtain rfl := s.db.consistent.eq_of_id hq hr (hqid.trans hid.symm)
      exact ⟨_, Database.writeBack_mem_update hupdate hq hqid,
        (sameRecord_writeBack_iff hsame).2 hnothing⟩
    · exact ⟨q, Database.mem_update_of_id_ne hupdate hq hqid, hsame⟩
  · obtain ⟨q, hq, rfl, -⟩ := Database.exists_mem_of_mem_update hupdate hq'
    obtain ⟨w, hw, hsame⟩ := (sameAccounts_iff.1 h.accounts).2 q hq
    refine ⟨w, hw, ?_⟩
    split
    · next hqid =>
      obtain rfl := s.db.consistent.eq_of_id hq hr (hqid.trans hid.symm)
      exact (sameRecord_writeBack_iff hsame).2 hnothing
    · exact hsame

/-- An update that writes something is missing from the map. -/
theorem Linked.not_sameAccounts_of_update (h : s.Linked) (hr : r ∈ s.db.rows) (hid : r.id = v.id)
    (hsomething : ¬ WritesNothing r v) {d : Database} (hupdate : s.db.update v = some d) :
    ¬ SameAccounts s.ids s.dao d := by
  intro hsame
  obtain ⟨w, hw, hback⟩ :=
    (sameAccounts_iff.1 hsame).2 _ (Database.writeBack_mem_update hupdate hr hid)
  obtain ⟨w', hw', hold⟩ := (sameAccounts_iff.1 h.accounts).2 r hr
  obtain ⟨k, hk⟩ := BiMap.mem_values.1 hw
  obtain ⟨k', hk'⟩ := BiMap.mem_values.1 hw'
  have hname : w.username = w'.username := hback.username.trans hold.username.symm
  obtain rfl : w = w' := congrArg Prod.snd (BiMap.eq_of_label hk hk' hname)
  exact hsomething ((sameRecord_writeBack_iff hold).1 hback)

/-- The map answers an update with a copy, whatever has become of the account. -/
theorem Linked.updateUser_of_copy (h : s.Linked) (hcopy : IsCopy s.ids s.db (u, v)) :
    ∃ answer, s.dao.updateUser u = (.ok answer, s.dao) ∧
      ∀ r ∈ s.db.rows, r.id = v.id → answer = true := by
  obtain ⟨m, hm, -⟩ := hcopy.id
  have hattempt := MapUserDAO.updateUser_attempt s.dao u
  generalize s.dao.updateUser u = result at hattempt
  cases hattempt with
  | nullId hid => cases hm.symm.trans hid
  | nullName id w hid hmem hnull => exact absurd hnull (h.named w (BiMap.mem_values.2 ⟨id, hmem⟩))
  | refused id hid hother =>
    refine ⟨false, rfl, fun r hr hrid ↦ ?_⟩
    obtain ⟨m', w, hm', hw, -, hname⟩ := h.entry_of_copy hcopy hr hrid
    obtain rfl : m' = id := Option.some.inj (hm'.symm.trans hid)
    exact absurd hname (hother w hw).2
  | updated => exact ⟨true, rfl, fun _ _ _ ↦ rfl⟩

theorem verdict_updateUser (h : s.Linked) (henv : env.Stores) (k : ℕ) (edits : List Edit) :
    Verdict env s (.updateUser k edits) := by
  rcases hfound : s.found[k]? with _ | c
  · have ha : s.onMap (.updateUser k edits) = (.skipped, s.dao) := by rw [onMap, hfound]
    have hb : s.onDatabase env (.updateUser k edits) = (.skipped, s.db) := by
      rw [onDatabase, hfound]
    have hsafe : s.Safe (.updateUser k edits) := fun c hc ↦
      absurd (hfound.symm.trans hc) (Option.some_ne_none c).symm
    exact .of_safe ha hb hsafe trivial h.unchanged
  · have hcopy := (h.copies c (List.mem_of_getElem? hfound)).edited edits
    have hvid := (User.foldl_edit c.2 edits).1
    obtain ⟨answer, hmap, htrue⟩ := h.updateUser_of_copy hcopy
    have ha : s.onMap (.updateUser k edits) = (.done (.ok answer), s.dao) := by
      rw [onMap, hfound]
      dsimp only
      rw [hmap]
      rfl
    have hright := transact_updateUser henv (edits.foldl User.edit c.2) s.db
    rcases hupdate : s.db.update (edits.foldl User.edit c.2) with _ | d
    · have hb : s.onDatabase env (.updateUser k edits) = (.done (.error .persistence), s.db) := by
        rw [onDatabase, hfound]
        dsimp only
        rw [hright, hupdate]
        rfl
      refine .of_not_safe ha hb (fun hsafe ↦ ?_) fun hanswer ↦ hanswer.elim
      -- what writes nothing fits, and is accepted
      obtain ⟨r, hr, hid, hemail, hpassword, -⟩ := hsafe c hfound
      have hfits := s.db.consistent.fits r hr
      have hname : r.username = (edits.foldl User.edit c.2).username :=
        hcopy.kept r hr (hid.trans hvid.symm)
      obtain ⟨d, hd⟩ := Database.exists_update_iff.2
        ⟨⟨r, hr, hid.trans hvid.symm, hname⟩, hemail ▸ hfits.2.1, hpassword ▸ hfits.2.2⟩
      cases hupdate.symm.trans hd
    · obtain ⟨⟨⟨r, hr, hid, -⟩, -⟩, -⟩ := Database.update_eq_some_iff.1 hupdate
      obtain rfl := htrue r hr hid
      have hb : s.onDatabase env (.updateUser k edits) = (.done (.ok true), d) := by
        rw [onDatabase, hfound]
        dsimp only
        rw [hright, hupdate]
        rfl
      by_cases hnothing : WritesNothing r (edits.foldl User.edit c.2)
      · refine .of_safe ha hb (fun c' hc' ↦ ?_) rfl (h.updated hr hid hnothing hupdate)
        obtain rfl := Option.some.inj (hfound.symm.trans hc')
        exact ⟨r, hr, hid.trans hvid, hnothing⟩
      · refine .of_not_safe ha hb (fun hsafe ↦ ?_) fun _ ↦
          h.not_sameAccounts_of_update hr hid hnothing hupdate
        obtain ⟨q, hq, hqid, hqnothing⟩ := hsafe c hfound
        obtain rfl := s.db.consistent.eq_of_id hq hr (hqid.trans (hvid.symm.trans hid.symm))
        exact hnothing hqnothing

/-! ### All calls -/

theorem verdict (h : s.Linked) (henv : env.Stores) {c : AbstractUserDAO.Call}
    (hadmits : s.Admits c) : Verdict env s c := by
  cases c with
  | addNewUser newUser => exact verdict_addNewUser h henv newUser
  | addNewUserOf username password email =>
    exact verdict_addNewUserOf h henv username password email
  | deleteUser k edits => exact verdict_deleteUser h henv k edits
  | updateUser k edits => exact verdict_updateUser h henv k edits
  | findByID key => exact verdict_findByID h henv hadmits
  | findByName username => exact verdict_findByName h henv username
  | findAll => exact verdict_findAll h henv

/-- Two linked stores agree all along when every call is safe, and only then. -/
theorem Linked.throughout_agrees_iff (h : s.Linked) (henv : env.Stores)
    {calls : List AbstractUserDAO.Call}
    (hadmits : Machine.Throughout (step env) Admits s calls) :
    Machine.Throughout (step env) (Agrees env) s calls ↔
      Machine.Throughout (step env) Safe s calls := by
  induction calls generalizing s with
  | nil => exact Iff.rfl
  | cons c calls ih =>
    have hverdict := verdict h henv hadmits.1
    constructor
    · intro hagree
      have hsafe : s.Safe c := hverdict.agrees_iff.1 hagree.1
      exact ⟨hsafe, (ih (hverdict.linked hsafe) hadmits.2).1 hagree.2⟩
    · intro hsafe
      exact ⟨hverdict.agrees_iff.2 hsafe.1, (ih (hverdict.linked hsafe.1) hadmits.2).2 hsafe.2⟩

/-- The two stores start with the same accounts. -/
structure StartsAlike (ρ : Renaming) (dao : MapUserDAO) (db : Database) : Prop where
  /-- They are the same up to the renaming, -/
  accounts : SameAccounts ρ dao db
  /-- the map keeps them under their ids, -/
  key_id : ∀ e ∈ dao.db.entries, e.2.id = some e.1
  /-- and nothing else is renamed. -/
  stored : ∀ e ∈ ρ.entries, ∃ r ∈ db.rows, r.id = e.2

/-- Nothing has been found yet. -/
def start (ρ : Renaming) (dao : MapUserDAO) (db : Database) : Twins where
  dao := dao
  db := db
  ids := ρ
  found := []

theorem StartsAlike.linked {dao : MapUserDAO} {db : Database} (h : StartsAlike ρ dao db) :
    (start ρ dao db).Linked where
  accounts := h.accounts
  key_id := h.key_id
  issued e he := by
    obtain ⟨r, hr, hid⟩ := h.stored e he
    exact hid ▸ db.consistent.id_lt r hr
  copies c hc := absurd hc List.not_mem_nil

/-- **When the two implementations agree**: on every call of a sequence, in its outcome and in the
accounts it leaves, exactly when every call is safe in the state it finds. -/
theorem agree_iff {env : Environment} (henv : env.Stores) {ρ : Renaming} {dao : MapUserDAO}
    {db : Database} (hstart : StartsAlike ρ dao db) (calls : List AbstractUserDAO.Call)
    (hadmits : Machine.Throughout (step env) Admits (start ρ dao db) calls) :
    Machine.Throughout (step env) (Agrees env) (start ρ dao db) calls ↔
      Machine.Throughout (step env) Safe (start ρ dao db) calls :=
  hstart.linked.throughout_agrees_iff henv hadmits

/-- The map after its example accounts have been deleted. -/
def emptied : MapUserDAO where
  db := ∅
  idCounter := 3

theorem startsAlike_empty : StartsAlike ∅ emptied .empty where
  accounts := sameAccounts_iff.2
    ⟨fun _ hu ↦ absurd hu List.not_mem_nil, fun _ hr ↦ absurd hr List.not_mem_nil⟩
  key_id _ he := absurd he List.not_mem_nil
  stored _ he := absurd he List.not_mem_nil

/-- Alice is added, found and deleted. -/
def aliceComesAndGoes : List AbstractUserDAO.Call :=
  [.addNewUserOf (some "alice") (some "secret") (some "alice@a"), .findByName (some "alice"),
    .addNewUser ⟨some "alice", some "other@b", some "other"⟩,
    .deleteUser 0 [.setEmail "alice@b", .addPrivilege (some "todo")], .findAll]

theorem agree_aliceComesAndGoes :
    Machine.Throughout (step .quiet) (Agrees .quiet) (start ∅ emptied .empty)
      aliceComesAndGoes := by
  refine (agree_iff ⟨rfl, rfl, rfl⟩ startsAlike_empty aliceComesAndGoes
    ⟨trivial, trivial, trivial, trivial, trivial, trivial⟩).2
    ⟨?_, Option.some_ne_none _, ?_, ?_, trivial, trivial⟩
  · refine ⟨⟨⟨1, "alice", "alice@a", "secret", []⟩, ⟨rfl, rfl, rfl⟩, rfl, by decide +kernel, rfl,
      fun q hq ↦ absurd hq List.not_mem_nil, by decide +kernel⟩, fun e he ↦ ?_⟩
    exact absurd he List.not_mem_nil
  · exact Or.inl ⟨⟨1, "alice", "alice@a", "secret", []⟩, by decide +kernel, rfl⟩
  · intro c hc
    refine ⟨⟨1, "alice", "alice@a", "secret", []⟩, by decide +kernel, ?_⟩
    obtain rfl := Option.some.inj hc
    rfl

/-- Somebody else wants the name. -/
def aliceTwiceAdded : List AbstractUserDAO.Call :=
  [.addNewUserOf (some "alice") (some "secret") (some "alice@a"),
    .addNewUserOf (some "alice") (some "other") (some "other@b")]

/-- The map throws an `IllegalCredentialsException`, and the database does not. -/
theorem not_agree_aliceTwiceAdded :
    ¬ ∀ (env : Environment), env.Stores → ∀ (ρ : Renaming) (dao : MapUserDAO) (db : Database),
      StartsAlike ρ dao db → ∀ calls : List AbstractUserDAO.Call,
      Machine.Throughout (step env) Admits (start ρ dao db) calls →
      Machine.Throughout (step env) (Agrees env) (start ρ dao db) calls := by
  intro h
  obtain ⟨-, ⟨hanswer, -⟩, -⟩ := h .quiet ⟨rfl, rfl, rfl⟩ ∅ emptied .empty startsAlike_empty
    aliceTwiceAdded ⟨trivial, trivial, trivial⟩
  obtain ⟨message, hmessage⟩ := hanswer.1 ⟨"Username already in use!", rfl⟩
  cases hmessage

end DseAuth.Twins
