import DseAuth.Core.User
import DseAuth.Library.JavaInteger
import DseAuth.Library.Keys
import Mathlib.Algebra.Order.Group.Int

/-!
# The database

The tables `USER` and `User_privileges` and the sequence `user_sequence` of `migrations.xml`. A
`UserRow` is a row of `USER` together with the rows of `User_privileges` that carry its id; the
second table has no constraint of its own, so these may repeat.

What the schema guarantees is a field of `Database` (`Consistent`): primary key, unique usernames,
column widths, `int` ids that the sequence has passed already. The three statements the mapper
issues at a flush therefore are partial: they return `none` where the database rejects them, and
where they return a database it is a consistent one.

`Database` is preordered by **identity**: `d ≤ d'` says that `d'` may come after `d`, as far as ids
are concerned — the sequence has not gone back, and a row of `d'` whose id had been handed out by
`d` already was in `d`, under the same username. Everything the service does respects that order.
-/

namespace DseAuth

/-- A row of `USER` with its rows of `User_privileges`. -/
structure UserRow where
  /-- `ID`, the primary key. -/
  id : ℤ
  /-- `USERNAME varchar(20)`, unique. -/
  username : String
  /-- `EMAIL varchar(60)`. -/
  email : String
  /-- `PASSWORD varchar(30)`. -/
  password : String
  /-- The `PRIVILEGES` of the rows of `User_privileges` with this `User_ID`. -/
  privileges : List String
deriving DecidableEq

/-- Length in Java characters, which are UTF-16 code units. -/
def javaLength (s : String) : ℕ :=
  s.toList.foldl (fun n c ↦ n + if c.toNat < 0x10000 then 1 else 2) 0

namespace UserRow

/-- The row fits the columns of the table. -/
def Fits (r : UserRow) : Prop :=
  javaLength r.username ≤ 20 ∧ javaLength r.email ≤ 60 ∧ javaLength r.password ≤ 30

instance (r : UserRow) : Decidable r.Fits :=
  inferInstanceAs (Decidable (_ ∧ _))

/-- The object the mapper builds from a row. -/
def load (r : UserRow) : User where
  id := r.id
  username := r.username
  email := r.email
  password := r.password
  privileges := PersistentSet.load r.privileges

/-- The row after `update USER set EMAIL, PASSWORD` and the changes of `User_privileges`. The
mapper writes both columns whether they changed or not, and never the username, which is an
immutable natural id. -/
def writeBack (r : UserRow) (u : User) : UserRow :=
  { r with email := u.email, password := u.password,
           privileges := u.privileges.writeBack r.privileges }

end UserRow

/-- What the schema and the sequence guarantee about the rows. -/
structure Consistent (rows : List UserRow) (sequence : ℤ) : Prop where
  /-- The primary key of `USER`. -/
  ids_nodup : (rows.map UserRow.id).Nodup
  /-- The unique constraint on `USERNAME`. -/
  usernames_nodup : (rows.map UserRow.username).Nodup
  /-- Ids come from the sequence. -/
  id_lt : ∀ r ∈ rows, r.id < sequence
  /-- Ids are Java ints. -/
  id_inRange : ∀ r ∈ rows, JavaInteger.InRange r.id
  /-- The widths of the columns. -/
  fits : ∀ r ∈ rows, r.Fits

/-- A committed state of the database. -/
@[ext] structure Database where
  /-- The rows of `USER`. -/
  rows : List UserRow
  /-- The next value of `user_sequence`. -/
  sequence : ℤ
  /-- The constraints of the schema. -/
  consistent : Consistent rows sequence

/-- Two rows with one id are the same row. -/
theorem Consistent.eq_of_id {rows : List UserRow} {sequence : ℤ} (h : Consistent rows sequence)
    {r r' : UserRow} (hr : r ∈ rows) (hr' : r' ∈ rows) (hid : r.id = r'.id) : r = r' :=
  List.inj_on_of_nodup_map h.ids_nodup hr hr' hid

/-- Two rows with one username are the same row. -/
theorem Consistent.eq_of_username {rows : List UserRow} {sequence : ℤ}
    (h : Consistent rows sequence) {r r' : UserRow} (hr : r ∈ rows) (hr' : r' ∈ rows)
    (hname : r.username = r'.username) : r = r' :=
  List.inj_on_of_nodup_map h.usernames_nodup hr hr' hname

/-- Appending a row with a new id and a new username that fits keeps the constraints. -/
theorem Consistent.append {rows : List UserRow} {sequence : ℤ} (h : Consistent rows sequence)
    {r : UserRow} (hnew : ∀ q ∈ rows, q.id ≠ r.id ∧ q.username ≠ r.username) (hfits : r.Fits)
    (hlt : r.id < sequence) (hrange : JavaInteger.InRange r.id) :
    Consistent (rows ++ [r]) sequence where
  ids_nodup := Keys.nodup_append h.ids_nodup fun q hq ↦ (hnew q hq).1
  usernames_nodup := Keys.nodup_append h.usernames_nodup fun q hq ↦ (hnew q hq).2
  id_lt := List.forall_mem_append.2 ⟨h.id_lt, List.forall_mem_singleton.2 hlt⟩
  id_inRange := List.forall_mem_append.2 ⟨h.id_inRange, List.forall_mem_singleton.2 hrange⟩
  fits := List.forall_mem_append.2 ⟨h.fits, List.forall_mem_singleton.2 hfits⟩

/-- Writing a user back keeps the constraints as long as its values fit. -/
theorem Consistent.map_writeBack {rows : List UserRow} {sequence : ℤ} (h : Consistent rows sequence)
    {u : User} (hu : javaLength u.email ≤ 60 ∧ javaLength u.password ≤ 30) :
    Consistent (rows.map fun r ↦ if r.id = u.id then r.writeBack u else r) sequence where
  ids_nodup := by
    rw [Keys.map_key fun r _ ↦ by split <;> rfl]
    exact h.ids_nodup
  usernames_nodup := by
    rw [Keys.map_key fun r _ ↦ by split <;> rfl]
    exact h.usernames_nodup
  id_lt := List.forall_mem_map.2 fun r hr ↦ by split <;> exact h.id_lt r hr
  id_inRange := List.forall_mem_map.2 fun r hr ↦ by split <;> exact h.id_inRange r hr
  fits := List.forall_mem_map.2 fun r hr ↦ by
    split
    · exact ⟨(h.fits r hr).1, hu.1, hu.2⟩
    · exact h.fits r hr

/-- Deleting rows keeps the constraints. -/
theorem Consistent.filter {rows : List UserRow} {sequence : ℤ} (h : Consistent rows sequence)
    (p : UserRow → Bool) : Consistent (rows.filter p) sequence where
  ids_nodup := h.ids_nodup.sublist (List.filter_sublist.map _)
  usernames_nodup := h.usernames_nodup.sublist (List.filter_sublist.map _)
  id_lt r hr := h.id_lt r (List.mem_of_mem_filter hr)
  id_inRange r hr := h.id_inRange r (List.mem_of_mem_filter hr)
  fits r hr := h.fits r (List.mem_of_mem_filter hr)

namespace Database

/-- The database right after the migration. -/
def empty : Database where
  rows := []
  sequence := 1
  consistent := ⟨List.nodup_nil, List.nodup_nil, by simp, by simp, by simp⟩

/-- The row with a given username. -/
def byUsername (db : Database) (username : String) : Option UserRow :=
  db.rows.find? fun r ↦ r.username = username

theorem byUsername_eq_some_iff {db : Database} {username : String} {r : UserRow} :
    db.byUsername username = some r ↔ r ∈ db.rows ∧ r.username = username := by
  exact Keys.find?_eq_some_iff db.consistent.usernames_nodup

theorem byUsername_eq_none_iff {db : Database} {username : String} :
    db.byUsername username = none ↔ ∀ r ∈ db.rows, r.username ≠ username := by
  simp [byUsername]

/-- The row with a given id. -/
def byId (db : Database) (id : ℤ) : Option UserRow :=
  db.rows.find? fun r ↦ r.id = id

theorem byId_eq_some_iff {db : Database} {id : ℤ} {r : UserRow} :
    db.byId id = some r ↔ r ∈ db.rows ∧ r.id = id := by
  exact Keys.find?_eq_some_iff db.consistent.ids_nodup

/-! ### The statements issued at a flush -/

/-- `select next value for user_sequence`, read as an `int`. Sequences are not transactional. -/
def nextval (db : Database) : Option (ℤ × Database) :=
  if JavaInteger.InRange db.sequence then
    some (db.sequence, { db with
      sequence := db.sequence + 1
      consistent :=
        { db.consistent with id_lt := fun r hr ↦ by have := db.consistent.id_lt r hr; omega } })
  else none

/-- `insert into USER`: rejected where the id or the username is taken, where a value is too long
for its column, and for an id the sequence did not hand out. -/
def insert (db : Database) (r : UserRow) : Option Database :=
  if h : (∀ q ∈ db.rows, q.id ≠ r.id ∧ q.username ≠ r.username) ∧ r.Fits ∧
      r.id < db.sequence ∧ JavaInteger.InRange r.id then
    some { db with
      rows := db.rows ++ [r]
      consistent := db.consistent.append h.1 h.2.1 h.2.2.1 h.2.2.2 }
  else none

/-- `update USER` by id, followed by the changes of `User_privileges`. The mapper fails the flush
where no row is hit or the immutable natural id differs, and the database rejects long values. -/
def update (db : Database) (u : User) : Option Database :=
  if h : (∃ r ∈ db.rows, r.id = u.id ∧ r.username = u.username) ∧
      javaLength u.email ≤ 60 ∧ javaLength u.password ≤ 30 then
    some { db with
      rows := db.rows.map fun r ↦ if r.id = u.id then r.writeBack u else r
      consistent := db.consistent.map_writeBack h.2 }
  else none

/-- `delete from User_privileges` and `delete from USER` by id; no row hit fails the flush. -/
def delete (db : Database) (u : User) : Option Database :=
  if ∃ r ∈ db.rows, r.id = u.id then
    some { db with
      rows := db.rows.filter fun r ↦ r.id ≠ u.id
      consistent := db.consistent.filter _ }
  else none

variable {db db' : Database}

theorem nextval_eq_some_iff {id : ℤ} :
    db.nextval = some (id, db') ↔
      JavaInteger.InRange db.sequence ∧ id = db.sequence ∧ db'.rows = db.rows ∧
        db'.sequence = db.sequence + 1 := by
  rw [nextval, Option.ite_none_right_eq_some]
  constructor
  · rintro ⟨h, hdb⟩
    obtain ⟨rfl, rfl⟩ := Prod.mk.inj (Option.some.inj hdb)
    exact ⟨h, rfl, rfl, rfl⟩
  · rintro ⟨h, rfl, hrows, hseq⟩
    exact ⟨h, congrArg some (Prod.ext rfl (Database.ext hrows.symm hseq.symm))⟩

theorem insert_eq_some_iff {r : UserRow} :
    db.insert r = some db' ↔
      ((∀ q ∈ db.rows, q.id ≠ r.id ∧ q.username ≠ r.username) ∧ r.Fits ∧ r.id < db.sequence ∧
        JavaInteger.InRange r.id) ∧ db'.rows = db.rows ++ [r] ∧ db'.sequence = db.sequence := by
  rw [insert, Option.dite_none_right_eq_some]
  constructor
  · rintro ⟨h, hdb⟩
    obtain rfl := Option.some.inj hdb
    exact ⟨h, rfl, rfl⟩
  · rintro ⟨h, hrows, hseq⟩
    exact ⟨h, congrArg some (Database.ext hrows.symm hseq.symm)⟩

theorem update_eq_some_iff {u : User} :
    db.update u = some db' ↔
      ((∃ r ∈ db.rows, r.id = u.id ∧ r.username = u.username) ∧ javaLength u.email ≤ 60 ∧
        javaLength u.password ≤ 30) ∧
      db'.rows = (db.rows.map fun r ↦ if r.id = u.id then r.writeBack u else r) ∧
        db'.sequence = db.sequence := by
  rw [update, Option.dite_none_right_eq_some]
  constructor
  · rintro ⟨h, hdb⟩
    obtain rfl := Option.some.inj hdb
    exact ⟨h, rfl, rfl⟩
  · rintro ⟨h, hrows, hseq⟩
    exact ⟨h, congrArg some (Database.ext hrows.symm hseq.symm)⟩

theorem delete_eq_some_iff {u : User} :
    db.delete u = some db' ↔
      (∃ r ∈ db.rows, r.id = u.id) ∧ db'.rows = (db.rows.filter fun r ↦ r.id ≠ u.id) ∧
        db'.sequence = db.sequence := by
  rw [delete, Option.ite_none_right_eq_some]
  constructor
  · rintro ⟨h, hdb⟩
    obtain rfl := Option.some.inj hdb
    exact ⟨h, rfl, rfl⟩
  · rintro ⟨h, hrows, hseq⟩
    exact ⟨h, congrArg some (Database.ext hrows.symm hseq.symm)⟩

/-! ### The rows after a statement -/

/-- An update keeps every row but for the credentials and privileges of the one with the id. -/
theorem exists_mem_of_mem_update {u : User} (h : db.update u = some db') {r' : UserRow}
    (hr' : r' ∈ db'.rows) :
    ∃ r ∈ db.rows, r' = (if r.id = u.id then r.writeBack u else r) ∧ r.id = r'.id ∧
      r.username = r'.username := by
  obtain ⟨-, hrows, -⟩ := update_eq_some_iff.1 h
  rw [hrows, List.mem_map] at hr'
  obtain ⟨r, hr, rfl⟩ := hr'
  exact ⟨r, hr, rfl, by split <;> rfl, by split <;> rfl⟩

/-- The row an update writes. -/
theorem writeBack_mem_update {u : User} (h : db.update u = some db') {r : UserRow}
    (hr : r ∈ db.rows) (hid : r.id = u.id) : r.writeBack u ∈ db'.rows := by
  obtain ⟨-, hrows, -⟩ := update_eq_some_iff.1 h
  rw [hrows, List.mem_map]
  exact ⟨r, hr, if_pos hid⟩

/-- The rows an update leaves alone. -/
theorem mem_update_of_id_ne {u : User} (h : db.update u = some db') {r : UserRow}
    (hr : r ∈ db.rows) (hid : r.id ≠ u.id) : r ∈ db'.rows := by
  obtain ⟨-, hrows, -⟩ := update_eq_some_iff.1 h
  rw [hrows, List.mem_map]
  exact ⟨r, hr, if_neg hid⟩

theorem mem_delete_iff {u : User} (h : db.delete u = some db') {r : UserRow} :
    r ∈ db'.rows ↔ r ∈ db.rows ∧ r.id ≠ u.id := by
  obtain ⟨-, hrows, -⟩ := delete_eq_some_iff.1 h
  rw [hrows, List.mem_filter, decide_eq_true_eq]

/-- Writing `u` back changes something: there is a row for it, the values fit, and the row does not
have them yet. -/
def Changes (db : Database) (u : User) : Prop :=
  ∃ r ∈ db.rows, r.id = u.id ∧ r.username = u.username ∧ javaLength u.email ≤ 60 ∧
    javaLength u.password ≤ 30 ∧ r.writeBack u ≠ r

/-- **When an update leaves the database as it was.** -/
theorem update_eq_self_iff {u : User} (h : db.update u = some db') :
    db' = db ↔ ¬ db.Changes u := by
  obtain ⟨⟨⟨r, hr, hid, hname⟩, hemail, hpassword⟩, hrows, hseq⟩ := update_eq_some_iff.1 h
  constructor
  · rintro rfl ⟨q, hq, hqid, -, -, -, hne⟩
    exact hne (db'.consistent.eq_of_id (writeBack_mem_update h hq hqid) hq rfl)
  · intro hno
    have hsame : r.writeBack u = r := by
      by_contra hne
      exact hno ⟨r, hr, hid, hname, hemail, hpassword, hne⟩
    refine Database.ext ?_ hseq
    rw [hrows]
    calc db.rows.map (fun q ↦ if q.id = u.id then q.writeBack u else q)
        = db.rows.map id := List.map_congr_left fun q hq ↦ by
          split
          · next hqid => rw [db.consistent.eq_of_id hq hr (hqid.trans hid.symm), hsame]; rfl
          · rfl
      _ = db.rows := List.map_id _

/-- When an insertion is accepted. -/
theorem exists_insert_iff {r : UserRow} :
    (∃ db', db.insert r = some db') ↔
      (∀ q ∈ db.rows, q.id ≠ r.id ∧ q.username ≠ r.username) ∧ r.Fits ∧ r.id < db.sequence ∧
        JavaInteger.InRange r.id := by
  constructor
  · rintro ⟨db', h⟩
    exact (insert_eq_some_iff.1 h).1
  · intro h
    exact ⟨_, dif_pos h⟩

/-- A row with the id that was just drawn is accepted if its name is free and its values fit. -/
theorem exists_insert_of_next {r : UserRow} (hrows : db'.rows = db.rows)
    (hseq : db'.sequence = db.sequence + 1) (hid : r.id = db.sequence)
    (hrange : JavaInteger.InRange r.id) (hfree : ∀ q ∈ db.rows, q.username ≠ r.username)
    (hfits : r.Fits) : ∃ d, db'.insert r = some d := by
  have hnew : ∀ q ∈ db'.rows, q.id ≠ r.id ∧ q.username ≠ r.username := by
    intro q hq
    rw [hrows] at hq
    have hlt : q.id < db.sequence := db.consistent.id_lt q hq
    exact ⟨by omega, hfree q hq⟩
  have hlt : r.id < db'.sequence := by omega
  exact exists_insert_iff.2 ⟨hnew, hfits, hlt, hrange⟩

/-- When an update is accepted. -/
theorem exists_update_iff {u : User} :
    (∃ db', db.update u = some db') ↔
      (∃ r ∈ db.rows, r.id = u.id ∧ r.username = u.username) ∧ javaLength u.email ≤ 60 ∧
        javaLength u.password ≤ 30 := by
  constructor
  · rintro ⟨db', h⟩
    exact (update_eq_some_iff.1 h).1
  · intro h
    exact ⟨_, dif_pos h⟩

/-- An update that would change something is accepted. -/
theorem exists_update_of_changes {u : User} (h : db.Changes u) : ∃ db', db.update u = some db' := by
  obtain ⟨r, hr, hid, hname, hemail, hpassword, -⟩ := h
  exact exists_update_iff.2 ⟨⟨r, hr, hid, hname⟩, hemail, hpassword⟩

/-- When a deletion is accepted. -/
theorem exists_delete_iff {u : User} :
    (∃ db', db.delete u = some db') ↔ ∃ r ∈ db.rows, r.id = u.id := by
  constructor
  · rintro ⟨db', h⟩
    exact (delete_eq_some_iff.1 h).1
  · intro h
    exact ⟨_, if_pos h⟩

/-! ### Identity over time -/

/-- `d ≤ d'` when `d'` may come after `d` as far as ids and usernames are concerned. -/
instance : Preorder Database where
  le d d' := d.sequence ≤ d'.sequence ∧ ∀ r' ∈ d'.rows, r'.id < d.sequence →
    ∃ r ∈ d.rows, r.id = r'.id ∧ r.username = r'.username
  le_refl d := ⟨le_rfl, fun r hr _ ↦ ⟨r, hr, rfl, rfl⟩⟩
  le_trans a b c hab hbc := by
    refine ⟨hab.1.trans hbc.1, fun r'' hr'' hlt ↦ ?_⟩
    obtain ⟨r', hr', hid', hname'⟩ := hbc.2 r'' hr'' (hlt.trans_le hab.1)
    obtain ⟨r, hr, hid, hname⟩ := hab.2 r' hr' (hid' ▸ hlt)
    exact ⟨r, hr, hid.trans hid', hname.trans hname'⟩

/-- **An id never names two accounts**, over time. -/
theorem username_eq_of_le (h : db ≤ db') {r r' : UserRow} (hr : r ∈ db.rows) (hr' : r' ∈ db'.rows)
    (hid : r.id = r'.id) : r.username = r'.username := by
  have hlt : r'.id < db.sequence := hid ▸ db.consistent.id_lt r hr
  obtain ⟨q, hq, hqid, hqname⟩ := h.2 r' hr' hlt
  rw [db.consistent.eq_of_id hr hq (hid.trans hqid.symm), hqname]

/-- **An account that is gone stays gone.** -/
theorem not_mem_of_le (h : db ≤ db') {id : ℤ} (hlt : id < db.sequence)
    (hgone : ∀ r ∈ db.rows, r.id ≠ id) : ∀ r ∈ db'.rows, r.id ≠ id := by
  rintro r' hr' rfl
  obtain ⟨r, hr, hid, -⟩ := h.2 r' hr' hlt
  exact hgone r hr hid

theorem le_of_rows_eq (hrows : db'.rows = db.rows) (hseq : db.sequence ≤ db'.sequence) :
    db ≤ db' :=
  ⟨hseq, fun r hr _ ↦ ⟨r, hrows ▸ hr, rfl, rfl⟩⟩

theorem le_of_update {u : User} (h : db.update u = some db') : db ≤ db' := by
  refine ⟨(update_eq_some_iff.1 h).2.2.ge, fun r' hr' _ ↦ ?_⟩
  obtain ⟨r, hr, -, hid, hname⟩ := exists_mem_of_mem_update h hr'
  exact ⟨r, hr, hid, hname⟩

theorem le_of_append {r : UserRow} (hrows : db'.rows = db.rows ++ [r]) (hid : r.id = db.sequence)
    (hseq : db.sequence ≤ db'.sequence) : db ≤ db' := by
  refine ⟨hseq, fun q hq hlt ↦ ?_⟩
  rw [hrows, List.mem_append, List.mem_singleton] at hq
  obtain hq | rfl := hq
  · exact ⟨q, hq, rfl, rfl⟩
  · omega

theorem le_of_delete {u : User} (h : db.delete u = some db') : db ≤ db' :=
  ⟨(delete_eq_some_iff.1 h).2.2.ge, fun r hr _ ↦ ⟨r, ((mem_delete_iff h).1 hr).1, rfl, rfl⟩⟩

end Database

end DseAuth
