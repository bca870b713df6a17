import DseAuth.Core.Runtime
import DseAuth.Core.User
import DseAuth.Library.BiMap
import DseAuth.Library.Machine

/-!
# The in-memory data access object

`db.mapUserDAO`, which keeps the users in a bidirectional map by their id. Its users are plain
objects (`UserObject`), of which any property may be null. `User.equals` compares usernames and
nothing else, so for the map a user *is* its username.

The methods return an answer, which may be an exception, and the object as they leave it. The
object also changes without them: `findByID`, `findByName` and `findAll` hand out the stored users
themselves, and a caller that holds one can set its email, password and privileges (`mutate`).

The counter of the ids is an `AtomicInteger`, which wraps around.
-/

namespace DseAuth

/-- `core.User` as a plain object. -/
structure UserObject where
  /-- `Integer id`, null until `setId`. -/
  id : Option (BitVec 32)
  /-- `getUsername()`, which is also `getName()`. -/
  username : Option String
  /-- `getEmail()`. -/
  email : Option String
  /-- `getPassword()`. -/
  password : Option String
  /-- `getPrivileges()`. -/
  privileges : Option (JavaSet (Option String))
deriving DecidableEq

/-- `getID`, which unboxes the id. -/
def UserObject.getID (u : UserObject) : Except JavaException (BitVec 32) :=
  match u.id with
  | some id => .ok id
  | none => .error .nullPointer

/-- The state of a `mapUserDAO`. -/
structure MapUserDAO where
  /-- `BiMap<Integer, User> db`, with the users compared as `User.equals` does. -/
  db : BiMap (BitVec 32) UserObject (Option String) UserObject.username
  /-- The value of `idCounter`. -/
  idCounter : BitVec 32

namespace MapUserDAO

/-- `findByID`; the id may be null, which is the key of nothing. -/
def findByID (dao : MapUserDAO) (id : Option (BitVec 32)) : Option UserObject :=
  id.bind dao.db.get

/-- The loop of `findByName`: a stored user without a name ends it with an exception. -/
def findEntry (username : Option String) :
    List UserObject → Except JavaException (Option UserObject)
  | [] => .ok none
  | entry :: entries =>
    match entry.username with
    | none => .error .nullPointer
    | some name => if some name = username then .ok (some entry) else findEntry username entries

/-- `findByName`. -/
def findByName (dao : MapUserDAO) (username : Option String) :
    Except JavaException (Option UserObject) :=
  findEntry username dao.db.values

/-- `findAll`. -/
def findAll (dao : MapUserDAO) : List UserObject := dao.db.values

/-- `db.put`, for a method that returns true afterwards. -/
def put (dao : MapUserDAO) (id : BitVec 32) (u : UserObject) :
    Except JavaException Bool × MapUserDAO :=
  match dao.db.put id u with
  | some db => (.ok true, { dao with db := db })
  | none => (.error (.illegalArgument "value already present"), dao)

/-- The common body of the two methods `addNewUser`. -/
def addUser (dao : MapUserDAO) (username password email : Option String) :
    Except JavaException Bool × MapUserDAO :=
  match dao.findByName username with
  | .error e => (.error e, dao)
  | .ok (some _) => (.error (.illegalCredentials "Username already in use!"), dao)
  | .ok none =>
    let userId := dao.idCounter
    let u : UserObject := ⟨some userId, username, email, password, some ∅⟩
    put { dao with idCounter := dao.idCounter + 1 } userId u

/-- `addNewUser(SignUpUser)`. -/
def addNewUser (dao : MapUserDAO) (newUser : SignUpUser) : Except JavaException Bool × MapUserDAO :=
  dao.addUser newUser.username newUser.password newUser.email

/-- `addNewUser(String, String, String)`. -/
def addNewUserOf (dao : MapUserDAO) (username password email : Option String) :
    Except JavaException Bool × MapUserDAO :=
  dao.addUser username password email

/-- `deleteUser`. -/
def deleteUser (dao : MapUserDAO) (u : UserObject) : Except JavaException Bool × MapUserDAO :=
  match dao.db.removeValue u with
  | (key, db) => (.ok key.isSome, { dao with db := db })

/-- `updateUser`. -/
def updateUser (dao : MapUserDAO) (updatedUser : UserObject) :
    Except JavaException Bool × MapUserDAO :=
  match updatedUser.getID with
  | .error e => (.error e, dao)
  | .ok id =>
    match dao.findByID (some id) with
    | none => (.ok false, dao)
    | some oldUser =>
      match oldUser.username with
      | none => (.error .nullPointer, dao)
      | some name =>
        if some name = updatedUser.username then dao.put id updatedUser else (.ok false, dao)

/-- A caller that holds the stored user of an id sets its email, password and privileges. -/
def mutate (dao : MapUserDAO) (id : BitVec 32) (email password : Option String)
    (privileges : Option (JavaSet (Option String))) : MapUserDAO :=
  let edit (u : UserObject) : UserObject :=
    { u with email := email, password := password, privileges := privileges }
  { dao with db := dao.db.modify id edit fun _ ↦ rfl }

/-! ### The constructor -/

/-- The example accounts differ in number, id and privileges. -/
def testuser (id : BitVec 32) (username : String) (privileges : List String) : UserObject where
  id := some id
  username := some username
  email := some "test@example.com"
  password := some "testpw"
  privileges := some (JavaSet.ofList (privileges.map some))

/-- `new mapUserDAO()`, with the random strings it draws: three example accounts, under the first
three ids. -/
def create (uuid : ℕ → String) : MapUserDAO where
  db := {
    entries :=
      [(0, testuser 0 "Testuser" [uuid 0, uuid 1, uuid 2]),
        (1, testuser 1 "Testuser2" [uuid 3, uuid 4]),
        (2, testuser 2 "Testuser3" [uuid 5, uuid 6, uuid 7, uuid 8])]
    keys_nodup := by
      show [(0 : BitVec 32), 1, 2].Nodup
      decide
    labels_nodup := by
      show [some "Testuser", some "Testuser2", some "Testuser3"].Nodup
      decide }
  idCounter := 3

/-! ### Lookups -/

variable {dao : MapUserDAO} {u v : UserObject} {username : Option String} {id : BitVec 32}

theorem findByID_eq_some_iff : dao.findByID (some id) = some v ↔ (id, v) ∈ dao.db.entries :=
  BiMap.get_eq_some_iff

/-- The loop passes the users that have a name, and another one, up to the first that has the name
it looks for. -/
theorem findEntry_eq_ok_some_iff {entries : List UserObject} :
    findEntry username entries = .ok (some v) ↔
      ∃ before after, entries = before ++ v :: after ∧ username ≠ none ∧ v.username = username ∧
        ∀ w ∈ before, w.username ≠ none ∧ w.username ≠ username := by
  induction entries with
  | nil =>
    constructor
    · intro h
      cases h
    · intro h
      obtain ⟨before, after, hnil, -⟩ := h
      exact absurd hnil.symm (List.append_ne_nil_of_right_ne_nil _ (List.cons_ne_nil v after))
  | cons entry entries ih =>
    rw [findEntry]
    constructor
    · intro h
      split at h
      · cases h
      · next name hname =>
        split at h
        · next hsame =>
          obtain rfl := Option.some.inj (Except.ok.inj h)
          have husername : username ≠ none := hsame ▸ Option.some_ne_none name
          exact ⟨[], entries, rfl, husername, hname.trans hsame,
            fun w hw ↦ absurd hw List.not_mem_nil⟩
        · next hother =>
          obtain ⟨before, after, rfl, husername, hv, hbefore⟩ := ih.1 h
          refine ⟨entry :: before, after, rfl, husername, hv, fun w hw ↦ ?_⟩
          rcases List.mem_cons.1 hw with rfl | hw
          · rw [hname]
            exact ⟨Option.some_ne_none name, hother⟩
          · exact hbefore w hw
    · intro h
      obtain ⟨before, after, heq, husername, hv, hbefore⟩ := h
      rcases before with _ | ⟨first, before⟩
      · obtain ⟨rfl, -⟩ := List.cons.inj heq
        obtain ⟨name, hname⟩ := Option.ne_none_iff_exists'.1 husername
        rw [hv, hname]
        exact if_pos rfl
      · obtain ⟨rfl, rfl⟩ := List.cons.inj heq
        obtain ⟨hnamed, hother⟩ := hbefore entry List.mem_cons_self
        obtain ⟨name, hname⟩ := Option.ne_none_iff_exists'.1 hnamed
        rw [hname] at hother ⊢
        show (if some name = username then _ else _) = _
        rw [if_neg hother]
        exact ih.2 ⟨before, after, rfl, husername, hv,
          fun w hw ↦ hbefore w (List.mem_cons_of_mem entry hw)⟩

/-- A loop that ends without a result has passed every user. -/
theorem findEntry_eq_ok_none_iff {entries : List UserObject} :
    findEntry username entries = .ok none ↔
      ∀ w ∈ entries, w.username ≠ none ∧ w.username ≠ username := by
  induction entries with
  | nil =>
    constructor
    · intro _ w hw
      exact absurd hw List.not_mem_nil
    · intro _
      rfl
  | cons entry entries ih =>
    rw [findEntry, List.forall_mem_cons, ← ih]
    split
    · next hname =>
      constructor
      · intro h
        cases h
      · intro h
        exact absurd hname h.1.1
    · next name hname =>
      rw [hname]
      split
      · next hsame =>
        constructor
        · intro h
          cases Except.ok.inj h
        · intro h
          exact absurd hsame h.1.2
      · next hother => exact ⟨fun h ↦ ⟨⟨Option.some_ne_none name, hother⟩, h⟩, fun h ↦ h.2⟩

/-- The only exception of the loop. -/
theorem findEntry_eq_error {entries : List UserObject} {e : JavaException}
    (h : findEntry username entries = .error e) :
    e = .nullPointer ∧ ∃ w ∈ entries, w.username = none := by
  induction entries with
  | nil => cases h
  | cons entry entries ih =>
    rw [findEntry] at h
    split at h
    · next hname => exact ⟨(Except.error.inj h).symm, entry, List.mem_cons_self, hname⟩
    · split at h
      · cases h
      · obtain ⟨he, w, hw, hnone⟩ := ih h
        exact ⟨he, w, List.mem_cons_of_mem entry hw, hnone⟩

/-- **Where every user has a name**, a lookup by name finds the user of that name. -/
theorem findByName_eq_some_iff (hnamed : ∀ w ∈ dao.db.values, w.username ≠ none) :
    dao.findByName username = .ok (some v) ↔ v ∈ dao.db.values ∧ v.username = username := by
  rw [findByName, findEntry_eq_ok_some_iff]
  constructor
  · intro h
    obtain ⟨before, after, heq, -, hv, -⟩ := h
    rw [heq]
    exact ⟨List.mem_append_right _ List.mem_cons_self, hv⟩
  · intro h
    obtain ⟨hmem, hv⟩ := h
    obtain ⟨before, after, heq⟩ := List.append_of_mem hmem
    refine ⟨before, after, heq, hv ▸ hnamed v hmem, hv, fun w hw ↦ ?_⟩
    have hw' : w ∈ dao.db.values := heq ▸ List.mem_append_left _ hw
    exact ⟨hnamed w hw', hv ▸ BiMap.label_ne_of_before heq hw⟩

/-! ### What the methods can do -/

theorem put_of_some {db : BiMap (BitVec 32) UserObject (Option String) UserObject.username}
    (h : dao.db.put id u = some db) : dao.put id u = (.ok true, { dao with db := db }) := by
  rw [put, h]

/-- `addNewUser`, both of them: an exception of the lookup, a name in use, or a new user under the
next id. The map itself refuses nothing, whatever the store. -/
inductive AddAttempt (dao : MapUserDAO) (username password email : Option String) :
    Except JavaException Bool × MapUserDAO → Prop
  | failed (w : UserObject) (hmem : w ∈ dao.db.values) (hnull : w.username = none) :
    AddAttempt dao username password email (.error .nullPointer, dao)
  | taken (w : UserObject) (hfound : dao.findByName username = .ok (some w)) :
    AddAttempt dao username password email
      (.error (.illegalCredentials "Username already in use!"), dao)
  | added (db : BiMap (BitVec 32) UserObject (Option String) UserObject.username)
    (hfree : dao.findByName username = .ok none)
    (hput : dao.db.put dao.idCounter
      ⟨some dao.idCounter, username, email, password, some ∅⟩ = some db) :
    AddAttempt dao username password email (.ok true, ⟨db, dao.idCounter + 1⟩)

theorem addUser_attempt (dao : MapUserDAO) (username password email : Option String) :
    AddAttempt dao username password email (dao.addUser username password email) := by
  rw [addUser]
  split
  · next e h =>
    obtain ⟨rfl, w, hmem, hnull⟩ := findEntry_eq_error h
    exact .failed w hmem hnull
  · next w h => exact .taken w h
  · next h =>
    have hnew : ∀ e ∈ dao.db.entries, e.2.username ≠ username := by
      intro e he
      exact (findEntry_eq_ok_none_iff.1 h e.2 (BiMap.mem_values.2 ⟨e.1, he⟩)).2
    let u : UserObject := ⟨some dao.idCounter, username, email, password, some ∅⟩
    obtain ⟨db, hput, -⟩ := BiMap.exists_put (k := dao.idCounter) (v := u) hnew
    have hadded : AddAttempt dao username password email (.ok true, ⟨db, dao.idCounter + 1⟩) :=
      .added db h hput
    have hdone : put ⟨dao.db, dao.idCounter + 1⟩ dao.idCounter u =
        (.ok true, ⟨db, dao.idCounter + 1⟩) := put_of_some hput
    exact hdone ▸ hadded

/-- `updateUser`: an exception at a null id or at a stored user without a name, a refusal where
there is no stored user of the id and the name, or true. **Nothing is changed in any of them**: the
map takes the user it is given for the one it has. -/
inductive UpdateAttempt (dao : MapUserDAO) (u : UserObject) :
    Except JavaException Bool × MapUserDAO → Prop
  | nullId (hid : u.id = none) : UpdateAttempt dao u (.error .nullPointer, dao)
  | nullName (id : BitVec 32) (v : UserObject) (hid : u.id = some id)
    (hmem : (id, v) ∈ dao.db.entries) (hnull : v.username = none) :
    UpdateAttempt dao u (.error .nullPointer, dao)
  | refused (id : BitVec 32) (hid : u.id = some id)
    (hother : ∀ v, (id, v) ∈ dao.db.entries → v.username ≠ none ∧ v.username ≠ u.username) :
    UpdateAttempt dao u (.ok false, dao)
  | updated (id : BitVec 32) (v : UserObject) (hid : u.id = some id)
    (hmem : (id, v) ∈ dao.db.entries) (hname : v.username ≠ none)
    (hsame : v.username = u.username) : UpdateAttempt dao u (.ok true, dao)

theorem updateUser_attempt (dao : MapUserDAO) (u : UserObject) :
    UpdateAttempt dao u (dao.updateUser u) := by
  rw [updateUser, UserObject.getID]
  rcases hid : u.id with _ | id
  · exact .nullId hid
  · show UpdateAttempt dao u (match dao.findByID (some id) with | none => _ | some oldUser => _)
    rcases hfind : dao.findByID (some id) with _ | v
    · refine .refused id hid fun v hv ↦ ?_
      rw [findByID_eq_some_iff.2 hv] at hfind
      cases hfind
    · have hmem : (id, v) ∈ dao.db.entries := findByID_eq_some_iff.1 hfind
      dsimp only
      split
      · next hnull => exact .nullName id v hid hmem hnull
      · next name hname =>
        split
        · next hsame =>
          have hdone : dao.put id u = (.ok true, dao) :=
            put_of_some (BiMap.put_of_bound hmem (hname.trans hsame))
          rw [hdone]
          exact .updated id v hid hmem (hname ▸ Option.some_ne_none name) (hname.trans hsame)
        · next hother =>
          refine .refused id hid fun w hw ↦ ?_
          obtain rfl : w = v := congrArg Prod.snd (BiMap.eq_of_key hw hmem rfl)
          exact ⟨hname ▸ Option.some_ne_none name, hname ▸ hother⟩

/-- `deleteUser` returns true where a user of the name is stored. -/
theorem deleteUser_eq_true_iff :
    (dao.deleteUser u).1 = .ok true ↔ ∃ e ∈ dao.db.entries, e.2.username = u.username := by
  rw [deleteUser, ← BiMap.removeValue_isSome_iff]
  show Except.ok _ = Except.ok true ↔ _
  rw [Except.ok.injEq]

/-- Otherwise it returns false and leaves everything as it was. -/
theorem deleteUser_of_ne_true (h : (dao.deleteUser u).1 ≠ .ok true) :
    dao.deleteUser u = (.ok false, dao) := by
  have hnone : (dao.db.removeValue u).1 = none := by
    by_contra hsome
    exact h (congrArg Except.ok (Option.isSome_iff_ne_none.2 hsome))
  have hsame : (dao.db.removeValue u).2 = dao.db := BiMap.removeValue_of_none hnone
  calc dao.deleteUser u
      = (.ok (dao.db.removeValue u).1.isSome, ⟨(dao.db.removeValue u).2, dao.idCounter⟩) := rfl
    _ = (.ok false, dao) := by rw [hnone, hsame]; rfl

end MapUserDAO

end DseAuth
