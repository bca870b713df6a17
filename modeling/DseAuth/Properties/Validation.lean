import DseAuth.Properties.Privileges

/-!
# Validation and what can be stored

Three descriptions of an account have to agree: the annotations of `SignUpUser`, which reject a
body before the method runs, the unique username, which the method asks for, and the widths of the
columns, which the database checks at the flush. A body is *admissible* if its fields are there, its
email is well formed and everything fits; what well formed means is a parameter, since nothing in
the code looks at an email.

`POST /user` and `PUT /user` are *decided by validation* (`SignUpDecided`, `ChangeDecided`) if
admissible bodies and no others get past the 422, and nothing else goes wrong.
**`validation_decides_iff`** says for which bodies that is the case: those with an empty field, and
the admissible ones. Requests are handled one at a time.
-/

namespace DseAuth

/-- Some field is missing, null or empty. -/
def SignUpUser.SomeEmpty (user : SignUpUser) : Prop :=
  user.username.getD "" = "" ∨ user.email.getD "" = "" ∨ user.password.getD "" = ""

/-- The body describes an account that can be stored. -/
structure SignUpUser.Admissible (wellFormed : String → Prop) (user : SignUpUser) : Prop where
  /-- No field is empty. -/
  notEmpty : ¬ user.SomeEmpty
  /-- The email is well formed. -/
  email : wellFormed (user.email.getD "")
  /-- Every field fits its column. -/
  fits : javaLength (user.username.getD "") ≤ 20 ∧ javaLength (user.email.getD "") ≤ 60 ∧
    javaLength (user.password.getD "") ≤ 30

/-- The least that makes an email well formed: a local part, an `@` and a domain. -/
def HasParts (email : String) : Prop :=
  ∃ localPart domain, localPart ≠ "" ∧ domain ≠ "" ∧ email = localPart ++ "@" ++ domain

/-- Validation decides what a `POST /user` comes to. -/
structure SignUpDecided (wellFormed : String → Prop) (user : SignUpUser) (db : Database)
    (o : Outcome) : Prop where
  /-- 422 is the answer to what is not admissible. -/
  unprocessable : o.response.status = 422 ↔ ¬ user.Admissible wellFormed
  /-- 409 is the answer to what is admissible otherwise, but has a username that is taken. -/
  conflict : user.Admissible wellFormed →
    (o.response.status = 409 ↔ ∃ r ∈ db.rows, some r.username = user.username)
  /-- 200 is the answer to the rest. -/
  ok : user.Admissible wellFormed → (∀ r ∈ db.rows, some r.username ≠ user.username) →
    o.response.status = 200
  /-- Then there is one account more, with these fields, an id that was never handed out and no
  privileges. -/
  stored : o.response.status = 200 → ∃ r : UserRow, o.db.rows = db.rows ++ [r] ∧
    user = ⟨some r.username, some r.email, some r.password⟩ ∧ db.sequence ≤ r.id ∧
      r.privileges = []
  /-- The answer is never 500. -/
  noError : o.response.status ≠ 500
  /-- Otherwise nothing changes. -/
  unchanged : o.response.status ≠ 200 → o.db = db

/-- Validation decides what a `PUT /user` of the account in the row `r` comes to. -/
structure ChangeDecided (wellFormed : String → Prop) (user : SignUpUser) (r : UserRow)
    (db : Database) (o : Outcome) : Prop where
  /-- 422 is the answer to what is not admissible. -/
  unprocessable : o.response.status = 422 ↔ ¬ user.Admissible wellFormed
  /-- 200 is the answer to the rest. -/
  ok : user.Admissible wellFormed → o.response.status = 200
  /-- Then the row has the new email and password. -/
  stored : o.response.status = 200 → ∃ r' ∈ o.db.rows, r'.id = r.id ∧
    user = ⟨some r'.username, some r'.email, some r'.password⟩
  /-- The answer is never 500. -/
  noError : o.response.status ≠ 500
  /-- Otherwise nothing changes. -/
  unchanged : o.response.status ≠ 200 → o.db = db

/-! ### What the annotations reject -/

theorem notEmpty_eq_none_iff {s : Option String} : notEmpty s = none ↔ s.getD "" = "" := by
  rcases s with _ | s
  · exact iff_of_true rfl rfl
  · rw [notEmpty, Option.getD_some]
    split
    · next h => exact iff_of_false (by simp) h
    · next h => exact iff_of_true rfl (not_not.1 h)

/-- **The annotations reject exactly the bodies with an empty field.** -/
theorem SignUpUser.validate_eq_none_iff {user : SignUpUser} :
    user.validate = none ↔ user.SomeEmpty := by
  rw [SomeEmpty, ← notEmpty_eq_none_iff, ← notEmpty_eq_none_iff, ← notEmpty_eq_none_iff, validate]
  rcases notEmpty user.username with _ | username
  · simp
  · rcases notEmpty user.email with _ | email
    · simp
    · rcases notEmpty user.password with _ | password <;> simp

theorem SignUpUser.exists_validate {user : SignUpUser} (h : ¬ user.SomeEmpty) :
    ∃ valid, user.validate = some valid := by
  rw [← validate_eq_none_iff] at h
  exact Option.ne_none_iff_exists'.1 h

theorem readValid_of_someEmpty {user : SignUpUser} (h : user.SomeEmpty) :
    (Body.value user).readValid = .error .constraintViolation := by
  have hvalidate : user.validate = none := SignUpUser.validate_eq_none_iff.2 h
  simp only [Body.readValid, Body.read, hvalidate]

variable {tokenType : String} {env : Environment} {db : Database} {user : SignUpUser}

/-! ### `POST /user` -/

theorem handle_createUser_of_someEmpty (h : user.SomeEmpty) :
    (Call.createUser (.value user)).handle tokenType env db = ⟨⟨422, .framework⟩, db, []⟩ := by
  have hmethod : (Call.createUser (.value user)).run tokenType env (Session.openSession db) =
      (.error .constraintViolation, Session.openSession db) := by
    rw [Call.run, readValid_of_someEmpty h]
    rfl
  exact unitOfWork_of_error hmethod

theorem handle_createUser_of_valid {valid : ValidSignUpUser} (h : user.validate = some valid) :
    (Call.createUser (.value user)).handle tokenType env db =
      unitOfWork env (UserResource.createUser env (some valid)) db := by
  have hread : (Body.value user).readValid = .ok (some valid) :=
    readValid_eq_ok_some_iff.2 ⟨user, rfl, h⟩
  rw [Call.handle, Call.run, hread]
  rfl

/-- What a sign-up with a valid body can come to. -/
inductive SignUpOutcome (env : Environment) (db : Database) (valid : ValidSignUpUser) :
    Outcome → Prop
  /-- The database fails, has no id left or finds a value too long. -/
  | failed {d : Database} (hcause : env.lookupFails = true ∨ env.commitFails = true ∨
      (∀ r ∈ db.rows, r.username ≠ valid.username) ∧
        (env.writeFails = true ∨ ¬ JavaInteger.InRange db.sequence ∨ ¬ (newRow db valid).Fits)) :
      SignUpOutcome env db valid ⟨⟨500, .framework⟩, d, []⟩
  /-- The name is taken. -/
  | taken (htaken : ∃ r ∈ db.rows, r.username = valid.username) (hlookup : env.lookupFails = false)
      (hcommit : env.commitFails = false) :
      SignUpOutcome env db valid
        ⟨⟨409, .text ("\x7b" ++ "Username already in use!" ++ "\x7d")⟩, db, []⟩
  /-- The account is stored. -/
  | stored {d : Database} (hfree : ∀ r ∈ db.rows, r.username ≠ valid.username)
      (hfits : (newRow db valid).Fits) (hrange : JavaInteger.InRange db.sequence)
      (hstores : env.Stores) (hrows : d.rows = db.rows ++ [newRow db valid]) :
      SignUpOutcome env db valid ⟨⟨200, .none⟩, d, [.insert (newRow db valid)]⟩

/-- It can come to nothing else. -/
theorem createUser_outcome (valid : ValidSignUpUser) :
    SignUpOutcome env db valid (unitOfWork env (UserResource.createUser env (some valid)) db) := by
  have hattempt := createUser_attempt env db valid
  generalize hmethod : UserResource.createUser env (some valid) (Session.openSession db) = result
    at hattempt
  cases hattempt with
  | failed he hcause =>
    rw [unitOfWork_of_error hmethod, he]
    refine .failed (hcause.imp_right fun h ↦ Or.inr ⟨h.1, h.2.imp_right Or.inl⟩)
  | taken htaken hlookup =>
    rw [unitOfWork_of_readOnly hmethod, readOnlyResponse]
    split
    · next hcommit => exact .failed (Or.inr (Or.inl hcommit))
    · next hcommit => exact .taken htaken hlookup (Bool.eq_false_iff.2 hcommit)
  | @scheduled d hfree hrange hlookup hwrite hrows hseq =>
    let s : Session := ⟨d, [(newRow db valid).load], [.insert (newRow db valid)]⟩
    have hcommit : s.commit env = if env.commitFails then none else d.insert (newRow db valid) := by
      have hactions : s.actions = [.insert (newRow db valid)] := rfl
      rw [commit_singleton hactions]
      rfl
    rcases hc : env.commitFails with _ | _
    · rw [hc, if_neg Bool.false_ne_true] at hcommit
      rcases hinsert : d.insert (newRow db valid) with _ | d'
      · have hfits : ¬ (newRow db valid).Fits := by
          intro hfits
          obtain ⟨d', hd'⟩ := Database.exists_insert_of_next hrows hseq rfl hrange hfree hfits
          cases hinsert.symm.trans hd'
        rw [unitOfWork_of_rollback hmethod (hcommit.trans hinsert)]
        exact .failed (Or.inr (Or.inr ⟨hfree, Or.inr (Or.inr hfits)⟩))
      · rw [unitOfWork_of_commit hmethod (hcommit.trans hinsert)]
        obtain ⟨⟨-, hfits, -⟩, hrows', -⟩ := Database.insert_eq_some_iff.1 hinsert
        exact .stored hfree hfits hrange ⟨hlookup, hwrite, hc⟩
          (hrows'.trans (congrArg (· ++ _) hrows))
    · rw [hc, if_pos rfl] at hcommit
      rw [unitOfWork_of_rollback hmethod hcommit]
      exact .failed (Or.inr (Or.inl hc))

/-- A sign-up gets through without a failure of the database. -/
structure SignUpUser.CanSignUp (wellFormed : String → Prop) (env : Environment) (db : Database)
    (user : SignUpUser) : Prop where
  /-- The body is admissible. -/
  admissible : user.Admissible wellFormed
  /-- The lookup returns. -/
  lookup : env.lookupFails = false
  /-- The database commits. -/
  commit : env.commitFails = false
  /-- If the name is free, an id can be drawn and the row be scheduled. -/
  write : (∀ r ∈ db.rows, some r.username ≠ user.username) →
    env.writeFails = false ∧ JavaInteger.InRange db.sequence

/-- The answer 422 is right for a body that is not admissible. -/
theorem signUpDecided_unprocessable {wellFormed : String → Prop}
    (hnot : ¬ user.Admissible wellFormed) :
    SignUpDecided wellFormed user db ⟨⟨422, .framework⟩, db, []⟩ where
  unprocessable := iff_of_true rfl hnot
  conflict h := absurd h hnot
  ok h := absurd h hnot
  stored h := absurd h (by decide : 422 ≠ 200)
  noError h := absurd h (by decide : 422 ≠ 500)
  unchanged _ := rfl

/-- The answer 409 is right where the name is taken. -/
theorem signUpDecided_taken {wellFormed : String → Prop} {entity : Entity}
    (hadmissible : user.Admissible wellFormed)
    (htaken : ∃ r ∈ db.rows, some r.username = user.username) :
    SignUpDecided wellFormed user db ⟨⟨409, entity⟩, db, []⟩ where
  unprocessable := iff_of_false (by decide : 409 ≠ 422) (not_not.2 hadmissible)
  conflict _ := iff_of_true rfl htaken
  ok _ hfree := by
    obtain ⟨r, hr, hname⟩ := htaken
    exact absurd hname (hfree r hr)
  stored h := absurd h (by decide : 409 ≠ 200)
  noError h := absurd h (by decide : 409 ≠ 500)
  unchanged _ := rfl

/-- The answer 200 is right where the account has been stored. -/
theorem signUpDecided_stored {wellFormed : String → Prop} {valid : ValidSignUpUser} {d : Database}
    {writes : List Action}
    (hadmissible : SignUpUser.Admissible wellFormed
      ⟨some valid.username, some valid.email, some valid.password⟩)
    (hfree : ∀ r ∈ db.rows, r.username ≠ valid.username)
    (hrows : d.rows = db.rows ++ [newRow db valid]) :
    SignUpDecided wellFormed ⟨some valid.username, some valid.email, some valid.password⟩ db
      ⟨⟨200, .none⟩, d, writes⟩ where
  unprocessable := iff_of_false (by decide : 200 ≠ 422) (not_not.2 hadmissible)
  conflict _ := by
    refine iff_of_false (by decide : 200 ≠ 409) fun htaken ↦ ?_
    obtain ⟨r, hr, hname⟩ := htaken
    exact hfree r hr (Option.some.inj hname)
  ok _ _ := rfl
  stored _ := ⟨newRow db valid, hrows, rfl, le_rfl, rfl⟩
  noError h := absurd h (by decide : 200 ≠ 500)
  unchanged h := absurd rfl h

/-- An answer other than 422 is right for admissible bodies only. -/
theorem SignUpDecided.admissible {wellFormed : String → Prop} {o : Outcome}
    (h : SignUpDecided wellFormed user db o) (hstatus : o.response.status ≠ 422) :
    user.Admissible wellFormed := by
  by_contra hnot
  exact hstatus (h.unprocessable.2 hnot)

/-- **When validation decides a sign-up.** -/
theorem signUpDecided_iff (wellFormed : String → Prop) :
    SignUpDecided wellFormed user db ((Call.createUser (.value user)).handle tokenType env db) ↔
      user.SomeEmpty ∨ user.CanSignUp wellFormed env db := by
  by_cases hempty : user.SomeEmpty
  · refine iff_of_true ?_ (Or.inl hempty)
    rw [handle_createUser_of_someEmpty hempty]
    exact signUpDecided_unprocessable fun h ↦ h.notEmpty hempty
  · obtain ⟨valid, hvalid⟩ := SignUpUser.exists_validate hempty
    rw [or_iff_right hempty, handle_createUser_of_valid hvalid]
    obtain rfl := SignUpUser.eq_of_validate hvalid
    have houtcome := @createUser_outcome env db valid
    generalize unitOfWork env (UserResource.createUser env (some valid)) db = o at houtcome ⊢
    constructor
    · intro h
      cases houtcome with
      | failed => exact absurd rfl h.noError
      | taken htaken hlookup hcommit =>
        obtain ⟨r, hr, hname⟩ := htaken
        exact ⟨h.admissible (by decide : 409 ≠ 422), hlookup, hcommit,
          fun hfree ↦ absurd (congrArg some hname) (hfree r hr)⟩
      | stored _ _ hrange hstores =>
        exact ⟨h.admissible (by decide : 200 ≠ 422), hstores.lookup, hstores.commit,
          fun _ ↦ ⟨hstores.write, hrange⟩⟩
    · intro h
      have hfits : (newRow db valid).Fits := h.admissible.fits
      cases houtcome with
      | failed hcause =>
        -- nothing fails: each of the causes is excluded
        obtain hlookup | hcommit | ⟨hfree, hrest⟩ := hcause
        · cases h.lookup.symm.trans hlookup
        · cases h.commit.symm.trans hcommit
        · obtain ⟨hwrite, hrange⟩ := h.write fun r hr hname ↦ hfree r hr (Option.some.inj hname)
          obtain hwrite' | hrange' | hfits' := hrest
          · cases hwrite.symm.trans hwrite'
          · exact absurd hrange hrange'
          · exact absurd hfits hfits'
      | taken htaken =>
        obtain ⟨r, hr, hname⟩ := htaken
        exact signUpDecided_taken h.admissible ⟨r, hr, congrArg some hname⟩
      | stored hfree _ _ _ hrows => exact signUpDecided_stored h.admissible hfree hrows

/-! ### `PUT /user` -/

section

variable {r : UserRow}

theorem handle_updateUser_of_someEmpty (h : user.SomeEmpty) :
    (Call.bearer r.load (.updateUser (.value user))).handle tokenType env db =
      ⟨⟨422, .framework⟩, db, []⟩ := by
  have hmethod : (Call.bearer r.load (.updateUser (.value user))).run tokenType env
      (Session.openSession db) = (.error .constraintViolation, Session.openSession db) := by
    rw [Call.run, Operation.run, readValid_of_someEmpty h]
    rfl
  exact unitOfWork_of_error hmethod

/-- A refusal is not put down to the body of the request. -/
theorem refusalResponse_status_ne : (refusalResponse env).status ≠ 422 := by
  have h404 : 404 ≠ 422 := by decide
  have h500 : 500 ≠ 422 := by decide
  rw [refusalResponse]
  split
  · rw [readOnlyResponse]
    split
    · exact h500
    · exact h404
  · exact h500

/-- A change of the own credentials gets through without a failure of the libraries. -/
structure SignUpUser.CanChange (wellFormed : String → Prop) (tokenType : String)
    (env : Environment) (user : SignUpUser) : Prop where
  /-- The body is admissible. -/
  admissible : user.Admissible wellFormed
  /-- The database and the token handler work. -/
  works : Works tokenType env
  /-- So do signature and encryption. -/
  signs : ¬ TokenHandler.JoseFails tokenType env

/-- The answer 422 is right for a body that is not admissible. -/
theorem changeDecided_unprocessable {wellFormed : String → Prop}
    (hnot : ¬ user.Admissible wellFormed) :
    ChangeDecided wellFormed user r db ⟨⟨422, .framework⟩, db, []⟩ where
  unprocessable := iff_of_true rfl hnot
  ok h := absurd h hnot
  stored h := absurd h (by decide : 422 ≠ 200)
  noError h := absurd h (by decide : 422 ≠ 500)
  unchanged _ := rfl

/-- The answer 200 is right where the row has been changed. -/
theorem changeDecided_stored {wellFormed : String → Prop} {d : Database} {entity : Entity}
    {writes : List Action} (hadmissible : user.Admissible wellFormed)
    (hstored : ∃ r' ∈ d.rows, r'.id = r.id ∧
      user = ⟨some r'.username, some r'.email, some r'.password⟩) :
    ChangeDecided wellFormed user r db ⟨⟨200, entity⟩, d, writes⟩ where
  unprocessable := iff_of_false (by decide : 200 ≠ 422) (not_not.2 hadmissible)
  ok _ := rfl
  stored _ := hstored
  noError h := absurd h (by decide : 200 ≠ 500)
  unchanged h := absurd rfl h

/-- An answer other than 422 is right for admissible bodies only. -/
theorem ChangeDecided.admissible {wellFormed : String → Prop} {o : Outcome}
    (h : ChangeDecided wellFormed user r db o) (hstatus : o.response.status ≠ 422) :
    user.Admissible wellFormed := by
  by_contra hnot
  exact hstatus (h.unprocessable.2 hnot)

/-- **When validation decides a change of credentials** under the username of the caller. -/
theorem changeDecided_iff (wellFormed : String → Prop) (hr : r ∈ db.rows)
    (hname : user.username = some r.username) :
    ChangeDecided wellFormed user r db
        ((Call.bearer r.load (.updateUser (.value user))).handle tokenType env db) ↔
      user.SomeEmpty ∨ user.CanChange wellFormed tokenType env := by
  by_cases hempty : user.SomeEmpty
  · refine iff_of_true ?_ (Or.inl hempty)
    rw [handle_updateUser_of_someEmpty hempty]
    exact changeDecided_unprocessable fun h ↦ h.notEmpty hempty
  · obtain ⟨valid, hvalid⟩ := SignUpUser.exists_validate hempty
    have huser := SignUpUser.eq_of_validate hvalid
    have hvname : r.username = valid.username := by
      rw [huser] at hname
      exact (Option.some.inj hname).symm
    have hupdated : (Call.bearer r.load (.updateUser (.value user))).updated =
        some ((r.load.setEmail valid.email).setPassword valid.password) := by
      show (user.validate.bind fun valid ↦ _) = _
      rw [hvalid, Option.bind_some]
      exact if_pos hvname
    rw [or_iff_right hempty, Call.handle_of_updated hupdated]
    by_cases hwritten : Works tokenType env ∧
        ∃ db', db.update ((r.load.setEmail valid.email).setPassword valid.password) = some db'
    · obtain ⟨hworks, d, hupdate⟩ := hwritten
      rw [updateAndReissue_of_update hworks hupdate, reissueResponse]
      by_cases hjose : TokenHandler.JoseFails tokenType env
      · rw [if_pos hjose]
        exact iff_of_false (fun h ↦ h.noError rfl) fun h ↦ h.signs hjose
      · rw [if_neg hjose]
        have hrow := Database.writeBack_mem_update hupdate hr rfl
        have hfields : user = ⟨some r.username, some valid.email, some valid.password⟩ := by
          rw [hvname, huser]
          rfl
        constructor
        · intro h
          exact ⟨h.admissible (by decide : 200 ≠ 422), hworks, hjose⟩
        · intro h
          exact changeDecided_stored h.admissible ⟨_, hrow, rfl, hfields⟩
    · rw [updateAndReissue_of_not hwritten]
      refine iff_of_false (fun h ↦ ?_) fun h ↦ ?_
      · -- the refusal is neither the answer to an admissible body nor to another one
        exact refusalResponse_ne.1 (h.ok (h.admissible refusalResponse_status_ne))
      · obtain ⟨-, hemail, hpassword⟩ := h.admissible.fits
        rw [huser] at hemail hpassword
        exact hwritten ⟨h.works, Database.exists_update_iff.2
          ⟨⟨r, hr, rfl, rfl⟩, hemail, hpassword⟩⟩

end

/-! ### Both endpoints -/

/-- **When validation decides.** Whatever well formed means, the answers to `POST /user` and to a
`PUT /user` under the username of the caller are the documented ones exactly where a field is empty,
or where the body is admissible and nothing fails. A body that is malformed or too long gets past
validation in every store. -/
theorem validation_decides_iff (wellFormed : String → Prop) (db : Database) (user : SignUpUser)
    (authEnv env : Environment) :
    (SignUpDecided wellFormed user db
        (Exchange.serve tokenType db ⟨.createUser (.value user), authEnv, env⟩) ↔
      user.SomeEmpty ∨ user.CanSignUp wellFormed env db) ∧
    ∀ token r,
      (Request.bearer token (.updateUser (.value user))).AcceptedAs tokenType authEnv db r →
      user.username = some r.username →
        (ChangeDecided wellFormed user r db (Exchange.serve tokenType db
            ⟨.bearer token (.updateUser (.value user)), authEnv, env⟩) ↔
          user.SomeEmpty ∨ user.CanChange wellFormed tokenType env) := by
  refine ⟨signUpDecided_iff wellFormed, fun token r haccepted hname ↦ ?_⟩
  rw [Exchange.serve_bearer rfl haccepted]
  exact changeDecided_iff wellFormed haccepted.1 hname

/-- The credentials alice changes to. -/
def aliceMoves : SignUpUser := ⟨some "alice", some "new@b", some "new"⟩

theorem validation_decides_iff_alice :
    ChangeDecided HasParts aliceMoves ⟨1, "alice", "alice@a", "secret", []⟩
      (serveAll "jws" .empty [aliceSignsUp.quietly])
      (Exchange.serve "jws" (serveAll "jws" .empty [aliceSignsUp.quietly])
        ⟨.bearer (.jws aliceClaims) (.updateUser (.value aliceMoves)), .quiet, .quiet⟩) := by
  have haccepted : (Request.bearer (.jws aliceClaims) (.updateUser (.value aliceMoves))).AcceptedAs
      "jws" .quiet (serveAll "jws" .empty [aliceSignsUp.quietly])
      ⟨1, "alice", "alice@a", "secret", []⟩ :=
    ⟨by decide +kernel, Or.inr ⟨_, by rfl⟩⟩
  have hempty : ¬ aliceMoves.SomeEmpty := by
    unfold SignUpUser.SomeEmpty
    decide
  have hparts : HasParts "new@b" := ⟨"new", "b", by decide, by decide, by decide⟩
  have hcan : aliceMoves.CanChange HasParts "jws" .quiet :=
    ⟨⟨hempty, hparts, by decide +kernel⟩, ⟨⟨rfl, rfl, rfl⟩, Or.inl rfl⟩, by decide⟩
  exact ((validation_decides_iff HasParts _ aliceMoves .quiet .quiet).2 _ _ haccepted rfl).2
    (Or.inr hcan)

/-- Sign-ups with an email that has no `@`, and with a username of thirty characters. -/
def malformedSignUp : SignUpUser := ⟨some "alice", some "nonsense", some "secret"⟩

@[inherit_doc malformedSignUp]
def longSignUp : SignUpUser :=
  ⟨some "abcdefghijabcdefghijabcdefghij", some "alice@a", some "secret"⟩

/-- The first is answered 200 and stored, the second 500. -/
theorem malformed_sign_up_accepted :
    (Exchange.serve "jws" .empty ⟨.createUser (.value malformedSignUp), .quiet, .quiet⟩).response =
        ⟨200, .none⟩ ∧
      (Exchange.serve "jws" .empty ⟨.createUser (.value longSignUp), .quiet, .quiet⟩).response =
        ⟨500, .framework⟩ ∧
      ¬ HasParts "nonsense" ∧
      ¬ SignUpDecided HasParts malformedSignUp .empty
        (Exchange.serve "jws" .empty ⟨.createUser (.value malformedSignUp), .quiet, .quiet⟩) := by
  have hresponse : (Exchange.serve "jws" .empty
      ⟨.createUser (.value malformedSignUp), .quiet, .quiet⟩).response = ⟨200, .none⟩ := by
    decide +kernel
  have hparts : ¬ HasParts "nonsense" := by
    intro h
    obtain ⟨localPart, domain, -, -, hemail⟩ := h
    have hmem : '@' ∈ (localPart ++ "@" ++ domain).toList := by
      rw [String.toList_append, String.toList_append]
      simp
    rw [← hemail] at hmem
    revert hmem
    decide
  refine ⟨hresponse, by decide +kernel, hparts, fun h ↦ ?_⟩
  have h422 := h.unprocessable.2 fun hadmissible ↦ hparts hadmissible.email
  rw [hresponse] at h422
  cases h422

end DseAuth
