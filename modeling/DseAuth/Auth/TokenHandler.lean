import DseAuth.Auth.Authenticators

/-!
# The token handler

`auth.TokenHandler` builds the token of a principal, of which it only uses the name: the account is
looked up again, in the session of the request the token answers. What the lookup finds decides the
subject and the privileges of the token; the username is the name of the principal.

`buildToken_eq_ok_iff` says when a token comes out and what it carries, `buildToken_eq_error` what
comes out otherwise, and `authenticates_claimsFor_iff` which rows a token that came out
authenticates.
-/

namespace DseAuth.TokenHandler

/-- The claims `buildJWS` sets, in its order. -/
def claimsFor (env : Environment) (name : String) (u : User) : JwtClaims where
  claimsMap :=
    [("sub", .string (toString u.id)),
      ("privileges", .array (u.getPrivileges.elems.map Json.ofNullable)),
      ("username", .string name),
      ("iat", .number env.now 0),
      ("exp", .number (env.now + 45 * 60) 0),
      ("jti", .string env.jti)]

/-- `buildJWS`; the result is the claims under the signature. -/
def buildJWS (env : Environment) (name : String) (s : Session) : Except JavaException JwtClaims :=
  match UserDAO.findByName env (some name) s with
  | .error e => .error e
  | .ok none =>
    .error (.illegalState
      "User Account found during authentication, but not during token creation!")
  | .ok (some u) =>
    if env.signingFails then .error .jose else .ok (claimsFor env name u)

/-- `buildJWE`; the result is the claims under signature and encryption. -/
def buildJWE (env : Environment) (name : String) (s : Session) : Except JavaException JwtClaims :=
  match buildJWS env name s with
  | .error e => .error e
  | .ok innerJWT => if env.encryptingFails then .error .jose else .ok innerJWT

/-- A token of the configured type around claims. -/
def tokenOf (tokenType : String) (claims : JwtClaims) : Token :=
  if tokenType = "jwe" then .jwe claims else .jws claims

/-- `buildToken`. The `catch` of the source only logs and rethrows. -/
def buildToken (tokenType : String) (env : Environment) (name : String) (s : Session) :
    Except JavaException Token :=
  match tokenType with
  | "jws" => (buildJWS env name s).map .jws
  | "jwe" => (buildJWE env name s).map .jwe
  | _ => .error (.illegalArgument "no valid tokentype provided!")

/-- The configuration names one of the two token types. -/
def ValidTokenType (tokenType : String) : Prop := tokenType = "jws" ∨ tokenType = "jwe"

instance (tokenType : String) : Decidable (ValidTokenType tokenType) :=
  inferInstanceAs (Decidable (_ ∨ _))

/-- jose4j throws: at the signature, or at the encryption where there is one. -/
def JoseFails (tokenType : String) (env : Environment) : Prop :=
  env.signingFails = true ∨ tokenType = "jwe" ∧ env.encryptingFails = true

instance (tokenType : String) (env : Environment) : Decidable (JoseFails tokenType env) :=
  inferInstanceAs (Decidable (_ ∨ _))

variable {tokenType name : String} {env : Environment} {s : Session} {u : User}

/-! ### The claims in a token -/

@[simp] theorem claims_tokenOf {claims : JwtClaims} :
    (tokenOf tokenType claims).claims = some claims := by
  rw [tokenOf]
  split <;> rfl

@[simp] theorem decrypt_tokenOf {claims : JwtClaims} :
    (tokenOf tokenType claims).decrypt tokenType = some claims := by
  rw [tokenOf]
  split
  · next h => exact if_pos h
  · rfl

/-! ### The getters on issued claims -/

@[simp] theorem getSubject_claimsFor :
    (claimsFor env name u).getSubject = .ok (some (toString u.id)) := rfl

@[simp] theorem username_claimsFor :
    (claimsFor env name u).getClaimValue "username" = .string name := rfl

@[simp] theorem privileges_claimsFor :
    (claimsFor env name u).getClaimValue "privileges" =
      .array (u.getPrivileges.elems.map Json.ofNullable) := rfl

@[simp] theorem getExpirationTime_claimsFor :
    (claimsFor env name u).getExpirationTime = some (env.now + 45 * 60) := by
  show some ((env.now + 45 * 60).tdiv (10 ^ 0)) = _
  rw [pow_zero, Int.tdiv_one]

/-- The consumer lets an issued token through until thirty seconds after its expiry. -/
theorem check_claimsFor {now : ℤ} :
    JwtConsumer.check now (claimsFor env name u) = decide (now - 30 < env.now + 45 * 60) := by
  rw [JwtConsumer.check, getExpirationTime_claimsFor, getSubject_claimsFor, Bool.and_true]

/-- The consumer gets at the claims it issued until then. -/
theorem process_tokenOf {now : ℤ} (h : now - 30 < env.now + 45 * 60) :
    JwtConsumer.process tokenType now (tokenOf tokenType (claimsFor env name u)) =
      some (claimsFor env name u) := by
  rw [JwtConsumer.process, decrypt_tokenOf, Option.filter_some, check_claimsFor,
    if_pos (decide_eq_true h)]

/-- **When issued claims authenticate a row** of the name: when the row holds exactly what the user
in the token held, and that was no null. -/
theorem authenticates_claimsFor_iff {r : UserRow} (hid : JavaInteger.InRange u.id) :
    Authenticates (claimsFor env r.username u) r ↔
      none ∉ u.privileges.set ∧ ∀ p, some p ∈ u.privileges.set ↔ p ∈ r.privileges := by
  have hmem (a : Option String) :
      Json.ofNullable a ∈ u.getPrivileges.elems.map Json.ofNullable ↔ a ∈ u.privileges.set :=
    List.mem_map_of_injective Json.ofNullable_injective
  constructor
  · rintro ⟨-, -, elements, harray, helements⟩
    obtain rfl := Json.array.inj harray
    -- no row holds a null, so the claim with one is not the set of any row
    refine ⟨fun hnone ↦ ?_, fun p ↦ ?_⟩
    · obtain ⟨p, -, hp⟩ := (helements _).1 ((hmem none).2 hnone)
      cases hp
    · rw [← hmem (some p), helements]
      constructor
      · rintro ⟨q, hq, hqp⟩
        rwa [← Json.string.inj hqp]
      · exact fun hp ↦ ⟨p, hp, rfl⟩
  · rintro ⟨hnone, hsome⟩
    refine ⟨⟨toString u.id, u.id, rfl, JavaInteger.parseInt_toString hid⟩, rfl, _, rfl, fun j ↦ ?_⟩
    rw [List.mem_map]
    constructor
    · rintro ⟨_ | p, ha, rfl⟩
      · exact absurd ha hnone
      · exact ⟨p, (hsome p).1 ha, rfl⟩
    · rintro ⟨p, hp, rfl⟩
      exact ⟨some p, (hsome p).2 hp, rfl⟩

/-! ### Outcomes -/

/-- `buildToken` in one piece. It depends on the session only through the lookup. -/
theorem buildToken_eq :
    buildToken tokenType env name s =
      if ValidTokenType tokenType then
        match UserDAO.findByName env (some name) s with
        | .error e => .error e
        | .ok none =>
          .error (.illegalState
            "User Account found during authentication, but not during token creation!")
        | .ok (some u) =>
          if JoseFails tokenType env then .error .jose
          else .ok (tokenOf tokenType (claimsFor env name u))
      else .error (.illegalArgument "no valid tokentype provided!") := by
  unfold buildToken
  split
  · have hvalid : ValidTokenType "jws" := Or.inl rfl
    rw [if_pos hvalid, buildJWS]
    rcases UserDAO.findByName env (some name) s with e | _ | u
    · rfl
    · rfl
    · by_cases hs : env.signingFails = true
      · simp [JoseFails, hs, Except.map]
      · simp [JoseFails, tokenOf, hs, Except.map]
  · have hvalid : ValidTokenType "jwe" := Or.inr rfl
    rw [if_pos hvalid, buildJWE, buildJWS]
    rcases UserDAO.findByName env (some name) s with e | _ | u
    · rfl
    · rfl
    · by_cases hs : env.signingFails = true
      · simp [JoseFails, hs, Except.map]
      · by_cases he : env.encryptingFails = true
        · simp [JoseFails, hs, he, Except.map]
        · simp [JoseFails, tokenOf, hs, he, Except.map]
  · next hjws hjwe =>
    have hinvalid : ¬ ValidTokenType tokenType := not_or.2 ⟨hjws, hjwe⟩
    rw [if_neg hinvalid]

/-- **When a token comes out, and which.** -/
theorem buildToken_eq_ok_iff {token : Token} :
    buildToken tokenType env name s = .ok token ↔
      ∃ u, UserDAO.findByName env (some name) s = .ok (some u) ∧ ValidTokenType tokenType ∧
        ¬ JoseFails tokenType env ∧ token = tokenOf tokenType (claimsFor env name u) := by
  rw [buildToken_eq]
  by_cases hvalid : ValidTokenType tokenType
  · rw [if_pos hvalid]
    rcases UserDAO.findByName env (some name) s with e | _ | u
    · exact ⟨nofun, fun ⟨_, h, _⟩ ↦ nomatch h⟩
    · exact ⟨nofun, fun ⟨_, h, _⟩ ↦ nomatch h⟩
    · constructor
      · intro h
        by_cases hjose : JoseFails tokenType env
        · cases (if_pos hjose).symm.trans h
        · have hok : (.ok (tokenOf tokenType (claimsFor env name u)) :
              Except JavaException Token) = .ok token := (if_neg hjose).symm.trans h
          exact ⟨u, rfl, hvalid, hjose, (Except.ok.inj hok).symm⟩
      · rintro ⟨u', hu', -, hjose, rfl⟩
        obtain rfl := Option.some.inj (Except.ok.inj hu')
        exact if_neg hjose
  · rw [if_neg hvalid]
    exact ⟨nofun, fun ⟨_, _, h, _⟩ ↦ absurd h hvalid⟩

/-- **What comes out otherwise.** A `JoseException` needs a valid token type and an account that was
found, since the lookup comes before the signature; the other exceptions are errors of the
server. -/
theorem buildToken_eq_error {e : JavaException} (h : buildToken tokenType env name s = .error e) :
    (e = .jose ∧ ValidTokenType tokenType ∧
        ∃ u, UserDAO.findByName env (some name) s = .ok (some u)) ∨
      e = .hibernate ∨ (∃ message, e = .illegalState message) ∨
        ∃ message, e = .illegalArgument message := by
  rw [buildToken_eq] at h
  by_cases hvalid : ValidTokenType tokenType
  · rw [if_pos hvalid] at h
    rcases hfind : UserDAO.findByName env (some name) s with e' | _ | u
    · rw [hfind] at h
      obtain rfl := Except.error.inj h
      exact Or.inr (Or.inl (UserDAO.findByName_eq_error hfind))
    · rw [hfind] at h
      exact Or.inr (Or.inr (Or.inl ⟨_, (Except.error.inj h).symm⟩))
    · rw [hfind] at h
      by_cases hjose : JoseFails tokenType env
      · have herror : (.error .jose : Except JavaException Token) = .error e :=
          (if_pos hjose).symm.trans h
        exact Or.inl ⟨(Except.error.inj herror).symm, hvalid, u, rfl⟩
      · cases (if_neg hjose).symm.trans h
  · rw [if_neg hvalid] at h
    exact Or.inr (Or.inr (Or.inr ⟨_, (Except.error.inj h).symm⟩))

end DseAuth.TokenHandler
