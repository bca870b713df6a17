import DseAuth.Core.Runtime
import DseAuth.Library.Json
import Mathlib.Algebra.Group.Int.Defs

/-!
# Claims, tokens and their consumer

`JwtClaims` is the claims map of jose4j with the three getters the code uses. A `Token` is what a
client sends after `Bearer`: claims under a valid signature, bare (`jws`) or encrypted (`jwe`), or
a string that verifies as neither. Signature and encryption are jose4j's; that they deliver the
claims unchanged is built into the type, and anyone who holds the key may have signed any claims.

`JwtConsumer.process` is the consumer as `ms1Application.run` configures it.
-/

namespace DseAuth

/-- `org.jose4j.jwt.JwtClaims`. -/
structure JwtClaims where
  /-- The claims map. -/
  claimsMap : List (String × Json)
deriving DecidableEq

namespace JwtClaims

/-- `getClaimValue`: a missing claim is null. -/
def getClaimValue (claims : JwtClaims) (claimName : String) : Json :=
  (claims.claimsMap.lookup claimName).getD .null

/-- `getSubject`. -/
def getSubject (claims : JwtClaims) : Except JavaException (Option String) :=
  match claims.getClaimValue "sub" with
  | .null => .ok none
  | .string s => .ok (some s)
  | _ => .error .malformedClaim

/-- `getExpirationTime`, in seconds; `none` where it is null or malformed. -/
def getExpirationTime (claims : JwtClaims) : Option ℤ :=
  match claims.getClaimValue "exp" with
  | .number mantissa exponent => some (mantissa.tdiv (10 ^ exponent))
  | _ => none

end JwtClaims

/-- What stands after `Bearer` in a request. -/
inductive Token
  /-- Signed claims. -/
  | jws (claims : JwtClaims)
  /-- Signed claims, encrypted. -/
  | jwe (claims : JwtClaims)
  /-- Anything that does not verify under the key of the service, or nothing at all. -/
  | unverifiable
deriving DecidableEq

/-- The claims a token carries. -/
def Token.claims : Token → Option JwtClaims
  | .jws claims => some claims
  | .jwe claims => some claims
  | .unverifiable => none

/-- The claims under the signature, if the consumer can get at them: it has a decryption key only
where `tokenType` is `jwe`, and does not insist on encryption there. -/
def Token.decrypt (tokenType : String) : Token → Option JwtClaims
  | .jws claims => some claims
  | .jwe claims => if tokenType = "jwe" then some claims else none
  | .unverifiable => none

/-- The consumer's checks: `setRequireExpirationTime`, `setAllowedClockSkewInSeconds(30)` and
`setRequireSubject`. -/
def JwtConsumer.check (now : ℤ) (claims : JwtClaims) : Bool :=
  (match claims.getExpirationTime with
    | some exp => decide (now - 30 < exp)
    | none => false) &&
  (match claims.getSubject with
    | .ok (some _) => true
    | _ => false)

/-- `JwtConsumer.process`; `none` is an `InvalidJwtException`. -/
def JwtConsumer.process (tokenType : String) (now : ℤ) (token : Token) : Option JwtClaims :=
  (token.decrypt tokenType).filter (JwtConsumer.check now)

theorem Token.claims_of_decrypt {tokenType : String} {token : Token} {claims : JwtClaims}
    (h : token.decrypt tokenType = some claims) : token.claims = some claims := by
  cases token with
  | jws c => exact h
  | jwe c => exact (Option.ite_none_right_eq_some.1 h).2
  | unverifiable => cases h

/-- What the consumer lets through is what the token carries. -/
theorem JwtConsumer.claims_of_process {tokenType : String} {now : ℤ} {token : Token}
    {claims : JwtClaims} (h : JwtConsumer.process tokenType now token = some claims) :
    token.claims = some claims :=
  Token.claims_of_decrypt (Option.eq_some_of_filter_eq_some h)

/-- What the consumer lets through has a subject, which is a string. -/
theorem JwtConsumer.subject_of_process {tokenType : String} {now : ℤ} {token : Token}
    {claims : JwtClaims} (h : JwtConsumer.process tokenType now token = some claims) :
    ∃ sub, claims.getSubject = .ok (some sub) := by
  have hcheck : JwtConsumer.check now claims = true := (Option.filter_eq_some_iff.1 h).2
  rw [JwtConsumer.check, Bool.and_eq_true] at hcheck
  rcases hsubject : claims.getSubject with e | _ | sub
  · rw [hsubject] at hcheck
    cases hcheck.2
  · rw [hsubject] at hcheck
    cases hcheck.2
  · exact ⟨sub, rfl⟩

end DseAuth
