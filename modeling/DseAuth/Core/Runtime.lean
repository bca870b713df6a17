import Mathlib.Data.Int.Notation

/-!
# Exceptions and the behaviour of the libraries

The Java exceptions that the modelled code throws, catches or lets pass, and the choices that are
not its own: what the clock says, which token id is generated, and whether the database and jose4j
do what they are asked. A run fixes an `Environment` for every step it takes, so a statement about
all environments is a statement about all outcomes of the libraries.
-/

namespace DseAuth

/-- The exceptions that occur. -/
inductive JavaException
  /-- `org.hibernate.HibernateException` out of a session method. -/
  | hibernate
  /-- The failure of a flush or of a commit, after the resource method has returned. -/
  | persistence
  /-- `db.IllegalCredentialsException`. -/
  | illegalCredentials (message : String)
  /-- `IllegalStateException`. -/
  | illegalState (message : String)
  /-- `IllegalArgumentException`. -/
  | illegalArgument (message : String)
  /-- `org.jose4j.lang.JoseException`. -/
  | jose
  /-- `org.jose4j.jwt.MalformedClaimException`. -/
  | malformedClaim
  /-- `io.dropwizard.auth.AuthenticationException`. -/
  | authentication (message : String)
  /-- `ClassCastException`. -/
  | classCast
  /-- `NumberFormatException`. -/
  | numberFormat
  /-- `NullPointerException`. -/
  | nullPointer
  /-- The violation of a bean validation constraint by a request body. -/
  | constraintViolation
  /-- A request body that Jackson cannot read. -/
  | jsonProcessing
deriving DecidableEq

/-- What the libraries do during one step. -/
structure Environment where
  /-- The clock, in seconds. -/
  now : ℤ
  /-- The token id that `setGeneratedJwtId` draws. -/
  jti : String
  /-- Queries throw `HibernateException`. -/
  lookupFails : Bool := false
  /-- `Session.persist`, `update` and `delete` throw when they are called. -/
  writeFails : Bool := false
  /-- Signing throws `JoseException`. -/
  signingFails : Bool := false
  /-- Encrypting throws `JoseException`. -/
  encryptingFails : Bool := false
  /-- The database cannot commit, whatever is to be committed. -/
  commitFails : Bool := false
deriving DecidableEq

end DseAuth
