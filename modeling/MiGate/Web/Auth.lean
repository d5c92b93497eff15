import MiGate.Db.Sessions
import MiGate.Go.Encoding

namespace MiGate.Web

open Db Go

def sessionTouchMinAge : Int := minute

def sessionLifetime : Int := 7 * 24 * hour

def maxActiveSessions : Nat := 10

/-- The keyed hash the panel signs sessions with and the hash it stores tokens under. -/
structure SessionCrypto where
  /-- `signMessage` with the panel's secret. -/
  signMessage : List UInt8 → String
  hashToken : String → String

/-- The bytes of a text. -/
def utf8 (text : String) : List UInt8 :=
  text.toList.flatMap String.utf8EncodeChar

/-- `time.Time.Unix`. -/
def unix (instant : Int) : Int :=
  instant / second

def createSessionToken (crypto : SessionCrypto) (now : Int) (username : String) (nonce : Vector UInt8 8) : String :=
  let payload := utf8 (username ++ ":" ++ itoa (unix (now + sessionLifetime)) ++ ":" ++ encodeHex nonce.toList)
  encodeHex payload ++ "." ++ crypto.signMessage payload

def hexDigit (rune : Char) : Option Nat :=
  if '0' ≤ rune ∧ rune ≤ '9' then some (rune.toNat - '0'.toNat)
  else if 'a' ≤ rune ∧ rune ≤ 'f' then some (rune.toNat - 'a'.toNat + 10)
  else if 'A' ≤ rune ∧ rune ≤ 'F' then some (rune.toNat - 'A'.toNat + 10)
  else none

/-- `hex.DecodeString`. -/
def decodeHex : List Char → Option (List UInt8)
  | [] => some []
  | [_] => none
  | high :: low :: rest => do
      let high ← hexDigit high
      let low ← hexDigit low
      let bytes ← decodeHex rest
      return UInt8.ofNat (high * 16 + low) :: bytes

/-- What stands before the first separator, and what stands after it if there is one. -/
def cut {α : Type} [DecidableEq α] (separator : α) (items : List α) : List α × Option (List α) :=
  (items.takeWhile (· ≠ separator),
    if separator ∈ items then some ((items.dropWhile (· ≠ separator)).drop 1) else none)

def colon : UInt8 := 58

/-- `strconv.ParseInt(…, 10, 64)` on a text given by its bytes. -/
def parseInt64 (bytes : List UInt8) : Option Int :=
  let (negative, digits) := match bytes with
    | 43 :: rest => (false, rest)
    | 45 :: rest => (true, rest)
    | _ => (false, bytes)
  if digits = [] ∨ !digits.all fun byte => 48 ≤ byte && byte ≤ 57 then none
  else
    let magnitude : Int := digits.foldl (fun value byte => value * 10 + (byte.toNat - 48 : Nat)) 0
    let value := if negative then -magnitude else magnitude
    if -2 ^ 63 ≤ value ∧ value < 2 ^ 63 then some value else none

/-- The expiry second a token's payload carries: its second field. -/
def payloadExpiry (payload : List UInt8) : Option Int := do
  let rest ← (cut colon payload).2
  parseInt64 (cut colon rest).1

def validateSessionToken (crypto : SessionCrypto) (now : Int) (token : String) : Bool :=
  match cut '.' token.toList with
  | (_, none) => false
  | (encoded, some signature) =>
      match decodeHex encoded with
      | none => false
      | some payload =>
          (payloadExpiry payload).any (fun expiry => unix now ≤ expiry) &&
            String.ofList signature = crypto.signMessage payload

/-- Whether `authMiddleware` lets a request with a session cookie pass: the token is validated
at one reading of the clock, and looked up in the blacklist at a later one. -/
def authMiddleware (crypto : SessionCrypto) (validatedAt checkedAt : Int) (token : String)
    (sessions : Sessions) : Bool :=
  validateSessionToken crypto validatedAt token &&
    !isBlacklisted checkedAt (crypto.hashToken token) sessions

/-! ### The requests that touch the sessions -/

inductive SessionAction where
  | login (username : String) (nonce : Vector UInt8 8) (createdAt trackedAt cleanedAt prunedAt : Int)
  | logout (token : String) (at_ : Int)
  | revoke (id : Int) (at_ : Int)
  | revokeOthers (current : String) (at_ : Int)
  | list (cleanedAt readAt : Int)
  | request (token : String) (validatedAt checkedAt : Int) (touchedAt : Option Int)

/-- The clock readings of an action, in the order they are made. -/
def SessionAction.readings : SessionAction → List Int
  | .login _ _ createdAt trackedAt cleanedAt prunedAt => [createdAt, trackedAt, cleanedAt, prunedAt]
  | .logout _ at_ | .revoke _ at_ | .revokeOthers _ at_ => [at_]
  | .list cleanedAt readAt => [cleanedAt, readAt]
  | .request _ validatedAt checkedAt touchedAt => validatedAt :: checkedAt :: touchedAt.toList

/-- The token an action issues. -/
def SessionAction.issued (crypto : SessionCrypto) : SessionAction → Option String
  | .login username nonce createdAt _ _ _ => some (createSessionToken crypto createdAt username nonce)
  | _ => none

/-- A touch is skipped when the middleware's memory holds a recent one (`touchedAt` is then
`none`), and never made for a revoked session. -/
def touchSessionOf (crypto : SessionCrypto) (token : String) (checkedAt : Int) (touchedAt : Option Int)
    (sessions : Sessions) : Sessions :=
  match touchedAt with
  | some touchedAt =>
      if isBlacklisted checkedAt (crypto.hashToken token) sessions then sessions
      else recordSessionTouchAfter touchedAt sessionTouchMinAge (crypto.hashToken token) sessions
  | none => sessions

def SessionAction.run (crypto : SessionCrypto) (sessions : Sessions) : SessionAction → Sessions
  | .login username nonce createdAt trackedAt cleanedAt prunedAt =>
      pruneActiveSessions cleanedAt prunedAt maxActiveSessions
        (addToBlacklist trackedAt (crypto.hashToken (createSessionToken crypto createdAt username nonce))
          (trackedAt + sessionLifetime) false sessions)
  | .logout token at_ =>
      if token = "" then sessions
      else addToBlacklist at_ (crypto.hashToken token) (at_ + sessionLifetime) true sessions
  | .revoke id _ => ((revokeSession id sessions).toOption).getD sessions
  | .revokeOthers current at_ =>
      if validateSessionToken crypto at_ current then
        revokeOtherSessions at_ (crypto.hashToken current) sessions
      else sessions
  | .list cleanedAt readAt => (listActiveSessions cleanedAt readAt sessions).1
  | .request token validatedAt checkedAt touchedAt =>
      if validateSessionToken crypto validatedAt token then
        touchSessionOf crypto token checkedAt touchedAt sessions
      else sessions

end MiGate.Web
