import MiGate.Db.Models
import MiGate.Go.Encoding

namespace MiGate.Db

open Go

/-- What the program asks of its surroundings: libraries that are not part of the repository,
the file system and the network stack. -/
structure Platform where
  /-- `curve25519.X25519` at the base point. -/
  x25519 : List UInt8 → Except String (List UInt8)
  sha256 : String → List UInt8
  /-- `json.Unmarshal` into empty outbound settings, errors ignored. -/
  unmarshalOutboundSettings : String → OutboundSettings
  inboundPortAvailable : Int → Bool
  fileExists : String → Bool
  /-- `net.ParseIP`: how the address is printed, and whether it is an IPv4 one. -/
  parseIP : String → Option (String × Bool)
  isCIDR : String → Bool
  /-- The host of a URL that parses. -/
  urlHost : String → Option String
  /-- The host `net.SplitHostPort` splits off. -/
  splitHost : String → Option String

/-- The bytes the random source gives in the course of one operation, by what they are read
for.  Reading them never fails. -/
structure Entropy where
  inboundPort : Nat
  inboundUUID : Vector UInt8 16
  realityPrivateKey : Vector UInt8 32
  realityShortID : Vector UInt8 4
  credentialUUID : Vector UInt8 16
  secret : Vector UInt8 24
  username : Vector UInt8 8
  subscriptionTokens : Nat → Vector UInt8 24
  statsKeys : Nat → Vector UInt8 16

def newUUID (bytes : Vector UInt8 16) : String :=
  let bytes := (bytes.set 6 ((bytes[6] &&& 0x0f) ||| 0x40)).set 8 ((bytes[8] &&& 0x3f) ||| 0x80)
  let part := fun (first count : Nat) => encodeHex ((bytes.toList.drop first).take count)
  part 0 4 ++ "-" ++ part 4 2 ++ "-" ++ part 6 2 ++ "-" ++ part 8 2 ++ "-" ++ part 10 6

def randomHexToken {byteLen : Nat} (bytes : Vector UInt8 byteLen) : String :=
  encodeHex bytes.toList

def newSecret {byteLen : Nat} (bytes : Vector UInt8 byteLen) : String :=
  randomHexToken bytes

theorem spaceless_newUUID (bytes : Vector UInt8 16) : Spaceless (newUUID bytes) := by
  have dash : Spaceless "-" := by
    intro rune member
    rw [show rune = '-' by simpa using member]
    decide
  have part : ∀ part : List UInt8, Spaceless (encodeHex part) := spaceless_encodeHex
  exact ((((((((part _).append dash).append (part _)).append dash).append (part _)).append dash).append
    (part _)).append dash).append (part _)

theorem newUUID_ne_empty (bytes : Vector UInt8 16) : newUUID bytes ≠ "" := by
  intro empty
  have runes := congrArg String.toList empty
  simp [newUUID] at runes

theorem spaceless_randomHexToken {byteLen : Nat} (bytes : Vector UInt8 byteLen) :
    Spaceless (randomHexToken bytes) :=
  spaceless_encodeHex _

theorem spaceless_newSecret {byteLen : Nat} (bytes : Vector UInt8 byteLen) : Spaceless (newSecret bytes) :=
  spaceless_randomHexToken bytes

theorem newSecret_ne_empty {byteLen : Nat} (bytes : Vector UInt8 (byteLen + 1)) : newSecret bytes ≠ "" := by
  refine encodeHex_ne_empty fun none => ?_
  have length := congrArg List.length none
  simp at length

attribute [irreducible] newUUID randomHexToken newSecret

end MiGate.Db
