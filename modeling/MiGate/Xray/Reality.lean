import MiGate.Db.Inbounds

namespace MiGate.Xray

open Go Db

def deriveRealityPublicKeyLocal (platform : Platform) (privateKey : String) : Except String String := do
  match decodeBase64RawURL privateKey with
  | none => .error "illegal base64 data"
  | some privateBytes =>
      if privateBytes.length ≠ 32 then .error s!"invalid x25519 private key length: {privateBytes.length}"
      else do
        let publicBytes ← platform.x25519 privateBytes
        pure (encodeBase64RawURL publicBytes)

/-- `DeriveRealityPublicKey`, which does not trim the key. -/
def deriveRealityPublicKey (platform : Platform) (privateKey : String) : Except String String :=
  deriveRealityPublicKeyLocal platform privateKey

/-- `GenerateRealityKey`, with the bytes the random source gives. -/
def generateRealityKey (platform : Platform) (privateBytes : Vector UInt8 32) : Except String (String × String) :=
  match platform.x25519 privateBytes.toList with
  | .ok publicBytes => .ok (encodeBase64RawURL privateBytes.toList, encodeBase64RawURL publicBytes)
  | .error error => .error ("derive x25519 public key: " ++ error)

end MiGate.Xray
