import MiGate.Db.Operations
import MiGate.Xray.Reality

namespace MiGate.Web

open Go Db Fallible

/-- What `writeJSONError` answers. -/
structure ApiError where
  status : Nat
  error : String
  message : Option String
deriving DecidableEq, Repr

/-- `ensureRealityShortID`, with the bytes the random source gives. -/
def ensureRealityShortID (bytes : Vector UInt8 4) (value : String) : String :=
  if trimSpace value ≠ "" then value else encodeHex bytes.toList

/-- How both requests end: the keys that are still missing are generated or derived. -/
def fillRealityKeys (platform : Platform) (entropy : Entropy) (settings : InboundSettings) :
    Except String InboundSettings := do
  let realityShortID := ensureRealityShortID entropy.realityShortID settings.realityShortID
  if trimSpace settings.realityPrivateKey = "" then
    let (privKey, pubKey) ← Xray.generateRealityKey platform entropy.realityPrivateKey
    pure { settings with realityPrivateKey := privKey, realityPublicKey := pubKey, realityShortID }
  else if trimSpace settings.realityPublicKey = "" then
    let pubKey ← Xray.deriveRealityPublicKey platform settings.realityPrivateKey
    pure { settings with realityPublicKey := pubKey, realityShortID }
  else pure { settings with realityShortID }

def prepareInboundRealityKeys (platform : Platform) (entropy : Entropy) (payload : CreateInboundParams) :
    Except String CreateInboundParams := do
  if toLower (trimSpace payload.security) ≠ "reality" then pure payload
  else
    let settings ← fillRealityKeys platform entropy payload.toInboundSettings
    pure { payload with toInboundSettings := settings }

/-- The keys a request leaves out, as the listed inbound has them. -/
def storedRealityKeys (inbounds : List Inbound) (inboundID : Int) (settings : InboundSettings) : InboundSettings :=
  match inbounds.find? fun inbound => inbound.id == inboundID with
  | none => settings
  | some inbound =>
      { settings with
        realityPrivateKey :=
          if trimSpace settings.realityPrivateKey = "" then inbound.realityPrivateKey
          else settings.realityPrivateKey
        realityPublicKey :=
          if trimSpace settings.realityPublicKey = "" then inbound.realityPublicKey
          else settings.realityPublicKey
        realityShortID :=
          if trimSpace settings.realityShortID = "" then inbound.realityShortID
          else settings.realityShortID }

def prepareUpdateInboundRealityKeys (platform : Platform) (entropy : Entropy) (store : Store) (inboundID : Int)
    (payload : UpdateInboundParams) : Except String UpdateInboundParams := do
  if toLower (trimSpace payload.security) ≠ "reality" then pure payload
  else
    let settings ← fillRealityKeys platform entropy
      (storedRealityKeys (listInbounds store) inboundID payload.toInboundSettings)
    pure { payload with toInboundSettings := settings }

def portConflict (conflict : InboundRow) : ApiError where
  status := 409
  error := "port_conflict"
  message := some s!"端口 {conflict.port} 已被入站 {conflict.id} 使用"

/-- The check of both requests before they reach the store. -/
def checkInboundPort (port excludeID : Int) (store : Store) : Except ApiError Unit :=
  match findInboundByPort port excludeID store with
  | some conflict => .error (portConflict conflict)
  | none => .ok ()

/-- `POST /api/inbounds`, with what the random source gives the handler and the store. -/
def createInbound (platform : Platform) (handler entropy : Entropy) (payload : CreateInboundParams) (store : Store) :
    Except ApiError (Store × Inbound) :=
  match prepareInboundRealityKeys platform handler payload with
  | .error _ => .error ⟨400, "prepare_reality_keys_failed", none⟩
  | .ok payload => do
      checkInboundPort payload.port 0 store
      match Db.createInbound platform entropy payload store with
      | .error error => .error ⟨400, error, none⟩
      | .ok created => .ok created

/-- `PUT /api/inbounds/{id}`. -/
def updateInbound (platform : Platform) (handler entropy : Entropy) (inboundID : Int) (payload : UpdateInboundParams)
    (store : Store) : Except ApiError (Store × Inbound) :=
  if inboundID ≤ 0 then .error ⟨404, "404 page not found", none⟩
  else if (listInbounds store).all fun inbound => inbound.id != inboundID then
    .error ⟨404, "inbound_not_found", none⟩
  else
    match prepareUpdateInboundRealityKeys platform handler store inboundID payload with
    | .error _ => .error ⟨400, "prepare_reality_keys_failed", none⟩
    | .ok payload => do
        checkInboundPort payload.port inboundID store
        match Db.updateInbound platform entropy inboundID payload store with
        | .error error =>
            if contains error "not found" then .error ⟨404, "inbound_not_found", none⟩
            else .error ⟨400, error, none⟩
        | .ok updated => .ok updated

end MiGate.Web
