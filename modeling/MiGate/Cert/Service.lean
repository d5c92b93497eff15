import MiGate.Cert.Assets
import MiGate.Go.Bytes
import MiGate.Go.Rfc3339
import MiGate.Relational.Serial

namespace MiGate.Cert

open Go Disk Fallible Attempt Relational

/-! The certificate service: `Issue`, `Import` and `renewOne`. The log of operations, whose errors are
dropped, is left out. -/

structure Certificate where
  id : Int
  name : String
  source : String
  status : String
  domains : List String
  certPath : String
  keyPath : String
  notBefore : String
  notAfter : String
  fingerprint : String
  serial : String
  issueEmail : String
  acmeDirectoryURL : String
  challengeMethod : String
  lastError : String
  lastRenewed : String
deriving DecidableEq, Repr, Inhabited

structure UpsertCertificateParams where
  id : Int
  name : String
  source : String
  status : String
  domains : List String
  certPath : String
  keyPath : String
  notBefore : String
  notAfter : String
  fingerprint : String
  serial : String
  issueEmail : String
  acmeDirectoryURL : String
  challengeMethod : String
  lastError : String
  lastRenewed : String
deriving DecidableEq, Repr, Inhabited

/-- The files, and the rows of the table `certificates`. -/
structure State where
  files : Files
  certificates : Serial Certificate.id

structure Error where
  code : String
  detail : String
deriving DecidableEq, Repr, Inhabited

abbrev Action (α : Type) := Attempt Outcome State Error α

def onFiles {ε α : Type} (call : Call ε α) : Attempt Outcome State ε α :=
  within State.files (fun files state => { state with files }) call

/-- `certificateMeta`. -/
structure CertificateMeta where
  domains : List String
  notBefore : Int
  notAfter : Int
  fingerprint : String
  serial : String
deriving DecidableEq, Repr, Inhabited

/-- The packages `crypto/x509` and `net/mail`, and the time. -/
structure Surroundings where
  /-- `parseCertificatePair`: a certificate whose key it is. -/
  parseCertificatePair : Content → Content → Except Error CertificateMeta
  /-- `mail.ParseAddress`: the error, if there is one. -/
  addressError : String → Option String
  now : Int
  certDir : Directory

/-! ### The table -/

def orDefault (value fallback : String) : String :=
  if trimSpace value = "" then fallback else trimSpace value

/-- The name that is stored. -/
def rowName (name : String) (domains : List String) : String :=
  if trimSpace name ≠ "" then trimSpace name
  else orDefault (domains.headD "") "certificate"

/-- The row that is written under a number. -/
def UpsertCertificateParams.row (params : UpsertCertificateParams) (id : Int) : Certificate where
  id := id
  name := rowName params.name params.domains
  source := orDefault params.source "import"
  status := orDefault params.status "issued"
  domains := params.domains
  certPath := params.certPath
  keyPath := params.keyPath
  notBefore := params.notBefore
  notAfter := params.notAfter
  fingerprint := params.fingerprint
  serial := params.serial
  issueEmail := params.issueEmail
  acmeDirectoryURL := params.acmeDirectoryURL
  challengeMethod := params.challengeMethod
  lastError := params.lastError
  lastRenewed := params.lastRenewed

theorem UpsertCertificateParams.row_id (params : UpsertCertificateParams) (id : Int) : (params.row id).id = id :=
  rfl

theorem UpsertCertificateParams.keeps_id (params : UpsertCertificateParams) (row : Certificate) :
    (params.row row.id).id = row.id :=
  rfl

def certificateNotFound (id : Int) : String :=
  "certificate not found: " ++ itoa id

/-- A statement of the driver, which fails with the surroundings. -/
def statement {α : Type} (effect : State → Except String α × State) : Attempt Outcome State String α :=
  step fun outcome state =>
    match outcome.fault with
    | some reason => (.error reason, state)
    | none => effect state

def getCertificate (id : Int) : Attempt Outcome State String Certificate :=
  statement fun state =>
    match state.certificates.find? id with
    | some row => (.ok row, state)
    | none => (.error (certificateNotFound id), state)

/-- `ORDER BY id DESC`. -/
def listCertificates : Attempt Outcome State String (List Certificate) :=
  statement fun state => (.ok state.certificates.rows.reverse, state)

/-- The `UPDATE`; the result is the number of rows it has met. -/
def updateCertificate (params : UpsertCertificateParams) : Attempt Outcome State String Nat :=
  statement fun state =>
    let certificates := state.certificates.modifyWhere (fun row => row.id == params.id)
      (fun row => params.row row.id) fun row => params.row_id row.id
    (.ok (state.certificates.rows.countP fun row => row.id == params.id), { state with certificates })

/-- The `INSERT`; the result is the number of the row. -/
def insertCertificate (params : UpsertCertificateParams) : Attempt Outcome State String Int :=
  statement fun state =>
    let certificates := state.certificates.insert params.row params.row_id
    (.ok state.certificates.next, { state with certificates })

/-- What a driver may still fail with after a statement: `RowsAffected` or `LastInsertId`. -/
def driverResult : Attempt Outcome State String Unit :=
  onFiles settle

def upsertCertificate (params : UpsertCertificateParams) : Attempt Outcome State String Certificate :=
  if 0 < params.id then do
    let affected ← updateCertificate params
    driverResult
    check (require (affected != 0) (certificateNotFound params.id))
    getCertificate params.id
  else do
    let id ← insertCertificate params
    driverResult
    getCertificate id

/-! ### Files -/

/-- `writeFileAtomic`. -/
def writeFileAtomic (path : String) (data : Content) : Call String Unit := do
  settle
  let tmpName ← createTemp (dirOf path) ("." ++ baseName path ++ "-") ""
  deferring (do
      write tmpName data
      settle
      settle
      settle
      rename tmpName path)
    (remove tmpName)

def writeAssetFiles (certPath keyPath : String) (certPEM keyPEM : Content) : Call String Unit := do
  settle
  writeFileAtomic certPath certPEM
  writeFileAtomic keyPath keyPEM

/-! ### Operations -/

structure IssueRequest where
  domains : List String
  domain : String
  email : String
  method : String
deriving DecidableEq, Repr, Inhabited

structure IssueResult where
  certPEM : Content
  keyPEM : Content
deriving DecidableEq, Repr, Inhabited

structure ImportRequest where
  name : String
  fullchain : String
  key : String
deriving DecidableEq, Repr, Inhabited

structure PreflightCheck where
  code : String
  status : String
  detail : String
deriving DecidableEq, Repr, Inhabited

def uniqueStrings (values : List String) : List String :=
  values.foldl (fun kept value =>
    let value := toLower (trimSpace value)
    if value = "" ∨ value ∈ kept then kept else kept ++ [value]) []

def isAlnum (rune : Char) : Bool :=
  ('a' ≤ rune && rune ≤ 'z') || ('A' ≤ rune && rune ≤ 'Z') || ('0' ≤ rune && rune ≤ '9')

/-- One part of a domain: letters and digits, with dashes between them. -/
def validLabel (label : List Char) : Bool :=
  match label, label.getLast? with
  | first :: _, some last =>
      isAlnum first && isAlnum last && label.length ≤ 63 && label.all fun rune => isAlnum rune || rune == '-'
  | _, _ => false

/-- Whether `validDomain` matches. -/
def validDomain (domain : String) : Bool :=
  (domain.toList.splitOn '.').all validLabel

def normalizeDomains (request : IssueRequest) : Except Error (List String) := do
  let given := if trimSpace request.domain ≠ "" then request.domains ++ [request.domain] else request.domains
  let domains := uniqueStrings given
  require (!domains.isEmpty) { code := "domain_required", detail := "" }
  domains.forM fun domain => require (validDomain domain) { code := "invalid_domain", detail := domain }
  pure domains

def validateEmail (around : Surroundings) (email : String) : Except Error Unit := do
  require (trimSpace email != "") { code := "email_required", detail := "" }
  match around.addressError (trimSpace email) with
  | some reason => .error { code := "invalid_email", detail := reason }
  | none => .ok ()

def challengeMethod (method : String) : String :=
  orDefault method "http-01"

/-- `acme.LetsEncryptURL`. -/
def letsEncryptURL : String :=
  "https://acme-v02.api.letsencrypt.org/directory"

def ensureCertDirWritable (certDir : Directory) : Call String Unit := do
  settle
  let name ← createTemp certDir.path ".write-test-" ""
  onError settle (remove name)
  remove name

/-- A check of the preflight by a call that either works or does not. -/
def preflightCheck (call : Call String Unit) (okCode failedCode okDetail : String) (failedDetail : String → String) :
    Action PreflightCheck := do
  let done ← (onFiles call).result
  match done with
  | .ok _ => pure ⟨okCode, "ok", okDetail⟩
  | .error reason => pure ⟨failedCode, "failed", failedDetail reason⟩

/-- The checks after those of the request: the names resolve, the port is free, the directory is writable. -/
def preflight (around : Surroundings) (domains : List String) : Action (List PreflightCheck) := do
  let resolved ← domains.foldlM (fun checks domain => do
    let check ← preflightCheck settle "domain_resolved" "domain_not_resolved" domain fun reason => domain ++ ": " ++ reason
    pure (checks ++ [check])) []
  let port ← preflightCheck settle "http_01_port_available" "http_01_port_unavailable" "" id
  let dir ← preflightCheck (ensureCertDirWritable around.certDir) "cert_dir_writable" "cert_dir_not_writable"
    around.certDir.path id
  pure (⟨"request_valid", "ok", ""⟩ :: resolved ++ [port, dir, ⟨"core_apply_required", "warning", ""⟩])

/-- The row that has the paths, or has the certificate's path and a key of the older name. -/
def existingAssetCertificate (rows : List Certificate) (paths : AssetPaths) : Option Certificate :=
  (rows.find? fun row => row.certPath = paths.certPath ∧ row.keyPath = paths.keyPath).or
    (if legacyPrivateKeyPath paths.keyPath = "" then none
     else rows.find? fun row => row.certPath = paths.certPath ∧ row.keyPath = legacyPrivateKeyPath paths.keyPath)

/-- Where a certificate of a name goes: to an existing row with its paths, or to the paths of the name. -/
structure Place where
  id : Int
  paths : AssetPaths
deriving DecidableEq, Repr

def findPlace (around : Surroundings) (random name : String) : Action Place := do
  let paths := assetPaths around.certDir random name
  let rows ← listCertificates.orFail fun reason => { code := "list_certificates_failed", detail := reason }
  match existingAssetCertificate rows paths with
  | some row => pure { id := row.id, paths := ⟨row.certPath, row.keyPath⟩ }
  | none => pure { id := 0, paths }

def statusForMeta (around : Surroundings) (found : CertificateMeta) : String :=
  if isZero found.notAfter then "issued"
  else if found.notAfter < around.now then "expired"
  else if found.notAfter < around.now + 30 * 24 * hour then "expiring_soon"
  else "issued"

/-- What is written at the end of an operation. -/
structure Asset where
  params : UpsertCertificateParams
  certPEM : Content
  keyPEM : Content
  /-- The error of an upsert that fails. -/
  atUpsert : String → Error

/-- The parameters that come from the certificate itself. -/
def metaParams (around : Surroundings) (place : Place) (found : CertificateMeta) : UpsertCertificateParams :=
  { (default : UpsertCertificateParams) with
    id := place.id, certPath := place.paths.certPath, keyPath := place.paths.keyPath
    status := statusForMeta around found, domains := found.domains, notBefore := rfc3339 found.notBefore
    notAfter := rfc3339 found.notAfter, fingerprint := found.fingerprint, serial := found.serial }

def writeCertificateFailed (reason : String) : Error :=
  { code := "write_certificate_failed", detail := reason }

def prepareImport (around : Surroundings) (random : String) (request : ImportRequest) : Action Asset := do
  let certPEM := bytesOfString request.fullchain
  let keyPEM := bytesOfString request.key
  let found ← check (around.parseCertificatePair certPEM keyPEM)
  let name := if trimSpace request.name ≠ "" then trimSpace request.name else found.domains.headD ""
  let place ← findPlace around random name
  pure { certPEM, keyPEM, atUpsert := writeCertificateFailed
         params := { metaParams around place found with name, source := "import" } }

/-- A result of the issuer that is empty stands in the file. -/
def issuedContent (content : Content) (path : String) (convert : String → Error) : Action Content :=
  if content.isEmpty then (onFiles (readFile path)).orFail convert else pure content

def acmeIssueFailed (reason : String) : Error :=
  { code := "acme_issue_failed", detail := reason }

/-- `Issue`, given what the issuer answers. -/
def prepareIssue (around : Surroundings) (request : IssueRequest) (answer : Except String IssueResult) : Action Asset := do
  let domains ← check (normalizeDomains request)
  check (validateEmail around request.email)
  let checks ← preflight around domains
  check (require (checks.all fun check => check.status != "failed")
    { code := "preflight_failed", detail := "certificate preflight failed" })
  let name := domains.headD ""
  let place ← findPlace around "" name
  let issued ← check (answer.mapError acmeIssueFailed)
  let certPEM ← issuedContent issued.certPEM place.paths.certPath fun reason =>
    { code := "read_issued_cert_failed", detail := reason }
  let keyPEM ← issuedContent issued.keyPEM place.paths.keyPath fun reason =>
    { code := "read_issued_key_failed", detail := reason }
  let found ← check (around.parseCertificatePair certPEM keyPEM)
  pure { certPEM, keyPEM, atUpsert := writeCertificateFailed
         params := { metaParams around place found with
           name, source := "acme", issueEmail := trimSpace request.email, acmeDirectoryURL := letsEncryptURL
           challengeMethod := challengeMethod request.method } }

def requestFailed (reason : String) : Error :=
  { code := "request_failed", detail := reason }

/-- `renewOne` for a row of the table. -/
def prepareRenewal (around : Surroundings) (row : Certificate) (answer : Except String IssueResult) : Action Asset := do
  check (require (!row.domains.isEmpty) { code := "certificate_domains_missing", detail := "" })
  let issued ← check (answer.mapError acmeIssueFailed)
  let certPEM ← issuedContent issued.certPEM row.certPath requestFailed
  let keyPEM ← issuedContent issued.keyPEM row.keyPath requestFailed
  let found ← check (around.parseCertificatePair certPEM keyPEM)
  pure { certPEM, keyPEM, atUpsert := requestFailed
         params := { metaParams around ⟨row.id, ⟨row.certPath, row.keyPath⟩⟩ found with
           name := row.name, source := "acme", issueEmail := row.issueEmail
           acmeDirectoryURL := trimSpace row.acmeDirectoryURL, challengeMethod := challengeMethod row.challengeMethod
           lastRenewed := rfc3339 around.now } }

def certDirNotWritable (reason : String) : Error :=
  { code := "cert_dir_not_writable", detail := reason }

/-- The end of every operation: both files, and then the row. -/
def storeAsset (asset : Asset) : Action Certificate := do
  (onFiles (writeAssetFiles asset.params.certPath asset.params.keyPath asset.certPEM asset.keyPEM)).orFail
    certDirNotWritable
  (upsertCertificate asset.params).orFail asset.atUpsert

def importCertificate (around : Surroundings) (random : String) (request : ImportRequest) : Action Certificate := do
  let asset ← prepareImport around random request
  storeAsset asset

def issueCertificate (around : Surroundings) (request : IssueRequest) (answer : Except String IssueResult) :
    Action Certificate := do
  let asset ← prepareIssue around request answer
  storeAsset asset

/-- The renewal of the row with a number, as the list of all rows shows it. -/
def renewOne (around : Surroundings) (row : Certificate) (answer : Except String IssueResult) : Action Certificate := do
  let asset ← prepareRenewal around row answer
  storeAsset asset

/-! ### Runs -/

inductive Operation where
  | importing (random : String) (request : ImportRequest)
  | issuing (request : IssueRequest) (answer : Except String IssueResult)
  | renewing (row : Certificate) (answer : Except String IssueResult)

def Operation.prepare (around : Surroundings) : Operation → Action Asset
  | importing random request => prepareImport around random request
  | issuing request answer => prepareIssue around request answer
  | renewing row answer => prepareRenewal around row answer

def Operation.run (around : Surroundings) : Operation → Action Certificate
  | importing random request => importCertificate around random request
  | issuing request answer => issueCertificate around request answer
  | renewing row answer => renewOne around row answer

/-- A renewal is of a row of the table. -/
def Operation.isDue (state : State) : Operation → Bool
  | renewing row _ => decide (row ∈ state.certificates.rows)
  | _ => true

/-- The name an operation puts its certificate under, and the digits that stand for an empty one. -/
structure Label where
  name : String
  random : String
deriving DecidableEq, Repr

/-- Where an operation has come so far as to have a name; a renewal has none. -/
def Operation.label? (around : Surroundings) : Operation → Option Label
  | importing random request =>
      match around.parseCertificatePair (bytesOfString request.fullchain) (bytesOfString request.key) with
      | .ok found =>
          some ⟨if trimSpace request.name ≠ "" then trimSpace request.name else found.domains.headD "", random⟩
      | .error _ => none
  | issuing request _ =>
      match normalizeDomains request with
      | .ok domains => some ⟨domains.headD "", ""⟩
      | .error _ => none
  | renewing _ _ => none

/-- An operation, its time, and what becomes of its calls. -/
structure Turn where
  operation : Operation
  now : Int
  outcomes : Nat → Outcome

/-- The result of an operation, and the state it leaves. -/
def Turn.run (around : Surroundings) (turn : Turn) (state : State) : Except Error Certificate × State :=
  let ended := turn.operation.run { around with now := turn.now } turn.outcomes (state, 0)
  (ended.1, ended.2.1)

def serve (around : Surroundings) (turn : Turn) (state : State) : Option State :=
  if turn.operation.isDue state then some (turn.run around state).2 else none

end MiGate.Cert
