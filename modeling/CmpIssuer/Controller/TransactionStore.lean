import CmpIssuer.Protocol.Client

/-!
The recorded transaction of a CertificateRequest: reading, creating, updating
and removing it. A write sends the whole record at the version that was read
and leaves the caller with the record the API server stored.
-/
namespace CmpIssuer
open Effect

def certificateRequestAPIVersion : String := "cert-manager.io/v1"
def certificateRequestKind : String := "CertificateRequest"
def transactionIDLength : Nat := 16

structure TransactionDetail where
  csrDigest : String
  issuerRef : TransactionIssuerReference
  configurationDigest : String
  operation : Operation
  protocolVersion : Int
  renewalFallback : Setting FallbackReason
  deriving DecidableEq, Repr

def deletePreconditions (transaction : CMPTransaction) : Option String :=
  if transaction.uid = "" then none else some transaction.uid

def encodeChain (chain : List Certificate) : List Bytes := chain.map Certificate.raw

/-- The record `create` writes. -/
def newTransaction (request : CertificateRequestObject) (transactionID : Bytes) (deadline : Time)
    (detail : TransactionDetail) : CMPTransaction :=
  { key := request.key
    ownerReferences := [
      { apiVersion := certificateRequestAPIVersion
        kind := certificateRequestKind
        name := request.name
        uid := request.uid
        controller := none }]
    spec :=
      { certificateRequestName := request.name
        certificateRequestUID := request.uid
        transactionID
        deadline
        csrDigest := detail.csrDigest
        issuerRef := some detail.issuerRef
        configurationDigest := detail.configurationDigest
        operation := detail.operation
        renewalFallback := detail.renewalFallback
        protocolVersion := detail.protocolVersion } }

/-- The retained response signer after a response signed by `signer`. -/
def CMPTransactionStatus.retainedSigner (status : CMPTransactionStatus) (signer : Option Certificate) :
    Bytes :=
  match signer with
  | some certificate => certificate.raw
  | none => status.responseSigner

/-- The status `create` records. -/
def CMPTransactionStatus.enrolling (status : CMPTransactionStatus) (t : Time) : CMPTransactionStatus :=
  { status with phase := .enrolling, lastTransitionTime := some t }

/-- The status `recordPending` records. -/
def CMPTransactionStatus.pending (status : CMPTransactionStatus) (pending : PendingTransaction)
    (t : Time) : CMPTransactionStatus :=
  { status with
    phase := .polling
    recipNonce := pending.recipNonce
    requestNonce := if pending.requestNonce = [] then status.requestNonce else pending.requestNonce
    certReqID := some pending.certReqID
    lastTransitionTime := some t
    responseSigner := status.retainedSigner pending.responseSigner }

/-- The status `recordConfirming` records. The nonce is replaced even by an empty one. -/
def CMPTransactionStatus.confirming (status : CMPTransactionStatus) (chain : List Certificate)
    (pending : PendingTransaction) (t : Time) : CMPTransactionStatus :=
  { status with
    phase := .confirming
    issuedChain := encodeChain chain
    recipNonce := pending.recipNonce
    requestNonce := pending.requestNonce
    certReqID := some pending.certReqID
    lastTransitionTime := some t
    responseSigner := status.retainedSigner pending.responseSigner }

/-- The status `recordIssued` records. -/
def CMPTransactionStatus.issued (status : CMPTransactionStatus) (chain : List Certificate)
    (t : Time) : CMPTransactionStatus :=
  { status with
    phase := .issued
    issuedChain := encodeChain chain
    completionTime := some t
    lastTransitionTime := some t }

/-- A status update, where a failure is reported with `failure` in front of it. -/
def writeStatus (failure : String) (transaction : CMPTransaction) (status : CMPTransactionStatus) :
    Go GoError CMPTransaction := do
  let written := { transaction with status }
  match ← updateTransactionStatus written with
  | .ok resourceVersion => return written.updated resourceVersion
  | .error err => fail (.wrap failure (.api err) "")

/-- `create`. -/
def createRecord (request : CertificateRequestObject) (deadline : Time) (detail : TransactionDetail) :
    Go GoError CMPTransaction := do
  match ← random transactionIDLength with
  | .error err => fail (.wrap "generate CMP transaction ID: " (.text err) "")
  | .ok transactionID =>
      let transaction := newTransaction request transactionID deadline detail
      match ← createTransaction transaction with
      | .error err => fail (.wrap "record CMP transaction state: " (.api err) "")
      | .ok assigned =>
          let transaction := transaction.created assigned
          let t ← now
          writeStatus "record CMP transaction phase: " transaction (transaction.status.enrolling t)

/-- `load`. -/
def loadRecord (request : CertificateRequestObject) : Go GoError (Option CMPTransaction) := do
  match ← getTransaction request.key with
  | .error err =>
      if err.reason = .notFound then return none
      else fail (.wrap "read CMP transaction state: " (.api err) "")
  | .ok transaction =>
      if transaction.spec.certificateRequestUID = request.uid then return some transaction
      else
        -- The name was reused by a recreated CertificateRequest.
        match ← deleteTransaction transaction.key (deletePreconditions transaction) with
        | .ok () => return none
        | .error err =>
            if err.reason = .notFound then return none
            else fail (.wrap "remove stale CMP transaction state: " (.api err) "")

def recordPending (transaction : CMPTransaction) (pending : PendingTransaction) :
    Go GoError CMPTransaction := do
  let t ← now
  writeStatus "record CMP poll state: " transaction (transaction.status.pending pending t)

def recordConfirming (transaction : CMPTransaction) (chain : List Certificate)
    (pending : PendingTransaction) : Go GoError CMPTransaction := do
  let t ← now
  writeStatus "record CMP confirmation state: " transaction
    (transaction.status.confirming chain pending t)

def recordIssued (transaction : CMPTransaction) (chain : List Certificate) :
    Go GoError CMPTransaction := do
  let t ← now
  writeStatus "record issued CMP certificate chain: " transaction (transaction.status.issued chain t)

/-- `remove`. -/
def removeRecord (transaction : CMPTransaction) : Go GoError Unit := do
  match ← deleteTransaction transaction.key (deletePreconditions transaction) with
  | .ok () => return ()
  | .error err =>
      if err.reason = .notFound ∨ err.reason = .conflict then return ()
      else fail (.wrap "remove CMP transaction state: " (.api err) "")

end CmpIssuer
