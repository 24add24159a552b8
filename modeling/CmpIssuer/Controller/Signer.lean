import CmpIssuer.Controller.Workload
import CmpIssuer.Controller.TransactionStore

/-!
`Sign`: one reconcile of a CertificateRequest. It resumes the recorded
transaction of the request or records a new one, exchanges at most one
enrollment, poll or confirmation with the CMP server and records what the
answer means. Its metrics, its Events and the log line of a failure go to a
reporter. The other log lines are left out.
-/
namespace CmpIssuer
open Effect

def pemCertificateBlockType : String := "CERTIFICATE"
def cmpProtocolVersion : Int := 2
def confirmationExplicit : String := "Explicit"
def confirmationImplicit : String := "Implicit"

/-- Who is told what a part of `Sign` does. What says nothing is just run, the rest comes before what
follows it, and `deferring` is for what runs under the deferred function. -/
structure Reporter (S : Signature) where
  run {α : Type} : Go GoError α → Program S (Fault GoError) α
  polled {α : Type} : Program S (Fault GoError) α → Program S (Fault GoError) α
  issued {α : Type} (confirmation : String) : Program S (Fault GoError) α → Program S (Fault GoError) α
  fallback {α : Type} (operation : Operation) (reason : Setting FallbackReason) :
    Program S (Fault GoError) α → Program S (Fault GoError) α
  deferring {α : Type} : Program S (Fault GoError) α → Program S (Fault GoError) α

/-- Nobody. -/
def quiet : Reporter interface where
  run part := part
  polled rest := rest
  issued _ rest := rest
  fallback _ _ rest := rest
  deferring part := part

section
variable {α : Type} (part : Go GoError α)

@[simp] theorem quiet_run : quiet.run part = part := rfl

@[simp] theorem quiet_polled : quiet.polled part = part := rfl

@[simp] theorem quiet_issued (confirmation : String) : quiet.issued confirmation part = part := rfl

@[simp] theorem quiet_fallback (operation : Operation) (reason : Setting FallbackReason) :
    quiet.fallback operation reason part = part := rfl

@[simp] theorem quiet_deferring : quiet.deferring part = part := rfl

end

def mapProtocolError (err : GoError) : GoError :=
  match err.asProtocol with
  | none => err
  | some (kind, operation, failure, requeueAfter, cause) =>
      let protocolError := GoError.protocol kind operation failure requeueAfter cause
      match kind with
      | .permanent | .security => .permanent protocolError
      | .pending => .pending protocolError requeueAfter
      | .retryable => .pending protocolError second
      | .unknown _ =>
          .permanent (.wrap "unknown protocol error classification: " protocolError "")

def workloadConfigurationError (err : ConfigurationError) : GoError :=
  if err.permanent then .permanent err.goError else .pending err.goError second

def failTransaction {α : Type} (transaction : CMPTransaction) (err : GoError) : Go GoError α := do
  let mapped := mapProtocolError err
  if mapped.isPermanent then
    removeRecord transaction
    fail mapped
  else fail mapped

def validateResumedTransaction (transaction : CMPTransaction) (csrDigest : String)
    (operation fallbackOperation : Operation) (expectedIssuer : TransactionIssuerReference) :
    Except GoError Unit :=
  let spec := transaction.spec
  if spec.csrDigest = "" ∨ spec.configurationDigest = "" ∨ spec.operation = .unset then
    .error (.text "recorded CMP transaction is missing the request, configuration or operation binding")
  else if spec.csrDigest ≠ csrDigest then
    .error (.text "recorded CMP transaction enrolls a different certificate signing request")
  else if !spec.issuerRef.any fun recorded => recorded.name == expectedIssuer.name &&
      recorded.kind == expectedIssuer.kind && recorded.uid == expectedIssuer.uid then
    .error (.text "recorded CMP transaction belongs to a different issuer identity")
  else
    match spec.renewalFallback with
    | .unset =>
        if spec.operation ≠ operation then
          .error (.text "recorded CMP transaction uses a different enrollment operation")
        else .ok ()
    | .value _ =>
        if operation ≠ .kur ∨ fallbackOperation = .unset ∨ spec.operation ≠ fallbackOperation then
          .error (.text "recorded CMP transaction falls back from KUR to an operation the issuer does not allow")
        else .ok ()
    | .unknown _ =>
        .error (.text "recorded CMP transaction falls back from KUR to an operation the issuer does not allow")

def transactionStartTime (transaction : CMPTransaction) (fallback : Time) : Time :=
  transaction.creationTimestamp.getD fallback

def requestedNotAfter (requestedValidity : Setting RequestedValidity) (operation : Operation)
    (request : CertificateRequestObject) (started : Time) : Option Time :=
  if requestedValidity ≠ .value .duration ∨ (operation ≠ .ir ∧ operation ≠ .kur) then none
  else
    let duration := request.duration.getD 0
    if duration ≤ 0 then none else some (started + duration).truncate

def pollDelay (checkAfter : Duration) (limits : TransactionSpec) : Duration :=
  if checkAfter < limits.minimumPollInterval then limits.minimumPollInterval
  else if checkAfter > limits.maximumPollInterval then limits.maximumPollInterval
  else checkAfter

/-- The delay up to the next reconcile, which never passes an open deadline. -/
def boundedDelay (pending : PendingTransaction) (limits : TransactionSpec) (deadline now : Time) :
    Duration :=
  let delay := pollDelay pending.checkAfter limits
  let deadlineDelay := deadline - now
  if deadlineDelay > 0 ∧ deadlineDelay < delay then deadlineDelay else delay

section
variable (lib : Library)

def csrDigestHex (csrDER : Bytes) : String := hexEncode (lib.sha256 csrDER)

def encodeChainPEM (chain : List Certificate) : Bytes :=
  chain.flatMap fun certificate => lib.pemEncode ⟨pemCertificateBlockType, certificate.raw⟩

def deadlineExceeded (limits : TransactionSpec) : GoError :=
  .permanent (.text ("CMP transaction exceeded the configured maximum duration of " ++
    lib.durationText limits.maximumDuration))

def pollLimitReached (limits : TransactionSpec) : GoError :=
  .permanent (.text s!"CMP transaction reached the configured maximum of {limits.maximumPolls} polls")

/-- The certificates of `recordedChain`, parsed and checked one after the other. -/
def parseRecordedChain : List Bytes → Except GoError (List Certificate)
  | [] => .ok []
  | encoded :: rest =>
      match lib.parseCertificate encoded with
      | .error err =>
          .error (.permanent (.wrap "parse recorded CMP certificate chain: " (.text err) ""))
      | .ok certificate =>
          match validateMLDSAKeyUsage certificate with
          | .error err =>
              .error (.permanent (.wrap "validate recorded CMP certificate key usage: " err ""))
          | .ok () =>
              match parseRecordedChain rest with
              | .error err => .error err
              | .ok chain => .ok (certificate :: chain)

def recordedChain (transaction : CMPTransaction) (csrDER : Bytes) : Except GoError (List Certificate) :=
  match parseRecordedChain lib transaction.status.issuedChain with
  | .error err => .error err
  | .ok [] =>
      .error (.permanent (.text "recorded CMP transaction reports an issued certificate without a chain"))
  | .ok (leaf :: rest) =>
      match lib.parseCertificateRequest csrDER with
      | .error err => .error (.permanent (.wrap "parse CertificateRequest CSR: " (.text err) ""))
      | .ok csr =>
          if !publicKeysEqual lib csr.publicKey leaf.publicKey then
            .error (.permanent
              (.text "recorded CMP certificate does not match the requested public key"))
          else .ok (leaf :: rest)

def trustedRecordedChain (t : Time) (chain : List Certificate) (roots : Option CertPool)
    (candidates : List Certificate) : Except GoError (List Certificate) :=
  (validateIssuedChain lib t chain candidates roots).mapError fun err =>
    .permanent (.wrap "recorded CMP certificate chain does not chain to the configured CMP trust: "
      err.goError "")

def retainedSigner (transaction : CMPTransaction) : Except GoError (Option Certificate) :=
  if transaction.status.responseSigner = [] then .ok none
  else
    match lib.parseCertificate transaction.status.responseSigner with
    | .error err => .error (.permanent (.wrap "parse retained CMP response signer: " (.text err) ""))
    | .ok signer => .ok (some signer)

def exchange (enrollment : EnrollmentRequest) (transaction : CMPTransaction)
    (limits : TransactionSpec) : Go GoError EnrollmentResult := do
  let t ← now
  if t > transaction.spec.deadline then
    fail (deadlineExceeded lib limits)
  else if transaction.status.phase ≠ .polling then
    match transaction.spec.operation with
    | .ir => protocolClient lib (.enrollIR enrollment)
    | .kur => protocolClient lib (.enrollKUR enrollment)
    | _ => protocolClient lib (.enrollP10CR enrollment)
  else
    match transaction.status.certReqID, transaction.status.recipNonce with
    | some certReqID, first :: rest =>
        if transaction.status.polls ≥ limits.maximumPolls then
          fail (pollLimitReached limits)
        else
          let responseSigner ← ofExcept (retainedSigner lib transaction)
          protocolClient lib (.pollP10CR
            { enrollment
              recipNonce := first :: rest
              certReqID
              responseSigner
              requestNonce := transaction.status.requestNonce })
    | _, _ =>
        fail (.permanent (.text "recorded CMP transaction is missing the state required to poll"))

/-- The status with one more poll counted, when the answer was to a pollReq. -/
def CMPTransaction.countPoll (transaction : CMPTransaction) (polled : Bool) : CMPTransaction :=
  if polled then
    { transaction with status := { transaction.status with
      polls := wrap32 (transaction.status.polls + 1) } }
  else transaction

namespace Reported

variable {S : Signature} (via : Reporter S)

def continuePolling {α : Type} (transaction : CMPTransaction) (pending : PendingTransaction)
    (limits : TransactionSpec) (polled : Bool) : Program S (Fault GoError) α := do
  let transaction ← via.run (recordPending (transaction.countPoll polled) pending)
  let t ← via.run now
  let delay := boundedDelay pending limits transaction.spec.deadline t
  via.polled (via.run (fail (.pending (.text
    ("CMP server has not issued the certificate yet, polling again in " ++ lib.durationText delay)) delay)))

def continueConfirming {α : Type} (transaction : CMPTransaction) (chain : List Certificate)
    (pending : PendingTransaction) (limits : TransactionSpec) (polled : Bool) :
    Program S (Fault GoError) α := do
  let transaction ← via.run (recordConfirming (transaction.countPoll polled) chain pending)
  let t ← via.run now
  let delay := boundedDelay pending limits transaction.spec.deadline t
  via.polled (via.run (fail (.pending (.text
    ("CMP server has not confirmed the issued certificate yet, polling again in " ++
      lib.durationText delay)) delay)))

def confirm (transaction : CMPTransaction) (enrollment : EnrollmentRequest) (limits : TransactionSpec)
    (chain : List Certificate) (pending : PendingTransaction) : Program S (Fault GoError) Bytes := do
  let t ← via.run now
  if t > transaction.spec.deadline then
    via.run (failTransaction transaction (deadlineExceeded lib limits))
  else if transaction.status.polls ≥ limits.maximumPolls then
    via.run (failTransaction transaction (pollLimitReached limits))
  else
    match chain with
    | [] => .throw (.panic "index out of range [0] with length 0")
    | leaf :: rest =>
        let confirmRequest : ConfirmRequest :=
          { enrollment
            certificate := some leaf
            certReqID := pending.certReqID
            recipNonce := pending.recipNonce
            responseSigner := pending.responseSigner
            requestNonce := pending.requestNonce }
        match ← via.run (attempt (protocolClient lib (.confirmP10CR confirmRequest))) with
        | .error err => via.run (failTransaction transaction err)
        | .ok result =>
            match result.pendingConfirmation with
            | some next =>
                continueConfirming lib via transaction (leaf :: rest) next limits (pending.requestNonce != [])
            | none =>
                let _ ← via.run (recordIssued transaction (leaf :: rest))
                via.issued confirmationExplicit (pure (encodeChainPEM lib (leaf :: rest)))

def resumeConfirmation (transaction : CMPTransaction) (enrollment : EnrollmentRequest)
    (limits : TransactionSpec) (csrDER : Bytes) : Program S (Fault GoError) Bytes := do
  match recordedChain lib transaction csrDER with
  | .error err => via.run (failTransaction transaction err)
  | .ok chain =>
      let t ← via.run now
      match trustedRecordedChain lib t chain enrollment.cmpTrust
        (enrollment.cmpTrustCertificates ++ enrollment.cmpResponseCertificates) with
      | .error err => via.run (failTransaction transaction err)
      | .ok chain =>
          match transaction.status.certReqID with
          | none =>
              via.run (failTransaction transaction (.permanent
                (.text "recorded CMP transaction is missing the state required to confirm")))
          | some certReqID =>
              -- Unlike `exchange`, a signer that does not parse fails the call and not the transaction.
              let responseSigner ← via.run (ofExcept (retainedSigner lib transaction))
              confirm lib via transaction enrollment limits chain
                { certReqID
                  recipNonce := transaction.status.recipNonce
                  responseSigner
                  requestNonce := transaction.status.requestNonce }

end Reported

variable (clusterResourceNamespace : String)

def recoverIssuedChain (transaction : CMPTransaction) (issuer : Issuer) (csrDER : Bytes) :
    Go GoError Bytes := do
  match recordedChain lib transaction csrDER with
  | .error err => failTransaction transaction err
  | .ok chain =>
      let (roots, candidates) ← (loadCMPTrust lib clusterResourceNamespace issuer).mapError
        (Fault.map fun err => .issuer err.goError)
      let t ← now
      match trustedRecordedChain lib t chain (some roots) candidates with
      | .error err => failTransaction transaction err
      | .ok chain => return encodeChainPEM lib chain

def selectRenewalFallback (request : CertificateRequestObject) (issuer : Issuer)
    (operation : Operation) : Go GoError (Operation × Setting FallbackReason) := do
  let fallbackOperation := renewalFallbackOperation issuer
  if operation ≠ .kur ∨ fallbackOperation = .unset then return (operation, .unset)
  else
    let t ← now
    let fallback ← (classifyRenewalFallback lib request issuer t).mapError
      (Fault.map workloadConfigurationError)
    match fallback with
    | none => return (operation, .unset)
    | some reason => return (fallbackOperation, .value reason)

/-- The configuration and the enrollment request a reconcile works with. -/
structure Prepared where
  configuration : RuntimeConfiguration
  enrollment : EnrollmentRequest

def prepareWorkloadKeyEnrollment (request : CertificateRequestObject) (issuer : Issuer)
    (operation : Operation) (renewalFallbackReason : Setting FallbackReason) (requestDER : Bytes)
    (prepared : Prepared) : Go GoError Prepared := do
  let material ← (if operation = .kur then loadKURMaterial lib request issuer requestDER
    else loadIRMaterial lib request issuer requestDER renewalFallbackReason).mapError
      (Fault.map workloadConfigurationError)
  let enrollment := { prepared.enrollment with
    protection := material.protection.getD prepared.enrollment.protection
    requestedPrivateKey := some material.requestedPrivateKey
    responseCertReqID := none }
  let configurationSecrets := prepared.configuration.configurationSecrets.copy material.secrets
  let configurationDigest ← ofExcept
    ((runtimeConfigurationDigest lib (issuerReference issuer) configurationSecrets).mapError fun err =>
      .permanent (.wrap ("identify " ++ operation.text ++ " configuration: ") err.goError ""))
  if operation = .kur then
    let _ ← (validateKURRequest lib enrollment).mapError (Fault.map mapProtocolError)
  else
    let _ ← ofExcept ((validateIRRequest lib enrollment).mapError mapProtocolError)
  return {
    configuration := { prepared.configuration with configurationSecrets, configurationDigest }
    enrollment }

/-- The part of `Sign` that turns the issuer configuration into the request of one operation. -/
def prepareEnrollment (request : CertificateRequestObject) (issuer : Issuer) (operation : Operation)
    (renewalFallbackReason : Setting FallbackReason) (requestDER : Bytes)
    (configuration : RuntimeConfiguration) : Go GoError Prepared :=
  let enrollment := { configuration.enrollmentRequest with
    csrDER := requestDER
    operation
    endpointURL :=
      if operation = .kur ∧ configuration.renewalEndpointURL ≠ "" then configuration.renewalEndpointURL
      else configuration.enrollmentRequest.endpointURL }
  if operation = .ir ∨ operation = .kur then
    prepareWorkloadKeyEnrollment lib request issuer operation renewalFallbackReason requestDER
      { configuration, enrollment }
  else .pure { configuration, enrollment }

/-- `Sign` from the prepared request and the loaded or created record on. -/
def Reported.continueTransaction {S : Signature} (via : Reporter S) (request : CertificateRequestObject)
    (operation : Operation) (requestDER : Bytes) (started : Time) (prepared : Prepared)
    (transaction : CMPTransaction) : Program S (Fault GoError) Bytes := do
  let limits := prepared.configuration.transaction
  let enrollment := { prepared.enrollment with
    transactionID := transaction.spec.transactionID
    requestedNotAfter :=
      requestedNotAfter prepared.configuration.requestedValidity operation request started }
  if transaction.status.phase = .confirming then
    resumeConfirmation lib via transaction enrollment limits requestDER
  else
    let polled := transaction.status.phase == .polling
    match ← via.run (attempt (exchange lib enrollment transaction limits)) with
    | .error err => via.run (failTransaction transaction err)
    | .ok result =>
        match result.pending, result.pendingConfirmation with
        | some pending, _ => continuePolling lib via transaction pending limits polled
        | none, some pending =>
            let transaction ← via.run (recordConfirming transaction result.chain pending)
            confirm lib via transaction enrollment limits result.chain pending
        | none, none =>
            let _ ← via.run (recordIssued transaction result.chain)
            via.issued confirmationImplicit (pure (encodeChainPEM lib result.chain))

/-- `loadRuntimeConfiguration`, as `Sign` reports its failure. -/
def issuerConfiguration (issuer : Issuer) : Go GoError RuntimeConfiguration :=
  (loadRuntimeConfiguration lib clusterResourceNamespace issuer).mapError
    (Fault.map fun err => .issuer err.goError)

/-- `Sign` for a request without a recorded transaction. -/
def Reported.signNew {S : Signature} (via : Reporter S) (request : CertificateRequestObject) (issuer : Issuer)
    (started : Time) (requestDER : Bytes) (selected : Operation) : Program S (Fault GoError) Bytes := do
  let configuration ← via.run (issuerConfiguration lib clusterResourceNamespace issuer)
  let (operation, fallbackReason) ← via.run (selectRenewalFallback lib request issuer selected)
  let prepared ← via.run
    (prepareEnrollment lib request issuer operation fallbackReason requestDER configuration)
  let t ← via.run now
  let transaction ← via.run
    (createRecord request (t + prepared.configuration.transaction.maximumDuration)
      { csrDigest := csrDigestHex lib requestDER
        issuerRef := issuerReference issuer
        configurationDigest := prepared.configuration.configurationDigest
        operation
        renewalFallback := fallbackReason
        protocolVersion := cmpProtocolVersion })
  via.fallback operation fallbackReason
    (continueTransaction lib via request operation requestDER started prepared transaction)

/-- `Sign` for a request with a recorded transaction. The enrollment counts as started with the record
once the record is known to belong to the request. -/
def Reported.signResumed {S : Signature} (since : Time → Reporter S) (request : CertificateRequestObject)
    (issuer : Issuer) (started : Time) (requestDER : Bytes) (selected : Operation)
    (transaction : CMPTransaction) : Program S (Fault GoError) Bytes :=
  let expectedIssuer := issuerReference issuer
  match validateResumedTransaction transaction (csrDigestHex lib requestDER) selected
    (renewalFallbackOperation issuer) expectedIssuer with
  | .error err => (since started).deferring ((since started).run (failTransaction transaction (.permanent err)))
  | .ok () =>
      let operation := transaction.spec.operation
      let started := transactionStartTime transaction started
      let via := since started
      via.deferring do
        if transaction.status.phase = .issued then
          via.run (recoverIssuedChain lib clusterResourceNamespace transaction issuer requestDER)
        else
          match transaction.spec.issuerRef with
          | none => .throw (.panic nilDereference)
          | some recorded =>
              if recorded.generation ≠ expectedIssuer.generation then
                via.run (failTransaction transaction
                  (.permanent (.text "issuer spec changed during the recorded CMP transaction")))
              else
                let configuration ← via.run (issuerConfiguration lib clusterResourceNamespace issuer)
                let prepared ← via.run (prepareEnrollment lib request issuer operation
                  transaction.spec.renewalFallback requestDER configuration)
                if transaction.spec.configurationDigest ≠ prepared.configuration.configurationDigest then
                  via.run (failTransaction transaction
                    (.permanent (.text "issuer credentials changed during the recorded CMP transaction")))
                else
                  continueTransaction lib via request operation requestDER started prepared transaction

/-- The CSR of a request, checked as `Sign` does first. -/
def requestedCSR (request : CertificateRequestObject) : Except GoError Bytes :=
  match request.csr with
  | .error err => .error (.permanent (.wrap "read CertificateRequest details: " (.text err) ""))
  | .ok csr => (parseCertificateRequestDER lib csr).mapError fun err => .permanent err.goError

/-- `Sign` from the time it reads first on. -/
def Reported.signStarted {S : Signature} (since : Time → Reporter S) (request : CertificateRequestObject)
    (issuer : Issuer) (started : Time) : Program S (Fault GoError) Bytes := do
  let via := since started
  let requestDER ← via.deferring (via.run (ofExcept (requestedCSR lib request)))
  let selected ← via.deferring (via.run (ofExcept
    ((selectedTransactionOperation lib issuer request).mapError fun err => .permanent err.goError)))
  match ← via.deferring (via.run (loadRecord request)) with
  | none =>
      via.deferring (signNew lib clusterResourceNamespace via request issuer started requestDER selected)
  | some transaction =>
      signResumed lib clusterResourceNamespace since request issuer started requestDER selected transaction

end

/-! `Sign` without its reports. -/

section
variable (lib : Library)

def continuePolling {α : Type} (transaction : CMPTransaction) (pending : PendingTransaction)
    (limits : TransactionSpec) (polled : Bool) : Go GoError α :=
  Reported.continuePolling lib quiet transaction pending limits polled

def continueConfirming {α : Type} (transaction : CMPTransaction) (chain : List Certificate)
    (pending : PendingTransaction) (limits : TransactionSpec) (polled : Bool) : Go GoError α :=
  Reported.continueConfirming lib quiet transaction chain pending limits polled

def confirm (transaction : CMPTransaction) (enrollment : EnrollmentRequest) (limits : TransactionSpec)
    (chain : List Certificate) (pending : PendingTransaction) : Go GoError Bytes :=
  Reported.confirm lib quiet transaction enrollment limits chain pending

def resumeConfirmation (transaction : CMPTransaction) (enrollment : EnrollmentRequest)
    (limits : TransactionSpec) (csrDER : Bytes) : Go GoError Bytes :=
  Reported.resumeConfirmation lib quiet transaction enrollment limits csrDER

def continueTransaction (request : CertificateRequestObject) (operation : Operation)
    (requestDER : Bytes) (started : Time) (prepared : Prepared) (transaction : CMPTransaction) :
    Go GoError Bytes :=
  Reported.continueTransaction lib quiet request operation requestDER started prepared transaction

variable (clusterResourceNamespace : String)

def signNew (request : CertificateRequestObject) (issuer : Issuer) (started : Time)
    (requestDER : Bytes) (selected : Operation) : Go GoError Bytes :=
  Reported.signNew lib clusterResourceNamespace quiet request issuer started requestDER selected

def signResumed (request : CertificateRequestObject) (issuer : Issuer) (started : Time)
    (requestDER : Bytes) (selected : Operation) (transaction : CMPTransaction) : Go GoError Bytes :=
  Reported.signResumed lib clusterResourceNamespace (fun _ => quiet) request issuer started requestDER
    selected transaction

/-- `Sign`. Its result is the PEM bundle. -/
def sign (request : CertificateRequestObject) (issuer : Issuer) : Go GoError Bytes := do
  let started ← now
  Reported.signStarted lib clusterResourceNamespace (fun _ => quiet) request issuer started

end

end CmpIssuer
