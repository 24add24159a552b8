import CmpIssuer.Protocol.Response

/-!
The protocol client: validation of what it is asked to send, construction of
the messages, and one exchange for each call of its interface. A refused
certificate costs a second message, the rejecting certConf.
-/
namespace CmpIssuer
open Effect

section
variable (lib : Library)

def pbmAlgorithms (password : PasswordProtection) : Except GoError (Hash × Hash) :=
  let owf := password.owf.getD .sha256
  let mac := password.mac.getD .sha256
  let supported (hash : Hash) : Bool := hash == .sha256 || hash == .sha384 || hash == .sha512
  if !supported owf || !supported mac then
    .error (.text "PasswordBasedMac requires SHA-256, SHA-384 or SHA-512")
  else if mac.size > owf.size then
    .error (.text "PasswordBasedMac MAC digest must not be longer than the OWF output")
  else .ok (owf, mac)

/-- `validateSignatureDigest` of the client. -/
def validateRequestDigest : Option Hash → Except GoError Unit
  | none | some .sha256 | some .sha384 | some .sha512 => .ok ()
  | some (.other _) => .error (.text "signature digest must be SHA-256, SHA-384 or SHA-512")

/-- The protection checks of `validateEnrollmentRequest`. -/
def validateRequestProtection (protection : Protection) : Except GoError Unit :=
  match protection.password, protection.signature with
  | some password, none =>
      if password.reference = [] ∨ password.secret = [] then
        .error (permanent "validate PasswordBasedMac" "badRequest"
          (.text "reference and shared secret are required"))
      else if password.iterationCount < minPBMIterationCount ∨
          password.iterationCount > maxPBMIterationCount then
        .error (permanent "validate PasswordBasedMac" "badRequest"
          (.text "iteration count is outside supported bounds"))
      else
        match pbmAlgorithms password with
        | .error err => .error (permanent "validate PasswordBasedMac" "badRequest" err)
        | .ok _ => .ok ()
  | none, some signature =>
      match validateSignerCertificate lib signature.privateKey signature.certificate with
      | .error err => .error (permanent "validate signature credentials" "badRequest" err)
      | .ok () => .ok ()
  | _, _ =>
      .error (permanent "validate protection" "badRequest"
        (.text "exactly one protection mode is required"))

/-- The endpoint check of `validateEnrollmentRequest`. -/
def completeEndpoint (endpoint : String) : Bool :=
  match lib.parseURL endpoint with
  | .error _ => false
  | .ok url => url.host != "" && (url.scheme == "http" || url.scheme == "https")

def validateEnrollmentRequest (request : EnrollmentRequest) : Except GoError Unit :=
  if request.operation ≠ .unset ∧ request.operation ≠ .p10cr ∧ request.operation ≠ .ir ∧
      request.operation ≠ .kur then
    .error (permanent "validate operation" "badRequest"
      (.text ("unsupported enrollment operation " ++ lib.quote request.operation.text)))
  else if !completeEndpoint lib request.endpointURL then
    .error (permanent "validate endpoint" "badRequest"
      (.text "endpoint must be a complete HTTP or HTTPS URL"))
  else
    match validateRequestDigest request.signatureDigest with
    | .error err => .error (permanent "validate signature digest" "badAlg" err)
    | .ok () =>
        if request.timeout ≤ 0 ∨ request.maxResponseSize ≤ 0 then
          .error (permanent "validate transport limits" "badRequest"
            (.text "positive timeout and response size are required"))
        else if request.csrDER = [] ∨ request.cmpTrust = none then
          .error (permanent "validate request" "badRequest"
            (.text "CSR and CMP trust are required"))
        else validateRequestProtection lib request.protection

def signatureDigestFor (key : Signer) (digest : Option Hash) : Option Hash :=
  match key.publicKey with
  | .rsa _ | .ecdsa _ => digest
  | _ => none

def credentialsFor (request : EnrollmentRequest) : Go GoError Credentials :=
  match request.protection.password, request.protection.signature with
  | some password, _ =>
      match pbmAlgorithms password with
      | .error err => fail err
      | .ok (owf, mac) =>
          ofExcept ((lib.newMACCredentials (.mac password.secret owf mac password.iterationCount
            minPBMIterationCount maxPBMIterationCount)).mapError .text)
  | none, some signature =>
      match lib.newSignatureCredentials
        (.signature signature.privateKey signature.certificate signature.chain none) with
      | .error err => fail (.text err)
      | .ok credentials =>
          match signatureDigestFor signature.privateKey request.signatureDigest with
          | none => .pure credentials
          | some digest => ofExcept ((lib.withHash credentials digest).mapError .text)
  | none, none => .throw (.panic nilDereference)

/-- `credentialsFor` where its caller reports a failure as `operation`. -/
def configuredCredentials (operation : String) (request : EnrollmentRequest) :
    Go GoError Credentials :=
  (credentialsFor lib request).mapError (Fault.map (permanent operation "badAlg"))

def withSenderKID (request : EnrollmentRequest) (message : PKIMessage) : PKIMessage :=
  match request.protection.password with
  | some password => { message with header := { message.header with senderKID := password.reference } }
  | none => message

def withImplicitConfirm (request : EnrollmentRequest) (message : PKIMessage) : PKIMessage :=
  if request.implicitConfirm then
    { message with header := { message.header with
      generalInfo := message.header.generalInfo ++ [lib.implicitConfirmOID] } }
  else message

/-- The message options of a request, with the sender its operation uses. -/
def messageOptions (request : EnrollmentRequest) (sender : GeneralName) (recipNonce : Bytes) :
    MessageOptions :=
  { sender
    recipient := lib.newDirectoryName request.recipient
    transactionID := request.transactionID
    recipNonce }

/-- Protection and encoding of a built message, under its name in errors. -/
def protectMessage (name : String) (credentials : Credentials) (drawn : Entropy)
    (message : PKIMessage) : Except GoError (PKIMessage × Bytes) :=
  match lib.protect credentials drawn message with
  | .error err => .error (permanent ("protect " ++ name) "badAlg" (.text err))
  | .ok message =>
      match lib.marshalBinary message with
      | .error err => .error (permanent ("encode " ++ name) "badDataFormat" (.text err))
      | .ok requestDER => .ok (message, requestDER)

def protectedEnrollment (request : EnrollmentRequest) (csr : CertificateRequest)
    (credentials : Credentials) : Go GoError (PKIMessage × Bytes) := do
  let drawn ← entropy
  let message := lib.newPKIMessage (.p10cr csr)
    (messageOptions lib request (requestSender lib request) []) drawn
  ofExcept (protectMessage lib "P10CR" credentials drawn
    (withImplicitConfirm lib request (withSenderKID request message)))

def certificateTemplate (request : EnrollmentRequest) (key : Signer) (csr : CertificateRequest)
    (subject : GeneralName) : Except GoError CertTemplate :=
  match lib.marshalPKIXPublicKey key.publicKey with
  | .error err => .error (permanent "encode requested public key" "badCertTemplate" (.text err))
  | .ok publicKey =>
      let template : CertTemplate :=
        { subject, publicKey, extensions := none, notAfter := request.requestedNotAfter }
      if csr.extensions = [] then .ok template
      else
        match lib.marshalExtensions csr.extensions with
        | .error err => .error (permanent "encode requested extensions" "badCertTemplate" (.text err))
        | .ok extensions => .ok { template with extensions := some extensions }

/-- The CRMF request with its proof of possession. -/
def certReqMsg (name : String) (request : EnrollmentRequest) (key : Signer)
    (drawn : Entropy) (template : CertTemplate) (controls : List Bytes) : Except GoError CertReqMsg :=
  let certRequest : CertRequestTemplate := { certReqID := 0, template, controls }
  match lib.generatePOPWithHash key (signatureDigestFor key request.signatureDigest) drawn
    certRequest with
  | .error err =>
      .error (permanent ("generate " ++ name ++ " proof of possession") "badPOP" (.text err))
  | .ok proof => .ok { request := certRequest, proofOfPossession := proof }

def protectedIR (request : EnrollmentRequest) (key : Signer) (csr : CertificateRequest)
    (credentials : Credentials) : Go GoError (PKIMessage × Bytes) := do
  let template ← ofExcept
    (certificateTemplate lib request key csr (lib.newDirectoryNameFromRawDER csr.rawSubject))
  let drawn ← entropy
  let messageRequest ← ofExcept (certReqMsg lib "IR" request key drawn template [])
  let message := lib.newPKIMessage (.ir [messageRequest])
    (messageOptions lib request (requestSender lib request) []) drawn
  ofExcept (protectMessage lib "IR" credentials drawn
    (withImplicitConfirm lib request (withSenderKID request message)))

/-- `protectedKUR`. The sender is the certificate being updated, whatever sender is configured. -/
def protectedKUR (request : EnrollmentRequest) (signature : SignatureProtection) (key : Signer)
    (csr : CertificateRequest) (credentials : Credentials) : Go GoError (PKIMessage × Bytes) := do
  let subject := certificateSubject lib signature.certificate
  let template ← ofExcept (certificateTemplate lib request key csr subject)
  let oldCertID ← ofExcept ((lib.newOldCertIDControl signature.certificate).mapError fun err =>
    permanent "encode KUR oldCertID" "badRequest" (.text err))
  let drawn ← entropy
  let messageRequest ← ofExcept (certReqMsg lib "KUR" request key drawn template [oldCertID])
  let message := lib.newPKIMessage (.kur [messageRequest])
    (messageOptions lib request subject []) drawn
  ofExcept (protectMessage lib "KUR" credentials drawn (withImplicitConfirm lib request message))

/-- An answer that `verifyResponse` accepted, and the instant at which it was examined. -/
structure Accepted where
  response : PKIMessage
  responseSigner : Option Certificate
  instant : Time

/-- One exchange: `sendCMP`, `ParsePKIMessage` and `verifyResponse`. -/
def exchangeMessage (parseOperation : String) (request : EnrollmentRequest) (message : PKIMessage)
    (requestDER : Bytes) (previousSigner : Option Certificate) (delayedRequestNonce : Bytes) :
    Go GoError Accepted := do
  ofExcept ((lib.newHTTPRequest request.endpointURL).mapError fun err =>
    permanent "create HTTP request" "badRequest" (.text err))
  let answer ← send ⟨request.endpointURL, message, requestDER⟩
  let instant ← now
  let (response, responseSigner) ← ofExcept (acceptAnswer lib instant parseOperation message request
    previousSigner delayedRequestNonce answer)
  return { response, responseSigner, instant }

/-- `confirmationMessage`: the message, the randomness for its protection and its name in errors. -/
def confirmationMessage (request : EnrollmentRequest) (confirm : ConfirmRequest)
    (statusInfo : Option PKIStatusInfo) : Go GoError (PKIMessage × Entropy × String) :=
  match confirm.certificate with
  | none => .throw (.panic nilDereference)
  | some certificate => do
      let options := messageOptions lib request (requestSender lib request) confirm.recipNonce
      let status ← ofExcept ((lib.newCertStatus certificate confirm.certReqID).mapError fun err =>
        permanent "compute certificate hash" "badAlg" (.text err))
      let drawn ← entropy
      if confirm.requestNonce ≠ [] then
        let message := lib.newPKIMessage (.pollReq [responseCertReqIDStandard]) options drawn
        let message := if status.hashAlg.isSome then
          { message with header := { message.header with pvno := 3 } } else message
        return (withSenderKID request message, drawn, "pollReq")
      else
        let message := lib.newPKIMessage (.certConf [{ status with statusInfo }]) options drawn
        return (withSenderKID request message, drawn, "certConf")

def exchangeProtected (request : EnrollmentRequest) (credentials : Credentials)
    (message : PKIMessage) (drawn : Entropy) (responseSigner : Option Certificate)
    (delayedRequestNonce : Bytes) (operation : String) : Go GoError Accepted := do
  let (message, requestDER) ← ofExcept (protectMessage lib operation credentials drawn message)
  exchangeMessage lib ("parse " ++ operation ++ " response") request message requestDER
    responseSigner delayedRequestNonce

/-- The certConf that reports a refused certificate, up to its pkiConf. -/
def deliverRejection (request : EnrollmentRequest) (credentials : Credentials)
    (refusal : RefusedCertificate) : Go GoError Unit := do
  let confirm : ConfirmRequest :=
    { enrollment := request, certificate := refusal.certificate, certReqID := refusal.certReqID
      recipNonce := refusal.recipNonce, responseSigner := refusal.responseSigner, requestNonce := [] }
  let rejection : PKIStatusInfo :=
    { status := .rejection, statusString := [refusal.reason], failInfo := [] }
  let (message, drawn, operation) ← confirmationMessage lib request confirm (some rejection)
  let accepted ← exchangeProtected lib request credentials message drawn refusal.responseSigner
    [] operation
  if accepted.response.body.type = .pkiConf then return ()
  else fail (.text ("server answered with " ++ lib.bodyTypeName accepted.response.body.type ++
    " instead of pkiConf"))

/-- The refusal with the failure to deliver it added to its description. -/
def annotateRefusal (reason deliveryErr : GoError) : GoError :=
  let after := " (rejection not confirmed by the server: " ++ deliveryErr.message ++ ")"
  match reason.asProtocol with
  | some (kind, operation, failure, requeueAfter, err) =>
      .protocol kind operation failure requeueAfter (.wrap "" err after)
  | none => .wrap "" reason after

/-- `rejectCertificate`. It never returns a result. -/
def rejectCertificate (request : EnrollmentRequest) (credentials : Credentials)
    (refusal : RefusedCertificate) (reason : GoError) : Go GoError EnrollmentResult := do
  match ← attempt (deliverRejection lib request credentials refusal) with
  | .ok () => fail reason
  | .error deliveryErr => fail (annotateRefusal reason deliveryErr)

def completeOrRefuse (request : EnrollmentRequest) (credentials : Credentials) (accepted : Accepted)
    (csr : CertificateRequest) (delayedRequestNonce : Bytes) : Go GoError EnrollmentResult :=
  match finishTransaction lib accepted.instant request accepted.response csr
    accepted.responseSigner delayedRequestNonce with
  | .error reason => .throw (.panic reason)
  | .ok (.result result) => .pure result
  | .ok (.failed none err) => fail err
  | .ok (.failed (some refusal) err) => rejectCertificate lib request credentials refusal err

def requestCSR (request : EnrollmentRequest) : Except GoError CertificateRequest :=
  (lib.parseCertificateRequest request.csrDER).mapError fun err =>
    permanent "parse CSR" "badRequest" (.text err)

/-- Parsing the CSR of a request and checking its signature. -/
def signedRequestCSR (request : EnrollmentRequest) : Except GoError CertificateRequest :=
  match requestCSR lib request with
  | .error err => .error err
  | .ok csr =>
      match lib.checkRequestSignature csr with
      | .error err => .error (permanent "verify CSR signature" "badPOP" (.text err))
      | .ok () => .ok csr

/-- The requested key, when it is the key of the CSR. -/
def requestedKey (name : String) (request : EnrollmentRequest) (csr : CertificateRequest) :
    Except GoError Signer :=
  let mismatch := permanent ("validate " ++ name ++ " proof of possession") "badPOP"
    (.text "requested private key does not match the CSR public key")
  match request.requestedPrivateKey with
  | none => .error mismatch
  | some key => if publicKeysEqual lib key.publicKey csr.publicKey then .ok key else .error mismatch

def enrollP10CR (request : EnrollmentRequest) : Go GoError EnrollmentResult := do
  if request.operation ≠ .unset ∧ request.operation ≠ .p10cr then
    fail (permanent "validate P10CR operation" "badRequest"
      (.text ("P10CR enrollment cannot execute operation " ++ lib.quote request.operation.text)))
  else
    let request := { request with operation := .p10cr }
    ofExcept (validateEnrollmentRequest lib request)
    let csr ← ofExcept (signedRequestCSR lib request)
    let credentials ← configuredCredentials lib "configure protection" request
    let (message, requestDER) ← protectedEnrollment lib request csr credentials
    let accepted ← exchangeMessage lib "parse CP" request message requestDER none []
    completeOrRefuse lib request credentials accepted csr message.header.senderNonce

/-- `ValidateIRRequest`, with the CSR and the key it checked. -/
def validateIRRequest (request : EnrollmentRequest) :
    Except GoError (CertificateRequest × Signer) := do
  let request := { request with operation := .ir }
  validateEnrollmentRequest lib request
  let csr ← signedRequestCSR lib request
  let key ← requestedKey lib "IR" request csr
  return (csr, key)

def enrollIR (request : EnrollmentRequest) : Go GoError EnrollmentResult := do
  let request := { request with operation := .ir }
  let (csr, key) ← ofExcept (validateIRRequest lib request)
  let credentials ← configuredCredentials lib "configure protection" request
  let (message, requestDER) ← protectedIR lib request key csr credentials
  let accepted ← exchangeMessage lib "parse IP" request message requestDER none []
  completeOrRefuse lib request credentials accepted csr message.header.senderNonce

/-- `validateKURProofs`, with the protection and the key it checked. -/
def validateKURProofs (request : EnrollmentRequest) (csr : CertificateRequest) (t : Time) :
    Except GoError (SignatureProtection × Signer) :=
  match request.protection.password, request.protection.signature with
  | none, some signature =>
      match requestedKey lib "KUR" request csr with
      | .error err => .error err
      | .ok key =>
          let certificate := signature.certificate
          if t < certificate.notBefore ∨ certificate.notAfter ≤ t then
            .error (permanent "validate KUR protection certificate" "badTime"
              (.text "certificate being updated is not currently valid"))
          else if certificateHasExtension certificate oidKeyUsage ∧
              ¬ certificate.keyUsage.digitalSignature then
            .error (permanent "validate KUR protection certificate" "badAlg"
              (.text "certificate being updated does not permit digital signatures"))
          else if !sameKURIdentity lib certificate csr then
            .error (permanent "validate KUR certificate identity" "badCertTemplate"
              (.text "CSR subject or subject alternative names differ from the certificate being updated"))
          else .ok (signature, key)
  | _, _ =>
      .error (permanent "validate KUR protection" "badRequest"
        (.text "KUR requires signature protection with the certificate being updated"))

/-- `ValidateKURRequest`, with what it checked. -/
def validateKURRequest (request : EnrollmentRequest) :
    Go GoError (CertificateRequest × SignatureProtection × Signer) := do
  let request := { request with operation := .kur }
  ofExcept (validateEnrollmentRequest lib request)
  let csr ← ofExcept (signedRequestCSR lib request)
  let t ← now
  let (signature, key) ← ofExcept (validateKURProofs lib request csr t)
  return (csr, signature, key)

def enrollKUR (request : EnrollmentRequest) : Go GoError EnrollmentResult := do
  let request := { request with operation := .kur }
  let (csr, signature, key) ← validateKURRequest lib request
  let credentials ← configuredCredentials lib "configure KUR protection" request
  let (message, requestDER) ← protectedKUR lib request signature key csr credentials
  let accepted ← exchangeMessage lib "parse KUP" request message requestDER none []
  completeOrRefuse lib request credentials accepted csr message.header.senderNonce

def pollP10CR (poll : PollRequest) : Go GoError EnrollmentResult := do
  let request := poll.enrollment
  ofExcept (validateEnrollmentRequest lib request)
  if request.transactionID = [] ∨ poll.recipNonce = [] then
    fail (permanent "validate poll request" "badRequest"
      (.text "transaction ID and recipient nonce are required to poll"))
  else
    let csr ← ofExcept (requestCSR lib request)
    let credentials ← configuredCredentials lib "configure protection" request
    let drawn ← entropy
    let message := lib.newPKIMessage (.pollReq [poll.certReqID])
      (messageOptions lib request (requestSender lib request) poll.recipNonce) drawn
    let (message, requestDER) ← ofExcept
      (protectMessage lib "pollReq" credentials drawn (withSenderKID request message))
    let accepted ← exchangeMessage lib "parse poll response" request message requestDER
      poll.responseSigner poll.requestNonce
    match accepted.response.body with
    | .pollRep reply =>
        let pending ← ofExcept (extractPollRep accepted.response poll.certReqID
          accepted.responseSigner poll.requestNonce reply)
        return { pending := some pending }
    | _ => completeOrRefuse lib request credentials accepted csr poll.requestNonce

/-- The outcome of an accepted answer to a confirmation message. -/
def finishConfirmation (confirm : ConfirmRequest) (confirmationNonce : Bytes)
    (response : PKIMessage) : Except GoError EnrollmentResult :=
  match response.body with
  | .pkiConf => .ok { explicitConfirmation := true, responseCertReqID := confirm.certReqID }
  | _ =>
      match confirmationDelay lib response with
      | .error err => .error err
      | .ok checkAfter =>
          let pending : PendingTransaction :=
            { certReqID := confirm.certReqID
              recipNonce := response.header.senderNonce
              responseSigner := confirm.responseSigner
              checkAfter
              requestNonce := confirmationNonce }
          .ok { pendingConfirmation := some pending }

def confirmP10CR (confirm : ConfirmRequest) : Go GoError EnrollmentResult := do
  let request := confirm.enrollment
  ofExcept (validateEnrollmentRequest lib request)
  match confirm.certificate with
  | none =>
      fail (permanent "validate confirmation request" "badRequest"
        (.text "certificate and transaction ID are required to confirm"))
  | some certificate =>
      if request.transactionID = [] then
        fail (permanent "validate confirmation request" "badRequest"
          (.text "certificate and transaction ID are required to confirm"))
      else
        ofExcept ((validateMLDSAKeyUsage certificate).mapError fun err =>
          permanent "validate confirmation certificate" "badCertTemplate" err.goError)
        let credentials ← configuredCredentials lib "configure protection" request
        let (message, drawn, operation) ← confirmationMessage lib request confirm none
        let confirmationNonce :=
          if confirm.requestNonce = [] then message.header.senderNonce else confirm.requestNonce
        let accepted ← exchangeProtected lib request credentials message drawn
          confirm.responseSigner confirm.requestNonce operation
        ofExcept (finishConfirmation lib confirm confirmationNonce accepted.response)

/-- The method of the client that serves a call. -/
def serve : ClientCall → Go GoError EnrollmentResult
  | .enrollP10CR request => enrollP10CR lib request
  | .enrollIR request => enrollIR lib request
  | .enrollKUR request => enrollKUR lib request
  | .pollP10CR poll => pollP10CR lib poll
  | .confirmP10CR confirm => confirmP10CR lib confirm

/-- The client behind the interface of the signer. -/
def protocolClient (call : ClientCall) : Go GoError EnrollmentResult := do
  handOver call
  serve lib call

end

end CmpIssuer
