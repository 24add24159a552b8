import CmpIssuer.Protocol.Name

/-!
What the client makes of an answer: reading it from HTTP, authenticating it,
extracting the certificate or the wait it announces, and the verdict on the
enrollment. Nothing here sends a message.
-/
namespace CmpIssuer

def permanent (operation failure : String) (err : GoError) : GoError :=
  .protocol .permanent operation failure 0 err

def retryable (operation failure : String) (err : GoError) : GoError :=
  .protocol .retryable operation failure 0 err

def security (operation failure : String) (err : GoError) : GoError :=
  .protocol .security operation failure 0 err

def minPBMIterationCount : Int := 100
def maxPBMIterationCount : Int := 1048575

/-- `io.ReadAll(io.LimitReader(body, limit))`: an error behind the limit is never met. -/
def readAllLimited (limit : Int) (body : Bytes) (readError : Option String) : Except String Bytes :=
  if limit ≤ body.length then .ok (body.take limit.toNat)
  else
    match readError with
    | some err => .error err
    | none => .ok body

section
variable (lib : Library)

/-- `sendCMP` from the answer of the HTTP client on. -/
def readAnswer (maximum : Int) : HTTPAnswer → Except GoError Bytes
  | .failed err => .error (retryable "HTTP exchange" "systemUnavail" (.text err))
  | .response statusCode contentType body readError =>
      let withoutBody := GoError.text s!"server returned HTTP {statusCode} without a CMP body"
      if 300 ≤ statusCode ∧ statusCode < 400 then
        .error (permanent "HTTP exchange" "redirectRejected" (.text "redirect response rejected"))
      else if lib.parseMediaType contentType ≠ .ok "application/pkixcmp" then
        if statusCode = 408 ∨ statusCode = 425 ∨ statusCode = 429 then
          .error (retryable "HTTP exchange" "systemUnavail" withoutBody)
        else if statusCode ≥ 500 then
          .error (retryable "HTTP exchange" "systemUnavail" withoutBody)
        else .error (permanent "HTTP exchange" "badDataFormat" (.text "response is not application/pkixcmp"))
      else
        match readAllLimited (maximum + 1) body readError with
        | .error err => .error (retryable "read HTTP response" "systemUnavail" (.text err))
        | .ok body =>
            if (body.length : Int) > maximum then
              .error (permanent "read HTTP response" "responseTooLarge"
                (.text "CMP response exceeds configured limit"))
            else if body = [] then
              .error (permanent "read HTTP response" "badDataFormat" (.text "CMP response is empty"))
            else .ok body

def acceptableRecipNonce (recipNonce requestNonce delayedRequestNonce : Bytes) : Bool :=
  recipNonce == requestNonce ||
    (!delayedRequestNonce.isEmpty && recipNonce == delayedRequestNonce)

def verifyTrustedSignature (t : Time) (message : PKIMessage) (roots : Option CertPool)
    (candidates : List CMPCertificate) : Except GoError Certificate :=
  if roots.isNone then .error (.text "CMP trust anchors are absent")
  else
    let parsed := candidates.filterMap fun encoded => (lib.parseCMPCertificate encoded).toOption
    let trusted := parsed.find? fun certificate =>
      (verifyCertificateChain lib t certificate roots parsed).toBool &&
        (lib.verifyMessage t message
          { requiredProtection := .signature, trustedCert := some certificate }).toBool
    match trusted with
    | some certificate => .ok certificate
    | none => .error (.text "no response signer has a valid signature and chain")

/-- The certificates among which `verifyResponse` looks for the signer. -/
def signerCandidates (response : PKIMessage) (request : EnrollmentRequest) : List CMPCertificate :=
  response.extraCerts ++ request.cmpTrustCertificates.map (fun certificate => ⟨certificate.raw⟩) ++
    request.cmpResponseCertificates.map fun certificate => ⟨certificate.raw⟩

/-- The protection kind `verifyResponse` requires. -/
def requiredProtection (request : EnrollmentRequest) : ProtectionKind :=
  if request.protection.password.isSome then .mac else .signature

/-- The options of the first verification in `verifyResponse`. -/
def responseVerifyOptions (response : PKIMessage) (request : EnrollmentRequest) : VerifyOptions :=
  { requiredProtection := requiredProtection request
    sharedSecret := (request.protection.password.map PasswordProtection.secret).getD []
    trustPool := request.cmpTrust
    extraCerts := signerCandidates response request
    senderKID := response.header.senderKID
    minMACIterationCount := if request.requireMACIterationFloor then minPBMIterationCount else 1
    maxMACIterationCount := maxPBMIterationCount }

/-- The verification attempts of `verifyResponse`, in their order: the required protection, the
retained signer, any signer that chains to the anchors. Each later attempt runs only after a failure. -/
def authenticateResponse (t : Time) (response : PKIMessage) (request : EnrollmentRequest)
    (previousSigner : Option Certificate) : Except GoError (Option Certificate) :=
  let candidates := signerCandidates response request
  let signatureAccepted :=
    requiredProtection request == .signature || request.allowSignedMACResponse
  let required : Except GoError (Option Certificate) :=
    match lib.verifyMessage t response (responseVerifyOptions response request) with
    | .error err => .error (.text err)
    | .ok () =>
        if requiredProtection request = .signature then
          (verifyTrustedSignature lib t response request.cmpTrust candidates).map some
        else .ok none
  let retained : Except GoError (Option Certificate) :=
    match required, previousSigner with
    | .error err, some previous =>
        if signatureAccepted && (lib.verifyMessage t response
          { requiredProtection := .signature, trustedCert := some previous }).toBool then
          .ok (some previous)
        else .error err
    | outcome, _ => outcome
  match retained with
  | .error err =>
      if signatureAccepted then
        match verifyTrustedSignature lib t response request.cmpTrust candidates with
        | .ok signer => .ok (some signer)
        | .error _ => .error err
      else .error err
  | outcome => outcome

def verifyResponse (t : Time) (requestMessage response : PKIMessage) (request : EnrollmentRequest)
    (previousSigner : Option Certificate) (delayedRequestNonce : Bytes) :
    Except GoError (Option Certificate) :=
  if response.header.protectionAlg.isNone ∨ response.protection = [] then
    .error (security "verify response protection" "missingProtection"
      (.text "response has no PKIProtection"))
  else
    match authenticateResponse lib t response request previousSigner with
    | .error err => .error (security "verify response protection" "badMessageCheck" err)
    | .ok responseSigner =>
        match (match responseSigner with
          | some signer => validateMLDSAKeyUsage signer
          | none => .ok ()) with
        | .error err => .error (security "verify response signer key usage" "badMessageCheck" err)
        | .ok () =>
            if response.header.transactionID ≠ requestMessage.header.transactionID then
              .error (security "verify transaction ID" "transactionIdMismatch"
                (.text "response transaction ID does not match request"))
            else if !acceptableRecipNonce response.header.recipNonce
                requestMessage.header.senderNonce delayedRequestNonce then
              .error (security "verify recipient nonce" "nonceMismatch"
                (.text "response recipient nonce does not match request sender nonce"))
            else if response.header.pvno ≠ 2 ∧
                response.header.pvno ≠ requestMessage.header.pvno then
              .error (permanent "verify protocol version" "unsupportedVersion"
                (.text s!"response protocol version {response.header.pvno} does not match the request version {requestMessage.header.pvno}"))
            else if !senderMatchesRecipient lib response.header.sender request.recipient then
              .error (security "verify response sender" "wrongAuthority"
                (.text "response sender does not name the configured recipient"))
            else .ok responseSigner

/-- The way of one answer through `sendCMP`, `ParsePKIMessage` and `verifyResponse`. -/
def acceptAnswer (t : Time) (parseOperation : String) (message : PKIMessage)
    (request : EnrollmentRequest) (previousSigner : Option Certificate)
    (delayedRequestNonce : Bytes) (answer : HTTPAnswer) :
    Except GoError (PKIMessage × Option Certificate) :=
  match readAnswer lib request.maxResponseSize answer with
  | .error err => .error err
  | .ok responseDER =>
      match lib.parsePKIMessage responseDER with
      | .error err => .error (security parseOperation "badDataFormat" (.text err))
      | .ok response =>
          match verifyResponse lib t message response request previousSigner delayedRequestNonce with
          | .error err => .error err
          | .ok responseSigner => .ok (response, responseSigner)

/-- `logging.Text`. -/
def loggingText (value : String) : String :=
  let printable := value.toList.map fun c => if lib.isGraphic c then c else ' '
  if printable.length ≤ 256 then String.ofList printable
  else String.ofList (printable.take 256) ++ " ...(truncated)"

def boundedStatus (status : PKIStatusInfo) : PKIStatusInfo :=
  if status.statusString = [] then status
  else { status with
    statusString := [loggingText lib (String.intercalate "; " status.statusString)] }

def classifiedFailureBitOrder : List FailureBit :=
  [.badMessageCheck, .signerNotTrusted, .notAuthorized, .badPOP, .badCertTemplate, .badAlg,
    .transactionIdInUse, .badRequest, .systemUnavail, .systemFailure]

def boundedFailureName (failInfo : List FailureBit) : String :=
  match classifiedFailureBitOrder.find? fun bit => failInfo.contains bit with
  | some bit => lib.failureBitName bit
  | none => "unknownStatus"

/-- The failure bits `classifyStatus` treats as final. -/
def permanentBits : List FailureBit :=
  [.badPOP, .badRequest, .badCertTemplate, .notAuthorized, .badAlg, .badMessageCheck,
    .signerNotTrusted, .transactionIdInUse]

def classifyStatus (status : PKIStatusInfo) : Option GoError :=
  if status.status = .accepted ∨ status.status = .grantedWithMods then none
  else
    let statusErr := GoError.text (lib.statusError (boundedStatus lib status))
    if status.status = .waiting then
      some (.protocol .pending "wait for certificate" "waiting" second statusErr)
    else if status.failInfo.any permanentBits.contains then
      some (permanent "process PKIStatus" (boundedFailureName lib status.failInfo) statusErr)
    else if status.failInfo.any [FailureBit.systemUnavail, .systemFailure].contains then
      some (retryable "process PKIStatus" (boundedFailureName lib status.failInfo) statusErr)
    else some (permanent "process PKIStatus" "unknownStatus" statusErr)

structure IssuedCertificate where
  certificate : Option Certificate := none
  candidates : List Certificate := []
  certReqID : Int := 0
  implicitGranted : Bool := false
  grantedWithMods : Bool := false
  waiting : Bool := false
  deriving DecidableEq, Repr

def acceptResponseCertReqID (operation : Operation) (observed : Int) (pinned : Option Int) :
    Except GoError Unit :=
  match operation with
  | .ir =>
      if observed = 0 then .ok ()
      else .error (security "validate IP certReqId" "certReqIdMismatch"
        (.text s!"IR IP certReqId must be 0 but response contained {observed}"))
  | .kur =>
      if observed = 0 then .ok ()
      else .error (security "validate KUP certReqId" "certReqIdMismatch"
        (.text s!"KUR KUP certReqId must be 0 but response contained {observed}"))
  | _ =>
      match pinned with
      | some pinned =>
          if observed = pinned then .ok ()
          else .error (security "validate CP certReqId" "certReqIdMismatch"
            (.text s!"P10CR CP certReqId must be {pinned} but response contained {observed}"))
      | none =>
          if observed ≠ responseCertReqIDStandard ∧ observed ≠ responseCertReqIDLegacyZero then
            .error (security "validate CP certReqId" "certReqIdUnsupported"
              (.text s!"P10CR CP certReqId must be {responseCertReqIDStandard} or {responseCertReqIDLegacyZero} but response contained {observed}"))
          else .ok ()

/-- `parseResponseCertificates` over the concatenated groups. -/
def parseResponseCertificates : (seen : List Bytes) → List CMPCertificate →
    Except GoError (List Certificate)
  | _, [] => .ok []
  | seen, encoded :: rest =>
      if encoded.raw ∈ seen then parseResponseCertificates seen rest
      else
        match lib.parseCMPCertificate encoded with
        | .error err => .error (permanent "parse response certificate" "badDataFormat" (.text err))
        | .ok parsed =>
            match parseResponseCertificates (encoded.raw :: seen) rest with
            | .error err => .error err
            | .ok later => .ok (parsed :: later)

def responseGrantsImplicitConfirm (response : PKIMessage) : Bool :=
  response.header.generalInfo.any fun infoType => infoType == lib.implicitConfirmOID

/-- The body type an operation is answered with. -/
def expectedBody : Operation → BodyType
  | .ir => .ip
  | .kur => .kup
  | _ => .cp

def Body.certRep : Body → Except String CertRepMessage
  | .cp reply | .ip reply | .kup reply => reply
  | _ => .error "body is not a certificate response"

/-- `extractEnrollmentResponse` from the single CertResponse on. -/
def extractCertResponse (response : PKIMessage) (request : EnrollmentRequest)
    (bodyName : String) (caPubs : List CMPCertificate) (certificateResponse : CertResponse) :
    Except GoError IssuedCertificate :=
  if certificateResponse.status.status = .waiting then
    .ok { certReqID := certificateResponse.certReqID, waiting := true }
  else
    match classifyStatus lib certificateResponse.status with
    | some statusErr => .error statusErr
    | none =>
        match certificateResponse.certifiedKeyPair with
        | some (some encoded) =>
            match lib.parseCMPCertificate encoded with
            | .error err =>
                .error (permanent "parse issued certificate" "badDataFormat" (.text err))
            | .ok certificate =>
                if request.operation = .kur ∧ request.requireKUPCAPubsAbsent ∧ caPubs ≠ [] then
                  .error (permanent "validate KUP" "badDataFormat" (.text "KUP caPubs must be absent"))
                else
                  match parseResponseCertificates lib [] (caPubs ++ response.extraCerts) with
                  | .error err => .error err
                  | .ok candidates =>
                      .ok { certificate := some certificate
                            candidates
                            certReqID := certificateResponse.certReqID
                            implicitGranted := responseGrantsImplicitConfirm lib response
                            grantedWithMods :=
                              certificateResponse.status.status == .grantedWithMods }
        | _ =>
            .error (permanent "extract certificate" "badDataFormat"
              (.text (bodyName ++ " does not contain a plaintext certificate")))

def extractEnrollmentResponse (response : PKIMessage) (request : EnrollmentRequest) :
    Except GoError IssuedCertificate :=
  match response.body with
  | .error content =>
      match content with
      | .error err => .error (permanent "parse error response" "badDataFormat" (.text err))
      | .ok status =>
          -- The source returns the zero value beside the error of `classifyStatus`, which is nil for
          -- a status that reports success.
          match classifyStatus lib status with
          | some statusErr => .error statusErr
          | none => .ok {}
  | body =>
      let operation := if request.operation = .unset then .p10cr else request.operation
      let bodyName := lib.bodyTypeName (expectedBody operation)
      if body.type ≠ expectedBody operation then
        .error (permanent "validate response body" "unsupportedBody"
          (.text ("expected " ++ bodyName ++ " response")))
      else
        match body.certRep with
        | .error err => .error (permanent ("parse " ++ bodyName) "badDataFormat" (.text err))
        | .ok reply =>
            match reply.response with
            | [certificateResponse] =>
                match acceptResponseCertReqID operation certificateResponse.certReqID
                  request.responseCertReqID with
                | .error err => .error err
                | .ok () =>
                    extractCertResponse lib response request bodyName reply.caPubs certificateResponse
            | _ =>
                .error (permanent ("validate " ++ bodyName) "badRequest"
                  (.text (bodyName ++ " must contain exactly one CertResponse")))

structure RefusedCertificate where
  certificate : Option Certificate
  certReqID : Int
  recipNonce : Bytes
  responseSigner : Option Certificate
  reason : String
  deriving DecidableEq, Repr

/-- The results of `finishTransaction`: a result, or an error with an optional refusal. -/
inductive Finished where
  | result (result : EnrollmentResult)
  | failed (refusal : Option RefusedCertificate) (err : GoError)
  deriving DecidableEq, Repr

def nilDereference : String := "invalid memory address or nil pointer dereference"

def sameValidity (first second : Certificate) : Bool :=
  first.notBefore == second.notBefore && first.notAfter == second.notAfter

/-- The end of `finishTransaction`, for a certificate that passed every check. -/
def finishIssued (response : PKIMessage) (responseSigner : Option Certificate)
    (issued : IssuedCertificate) (implicitlyConfirmed : Bool) (chain : List Certificate) :
    EnrollmentResult :=
  if implicitlyConfirmed then
    { chain, extraCertificateCount := issued.candidates.length, responseCertReqID := issued.certReqID }
  else
    { chain
      extraCertificateCount := issued.candidates.length
      responseCertReqID := issued.certReqID
      pendingConfirmation := some
        { certReqID := issued.certReqID, recipNonce := response.header.senderNonce, responseSigner } }

/-- `finishTransaction`, with the reason of a panic in place of its results. -/
def finishTransaction (t : Time) (request : EnrollmentRequest) (response : PKIMessage)
    (csr : CertificateRequest) (responseSigner : Option Certificate)
    (delayedRequestNonce : Bytes) : Except String Finished :=
  match extractEnrollmentResponse lib response request with
  | .error err => .ok (.failed none err)
  | .ok issued =>
      if issued.waiting then
        let pending : PendingTransaction :=
          { certReqID := issued.certReqID
            recipNonce := response.header.senderNonce
            responseSigner
            requestNonce := delayedRequestNonce }
        .ok (.result { pending := some pending })
      else
        let implicitlyConfirmed := request.implicitConfirm && issued.implicitGranted
        let refuse (reason : String) : Option RefusedCertificate :=
          if implicitlyConfirmed then none
          else some
            { certificate := issued.certificate
              certReqID := issued.certReqID
              recipNonce := response.header.senderNonce
              responseSigner
              reason }
        if issued.grantedWithMods && request.rejectGrantedMods then
          .ok (.failed (refuse "granted modifications are not accepted")
            (permanent "apply granted modifications policy" "grantedWithMods"
              (.text "server granted the request with modifications")))
        else
          match issued.certificate with
          | none => .error nilDereference
          | some certificate =>
              if !publicKeysEqual lib csr.publicKey certificate.publicKey then
                .ok (.failed (refuse "certificate does not certify the requested public key")
                  (security "validate issued certificate" "publicKeyMismatch"
                    (.text "issued certificate public key does not match CSR")))
              else
                match validateAndOrderChain lib t certificate
                  (issued.candidates ++ request.cmpResponseCertificates) request.cmpTrust with
                | .error err =>
                    .ok (.failed (refuse "certificate validation failed")
                      (security "validate issued chain" "signerNotTrusted" err))
                | .ok chain =>
                    let finished : Except String Finished :=
                      .ok (.result (finishIssued response responseSigner issued implicitlyConfirmed chain))
                    if request.operation = .kur then
                      match request.protection.signature with
                      | none => .error nilDereference
                      | some signature =>
                          if sameValidity certificate signature.certificate then
                            .ok (.failed
                              (refuse "certificate keeps the validity of the certificate being updated")
                              (permanent "validate issued certificate" "validityNotRenewed"
                                (.text "server issued the updated certificate with the notBefore and notAfter of the certificate it replaces, which would make cert-manager renew it again at once")))
                          else finished
                    else finished

/-- The single entry of a pollRep, checked against the identifier that was polled for. -/
def pollRepItem (parseOperation validateOperation idOperation mismatch : String) (expected : Int)
    (reply : Except String (List PollRepItem)) : Except GoError PollRepItem :=
  match reply with
  | .error err => .error (permanent parseOperation "badDataFormat" (.text err))
  | .ok [item] =>
      if item.certReqID ≠ expected then
        .error (security idOperation "certReqIdMismatch" (.text mismatch))
      else if item.checkAfter < 0 then
        .error (permanent validateOperation "badRequest" (.text "pollRep checkAfter is negative"))
      else .ok item
  | .ok _ =>
      .error (permanent validateOperation "badRequest"
        (.text "pollRep must contain exactly one entry"))

/-- `time.Duration(checkAfter) * time.Second`. -/
def checkAfterDuration (item : PollRepItem) : Duration := wrap64 (item.checkAfter * second)

def extractPollRep (response : PKIMessage) (expectedCertReqID : Int)
    (responseSigner : Option Certificate) (delayedRequestNonce : Bytes)
    (reply : Except String (List PollRepItem)) : Except GoError PendingTransaction :=
  match pollRepItem "parse pollRep" "validate pollRep" "validate pollRep certReqId"
    "pollRep certReqId does not match the polled request" expectedCertReqID reply with
  | .error err => .error err
  | .ok item =>
      .ok { certReqID := item.certReqID
            recipNonce := response.header.senderNonce
            responseSigner
            checkAfter := checkAfterDuration item
            requestNonce := delayedRequestNonce }

def confirmationDelay (response : PKIMessage) : Except GoError Duration :=
  let unsupported := permanent "validate confirmation" "unsupportedBody"
    (.text "expected pkiConf response")
  match response.body with
  | .error (.error err) => .error (permanent "parse confirmation error" "badDataFormat" (.text err))
  | .error (.ok status) =>
      if status.status ≠ .waiting then
        match classifyStatus lib status with
        | some statusErr => .error statusErr
        | none => .error unsupported
      else .ok 0
  | .pollRep reply =>
      match pollRepItem "parse confirmation pollRep" "validate confirmation pollRep"
        "validate confirmation pollRep certReqId"
        "pollRep certReqId does not match the polled confirmation" responseCertReqIDStandard reply with
      | .error err => .error err
      | .ok item => .ok (checkAfterDuration item)
  | _ => .error unsupported

end

end CmpIssuer
