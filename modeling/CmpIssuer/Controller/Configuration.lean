import CmpIssuer.Protocol.Client

/-!
Loading what a reconcile works with: the checks of an issuer spec, the Secrets
it references and the digest that identifies both. Each Secret is read once
and kept, so the digest covers the versions that were loaded.
-/
namespace CmpIssuer
open Effect

/-- `*configurationError`. -/
structure ConfigurationError where
  permanent : Bool
  operation : String
  err : PlainError
  deriving DecidableEq, Repr

def ConfigurationError.goError (err : ConfigurationError) : GoError :=
  .configuration err.permanent err.operation err.err.goError

def permanentConfiguration (operation : String) (err : PlainError) : ConfigurationError :=
  ⟨true, operation, err⟩

def retryableConfiguration (operation : String) (err : PlainError) : ConfigurationError :=
  ⟨false, operation, err⟩

structure SecretFingerprint where
  uid : String
  resourceVersion : String := ""
  dataDigest : String := ""
  deriving DecidableEq, Repr

abbrev Fingerprints := GoMap NamespacedName SecretFingerprint

/-- The Secrets read so far through one `secretGetter`. -/
abbrev SecretCache := GoMap NamespacedName Secret

def credentialFingerprints (secrets : SecretCache) : Fingerprints :=
  secrets.entries.foldl
    (fun fingerprints entry =>
      fingerprints.insert entry.1 ⟨entry.2.uid, entry.2.resourceVersion, ""⟩) ∅

def schemeHTTP : String := "http"
def schemeHTTPS : String := "https"

def defaultMaximumDuration : Duration := 10 * minute
def defaultMinimumPollInterval : Duration := second
def defaultMaximumPollInterval : Duration := 5 * minute
def defaultMaximumPolls : Int := 60

def transactionLimitsWithDefaults (spec : TransactionSpec) : TransactionSpec :=
  let minimumPollInterval :=
    if spec.minimumPollInterval ≤ 0 then defaultMinimumPollInterval else spec.minimumPollInterval
  { maximumDuration := if spec.maximumDuration ≤ 0 then defaultMaximumDuration else spec.maximumDuration
    minimumPollInterval
    maximumPollInterval :=
      if spec.maximumPollInterval < minimumPollInterval then defaultMaximumPollInterval
      else spec.maximumPollInterval
    maximumPolls := if spec.maximumPolls < 1 then defaultMaximumPolls else spec.maximumPolls }

def issuerReference (issuer : Issuer) : TransactionIssuerReference :=
  { name := issuer.name
    kind := if issuer.type = .cmpClusterIssuer then .cluster else .namespaced
    uid := issuer.uid
    generation := issuer.generation }

/-- `issuerSpecAndNamespace`, with the namespace the signer is configured with for cluster issuers. -/
def issuerSpecAndNamespace (clusterResourceNamespace : String) (issuer : Issuer) :
    Except PlainError (CMPIssuerSpec × String) :=
  match issuer.type with
  | .cmpIssuer =>
      if issuer.namespace_ = "" then .error (.text "CMPIssuer namespace is empty")
      else .ok (issuer.spec, issuer.namespace_)
  | .cmpClusterIssuer =>
      if clusterResourceNamespace = "" then .error (.text "cluster resource namespace is empty")
      else .ok (issuer.spec, clusterResourceNamespace)
  | .unsupported typeName => .error (.text ("unsupported issuer type " ++ typeName))

def initialOperation (spec : ProtocolSpec) : Operation :=
  if spec.initialEnrollment = .value .ir then .ir else .p10cr

def renewalOperation (spec : ProtocolSpec) : Operation :=
  match spec.renewal with
  | .value .kur => .kur
  | .value .p10cr => .p10cr
  | _ => if spec.initialEnrollment = .value .ir then .kur else .p10cr

def validateRequestedValidity (spec : ProtocolSpec) : Except PlainError Unit :=
  match spec.requestedValidity with
  | .unset | .value .omit => .ok ()
  | .value .duration =>
      if spec.initialEnrollment ≠ .value .ir ∧ renewalOperation spec ≠ .kur then
        .error (.text "requestedValidity Duration needs IR initial enrollment or KUR renewal, because P10CR cannot carry it")
      else .ok ()
  | .unknown _ => .error (.text "requestedValidity must be Omit or Duration")

def validateRenewalFallback (spec : ProtocolSpec) : Except PlainError Unit :=
  match spec.renewalFallback with
  | .unset | .value .none => .ok ()
  | .value .initialEnrollment =>
      if renewalOperation spec ≠ .kur then
        .error (.text "renewalFallback InitialEnrollment needs KUR renewal, because only KUR depends on the current certificate")
      else .ok ()
  | .unknown _ => .error (.text "renewalFallback must be None or InitialEnrollment")

def SignatureDigest.hash : SignatureDigest → Hash
  | .sha256 => .sha256
  | .sha384 => .sha384
  | .sha512 => .sha512

def signatureDigest : Setting SignatureDigest → Except PlainError (Option Hash)
  | .unset => .ok none
  | .value digest => .ok (some digest.hash)
  | .unknown _ => .error (.text "signatureDigest must be SHA256, SHA384 or SHA512")

def validateSignatureDigest (spec : ProtocolSpec) : Except PlainError Unit :=
  (signatureDigest spec.signatureDigest).map fun _ => ()

/-- Whether an optional setting has one of its values, the empty one included. -/
def Setting.known {α : Type} : Setting α → Bool
  | .unknown _ => false
  | _ => true

/-- The additional demands of the RFC 9483 profile in `validateProtocol`. -/
def validateStrictProfile (spec : ProtocolSpec) : Except PlainError Unit :=
  if spec.p10crResponseCertReqID.any (· ≠ p10crResponseCertReqIDStandard) then
    .error (.text "RFC9483 validation requires p10cr response certReqId -1")
  else if spec.macResponseProtection ≠ .unset ∧ spec.macResponseProtection ≠ .value .strict then
    .error (.text "RFC9483 validation requires Strict macResponseProtection")
  else if spec.kurResponseCAPubs = .value .accept then
    .error (.text "RFC9483 validation requires KUP caPubs to be absent")
  else .ok ()

def validateProtocol (spec : ProtocolSpec) : Except PlainError Unit := do
  if spec.version ≠ 2 then
    throw (.text "only CMPv2 is implemented")
  if spec.initialEnrollment ≠ .value .p10cr ∧ spec.initialEnrollment ≠ .value .ir then
    throw (.text "initialEnrollment must be P10CR or IR")
  if spec.certProfile ≠ "" then
    throw (.text "certProfile is reserved until its CMP encoding is implemented")
  if !spec.renewal.known then
    throw (.text "renewal must be P10CR or KUR")
  validateRequestedValidity spec
  validateRenewalFallback spec
  validateSignatureDigest spec
  if !spec.validationProfile.known then
    throw (.text "validationProfile must be Interoperable or RFC9483")
  if !spec.kurResponseCAPubs.known then
    throw (.text "kurResponseCaPubs must be Accept or RequireAbsent")
  if spec.recipient = "" ∨
      (spec.confirmation ≠ .value .explicit ∧ spec.confirmation ≠ .value .implicit) then
    throw (.text "recipient and a supported confirmation policy are required")
  if spec.p10crResponseCertReqID.any fun pinned =>
      pinned ≠ p10crResponseCertReqIDStandard ∧ pinned ≠ p10crResponseCertReqIDLegacyZero then
    throw (.text "p10cr response certReqId must be -1 or 0")
  if !spec.macResponseProtection.known then
    throw (.text "macResponseProtection must be Strict or AllowSignature")
  if spec.validationProfile = .value .rfc9483 then
    validateStrictProfile spec

def PasswordBasedMacMAC.hash : PasswordBasedMacMAC → Hash
  | .hmacSHA256 => .sha256
  | .hmacSHA384 => .sha384
  | .hmacSHA512 => .sha512

def passwordBasedMacAlgorithms (spec : PasswordBasedMacAlgorithmSpec) : Except PlainError (Hash × Hash) :=
  let unsupported := PlainError.text "unsupported passwordBasedMac algorithm combination"
  match spec.owf, spec.mac with
  | .value owf, .value mac =>
      if mac.hash.size > owf.hash.size then .error unsupported else .ok (owf.hash, mac.hash)
  | _, _ => .error unsupported

def validateProtection (spec : ProtectionSpec) : Except PlainError Unit :=
  match spec.type with
  | .value .passwordBasedMac =>
      match spec.passwordBasedMac, spec.signature with
      | some password, none =>
          if password.referenceKey = "" ∨ password.secretKey = "" ∨
              password.referenceKey = password.secretKey then
            .error (.text "passwordBasedMac reference and secret must use separate Secret keys")
          else
            match passwordBasedMacAlgorithms password.algorithm with
            | .error err => .error err
            | .ok _ =>
                if password.algorithm.iterationCount < passwordBasedMacIterationCountMinimum ∨
                    password.algorithm.iterationCount > passwordBasedMacIterationCountMaximum then
                  .error (.text "unsupported passwordBasedMac algorithm parameters")
                else .ok ()
      | _, _ => .error (.text "passwordBasedMac requires only passwordBasedMac configuration")
  | .value .signature =>
      match spec.passwordBasedMac, spec.signature with
      | none, some signature =>
          if signature.certificateKey = "" ∨ signature.privateKeyKey = "" ∨
              signature.certificateKey = signature.privateKeyKey then
            .error (.text "signature certificate and private key must use separate Secret keys")
          else .ok ()
      | _, _ => .error (.text "signature requires only signature configuration")
  | _ => .error (.text "unsupported protection type")

def validateTransport (spec : TransportSpec) (usesHTTPS : Bool) : Except PlainError Unit :=
  match spec.tls with
  | none => .ok ()
  | some tls =>
      if tls.clientCertificateSecretRef.isSome then
        .error (.text "mTLS client certificates are reserved for a later release")
      else if !usesHTTPS && tls.caSecretRef.isSome then
        .error (.text "TLS CA trust cannot be configured without an HTTPS endpoint")
      else .ok ()

def validateTransactionAndPolicy (transaction : TransactionSpec)
    (grantedModifications : Setting GrantedModifications) : Except PlainError Unit :=
  let omitted := transaction = ⟨0, 0, 0, 0⟩
  if ¬ omitted ∧ (transaction.maximumDuration ≤ 0 ∨ transaction.minimumPollInterval ≤ 0 ∨
      transaction.maximumPollInterval < transaction.minimumPollInterval ∨
      transaction.maximumPolls < 1) then
    .error (.text "transaction limits are invalid")
  else if !grantedModifications.known then
    .error (.text "granted modifications policy is invalid")
  else .ok ()

def requiredSecretValue (lib : Library) (secret : Secret) (key : String) : Except PlainError Bytes :=
  match secret.data.lookup key with
  | some (first :: rest) => .ok (first :: rest)
  | _ => .error (.text ("required key " ++ lib.quote key ++ " is absent or empty"))

section
variable (lib : Library)

def validateEndpointURL (value : String) : Except PlainError URL :=
  let incomplete := PlainError.text "endpoint URL must be a complete HTTP or HTTPS URL"
  match lib.parseURL value with
  | .error _ => .error incomplete
  | .ok endpoint =>
      if endpoint.host = "" ∨ (endpoint.scheme ≠ schemeHTTP ∧ endpoint.scheme ≠ schemeHTTPS) then
        .error incomplete
      else if endpoint.hasUser ∨ endpoint.fragment ≠ "" then
        .error (.text "endpoint URL user information and fragments are not supported")
      else .ok endpoint

def validateEndpoint (spec : EndpointSpec) : Except PlainError URL :=
  match validateEndpointURL lib spec.url with
  | .error err => .error err
  | .ok endpoint =>
      if spec.timeout ≤ 0 ∨ spec.maxResponseSize < 1024 ∨ spec.maxResponseSize > 10485760 then
        .error (.text "endpoint timeout or response size is outside supported bounds")
      else .ok endpoint

/-- The scheme of the renewal endpoint, empty when none is configured. -/
def renewalScheme (spec : EndpointSpec) : Except PlainError String :=
  if spec.renewalURL = "" then .ok ""
  else (validateEndpointURL lib spec.renewalURL).map URL.scheme

def validateSpec (spec : CMPIssuerSpec) : Except PlainError URL := do
  let endpoint ← validateEndpoint lib spec.endpoint
  validateProtocol spec.protocol
  validateProtection spec.protection
  let renewal ← (renewalScheme lib spec.endpoint).mapError fun err => .wrap "renewal " err ""
  validateTransport spec.transport (endpoint.scheme == schemeHTTPS || renewal == schemeHTTPS)
  validateTransactionAndPolicy spec.transaction spec.grantedModifications
  return endpoint

/-- The reader of `secretGetter`. -/
def readCredentialSecret (namespace_ name : String) (secrets : SecretCache) :
    Go ConfigurationError (Secret × SecretCache) :=
  let key : NamespacedName := ⟨namespace_, name⟩
  match secrets.lookup key with
  | some secret => .pure (secret, secrets)
  | none => do
      match ← getSecret key with
      | .ok secret => return (secret, secrets.insert key secret)
      | .error err =>
          if err.reason = .notFound then
            fail (retryableConfiguration "read credential Secret"
              (.text ("referenced Secret " ++ lib.quote name ++ " is not available")))
          else fail (retryableConfiguration "read credential Secret" (.api err))

/-- A value of a Secret, where a missing one fails `operation`. -/
def secretValue (operation : String) (secret : Secret) (key : String) :
    Except ConfigurationError Bytes :=
  (requiredSecretValue lib secret key).mapError (retryableConfiguration operation)

/-- The certificates under one key of a Secret. `contents` names them in errors. -/
def loadCertificates (contents : String) (namespace_ : String) (reference : SecretKeyReference)
    (secrets : SecretCache) : Go ConfigurationError (List Certificate × SecretCache) := do
  let (secret, secrets) ← readCredentialSecret lib namespace_ reference.name secrets
  let data ← ofExcept (secretValue lib ("read " ++ contents) secret reference.key)
  let certificates ← ofExcept ((parseCertificates lib data).mapError
    (retryableConfiguration ("parse " ++ contents)))
  return (certificates, secrets)

/-- `loadTrustPool`. The pool holds the certificates that are returned beside it. -/
def loadTrustPool (namespace_ : String) (reference : SecretKeyReference) (secrets : SecretCache) :
    Go ConfigurationError (List Certificate × SecretCache) :=
  loadCertificates lib "CMP trust" namespace_ reference secrets

def loadResponseCertificates (namespace_ : String) (reference : Option SecretKeyReference)
    (secrets : SecretCache) : Go ConfigurationError (List Certificate × SecretCache) :=
  match reference with
  | none => .pure ([], secrets)
  | some reference =>
      if reference.name = "" ∨ reference.key = "" then
        fail (permanentConfiguration "validate CMP response signer reference"
          (.text "name and key are required"))
      else loadCertificates lib "CMP response signers" namespace_ reference secrets

def loadTLSRoots (namespace_ : String) (spec : CMPIssuerSpec) (usesHTTPS : Bool)
    (secrets : SecretCache) : Go ConfigurationError (Option CertPool × SecretCache) :=
  match usesHTTPS, spec.transport.tls.bind TLSTransportSpec.caSecretRef with
  | true, some reference => do
      let (certificates, secrets) ← loadCertificates lib "TLS trust" namespace_ reference secrets
      return (some certificates, secrets)
  | _, _ => .pure (none, secrets)

/-- The password branch of `loadProtection`, on the Secret it reads. -/
def passwordProtection (password : PasswordBasedMacSpec) (secret : Secret) :
    Except ConfigurationError Protection := do
  let reference ← secretValue lib "read PasswordBasedMac reference" secret password.referenceKey
  let sharedSecret ← secretValue lib "read PasswordBasedMac secret" secret password.secretKey
  let (owf, mac) ← (passwordBasedMacAlgorithms password.algorithm).mapError
    (permanentConfiguration "validate PasswordBasedMac algorithms")
  let loaded : PasswordProtection :=
    { reference, secret := sharedSecret, iterationCount := password.algorithm.iterationCount
      owf := some owf, mac := some mac }
  return { password := some loaded }

/-- The single certificate of a signature credential. -/
def bootstrapCertificate (data : Bytes) : Except ConfigurationError Certificate :=
  match parseCertificates lib data with
  | .ok [certificate] => .ok certificate
  | .ok _ => .error (retryableConfiguration "parse bootstrap certificate"
      (.text "bootstrap certificate key must contain exactly one certificate"))
  | .error err => .error (retryableConfiguration "parse bootstrap certificate" err)

/-- The signature branch of `loadProtection`, on the Secret it reads. -/
def signatureProtection (signature : SignatureProtectionSpec) (secret : Secret) :
    Except ConfigurationError Protection := do
  let certificateData ← secretValue lib "read bootstrap certificate" secret signature.certificateKey
  let certificate ← bootstrapCertificate lib certificateData
  let privateKeyData ← secretValue lib "read bootstrap private key" secret signature.privateKeyKey
  let privateKey ← (parseSigner lib privateKeyData).mapError
    (retryableConfiguration "parse bootstrap private key")
  (validateSignerCertificate lib privateKey certificate).mapError
    (retryableConfiguration "validate bootstrap key pair")
  if signature.chainKey = "" then
    return { signature := some ⟨privateKey, certificate, []⟩ }
  else
    let chainData ← secretValue lib "read bootstrap chain" secret signature.chainKey
    let chain ← (parseCertificates lib chainData).mapError
      (retryableConfiguration "parse bootstrap chain")
    return { signature := some ⟨privateKey, certificate, chain⟩ }

def loadProtection (namespace_ : String) (configured : ProtectionSpec) (secrets : SecretCache) :
    Go ConfigurationError (Protection × SecretCache) :=
  match configured.passwordBasedMac, configured.signature with
  | some password, _ => do
      let (secret, secrets) ← readCredentialSecret lib namespace_ password.secretRef secrets
      let protection ← ofExcept (passwordProtection lib password secret)
      return (protection, secrets)
  | none, some signature => do
      let (secret, secrets) ← readCredentialSecret lib namespace_ signature.secretRef secrets
      let protection ← ofExcept (signatureProtection lib signature secret)
      return (protection, secrets)
  | none, none => .throw (.panic nilDereference)

/-- The order of the Secrets in a configuration identity. -/
def SecretIdentity.before (left right : SecretIdentity) : Prop :=
  left.namespace_ < right.namespace_ ∨
    left.namespace_ = right.namespace_ ∧ left.name ≤ right.name

instance : DecidableRel SecretIdentity.before := fun left right => by
  unfold SecretIdentity.before; infer_instance

def secretIdentities (secrets : Fingerprints) : List SecretIdentity :=
  (secrets.entries.map fun entry =>
    { namespace_ := entry.1.namespace_
      name := entry.1.name
      uid := entry.2.uid
      resourceVersion := entry.2.resourceVersion
      dataDigest := entry.2.dataDigest : SecretIdentity }).insertionSort SecretIdentity.before

def runtimeConfigurationDigest (issuerRef : TransactionIssuerReference) (secrets : Fingerprints) :
    Except PlainError String :=
  let identity : ConfigurationIdentity :=
    { issuerName := issuerRef.name
      issuerKind := issuerRef.kind.text
      issuerUID := issuerRef.uid
      issuerGeneration := issuerRef.generation
      secrets := secretIdentities secrets }
  match lib.marshalIdentity identity with
  | .error err => .error (.wrap "encode runtime configuration identity: " (.text err) "")
  | .ok encoded => .ok (hexEncode (lib.sha256 encoded))

structure RuntimeConfiguration where
  endpointScheme : String
  renewalEndpointURL : String
  enrollmentRequest : EnrollmentRequest
  transaction : TransactionSpec
  configurationDigest : String
  configurationSecrets : Fingerprints
  requestedValidity : Setting RequestedValidity

def pinnedResponseCertReqID (spec : ProtocolSpec) : Option Int :=
  match spec.p10crResponseCertReqID with
  | some pinned => some pinned
  | none =>
      if spec.validationProfile = .value .rfc9483 then some p10crResponseCertReqIDStandard else none

def configuredSender (spec : ProtocolSpec) : Except ConfigurationError (Option Name) :=
  if spec.sender = "" then .ok none
  else ((parseDistinguishedName lib spec.sender).mapError
    (permanentConfiguration "parse protocol sender")).map some

/-- The enrollment request of an issuer before a transaction adds its own fields. -/
def issuerEnrollmentRequest (spec : CMPIssuerSpec) (recipient : Name) (sender : Option Name)
    (digest : Option Hash) (protection : Protection) (cmpTrustCertificates : List Certificate)
    (responseCertificates : List Certificate) (tlsRoots : Option CertPool) : EnrollmentRequest :=
  let strictRFC9483 := spec.protocol.validationProfile == .value .rfc9483
  let strictMACResponses := strictRFC9483 || spec.protocol.macResponseProtection == .value .strict
  { signatureDigest := digest
    endpointURL := spec.endpoint.url
    timeout := spec.endpoint.timeout
    maxResponseSize := spec.endpoint.maxResponseSize
    sender
    recipient
    implicitConfirm := spec.protocol.confirmation == .value .implicit
    rejectGrantedMods := spec.grantedModifications != .value .accept
    allowSignedMACResponse := !strictMACResponses
    requireMACIterationFloor := strictMACResponses
    responseCertReqID := pinnedResponseCertReqID spec.protocol
    requireKUPCAPubsAbsent := strictRFC9483 || spec.protocol.kurResponseCAPubs == .value .requireAbsent
    protection
    cmpTrust := some cmpTrustCertificates
    cmpTrustCertificates
    cmpResponseCertificates := responseCertificates
    tlsRoots }

def loadRuntimeConfiguration (clusterResourceNamespace : String) (issuer : Issuer) :
    Go ConfigurationError RuntimeConfiguration := do
  let (spec, namespace_) ← ofExcept ((issuerSpecAndNamespace clusterResourceNamespace issuer).mapError
    (permanentConfiguration "resolve issuer"))
  let parsedEndpoint ← ofExcept ((validateSpec lib spec).mapError
    (permanentConfiguration "validate issuer spec"))
  let (cmpTrustCertificates, secrets) ← loadTrustPool lib namespace_ spec.cmpTrust.caSecretRef ∅
  let (responseCertificates, secrets) ←
    loadResponseCertificates lib namespace_ spec.cmpTrust.signerCertificatesSecretRef secrets
  let renewal ← ofExcept ((renewalScheme lib spec.endpoint).mapError
    (permanentConfiguration "validate renewal endpoint"))
  let (tlsRoots, secrets) ← loadTLSRoots lib namespace_ spec
    (parsedEndpoint.scheme == schemeHTTPS || renewal == schemeHTTPS) secrets
  let (protection, secrets) ← loadProtection lib namespace_ spec.protection secrets
  let recipient ← ofExcept ((parseDistinguishedName lib spec.protocol.recipient).mapError
    (permanentConfiguration "parse protocol recipient"))
  let sender ← ofExcept (configuredSender lib spec.protocol)
  let digest ← ofExcept ((signatureDigest spec.protocol.signatureDigest).mapError
    (permanentConfiguration "validate protocol signatureDigest"))
  let fingerprints := credentialFingerprints secrets
  let configurationDigest ← ofExcept
    ((runtimeConfigurationDigest lib (issuerReference issuer) fingerprints).mapError
      (permanentConfiguration "identify issuer configuration"))
  return {
    endpointScheme := if renewal = schemeHTTP then schemeHTTP else parsedEndpoint.scheme
    renewalEndpointURL := spec.endpoint.renewalURL
    enrollmentRequest := issuerEnrollmentRequest spec recipient sender digest protection
      cmpTrustCertificates responseCertificates tlsRoots
    transaction := transactionLimitsWithDefaults spec.transaction
    configurationDigest
    configurationSecrets := fingerprints
    requestedValidity := spec.protocol.requestedValidity }

/-- `loadCMPTrust`: the anchors and, after them, the untrusted chain candidates. -/
def loadCMPTrust (clusterResourceNamespace : String) (issuer : Issuer) :
    Go ConfigurationError (List Certificate × List Certificate) := do
  let (spec, namespace_) ← ofExcept ((issuerSpecAndNamespace clusterResourceNamespace issuer).mapError
    (permanentConfiguration "resolve issuer"))
  let (anchors, secrets) ← loadTrustPool lib namespace_ spec.cmpTrust.caSecretRef ∅
  let (responseCertificates, _) ←
    loadResponseCertificates lib namespace_ spec.cmpTrust.signerCertificatesSecretRef secrets
  return (anchors, anchors ++ responseCertificates)

end

end CmpIssuer
