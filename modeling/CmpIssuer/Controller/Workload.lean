import CmpIssuer.Controller.Configuration

/-!
The enrollment operation of a request, the authorization of workload keys and
the renewal fallback: `kur.go` and `renewal_fallback.go` of the controller.
Nothing of a workload is read before the owner chain of the request has been
checked.
-/
namespace CmpIssuer
open Effect

def certificateRequestRevisionAnnotationKey : String := "cert-manager.io/certificate-revision"
def certificateRequestPrivateKeyAnnotationKey : String := "cert-manager.io/private-key-secret-name"
def isNextPrivateKeySecretLabelKey : String := "cert-manager.io/next-private-key"
def certificateNameKey : String := "cert-manager.io/certificate-name"
def certManagerGroupVersion : String := "cert-manager.io/v1"
def certificateKind : String := "Certificate"
def issuerGroup : String := "certmanager.misiektoja.github.io"
def tlsCertKey : String := "tls.crt"
def tlsPrivateKeyKey : String := "tls.key"

/-- A value of a Go map from strings, empty when the key is absent. -/
def stringAt (entries : GoMap String String) (key : String) : String := (entries.lookup key).getD ""

structure WorkloadKeyMaterial where
  protection : Option Protection := none
  requestedPrivateKey : Signer
  secrets : Fingerprints

def cmpIssuerSpec (issuer : Issuer) : Except PlainError CMPIssuerSpec :=
  match issuer.type with
  | .cmpIssuer | .cmpClusterIssuer => .ok issuer.spec
  | .unsupported typeName => .error (.text ("unsupported issuer type " ++ typeName))

/-- `renewalFallbackOperation`. An issuer without a fallback has the empty operation. -/
def renewalFallbackOperation (issuer : Issuer) : Operation :=
  match cmpIssuerSpec issuer with
  | .error _ => .unset
  | .ok spec =>
      if spec.protocol.renewalFallback = .value .initialEnrollment ∧
          renewalOperation spec.protocol = .kur then initialOperation spec.protocol
      else .unset

def certificateOwnerReference (request : CertificateRequestObject) : Except PlainError OwnerReference :=
  let uncontrolled := PlainError.text
    "CertificateRequest is not controlled by a cert-manager.io/v1 Certificate"
  match request.ownerReferences.filter fun owner => owner.controller == some true with
  | [] => .error uncontrolled
  | [owner] =>
      if owner.apiVersion ≠ certManagerGroupVersion ∨ owner.kind ≠ certificateKind ∨
          owner.name = "" ∨ owner.uid = "" then .error uncontrolled
      else .ok owner
  | _ => .error (.text "CertificateRequest has more than one controlling owner")

def certificateIssuerMatches (certificate : CertManagerCertificate) (issuer : Issuer) : Bool :=
  certificate.issuerName == issuer.name && certificate.issuerGroup == issuerGroup &&
    certificate.issuerKind == (issuerReference issuer).kind.text

/-- Whether an owner reference is the controller reference to a Certificate. -/
def OwnerReference.refersTo (owner : OwnerReference) (certificate : CertManagerCertificate) : Bool :=
  owner.apiVersion == certManagerGroupVersion && owner.kind == certificateKind &&
    owner.name == certificate.name && owner.uid == certificate.uid

def secretControlledByCertificate (secret : Secret) (certificate : CertManagerCertificate) : Bool :=
  secret.ownerReferences.any fun owner => owner.controller == some true && owner.refersTo certificate

def authorizedStagedKeyName (request : CertificateRequestObject)
    (certificate : CertManagerCertificate) (operation : Operation) :
    Except ConfigurationError String :=
  let stagedName := stringAt request.annotations certificateRequestPrivateKeyAnnotationKey
  if stagedName = "" ∨ certificate.nextPrivateKeySecretName ≠ some stagedName then
    .error (permanentConfiguration ("authorize " ++ operation.text ++ " staged private key")
      (.text "CertificateRequest private-key annotation does not match Certificate status.nextPrivateKeySecretName"))
  else .ok stagedName

section
variable (lib : Library)

def certificateRequestRevision (request : CertificateRequestObject) : Except PlainError Int :=
  match lib.atoi (stringAt request.annotations certificateRequestRevisionAnnotationKey) with
  | none => .error (.text "certificate revision annotation is absent or invalid")
  | some revision => .ok revision

def selectedTransactionOperation (issuer : Issuer) (request : CertificateRequestObject) :
    Except PlainError Operation :=
  match cmpIssuerSpec issuer with
  | .error err => .error err
  | .ok spec =>
      let initial := initialOperation spec.protocol
      let renewal := renewalOperation spec.protocol
      if initial = .p10cr ∧ renewal = .p10cr then .ok .p10cr
      else if stringAt request.annotations certificateRequestRevisionAnnotationKey = "" then
        if initial = .ir then
          .error (.text "select enrollment operation: IR needs a CertificateRequest that cert-manager created for a Certificate, because the Certificate's staged private key signs the proof of possession")
        else .ok .p10cr
      else
        match certificateRequestRevision lib request with
        | .error err => .error (.wrap "select enrollment operation: " err "")
        | .ok revision =>
            if revision < 1 then
              .error (.wrap "select enrollment operation: "
                (.text "certificate revision annotation must be positive") "")
            else if revision > 1 then .ok renewal
            else .ok initial

def readOwningCertificate (key : NamespacedName) (owner : OwnerReference) (operation : Operation) :
    Go ConfigurationError CertManagerCertificate := do
  match ← getCertificate key with
  | .error err =>
      if err.reason = .notFound then
        fail (permanentConfiguration "read owning Certificate" (.api err))
      else fail (retryableConfiguration "read owning Certificate" (.api err))
  | .ok certificate =>
      if certificate.uid = "" ∨ owner.uid ≠ certificate.uid ∨ certificate.deleted then
        fail (permanentConfiguration ("authorize " ++ operation.text ++ " CertificateRequest")
          (.text "certificate owner identity is absent, deleted or mismatched"))
      else return certificate

/-- The revision check of `authorizeOwningCertificate`. -/
def authorizedRevision (request : CertificateRequestObject) (operation : Operation)
    (renewal : Bool) : Except PlainError Int :=
  match certificateRequestRevision lib request with
  | .error err => .error err
  | .ok revision =>
      if !renewal ∧ revision ≠ 1 then
        .error (.text (operation.text ++ " requires the first certificate revision"))
      else if renewal ∧ revision < 2 then
        .error (.text (operation.text ++ " renewal requires a certificate revision greater than one"))
      else .ok revision

def authorizeOwningCertificate (request : CertificateRequestObject) (issuer : Issuer)
    (operation : Operation) (renewal : Bool) : Go ConfigurationError CertManagerCertificate := do
  let authorization := permanentConfiguration ("authorize " ++ operation.text ++ " CertificateRequest")
  let revision ← ofExcept ((authorizedRevision lib request operation renewal).mapError authorization)
  let owner ← ofExcept ((certificateOwnerReference request).mapError authorization)
  let certificate ← readOwningCertificate ⟨request.namespace_, owner.name⟩ owner operation
  if certificate.revision.getD 0 ≠ revision - 1 then
    fail (authorization
      (.text "CertificateRequest revision does not immediately follow the current Certificate revision"))
  else if !certificateIssuerMatches certificate issuer then
    fail (authorization (.text "owning Certificate refers to a different issuer"))
  else return certificate

def readWorkloadSecret (key : NamespacedName) (description : String) : Go ConfigurationError Secret := do
  match ← getSecret key with
  | .ok secret => return secret
  | .error err =>
      if err.reason = .notFound then
        fail (retryableConfiguration ("read " ++ description)
          (.text ("secret " ++ lib.quote key.name ++ " is not available")))
      else fail (retryableConfiguration ("read " ++ description) (.api err))

def readCurrentSecret (key : NamespacedName) : Go ConfigurationError (Option Secret) := do
  match ← getSecret key with
  | .ok secret => return some secret
  | .error err =>
      if err.reason = .notFound then return none
      else fail (retryableConfiguration "read current certificate Secret" (.api err))

def currentCertificateUnavailable (secretName state : String) : PlainError :=
  .text ("current certificate Secret " ++ lib.quote secretName ++ " " ++ state ++
    ", so KUR cannot authenticate: set renewalFallback to InitialEnrollment, set renewal to P10CR or recreate the Certificate")

def currentSecretIssuedForCertificate (secret : Secret) (certificate : CertManagerCertificate) :
    Except PlainError Unit :=
  match secret.annotations.lookup certificateNameKey with
  | none =>
      .error (.text ("current certificate Secret carries no " ++ certificateNameKey ++
        " annotation, so cert-manager did not write it for this Certificate"))
  | some name =>
      if name ≠ certificate.name then
        .error (.text ("current certificate Secret was written for Certificate " ++ lib.quote name))
      else if secret.ownerReferences.any fun owner =>
          owner.controller == some true && !owner.refersTo certificate then
        .error (.text "current certificate Secret is controlled by another resource")
      else .ok ()

def parseSecretSigner (secret : Secret) (key : String) : Except PlainError Signer :=
  match requiredSecretValue lib secret key with
  | .error err => .error err
  | .ok data => parseSigner lib data

def workloadSecretFingerprint (secret : Secret) (keys : List String) : SecretFingerprint :=
  let digest := lib.sha256 (keys.flatMap fun key =>
    key.toUTF8.toList ++ [0] ++ lib.sha256 ((secret.data.lookup key).getD []))
  { uid := secret.uid, dataDigest := hexEncode digest }

/-- The check of `loadStagedKey` on the key and the CSR. -/
def matchingStagedKey (operation : Operation) (stagedSecret : Secret) (csrDER : Bytes) :
    Except ConfigurationError Signer := do
  let requestedKey ← (parseSecretSigner lib stagedSecret tlsPrivateKeyKey).mapError
    (retryableConfiguration ("parse " ++ operation.text ++ " staged private key"))
  let validation := permanentConfiguration ("validate " ++ operation.text ++ " staged private key")
  let csr ← (lib.parseCertificateRequest csrDER).mapError fun err => validation (.text err)
  if !publicKeysEqual lib requestedKey.publicKey csr.publicKey then
    throw (validation (.text "staged private key does not match the CertificateRequest CSR"))
  return requestedKey

def loadStagedKey (key : NamespacedName) (certificate : CertManagerCertificate) (csrDER : Bytes)
    (operation : Operation) : Go ConfigurationError (Secret × Signer) := do
  let stagedSecret ← readWorkloadSecret lib key "staged private-key Secret"
  if !secretControlledByCertificate stagedSecret certificate ∨
      stringAt stagedSecret.labels isNextPrivateKeySecretLabelKey ≠ "true" then
    fail (permanentConfiguration ("authorize " ++ operation.text ++ " staged private key")
      (.text "staged private-key Secret is not the cert-manager-owned next key for the Certificate"))
  else
    let requestedKey ← ofExcept (matchingStagedKey lib operation stagedSecret csrDER)
    return (stagedSecret, requestedKey)

def loadIRMaterial (request : CertificateRequestObject) (issuer : Issuer) (csrDER : Bytes)
    (renewalFallbackReason : Setting FallbackReason) :
    Go ConfigurationError WorkloadKeyMaterial := do
  let renewal := renewalFallbackReason != .unset
  if renewal ∧ renewalFallbackOperation issuer ≠ .ir then
    fail (permanentConfiguration "authorize IR CertificateRequest"
      (.text "issuer does not fall back from KUR to IR"))
  else
    let certificate ← authorizeOwningCertificate lib request issuer .ir renewal
    let stagedName ← ofExcept (authorizedStagedKeyName request certificate .ir)
    let stagedKey : NamespacedName := ⟨request.namespace_, stagedName⟩
    let (stagedSecret, requestedPrivateKey) ← loadStagedKey lib stagedKey certificate csrDER .ir
    let secrets : Fingerprints := (∅ : Fingerprints).insert stagedKey
      (workloadSecretFingerprint lib stagedSecret [tlsPrivateKeyKey])
    return { requestedPrivateKey, secrets }

/-- The protection of `loadKURMaterial`, from the current Secret. -/
def currentProtection (currentName : String) (currentSecret : Secret) :
    Except ConfigurationError Protection :=
  match (currentSecret.data.lookup tlsCertKey).getD [] with
  | [] =>
      .error (permanentConfiguration "parse KUR current certificate"
        (currentCertificateUnavailable lib currentName "holds no certificate"))
  | first :: rest =>
      match parseCertificates lib (first :: rest) with
      | .error err => .error (retryableConfiguration "parse KUR current certificate" err)
      | .ok [] =>
          .error (retryableConfiguration "parse KUR current certificate"
            (.text "current certificate Secret contains no certificate"))
      | .ok (certificate :: chain) =>
          match parseSecretSigner lib currentSecret tlsPrivateKeyKey with
          | .error err => .error (retryableConfiguration "parse KUR current private key" err)
          | .ok oldKey =>
              match validateSignerCertificate lib oldKey certificate with
              | .error err => .error (permanentConfiguration "validate KUR current key pair" err)
              | .ok () => .ok { signature := some ⟨oldKey, certificate, chain⟩ }

def loadKURMaterial (request : CertificateRequestObject) (issuer : Issuer) (csrDER : Bytes) :
    Go ConfigurationError WorkloadKeyMaterial := do
  let certificate ← authorizeOwningCertificate lib request issuer .kur true
  let stagedName ← ofExcept (authorizedStagedKeyName request certificate .kur)
  if certificate.secretName = "" ∨ certificate.secretName = stagedName then
    fail (permanentConfiguration "authorize KUR current certificate"
      (.text "certificate current and staged Secret names must be distinct"))
  else
    let currentKey : NamespacedName := ⟨request.namespace_, certificate.secretName⟩
    match ← readCurrentSecret currentKey with
    | none =>
        fail (permanentConfiguration "read current certificate Secret"
          (currentCertificateUnavailable lib currentKey.name "does not exist"))
    | some currentSecret =>
        ofExcept ((currentSecretIssuedForCertificate lib currentSecret certificate).mapError
          (permanentConfiguration "authorize KUR current certificate"))
        let stagedKey : NamespacedName := ⟨request.namespace_, stagedName⟩
        let (stagedSecret, requestedPrivateKey) ← loadStagedKey lib stagedKey certificate csrDER .kur
        let protection ← ofExcept (currentProtection lib currentKey.name currentSecret)
        let secrets : Fingerprints := ((∅ : Fingerprints).insert currentKey
          (workloadSecretFingerprint lib currentSecret [tlsCertKey, tlsPrivateKeyKey])).insert stagedKey
          (workloadSecretFingerprint lib stagedSecret [tlsPrivateKeyKey])
        return { protection := some protection, requestedPrivateKey, secrets }

/-- The verdict of `classifyRenewalFallback` on the current Secret. -/
def currentCertificateState (certificate : CertManagerCertificate) (now : Time) :
    Option Secret → Option FallbackReason
  | none => some .currentCertificateMissing
  | some secret =>
      match currentSecretIssuedForCertificate lib secret certificate with
      | .error _ => none
      | .ok () =>
          match (secret.data.lookup tlsCertKey).getD [] with
          | [] => some .currentCertificateMissing
          | first :: rest =>
              match parseCertificates lib (first :: rest) with
              | .ok (current :: _) =>
                  if now < current.notAfter then none else some .currentCertificateExpired
              | _ => none

def classifyRenewalFallback (request : CertificateRequestObject) (issuer : Issuer) (now : Time) :
    Go ConfigurationError (Option FallbackReason) := do
  let certificate ← authorizeOwningCertificate lib request issuer .kur true
  if certificate.secretName = "" ∨ certificate.secretName =
      stringAt request.annotations certificateRequestPrivateKeyAnnotationKey then
    return none
  else
    let secret ← readCurrentSecret ⟨request.namespace_, certificate.secretName⟩
    return currentCertificateState lib certificate now secret

end

end CmpIssuer
