import CmpIssuer.Library

/-!
The Kubernetes objects the signer reads and writes: the issuer resources, the
recorded CMP transaction, and the cert-manager and core objects by the fields
the signer looks at. A field whose schema lists its values keeps room for any
other text, because the code compares strings and does not rely on the schema.
-/
namespace CmpIssuer

/-- A string field with a list of known values. -/
inductive Setting (α : Type) where
  | unset
  | value (a : α)
  | unknown (text : String)
  deriving DecidableEq, Repr

/-- `TransactionOperationP10CR`, `TransactionOperationIR`, `TransactionOperationKUR`. -/
inductive Operation where
  | unset | p10cr | ir | kur
  | unknown (text : String)
  deriving DecidableEq, Repr

def Operation.text : Operation → String
  | .unset => ""
  | .p10cr => "P10CR"
  | .ir => "IR"
  | .kur => "KUR"
  | .unknown text => text

/-- The phases of a recorded transaction. -/
inductive Phase where
  | unset | enrolling | polling | confirming | issued
  | unknown (text : String)
  deriving DecidableEq, Repr

/-- `RenewalFallbackCurrentCertificateMissing`, `RenewalFallbackCurrentCertificateExpired`. -/
inductive FallbackReason where
  | currentCertificateMissing | currentCertificateExpired
  deriving DecidableEq, Repr

/-- `TransactionIssuerKindNamespaced`, `TransactionIssuerKindCluster`. -/
inductive IssuerKind where
  | namespaced | cluster
  | unknown (text : String)
  deriving DecidableEq, Repr

def IssuerKind.text : IssuerKind → String
  | .namespaced => "CMPIssuer"
  | .cluster => "CMPClusterIssuer"
  | .unknown text => text

inductive EnrollmentChoice where
  | p10cr | ir
  deriving DecidableEq, Repr

inductive RenewalChoice where
  | p10cr | kur
  deriving DecidableEq, Repr

inductive RequestedValidity where
  | omit | duration
  deriving DecidableEq, Repr

inductive RenewalFallback where
  | none | initialEnrollment
  deriving DecidableEq, Repr

inductive ValidationProfile where
  | interoperable | rfc9483
  deriving DecidableEq, Repr

inductive KURResponseCAPubs where
  | accept | requireAbsent
  deriving DecidableEq, Repr

inductive MACResponseProtection where
  | strict | allowSignature
  deriving DecidableEq, Repr

inductive SignatureDigest where
  | sha256 | sha384 | sha512
  deriving DecidableEq, Repr

inductive Confirmation where
  | explicit | implicit
  deriving DecidableEq, Repr

inductive GrantedModifications where
  | reject | accept
  deriving DecidableEq, Repr

inductive ProtectionType where
  | passwordBasedMac | signature
  deriving DecidableEq, Repr

inductive PasswordBasedMacMAC where
  | hmacSHA256 | hmacSHA384 | hmacSHA512
  deriving DecidableEq, Repr

def p10crResponseCertReqIDStandard : Int := -1
def p10crResponseCertReqIDLegacyZero : Int := 0
def passwordBasedMacIterationCountMinimum : Int := 100
def passwordBasedMacIterationCountMaximum : Int := 1048575

structure EndpointSpec where
  url : String
  renewalURL : String
  timeout : Duration
  maxResponseSize : Int
  deriving DecidableEq, Repr

structure ProtocolSpec where
  version : Int
  initialEnrollment : Setting EnrollmentChoice
  renewal : Setting RenewalChoice
  requestedValidity : Setting RequestedValidity
  renewalFallback : Setting RenewalFallback
  validationProfile : Setting ValidationProfile
  kurResponseCAPubs : Setting KURResponseCAPubs
  p10crResponseCertReqID : Option Int
  macResponseProtection : Setting MACResponseProtection
  signatureDigest : Setting SignatureDigest
  certProfile : String
  sender : String
  recipient : String
  confirmation : Setting Confirmation
  deriving DecidableEq, Repr

structure PasswordBasedMacAlgorithmSpec where
  owf : Setting SignatureDigest
  mac : Setting PasswordBasedMacMAC
  iterationCount : Int
  deriving DecidableEq, Repr

structure PasswordBasedMacSpec where
  secretRef : String
  referenceKey : String
  secretKey : String
  algorithm : PasswordBasedMacAlgorithmSpec
  deriving DecidableEq, Repr

structure SignatureProtectionSpec where
  secretRef : String
  certificateKey : String
  privateKeyKey : String
  chainKey : String
  deriving DecidableEq, Repr

structure ProtectionSpec where
  type : Setting ProtectionType
  passwordBasedMac : Option PasswordBasedMacSpec
  signature : Option SignatureProtectionSpec
  deriving DecidableEq, Repr

structure SecretKeyReference where
  name : String
  key : String
  deriving DecidableEq, Repr

structure CMPTrustSpec where
  caSecretRef : SecretKeyReference
  signerCertificatesSecretRef : Option SecretKeyReference
  deriving DecidableEq, Repr

structure TLSTransportSpec where
  caSecretRef : Option SecretKeyReference
  clientCertificateSecretRef : Option String
  deriving DecidableEq, Repr

structure TransportSpec where
  tls : Option TLSTransportSpec
  deriving DecidableEq, Repr

structure TransactionSpec where
  maximumDuration : Duration
  minimumPollInterval : Duration
  maximumPollInterval : Duration
  maximumPolls : Int
  deriving DecidableEq, Repr

structure CMPIssuerSpec where
  endpoint : EndpointSpec
  protocol : ProtocolSpec
  protection : ProtectionSpec
  cmpTrust : CMPTrustSpec
  transport : TransportSpec
  transaction : TransactionSpec
  grantedModifications : Setting GrantedModifications
  deriving DecidableEq, Repr

/-- The Go type behind the issuer interface. -/
inductive IssuerType where
  | cmpIssuer | cmpClusterIssuer
  | unsupported (typeName : String)
  deriving DecidableEq, Repr

structure Issuer where
  type : IssuerType
  namespace_ : String
  name : String
  uid : String
  generation : Int
  spec : CMPIssuerSpec
  deriving DecidableEq, Repr

structure TransactionIssuerReference where
  name : String
  kind : IssuerKind
  uid : String
  generation : Int
  deriving DecidableEq, Repr

structure CMPTransactionSpec where
  certificateRequestName : String
  certificateRequestUID : String
  transactionID : Bytes
  deadline : Time
  csrDigest : String
  issuerRef : Option TransactionIssuerReference
  configurationDigest : String
  operation : Operation
  renewalFallback : Setting FallbackReason
  protocolVersion : Int
  deriving DecidableEq, Repr

structure CMPTransactionStatus where
  phase : Phase := .unset
  issuedChain : List Bytes := []
  completionTime : Option Time := none
  recipNonce : Bytes := []
  requestNonce : Bytes := []
  certReqID : Option Int := none
  responseSigner : Bytes := []
  polls : Int := 0
  lastTransitionTime : Option Time := none
  deriving DecidableEq, Repr

structure NamespacedName where
  namespace_ : String
  name : String
  deriving DecidableEq, Repr

structure OwnerReference where
  apiVersion : String
  kind : String
  name : String
  uid : String
  controller : Option Bool
  deriving DecidableEq, Repr

structure CMPTransaction where
  key : NamespacedName
  uid : String := ""
  resourceVersion : String := ""
  creationTimestamp : Option Time := none
  ownerReferences : List OwnerReference
  spec : CMPTransactionSpec
  status : CMPTransactionStatus := {}
  deriving DecidableEq, Repr

structure Secret where
  uid : String
  resourceVersion : String
  labels : GoMap String String
  annotations : GoMap String String
  ownerReferences : List OwnerReference
  data : GoMap String Bytes

/-- The `Certificate` resource of cert-manager. -/
structure CertManagerCertificate where
  name : String
  uid : String
  deleted : Bool
  secretName : String
  issuerName : String
  issuerKind : String
  issuerGroup : String
  revision : Option Int
  nextPrivateKeySecretName : Option String
  deriving DecidableEq, Repr

/-- The request object issuer-lib hands to `Sign`. -/
structure CertificateRequestObject where
  namespace_ : String
  name : String
  uid : String
  annotations : GoMap String String
  ownerReferences : List OwnerReference
  /-- The CSR of `GetCertificateDetails`, or its error. -/
  csr : Except String Bytes
  /-- `spec.duration` of the cert-manager resource behind the object, when it is set. -/
  duration : Option Duration

def CertificateRequestObject.key (request : CertificateRequestObject) : NamespacedName :=
  ⟨request.namespace_, request.name⟩

/-- What the API server adds to a created object. -/
structure Assigned where
  uid : String
  resourceVersion : String
  creationTimestamp : Time
  deriving DecidableEq, Repr

/-- A record after its JSON round trip: instants lose their fraction of a second. -/
def CMPTransaction.roundTrip (tx : CMPTransaction) : CMPTransaction :=
  { tx with
    spec := { tx.spec with deadline := tx.spec.deadline.truncate }
    status := { tx.status with
      completionTime := tx.status.completionTime.map Time.truncate
      lastTransitionTime := tx.status.lastTransitionTime.map Time.truncate } }

/-- The record a successful create leaves in the store and in the caller's copy. Create ignores the
status, because the resource has a status subresource. -/
def CMPTransaction.created (tx : CMPTransaction) (assigned : Assigned) : CMPTransaction :=
  { tx.roundTrip with
    uid := assigned.uid
    resourceVersion := assigned.resourceVersion
    creationTimestamp := some assigned.creationTimestamp
    status := {} }

/-- The record a successful status update leaves in the store and in the caller's copy. -/
def CMPTransaction.updated (tx : CMPTransaction) (resourceVersion : String) : CMPTransaction :=
  { tx.roundTrip with resourceVersion }

end CmpIssuer
