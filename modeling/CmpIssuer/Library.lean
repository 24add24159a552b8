import CmpIssuer.Base

/-!
Code the issuer calls and does not contain: the CMP message library, the X.509
and PEM packages, hashing and parsing of the standard library. Its data types
are given by the fields the issuer reads. Its functions are fields of
`Library`. Two of them come with what the termination of a loop and the keywords
of a name rest on. Nothing else is assumed of what they compute, and a theorem
that needs an assumption names it.
-/
namespace CmpIssuer

abbrev OID := List Nat

/-- A parsed public key: the Go type it was parsed into and its content. -/
inductive PublicKey where
  | rsa (content : Bytes)
  | ecdsa (content : Bytes)
  | mldsa (content : Bytes)
  | other (content : Bytes)
  deriving DecidableEq, Repr

structure Signer where
  content : Bytes
  publicKey : PublicKey
  deriving DecidableEq, Repr

/-- A private key as a parser of the standard library returns it. -/
inductive ParsedKey where
  | signer (key : Signer)
  | other
  deriving DecidableEq, Repr

structure Extension where
  id : OID
  value : Bytes
  deriving DecidableEq, Repr

/-- An attribute value of a distinguished name. `other` holds the text of a value that is no string. -/
inductive AttributeValue where
  | string (value : String)
  | other (rendered : String)
  deriving DecidableEq, Repr

structure AttributeTypeAndValue where
  type : OID
  value : AttributeValue
  deriving DecidableEq, Repr

abbrev RDNSequence := List (List AttributeTypeAndValue)

/-- `pkix.Name`, by the fields a configured name can set. -/
structure Name where
  commonName : String := ""
  country : List String := []
  locality : List String := []
  province : List String := []
  streetAddress : List String := []
  organization : List String := []
  organizationalUnit : List String := []
  serialNumber : String := ""
  extraNames : List AttributeTypeAndValue := []
  deriving DecidableEq, Repr

/-- `x509.KeyUsage`, one flag for each bit. -/
structure KeyUsage where
  digitalSignature : Bool := false
  contentCommitment : Bool := false
  keyEncipherment : Bool := false
  dataEncipherment : Bool := false
  keyAgreement : Bool := false
  certSign : Bool := false
  crlSign : Bool := false
  encipherOnly : Bool := false
  decipherOnly : Bool := false
  deriving DecidableEq, Repr

structure Certificate where
  raw : Bytes
  rawSubject : Bytes
  rawIssuer : Bytes
  subject : Name
  publicKey : PublicKey
  keyUsage : KeyUsage
  extensions : List Extension
  notBefore : Time
  notAfter : Time
  deriving DecidableEq, Repr

abbrev CertPool := List Certificate

structure CertificateRequest where
  raw : Bytes
  rawSubject : Bytes
  publicKey : PublicKey
  extensions : List Extension
  deriving DecidableEq, Repr

structure PEMBlock where
  type : String
  bytes : Bytes
  deriving DecidableEq, Repr

/-- The parts of a parsed URL the issuer looks at. -/
structure URL where
  scheme : String
  host : String
  hasUser : Bool
  fragment : String
  deriving DecidableEq, Repr

/-- `pkicmp.GeneralName` holding a directoryName. -/
structure GeneralName where
  directoryName : RDNSequence
  raw : Bytes
  deriving DecidableEq, Repr

/-- `pkicmp.CMPCertificate`: an encoded certificate that has not been parsed. -/
structure CMPCertificate where
  raw : Bytes
  deriving DecidableEq, Repr

inductive PKIStatus where
  | accepted | grantedWithMods | rejection | waiting
  | other (value : Int)
  deriving DecidableEq, Repr

/-- The bits of `pkicmp.PKIFailureInfo`. -/
inductive FailureBit where
  | badAlg | badMessageCheck | badRequest | badTime | badCertId | badDataFormat | wrongAuthority
  | incorrectData | missingTimeStamp | badPOP | certRevoked | certConfirmed | wrongIntegrity
  | badRecipientNonce | timeNotAvailable | unacceptedPolicy | unacceptedExtension
  | addInfoNotAvailable | badSenderNonce | badCertTemplate | signerNotTrusted
  | transactionIdInUse | unsupportedVersion | notAuthorized | systemUnavail | systemFailure
  | duplicateCertReq
  deriving DecidableEq, Repr

structure PKIStatusInfo where
  status : PKIStatus
  statusString : List String
  failInfo : List FailureBit
  deriving DecidableEq, Repr

structure CertResponse where
  certReqID : Int
  status : PKIStatusInfo
  /-- The outer option is `CertifiedKeyPair`, the inner one its plaintext certificate. -/
  certifiedKeyPair : Option (Option CMPCertificate)
  deriving DecidableEq, Repr

structure CertRepMessage where
  caPubs : List CMPCertificate
  response : List CertResponse
  deriving DecidableEq, Repr

structure PollRepItem where
  certReqID : Int
  checkAfter : Int
  deriving DecidableEq, Repr

structure CertStatus where
  certHash : Bytes
  certReqID : Int
  statusInfo : Option PKIStatusInfo
  hashAlg : Option Bytes
  deriving DecidableEq, Repr

structure CertTemplate where
  subject : GeneralName
  publicKey : Bytes
  extensions : Option Bytes
  notAfter : Option Time
  deriving DecidableEq, Repr

structure CertRequestTemplate where
  certReqID : Int
  template : CertTemplate
  controls : List Bytes
  deriving DecidableEq, Repr

structure CertReqMsg where
  request : CertRequestTemplate
  proofOfPossession : Bytes
  deriving DecidableEq, Repr

/-- A message body. The content of a response is decoded when it is asked for, which can fail. -/
inductive Body where
  | p10cr (csr : CertificateRequest)
  | ir (messages : List CertReqMsg)
  | kur (messages : List CertReqMsg)
  | pollReq (certReqIDs : List Int)
  | certConf (statuses : List CertStatus)
  | cp (reply : Except String CertRepMessage)
  | ip (reply : Except String CertRepMessage)
  | kup (reply : Except String CertRepMessage)
  | pollRep (reply : Except String (List PollRepItem))
  | error (content : Except String PKIStatusInfo)
  | pkiConf
  | other (type : Nat)

/-- `pkicmp.BodyType`, as far as responses are told apart by it. -/
inductive BodyType where
  | p10cr | ir | kur | pollReq | certConf | cp | ip | kup | pollRep | error | pkiConf
  | other (type : Nat)
  deriving DecidableEq, Repr

def Body.type : Body → BodyType
  | .p10cr _ => .p10cr
  | .ir _ => .ir
  | .kur _ => .kur
  | .pollReq _ => .pollReq
  | .certConf _ => .certConf
  | .cp _ => .cp
  | .ip _ => .ip
  | .kup _ => .kup
  | .pollRep _ => .pollRep
  | .error _ => .error
  | .pkiConf => .pkiConf
  | .other n => .other n

structure PKIHeader where
  pvno : Nat
  sender : GeneralName
  recipient : GeneralName
  transactionID : Bytes
  senderNonce : Bytes
  recipNonce : Bytes
  senderKID : Bytes
  generalInfo : List OID
  protectionAlg : Option Bytes
  deriving DecidableEq, Repr

structure PKIMessage where
  header : PKIHeader
  body : Body
  protection : Bytes
  extraCerts : List CMPCertificate

structure MessageOptions where
  sender : GeneralName
  recipient : GeneralName
  transactionID : Bytes
  recipNonce : Bytes := []

/-- What the message library draws from the random source for one message. -/
structure Entropy where
  senderNonce : Bytes
  transactionID : Bytes
  proofOfPossession : Bytes
  protection : Bytes

inductive ProtectionKind where
  | mac | signature
  deriving DecidableEq, Repr

structure VerifyOptions where
  requiredProtection : ProtectionKind
  sharedSecret : Bytes := []
  trustPool : Option CertPool := none
  extraCerts : List CMPCertificate := []
  senderKID : Bytes := []
  minMACIterationCount : Int := 0
  maxMACIterationCount : Int := 0
  trustedCert : Option Certificate := none

/-- The inputs of message protection. -/
inductive Credentials where
  | mac (secret : Bytes) (owf mac : Hash) (iterationCount minimum maximum : Int)
  | signature (key : Signer) (certificate : Certificate) (chain : List Certificate)
      (digest : Option Hash)
  deriving DecidableEq, Repr

/-- One Secret in the identity of a runtime configuration. An empty digest is left out of its JSON. -/
structure SecretIdentity where
  namespace_ : String
  name : String
  uid : String
  resourceVersion : String
  dataDigest : String
  deriving DecidableEq, Repr

/-- What identifies a runtime configuration: an issuer generation and the Secrets in use. -/
structure ConfigurationIdentity where
  issuerName : String
  issuerKind : String
  issuerUID : String
  issuerGeneration : Int
  secrets : List SecretIdentity
  deriving DecidableEq, Repr

/-- The upper case of the characters that have it in ASCII. The dotless i and the long s are the only
ones outside. -/
def toUpper (c : Char) : Char :=
  if c.isLower then c.toUpper
  else if c = 'ı' then 'I'
  else if c = 'ſ' then 'S'
  else c

/-- The library functions. Those whose outcome depends on the clock take the instant. -/
structure Library where
  /-- `crypto/sha256`. -/
  sha256 : Bytes → Bytes
  /-- `x509.ParseCertificate`. -/
  parseCertificate : Bytes → Except String Certificate
  /-- `x509.ParseCertificateRequest`. -/
  parseCertificateRequest : Bytes → Except String CertificateRequest
  /-- `CertificateRequest.CheckSignature`. -/
  checkRequestSignature : CertificateRequest → Except String Unit
  /-- `CMPCertificate.Parse`. -/
  parseCMPCertificate : CMPCertificate → Except String Certificate
  /-- `Certificate.CheckSignatureFrom`. -/
  checkSignatureFrom : Certificate → Certificate → Except String Unit
  /-- `Certificate.Verify` with any extended key usage. Absent roots are those of the system. -/
  verify : Time → Certificate → (roots : Option CertPool) → (intermediates : CertPool) →
    Except String (List (List Certificate))
  /-- `x509.MarshalPKIXPublicKey`. -/
  marshalPKIXPublicKey : PublicKey → Except String Bytes
  parsePKCS8PrivateKey : Bytes → Except String ParsedKey
  parsePKCS1PrivateKey : Bytes → Except String Signer
  parseECPrivateKey : Bytes → Except String Signer
  /-- `pem.Decode`: the next block and what follows it. -/
  pemDecode : Bytes → Option (PEMBlock × Bytes)
  /-- A decoded block has been consumed. -/
  pemDecode_consumes : ∀ data block rest,
    pemDecode data = some (block, rest) → rest.length < data.length
  /-- `len(strings.TrimSpace(string(data))) == 0`. -/
  isBlank : Bytes → Bool
  /-- `asn1.Unmarshal` into an RDN sequence, with what follows it. -/
  unmarshalRDNSequence : Bytes → Except String (RDNSequence × Bytes)
  /-- `asn1.Unmarshal` into raw values, with what follows them. -/
  unmarshalRawValues : Bytes → Except String (List Bytes × Bytes)
  /-- `asn1.Marshal` of a list of extensions. -/
  marshalExtensions : List Extension → Except String Bytes
  /-- `url.Parse`. -/
  parseURL : String → Except String URL
  /-- `http.NewRequestWithContext` on an endpoint. -/
  newHTTPRequest : String → Except String Unit
  /-- `mime.ParseMediaType`. -/
  parseMediaType : String → Except String String
  /-- `strconv.Atoi`. -/
  atoi : String → Option Int
  /-- The `%q` verb on a string. -/
  quote : String → String
  /-- `Duration.String`. -/
  durationText : Duration → String
  /-- `pem.EncodeToMemory`. -/
  pemEncode : PEMBlock → Bytes
  /-- `json.Marshal` of a configuration identity. -/
  marshalIdentity : ConfigurationIdentity → Except String Bytes
  /-- `unicode.ToUpper`. -/
  upperCase : Char → Char
  upperCase_ascii : ∀ c, (upperCase c).toNat < 0x80 ∨ (toUpper c).toNat < 0x80 → upperCase c = toUpper c
  /-- `unicode.IsGraphic`. -/
  isGraphic : Char → Bool
  newDirectoryName : Name → GeneralName
  newDirectoryNameFromRawDER : Bytes → GeneralName
  newMACCredentials : Credentials → Except String Credentials
  newSignatureCredentials : Credentials → Except String Credentials
  /-- `Credentials.WithHash`. -/
  withHash : Credentials → Hash → Except String Credentials
  newPKIMessage : Body → MessageOptions → Entropy → PKIMessage
  /-- `Credentials.Protect`. -/
  protect : Credentials → Entropy → PKIMessage → Except String PKIMessage
  /-- `PKIMessage.MarshalBinary`. -/
  marshalBinary : PKIMessage → Except String Bytes
  parsePKIMessage : Bytes → Except String PKIMessage
  /-- `PKIMessage.Verify`. -/
  verifyMessage : Time → PKIMessage → VerifyOptions → Except String Unit
  newCertStatus : Certificate → Int → Except String CertStatus
  newOldCertIDControl : Certificate → Except String Bytes
  /-- `CertReqMsg.GeneratePOPWithHash`. -/
  generatePOPWithHash : Signer → Option Hash → Entropy → CertRequestTemplate → Except String Bytes
  implicitConfirmOID : OID
  /-- `PKIStatusInfo.AsError`. -/
  statusError : PKIStatusInfo → String
  /-- `BodyType.String`. -/
  bodyTypeName : BodyType → String
  /-- `PKIFailureInfo.String` of a single bit. -/
  failureBitName : FailureBit → String

end CmpIssuer
