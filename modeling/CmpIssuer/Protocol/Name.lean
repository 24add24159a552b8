import CmpIssuer.Protocol.Certificate
import Mathlib.Data.String.Basic
import Mathlib.Data.List.Sort

/-!
Distinguished names: the configured names of `parse.go`, the order-independent
comparisons of `client.go` and `kur.go`, and the names a message carries.
Text is a list of characters, as the scanners of the source read it.
-/
namespace CmpIssuer

def oidDomainComponent : OID := [0, 9, 2342, 19200300, 100, 1, 25]
def oidUserID : OID := [0, 9, 2342, 19200300, 100, 1, 1]
def oidEmailAddress : OID := [1, 2, 840, 113549, 1, 9, 1]

def isSpace (c : Char) : Bool :=
  let n := c.toNat
  (0x09 ≤ n && n ≤ 0x0d) || n == 0x20 || n == 0x85 || n == 0xa0 || n == 0x1680 ||
    (0x2000 ≤ n && n ≤ 0x200a) || n == 0x2028 || n == 0x2029 || n == 0x202f || n == 0x205f ||
    n == 0x3000

def trimSpace (text : List Char) : List Char :=
  ((text.dropWhile isSpace).reverse.dropWhile isSpace).reverse

/-- The scan of `splitDN`: the components, and whether the text ends inside an escape. -/
def splitComponents : (escaped : Bool) → (current : List Char) → List Char → List (List Char) × Bool
  | escaped, current, [] => ([trimSpace current], escaped)
  | true, current, c :: rest => splitComponents false (current ++ [c]) rest
  | false, current, c :: rest =>
      if c = '\\' then splitComponents true (current ++ [c]) rest
      else if c = ',' then
        let (parts, escaped) := splitComponents false [] rest
        (trimSpace current :: parts, escaped)
      else splitComponents false (current ++ [c]) rest

def splitDN (value : List Char) : Except PlainError (List (List Char)) :=
  if trimSpace value = [] then .error (.text "distinguished name is empty")
  else
    let (parts, escaped) := splitComponents false [] value
    if escaped then .error (.text "distinguished name ends with an escape")
    else if [] ∈ parts then .error (.text "distinguished name contains an empty component")
    else .ok parts

/-- The scan of `unescapeDNValue`. -/
def unescape : (escaped : Bool) → List Char → List Char × Bool
  | escaped, [] => ([], escaped)
  | true, c :: rest => let (decoded, escaped) := unescape false rest; (c :: decoded, escaped)
  | false, c :: rest =>
      if c = '\\' then unescape true rest
      else let (decoded, escaped) := unescape false rest; (c :: decoded, escaped)

def unescapeDNValue (value : List Char) : Except PlainError (List Char) :=
  let (decoded, escaped) := unescape false value
  if escaped then .error (.text "distinguished name value ends with an escape")
  else .ok decoded

/-- `strings.Cut` at the first equals sign. -/
def cutAtEquals : List Char → Option (List Char × List Char)
  | [] => none
  | c :: rest =>
      if c = '=' then some ([], rest)
      else (cutAtEquals rest).map fun (key, value) => (c :: key, value)

def addNameAttribute (lib : Library) (name : Name) (key value : String) : Except PlainError Name :=
  match key with
  | "CN" => .ok { name with commonName := value }
  | "C" => .ok { name with country := name.country ++ [value] }
  | "L" => .ok { name with locality := name.locality ++ [value] }
  | "ST" => .ok { name with province := name.province ++ [value] }
  | "STREET" => .ok { name with streetAddress := name.streetAddress ++ [value] }
  | "O" => .ok { name with organization := name.organization ++ [value] }
  | "OU" => .ok { name with organizationalUnit := name.organizationalUnit ++ [value] }
  | "SERIALNUMBER" => .ok { name with serialNumber := value }
  | "DC" => .ok { name with extraNames := name.extraNames ++ [⟨oidDomainComponent, .string value⟩] }
  | "UID" => .ok { name with extraNames := name.extraNames ++ [⟨oidUserID, .string value⟩] }
  | "EMAILADDRESS" | "E" =>
      .ok { name with extraNames := name.extraNames ++ [⟨oidEmailAddress, .string value⟩] }
  | key => .error (.text ("unsupported distinguished name attribute " ++ lib.quote key))

/-- One round of the loop of `ParseDistinguishedName`. -/
def addComponent (lib : Library) (name : Name) (part : List Char) : Except PlainError Name :=
  match cutAtEquals part with
  | none => .error (.text "distinguished name component lacks '='")
  | some (key, raw) =>
      match unescapeDNValue (trimSpace raw) with
      | .error err => .error err
      | .ok decoded =>
          if decoded = [] then .error (.text "distinguished name value is empty")
          else addNameAttribute lib name (String.ofList ((trimSpace key).map lib.upperCase))
            (String.ofList decoded)

def parseDistinguishedName (lib : Library) (value : String) : Except PlainError Name :=
  match splitDN value.toList with
  | .error err => .error err
  | .ok parts => parts.foldlM (addComponent lib) {}

/-- `ObjectIdentifier.String`. -/
def OID.text (oid : OID) : String := String.intercalate "." (oid.map toString)

/-- `fmt.Sprintf("%s=%v", attribute.Type.String(), attribute.Value)`. -/
def AttributeTypeAndValue.text (entry : AttributeTypeAndValue) : String :=
  OID.text entry.type ++ "=" ++
    match entry.value with
    | .string value => value
    | .other rendered => rendered

def attributeSet (sequence : RDNSequence) : List String :=
  (sequence.flatten.map AttributeTypeAndValue.text).insertionSort (· ≤ ·)

section
variable (lib : Library)

def senderMatchesRecipient (sender : GeneralName) (recipient : Name) : Bool :=
  if sender.directoryName.isEmpty then false
  else
    let configured := (lib.newDirectoryName recipient).directoryName
    if configured.isEmpty then true
    else attributeSet sender.directoryName == attributeSet configured

def certificateSubject (certificate : Certificate) : GeneralName :=
  if certificate.rawSubject.isEmpty then lib.newDirectoryName certificate.subject
  else lib.newDirectoryNameFromRawDER certificate.rawSubject

def requestSender (request : EnrollmentRequest) : GeneralName :=
  match request.sender, request.protection.signature with
  | some name, _ => lib.newDirectoryName name
  | none, some signature => certificateSubject lib signature.certificate
  | none, none => ⟨[], []⟩

def rawAttributeSet (raw : Bytes) : Except PlainError (List String) :=
  match lib.unmarshalRDNSequence raw with
  | .ok (sequence, []) => .ok (attributeSet sequence)
  | _ => .error (.text "parse distinguished name")

def hexByte (b : UInt8) : List Char :=
  [Nat.digitChar (b.toNat / 16), Nat.digitChar (b.toNat % 16)]

/-- `hex.EncodeToString`. -/
def hexEncode (bytes : Bytes) : String := String.ofList (bytes.flatMap hexByte)

def generalNameSet (extensions : List Extension) : Except PlainError (List String) :=
  match extensions.find? fun extension => extension.id == oidSubjectAltName with
  | none => .ok []
  | some extension =>
      match lib.unmarshalRawValues extension.value with
      | .ok (names, []) => .ok ((names.map hexEncode).insertionSort (· ≤ ·))
      | _ => .error (.text "parse subject alternative names")

def sameKURIdentity (certificate : Certificate) (csr : CertificateRequest) : Bool :=
  match rawAttributeSet lib certificate.rawSubject, rawAttributeSet lib csr.rawSubject with
  | .ok certificateSubject, .ok requestSubject =>
      if certificateSubject ≠ requestSubject then false
      else
        match generalNameSet lib certificate.extensions, generalNameSet lib csr.extensions with
        | .ok certificateNames, .ok requestNames => certificateNames == requestNames
        | _, _ => false
  | _, _ => false

end

end CmpIssuer
