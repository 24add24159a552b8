import CmpIssuer.Protocol.Types

/-!
Certificates, keys and certificate chains: `internal/protocol/certificate.go`,
the parsers of `parse.go` and the chain selection of `client.go`.
-/
namespace CmpIssuer

def oidKeyUsage : OID := [2, 5, 29, 15]
def oidSubjectAltName : OID := [2, 5, 29, 17]

def certificateHasExtension (certificate : Certificate) (oid : OID) : Bool :=
  certificate.extensions.any fun extension => extension.id == oid

/-- The usages RFC 9881 excludes for an ML-DSA key. -/
def KeyUsage.exceedsSignature (usage : KeyUsage) : Bool :=
  usage.keyEncipherment || usage.dataEncipherment || usage.keyAgreement ||
    usage.encipherOnly || usage.decipherOnly

def validateMLDSAKeyUsage (certificate : Certificate) : Except PlainError Unit :=
  match certificate.publicKey with
  | .mldsa _ =>
      if !certificateHasExtension certificate oidKeyUsage then .ok ()
      else if certificate.keyUsage = {} then
        .error (.text "ML-DSA keyUsage extension must contain a signature usage")
      else if certificate.keyUsage.exceedsSignature then
        .error (.text "ML-DSA keyUsage extension must not contain encipherment or key agreement usages")
      else .ok ()
  | _ => .ok ()

/-- The usage check of every certificate of one chain, up to the first failure. -/
def chainKeyUsage : List Certificate → Except PlainError Unit
  | [] => .ok ()
  | certificate :: rest =>
      match validateMLDSAKeyUsage certificate with
      | .ok () => chainKeyUsage rest
      | .error err => .error err

/-- The loop of `verifyCertificateChain`. `usageErr` is what remains when no chain is left. -/
def selectChain : List (List Certificate) → (usageErr : PlainError) → Except PlainError (List Certificate)
  | [], usageErr => .error usageErr
  | chain :: rest, _ =>
      match chainKeyUsage chain with
      | .ok () => .ok chain
      | .error err => selectChain rest err

theorem chainKeyUsage_ok {chain : List Certificate} (h : chainKeyUsage chain = .ok ()) :
    ∀ certificate ∈ chain, validateMLDSAKeyUsage certificate = .ok () := by
  induction chain with
  | nil => simp
  | cons certificate rest ih =>
      unfold chainKeyUsage at h
      split at h
      · rename_i valid
        intro x member
        rcases List.mem_cons.mp member with rfl | later
        · exact valid
        · exact ih h x later
      · cases h

theorem selectChain_ok {chains : List (List Certificate)} {usageErr : PlainError}
    {chain : List Certificate} (h : selectChain chains usageErr = .ok chain) :
    chain ∈ chains ∧ chainKeyUsage chain = .ok () := by
  induction chains generalizing usageErr with
  | nil => cases h
  | cons first rest ih =>
      unfold selectChain at h
      split at h
      · rename_i valid
        cases h
        exact ⟨List.mem_cons_self, valid⟩
      · obtain ⟨member, valid⟩ := ih h
        exact ⟨List.mem_cons_of_mem first member, valid⟩

section
variable (lib : Library)

/-- `verifyCertificateChain`, at the instant `t`. -/
def verifyCertificateChain (t : Time) (certificate : Certificate) (roots : Option CertPool)
    (intermediates : CertPool) : Except PlainError (List Certificate) :=
  match lib.verify t certificate roots intermediates with
  | .error err => .error (.text err)
  | .ok chains => selectChain chains (.text "certificate verification returned no chain")

/-- Whether `validateAndOrderChain` stops before this certificate. -/
def isSelfSigned (certificate : Certificate) : Bool :=
  certificate.rawSubject == certificate.rawIssuer &&
    (lib.checkSignatureFrom certificate certificate).toBool

/-- `validateAndOrderChain`: the leaf followed by the intermediates up to the first root. -/
def validateAndOrderChain (t : Time) (leaf : Certificate) (candidates : List Certificate)
    (roots : Option CertPool) : Except PlainError (List Certificate) :=
  let intermediates := candidates.filter fun candidate => candidate.raw != leaf.raw
  match verifyCertificateChain lib t leaf roots intermediates with
  | .error err => .error err
  | .ok verifiedChain =>
      .ok (leaf :: verifiedChain.tail.takeWhile fun certificate => !isSelfSigned lib certificate)

def validateIssuedChain (t : Time) (chain candidates : List Certificate) (roots : Option CertPool) :
    Except PlainError (List Certificate) :=
  match chain with
  | [] => .error (.text "certificate chain is empty")
  | leaf :: rest =>
      if roots.isNone then .error (.text "CMP trust anchors are absent")
      else validateAndOrderChain lib t leaf (rest ++ candidates) roots

def publicKeysEqual (first second : PublicKey) : Bool :=
  match lib.marshalPKIXPublicKey first, lib.marshalPKIXPublicKey second with
  | .ok firstDER, .ok secondDER => firstDER == secondDER
  | _, _ => false

def validateSignerCertificate (signer : Signer) (certificate : Certificate) : Except PlainError Unit :=
  if publicKeysEqual lib signer.publicKey certificate.publicKey then
    validateMLDSAKeyUsage certificate
  else .error (.text "private key does not match certificate public key")

/-- The PEM loop of `ParseCertificates`: the certificates found and the data after the last block. -/
def parsePEMCertificates : (fuel : Nat) → (remaining : Bytes) → (certificates : List Certificate) →
    Except PlainError (List Certificate × Bytes)
  | 0, remaining, certificates => .ok (certificates, remaining)
  | fuel + 1, remaining, certificates =>
      match lib.pemDecode remaining with
      | none => .ok (certificates, remaining)
      | some (block, rest) =>
          if block.type ≠ "CERTIFICATE" then parsePEMCertificates fuel rest certificates
          else
            match lib.parseCertificate block.bytes with
            | .error err => .error (.wrap "parse PEM certificate: " (.text err) "")
            | .ok certificate => parsePEMCertificates fuel rest (certificates ++ [certificate])

def parseCertificates (data : Bytes) : Except PlainError (List Certificate) :=
  match parsePEMCertificates lib (data.length + 1) data [] with
  | .error err => .error err
  | .ok ([], _) =>
      match lib.parseCertificate data with
      | .error err => .error (.wrap "parse DER certificate: " (.text err) "")
      | .ok certificate => .ok [certificate]
  | .ok (certificates, remaining) =>
      if lib.isBlank remaining then .ok certificates
      else .error (.text "certificate bundle contains trailing non-PEM data")

def parseCertificateRequestDER (data : Bytes) : Except PlainError Bytes :=
  let requestDER : Except PlainError Bytes :=
    match lib.pemDecode data with
    | none => .ok data
    | some (block, rest) =>
        if block.type ≠ "CERTIFICATE REQUEST" ∧ block.type ≠ "NEW CERTIFICATE REQUEST" then
          .error (.text "PEM block is not a certificate request")
        else if !lib.isBlank rest then
          .error (.text "certificate request contains trailing data")
        else .ok block.bytes
  match requestDER with
  | .error err => .error err
  | .ok requestDER =>
      match lib.parseCertificateRequest requestDER with
      | .error err => .error (.wrap "parse certificate request: " (.text err) "")
      | .ok request =>
          match lib.checkRequestSignature request with
          | .error err => .error (.wrap "verify certificate request signature: " (.text err) "")
          | .ok () => .ok request.raw

def parseSigner (data : Bytes) : Except PlainError Signer :=
  let keyDER : Except PlainError Bytes :=
    match lib.pemDecode data with
    | none => .ok data
    | some (block, rest) =>
        if lib.isBlank rest then .ok block.bytes
        else .error (.text "private key contains trailing data")
  match keyDER with
  | .error err => .error err
  | .ok keyDER =>
      match lib.parsePKCS8PrivateKey keyDER with
      | .ok (.signer key) => .ok key
      | .ok .other => .error (.text "private key type does not implement crypto.Signer")
      | .error first =>
          match lib.parsePKCS1PrivateKey keyDER with
          | .ok key => .ok key
          | .error second =>
              match lib.parseECPrivateKey keyDER with
              | .ok key => .ok key
              | .error third =>
                  .error (.text ("parse private key: " ++ first ++ "\n" ++ second ++ "\n" ++ third))

end

section
variable {lib : Library}

/-- The fuel of `parseCertificates` is never used up: each block consumes data. -/
theorem parsePEMCertificates_fuel {fuel extra : Nat} {data : Bytes} {found : List Certificate}
    (enough : data.length < fuel) :
    parsePEMCertificates lib (fuel + extra) data found = parsePEMCertificates lib fuel data found := by
  induction fuel generalizing data found with
  | zero => omega
  | succ fuel ih =>
      rw [Nat.succ_add]
      unfold parsePEMCertificates
      split
      · rfl
      · rename_i block rest decoded
        have shorter := lib.pemDecode_consumes _ _ _ decoded
        rw [ih (by omega)]
        split
        · rfl
        · split
          · rfl
          · exact ih (by omega)

theorem publicKeysEqual_iff {first second : PublicKey} :
    publicKeysEqual lib first second ↔
      ∃ encoded, lib.marshalPKIXPublicKey first = .ok encoded ∧
        lib.marshalPKIXPublicKey second = .ok encoded := by
  unfold publicKeysEqual
  constructor
  · intro equal
    split at equal
    · rename_i firstDER secondDER first second
      obtain rfl := eq_of_beq equal
      exact ⟨firstDER, first, second⟩
    · cases equal
  · rintro ⟨encoded, first, second⟩
    rw [first, second]
    exact beq_self_eq_true encoded

theorem verifyCertificateChain_ok {t : Time} {certificate : Certificate}
    {roots : Option CertPool} {intermediates : CertPool} {chain : List Certificate}
    (h : verifyCertificateChain lib t certificate roots intermediates = .ok chain) :
    ∃ chains, lib.verify t certificate roots intermediates = .ok chains ∧ chain ∈ chains ∧
      ∀ c ∈ chain, validateMLDSAKeyUsage c = .ok () := by
  unfold verifyCertificateChain at h
  split at h
  · cases h
  · rename_i chains verified
    obtain ⟨member, valid⟩ := selectChain_ok h
    exact ⟨chains, verified, member, chainKeyUsage_ok valid⟩

/-- A chain that was built by X.509 verification from a leaf to given roots at one instant. -/
structure VerifiedChain (lib : Library) (t : Time) (roots : Option CertPool)
    (chain : List Certificate) : Prop where
  built : ∃ leaf intermediates chains verified, lib.verify t leaf roots intermediates = .ok chains ∧
    verified ∈ chains ∧ (∀ c ∈ verified, validateMLDSAKeyUsage c = .ok ()) ∧
    ∃ rest, chain = leaf :: rest ∧ rest <+: verified.tail

theorem validateAndOrderChain_ok {t : Time} {leaf : Certificate} {candidates : List Certificate}
    {roots : Option CertPool} {chain : List Certificate}
    (h : validateAndOrderChain lib t leaf candidates roots = .ok chain) :
    chain.head? = some leaf ∧ VerifiedChain lib t roots chain := by
  unfold validateAndOrderChain at h
  dsimp only at h
  split at h
  · cases h
  · rename_i verified selected
    cases h
    obtain ⟨chains, built, member, usages⟩ := verifyCertificateChain_ok selected
    exact ⟨rfl, ⟨leaf, _, chains, verified, built, member, usages, _, rfl, List.takeWhile_prefix _⟩⟩

theorem validateIssuedChain_ok {t : Time} {chain candidates : List Certificate}
    {roots : Option CertPool} {validated : List Certificate}
    (h : validateIssuedChain lib t chain candidates roots = .ok validated) :
    validated.head? = chain.head? ∧ VerifiedChain lib t roots validated := by
  unfold validateIssuedChain at h
  split at h
  · cases h
  · split at h
    · cases h
    · exact validateAndOrderChain_ok h

end

end CmpIssuer
