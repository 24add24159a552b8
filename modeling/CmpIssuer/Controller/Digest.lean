import CmpIssuer.Controller.Authorization

/-!
What the digest of a configuration determines. The digest covers one
fingerprint for each Secret name. A fingerprint covers the version of a
credential, or the key material of a workload and not its version. So two
configurations with equal digests have the same workload keys, and the same
credentials unless a workload Secret is a credential as well.
-/
namespace CmpIssuer
open Effect

def FixedSize (lib : Library) : Prop := ∃ size, 0 < size ∧ ∀ data, (lib.sha256 data).length = size

/-- The encoding of a configuration identity determines it. -/
def EncodesIdentity (lib : Library) : Prop :=
  ∀ first second encoded, lib.marshalIdentity first = .ok encoded →
    lib.marshalIdentity second = .ok encoded → first = second

/-- The identity whose encoding `runtimeConfigurationDigest` hashes. -/
def configurationIdentity (issuerRef : TransactionIssuerReference) (secrets : Fingerprints) :
    ConfigurationIdentity :=
  { issuerName := issuerRef.name
    issuerKind := issuerRef.kind.text
    issuerUID := issuerRef.uid
    issuerGeneration := issuerRef.generation
    secrets := secretIdentities secrets }

/-- The keys that the fingerprints of workload Secrets cover: of a staged and of a current Secret. -/
def workloadKeys : List (List String) := [[tlsPrivateKeyKey], [tlsCertKey, tlsPrivateKeyKey]]

/-- What a fingerprint covers of one value of a Secret. -/
def coveredValue (secret : Secret) (key : String) : Bytes := (secret.data.lookup key).getD []

/-- The bytes that are hashed into the fingerprint of a workload Secret. -/
def fingerprintInput (lib : Library) (secret : Secret) (keys : List String) : Bytes :=
  keys.flatMap fun key => key.toUTF8.toList ++ [0] ++ lib.sha256 (coveredValue secret key)

/-- A fingerprint map over Secrets that were read. -/
def FingerprintsOver (lib : Library) (reads : List (NamespacedName × Secret)) (secrets : Fingerprints) :
    Prop :=
  ∀ key fingerprint, secrets.lookup key = some fingerprint → ∃ secret, (key, secret) ∈ reads ∧
    (fingerprint = credentialFingerprint secret ∨
      ∃ keys ∈ workloadKeys, fingerprint = workloadSecretFingerprint lib secret keys)

/-- What is hashed for the configuration digest of an issuer and these Secrets. -/
inductive Hashed (lib : Library) (issuer : Issuer) (reads : List (NamespacedName × Secret)) : Bytes → Prop
  | identity {secrets : Fingerprints} {encoded : Bytes} (covers : FingerprintsOver lib reads secrets)
      (encodes : lib.marshalIdentity (configurationIdentity (issuerReference issuer) secrets) = .ok encoded) :
      Hashed lib issuer reads encoded
  | fingerprint {key : NamespacedName} {secret : Secret} {keys : List String} (read : (key, secret) ∈ reads)
      (known : keys ∈ workloadKeys) : Hashed lib issuer reads (fingerprintInput lib secret keys)
  | value {key : NamespacedName} {secret : Secret} {keys : List String} {name : String}
      (read : (key, secret) ∈ reads) (known : keys ∈ workloadKeys) (named : name ∈ keys) :
      Hashed lib issuer reads (coveredValue secret name)

/-- No two different inputs of these have one digest. -/
def CollisionFree (lib : Library) (issuer : Issuer) (reads : List (NamespacedName × Secret)) : Prop :=
  ∀ first second, Hashed lib issuer reads first → Hashed lib issuer reads second →
    lib.sha256 first = lib.sha256 second → first = second

/-- A Secret of the same UID and resource version has the same data. -/
def VersionsTell (reads reads' : List (NamespacedName × Secret)) : Prop :=
  ∀ key secret secret', (key, secret) ∈ reads → (key, secret') ∈ reads' → secret.uid = secret'.uid →
    secret.resourceVersion = secret'.resourceVersion → secret.data = secret'.data

theorem versionsTell_iff {reads reads' : List (NamespacedName × Secret)} :
    (∀ entry ∈ reads, ∀ entry' ∈ reads', entry.1 = entry'.1 → entry.2.uid = entry'.2.uid →
      entry.2.resourceVersion = entry'.2.resourceVersion → entry.2.data.entries = entry'.2.data.entries) ↔
    VersionsTell reads reads' := by
  constructor
  · exact fun tell _ _ _ read read' uid version => AList.ext (tell _ read _ read' rfl uid version)
  · rintro tell ⟨key, secret⟩ read ⟨_, secret'⟩ read' rfl uid version
    exact congrArg AList.entries (tell key secret secret' read read' uid version)

instance (reads reads' : List (NamespacedName × Secret)) : Decidable (VersionsTell reads reads') :=
  decidable_of_iff _ versionsTell_iff

section
variable {lib : Library} {issuer : Issuer} {reads : List (NamespacedName × Secret)}

theorem FingerprintsOver.mono {reads' : List (NamespacedName × Secret)} {secrets : Fingerprints}
    (covers : FingerprintsOver lib reads secrets) (seen : reads ⊆ reads') :
    FingerprintsOver lib reads' secrets := by
  intro key fingerprint found
  obtain ⟨secret, read, rest⟩ := covers key fingerprint found
  exact ⟨secret, seen read, rest⟩

theorem secretIdentities_lookup {first second : Fingerprints}
    (same : secretIdentities first = secretIdentities second) (key : NamespacedName) :
    first.lookup key = second.lookup key := by
  have entries : ∀ (secrets : Fingerprints) (fingerprint : SecretFingerprint),
      secrets.lookup key = some fingerprint ↔ (⟨key.namespace_, key.name, fingerprint.uid,
        fingerprint.resourceVersion, fingerprint.dataDigest⟩ : SecretIdentity) ∈ secretIdentities secrets := by
    intro secrets fingerprint
    unfold secretIdentities
    rw [(List.perm_insertionSort _ _).mem_iff, List.mem_map]
    constructor
    · intro found
      exact ⟨⟨key, fingerprint⟩, AList.mem_lookup_iff.mp found, rfl⟩
    · rintro ⟨⟨⟨namespace_, name⟩, ⟨uid, version, digest⟩⟩, member, equal⟩
      obtain ⟨key_namespace, key_name⟩ := key
      obtain ⟨_, _, _⟩ := fingerprint
      simp only [SecretIdentity.mk.injEq] at equal
      obtain ⟨rfl, rfl, rfl, rfl, rfl⟩ := equal
      exact AList.mem_lookup_iff.mpr member
  refine Option.ext fun fingerprint => ?_
  rw [entries, entries, same]

theorem runtimeConfigurationDigest_ok {issuerRef : TransactionIssuerReference} {secrets : Fingerprints}
    {digest : String} (h : runtimeConfigurationDigest lib issuerRef secrets = .ok digest) :
    ∃ encoded, lib.marshalIdentity (configurationIdentity issuerRef secrets) = .ok encoded ∧
      digest = hexEncode (lib.sha256 encoded) := by
  unfold runtimeConfigurationDigest at h
  dsimp only at h
  split at h
  · cases h
  · rename_i encoded marshalled
    cases h
    exact ⟨encoded, marshalled, rfl⟩

theorem identity_of_digest (encoding : EncodesIdentity lib) {issuer' : Issuer}
    (free : ∀ first second, Hashed lib issuer reads first → Hashed lib issuer' reads second →
      lib.sha256 first = lib.sha256 second → first = second)
    {first second : Fingerprints} {digest : String} (covers : FingerprintsOver lib reads first)
    (covers' : FingerprintsOver lib reads second)
    (digested : runtimeConfigurationDigest lib (issuerReference issuer) first = .ok digest)
    (digested' : runtimeConfigurationDigest lib (issuerReference issuer') second = .ok digest) :
    configurationIdentity (issuerReference issuer) first =
      configurationIdentity (issuerReference issuer') second := by
  obtain ⟨encoded, marshalled, rfl⟩ := runtimeConfigurationDigest_ok digested
  obtain ⟨encoded', marshalled', same⟩ := runtimeConfigurationDigest_ok digested'
  obtain rfl := free _ _ (.identity covers marshalled) (.identity covers' marshalled') (hexEncode_injective same)
  exact encoding _ _ _ marshalled marshalled'

theorem lookup_of_digest (encoding : EncodesIdentity lib) (free : CollisionFree lib issuer reads)
    {first second : Fingerprints} {digest : String} (covers : FingerprintsOver lib reads first)
    (covers' : FingerprintsOver lib reads second)
    (digested : runtimeConfigurationDigest lib (issuerReference issuer) first = .ok digest)
    (digested' : runtimeConfigurationDigest lib (issuerReference issuer) second = .ok digest)
    (key : NamespacedName) : first.lookup key = second.lookup key :=
  secretIdentities_lookup (congrArg ConfigurationIdentity.secrets
    (identity_of_digest encoding free covers covers' digested digested')) key

/-- A fingerprint of a workload Secret is never one of a credential. -/
theorem credentialFingerprint_ne (size : FixedSize lib) (secret other : Secret) (keys : List String) :
    credentialFingerprint secret ≠ workloadSecretFingerprint lib other keys := by
  obtain ⟨n, positive, length⟩ := size
  intro same
  have digest : hexEncode [] = hexEncode (lib.sha256 (fingerprintInput lib other keys)) :=
    congrArg SecretFingerprint.dataDigest same
  have empty := length (fingerprintInput lib other keys)
  rw [← hexEncode_injective digest] at empty
  exact absurd empty positive.ne

theorem fingerprintInput_getElem (secret : Secret) {name : String} {rest : List String}
    (long : 4 < name.toUTF8.toList.length) :
    (fingerprintInput lib secret (name :: rest))[4]? = name.toUTF8.toList[4]? := by
  simp only [fingerprintInput, List.flatMap_cons, List.append_assoc]
  exact List.getElem?_append_left long

/-- The names of the two keys differ in a letter, so a staged Secret is not mistaken for a current one. -/
theorem fingerprintInput_ne (secret secret' : Secret) :
    fingerprintInput lib secret [tlsPrivateKeyKey] ≠
      fingerprintInput lib secret' [tlsCertKey, tlsPrivateKeyKey] := by
  intro same
  have letters := congrArg (fun bytes : Bytes => bytes[4]?) same
  rw [fingerprintInput_getElem secret (by decide +kernel),
    fingerprintInput_getElem secret' (by decide +kernel)] at letters
  revert letters
  decide +kernel

/-- A fingerprint of a workload Secret determines the keys it covers and their values. -/
theorem workloadSecretFingerprint_eq (size : FixedSize lib) (free : CollisionFree lib issuer reads)
    {key key' : NamespacedName} {secret secret' : Secret} {keys keys' : List String}
    (read : (key, secret) ∈ reads) (read' : (key', secret') ∈ reads) (known : keys ∈ workloadKeys)
    (known' : keys' ∈ workloadKeys)
    (same : workloadSecretFingerprint lib secret keys = workloadSecretFingerprint lib secret' keys') :
    keys = keys' ∧ ∀ name ∈ keys, coveredValue secret name = coveredValue secret' name := by
  have digest : hexEncode (lib.sha256 (fingerprintInput lib secret keys)) =
      hexEncode (lib.sha256 (fingerprintInput lib secret' keys')) :=
    congrArg SecretFingerprint.dataDigest same
  have inputs := free _ _ (.fingerprint read known) (.fingerprint read' known') (hexEncode_injective digest)
  have value : ∀ name ∈ keys, name ∈ keys' →
      lib.sha256 (coveredValue secret name) = lib.sha256 (coveredValue secret' name) →
      coveredValue secret name = coveredValue secret' name := fun name named named' =>
    free _ _ (.value read known named) (.value read' known' named')
  obtain ⟨n, _, length⟩ := size
  simp only [workloadKeys, List.mem_cons, List.not_mem_nil, or_false] at known known'
  rcases known with rfl | rfl <;> rcases known' with rfl | rfl
  · simp only [fingerprintInput, List.flatMap_cons, List.flatMap_nil, List.append_nil,
      List.append_assoc, List.append_cancel_left_eq] at inputs
    refine ⟨rfl, fun name named => value name named named ?_⟩
    cases List.mem_singleton.mp named
    exact inputs
  · exact absurd inputs (fingerprintInput_ne secret secret')
  · exact absurd inputs.symm (fingerprintInput_ne secret' secret)
  · simp only [fingerprintInput, List.flatMap_cons, List.flatMap_nil, List.append_nil,
      List.append_assoc, List.append_cancel_left_eq] at inputs
    obtain ⟨certificates, rest⟩ := List.append_inj inputs (by rw [length, length])
    simp only [List.append_cancel_left_eq] at rest
    refine ⟨rfl, fun name named => value name named named ?_⟩
    simp only [List.mem_cons, List.not_mem_nil, or_false] at named
    rcases named with rfl | rfl
    · exact certificates
    · exact rest

/-- What a prepared enrollment takes from the configuration and from the workload Secrets. -/
inductive PreparedFrom (lib : Library) (request : CertificateRequestObject) (csrDER : Bytes)
    (operation : Operation) (configuration : RuntimeConfiguration) (t : Trail) (prepared : Prepared) : Prop
  | plain (other : operation ≠ .ir ∧ operation ≠ .kur)
      (enrollment : prepared.enrollment = { configuration.enrollmentRequest with
        csrDER := prepared.enrollment.csrDER
        operation := prepared.enrollment.operation
        endpointURL := prepared.enrollment.endpointURL })
      (secrets : prepared.configuration.configurationSecrets = configuration.configurationSecrets)
  | workload {material : WorkloadKeyMaterial}
      (made : MaterialFrom lib request csrDER operation (secretsRead t) material)
      (enrollment : prepared.enrollment = { configuration.enrollmentRequest with
        csrDER := prepared.enrollment.csrDER
        operation := prepared.enrollment.operation
        endpointURL := prepared.enrollment.endpointURL
        protection := material.protection.getD configuration.enrollmentRequest.protection
        requestedPrivateKey := some material.requestedPrivateKey
        responseCertReqID := none })
      (secrets : prepared.configuration.configurationSecrets =
        configuration.configurationSecrets.copy material.secrets)

theorem prepareEnrollment_material {request : CertificateRequestObject} {operation : Operation}
    {reason : Setting FallbackReason} {csrDER : Bytes} {configuration : RuntimeConfiguration} :
    Follows reading (Loads (PreparedFrom lib request csrDER operation configuration)) []
      (prepareEnrollment lib request issuer operation reason csrDER configuration) := by
  unfold prepareEnrollment
  dsimp only
  split
  · rename_i workload
    refine loads_mono (prepareWorkloadKeyEnrollment_loads workload) ?_
    rintro u prepared ⟨material, made, enrollment, _, secrets, _⟩
    exact .workload made (by rw [enrollment]) secrets
  · rename_i plain
    exact loads_pure (.plain (not_or.mp plain) rfl rfl)

theorem PreparedFrom.trust {request : CertificateRequestObject} {operation : Operation} {csrDER : Bytes}
    {configuration : RuntimeConfiguration} {t : Trail} {prepared : Prepared}
    (made : PreparedFrom lib request csrDER operation configuration t prepared) :
    prepared.enrollment.cmpTrust = configuration.enrollmentRequest.cmpTrust ∧
      prepared.enrollment.cmpTrustCertificates = configuration.enrollmentRequest.cmpTrustCertificates ∧
      prepared.enrollment.cmpResponseCertificates =
        configuration.enrollmentRequest.cmpResponseCertificates ∧
      prepared.enrollment.tlsRoots = configuration.enrollmentRequest.tlsRoots := by
  cases made with
  | plain _ enrollment | workload _ enrollment => rw [enrollment]; exact ⟨rfl, rfl, rfl, rfl⟩

theorem PreparedFrom.sender {request : CertificateRequestObject} {operation : Operation} {csrDER : Bytes}
    {configuration : RuntimeConfiguration} {t : Trail} {prepared : Prepared}
    (made : PreparedFrom lib request csrDER operation configuration t prepared) :
    prepared.enrollment.sender = configuration.enrollmentRequest.sender := by
  cases made with
  | plain _ enrollment | workload _ enrollment => rw [enrollment]

theorem MaterialFrom.lookup {request : CertificateRequestObject} {csrDER : Bytes} {operation : Operation}
    {material : WorkloadKeyMaterial} (made : MaterialFrom lib request csrDER operation reads material)
    {key : NamespacedName} {fingerprint : SecretFingerprint}
    (found : material.secrets.lookup key = some fingerprint) :
    ∃ secret keys, (key, secret) ∈ reads ∧ keys ∈ workloadKeys ∧
      fingerprint = workloadSecretFingerprint lib secret keys := by
  cases made with
  | ir matching =>
      rw [GoMap.lookup_insert] at found
      split at found
      · cases found
        exact ⟨_, [tlsPrivateKeyKey], by simp [*], by simp [workloadKeys], rfl⟩
      · cases found
  | kur distinct current matching =>
      rw [GoMap.lookup_insert, GoMap.lookup_insert] at found
      split at found
      · cases found
        exact ⟨_, [tlsPrivateKeyKey], by simp [*], by simp [workloadKeys], rfl⟩
      · split at found
        · cases found
          exact ⟨_, [tlsCertKey, tlsPrivateKeyKey], by simp [*], by simp [workloadKeys], rfl⟩
        · cases found

theorem requiredSecretValue_covered {secret : Secret} {name : String} {data : Bytes}
    (h : requiredSecretValue lib secret name = .ok data) : coveredValue secret name = data := by
  unfold requiredSecretValue at h
  split at h
  · rename_i found
    cases h
    rw [coveredValue, found]
    rfl
  · cases h

theorem parseSecretSigner_covered {secret : Secret} {name : String} {key : Signer}
    (h : parseSecretSigner lib secret name = .ok key) : parseSigner lib (coveredValue secret name) = .ok key := by
  unfold parseSecretSigner at h
  split at h
  · cases h
  · rename_i data required
    rw [requiredSecretValue_covered required]
    exact h

theorem matchingStagedKey_covered {operation operation' : Operation} {csrDER csrDER' : Bytes}
    {secret secret' : Secret} {key key' : Signer}
    (matching : matchingStagedKey lib operation secret csrDER = .ok key)
    (matching' : matchingStagedKey lib operation' secret' csrDER' = .ok key')
    (same : coveredValue secret tlsPrivateKeyKey = coveredValue secret' tlsPrivateKeyKey) : key = key' := by
  have parsed := parseSecretSigner_covered (matchingStagedKey_ok matching).1
  have parsed' := parseSecretSigner_covered (matchingStagedKey_ok matching').1
  rw [same, parsed'] at parsed
  exact (Except.ok.inj parsed).symm

theorem currentProtection_covered {name name' : String} {secret secret' : Secret}
    {protection protection' : Protection}
    (current : currentProtection lib name secret = .ok protection)
    (current' : currentProtection lib name' secret' = .ok protection')
    (certificates : coveredValue secret tlsCertKey = coveredValue secret' tlsCertKey)
    (keys : coveredValue secret tlsPrivateKeyKey = coveredValue secret' tlsPrivateKeyKey) :
    protection = protection' := by
  obtain ⟨data, ⟨privateKey, certificate, chain⟩, rfl, found, parsed, signer, _⟩ := currentProtection_ok current
  obtain ⟨data', ⟨privateKey', certificate', chain'⟩, rfl, found', parsed', signer', _⟩ :=
    currentProtection_ok current'
  obtain rfl : data = data' := by simpa [coveredValue, found, found'] using certificates
  have signer := parseSecretSigner_covered signer
  rw [keys, parseSecretSigner_covered signer'] at signer
  cases parsed.symm.trans parsed'
  cases signer
  rfl

theorem MaterialFrom.same (size : FixedSize lib) (free : CollisionFree lib issuer reads)
    {request request' : CertificateRequestObject} {csrDER csrDER' : Bytes} {operation : Operation}
    {work work' : List (NamespacedName × Secret)} {material material' : WorkloadKeyMaterial}
    (made : MaterialFrom lib request csrDER operation work material)
    (made' : MaterialFrom lib request' csrDER' operation work' material') (seen : work ⊆ reads)
    (seen' : work' ⊆ reads)
    (transfer : ∀ key fingerprint, material.secrets.lookup key = some fingerprint →
      material'.secrets.lookup key = some fingerprint) :
    material.protection = material'.protection ∧
      material.requestedPrivateKey = material'.requestedPrivateKey := by
  have covers : ∀ {key key' secret secret' keys keys'}, (key, secret) ∈ work → (key', secret') ∈ work' →
      keys ∈ workloadKeys → keys' ∈ workloadKeys →
      workloadSecretFingerprint lib secret keys = workloadSecretFingerprint lib secret' keys' →
      keys = keys' ∧ ∀ name ∈ keys, coveredValue secret name = coveredValue secret' name :=
    fun read read' known known' => workloadSecretFingerprint_eq size free (seen read) (seen' read') known known'
  have stagedKeys : [tlsPrivateKeyKey] ∈ workloadKeys := by simp [workloadKeys]
  have currentKeys : [tlsCertKey, tlsPrivateKeyKey] ∈ workloadKeys := by simp [workloadKeys]
  cases made with
  | @ir stagedName stagedSecret key matching =>
      cases made' with
      | ir matching' =>
          have found := transfer ⟨request.namespace_, stagedName⟩ _
            (by rw [GoMap.lookup_insert, if_pos rfl])
          rw [GoMap.lookup_insert] at found
          split at found
          · have staged := covers List.mem_cons_self List.mem_cons_self stagedKeys stagedKeys
              (Option.some.inj found).symm
            exact ⟨rfl, matchingStagedKey_covered matching matching' (staged.2 _ List.mem_cons_self)⟩
          · cases found
  | @kur currentName stagedName currentSecret stagedSecret key protection distinct current matching =>
      cases made' with
      | kur distinct' current' matching' =>
          have apart : (⟨request.namespace_, currentName⟩ : NamespacedName) ≠
              ⟨request.namespace_, stagedName⟩ := fun same => distinct (congrArg NamespacedName.name same)
          have foundStaged := transfer ⟨request.namespace_, stagedName⟩ _
            (by rw [GoMap.lookup_insert, if_pos rfl])
          have foundCurrent := transfer ⟨request.namespace_, currentName⟩ _
            (by rw [GoMap.lookup_insert, if_neg apart, GoMap.lookup_insert, if_pos rfl])
          have second {a b : NamespacedName × Secret} : b ∈ [a, b] := List.mem_cons_of_mem _ List.mem_cons_self
          rw [GoMap.lookup_insert, GoMap.lookup_insert] at foundStaged foundCurrent
          refine ⟨?_, ?_⟩
          · split at foundCurrent
            · have covered := covers List.mem_cons_self second currentKeys stagedKeys
                (Option.some.inj foundCurrent).symm
              exact absurd covered.1 (by decide)
            · split at foundCurrent
              · have covered := covers List.mem_cons_self List.mem_cons_self currentKeys currentKeys
                  (Option.some.inj foundCurrent).symm
                refine congrArg some (currentProtection_covered current current' ?_ ?_)
                · exact covered.2 _ List.mem_cons_self
                · exact covered.2 _ (List.mem_cons_of_mem _ List.mem_cons_self)
              · cases foundCurrent
          · split at foundStaged
            · have covered := covers second second stagedKeys stagedKeys (Option.some.inj foundStaged).symm
              exact matchingStagedKey_covered matching matching' (covered.2 _ List.mem_cons_self)
            · split at foundStaged
              · have covered := covers second List.mem_cons_self stagedKeys currentKeys
                  (Option.some.inj foundStaged).symm
                exact absurd covered.1 (by decide)
              · cases foundStaged

/-- A configuration and the request that was prepared from it, with the Secrets each was made from. -/
structure Preparation (lib : Library) (clusterResourceNamespace : String) (request : CertificateRequestObject)
    (issuer : Issuer) (operation : Operation) (csrDER : Bytes) (reads work : Trail)
    (configuration : RuntimeConfiguration) (prepared : Prepared) : Prop where
  configured : Configured lib clusterResourceNamespace issuer reads configuration
  credentials : CredentialsRead lib clusterResourceNamespace issuer reads configuration.enrollmentRequest
  named : ∀ key secret, (key, secret) ∈ secretsRead reads →
    key ∈ credentialSecrets clusterResourceNamespace issuer
  sender : configuredSender lib issuer.spec.protocol = .ok configuration.enrollmentRequest.sender
  made : PreparedFrom lib request csrDER operation configuration work prepared
  digest : runtimeConfigurationDigest lib (issuerReference issuer)
    prepared.configuration.configurationSecrets = .ok prepared.configuration.configurationDigest

theorem secretRead_eq_some {e : Event interface} {key : NamespacedName} {secret : Secret}
    (h : secretRead e = some (key, secret)) : e = ⟨.getSecret key, .ok secret⟩ := by
  obtain ⟨o, answer⟩ := e
  cases o with
  | getSecret key' => cases answer <;> cases h; rfl
  | _ => cases h

theorem mem_of_secretsRead {t : Trail} {key : NamespacedName} {secret : Secret}
    (h : (key, secret) ∈ secretsRead t) : (⟨.getSecret key, .ok secret⟩ : Event interface) ∈ t := by
  obtain ⟨e, member, read⟩ := List.mem_filterMap.mp h
  exact secretRead_eq_some read ▸ member

theorem Preparation.intro {clusterResourceNamespace : String} {request : CertificateRequestObject}
    {operation : Operation} {reason : Setting FallbackReason} {csrDER : Bytes} {first second : Trail}
    {configuration : RuntimeConfiguration} {prepared : Prepared}
    (loading : Path (loadRuntimeConfiguration lib clusterResourceNamespace issuer) first (.pure configuration))
    (preparing : Path (prepareEnrollment lib request issuer operation reason csrDER configuration) second
      (.pure prepared)) :
    Preparation lib clusterResourceNamespace request issuer operation csrDER first second configuration
      prepared := by
  obtain ⟨configured, credentials, sender⟩ : Configured _ _ _ _ _ ∧ CredentialsRead _ _ _ _ _ ∧ _ :=
    loadRuntimeConfiguration_reads.outcome (r := .ok configuration) loading
  have prepares : Prepares lib issuer operation csrDER configuration second prepared :=
    (prepareEnrollment_loads configured.digest).outcome (r := .ok prepared) preparing
  refine ⟨configured, credentials, fun key secret read => ?_, sender,
    prepareEnrollment_material.outcome (r := .ok prepared) preparing, prepares.digest⟩
  have asks : Follows (asking (credentialSecrets clusterResourceNamespace issuer)) (fun _ _ => True) []
      (loadRuntimeConfiguration lib clusterResourceNamespace issuer) := loadRuntimeConfiguration_asks
  obtain ⟨_, member, ⟨⟩⟩ := asks.quiet loading _ (mem_of_secretsRead read)
  exact member

section
variable {clusterResourceNamespace : String} {request : CertificateRequestObject} {operation : Operation}
  {csrDER : Bytes} {first second : Trail} {configuration : RuntimeConfiguration} {prepared : Prepared}
  (preparation : Preparation lib clusterResourceNamespace request issuer operation csrDER first second
    configuration prepared)
include preparation

/-- A credential that is no workload Secret keeps its own fingerprint. -/
theorem Preparation.credential {key : NamespacedName} {secret : Secret}
    (read : (key, secret) ∈ secretsRead first) (other : ∀ found, (key, found) ∉ secretsRead second) :
    prepared.configuration.configurationSecrets.lookup key = some (credentialFingerprint secret) := by
  obtain ⟨secrets, cached, fingerprints⟩ := preparation.configured.secrets
  have own : configuration.configurationSecrets.lookup key = some (credentialFingerprint secret) := by
    rw [fingerprints, credentialFingerprints_lookup, (cached key secret).mpr read]
    rfl
  cases preparation.made with
  | plain _ _ same => rw [same, own]
  | @workload material made _ copied =>
      rw [copied, GoMap.lookup_copy, own]
      cases found : material.secrets.lookup key with
      | none => rfl
      | some fingerprint =>
          obtain ⟨workload, _, member, _⟩ := made.lookup found
          exact absurd member (other workload)

theorem Preparation.covers : FingerprintsOver lib (secretsRead first ++ secretsRead second)
    prepared.configuration.configurationSecrets := by
  obtain ⟨secrets, cached, fingerprints⟩ := preparation.configured.secrets
  have credential : ∀ key fingerprint, configuration.configurationSecrets.lookup key = some fingerprint →
      ∃ secret, (key, secret) ∈ secretsRead first ++ secretsRead second ∧
        fingerprint = credentialFingerprint secret := by
    intro key fingerprint found
    rw [fingerprints, credentialFingerprints_lookup, Option.map_eq_some_iff] at found
    obtain ⟨secret, present, rfl⟩ := found
    exact ⟨secret, List.mem_append_left _ ((cached key secret).mp present), rfl⟩
  intro key fingerprint found
  cases preparation.made with
  | plain _ _ same =>
      rw [same] at found
      obtain ⟨secret, member, own⟩ := credential key fingerprint found
      exact ⟨secret, member, .inl own⟩
  | @workload material made _ copied =>
      rw [copied, GoMap.lookup_copy, Option.or_eq_some_iff] at found
      rcases found with work | ⟨_, own⟩
      · obtain ⟨secret, keys, member, known, rfl⟩ := made.lookup work
        exact ⟨secret, List.mem_append_right _ member, .inr ⟨keys, known, rfl⟩⟩
      · obtain ⟨secret, member, own⟩ := credential key fingerprint own
        exact ⟨secret, member, .inl own⟩

end

theorem CertificatesRead.same {t t' : Trail} {namespace_ : String} {reference : SecretKeyReference}
    {certificates certificates' : List Certificate}
    (agree : ∀ key secret secret', (key, secret) ∈ secretsRead t → (key, secret') ∈ secretsRead t' →
      secret.data = secret'.data)
    (h : CertificatesRead lib t namespace_ reference certificates)
    (h' : CertificatesRead lib t' namespace_ reference certificates') : certificates = certificates' := by
  obtain ⟨secret, data, read, value, parsed⟩ := h
  obtain ⟨secret', data', read', value', parsed'⟩ := h'
  have covered := (requiredSecretValue_covered value).symm.trans
    ((congrArg (fun entries : GoMap String Bytes => (entries.lookup reference.key).getD [])
      (agree _ _ _ read read')).trans (requiredSecretValue_covered value'))
  subst covered
  exact Except.ok.inj (parsed.symm.trans parsed')

theorem OptionalCertificatesRead.same {t t' : Trail} {namespace_ : String}
    {reference : Option SecretKeyReference} {certificates certificates' : List Certificate}
    (agree : ∀ key secret secret', (key, secret) ∈ secretsRead t → (key, secret') ∈ secretsRead t' →
      secret.data = secret'.data)
    (h : OptionalCertificatesRead lib t namespace_ reference certificates)
    (h' : OptionalCertificatesRead lib t' namespace_ reference certificates') :
    certificates = certificates' := by
  cases reference with
  | none => exact h.trans h'.symm
  | some reference => exact CertificatesRead.same agree h h'

theorem RootsRead.same {t t' : Trail} {namespace_ : String} {spec : CMPIssuerSpec} {usesHTTPS : Bool}
    {roots roots' : Option CertPool}
    (agree : ∀ key secret secret', (key, secret) ∈ secretsRead t → (key, secret') ∈ secretsRead t' →
      secret.data = secret'.data)
    (h : RootsRead lib t namespace_ spec usesHTTPS roots)
    (h' : RootsRead lib t' namespace_ spec usesHTTPS roots') : roots = roots' := by
  unfold RootsRead at h h'
  generalize (if usesHTTPS then _ else _ : Option SecretKeyReference) = configured at h h'
  cases configured with
  | none => exact h.trans h'.symm
  | some reference =>
      obtain ⟨certificates, found, same⟩ := h
      obtain ⟨certificates', found', same'⟩ := h'
      obtain rfl := found.same agree found'
      exact same.trans same'.symm

theorem passwordProtection_data {password : PasswordBasedMacSpec} {secret secret' : Secret}
    (same : secret.data = secret'.data) :
    passwordProtection lib password secret = passwordProtection lib password secret' := by
  simp only [passwordProtection, secretValue, requiredSecretValue, same]

theorem signatureProtection_data {signature : SignatureProtectionSpec} {secret secret' : Secret}
    (same : secret.data = secret'.data) :
    signatureProtection lib signature secret = signatureProtection lib signature secret' := by
  simp only [signatureProtection, secretValue, requiredSecretValue, same]

theorem ProtectionRead.same {t t' : Trail} {namespace_ : String} {spec : ProtectionSpec}
    {protection protection' : Protection}
    (agree : ∀ key secret secret', (key, secret) ∈ secretsRead t → (key, secret') ∈ secretsRead t' →
      secret.data = secret'.data)
    (h : ProtectionRead lib t namespace_ spec protection)
    (h' : ProtectionRead lib t' namespace_ spec protection') : protection = protection' := by
  unfold ProtectionRead at h h'
  obtain ⟨type, passwordBasedMac, signature⟩ := spec
  cases passwordBasedMac with
  | some password =>
      obtain ⟨secret, read, made⟩ := h
      obtain ⟨secret', read', made'⟩ := h'
      rw [passwordProtection_data (agree _ _ _ read read')] at made
      exact Except.ok.inj (made.symm.trans made')
  | none =>
      cases signature with
      | some signature =>
          obtain ⟨secret, read, made⟩ := h
          obtain ⟨secret', read', made'⟩ := h'
          rw [signatureProtection_data (agree _ _ _ read read')] at made
          exact Except.ok.inj (made.symm.trans made')
      | none => exact h.elim

/-- The Secret values that a transaction consumes are the same in two requests. -/
structure SameSecrets (enrollment enrollment' : EnrollmentRequest) : Prop where
  cmpTrust : enrollment.cmpTrust = enrollment'.cmpTrust
  cmpTrustCertificates : enrollment.cmpTrustCertificates = enrollment'.cmpTrustCertificates
  cmpResponseCertificates : enrollment.cmpResponseCertificates = enrollment'.cmpResponseCertificates
  tlsRoots : enrollment.tlsRoots = enrollment'.tlsRoots
  protection : enrollment.protection = enrollment'.protection
  requestedPrivateKey : enrollment.requestedPrivateKey = enrollment'.requestedPrivateKey

theorem SameSecrets.symm {enrollment enrollment' : EnrollmentRequest}
    (h : SameSecrets enrollment enrollment') : SameSecrets enrollment' enrollment :=
  ⟨h.cmpTrust.symm, h.cmpTrustCertificates.symm, h.cmpResponseCertificates.symm, h.tlsRoots.symm,
    h.protection.symm, h.requestedPrivateKey.symm⟩

theorem SameSecrets.trans {first second third : EnrollmentRequest} (h : SameSecrets first second)
    (h' : SameSecrets second third) : SameSecrets first third :=
  ⟨h.cmpTrust.trans h'.cmpTrust, h.cmpTrustCertificates.trans h'.cmpTrustCertificates,
    h.cmpResponseCertificates.trans h'.cmpResponseCertificates, h.tlsRoots.trans h'.tlsRoots,
    h.protection.trans h'.protection, h.requestedPrivateKey.trans h'.requestedPrivateKey⟩

/-- Credentials are a function of the issuer and of the data of its Secrets. -/
theorem CredentialsRead.same {t t' : Trail} {clusterResourceNamespace : String}
    {enrollment enrollment' : EnrollmentRequest}
    (agree : ∀ key secret secret', (key, secret) ∈ secretsRead t → (key, secret') ∈ secretsRead t' →
      secret.data = secret'.data)
    (h : CredentialsRead lib clusterResourceNamespace issuer t enrollment)
    (h' : CredentialsRead lib clusterResourceNamespace issuer t' enrollment') :
    enrollment.cmpTrust = enrollment'.cmpTrust ∧
      enrollment.cmpTrustCertificates = enrollment'.cmpTrustCertificates ∧
      enrollment.cmpResponseCertificates = enrollment'.cmpResponseCertificates ∧
      enrollment.tlsRoots = enrollment'.tlsRoots ∧ enrollment.protection = enrollment'.protection := by
  obtain ⟨spec, namespace_, endpoint, renewal, anchors, resolved, validated, scheme, read, pool, trust,
    responses, roots, protection⟩ := h.fields
  obtain ⟨_, _, _, _, anchors', resolved', validated', scheme', read', pool', trust', responses', roots',
    protection'⟩ := h'.fields
  cases resolved.symm.trans resolved'
  cases validated.symm.trans validated'
  cases scheme.symm.trans scheme'
  obtain rfl := read.same agree read'
  refine ⟨pool.trans pool'.symm, trust.trans trust'.symm, ?_, ?_, protection.same agree protection'⟩
  · exact responses.same agree responses'
  · exact roots.same agree roots'

section
variable {clusterResourceNamespace clusterResourceNamespace' : String}
  {request request' : CertificateRequestObject}
  {operation : Operation} {csrDER csrDER' : Bytes} {first second first' second' : Trail}
  {configuration configuration' : RuntimeConfiguration} {prepared prepared' : Prepared}
  (preparation : Preparation lib clusterResourceNamespace request issuer operation csrDER first second
    configuration prepared)
  (preparation' : Preparation lib clusterResourceNamespace' request' issuer operation csrDER' first' second'
    configuration' prepared')
  (same : ∀ key, prepared.configuration.configurationSecrets.lookup key =
    prepared'.configuration.configurationSecrets.lookup key)
include preparation preparation' same

theorem Preparation.sameCredentials (signer : clusterResourceNamespace' = clusterResourceNamespace)
    (versions : VersionsTell (secretsRead first) (secretsRead first'))
    (apart : ∀ key secret, (key, secret) ∈ secretsRead second →
      key ∉ credentialSecrets clusterResourceNamespace issuer)
    (apart' : ∀ key secret, (key, secret) ∈ secretsRead second' →
      key ∉ credentialSecrets clusterResourceNamespace issuer) :
    configuration.enrollmentRequest.cmpTrust = configuration'.enrollmentRequest.cmpTrust ∧
      configuration.enrollmentRequest.cmpTrustCertificates =
        configuration'.enrollmentRequest.cmpTrustCertificates ∧
      configuration.enrollmentRequest.cmpResponseCertificates =
        configuration'.enrollmentRequest.cmpResponseCertificates ∧
      configuration.enrollmentRequest.tlsRoots = configuration'.enrollmentRequest.tlsRoots ∧
      configuration.enrollmentRequest.protection = configuration'.enrollmentRequest.protection := by
  subst signer
  refine preparation.credentials.same ?_ preparation'.credentials
  intro key secret secret' read read'
  have found := preparation.credential read fun other member => apart key other member
    (preparation.named key secret read)
  have found' := preparation'.credential read' fun other member => apart' key other member
    (preparation'.named key secret' read')
  have fingerprints := Option.some.inj (found.symm.trans ((same key).trans found'))
  exact versions key secret secret' read read' (congrArg SecretFingerprint.uid fingerprints)
    (congrArg SecretFingerprint.resourceVersion fingerprints)

/-- Equal fingerprints of workload Secrets mean equal workload keys, whatever else the Secrets are used
for. -/
theorem Preparation.sameWorkload (size : FixedSize lib) (free : CollisionFree lib issuer reads)
    (seen : secretsRead second ⊆ reads) (seen' : secretsRead second' ⊆ reads) :
    prepared.enrollment.requestedPrivateKey = prepared'.enrollment.requestedPrivateKey ∧
      (prepared.enrollment.protection = prepared'.enrollment.protection ∨ operation ≠ .kur ∧
        prepared.enrollment.protection = configuration.enrollmentRequest.protection ∧
        prepared'.enrollment.protection = configuration'.enrollmentRequest.protection) := by
  have workload : ∀ {t : Trail} {material : WorkloadKeyMaterial} {request csrDER},
      MaterialFrom lib request csrDER operation (secretsRead t) material → operation = .ir ∨ operation = .kur := by
    intro t material request csrDER made
    generalize secretsRead t = read at made
    cases made
    · exact .inl rfl
    · exact .inr rfl
  cases preparation.made with
  | plain other enrollment _ =>
      cases preparation'.made with
      | plain _ enrollment' _ =>
          rw [enrollment, enrollment']
          refine ⟨?_, .inr ⟨other.2, rfl, rfl⟩⟩
          exact preparation.credentials.unkeyed.trans preparation'.credentials.unkeyed.symm
      | workload made => exact absurd (workload made) (not_or.mpr other)
  | @workload material made enrollment copied =>
      cases preparation'.made with
      | plain other => exact absurd (workload made) (not_or.mpr other)
      | @workload material' made' enrollment' copied' =>
          have transfer : ∀ key fingerprint, material.secrets.lookup key = some fingerprint →
              material'.secrets.lookup key = some fingerprint := by
            intro key fingerprint found
            obtain ⟨secret, keys, _, _, own⟩ := made.lookup found
            have both := same key
            rw [copied, copied', GoMap.lookup_copy, GoMap.lookup_copy, found] at both
            rcases Option.or_eq_some_iff.mp both.symm with workload | ⟨_, credential⟩
            · exact workload
            · obtain ⟨secrets, _, fingerprints⟩ := preparation'.configured.secrets
              rw [fingerprints, credentialFingerprints_lookup, Option.map_eq_some_iff] at credential
              obtain ⟨other, _, equal⟩ := credential
              exact absurd (equal.trans own) (credentialFingerprint_ne size other secret keys)
          obtain ⟨protection, key⟩ := made.same size free made' seen seen' transfer
          rw [enrollment, enrollment']
          refine ⟨congrArg some key, ?_⟩
          dsimp only
          rw [protection]
          generalize secretsRead second' = read at made'
          cases made' with
          | ir => exact .inr ⟨by decide, rfl, rfl⟩
          | kur => exact .inl rfl

/-- Equal fingerprints mean equal Secret values, when no workload Secret is a credential of the issuer. -/
theorem Preparation.sameSecrets (signer : clusterResourceNamespace' = clusterResourceNamespace)
    (size : FixedSize lib) (free : CollisionFree lib issuer reads)
    (seen : secretsRead second ⊆ reads) (seen' : secretsRead second' ⊆ reads)
    (versions : VersionsTell (secretsRead first) (secretsRead first'))
    (apart : ∀ key secret, (key, secret) ∈ secretsRead second →
      key ∉ credentialSecrets clusterResourceNamespace issuer)
    (apart' : ∀ key secret, (key, secret) ∈ secretsRead second' →
      key ∉ credentialSecrets clusterResourceNamespace issuer) :
    SameSecrets prepared.enrollment prepared'.enrollment := by
  obtain ⟨pool, trust, responses, roots, protection⟩ :=
    preparation.sameCredentials preparation' same signer versions apart apart'
  obtain ⟨key, workload⟩ := preparation.sameWorkload preparation' same size free seen seen'
  have kept := preparation.made.trust
  have kept' := preparation'.made.trust
  refine ⟨kept.1.trans (pool.trans kept'.1.symm), kept.2.1.trans (trust.trans kept'.2.1.symm),
    kept.2.2.1.trans (responses.trans kept'.2.2.1.symm), kept.2.2.2.trans (roots.trans kept'.2.2.2.symm),
    ?_, key⟩
  rcases workload with current | ⟨_, own, own'⟩
  · exact current
  · exact own.trans (protection.trans own'.symm)

end

end

end CmpIssuer
