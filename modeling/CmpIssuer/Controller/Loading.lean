import CmpIssuer.Controller.Signer

/-!
What loading a configuration and preparing an enrollment read, and what their
results say about it. Neither writes anything or talks to the CMP server, so
their specifications are over the record of their own reads.
-/
namespace CmpIssuer
open Effect

variable {ε ε' α β : Type}

/-- The operations that leave the store and the CMP server alone. -/
def Op.silent : Op → Bool
  | .now | .random _ | .entropy | .getSecret _ | .getCertificate _ => true
  | _ => false

abbrev Trail := List (Event interface)

/-- The monitor of programs that only look around. -/
abbrev reading : Monitor interface Trail := recorder fun o => o.silent = true

def secretRead : Event interface → Option (NamespacedName × Secret)
  | ⟨.getSecret key, .ok secret⟩ => some (key, secret)
  | _ => none

/-- The Secrets that were read, in the order of the reads. -/
def secretsRead (trail : Trail) : List (NamespacedName × Secret) := trail.filterMap secretRead

@[simp] theorem secretsRead_nil : secretsRead [] = [] := rfl

@[simp] theorem secretsRead_append (t u : Trail) : secretsRead (t ++ u) = secretsRead t ++ secretsRead u :=
  List.filterMap_append

@[simp] theorem secretsRead_cons (e : Event interface) (t : Trail) :
    secretsRead (e :: t) = (secretRead e).toList ++ secretsRead t := by
  unfold secretsRead
  rw [List.filterMap_cons]
  cases secretRead e <;> rfl

theorem secretsRead_mono {t u : Trail} (seen : t ⊆ u) : secretsRead t ⊆ secretsRead u := by
  intro entry member
  obtain ⟨event, before, same⟩ := List.mem_filterMap.mp member
  exact List.mem_filterMap.mpr ⟨event, seen before, same⟩

/-- A call that does not panic and whose result satisfies `P` together with the record of its reads. -/
def Loads (P : Trail → α → Prop) (t : Trail) : Except (Fault ε) α → Prop
  | .ok a => P t a
  | .error (.error _) => True
  | .error (.panic _) => False

theorem loads_pure {P : Trail → α → Prop} {t : Trail} {a : α} (h : P t a) :
    Follows reading (Loads P) t (Pure.pure a : Go ε α) := h

theorem loads_fail {P : Trail → α → Prop} {t : Trail} {err : ε} :
    Follows reading (Loads P) t (fail err : Go ε α) := trivial

theorem loads_outcome_bind {P : Trail → β → Prop} {t : Trail} {r : Except ε α} {f : α → Go ε β}
    (rest : ∀ a, r = .ok a → Follows reading (Loads P) t (f a)) :
    Follows reading (Loads P) t (ofExcept r >>= f) := by
  cases r with
  | error err => exact trivial
  | ok a => exact rest a rfl

theorem loads_bind {P : Trail → α → Prop} {P' : Trail → β → Prop} {t : Trail} {p : Go ε α}
    {f : α → Go ε β} (first : Follows reading (Loads P) t p)
    (rest : ∀ u a, t <+: u → P u a → Follows reading (Loads P') u (f a)) :
    Follows reading (Loads P') t (p >>= f) := by
  refine first.recorded.bind ?_ ?_
  · rintro u a ⟨holds, v, rfl, _⟩
    exact rest _ a (List.prefix_append t v) holds
  · rintro u (err | reason) ⟨holds, _⟩
    · exact trivial
    · exact holds

theorem loads_mapError {P : Trail → α → Prop} {t : Trail} {p : Go ε α} {f : ε → ε'}
    (h : Follows reading (Loads P) t p) :
    Follows reading (Loads P) t (p.mapError (Fault.map f)) := by
  rw [follows_mapError]
  refine h.mono ?_
  rintro u ((err | reason) | a) holds
  · exact trivial
  · exact holds
  · exact holds

theorem loads_mono {P P' : Trail → α → Prop} {t : Trail} {p : Go ε α}
    (h : Follows reading (Loads P) t p) (weaker : ∀ u a, P u a → P' u a) :
    Follows reading (Loads P') t p := by
  refine h.mono ?_
  rintro u ((err | reason) | a) holds
  · exact trivial
  · exact holds
  · exact weaker u a holds

theorem loads_ask {P : Trail → β → Prop} {t : Trail} {o : Op} {f : o.Answer → Go ε β}
    (quiet : o.silent = true)
    (rest : ∀ answer, Follows reading (Loads P) (t ++ [⟨o, answer⟩]) (f answer)) :
    Follows reading (Loads P) t (ask o >>= f) :=
  follows_bind.mpr ⟨quiet, rest⟩

/-- The cache of a `secretGetter` holds the Secrets it read. -/
def Cached (t : Trail) (secrets : SecretCache) : Prop :=
  ∀ key secret, secrets.lookup key = some secret ↔ (key, secret) ∈ secretsRead t

theorem cached_nil : Cached [] ∅ := by
  intro key secret
  simp

/-- Certificates that were parsed from one key of a Secret that was read. -/
def CertificatesRead (lib : Library) (t : Trail) (namespace_ : String) (reference : SecretKeyReference)
    (certificates : List Certificate) : Prop :=
  ∃ secret data, (⟨namespace_, reference.name⟩, secret) ∈ secretsRead t ∧
    requiredSecretValue lib secret reference.key = .ok data ∧
    parseCertificates lib data = .ok certificates

theorem CertificatesRead.mono {lib : Library} {t u : Trail} {namespace_ : String}
    {reference : SecretKeyReference} {certificates : List Certificate}
    (h : CertificatesRead lib t namespace_ reference certificates) (seen : t ⊆ u) :
    CertificatesRead lib u namespace_ reference certificates := by
  obtain ⟨secret, data, member, rest⟩ := h
  exact ⟨secret, data, secretsRead_mono seen member, rest⟩

section
variable {lib : Library}

theorem readCredentialSecret_loads {namespace_ name : String} {secrets : SecretCache} {t : Trail}
    (cached : Cached t secrets) :
    Follows reading (Loads fun u out => Cached u out.2 ∧
      (⟨namespace_, name⟩, out.1) ∈ secretsRead u) t
      (readCredentialSecret lib namespace_ name secrets) := by
  unfold readCredentialSecret
  dsimp only
  split
  · rename_i secret found
    exact ⟨cached, (cached _ _).mp found⟩
  · rename_i missing
    refine loads_ask rfl fun answer => ?_
    cases answer with
    | error err =>
        dsimp only
        split <;> exact loads_fail
    | ok secret =>
        refine loads_pure ⟨fun key other => ?_, by simp [secretRead]⟩
        simp only [secretsRead_append, secretsRead_cons, secretRead, Option.toList_some,
          secretsRead_nil, List.append_nil, List.mem_append, List.mem_singleton, Prod.mk.injEq]
        by_cases same : key = ⟨namespace_, name⟩
        · subst same
          have unread : (⟨namespace_, name⟩, other) ∉ secretsRead t := fun member => by
            rw [← cached, missing] at member
            cases member
          simp [AList.lookup_insert, unread, eq_comm]
        · simpa [AList.lookup_insert_ne same, same] using cached key other

theorem loadCertificates_loads {contents namespace_ : String} {reference : SecretKeyReference}
    {secrets : SecretCache} {t : Trail} (cached : Cached t secrets) :
    Follows reading (Loads fun u out => Cached u out.2 ∧
      CertificatesRead lib u namespace_ reference out.1) t
      (loadCertificates lib contents namespace_ reference secrets) := by
  unfold loadCertificates
  refine loads_bind (readCredentialSecret_loads cached) ?_
  rintro u ⟨secret, secrets⟩ _ ⟨cached, member⟩
  refine loads_outcome_bind fun data value => loads_outcome_bind fun certificates parsed => ?_
  rw [secretValue, mapError_eq_ok] at value
  rw [mapError_eq_ok] at parsed
  exact loads_pure ⟨cached, secret, data, member, value, parsed⟩

/-- The certificates under a reference that may be missing. -/
def OptionalCertificatesRead (lib : Library) (t : Trail) (namespace_ : String)
    (reference : Option SecretKeyReference) (certificates : List Certificate) : Prop :=
  match reference with
  | none => certificates = []
  | some reference => CertificatesRead lib t namespace_ reference certificates

/-- The TLS roots of an issuer, which only an HTTPS endpoint has. -/
def RootsRead (lib : Library) (t : Trail) (namespace_ : String) (spec : CMPIssuerSpec) (usesHTTPS : Bool)
    (roots : Option CertPool) : Prop :=
  match if usesHTTPS then spec.transport.tls.bind TLSTransportSpec.caSecretRef else none with
  | some reference =>
      ∃ certificates, CertificatesRead lib t namespace_ reference certificates ∧ roots = some certificates
  | none => roots = none

/-- The protection of an issuer, made from the Secret its spec names. -/
def ProtectionRead (lib : Library) (t : Trail) (namespace_ : String) (spec : ProtectionSpec)
    (protection : Protection) : Prop :=
  match spec.passwordBasedMac, spec.signature with
  | some password, _ => ∃ secret, (⟨namespace_, password.secretRef⟩, secret) ∈ secretsRead t ∧
      passwordProtection lib password secret = .ok protection
  | none, some signature => ∃ secret, (⟨namespace_, signature.secretRef⟩, secret) ∈ secretsRead t ∧
      signatureProtection lib signature secret = .ok protection
  | none, none => False

theorem OptionalCertificatesRead.mono {t u : Trail} {namespace_ : String}
    {reference : Option SecretKeyReference} {certificates : List Certificate}
    (h : OptionalCertificatesRead lib t namespace_ reference certificates) (seen : t ⊆ u) :
    OptionalCertificatesRead lib u namespace_ reference certificates := by
  cases reference with
  | none => exact h
  | some reference => exact CertificatesRead.mono h seen

theorem RootsRead.mono {t u : Trail} {namespace_ : String} {spec : CMPIssuerSpec} {usesHTTPS : Bool}
    {roots : Option CertPool} (h : RootsRead lib t namespace_ spec usesHTTPS roots) (seen : t ⊆ u) :
    RootsRead lib u namespace_ spec usesHTTPS roots := by
  unfold RootsRead at h ⊢
  generalize (if usesHTTPS then _ else _ : Option SecretKeyReference) = configured at h ⊢
  cases configured with
  | none => exact h
  | some reference =>
      obtain ⟨certificates, read, same⟩ := h
      exact ⟨certificates, read.mono seen, same⟩

theorem loadResponseCertificates_loads {namespace_ : String} {reference : Option SecretKeyReference}
    {secrets : SecretCache} {t : Trail} (cached : Cached t secrets) :
    Follows reading (Loads fun u out => Cached u out.2 ∧
      OptionalCertificatesRead lib u namespace_ reference out.1) t
      (loadResponseCertificates lib namespace_ reference secrets) := by
  unfold loadResponseCertificates
  split
  · exact ⟨cached, rfl⟩
  · split
    · exact loads_fail
    · exact loadCertificates_loads cached

theorem loadTLSRoots_loads {namespace_ : String} {spec : CMPIssuerSpec} {usesHTTPS : Bool}
    {secrets : SecretCache} {t : Trail} (cached : Cached t secrets) :
    Follows reading (Loads fun u out => Cached u out.2 ∧
      RootsRead lib u namespace_ spec usesHTTPS out.1) t
      (loadTLSRoots lib namespace_ spec usesHTTPS secrets) := by
  unfold RootsRead
  cases usesHTTPS with
  | false => exact ⟨cached, rfl⟩
  | true =>
      unfold loadTLSRoots
      rw [if_pos rfl]
      generalize spec.transport.tls.bind TLSTransportSpec.caSecretRef = configured
      cases configured with
      | none => exact ⟨cached, rfl⟩
      | some reference =>
          refine loads_bind (loadCertificates_loads cached) ?_
          rintro u ⟨certificates, secrets⟩ _ ⟨cached, read⟩
          exact loads_pure ⟨cached, certificates, read, rfl⟩

/-- A protection spec that passed its check names the Secret of one protection. -/
theorem validateProtection_ok {spec : ProtectionSpec} (h : validateProtection spec = .ok ()) :
    spec.passwordBasedMac.isSome ∨ spec.signature.isSome := by
  unfold validateProtection at h
  split at h
  · split at h
    · rename_i found _
      exact .inl (by simp [found])
    · cases h
  · split at h
    · rename_i found
      exact .inr (by simp [found])
    · cases h
  · cases h

theorem loadProtection_loads {namespace_ : String} {spec : ProtectionSpec} {secrets : SecretCache}
    {t : Trail} (named : spec.passwordBasedMac.isSome ∨ spec.signature.isSome)
    (cached : Cached t secrets) :
    Follows reading (Loads fun u out => Cached u out.2 ∧ ProtectionRead lib u namespace_ spec out.1) t
      (loadProtection lib namespace_ spec secrets) := by
  unfold loadProtection ProtectionRead
  obtain ⟨type, passwordBasedMac, signature⟩ := spec
  cases passwordBasedMac with
  | some password =>
      refine loads_bind (readCredentialSecret_loads cached) ?_
      rintro u ⟨secret, secrets⟩ _ ⟨cached, read⟩
      exact loads_outcome_bind fun protection made => loads_pure ⟨cached, secret, read, made⟩
  | none =>
      cases signature with
      | some signature =>
          refine loads_bind (readCredentialSecret_loads cached) ?_
          rintro u ⟨secret, secrets⟩ _ ⟨cached, read⟩
          exact loads_outcome_bind fun protection made => loads_pure ⟨cached, secret, read, made⟩
      | none => simp at named

theorem issuerSpecAndNamespace_ok {clusterResourceNamespace namespace_ : String} {issuer : Issuer}
    {spec : CMPIssuerSpec}
    (h : issuerSpecAndNamespace clusterResourceNamespace issuer = .ok (spec, namespace_)) :
    spec = issuer.spec := by
  unfold issuerSpecAndNamespace at h
  split at h
  · split at h <;> cases h
    rfl
  · split at h <;> cases h
    rfl
  · cases h

theorem validateSpec_protection {spec : CMPIssuerSpec} {endpoint : URL}
    (h : validateSpec lib spec = .ok endpoint) : validateProtection spec.protection = .ok () := by
  unfold validateSpec at h
  cases validated : validateProtection spec.protection with
  | ok => rfl
  | error err =>
      simp only [validated, bind, Except.bind] at h
      split at h <;> first | cases h | (split at h <;> cases h)

/-- The trust anchors an issuer configures, as a reconcile read them. -/
def AnchorsRead (lib : Library) (clusterResourceNamespace : String) (issuer : Issuer) (t : Trail)
    (anchors : List Certificate) : Prop :=
  ∃ spec namespace_, issuerSpecAndNamespace clusterResourceNamespace issuer = .ok (spec, namespace_) ∧
    CertificatesRead lib t namespace_ spec.cmpTrust.caSecretRef anchors

theorem AnchorsRead.mono {clusterResourceNamespace : String} {issuer : Issuer} {t u : Trail}
    {anchors : List Certificate} (h : AnchorsRead lib clusterResourceNamespace issuer t anchors)
    (seen : t ⊆ u) : AnchorsRead lib clusterResourceNamespace issuer u anchors := by
  obtain ⟨spec, namespace_, resolved, read⟩ := h
  exact ⟨spec, namespace_, resolved, read.mono seen⟩

/-- What a loaded configuration is made of. -/
structure Configured (lib : Library) (clusterResourceNamespace : String) (issuer : Issuer) (t : Trail)
    (configuration : RuntimeConfiguration) : Prop where
  anchors : ∃ anchors, AnchorsRead lib clusterResourceNamespace issuer t anchors ∧
    configuration.enrollmentRequest.cmpTrust = some anchors
  endpoint : configuration.enrollmentRequest.endpointURL = issuer.spec.endpoint.url
  renewalEndpoint : configuration.renewalEndpointURL = issuer.spec.endpoint.renewalURL
  limits : configuration.transaction = transactionLimitsWithDefaults issuer.spec.transaction
  secrets : ∃ secrets, Cached t secrets ∧
    configuration.configurationSecrets = credentialFingerprints secrets
  digest : runtimeConfigurationDigest lib (issuerReference issuer) configuration.configurationSecrets =
    .ok configuration.configurationDigest

/-- The credentials of a loaded configuration, each from the Secret the issuer spec names for it. -/
structure CredentialsRead (lib : Library) (clusterResourceNamespace : String) (issuer : Issuer) (t : Trail)
    (enrollment : EnrollmentRequest) : Prop where
  fields : ∃ spec namespace_ endpoint renewal anchors,
    issuerSpecAndNamespace clusterResourceNamespace issuer = .ok (spec, namespace_) ∧
    validateSpec lib spec = .ok endpoint ∧ renewalScheme lib spec.endpoint = .ok renewal ∧
    CertificatesRead lib t namespace_ spec.cmpTrust.caSecretRef anchors ∧
    enrollment.cmpTrust = some anchors ∧ enrollment.cmpTrustCertificates = anchors ∧
    OptionalCertificatesRead lib t namespace_ spec.cmpTrust.signerCertificatesSecretRef
      enrollment.cmpResponseCertificates ∧
    RootsRead lib t namespace_ spec (endpoint.scheme == schemeHTTPS || renewal == schemeHTTPS)
      enrollment.tlsRoots ∧
    ProtectionRead lib t namespace_ spec.protection enrollment.protection
  unkeyed : enrollment.requestedPrivateKey = none

theorem loadRuntimeConfiguration_reads {clusterResourceNamespace : String} {issuer : Issuer} :
    Follows reading (Loads fun t configuration =>
      Configured lib clusterResourceNamespace issuer t configuration ∧
      CredentialsRead lib clusterResourceNamespace issuer t configuration.enrollmentRequest ∧
      configuredSender lib issuer.spec.protocol = .ok configuration.enrollmentRequest.sender) []
      (loadRuntimeConfiguration lib clusterResourceNamespace issuer) := by
  unfold loadRuntimeConfiguration
  refine loads_outcome_bind ?_
  rintro ⟨spec, namespace_⟩ resolved
  rw [mapError_eq_ok] at resolved
  obtain rfl := issuerSpecAndNamespace_ok resolved
  refine loads_outcome_bind fun endpoint validated => ?_
  rw [mapError_eq_ok] at validated
  refine loads_bind (loadCertificates_loads cached_nil) ?_
  rintro u ⟨anchors, secrets⟩ _ ⟨cached, read⟩
  refine loads_bind (loadResponseCertificates_loads cached) ?_
  rintro u₁ ⟨responses, secrets⟩ extends₁ ⟨cached, signers⟩
  refine loads_outcome_bind fun renewal scheme => ?_
  rw [mapError_eq_ok] at scheme
  refine loads_bind (loadTLSRoots_loads cached) ?_
  rintro u₂ ⟨tlsRoots, secrets⟩ extends₂ ⟨cached, roots⟩
  refine loads_bind
    (loadProtection_loads (validateProtection_ok (validateSpec_protection validated)) cached) ?_
  rintro u₃ ⟨protection, secrets⟩ extends₃ ⟨cached, made⟩
  refine loads_outcome_bind fun recipient _ => loads_outcome_bind fun sender named =>
    loads_outcome_bind fun digest _ => loads_outcome_bind fun configurationDigest digested => ?_
  rw [mapError_eq_ok] at digested
  have later := extends₂.trans extends₃
  have all := (extends₁.trans later).subset
  refine loads_pure ⟨?_, ⟨⟨_, namespace_, endpoint, renewal, anchors, resolved, validated, scheme,
    read.mono all, rfl, rfl, signers.mono later.subset, roots.mono extends₃.subset, made⟩, rfl⟩,
    named⟩
  exact
    { anchors := ⟨anchors, ⟨_, namespace_, resolved, read.mono all⟩, rfl⟩
      endpoint := rfl
      renewalEndpoint := rfl
      limits := rfl
      secrets := ⟨secrets, cached, rfl⟩
      digest := digested }

theorem loadRuntimeConfiguration_loads {clusterResourceNamespace : String} {issuer : Issuer} :
    Follows reading (Loads (Configured lib clusterResourceNamespace issuer)) []
      (loadRuntimeConfiguration lib clusterResourceNamespace issuer) :=
  loads_mono loadRuntimeConfiguration_reads fun _ _ h => h.1

theorem loadCMPTrust_loads {clusterResourceNamespace : String} {issuer : Issuer} :
    Follows reading (Loads fun t out => AnchorsRead lib clusterResourceNamespace issuer t out.1) []
      (loadCMPTrust lib clusterResourceNamespace issuer) := by
  unfold loadCMPTrust
  refine loads_outcome_bind ?_
  rintro ⟨spec, namespace_⟩ resolved
  rw [mapError_eq_ok] at resolved
  refine loads_bind (loadCertificates_loads cached_nil) ?_
  rintro u ⟨anchors, secrets⟩ _ ⟨cached, read⟩
  refine loads_bind (loadResponseCertificates_loads cached) ?_
  rintro u₁ ⟨responses, secrets⟩ extends_ _
  exact loads_pure ⟨spec, namespace_, resolved, read.mono extends_.subset⟩

theorem readOwningCertificate_loads {key : NamespacedName} {owner : OwnerReference}
    {operation : Operation} {t : Trail} :
    Follows reading (Loads fun u _ => secretsRead u = secretsRead t) t
      (readOwningCertificate key owner operation) := by
  unfold readOwningCertificate
  refine loads_ask rfl fun answer => ?_
  cases answer with
  | error err => dsimp only; split <;> exact loads_fail
  | ok certificate =>
      dsimp only
      split
      · exact loads_fail
      · exact loads_pure (by simp [secretRead])

theorem authorizeOwningCertificate_loads {request : CertificateRequestObject} {issuer : Issuer}
    {operation : Operation} {renewal : Bool} {t : Trail} :
    Follows reading (Loads fun u _ => secretsRead u = secretsRead t) t
      (authorizeOwningCertificate lib request issuer operation renewal) := by
  unfold authorizeOwningCertificate
  refine loads_outcome_bind fun revision _ => loads_outcome_bind fun owner _ => ?_
  refine loads_bind readOwningCertificate_loads ?_
  rintro u certificate _ same
  split
  · exact loads_fail
  · split
    · exact loads_fail
    · exact loads_pure same

theorem readCurrentSecret_loads {key : NamespacedName} {t : Trail} :
    Follows reading (Loads fun u secret =>
      secretsRead u = secretsRead t ++ (secret.map fun found => (key, found)).toList) t
      (readCurrentSecret key) := by
  unfold readCurrentSecret
  refine loads_ask rfl fun answer => ?_
  cases answer with
  | error err =>
      dsimp only
      split
      · exact loads_pure (by simp [secretRead])
      · exact loads_fail
  | ok secret => exact loads_pure (by simp [secretRead])

theorem loadStagedKey_loads {key : NamespacedName} {certificate : CertManagerCertificate}
    {csrDER : Bytes} {operation : Operation} {t : Trail} :
    Follows reading (Loads fun u out => secretsRead u = secretsRead t ++ [(key, out.1)] ∧
      matchingStagedKey lib operation out.1 csrDER = .ok out.2) t
      (loadStagedKey lib key certificate csrDER operation) := by
  unfold loadStagedKey readWorkloadSecret
  refine loads_bind (P := fun u secret => secretsRead u = secretsRead t ++ [(key, secret)]) ?_ ?_
  · refine loads_ask rfl fun answer => ?_
    cases answer with
    | error err => dsimp only; split <;> exact loads_fail
    | ok secret => exact loads_pure (by simp [secretRead])
  · rintro u secret _ read
    split
    · exact loads_fail
    · exact loads_outcome_bind fun requestedKey matching => loads_pure ⟨read, matching⟩

/-- The workload key material of an operation and the Secrets it was made from. -/
inductive MaterialFrom (lib : Library) (request : CertificateRequestObject) (csrDER : Bytes) :
    Operation → List (NamespacedName × Secret) → WorkloadKeyMaterial → Prop
  | ir {stagedName : String} {stagedSecret : Secret} {key : Signer}
      (matching : matchingStagedKey lib .ir stagedSecret csrDER = .ok key) :
      MaterialFrom lib request csrDER .ir [(⟨request.namespace_, stagedName⟩, stagedSecret)]
        { requestedPrivateKey := key
          secrets := (∅ : Fingerprints).insert ⟨request.namespace_, stagedName⟩
            (workloadSecretFingerprint lib stagedSecret [tlsPrivateKeyKey]) }
  | kur {currentName stagedName : String} {currentSecret stagedSecret : Secret} {key : Signer}
      {protection : Protection} (distinct : currentName ≠ stagedName)
      (current : currentProtection lib currentName currentSecret = .ok protection)
      (matching : matchingStagedKey lib .kur stagedSecret csrDER = .ok key) :
      MaterialFrom lib request csrDER .kur
        [(⟨request.namespace_, currentName⟩, currentSecret),
          (⟨request.namespace_, stagedName⟩, stagedSecret)]
        { protection := some protection
          requestedPrivateKey := key
          secrets := ((∅ : Fingerprints).insert ⟨request.namespace_, currentName⟩
            (workloadSecretFingerprint lib currentSecret [tlsCertKey, tlsPrivateKeyKey])).insert
            ⟨request.namespace_, stagedName⟩
            (workloadSecretFingerprint lib stagedSecret [tlsPrivateKeyKey]) }

theorem loadIRMaterial_loads {request : CertificateRequestObject} {issuer : Issuer} {csrDER : Bytes}
    {reason : Setting FallbackReason} :
    Follows reading (Loads fun u material =>
      MaterialFrom lib request csrDER .ir (secretsRead u) material) []
      (loadIRMaterial lib request issuer csrDER reason) := by
  unfold loadIRMaterial
  dsimp only
  split
  · exact loads_fail
  · refine loads_bind authorizeOwningCertificate_loads ?_
    rintro u certificate _ same
    refine loads_outcome_bind fun stagedName _ => loads_bind loadStagedKey_loads ?_
    rintro u₁ ⟨stagedSecret, key⟩ _ ⟨read, matching⟩
    refine loads_pure ?_
    rw [read, same]
    exact .ir matching

theorem loadKURMaterial_loads {request : CertificateRequestObject} {issuer : Issuer} {csrDER : Bytes} :
    Follows reading (Loads fun u material =>
      MaterialFrom lib request csrDER .kur (secretsRead u) material) []
      (loadKURMaterial lib request issuer csrDER) := by
  unfold loadKURMaterial
  refine loads_bind authorizeOwningCertificate_loads ?_
  rintro u certificate _ same
  refine loads_outcome_bind fun stagedName _ => ?_
  split
  · exact loads_fail
  · rename_i names
    refine loads_bind readCurrentSecret_loads ?_
    rintro u₁ (_ | currentSecret) _ read
    · exact loads_fail
    · refine loads_outcome_bind fun _ _ => loads_bind loadStagedKey_loads ?_
      rintro u₂ ⟨stagedSecret, key⟩ _ ⟨staged, matching⟩
      refine loads_outcome_bind fun protection current => loads_pure ?_
      rw [staged, read, same]
      exact .kur (fun equal => names (.inr equal)) current matching

theorem currentProtection_signature {currentName : String} {currentSecret : Secret}
    {protection : Protection} (h : currentProtection lib currentName currentSecret = .ok protection) :
    protection.signature.isSome := by
  unfold currentProtection at h
  split at h
  · cases h
  · split at h
    · cases h
    · cases h
    · split at h
      · cases h
      · split at h
        · cases h
        · cases h
          rfl

theorem validateKURRequest_loads {request : EnrollmentRequest} {t : Trail} :
    Follows reading (Loads fun u _ => secretsRead u = secretsRead t) t
      (validateKURRequest lib request) := by
  unfold validateKURRequest
  refine loads_outcome_bind fun _ _ => loads_outcome_bind fun csr _ => ?_
  refine loads_ask rfl fun now => ?_
  refine loads_outcome_bind ?_
  rintro ⟨signature, key⟩ _
  exact loads_pure (by simp [secretRead])

/-- The endpoint the messages of an operation go to. -/
def selectedEndpoint (spec : CMPIssuerSpec) (operation : Operation) : String :=
  if operation = .kur ∧ spec.endpoint.renewalURL ≠ "" then spec.endpoint.renewalURL
  else spec.endpoint.url

/-- The fingerprints of the workload Secrets that an operation reads, over the entries that it uses. -/
inductive WorkloadFingerprints (lib : Library) :
    Operation → List (NamespacedName × Secret) → Fingerprints → Prop
  | plain {operation : Operation} (other : ¬(operation = .ir ∨ operation = .kur)) :
      WorkloadFingerprints lib operation [] ∅
  | ir {key : NamespacedName} {secret : Secret} :
      WorkloadFingerprints lib .ir [(key, secret)]
        ((∅ : Fingerprints).insert key (workloadSecretFingerprint lib secret [tlsPrivateKeyKey]))
  | kur {currentKey stagedKey : NamespacedName} {current staged : Secret} :
      WorkloadFingerprints lib .kur [(currentKey, current), (stagedKey, staged)]
        (((∅ : Fingerprints).insert currentKey
          (workloadSecretFingerprint lib current [tlsCertKey, tlsPrivateKeyKey])).insert stagedKey
          (workloadSecretFingerprint lib staged [tlsPrivateKeyKey]))

/-- What a prepared enrollment is made of, given the configuration it starts from. -/
structure Prepares (lib : Library) (issuer : Issuer) (operation : Operation) (requestDER : Bytes)
    (configuration : RuntimeConfiguration) (t : Trail) (prepared : Prepared) : Prop where
  csr : prepared.enrollment.csrDER = requestDER
  selected : prepared.enrollment.operation = operation
  endpoint : prepared.enrollment.endpointURL =
    if operation = .kur ∧ configuration.renewalEndpointURL ≠ "" then configuration.renewalEndpointURL
    else configuration.enrollmentRequest.endpointURL
  trust : prepared.enrollment.cmpTrust = configuration.enrollmentRequest.cmpTrust
  signature : operation = .kur → prepared.enrollment.protection.signature.isSome
  limits : prepared.configuration.transaction = configuration.transaction
  secrets : ∃ material, WorkloadFingerprints lib operation (secretsRead t) material ∧
    prepared.configuration.configurationSecrets = configuration.configurationSecrets.copy material
  digest : runtimeConfigurationDigest lib (issuerReference issuer)
    prepared.configuration.configurationSecrets = .ok prepared.configuration.configurationDigest

theorem MaterialFrom.fingerprints {request : CertificateRequestObject} {csrDER : Bytes}
    {operation : Operation} {reads : List (NamespacedName × Secret)} {material : WorkloadKeyMaterial}
    (h : MaterialFrom lib request csrDER operation reads material) :
    WorkloadFingerprints lib operation reads material.secrets := by
  cases h with
  | ir => exact .ir
  | kur => exact .kur

theorem MaterialFrom.signature {request : CertificateRequestObject} {csrDER : Bytes}
    {operation : Operation} {reads : List (NamespacedName × Secret)} {material : WorkloadKeyMaterial}
    (h : MaterialFrom lib request csrDER operation reads material) (update : operation = .kur)
    (protection : Protection) : (material.protection.getD protection).signature.isSome := by
  cases h with
  | ir => cases update
  | kur _ current _ => exact currentProtection_signature current

theorem loadMaterial_loads {request : CertificateRequestObject} {issuer : Issuer} {csrDER : Bytes}
    {operation : Operation} {reason : Setting FallbackReason}
    (workload : operation = .ir ∨ operation = .kur) :
    Follows reading (Loads fun u material =>
      MaterialFrom lib request csrDER operation (secretsRead u) material) []
      (if operation = .kur then loadKURMaterial lib request issuer csrDER
        else loadIRMaterial lib request issuer csrDER reason) := by
  rcases workload with rfl | rfl
  · exact loadIRMaterial_loads
  · exact loadKURMaterial_loads

theorem prepareWorkloadKeyEnrollment_loads {request : CertificateRequestObject} {issuer : Issuer}
    {operation : Operation} {reason : Setting FallbackReason} {csrDER : Bytes} {prepared : Prepared}
    (workload : operation = .ir ∨ operation = .kur) :
    Follows reading (Loads fun u out => ∃ material,
      MaterialFrom lib request csrDER operation (secretsRead u) material ∧
      out.enrollment = { prepared.enrollment with
        protection := material.protection.getD prepared.enrollment.protection
        requestedPrivateKey := some material.requestedPrivateKey
        responseCertReqID := none } ∧
      out.configuration.transaction = prepared.configuration.transaction ∧
      out.configuration.configurationSecrets =
        prepared.configuration.configurationSecrets.copy material.secrets ∧
      runtimeConfigurationDigest lib (issuerReference issuer) out.configuration.configurationSecrets =
        .ok out.configuration.configurationDigest) []
      (prepareWorkloadKeyEnrollment lib request issuer operation reason csrDER prepared) := by
  unfold prepareWorkloadKeyEnrollment
  refine loads_bind (loads_mapError (loadMaterial_loads workload)) ?_
  rintro u material _ made
  refine loads_outcome_bind fun digest digested => ?_
  rw [mapError_eq_ok] at digested
  split
  · refine loads_bind (loads_mapError validateKURRequest_loads) ?_
    rintro u₁ _ _ same
    exact loads_pure ⟨material, same ▸ made, rfl, rfl, rfl, digested⟩
  · refine loads_outcome_bind fun _ _ => loads_pure ⟨material, made, rfl, rfl, rfl, digested⟩

theorem prepareEnrollment_loads {request : CertificateRequestObject} {issuer : Issuer}
    {operation : Operation} {reason : Setting FallbackReason} {requestDER : Bytes}
    {configuration : RuntimeConfiguration}
    (digest : runtimeConfigurationDigest lib (issuerReference issuer)
      configuration.configurationSecrets = .ok configuration.configurationDigest) :
    Follows reading (Loads (Prepares lib issuer operation requestDER configuration)) []
      (prepareEnrollment lib request issuer operation reason requestDER configuration) := by
  unfold prepareEnrollment
  dsimp only
  split
  · rename_i workload
    refine loads_mono (prepareWorkloadKeyEnrollment_loads workload) ?_
    rintro u prepared ⟨material, made, enrollment, limits, secrets, digested⟩
    exact
      { csr := by rw [enrollment]
        selected := by rw [enrollment]
        endpoint := by rw [enrollment]
        trust := by rw [enrollment]
        signature := fun update => by rw [enrollment]; exact made.signature update _
        limits := limits
        secrets := ⟨material.secrets, made.fingerprints, secrets⟩
        digest := digested }
  · rename_i plain
    refine loads_pure ?_
    exact
      { csr := rfl
        selected := rfl
        endpoint := rfl
        trust := rfl
        signature := fun update => absurd (.inr update) plain
        limits := rfl
        secrets := ⟨∅, .plain plain, (AList.empty_union).symm⟩
        digest := digest }

/-- The fingerprint of a Secret that was loaded as a credential. -/
def credentialFingerprint (secret : Secret) : SecretFingerprint :=
  ⟨secret.uid, secret.resourceVersion, ""⟩

theorem foldl_insert_lookup {κ ν μ : Type} [DecidableEq κ] (f : ν → μ) (key : κ)
    (entries : List (Sigma fun _ : κ => ν)) (nodup : entries.NodupKeys) (acc : GoMap κ μ) :
    (entries.foldl (fun acc entry => acc.insert entry.1 (f entry.2)) acc).lookup key =
      ((entries.dlookup key).map f).or (acc.lookup key) := by
  induction entries generalizing acc with
  | nil => rfl
  | cons entry rest ih =>
      obtain ⟨fresh, nodup⟩ := List.nodupKeys_cons.mp nodup
      rw [List.foldl_cons, ih nodup, GoMap.lookup_insert]
      by_cases same : key = entry.1
      · subst same
        rw [List.dlookup_eq_none.mpr fresh, List.dlookup_cons_eq, if_pos rfl]
        rfl
      · rw [List.dlookup_cons_ne _ _ same, if_neg same]

theorem credentialFingerprints_lookup {secrets : SecretCache} {key : NamespacedName} :
    (credentialFingerprints secrets).lookup key = (secrets.lookup key).map credentialFingerprint := by
  have folded := foldl_insert_lookup credentialFingerprint key secrets.entries secrets.nodupKeys ∅
  rw [AList.lookup_empty, Option.or_none] at folded
  exact folded

/-- A configuration digest covers exactly the Secrets that were read: the credentials of the issuer by
their versions, then the Secrets of the workload by the entries that the operation uses. -/
structure DigestOf (lib : Library) (issuer : Issuer) (operation : Operation)
    (reads : List (NamespacedName × Secret)) (digest : String) : Prop where
  fingerprints : ∃ credentials workload, reads = credentials ++ workload ∧ ∃ secrets : SecretCache,
    (∀ key secret, secrets.lookup key = some secret ↔ (key, secret) ∈ credentials) ∧
    ∃ material, WorkloadFingerprints lib operation workload material ∧
      runtimeConfigurationDigest lib (issuerReference issuer)
        ((credentialFingerprints secrets).copy material) = .ok digest

theorem digestOf_prepared {clusterResourceNamespace : String} {issuer : Issuer} {operation : Operation}
    {requestDER : Bytes} {configuration : RuntimeConfiguration} {prepared : Prepared} {t u : Trail}
    (configured : Configured lib clusterResourceNamespace issuer t configuration)
    (prepares : Prepares lib issuer operation requestDER configuration u prepared) :
    DigestOf lib issuer operation (secretsRead t ++ secretsRead u)
      prepared.configuration.configurationDigest := by
  obtain ⟨secrets, cached, credentials⟩ := configured.secrets
  obtain ⟨material, workload, copied⟩ := prepares.secrets
  refine ⟨_, _, rfl, secrets, cached, material, workload, ?_⟩
  rw [← credentials, ← copied]
  exact prepares.digest

theorem classifyRenewalFallback_loads {request : CertificateRequestObject} {issuer : Issuer}
    {now : Time} {t : Trail} :
    Follows reading (Loads fun _ _ => True) t (classifyRenewalFallback lib request issuer now) := by
  unfold classifyRenewalFallback
  refine loads_bind authorizeOwningCertificate_loads ?_
  rintro u certificate _ _
  split
  · exact loads_pure trivial
  · refine loads_bind readCurrentSecret_loads ?_
    rintro u₁ secret _ _
    exact loads_pure trivial

/-- A new transaction uses the selected operation, or the fallback operation of its issuer. -/
theorem selectRenewalFallback_loads {request : CertificateRequestObject} {issuer : Issuer}
    {operation : Operation} {t : Trail} :
    Follows reading (Loads fun _ out =>
      out = (operation, .unset) ∨ (∃ reason, out = (renewalFallbackOperation issuer, .value reason) ∧
        operation = .kur ∧ renewalFallbackOperation issuer ≠ .unset)) t
      (selectRenewalFallback lib request issuer operation) := by
  unfold selectRenewalFallback
  dsimp only
  split
  · exact loads_pure (.inl rfl)
  · rename_i wanted
    push Not at wanted
    refine loads_ask rfl fun now => loads_bind (loads_mapError classifyRenewalFallback_loads) ?_
    rintro u (_ | reason) _ _
    · exact loads_pure (.inl rfl)
    · exact loads_pure (.inr ⟨reason, rfl, wanted⟩)

end

end CmpIssuer
