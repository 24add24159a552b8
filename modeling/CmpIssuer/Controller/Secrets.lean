import CmpIssuer.Controller.Loading

/-!
Which Secrets the loaders ask for. The credentials of an issuer come from the
Secrets its spec names, in one namespace, and from nowhere else.
-/
namespace CmpIssuer
open Effect

/-- The operations that read one of these Secrets. -/
def SecretOf (keys : List NamespacedName) (o : Op) : Prop := ∃ key ∈ keys, o = .getSecret key

/-- The monitor of programs that read these Secrets and nothing else. -/
abbrev asking (keys : List NamespacedName) : Monitor interface Trail := recorder (SecretOf keys)

/-- A read of a Secret answers what the snapshot holds. -/
def AgreesWith (secrets : NamespacedName → Except ApiError Secret) : (o : Op) → o.Answer → Prop
  | .getSecret key, answer => answer = secrets key
  | _, _ => True

/-- The names of the Secrets an issuer spec refers to. -/
def CMPIssuerSpec.secretNames (spec : CMPIssuerSpec) : List String :=
  spec.cmpTrust.caSecretRef.name ::
    ((spec.cmpTrust.signerCertificatesSecretRef.map SecretKeyReference.name).toList ++
    ((spec.transport.tls.bind TLSTransportSpec.caSecretRef).map SecretKeyReference.name).toList ++
    (spec.protection.passwordBasedMac.map PasswordBasedMacSpec.secretRef).toList ++
    (spec.protection.signature.map SignatureProtectionSpec.secretRef).toList)

theorem CMPIssuerSpec.mem_secretNames {spec : CMPIssuerSpec} {name : String} :
    name ∈ spec.secretNames ↔ name = spec.cmpTrust.caSecretRef.name ∨
      name ∈ spec.cmpTrust.signerCertificatesSecretRef.map SecretKeyReference.name ∨
      name ∈ (spec.transport.tls.bind TLSTransportSpec.caSecretRef).map SecretKeyReference.name ∨
      name ∈ spec.protection.passwordBasedMac.map PasswordBasedMacSpec.secretRef ∨
      name ∈ spec.protection.signature.map SignatureProtectionSpec.secretRef := by
  simp only [secretNames, List.mem_cons, List.mem_append, Option.mem_toList, Option.mem_def, or_assoc]

/-- The Secrets an issuer may read: those its spec names, in the namespace it takes its Secrets from. -/
def credentialSecrets (clusterResourceNamespace : String) (issuer : Issuer) : List NamespacedName :=
  match issuerSpecAndNamespace clusterResourceNamespace issuer with
  | .error _ => []
  | .ok (spec, namespace_) => spec.secretNames.map fun name => ⟨namespace_, name⟩

section
variable {ε α β : Type} {keys : List NamespacedName} {t : Trail}

theorem asks_bind {p : Go ε α} {f : α → Go ε β} (first : Follows (asking keys) (fun _ _ => True) t p)
    (rest : ∀ u a, Follows (asking keys) (fun _ _ => True) u (f a)) :
    Follows (asking keys) (fun _ _ => True) t (p >>= f) :=
  first.bind (fun u a _ => rest u a) fun _ _ _ => trivial

theorem asks_outcome_bind {r : Except ε α} {f : α → Go ε β}
    (rest : ∀ a, r = .ok a → Follows (asking keys) (fun _ _ => True) t (f a)) :
    Follows (asking keys) (fun _ _ => True) t (ofExcept r >>= f) :=
  follows_outcome_bind rest fun _ _ => trivial

variable {lib : Library} {namespace_ : String} {secrets : SecretCache}

theorem readCredentialSecret_asks {name : String} (named : ⟨namespace_, name⟩ ∈ keys) :
    Follows (asking keys) (fun _ _ => True) t (readCredentialSecret lib namespace_ name secrets) := by
  unfold readCredentialSecret
  dsimp only
  split
  · trivial
  · refine follows_ask_bind.mpr ⟨⟨_, named, rfl⟩, fun answer => ?_⟩
    cases answer with
    | ok => trivial
    | error => dsimp only; split <;> trivial

theorem loadCertificates_asks {contents : String} {reference : SecretKeyReference}
    (named : ⟨namespace_, reference.name⟩ ∈ keys) :
    Follows (asking keys) (fun _ _ => True) t
      (loadCertificates lib contents namespace_ reference secrets) := by
  refine asks_bind (readCredentialSecret_asks named) ?_
  rintro u ⟨secret, secrets⟩
  exact asks_outcome_bind fun _ _ => asks_outcome_bind fun _ _ => trivial

theorem loadResponseCertificates_asks {reference : Option SecretKeyReference}
    (named : ∀ name ∈ reference.map SecretKeyReference.name, ⟨namespace_, name⟩ ∈ keys) :
    Follows (asking keys) (fun _ _ => True) t
      (loadResponseCertificates lib namespace_ reference secrets) := by
  unfold loadResponseCertificates
  split
  · trivial
  · split
    · trivial
    · exact loadCertificates_asks (named _ rfl)

theorem loadTLSRoots_asks {spec : CMPIssuerSpec} {usesHTTPS : Bool}
    (named : ∀ name ∈ (spec.transport.tls.bind TLSTransportSpec.caSecretRef).map SecretKeyReference.name,
      ⟨namespace_, name⟩ ∈ keys) :
    Follows (asking keys) (fun _ _ => True) t (loadTLSRoots lib namespace_ spec usesHTTPS secrets) := by
  unfold loadTLSRoots
  split
  · rename_i reference configured
    refine asks_bind (loadCertificates_asks (named _ (by rw [configured]; rfl))) ?_
    rintro u ⟨certificates, secrets⟩
    trivial
  · trivial

theorem loadProtection_asks {spec : ProtectionSpec}
    (password : ∀ name ∈ spec.passwordBasedMac.map PasswordBasedMacSpec.secretRef, ⟨namespace_, name⟩ ∈ keys)
    (signature : ∀ name ∈ spec.signature.map SignatureProtectionSpec.secretRef, ⟨namespace_, name⟩ ∈ keys) :
    Follows (asking keys) (fun _ _ => True) t (loadProtection lib namespace_ spec secrets) := by
  unfold loadProtection
  split
  · rename_i configured
    refine asks_bind (readCredentialSecret_asks (password _ (by rw [configured]; rfl))) ?_
    rintro u ⟨secret, secrets⟩
    exact asks_outcome_bind fun _ _ => trivial
  · rename_i configured
    refine asks_bind (readCredentialSecret_asks (signature _ (by rw [configured]; rfl))) ?_
    rintro u ⟨secret, secrets⟩
    exact asks_outcome_bind fun _ _ => trivial
  · trivial

variable {clusterResourceNamespace : String} {issuer : Issuer}

theorem mem_credentialSecrets {spec : CMPIssuerSpec} {name : String}
    (resolved : issuerSpecAndNamespace clusterResourceNamespace issuer = .ok (spec, namespace_))
    (named : name ∈ spec.secretNames) :
    (⟨namespace_, name⟩ : NamespacedName) ∈ credentialSecrets clusterResourceNamespace issuer := by
  unfold credentialSecrets
  rw [resolved]
  exact List.mem_map_of_mem named

/-- The configuration of an issuer is made from the Secrets its spec names. -/
theorem loadRuntimeConfiguration_asks :
    Follows (asking (credentialSecrets clusterResourceNamespace issuer)) (fun _ _ => True) t
      (loadRuntimeConfiguration lib clusterResourceNamespace issuer) := by
  refine asks_outcome_bind ?_
  rintro ⟨spec, namespace_⟩ resolved
  rw [mapError_eq_ok] at resolved
  have named : ∀ name ∈ spec.secretNames, _ := fun name => mem_credentialSecrets resolved
  refine asks_outcome_bind fun endpoint _ => ?_
  refine asks_bind (loadCertificates_asks (named _ List.mem_cons_self)) ?_
  rintro u ⟨anchors, secrets⟩
  refine asks_bind (loadResponseCertificates_asks fun name configured => named name ?_) ?_
  · exact CMPIssuerSpec.mem_secretNames.mpr (.inr (.inl configured))
  rintro u ⟨responses, secrets⟩
  refine asks_outcome_bind fun renewal _ =>
    asks_bind (loadTLSRoots_asks fun name configured => named name ?_) ?_
  · exact CMPIssuerSpec.mem_secretNames.mpr (.inr (.inr (.inl configured)))
  rintro u ⟨tlsRoots, secrets⟩
  refine asks_bind (loadProtection_asks (fun name configured => named name ?_)
    (fun name configured => named name ?_)) ?_
  · exact CMPIssuerSpec.mem_secretNames.mpr (.inr (.inr (.inr (.inl configured))))
  · exact CMPIssuerSpec.mem_secretNames.mpr (.inr (.inr (.inr (.inr configured))))
  rintro u ⟨protection, secrets⟩
  exact asks_outcome_bind fun _ _ => asks_outcome_bind fun _ _ => asks_outcome_bind fun _ _ =>
    asks_outcome_bind fun _ _ => trivial

theorem loadCMPTrust_asks :
    Follows (asking (credentialSecrets clusterResourceNamespace issuer)) (fun _ _ => True) t
      (loadCMPTrust lib clusterResourceNamespace issuer) := by
  refine asks_outcome_bind ?_
  rintro ⟨spec, namespace_⟩ resolved
  rw [mapError_eq_ok] at resolved
  have named : ∀ name ∈ spec.secretNames, _ := fun name => mem_credentialSecrets resolved
  refine asks_bind (loadCertificates_asks (named _ List.mem_cons_self)) ?_
  rintro u ⟨anchors, secrets⟩
  refine asks_bind (loadResponseCertificates_asks fun name configured => named name ?_) ?_
  · exact CMPIssuerSpec.mem_secretNames.mpr (.inr (.inl configured))
  rintro u ⟨responses, secrets⟩
  trivial

end

end CmpIssuer
