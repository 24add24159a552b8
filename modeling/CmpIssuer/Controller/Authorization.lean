import CmpIssuer.Controller.Secrets
import CmpIssuer.Protocol.Attributes
import CmpIssuer.Protocol.Verdict

/-!
What the workload loaders have checked before they read a Secret and by the
time they return. The owning Certificate of a request is authorized first, so
the Secrets that are read afterwards are named by that Certificate and not by
the request alone.
-/
namespace CmpIssuer
open Effect

/-- The monitor of programs that look around and read a Secret only when what they have seen entitles them
to it. -/
def entitled (W : Trail → NamespacedName → Prop) : Monitor interface Trail where
  allows t o := o.silent = true ∧ ∀ key, o = .getSecret key → W t key
  next t o answer := t ++ [⟨o, answer⟩]

section
variable {ε ε' α β : Type} {W : Trail → NamespacedName → Prop} {t : Trail}

theorem entitled_outcome_bind {P : Trail → β → Prop} {r : Except ε α} {f : α → Go ε β}
    (rest : ∀ a, r = .ok a → Follows (entitled W) (Loads P) t (f a)) :
    Follows (entitled W) (Loads P) t (ofExcept r >>= f) :=
  follows_outcome_bind rest fun _ _ => trivial

theorem entitled_bind {P : Trail → α → Prop} {P' : Trail → β → Prop} {p : Go ε α} {f : α → Go ε β}
    (first : Follows (entitled W) (Loads P) t p)
    (rest : ∀ u a, t <+: u → P u a → Follows (entitled W) (Loads P') u (f a)) :
    Follows (entitled W) (Loads P') t (p >>= f) := by
  have grows := first.stable (I := fun u => t <+: u)
    (fun _ _ _ kept _ => kept.trans (List.prefix_append ..)) List.prefix_rfl
  refine grows.bind (fun u a holds => rest u a holds.2 holds.1) ?_
  rintro u (err | reason) ⟨holds, _⟩
  · trivial
  · exact holds

theorem entitled_mapError {P : Trail → α → Prop} {p : Go ε α} {f : ε → ε'}
    (h : Follows (entitled W) (Loads P) t p) :
    Follows (entitled W) (Loads P) t (p.mapError (Fault.map f)) := by
  rw [follows_mapError]
  refine h.mono ?_
  rintro u ((err | reason) | a) holds
  · trivial
  · exact holds
  · exact holds

theorem entitled_ask {P : Trail → β → Prop} {o : Op} {f : o.Answer → Go ε β} (quiet : o.silent = true)
    (entitlement : ∀ key, o = .getSecret key → W t key)
    (rest : ∀ answer, Follows (entitled W) (Loads P) (t ++ [⟨o, answer⟩]) (f answer)) :
    Follows (entitled W) (Loads P) t (ask o >>= f) :=
  follows_ask_bind.mpr ⟨⟨quiet, entitlement⟩, rest⟩

theorem entitled_read {Q : Trail → Except (Fault ε) α → Prop} {p q : Go ε α} {u : Trail}
    {key : NamespacedName} {answer : Except ApiError Secret} (h : Follows (entitled W) Q t p)
    (path : Path p u q) (read : (⟨.getSecret key, answer⟩ : Event interface) ∈ u) :
    ∃ v, v <+: t ++ u ∧ W v key := by
  induction path generalizing t with
  | refl => cases read
  | step found rest ih =>
      rcases List.mem_cons.mp read with now | later
      · cases now
        exact ⟨t, List.prefix_append _ _, h.1.2 key rfl⟩
      · obtain ⟨v, within, entitlement⟩ := ih (h.2 found) later
        exact ⟨v, by simpa [entitled] using within, entitlement⟩

/-- Without the question of entitlement a program only looks around. -/
theorem entitled_reading {P : Trail → α → Prop} {p : Go ε α} (h : Follows (entitled W) (Loads P) t p) :
    Follows reading (Loads P) t p := by
  have related : Follows reading _ t p := h.simulate (R := Eq)
    (by rintro u _ o rfl allowed; exact ⟨allowed.1, fun _ => rfl⟩) rfl
  refine related.mono ?_
  rintro u r ⟨_, rfl, holds⟩
  exact holds

end

/-- The Certificate of a request: its single controlling owner, read under the UID the request names. It is
not being deleted, it names the issuer and its revision is the one before the revision of the request. -/
structure Authorized (lib : Library) (request : CertificateRequestObject) (issuer : Issuer) (t : Trail)
    (revision : Int) (certificate : CertManagerCertificate) : Prop where
  owner : ∃ owner : OwnerReference,
    (request.ownerReferences.filter fun reference => reference.controller == some true) = [owner] ∧
    owner.apiVersion = certManagerGroupVersion ∧ owner.kind = certificateKind ∧
    owner.uid = certificate.uid ∧ owner.uid ≠ "" ∧
    (⟨.getCertificate ⟨request.namespace_, owner.name⟩, .ok certificate⟩ : Event interface) ∈ t
  present : certificate.deleted = false
  issuer : certificate.issuerName = issuer.name ∧ certificate.issuerGroup = issuerGroup ∧
    certificate.issuerKind = (issuerReference issuer).kind.text
  requested : certificateRequestRevision lib request = .ok revision
  follows : certificate.revision.getD 0 = revision - 1

/-- A staged key: both the request and its Certificate name the Secret, the Certificate controls it as its
next private key, and the CSR is for the key in it. -/
structure StagedKey (lib : Library) (request : CertificateRequestObject) (csrDER : Bytes) (t : Trail)
    (certificate : CertManagerCertificate) (key : Signer) : Prop where
  secret : ∃ name secret, name ≠ "" ∧
    stringAt request.annotations certificateRequestPrivateKeyAnnotationKey = name ∧
    certificate.nextPrivateKeySecretName = some name ∧
    (⟨request.namespace_, name⟩, secret) ∈ secretsRead t ∧
    (∃ owner ∈ secret.ownerReferences, owner.controller = some true ∧ owner.refersTo certificate = true) ∧
    secret.labels.lookup isNextPrivateKeySecretLabelKey = some "true" ∧
    parseSecretSigner lib secret tlsPrivateKeyKey = .ok key
  csr : ∃ csr, lib.parseCertificateRequest csrDER = .ok csr ∧
    publicKeysEqual lib key.publicKey csr.publicKey = true

/-- The key pair of the current certificate: its Secret was written for the Certificate and nothing else
controls it. -/
structure CurrentKey (lib : Library) (request : CertificateRequestObject) (t : Trail)
    (certificate : CertManagerCertificate) (signature : SignatureProtection) : Prop where
  secret : ∃ secret data, (⟨request.namespace_, certificate.secretName⟩, secret) ∈ secretsRead t ∧
    secret.annotations.lookup certificateNameKey = some certificate.name ∧
    (∀ owner ∈ secret.ownerReferences, owner.controller = some true → owner.refersTo certificate = true) ∧
    secret.data.lookup tlsCertKey = some data ∧
    parseCertificates lib data = .ok (signature.certificate :: signature.chain) ∧
    parseSecretSigner lib secret tlsPrivateKeyKey = .ok signature.privateKey ∧
    validateSignerCertificate lib signature.privateKey signature.certificate = .ok ()

section
variable {lib : Library} {request : CertificateRequestObject} {issuer : Issuer} {csrDER : Bytes}
  {t u : Trail} {revision : Int} {certificate : CertManagerCertificate}

theorem Authorized.mono (h : Authorized lib request issuer t revision certificate) (seen : t ⊆ u) :
    Authorized lib request issuer u revision certificate := by
  obtain ⟨owner, single, apiVersion, kind, uid, identified, read⟩ := h.owner
  exact ⟨⟨owner, single, apiVersion, kind, uid, identified, seen read⟩, h.present, h.issuer, h.requested,
    h.follows⟩

theorem StagedKey.mono {key : Signer} (h : StagedKey lib request csrDER t certificate key) (seen : t ⊆ u) :
    StagedKey lib request csrDER u certificate key := by
  obtain ⟨name, secret, nonempty, annotated, named, read, rest⟩ := h.secret
  exact ⟨⟨name, secret, nonempty, annotated, named, secretsRead_mono seen read, rest⟩, h.csr⟩

theorem CurrentKey.mono {signature : SignatureProtection}
    (h : CurrentKey lib request t certificate signature) (seen : t ⊆ u) :
    CurrentKey lib request u certificate signature := by
  obtain ⟨secret, data, read, rest⟩ := h.secret
  exact ⟨secret, data, secretsRead_mono seen read, rest⟩

theorem certificateOwnerReference_ok {owner : OwnerReference}
    (h : certificateOwnerReference request = .ok owner) :
    (request.ownerReferences.filter fun reference => reference.controller == some true) = [owner] ∧
      owner.apiVersion = certManagerGroupVersion ∧ owner.kind = certificateKind ∧ owner.uid ≠ "" := by
  unfold certificateOwnerReference at h
  dsimp only at h
  split at h
  · cases h
  · rename_i single
    split at h
    · cases h
    · rename_i checked
      cases h
      push Not at checked
      exact ⟨single, checked.1, checked.2.1, checked.2.2.2⟩
  · cases h

theorem authorizedRevision_ok {operation : Operation} {renewal : Bool}
    (h : authorizedRevision lib request operation renewal = .ok revision) :
    certificateRequestRevision lib request = .ok revision ∧ (renewal = false → revision = 1) ∧
      (renewal = true → 2 ≤ revision) := by
  unfold authorizedRevision at h
  split at h
  · cases h
  · rename_i found
    split at h
    · cases h
    · rename_i first
      split at h
      · cases h
      · rename_i later
        cases h
        refine ⟨found, fun initial => ?_, fun renews => ?_⟩
        · subst initial
          simpa using first
        · subst renews
          exact not_lt.mp fun small => later ⟨rfl, small⟩

theorem certificateIssuerMatches_iff : certificateIssuerMatches certificate issuer = true ↔
    certificate.issuerName = issuer.name ∧ certificate.issuerGroup = issuerGroup ∧
      certificate.issuerKind = (issuerReference issuer).kind.text := by
  simp [certificateIssuerMatches, and_assoc]

variable {W : Trail → NamespacedName → Prop}

theorem authorizeOwningCertificate_entitled {operation : Operation} {renewal : Bool} :
    Follows (entitled W) (Loads fun u certificate => ∃ revision,
      Authorized lib request issuer u revision certificate ∧ (renewal = false → revision = 1) ∧
        (renewal = true → 2 ≤ revision)) t
      (authorizeOwningCertificate lib request issuer operation renewal) := by
  refine entitled_outcome_bind fun revision checked => entitled_outcome_bind fun owner owned => ?_
  rw [mapError_eq_ok] at checked owned
  obtain ⟨single, apiVersion, kind, identified⟩ := certificateOwnerReference_ok owned
  obtain ⟨requested, initial, renews⟩ := authorizedRevision_ok checked
  refine entitled_bind (P := fun u certificate => owner.uid = certificate.uid ∧
    certificate.deleted = false ∧
    (⟨.getCertificate ⟨request.namespace_, owner.name⟩, .ok certificate⟩ : Event interface) ∈ u) ?_ ?_
  · refine entitled_ask rfl (by rintro _ ⟨⟩) fun answer => ?_
    cases answer with
    | error err => dsimp only; split <;> trivial
    | ok certificate =>
        dsimp only
        split
        · trivial
        · rename_i identity
          push Not at identity
          exact ⟨identity.2.1, by simpa using identity.2.2, List.mem_append_right _ List.mem_cons_self⟩
  · rintro u certificate _ ⟨uid, present, read⟩
    split
    · trivial
    · rename_i consecutive
      split
      · trivial
      · rename_i named
        refine ⟨revision, ?_, initial, renews⟩
        exact ⟨⟨owner, single, apiVersion, kind, uid, identified, read⟩, present,
          certificateIssuerMatches_iff.mp (by simpa using named), requested, not_not.mp consecutive⟩

theorem authorizedStagedKeyName_ok {operation : Operation} {name : String}
    (h : authorizedStagedKeyName request certificate operation = .ok name) :
    name ≠ "" ∧ stringAt request.annotations certificateRequestPrivateKeyAnnotationKey = name ∧
      certificate.nextPrivateKeySecretName = some name := by
  unfold authorizedStagedKeyName at h
  dsimp only at h
  split at h
  · cases h
  · rename_i authorized
    cases h
    push Not at authorized
    exact ⟨authorized.1, rfl, authorized.2⟩

theorem matchingStagedKey_ok {operation : Operation} {secret : Secret} {key : Signer}
    (h : matchingStagedKey lib operation secret csrDER = .ok key) :
    parseSecretSigner lib secret tlsPrivateKeyKey = .ok key ∧
      ∃ csr, lib.parseCertificateRequest csrDER = .ok csr ∧
        publicKeysEqual lib key.publicKey csr.publicKey = true := by
  unfold matchingStagedKey at h
  cases parsed : parseSecretSigner lib secret tlsPrivateKeyKey with
  | error => rw [parsed] at h; cases h
  | ok signer =>
      cases request : lib.parseCertificateRequest csrDER with
      | error => rw [parsed, request] at h; cases h
      | ok csr =>
          simp only [parsed, request, Except.mapError, bind, Except.bind] at h
          split at h
          · cases h
          · rename_i equal
            cases h
            exact ⟨rfl, csr, rfl, by simpa using equal⟩

theorem stringAt_eq_some {entries : GoMap String String} {key value : String} (nonempty : value ≠ "")
    (h : stringAt entries key = value) : entries.lookup key = some value := by
  unfold stringAt at h
  cases found : entries.lookup key with
  | none => rw [found] at h; exact absurd h.symm nonempty
  | some other => rw [found] at h; exact congrArg some h

theorem loadStagedKey_entitled {name : String} {operation : Operation} (nonempty : name ≠ "")
    (annotated : stringAt request.annotations certificateRequestPrivateKeyAnnotationKey = name)
    (named : certificate.nextPrivateKeySecretName = some name)
    (entitlement : W t ⟨request.namespace_, name⟩) :
    Follows (entitled W) (Loads fun u out => StagedKey lib request csrDER u certificate out.2) t
      (loadStagedKey lib ⟨request.namespace_, name⟩ certificate csrDER operation) := by
  refine entitled_bind
    (P := fun u secret => (⟨request.namespace_, name⟩, secret) ∈ secretsRead u) ?_ ?_
  · refine entitled_ask rfl (by rintro _ ⟨⟩; exact entitlement) fun answer => ?_
    cases answer with
    | error err => dsimp only; split <;> trivial
    | ok secret => exact loads_pure (by simp [secretRead])
  · rintro u secret _ read
    split
    · trivial
    · rename_i owned
      push Not at owned
      have controlled : secretControlledByCertificate secret certificate = true := by simpa using owned.1
      obtain ⟨owner, member, controls⟩ := List.any_eq_true.mp controlled
      refine entitled_outcome_bind fun key matching => ?_
      obtain ⟨parsed, csr⟩ := matchingStagedKey_ok matching
      rw [Bool.and_eq_true, beq_iff_eq] at controls
      exact ⟨⟨name, secret, nonempty, annotated, named, read, ⟨owner, member, controls⟩,
        stringAt_eq_some (by decide) owned.2, parsed⟩, csr⟩

/-- What an IR was authorized by. -/
structure AuthorizedIR (lib : Library) (request : CertificateRequestObject) (issuer : Issuer)
    (reason : Setting FallbackReason) (csrDER : Bytes) (t : Trail) (key : Signer) : Prop where
  certificate : ∃ revision certificate, Authorized lib request issuer t revision certificate ∧
    StagedKey lib request csrDER t certificate key ∧
    (reason = .unset ∧ revision = 1 ∧ (certificate.revision = none ∨ certificate.revision = some 0) ∨
      reason ≠ .unset ∧ renewalFallbackOperation issuer = .ir ∧ 2 ≤ revision)

/-- What a KUR was authorized by. -/
structure AuthorizedKUR (lib : Library) (request : CertificateRequestObject) (issuer : Issuer)
    (csrDER : Bytes) (t : Trail) (key : Signer) (signature : SignatureProtection) : Prop where
  certificate : ∃ revision certificate, Authorized lib request issuer t revision certificate ∧
    2 ≤ revision ∧ StagedKey lib request csrDER t certificate key ∧
    CurrentKey lib request t certificate signature

theorem Authorized.unissued (h : Authorized lib request issuer t 1 certificate) :
    certificate.revision = none ∨ certificate.revision = some 0 := by
  have zero := h.follows
  cases found : certificate.revision with
  | none => exact .inl rfl
  | some revision =>
      rw [found] at zero
      exact .inr (congrArg some zero)

/-- A Secret that an authorized Certificate stages its next key in may be read. -/
def StagedAllowed (lib : Library) (request : CertificateRequestObject) (issuer : Issuer)
    (W : Trail → NamespacedName → Prop) : Prop :=
  ∀ t revision certificate name, Authorized lib request issuer t revision certificate →
    certificate.nextPrivateKeySecretName = some name → W t ⟨request.namespace_, name⟩

/-- The current Secret of an authorized Certificate may be read. -/
def CurrentAllowed (lib : Library) (request : CertificateRequestObject) (issuer : Issuer)
    (W : Trail → NamespacedName → Prop) : Prop :=
  ∀ t revision certificate, Authorized lib request issuer t revision certificate →
    W t ⟨request.namespace_, certificate.secretName⟩

theorem loadIRMaterial_entitled {reason : Setting FallbackReason}
    (staged : StagedAllowed lib request issuer W) :
    Follows (entitled W) (Loads fun u material => material.protection = none ∧
      AuthorizedIR lib request issuer reason csrDER u material.requestedPrivateKey) t
      (loadIRMaterial lib request issuer csrDER reason) := by
  unfold loadIRMaterial
  dsimp only
  split
  · trivial
  · rename_i fallback
    refine entitled_bind authorizeOwningCertificate_entitled ?_
    rintro u certificate _ ⟨revision, authorized, initial, renews⟩
    refine entitled_outcome_bind fun name checked => ?_
    obtain ⟨nonempty, annotated, named⟩ := authorizedStagedKeyName_ok checked
    refine entitled_bind (loadStagedKey_entitled nonempty annotated named
      (staged _ _ _ _ authorized named)) ?_
    rintro u₁ ⟨secret, key⟩ extends_ key
    refine ⟨rfl, revision, certificate, authorized.mono extends_.subset, key, ?_⟩
    by_cases unset : reason = .unset
    · subst unset
      cases initial rfl
      exact .inl ⟨rfl, rfl, authorized.unissued⟩
    · have renewal : (reason != .unset) = true := by simpa using unset
      rw [renewal] at fallback
      exact .inr ⟨unset, by simpa using fallback, renews renewal⟩

theorem readCurrentSecret_entitled {key : NamespacedName} (entitlement : W t key) :
    Follows (entitled W) (Loads fun u found => ∀ secret, found = some secret →
      (key, secret) ∈ secretsRead u) t (readCurrentSecret key) := by
  refine entitled_ask rfl (by rintro _ ⟨⟩; exact entitlement) fun answer => ?_
  cases answer with
  | error err =>
      dsimp only
      split
      · exact loads_pure (by rintro _ ⟨⟩)
      · trivial
  | ok secret =>
      refine loads_pure ?_
      rintro _ ⟨⟩
      simp [secretRead]

theorem currentSecretIssuedForCertificate_ok {secret : Secret}
    (h : currentSecretIssuedForCertificate lib secret certificate = .ok ()) :
    secret.annotations.lookup certificateNameKey = some certificate.name ∧
      ∀ owner ∈ secret.ownerReferences, owner.controller = some true →
        owner.refersTo certificate = true := by
  unfold currentSecretIssuedForCertificate at h
  split at h
  · cases h
  · rename_i name annotated
    split at h
    · cases h
    · rename_i same
      split at h
      · cases h
      · rename_i others
        rw [not_not.mp same] at annotated
        refine ⟨annotated, fun owner member controls => ?_⟩
        by_contra other
        exact others (List.any_eq_true.mpr ⟨owner, member, by simp [controls, other]⟩)

theorem currentProtection_ok {name : String} {secret : Secret} {protection : Protection}
    (h : currentProtection lib name secret = .ok protection) :
    ∃ data signature, protection = { password := none, signature := some signature } ∧
      secret.data.lookup tlsCertKey = some data ∧
      parseCertificates lib data = .ok (signature.certificate :: signature.chain) ∧
      parseSecretSigner lib secret tlsPrivateKeyKey = .ok signature.privateKey ∧
      validateSignerCertificate lib signature.privateKey signature.certificate = .ok () := by
  unfold currentProtection at h
  split at h
  · cases h
  · rename_i first rest found
    split at h
    · cases h
    · cases h
    · rename_i parsed
      split at h
      · cases h
      · rename_i key
        split at h
        · cases h
        · rename_i pair
          cases h
          refine ⟨first :: rest, _, rfl, ?_, parsed, key, pair⟩
          cases present : secret.data.lookup tlsCertKey with
          | none => rw [present] at found; cases found
          | some data => rw [present] at found; exact congrArg some found

theorem loadKURMaterial_entitled (staged : StagedAllowed lib request issuer W)
    (current : CurrentAllowed lib request issuer W) :
    Follows (entitled W) (Loads fun u material => ∃ signature,
      material.protection = some { password := none, signature := some signature } ∧
      AuthorizedKUR lib request issuer csrDER u material.requestedPrivateKey signature) t
      (loadKURMaterial lib request issuer csrDER) := by
  refine entitled_bind authorizeOwningCertificate_entitled ?_
  rintro u certificate _ ⟨revision, authorized, _, renews⟩
  refine entitled_outcome_bind fun name checked => ?_
  obtain ⟨nonempty, annotated, named⟩ := authorizedStagedKeyName_ok checked
  split
  · trivial
  · refine entitled_bind (readCurrentSecret_entitled (current _ _ _ authorized)) ?_
    rintro u₁ (_ | secret) extends₁ read
    · trivial
    · refine entitled_outcome_bind fun _ issued => ?_
      rw [mapError_eq_ok] at issued
      obtain ⟨written, controlled⟩ := currentSecretIssuedForCertificate_ok issued
      refine entitled_bind (loadStagedKey_entitled nonempty annotated named
        (staged _ _ _ _ (authorized.mono extends₁.subset) named)) ?_
      rintro u₂ ⟨stagedSecret, key⟩ extends₂ key
      refine entitled_outcome_bind fun protection parsed => ?_
      obtain ⟨data, signature, rfl, found, certificates, signer, pair⟩ := currentProtection_ok parsed
      refine ⟨signature, rfl, revision, certificate,
        authorized.mono (extends₁.trans extends₂).subset, renews rfl, key, secret, data, ?_, written,
        controlled, found, certificates, signer, pair⟩
      exact secretsRead_mono extends₂.subset (read secret rfl)

/-- The classification of a renewal looks at the current Secret of an authorized Certificate. -/
theorem classifyRenewalFallback_entitled {instant : Time} (current : CurrentAllowed lib request issuer W) :
    Follows (entitled W) (Loads fun _ _ => True) t
      (classifyRenewalFallback lib request issuer instant) := by
  refine entitled_bind authorizeOwningCertificate_entitled ?_
  rintro u certificate _ ⟨revision, authorized, _⟩
  split
  · exact loads_pure trivial
  · refine entitled_bind (readCurrentSecret_entitled (current _ _ _ authorized)) ?_
    exact fun _ _ _ _ => loads_pure trivial

/-- The certificate being updated can authenticate the update: it is valid at an instant of the clock, it
permits signatures and it is of the identity of the CSR. -/
structure UsableForKUR (lib : Library) (csrDER : Bytes) (t : Trail) (current : Certificate) : Prop where
  valid : ∃ instant : Time, (⟨.now, instant⟩ : Event interface) ∈ t ∧ current.notBefore ≤ instant ∧
    instant < current.notAfter
  keyUsage : certificateHasExtension current oidKeyUsage = true → current.keyUsage.digitalSignature = true
  identity : ∃ csr, lib.parseCertificateRequest csrDER = .ok csr ∧ SameIdentity lib current csr

theorem validateKURProofs_usable {enrollment : EnrollmentRequest} {csr : CertificateRequest} {instant : Time}
    {signature : SignatureProtection} {key : Signer}
    (parsed : lib.parseCertificateRequest enrollment.csrDER = .ok csr)
    (seen : (⟨.now, instant⟩ : Event interface) ∈ t)
    (h : validateKURProofs lib enrollment csr instant = .ok (signature, key)) :
    enrollment.protection.signature = some signature ∧
      UsableForKUR lib enrollment.csrDER t signature.certificate := by
  unfold validateKURProofs at h
  split at h
  · rename_i found
    split at h
    · cases h
    · dsimp only at h
      split at h
      · cases h
      · rename_i valid
        split at h
        · cases h
        · rename_i usage
          split at h
          · cases h
          · rename_i identity
            cases h
            push Not at valid usage
            exact ⟨found, ⟨instant, seen, valid⟩, by simpa using usage, csr, parsed,
              sameKURIdentity_ok (by simpa using identity)⟩
  · cases h

theorem validateKURRequest_entitled {enrollment : EnrollmentRequest} :
    Follows (entitled W) (Loads fun u _ => ∃ signature, enrollment.protection.signature = some signature ∧
      UsableForKUR lib enrollment.csrDER u signature.certificate) t (validateKURRequest lib enrollment) := by
  refine entitled_outcome_bind fun _ _ => entitled_outcome_bind fun csr parsed => ?_
  refine entitled_ask rfl (by rintro _ ⟨⟩) fun instant => entitled_outcome_bind ?_
  rintro ⟨signature, key⟩ proofs
  exact loads_pure ⟨signature, validateKURProofs_usable (signedRequestCSR_ok parsed)
    (List.mem_append_right t List.mem_cons_self) proofs⟩

/-- What the workload keys of a prepared request were authorized by. -/
structure Authorizes (lib : Library) (request : CertificateRequestObject) (issuer : Issuer)
    (operation : Operation) (reason : Setting FallbackReason) (csrDER : Bytes) (t : Trail)
    (enrollment : EnrollmentRequest) : Prop where
  ir : operation = .ir → ∃ key, enrollment.requestedPrivateKey = some key ∧
    AuthorizedIR lib request issuer reason csrDER t key
  kur : operation = .kur → ∃ key signature, enrollment.requestedPrivateKey = some key ∧
    enrollment.protection = { password := none, signature := some signature } ∧
    AuthorizedKUR lib request issuer csrDER t key signature ∧
    UsableForKUR lib csrDER t signature.certificate

theorem AuthorizedIR.mono {reason : Setting FallbackReason} {key : Signer}
    (h : AuthorizedIR lib request issuer reason csrDER t key) (seen : t ⊆ u) :
    AuthorizedIR lib request issuer reason csrDER u key := by
  obtain ⟨revision, certificate, authorized, staged, initial⟩ := h.certificate
  exact ⟨revision, certificate, authorized.mono seen, staged.mono seen, initial⟩

theorem UsableForKUR.mono {current : Certificate} (h : UsableForKUR lib csrDER t current) (seen : t ⊆ u) :
    UsableForKUR lib csrDER u current := by
  obtain ⟨instant, read, valid⟩ := h.valid
  exact ⟨⟨instant, seen read, valid⟩, h.keyUsage, h.identity⟩

theorem AuthorizedKUR.mono {key : Signer} {signature : SignatureProtection}
    (h : AuthorizedKUR lib request issuer csrDER t key signature) (seen : t ⊆ u) :
    AuthorizedKUR lib request issuer csrDER u key signature := by
  obtain ⟨revision, certificate, authorized, renews, staged, current⟩ := h.certificate
  exact ⟨revision, certificate, authorized.mono seen, renews, staged.mono seen, current.mono seen⟩

theorem prepareEnrollment_entitled {operation : Operation} {reason : Setting FallbackReason}
    {configuration : RuntimeConfiguration}
    (staged : operation = .ir ∨ operation = .kur → StagedAllowed lib request issuer W)
    (current : operation = .kur → CurrentAllowed lib request issuer W) :
    Follows (entitled W) (Loads fun u prepared =>
      Authorizes lib request issuer operation reason csrDER u prepared.enrollment) t
      (prepareEnrollment lib request issuer operation reason csrDER configuration) := by
  unfold prepareEnrollment
  dsimp only
  split
  · rename_i workload
    rcases workload with rfl | rfl
    · refine entitled_bind (entitled_mapError (loadIRMaterial_entitled (staged (.inl rfl)))) ?_
      rintro u material _ ⟨_, authorized⟩
      refine entitled_outcome_bind fun digest _ => entitled_outcome_bind fun _ _ => loads_pure ?_
      exact ⟨fun _ => ⟨_, rfl, authorized⟩, by rintro ⟨⟩⟩
    · refine entitled_bind
        (entitled_mapError (loadKURMaterial_entitled (staged (.inr rfl)) (current rfl))) ?_
      rintro u material _ ⟨signature, protected_, authorized⟩
      refine entitled_outcome_bind fun digest _ => ?_
      refine entitled_bind (entitled_mapError validateKURRequest_entitled) ?_
      rintro u₁ _ extends_ ⟨other, found, usable⟩
      refine loads_pure ⟨by rintro ⟨⟩, fun _ => ⟨_, signature, rfl, ?_, authorized.mono extends_.subset, ?_⟩⟩
      · rw [protected_]
        rfl
      · rw [protected_] at found
        cases found
        exact usable
  · rename_i plain
    refine loads_pure ⟨fun ir => absurd (.inl ir) plain, fun kur => absurd (.inr kur) plain⟩

theorem prepareEnrollment_authorizes {operation : Operation} {reason : Setting FallbackReason}
    {configuration : RuntimeConfiguration} :
    Follows reading (Loads fun u prepared =>
      Authorizes lib request issuer operation reason csrDER u prepared.enrollment) []
      (prepareEnrollment lib request issuer operation reason csrDER configuration) :=
  entitled_reading (W := fun _ _ => True)
    (prepareEnrollment_entitled (fun _ _ _ _ _ _ _ => trivial) fun _ _ _ _ _ => trivial)

end

end CmpIssuer
