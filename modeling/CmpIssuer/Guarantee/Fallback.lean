import CmpIssuer.Controller.Authorization
import CmpIssuer.Guarantee.Response

/-!
The renewal fallback against the key update it stands in for. A renewal falls
back when the current certificate is missing or has expired, which is judged
before the key update is tried. The judgement is the one that the key update
comes to, except that it never looks at the private key of an expired
certificate.
-/
namespace CmpIssuer
open Effect

/-- How a key update fails before anything is sent: on its material or on the proofs for a certificate. -/
inductive KURFailure where
  | material (fault : Fault ConfigurationError)
  | proofs (current : Option Certificate) (err : GoError)

/-- What a current Secret holds. -/
inductive CurrentState where
  /-- It was not written for the Certificate. -/
  | foreign
  | empty
  | unparsed
  | holds (current : Certificate)

section
variable (lib : Library)

/-- The failures of a key update that has no certificate to authenticate with, by the fallback for each. -/
def KURFailure.reason? (secretName : String) (t : Time) : KURFailure → Option FallbackReason
  | .material (.error err) =>
      if err = permanentConfiguration "read current certificate Secret"
          (currentCertificateUnavailable lib secretName "does not exist") ∨
        err = permanentConfiguration "parse KUR current certificate"
          (currentCertificateUnavailable lib secretName "holds no certificate") then
        some .currentCertificateMissing
      else none
  | .proofs (some current) err =>
      if err = permanent "validate KUR protection certificate" "badTime"
          (.text "certificate being updated is not currently valid") ∧ current.notAfter ≤ t then
        some .currentCertificateExpired
      else none
  | _ => none

/-- `loadKURMaterial` followed by `validateKURProofs`, in a cluster that answers alike throughout. -/
def kurRenewal (answer : (o : Op) → o.Answer) (request : CertificateRequestObject) (issuer : Issuer)
    (csrDER : Bytes) (csr : CertificateRequest) (enrollment : EnrollmentRequest) (t : Time) :
    Except KURFailure (SignatureProtection × Signer) :=
  match (loadKURMaterial lib request issuer csrDER).eval answer with
  | .error fault => .error (.material fault)
  | .ok material =>
      let protection := material.protection.getD enrollment.protection
      (validateKURProofs lib { enrollment with
          protection, requestedPrivateKey := some material.requestedPrivateKey } csr t).mapError
        (.proofs (protection.signature.map SignatureProtection.certificate))

def currentState (certificate : CertManagerCertificate) (secret : Secret) : CurrentState :=
  match currentSecretIssuedForCertificate lib secret certificate with
  | .error _ => .foreign
  | .ok () =>
      match (secret.data.lookup tlsCertKey).getD [] with
      | [] => .empty
      | first :: rest =>
          match parseCertificates lib (first :: rest) with
          | .ok (current :: _) => .holds current
          | _ => .unparsed

/-- The private key in a Secret is one for the certificate. -/
def keyFits (secret : Secret) (current : Certificate) : Bool :=
  match parseSecretSigner lib secret tlsPrivateKeyKey with
  | .error _ => false
  | .ok key => (validateSignerCertificate lib key current).toBool

/-- A Secret that was not written for the Certificate, or whose certificate does not parse, is not yet valid
or does not match its private key. -/
def CurrentState.Unusable (secret : Secret) (t : Time) : CurrentState → Prop
  | .foreign | .unparsed => True
  | .empty => False
  | .holds current => t < current.notBefore ∨ keyFits lib secret current = false

/-- The fallback that the classification comes to. It does not look at the key. -/
def CurrentState.fallback (t : Time) : CurrentState → Option FallbackReason
  | .foreign | .unparsed => none
  | .empty => some .currentCertificateMissing
  | .holds current => if t < current.notAfter then none else some .currentCertificateExpired

/-- The fallback that the key update comes to. It needs the key of an expired certificate. -/
def CurrentState.required (secret : Secret) (t : Time) : CurrentState → Option FallbackReason
  | .foreign | .unparsed => none
  | .empty => some .currentCertificateMissing
  | .holds current =>
      if keyFits lib secret current ∧ current.notAfter ≤ t then some .currentCertificateExpired else none

/-- The two judgements on a cluster agree. -/
structure FallbackAgrees (answer : (o : Op) → o.Answer) (request : CertificateRequestObject) (issuer : Issuer)
    (certificate : CertManagerCertificate) (csrDER : Bytes) (csr : CertificateRequest)
    (enrollment : EnrollmentRequest) (t : Time) : Prop where
  reasons : ∀ reason, (classifyRenewalFallback lib request issuer t).eval answer = .ok (some reason) ↔
    ∃ failure, kurRenewal lib answer request issuer csrDER csr enrollment t = .error failure ∧
      failure.reason? lib certificate.secretName t = some reason
  unusable : ∀ secret, answer (.getSecret ⟨request.namespace_, certificate.secretName⟩) = .ok secret →
    (currentState lib certificate secret).Unusable lib secret t →
      (classifyRenewalFallback lib request issuer t).eval answer = .ok none

end

section
variable {lib : Library} {answer : (o : Op) → o.Answer} {request : CertificateRequestObject} {issuer : Issuer}
  {certificate : CertManagerCertificate} {secret : Secret} {t : Time}

theorem eval_ofExcept {ε α : Type} (r : Except ε α) :
    (ofExcept r).eval answer = r.mapError Fault.error := by
  cases r <;> rfl

/-- What the read of a current Secret comes to. -/
def storedSecret (answer : (o : Op) → o.Answer) (key : NamespacedName) :
    Except (Fault ConfigurationError) (Option Secret) :=
  match answer (.getSecret key) with
  | .ok secret => .ok (some secret)
  | .error err =>
      if err.reason = .notFound then .ok none
      else .error (.error (retryableConfiguration "read current certificate Secret" (.api err)))

theorem readCurrentSecret_eval (key : NamespacedName) :
    (readCurrentSecret key).eval answer = storedSecret answer key := by
  unfold readCurrentSecret storedSecret
  rw [Program.eval_bind]
  change Except.bind (.ok (answer (.getSecret key))) _ = _
  cases answer (.getSecret key) with
  | ok => rfl
  | error err =>
      change Program.eval (S := interface) answer (if _ then _ else _) = (if _ then _ else _)
      split <;> rfl

theorem storedSecret_error {key : NamespacedName} {fault : Fault ConfigurationError}
    (h : storedSecret answer key = .error fault) : ∃ err, fault = .error err ∧ err.permanent = false := by
  unfold storedSecret at h
  split at h
  · cases h
  · split at h <;> cases h
    exact ⟨_, rfl, rfl⟩

theorem currentCertificateState_some : currentCertificateState lib certificate t (some secret) =
    (currentState lib certificate secret).fallback t := by
  unfold currentCertificateState currentState
  dsimp only
  cases currentSecretIssuedForCertificate lib secret certificate with
  | error => rfl
  | ok =>
      cases (secret.data.lookup tlsCertKey).getD [] with
      | nil => rfl
      | cons first rest =>
          dsimp only
          rcases parseCertificates lib (first :: rest) with _ | _ | _ <;> rfl

theorem classify_eval
    (owner : (authorizeOwningCertificate lib request issuer .kur true).eval answer = .ok certificate)
    (distinct : ¬ (certificate.secretName = "" ∨ certificate.secretName =
      stringAt request.annotations certificateRequestPrivateKeyAnnotationKey)) :
    (classifyRenewalFallback lib request issuer t).eval answer =
      (storedSecret answer ⟨request.namespace_, certificate.secretName⟩).map
        (currentCertificateState lib certificate t) := by
  unfold classifyRenewalFallback
  rw [Program.eval_bind, owner]
  change Program.eval (S := interface) answer (if _ then _ else _) = _
  rw [if_neg distinct, Program.eval_bind, readCurrentSecret_eval]
  cases storedSecret answer ⟨request.namespace_, certificate.secretName⟩ <;> rfl

variable {csrDER : Bytes} {csr : CertificateRequest} {stagedName : String} {stagedSecret : Secret} {key : Signer}

theorem loadStagedKey_matches {name : NamespacedName} {operation : Operation}
    (staged : (loadStagedKey lib name certificate csrDER operation).eval answer = .ok (stagedSecret, key))
    (parsed : lib.parseCertificateRequest csrDER = .ok csr) :
    publicKeysEqual lib key.publicKey csr.publicKey = true := by
  unfold loadStagedKey at staged
  rw [Program.eval_bind] at staged
  cases read : (readWorkloadSecret lib name "staged private-key Secret").eval answer with
  | error => rw [read] at staged; cases staged
  | ok secret =>
      rw [read] at staged
      change Program.eval (S := interface) answer (if _ then _ else _) = _ at staged
      split at staged
      · cases staged
      · rw [Program.eval_bind, eval_ofExcept] at staged
        cases matching : matchingStagedKey lib operation secret csrDER with
        | error => rw [matching] at staged; cases staged
        | ok found =>
            rw [matching] at staged
            cases staged
            obtain ⟨_, _, same, fits⟩ := matchingStagedKey_ok matching
            cases parsed.symm.trans same
            exact fits

/-- What is left of `loadKURMaterial` once the current Secret was read, for a request that has its staged
key. -/
theorem loadKURMaterial_eval
    (owner : (authorizeOwningCertificate lib request issuer .kur true).eval answer = .ok certificate)
    (named : authorizedStagedKeyName request certificate .kur = .ok stagedName)
    (staged : (loadStagedKey lib ⟨request.namespace_, stagedName⟩ certificate csrDER .kur).eval answer =
      .ok (stagedSecret, key))
    (distinct : ¬ (certificate.secretName = "" ∨ certificate.secretName = stagedName)) :
    ∃ secrets : Secret → Fingerprints, (loadKURMaterial lib request issuer csrDER).eval answer =
      match storedSecret answer ⟨request.namespace_, certificate.secretName⟩ with
      | .error fault => .error fault
      | .ok none => .error (.error (permanentConfiguration "read current certificate Secret"
          (currentCertificateUnavailable lib certificate.secretName "does not exist")))
      | .ok (some secret) =>
          match currentSecretIssuedForCertificate lib secret certificate with
          | .error err => .error (.error (permanentConfiguration "authorize KUR current certificate" err))
          | .ok () =>
              match currentProtection lib certificate.secretName secret with
              | .error err => .error (.error err)
              | .ok protection => .ok ⟨some protection, key, secrets secret⟩ := by
  refine ⟨fun secret => ((∅ : Fingerprints).insert ⟨request.namespace_, certificate.secretName⟩
    (workloadSecretFingerprint lib secret [tlsCertKey, tlsPrivateKeyKey])).insert
    ⟨request.namespace_, stagedName⟩ (workloadSecretFingerprint lib stagedSecret [tlsPrivateKeyKey]), ?_⟩
  unfold loadKURMaterial
  rw [Program.eval_bind, owner]
  change Program.eval (S := interface) answer (_ >>= _) = _
  rw [Program.eval_bind, eval_ofExcept, named]
  change Program.eval (S := interface) answer (if _ then _ else _) = _
  rw [if_neg distinct, Program.eval_bind, readCurrentSecret_eval]
  cases storedSecret answer ⟨request.namespace_, certificate.secretName⟩ with
  | error => rfl
  | ok stored =>
      cases stored with
      | none => rfl
      | some secret =>
          change Program.eval (S := interface) answer (_ >>= _) = _
          rw [Program.eval_bind, eval_ofExcept]
          dsimp only
          cases currentSecretIssuedForCertificate lib secret certificate with
          | error => rfl
          | ok =>
              change Program.eval (S := interface) answer (_ >>= _) = _
              rw [Program.eval_bind, staged]
              change Program.eval (S := interface) answer (_ >>= _) = _
              rw [Program.eval_bind, eval_ofExcept]
              dsimp only
              cases currentProtection lib certificate.secretName secret <;> rfl

/-- The protection that a key update finds in a Secret of its Certificate. -/
def FoundIn (lib : Library) (name : String) (secret : Secret) : CurrentState → Prop
  | .foreign => False
  | .empty => currentProtection lib name secret = .error (permanentConfiguration
      "parse KUR current certificate" (currentCertificateUnavailable lib name "holds no certificate"))
  | .unparsed => ∃ err, currentProtection lib name secret =
      .error (retryableConfiguration "parse KUR current certificate" err)
  | .holds current =>
      (keyFits lib secret current = true → ∃ oldKey chain,
        currentProtection lib name secret = .ok { signature := some ⟨oldKey, current, chain⟩ }) ∧
      (keyFits lib secret current = false → ∃ err, currentProtection lib name secret = .error err ∧
        err.operation ∈ ["parse KUR current private key", "validate KUR current key pair"])

theorem currentProtection_state (name : String)
    (issued : currentSecretIssuedForCertificate lib secret certificate = .ok ()) :
    FoundIn lib name secret (currentState lib certificate secret) := by
  unfold currentState FoundIn currentProtection keyFits
  rw [issued]
  dsimp only
  cases (secret.data.lookup tlsCertKey).getD [] with
  | nil => rfl
  | cons first rest =>
      dsimp only
      rcases parseCertificates lib (first :: rest) with err | _ | ⟨current, chain⟩
      · exact ⟨_, rfl⟩
      · exact ⟨_, rfl⟩
      · dsimp only
        cases parseSecretSigner lib secret tlsPrivateKeyKey with
        | error => exact ⟨by rintro ⟨⟩, fun _ => ⟨_, rfl, by simp [retryableConfiguration]⟩⟩
        | ok oldKey =>
            dsimp only
            cases validateSignerCertificate lib oldKey current with
            | error => exact ⟨by rintro ⟨⟩, fun _ => ⟨_, rfl, by simp [permanentConfiguration]⟩⟩
            | ok => exact ⟨fun _ => ⟨oldKey, chain, rfl⟩, by rintro ⟨⟩⟩

theorem reason_of_other {name : String} {err : ConfigurationError}
    (other : err.permanent = false ∨ err.operation ∈ ["authorize KUR current certificate",
      "parse KUR current private key", "validate KUR current key pair"]) :
    (KURFailure.material (.error err)).reason? lib name t = none := by
  refine if_neg ?_
  rintro (rfl | rfl) <;> simp [permanentConfiguration] at other

/-- A key update with the staged key fails on the validity of an expired certificate. -/
theorem validateKURProofs_reason {enrollment : EnrollmentRequest} {signature : SignatureProtection}
    (name : String) (reason : FallbackReason) (password : enrollment.protection.password = none)
    (signed : enrollment.protection.signature = some signature)
    (requested : enrollment.requestedPrivateKey = some key)
    (matching : publicKeysEqual lib key.publicKey csr.publicKey = true) :
    (∃ err, validateKURProofs lib enrollment csr t = .error err ∧
      (KURFailure.proofs (some signature.certificate) err).reason? lib name t = some reason) ↔
    signature.certificate.notAfter ≤ t ∧ reason = .currentCertificateExpired := by
  have found : requestedKey lib "KUR" enrollment csr = .ok key := by
    rw [requestedKey, requested]
    exact if_pos matching
  unfold validateKURProofs
  rw [password, signed]
  dsimp only
  rw [found]
  dsimp only
  constructor
  · rintro ⟨err, _, because⟩
    unfold KURFailure.reason? at because
    dsimp only at because
    split at because <;> cases because
    rename_i both
    exact ⟨both.2, rfl⟩
  · rintro ⟨expired, rfl⟩
    exact ⟨_, if_pos (.inr expired), if_pos ⟨rfl, expired⟩⟩

/-- The two verdicts on a state agree, and an unusable certificate has no fallback, exactly when an expired
certificate has become valid and has its key. -/
theorem CurrentState.verdicts_agree_iff (state : CurrentState) :
    ((∀ reason, state.fallback t = some reason ↔ state.required lib secret t = some reason) ∧
      (state.Unusable lib secret t → state.fallback t = none)) ↔
    ∀ current, state = .holds current → current.notAfter ≤ t →
      current.notBefore ≤ t ∧ keyFits lib secret current = true := by
  cases state with
  | foreign | unparsed => exact iff_of_true ⟨fun _ => Iff.rfl, fun _ => rfl⟩ (by rintro _ ⟨⟩)
  | empty => exact iff_of_true ⟨fun _ => Iff.rfl, False.elim⟩ (by rintro _ ⟨⟩)
  | holds current =>
      by_cases expired : current.notAfter ≤ t
      · have falls : (CurrentState.holds current).fallback t = some .currentCertificateExpired :=
          if_neg (not_lt.mpr expired)
        rw [falls]
        constructor
        · rintro ⟨reasons, unusable⟩ _ ⟨⟩ _
          have requires := (reasons .currentCertificateExpired).mp rfl
          unfold CurrentState.required at requires
          dsimp only at requires
          split at requires
          · rename_i fits
            refine ⟨not_lt.mp fun early => ?_, fits.1⟩
            cases unusable (.inl early)
          · cases requires
        · intro intact
          obtain ⟨begun, fits⟩ := intact current rfl expired
          rw [show (CurrentState.holds current).required lib secret t = some .currentCertificateExpired from
            if_pos ⟨fits, expired⟩]
          refine ⟨fun _ => Iff.rfl, ?_⟩
          rintro (early | unfit)
          · exact absurd early (not_lt.mpr begun)
          · rw [fits] at unfit
            cases unfit
      · have falls : (CurrentState.holds current).fallback t = none := if_pos (not_le.mp expired)
        have requires : (CurrentState.holds current).required lib secret t = none :=
          if_neg fun h => expired h.2
        rw [falls, requires]
        refine iff_of_true ⟨fun _ => Iff.rfl, fun _ => rfl⟩ ?_
        rintro _ ⟨⟩ late
        exact absurd late expired

section
variable {enrollment : EnrollmentRequest}

theorem kurRenewal_unprepared {reason : FallbackReason} {err : ConfigurationError} {found : Option FallbackReason}
    (failed : (loadKURMaterial lib request issuer csrDER).eval answer = .error (.error err))
    (because : (KURFailure.material (.error err)).reason? lib certificate.secretName t = found) :
    (∃ failure, kurRenewal lib answer request issuer csrDER csr enrollment t = .error failure ∧
      failure.reason? lib certificate.secretName t = some reason) ↔ found = some reason := by
  subst because
  unfold kurRenewal
  rw [failed]
  simp

theorem kurRenewal_prepared {reason : FallbackReason} {signature : SignatureProtection} {secrets : Fingerprints}
    (loaded : (loadKURMaterial lib request issuer csrDER).eval answer =
      .ok ⟨some { signature := some signature }, key, secrets⟩)
    (matching : publicKeysEqual lib key.publicKey csr.publicKey = true) :
    (∃ failure, kurRenewal lib answer request issuer csrDER csr enrollment t = .error failure ∧
      failure.reason? lib certificate.secretName t = some reason) ↔
    signature.certificate.notAfter ≤ t ∧ reason = .currentCertificateExpired := by
  rw [← @validateKURProofs_reason lib t csr key { enrollment with
    protection := { signature := some signature }, requestedPrivateKey := some key } signature
    certificate.secretName reason rfl rfl rfl matching]
  unfold kurRenewal
  rw [loaded]
  dsimp only [Option.getD_some, Option.map_some]
  constructor
  · rintro ⟨failure, failed, because⟩
    obtain ⟨err, unproved, rfl⟩ := mapError_eq_error.mp failed
    exact ⟨err, unproved, because⟩
  · rintro ⟨err, failed, because⟩
    exact ⟨_, mapError_eq_error.mpr ⟨err, failed, rfl⟩, because⟩

theorem kurRenewal_issued {reason : FallbackReason} {secrets : Fingerprints}
    (evaluated : (loadKURMaterial lib request issuer csrDER).eval answer =
      match currentProtection lib certificate.secretName secret with
      | .error err => .error (.error err)
      | .ok protection => .ok ⟨some protection, key, secrets⟩)
    (found : FoundIn lib certificate.secretName secret (currentState lib certificate secret))
    (matching : publicKeysEqual lib key.publicKey csr.publicKey = true) :
    (∃ failure, kurRenewal lib answer request issuer csrDER csr enrollment t = .error failure ∧
      failure.reason? lib certificate.secretName t = some reason) ↔
    (currentState lib certificate secret).required lib secret t = some reason := by
  generalize currentState lib certificate secret = state at found ⊢
  cases state with
  | foreign => exact found.elim
  | empty =>
      rw [show currentProtection _ _ _ = _ from found] at evaluated
      exact kurRenewal_unprepared evaluated (if_pos (.inr rfl))
  | unparsed =>
      obtain ⟨err, protection⟩ := found
      rw [protection] at evaluated
      exact kurRenewal_unprepared evaluated (reason_of_other (.inl rfl))
  | holds current =>
      cases fits : keyFits lib secret current with
      | false =>
          obtain ⟨err, protection, operation⟩ := found.2 fits
          rw [protection] at evaluated
          rw [show (CurrentState.holds current).required lib secret t = none from if_neg (by simp [fits])]
          exact kurRenewal_unprepared evaluated (reason_of_other (.inr (List.mem_cons_of_mem _ operation)))
      | true =>
          obtain ⟨oldKey, chain, protection⟩ := found.1 fits
          rw [protection] at evaluated
          refine (kurRenewal_prepared evaluated matching).trans ?_
          by_cases expired : current.notAfter ≤ t
          · rw [show (CurrentState.holds current).required lib secret t = some .currentCertificateExpired from
              if_pos ⟨fits, expired⟩, Option.some.injEq]
            exact ⟨fun h => h.2.symm, fun h => ⟨expired, h.symm⟩⟩
          · rw [show (CurrentState.holds current).required lib secret t = none from
              if_neg fun h => expired h.2]
            exact iff_of_false (fun h => expired h.1) (by rintro ⟨⟩)

/-- When a key update fails for want of a certificate to authenticate with. -/
theorem kurRenewal_reason (enrollment : EnrollmentRequest) (reason : FallbackReason)
    (owner : (authorizeOwningCertificate lib request issuer .kur true).eval answer = .ok certificate)
    (named : authorizedStagedKeyName request certificate .kur = .ok stagedName)
    (staged : (loadStagedKey lib ⟨request.namespace_, stagedName⟩ certificate csrDER .kur).eval answer =
      .ok (stagedSecret, key))
    (parsed : lib.parseCertificateRequest csrDER = .ok csr)
    (distinct : ¬ (certificate.secretName = "" ∨ certificate.secretName = stagedName)) :
    (∃ failure, kurRenewal lib answer request issuer csrDER csr enrollment t = .error failure ∧
      failure.reason? lib certificate.secretName t = some reason) ↔
    (match storedSecret answer ⟨request.namespace_, certificate.secretName⟩ with
    | .error _ => none
    | .ok none => some .currentCertificateMissing
    | .ok (some secret) => (currentState lib certificate secret).required lib secret t) = some reason := by
  obtain ⟨secrets, evaluated⟩ := loadKURMaterial_eval owner named staged distinct
  cases stored : storedSecret answer ⟨request.namespace_, certificate.secretName⟩ with
  | error fault =>
      rw [stored] at evaluated
      obtain ⟨err, rfl, retryable⟩ := storedSecret_error stored
      exact kurRenewal_unprepared evaluated (reason_of_other (.inl retryable))
  | ok read =>
      rw [stored] at evaluated
      cases read with
      | none => exact kurRenewal_unprepared evaluated (if_pos (.inl rfl))
      | some secret =>
          dsimp only at evaluated ⊢
          cases issued : currentSecretIssuedForCertificate lib secret certificate with
          | error err =>
              rw [issued] at evaluated
              have foreign : currentState lib certificate secret = .foreign := by rw [currentState, issued]
              rw [foreign]
              refine kurRenewal_unprepared evaluated (reason_of_other (.inr ?_))
              simp [permanentConfiguration]
          | ok =>
              rw [issued] at evaluated
              exact kurRenewal_issued evaluated (currentProtection_state certificate.secretName issued)
                (loadStagedKey_matches staged parsed)

/-- A Certificate that names no Secret of its own has no fallback, and no key update. -/
theorem agrees_of_same
    (owner : (authorizeOwningCertificate lib request issuer .kur true).eval answer = .ok certificate)
    (named : authorizedStagedKeyName request certificate .kur = .ok stagedName)
    (same : certificate.secretName = "" ∨ certificate.secretName = stagedName) :
    FallbackAgrees lib answer request issuer certificate csrDER csr enrollment t := by
  have classified : (classifyRenewalFallback lib request issuer t).eval answer = .ok none := by
    unfold classifyRenewalFallback
    rw [Program.eval_bind, owner, (authorizedStagedKeyName_ok named).2.1]
    change Program.eval (S := interface) answer (if _ then _ else _) = _
    rw [if_pos same]
    rfl
  have failed : (loadKURMaterial lib request issuer csrDER).eval answer =
      .error (.error (permanentConfiguration "authorize KUR current certificate"
        (.text "certificate current and staged Secret names must be distinct"))) := by
    unfold loadKURMaterial
    rw [Program.eval_bind, owner]
    change Program.eval (S := interface) answer (_ >>= _) = _
    rw [Program.eval_bind, eval_ofExcept, named]
    change Program.eval (S := interface) answer (if _ then _ else _) = _
    rw [if_pos same]
    rfl
  refine ⟨fun reason => ?_, fun _ _ _ => classified⟩
  rw [classified, kurRenewal_unprepared failed (reason_of_other (.inr (by simp [permanentConfiguration])))]
  simp

/-- The judgement that leads to the fallback is the one the key update comes to, exactly when an expired
certificate has become valid and matches the private key beside it. -/
theorem renewal_fallback_agrees_iff
    (owner : (authorizeOwningCertificate lib request issuer .kur true).eval answer = .ok certificate)
    (named : authorizedStagedKeyName request certificate .kur = .ok stagedName)
    (staged : (loadStagedKey lib ⟨request.namespace_, stagedName⟩ certificate csrDER .kur).eval answer =
      .ok (stagedSecret, key))
    (parsed : lib.parseCertificateRequest csrDER = .ok csr) :
    FallbackAgrees lib answer request issuer certificate csrDER csr enrollment t ↔
      (certificate.secretName ≠ "" → certificate.secretName ≠ stagedName → ∀ secret current,
        answer (.getSecret ⟨request.namespace_, certificate.secretName⟩) = .ok secret →
        currentState lib certificate secret = .holds current → current.notAfter ≤ t →
        current.notBefore ≤ t ∧ keyFits lib secret current = true) := by
  by_cases same : certificate.secretName = "" ∨ certificate.secretName = stagedName
  · refine iff_of_true (agrees_of_same owner named same) fun unnamed unstaged => ?_
    exact absurd same (not_or.mpr ⟨unnamed, unstaged⟩)
  have update := fun reason => kurRenewal_reason (t := t) enrollment reason owner named staged parsed same
  have classified := classify_eval (t := t) owner (by rwa [(authorizedStagedKeyName_ok named).2.1])
  cases stored : answer (.getSecret ⟨request.namespace_, certificate.secretName⟩) with
  | error err =>
      refine iff_of_true ⟨fun reason => ?_, ?_⟩ (by rintro _ _ _ _ ⟨⟩)
      · rw [update, classified, storedSecret, stored]
        dsimp only
        split <;> simp [currentCertificateState, Except.map, eq_comm]
      · intro secret found
        cases stored.symm.trans found
  | ok secret =>
      have read : storedSecret answer ⟨request.namespace_, certificate.secretName⟩ = .ok (some secret) := by
        rw [storedSecret, stored]
      rw [read, Except.map, currentCertificateState_some] at classified
      simp only [read] at update
      calc FallbackAgrees lib answer request issuer certificate csrDER csr enrollment t
        _ ↔ (∀ reason, (currentState lib certificate secret).fallback t = some reason ↔
              (currentState lib certificate secret).required lib secret t = some reason) ∧
            ((currentState lib certificate secret).Unusable lib secret t →
              (currentState lib certificate secret).fallback t = none) := by
          constructor
          · rintro ⟨reasons, unusable⟩
            simp only [classified, update, Except.ok.injEq] at reasons unusable
            exact ⟨reasons, unusable secret stored⟩
          · rintro ⟨reasons, unusable⟩
            refine ⟨fun reason => ?_, fun found same => ?_⟩
            · rw [classified, update, Except.ok.injEq]
              exact reasons reason
            · cases stored.symm.trans same
              rw [classified, Except.ok.injEq]
              exact unusable
        _ ↔ _ := CurrentState.verdicts_agree_iff _
        _ ↔ _ := by
          constructor
          · rintro intact _ _ _ current ⟨⟩
            exact intact current
          · exact fun intact current => intact (fun h => same (.inl h)) (fun h => same (.inr h)) secret current rfl

end

end

/-- The issuer of the sample deployment with the fallback. -/
def fallbackIssuer : Issuer :=
  { irIssuer with spec := { irIssuer.spec with protocol := { irIssuer.spec.protocol with
      renewalFallback := .value .initialEnrollment } } }

/-- The answers of the sample deployment with a Certificate to be renewed. -/
def renewalAnswer : (o : Op) → o.Answer := fun o => ((renewalDeployment none []).respond o).1

/-- The certificate of the deployment falls back from the instant of its expiry on. -/
theorem renewal_fallback_agrees_iff_expired :
    (classifyRenewalFallback plainLibrary kurObject fallbackIssuer 100).eval renewalAnswer =
      .ok (some .currentCertificateExpired) ∧
    FallbackAgrees plainLibrary renewalAnswer kurObject fallbackIssuer renewedCertificate [1]
      ⟨[1], [], .other [7], []⟩ plainRequest 100 := by
  have owner : (authorizeOwningCertificate plainLibrary kurObject fallbackIssuer .kur true).eval renewalAnswer =
      .ok renewedCertificate := rfl
  have named : authorizedStagedKeyName kurObject renewedCertificate .kur = .ok "staged" := rfl
  have staged : (loadStagedKey plainLibrary ⟨kurObject.namespace_, "staged"⟩ renewedCertificate [1] .kur).eval
      renewalAnswer = .ok (stagedSecret, ⟨[7], .other [7]⟩) := rfl
  refine ⟨by decide +kernel, (renewal_fallback_agrees_iff owner named staged rfl).mpr ?_⟩
  rintro _ _ _ _ ⟨⟩ ⟨⟩ _
  decide +kernel

/-- A library in which the private key of the current Secret belongs to another certificate. -/
def mismatchedLibrary : Library :=
  { plainLibrary with
    parsePKCS8PrivateKey := fun data => .ok (.signer ⟨data, .other (if data = [6] then [8] else [7])⟩) }

/-- A renewal falls back from an expired certificate that does not match its private key. The key update
reports the mismatch. -/
theorem mismatched_key_falls_back :
    renewalFallbackOperation fallbackIssuer = .ir ∧
    (authorizeOwningCertificate mismatchedLibrary kurObject fallbackIssuer .kur true).eval renewalAnswer =
      .ok renewedCertificate ∧
    (loadStagedKey mismatchedLibrary ⟨"default", "staged"⟩ renewedCertificate [1] .kur).eval renewalAnswer =
      .ok (stagedSecret, ⟨[7], .other [7]⟩) ∧
    (classifyRenewalFallback mismatchedLibrary kurObject fallbackIssuer 100).eval renewalAnswer =
      .ok (some .currentCertificateExpired) ∧
    (loadKURMaterial mismatchedLibrary kurObject fallbackIssuer [1]).eval renewalAnswer =
      .error (.error (permanentConfiguration "validate KUR current key pair"
        (.text "private key does not match certificate public key"))) ∧
    ¬ FallbackAgrees mismatchedLibrary renewalAnswer kurObject fallbackIssuer renewedCertificate [1]
      ⟨[1], [], .other [7], []⟩ plainRequest 100 := by
  have falls : (classifyRenewalFallback mismatchedLibrary kurObject fallbackIssuer 100).eval renewalAnswer =
      .ok (some .currentCertificateExpired) := by decide +kernel
  refine ⟨by decide, rfl, rfl, falls, rfl, fun agrees => ?_⟩
  cases falls.symm.trans (agrees.unusable currentSecret rfl (.inr (by decide +kernel)))

end CmpIssuer
