import CmpIssuer.Guarantee.Catalogue
import CmpIssuer.Guarantee.Content
import CmpIssuer.Guarantee.Resume

/-!
`Check`, on whose verdict an issuer becomes Ready, against what `Sign` does. `Sign`
sends nothing for an issuer that `Check` refuses, and nothing over plain HTTP that
`Check` has not warned of. What `Check` calls permanent lies in the spec, so no
change of the Secrets mends it.
-/
namespace CmpIssuer
open Effect

inductive ConditionStatus where
  | conditionTrue | conditionFalse | conditionUnknown
  deriving DecidableEq, Repr

/-- A condition of an issuer, as far as `Check` reads it. -/
structure IssuerCondition where
  observedGeneration : Int
  status : ConditionStatus
  deriving DecidableEq, Repr

/-- An Event about an issuer. -/
structure IssuerEvent where
  type : String
  reason : String
  action : String
  note : String
  deriving DecidableEq, Repr

def eventHTTPNoConfidential : String := "HTTPTransportNoConfidentiality"

/-- The Warning of `Check`. -/
def httpWarning : IssuerEvent where
  type := "Warning"
  reason := eventHTTPNoConfidential
  action := "TransportSecurity"
  note := "CMP message authentication and integrity are active but HTTP transport confidentiality is absent"

/-- `shouldEmitHTTPWarning`, on the Ready condition that issuer-lib finds. -/
def shouldEmitHTTPWarning (issuer : Issuer) (ready : Option IssuerCondition) : Bool :=
  match ready with
  | none => true
  | some ready => ready.observedGeneration < issuer.generation || ready.status ≠ .conditionTrue

/-- The error `Check` returns for a configuration that cannot be loaded. -/
def ConfigurationError.checkError (err : ConfigurationError) : GoError :=
  if err.permanent then .permanent err.goError else err.goError

/-- `Check`. Its result is the Event it emits. -/
def check (lib : Library) (clusterResourceNamespace : String) (issuer : Issuer)
    (ready : Option IssuerCondition) : Go GoError (Option IssuerEvent) := do
  let configuration ← (loadRuntimeConfiguration lib clusterResourceNamespace issuer).mapError
    (Fault.map ConfigurationError.checkError)
  if configuration.endpointScheme = schemeHTTP ∧ shouldEmitHTTPWarning issuer ready then
    return some httpWarning
  else return none

/-- The issuer is Ready in its present generation. -/
def ReadyNow (issuer : Issuer) (ready : Option IssuerCondition) : Prop :=
  ∃ condition, ready = some condition ∧ issuer.generation ≤ condition.observedGeneration ∧
    condition.status = .conditionTrue

theorem shouldEmitHTTPWarning_iff (issuer : Issuer) (ready : Option IssuerCondition) :
    shouldEmitHTTPWarning issuer ready = true ↔ ¬ ReadyNow issuer ready := by
  cases ready with
  | none => simp [shouldEmitHTTPWarning, ReadyNow]
  | some condition =>
      simp only [shouldEmitHTTPWarning, ReadyNow, Bool.or_eq_true, decide_eq_true_eq, Option.some.injEq,
        exists_eq_left', not_and_or, not_le, ne_eq]

section
variable {lib : Library} {clusterResourceNamespace : String} {issuer : Issuer}

/-- `Check` passes where the configuration loads, and warns for plain HTTP until the issuer is Ready. -/
theorem check_eval_ok_iff {answer : (o : Op) → o.Answer} {ready : Option IssuerCondition}
    {event : Option IssuerEvent} :
    (check lib clusterResourceNamespace issuer ready).eval answer = .ok event ↔
      ∃ configuration, (loadRuntimeConfiguration lib clusterResourceNamespace issuer).eval answer =
        .ok configuration ∧ event =
          if configuration.endpointScheme = schemeHTTP ∧ shouldEmitHTTPWarning issuer ready then some httpWarning
          else none := by
  unfold check
  rw [Program.eval_bind, Program.eval_mapError]
  cases (loadRuntimeConfiguration lib clusterResourceNamespace issuer).eval answer with
  | error fault => exact ⟨nofun, by rintro ⟨_, ⟨⟩, _⟩⟩
  | ok configuration =>
      simp only [Except.mapError, Except.bind, Except.ok.injEq, exists_eq_left']
      split <;> exact ⟨fun same => (Except.ok.inj same).symm, fun same => congrArg Except.ok same.symm⟩

theorem validateEndpoint_url {spec : EndpointSpec} {endpoint : URL} (h : validateEndpoint lib spec = .ok endpoint) :
    validateEndpointURL lib spec.url = .ok endpoint := by
  unfold validateEndpoint at h
  split at h
  · cases h
  · rename_i url validated
    split at h
    · cases h
    · cases h
      exact validated

theorem validateSpec_endpoint {spec : CMPIssuerSpec} {endpoint : URL} (h : validateSpec lib spec = .ok endpoint) :
    validateEndpointURL lib spec.endpoint.url = .ok endpoint := by
  unfold validateSpec at h
  cases validated : validateEndpoint lib spec.endpoint with
  | error err =>
      rw [validated] at h
      cases h
  | ok url =>
      rw [validated] at h
      simp only [bind, Except.bind] at h
      -- The checks after the endpoint only decide whether it is returned.
      repeat
        split at h
        · cases h
      cases h
      exact validateEndpoint_url validated

/-- What a configuration says about the transport of the messages it is for. -/
structure Transported (lib : Library) (spec : CMPIssuerSpec) (configuration : RuntimeConfiguration) : Prop where
  valid : ∀ operation, ∃ url, validateEndpointURL lib (selectedEndpoint spec operation) = .ok url
  plain : configuration.endpointScheme = schemeHTTP ↔
    ∃ operation url, validateEndpointURL lib (selectedEndpoint spec operation) = .ok url ∧ url.scheme = schemeHTTP

theorem selectedEndpoint_cases (spec : CMPIssuerSpec) (operation : Operation) :
    selectedEndpoint spec operation = spec.endpoint.url ∨
      spec.endpoint.renewalURL ≠ "" ∧ selectedEndpoint spec operation = spec.endpoint.renewalURL := by
  unfold selectedEndpoint
  split
  · rename_i update
    exact .inr ⟨update.2, rfl⟩
  · exact .inl rfl

theorem renewalScheme_configured {spec : EndpointSpec} {renewal : String} (configured : spec.renewalURL ≠ "")
    (scheme : renewalScheme lib spec = .ok renewal) :
    ∃ url, validateEndpointURL lib spec.renewalURL = .ok url ∧ url.scheme = renewal := by
  rw [renewalScheme, if_neg configured] at scheme
  cases renewed : validateEndpointURL lib spec.renewalURL with
  | error err =>
      rw [renewed] at scheme
      cases scheme
  | ok url =>
      rw [renewed] at scheme
      cases scheme
      exact ⟨url, rfl, rfl⟩

theorem transported_of {spec : CMPIssuerSpec} {configuration : RuntimeConfiguration} {endpoint : URL}
    {renewal : String} (validated : validateEndpointURL lib spec.endpoint.url = .ok endpoint)
    (scheme : renewalScheme lib spec.endpoint = .ok renewal)
    (same : configuration.endpointScheme = if renewal = schemeHTTP then schemeHTTP else endpoint.scheme) :
    Transported lib spec configuration where
  valid := by
    intro operation
    rcases selectedEndpoint_cases spec operation with usual | ⟨configured, update⟩
    · exact ⟨endpoint, usual ▸ validated⟩
    · obtain ⟨url, renewed, _⟩ := renewalScheme_configured configured scheme
      exact ⟨url, update ▸ renewed⟩
  plain := by
    rw [same]
    constructor
    · intro plain
      split at plain
      · rename_i http
        have configured : spec.endpoint.renewalURL ≠ "" := by
          intro unset
          rw [renewalScheme, if_pos unset, http] at scheme
          exact absurd scheme (by decide)
        obtain ⟨url, renewed, rfl⟩ := renewalScheme_configured configured scheme
        have update : selectedEndpoint spec .kur = spec.endpoint.renewalURL := if_pos ⟨rfl, configured⟩
        exact ⟨.kur, url, update ▸ renewed, http⟩
      · have usual : selectedEndpoint spec .p10cr = spec.endpoint.url := if_neg (by rintro ⟨⟨⟩, _⟩)
        exact ⟨.p10cr, endpoint, usual ▸ validated, plain⟩
    · rintro ⟨operation, url, known, plain⟩
      rcases selectedEndpoint_cases spec operation with usual | ⟨configured, update⟩
      · rw [usual, validated] at known
        cases known
        rw [plain, ite_self]
      · obtain ⟨_, renewed, rfl⟩ := renewalScheme_configured configured scheme
        rw [update, renewed] at known
        cases known
        exact if_pos plain

theorem loadRuntimeConfiguration_transported (lib : Library) (clusterResourceNamespace : String) (issuer : Issuer) :
    Ends (Transported lib issuer.spec) (fun _ => True)
      (loadRuntimeConfiguration lib clusterResourceNamespace issuer) := by
  unfold loadRuntimeConfiguration
  refine ends_outcome ?_
  rintro ⟨spec, namespace_⟩ resolved
  rw [mapError_eq_ok] at resolved
  obtain rfl := issuerSpecAndNamespace_ok resolved
  refine ends_outcome fun endpoint validated => ends_after fun anchors => ends_after fun signers => ?_
  refine ends_outcome fun renewal scheme => ends_after fun roots => ends_after fun protection => ?_
  refine ends_after fun recipient => ends_after fun sender => ends_after fun digest => ?_
  refine ends_after fun configurationDigest => ?_
  rw [mapError_eq_ok] at validated scheme
  exact transported_of (validateSpec_endpoint validated) scheme rfl

/-- A `Check` that passes warns exactly when some endpoint of the issuer is a plain HTTP one, until the issuer
is Ready. -/
theorem check_warns_iff {answer : (o : Op) → o.Answer} {ready : Option IssuerCondition}
    {event : Option IssuerEvent} (unready : ¬ ReadyNow issuer ready)
    (passes : (check lib clusterResourceNamespace issuer ready).eval answer = .ok event) :
    event = some httpWarning ↔ ∃ operation url,
      validateEndpointURL lib (selectedEndpoint issuer.spec operation) = .ok url ∧ url.scheme = schemeHTTP := by
  obtain ⟨configuration, loaded, rfl⟩ := check_eval_ok_iff.mp passes
  have transported : Transported lib issuer.spec configuration := by
    have settled := (loadRuntimeConfiguration_transported lib clusterResourceNamespace issuer).eval answer
    rwa [loaded] at settled
  rw [← transported.plain]
  simp [(shouldEmitHTTPWarning_iff issuer ready).mpr unready]

end

section
variable {lib : Library} {job : Job} {t : Trail} {sent : HTTPRequest} {next : HTTPAnswer → Go GoError Bytes}
  (path : Path (sign lib job.clusterResourceNamespace job.request job.issuer) t (.op (.send sent) next))
include path

/-- The configuration behind a message was loaded by the call that sends it. -/
theorem sent_loading : ∃ reads configuration, reads ⊆ t ∧
    Path (loadRuntimeConfiguration lib job.clusterResourceNamespace job.issuer) reads (.pure configuration) := by
  obtain ⟨_, call, before, _, passed, _⟩ := sign_speaks path
  obtain ⟨rest, handing⟩ := path.reached passed
  obtain ⟨u, v, hold, csrDER, started, prepared, rfl, underway, _⟩ := sign_continues rfl handing
  obtain ⟨first, reads, between, work, last, configuration, rfl, loading, _⟩ := underway.preparation
  refine ⟨reads, configuration, fun e member => passed.subset ?_, loading⟩
  simp [member]

theorem sent_endpoint : ∃ operation, sent.endpoint = selectedEndpoint job.issuer.spec operation := by
  obtain ⟨hold, call, serving, sentFor⟩ := Sends.serving ((sign_follows lib job).allows path)
  obtain ⟨before, _, _, _, hands, _⟩ := (sign_sound path).handed hold call serving
  have endpoint := hands.enrolls.endpoint
  rw [contract_run_job] at endpoint
  exact ⟨_, sentFor.endpoint.trans (call.request_endpointURL.trans endpoint)⟩

/-- A message goes to a valid endpoint of its issuer, and none is sent for an issuer that `Check` refuses on
the Secrets the call has read. A `Check` that passes before the issuer is Ready warns of every message that
goes out over plain HTTP. -/
theorem messages_pass_check :
    ∃ operation url, sent.endpoint = selectedEndpoint job.issuer.spec operation ∧
      validateEndpointURL lib sent.endpoint = .ok url ∧
      (∀ answer ready, ShownBy answer t →
        ∃ event, (check lib job.clusterResourceNamespace job.issuer ready).eval answer = .ok event) ∧
      ∀ answer ready event, ¬ ReadyNow job.issuer ready → url.scheme = schemeHTTP →
        (check lib job.clusterResourceNamespace job.issuer ready).eval answer = .ok event →
          event = some httpWarning := by
  obtain ⟨operation, endpoint⟩ := sent_endpoint path
  obtain ⟨reads, configuration, within, loading⟩ := sent_loading path
  have transported : Transported lib job.issuer.spec configuration :=
    (loadRuntimeConfiguration_transported lib _ _).path (r := .ok configuration) loading
  obtain ⟨url, valid⟩ := transported.valid operation
  refine ⟨operation, url, endpoint, endpoint ▸ valid, fun answer ready shown => ?_,
    fun answer ready event unready plain passes => ?_⟩
  · have value : (loadRuntimeConfiguration lib job.clusterResourceNamespace job.issuer).eval answer =
        .ok configuration := by
      refine Path.evaluated (r := .ok configuration) loading fun e member => shown e (within member) ?_
      exact (loadRuntimeConfiguration_looks (t := [])).quiet loading e member
    exact ⟨_, check_eval_ok_iff.mpr ⟨configuration, value, rfl⟩⟩
  · exact (check_warns_iff unready passes).mpr ⟨operation, url, valid, plain⟩

end

/-- The first message of an issuer with a plain HTTP endpoint, and the Event of its first `Check`. -/
theorem messages_pass_check_plain : ∃ t sent, (∃ next, Path (sign plainLibrary plainJob.clusterResourceNamespace
      plainJob.request plainJob.issuer) t (.op (.send sent) next)) ∧
    (check plainLibrary plainJob.clusterResourceNamespace plainJob.issuer none).eval
      (plainDeployment none []).shows = .ok (some httpWarning) := by
  have sends : ((plainDeployment none []).run plainLibrary plainJob 11).2.2.next?.bind Op.message? ≠ none := by
    decide +kernel
  obtain ⟨sent, named⟩ := Option.ne_none_iff_exists'.mp sends
  obtain ⟨o, next, message⟩ := Option.bind_eq_some_iff.mp named
  obtain rfl := Op.eq_send message
  obtain ⟨rest, path⟩ := (plainDeployment none []).run_next plainLibrary plainJob 11 next
  obtain ⟨_, url, _, valid, passes, warns⟩ := messages_pass_check path
  obtain ⟨event, passed⟩ := passes _ none (Deployment.runAs_shown ⟨rfl, rfl⟩ 0 plainLibrary plainJob 11).1
  have plain : url.scheme = schemeHTTP := by
    cases valid
    rfl
  refine ⟨_, sent, ⟨rest, path⟩, ?_⟩
  rw [passed, warns _ none event (by rintro ⟨_, ⟨⟩, _⟩) plain passed]

/-- What a spec has to get right whatever the Secrets hold. -/
structure WellFormed (lib : Library) (clusterResourceNamespace : String) (issuer : Issuer) : Prop where
  resolved : ∃ out, issuerSpecAndNamespace clusterResourceNamespace issuer = .ok out
  valid : ∃ endpoint, validateSpec lib issuer.spec = .ok endpoint
  signers : ∀ reference, issuer.spec.cmpTrust.signerCertificatesSecretRef = some reference →
    reference.name ≠ "" ∧ reference.key ≠ ""
  renewal : ∃ scheme, renewalScheme lib issuer.spec.endpoint = .ok scheme
  algorithms : ∀ password, issuer.spec.protection.passwordBasedMac = some password →
    ∃ out, passwordBasedMacAlgorithms password.algorithm = .ok out
  recipient : ∃ name, parseDistinguishedName lib issuer.spec.protocol.recipient = .ok name
  sender : ∃ name, configuredSender lib issuer.spec.protocol = .ok name
  digest : ∃ digest, signatureDigest issuer.spec.protocol.signatureDigest = .ok digest

/-- A permanent error means that something else than the Secrets is wrong. -/
def ConfigurationError.Final (W : Prop) (err : ConfigurationError) : Prop := err.permanent = true → ¬ W

section
variable {lib : Library} {W : Prop} {α β : Type}

theorem final_retryable (operation : String) (err : PlainError) :
    (retryableConfiguration operation err).Final W := nofun

theorem settles_final_bind {V : α → Prop} {V' : β → Prop} {r : Except ConfigurationError α}
    {f : α → Except ConfigurationError β} (first : Settles V (ConfigurationError.Final W) r)
    (rest : ∀ a, V a → Settles V' (ConfigurationError.Final W) (f a)) :
    Settles V' (ConfigurationError.Final W) (r >>= f) := by
  cases r with
  | error err => exact first
  | ok a => exact rest a first

theorem settles_retryable (operation : String) (r : Except PlainError α) :
    Settles (fun a => r = .ok a) (ConfigurationError.Final W) (r.mapError (retryableConfiguration operation)) := by
  cases r with
  | error err => exact final_retryable operation err
  | ok a => rfl

theorem settles_needed {r : Except ConfigurationError α} (needs : W → ∃ a, r = .ok a) :
    Settles (fun a => r = .ok a) (ConfigurationError.Final W) r := by
  cases r with
  | error err =>
      intro _ well
      obtain ⟨_, ⟨⟩⟩ := needs well
  | ok a => rfl

theorem settles_permanent (operation : String) {r : Except PlainError α} (needs : W → ∃ a, r = .ok a) :
    Settles (fun a => r = .ok a) (ConfigurationError.Final W) (r.mapError (permanentConfiguration operation)) := by
  have settled := settles_needed (r := r.mapError (permanentConfiguration operation)) (W := W)
  simp only [mapError_eq_ok] at settled
  exact settled needs

theorem ends_settled_bind {V : α → Prop} {V' : β → Prop} {r : Except ConfigurationError α}
    {f : α → Go ConfigurationError β} (first : Settles V (ConfigurationError.Final W) r)
    (rest : ∀ a, V a → Ends V' (Raised (ConfigurationError.Final W)) (f a)) :
    Ends V' (Raised (ConfigurationError.Final W)) (ofExcept r >>= f) := by
  cases r with
  | error err => exact first
  | ok a => exact rest a first

theorem readCredentialSecret_final {namespace_ name : String} {secrets : SecretCache} :
    Ends (fun _ => True) (Raised (ConfigurationError.Final W))
      (readCredentialSecret lib namespace_ name secrets) := by
  unfold readCredentialSecret
  dsimp only
  split
  · trivial
  · refine ends_perform_bind.mpr fun answer => ?_
    cases answer with
    | ok => trivial
    | error err =>
        dsimp only
        split <;> exact final_retryable _ _

theorem loadCertificates_final {contents namespace_ : String} {reference : SecretKeyReference}
    {secrets : SecretCache} :
    Ends (fun _ => True) (Raised (ConfigurationError.Final W))
      (loadCertificates lib contents namespace_ reference secrets) := by
  refine readCredentialSecret_final.bind ?_
  rintro ⟨secret, secrets⟩ _
  refine ends_settled_bind (settles_retryable _ _) fun data _ => ?_
  exact ends_settled_bind (settles_retryable _ _) fun certificates _ => trivial

theorem loadResponseCertificates_final {namespace_ : String} {reference : Option SecretKeyReference}
    {secrets : SecretCache} (needs : W → ∀ named, reference = some named → named.name ≠ "" ∧ named.key ≠ "") :
    Ends (fun _ => ∀ named, reference = some named → named.name ≠ "" ∧ named.key ≠ "")
      (Raised (ConfigurationError.Final W)) (loadResponseCertificates lib namespace_ reference secrets) := by
  unfold loadResponseCertificates
  split
  · rintro _ ⟨⟩
  · split
    · rename_i named missing
      intro _ well
      obtain ⟨name, key⟩ := needs well named rfl
      exact missing.elim name key
    · rename_i named complete
      refine loadCertificates_final.mono (fun _ _ => ?_) fun _ raised => raised
      rintro _ ⟨⟩
      exact not_or.mp complete

theorem loadTLSRoots_final {namespace_ : String} {spec : CMPIssuerSpec} {usesHTTPS : Bool}
    {secrets : SecretCache} :
    Ends (fun _ => True) (Raised (ConfigurationError.Final W))
      (loadTLSRoots lib namespace_ spec usesHTTPS secrets) := by
  unfold loadTLSRoots
  split
  · exact loadCertificates_final.bind fun _ _ => trivial
  · trivial

theorem passwordProtection_final {password : PasswordBasedMacSpec} {secret : Secret}
    (needs : W → ∃ out, passwordBasedMacAlgorithms password.algorithm = .ok out) :
    Settles (fun _ => ∃ out, passwordBasedMacAlgorithms password.algorithm = .ok out)
      (ConfigurationError.Final W) (passwordProtection lib password secret) := by
  refine settles_final_bind (settles_retryable _ _) fun reference _ => ?_
  refine settles_final_bind (settles_retryable _ _) fun sharedSecret _ => ?_
  exact settles_final_bind (settles_permanent _ needs) fun algorithms known => ⟨algorithms, known⟩

theorem bootstrapCertificate_final {data : Bytes} :
    Settles (fun _ => True) (ConfigurationError.Final W) (bootstrapCertificate lib data) := by
  unfold bootstrapCertificate
  split
  · trivial
  · exact final_retryable _ _
  · exact final_retryable _ _

theorem signatureProtection_final {signature : SignatureProtectionSpec} {secret : Secret} :
    Settles (fun _ => True) (ConfigurationError.Final W) (signatureProtection lib signature secret) := by
  refine settles_final_bind (settles_retryable _ _) fun certificateData _ => ?_
  refine settles_final_bind bootstrapCertificate_final fun certificate _ => ?_
  refine settles_final_bind (settles_retryable _ _) fun privateKeyData _ => ?_
  refine settles_final_bind (settles_retryable _ _) fun privateKey _ => ?_
  refine settles_final_bind (settles_retryable _ _) fun _ _ => ?_
  split
  · trivial
  · refine settles_final_bind (settles_retryable _ _) fun chainData _ => ?_
    exact settles_final_bind (settles_retryable _ _) fun chain _ => trivial

theorem loadProtection_final {namespace_ : String} {configured : ProtectionSpec} {secrets : SecretCache}
    (needs : W → ∀ password, configured.passwordBasedMac = some password →
      ∃ out, passwordBasedMacAlgorithms password.algorithm = .ok out) :
    Ends (fun _ => ∀ password, configured.passwordBasedMac = some password →
        ∃ out, passwordBasedMacAlgorithms password.algorithm = .ok out)
      (Raised (ConfigurationError.Final W)) (loadProtection lib namespace_ configured secrets) := by
  unfold loadProtection
  split
  · rename_i password _ configuredPassword
    refine readCredentialSecret_final.bind ?_
    rintro ⟨secret, secrets⟩ _
    refine ends_settled_bind (passwordProtection_final fun well => needs well _ configuredPassword)
      fun protection known => ?_
    intro other same
    cases configuredPassword.symm.trans same
    exact known
  · rename_i signature absent configuredSignature
    refine readCredentialSecret_final.bind ?_
    rintro ⟨secret, secrets⟩ _
    refine ends_settled_bind signatureProtection_final fun protection _ => ?_
    intro password same
    cases absent.symm.trans same
  · trivial

theorem runtimeConfigurationDigest_exists
    (encodes : ∀ identity, ∃ encoded, lib.marshalIdentity identity = .ok encoded)
    (issuerRef : TransactionIssuerReference) (secrets : Fingerprints) :
    ∃ digest, runtimeConfigurationDigest lib issuerRef secrets = .ok digest := by
  unfold runtimeConfigurationDigest
  dsimp only
  split
  · rename_i err failed
    obtain ⟨encoded, marshalled⟩ := encodes _
    cases failed.symm.trans marshalled
  · exact ⟨_, rfl⟩

/-- A configuration that loads is made from a well-formed spec. One that fails permanently is not. -/
theorem loadRuntimeConfiguration_final
    (encodes : ∀ identity, ∃ encoded, lib.marshalIdentity identity = .ok encoded)
    (clusterResourceNamespace : String) (issuer : Issuer) :
    Ends (fun _ => WellFormed lib clusterResourceNamespace issuer)
      (Raised (ConfigurationError.Final (WellFormed lib clusterResourceNamespace issuer)))
      (loadRuntimeConfiguration lib clusterResourceNamespace issuer) := by
  unfold loadRuntimeConfiguration
  refine ends_settled_bind (settles_permanent _ WellFormed.resolved) ?_
  rintro ⟨spec, namespace_⟩ resolved
  obtain rfl := issuerSpecAndNamespace_ok resolved
  refine ends_settled_bind (settles_permanent _ WellFormed.valid) fun endpoint validated => ?_
  refine loadCertificates_final.bind ?_
  rintro ⟨anchors, secrets⟩ _
  refine (loadResponseCertificates_final WellFormed.signers).bind ?_
  rintro ⟨responses, secrets⟩ signers
  refine ends_settled_bind (settles_permanent _ WellFormed.renewal) fun renewal scheme => ?_
  refine loadTLSRoots_final.bind ?_
  rintro ⟨roots, secrets⟩ _
  refine (loadProtection_final WellFormed.algorithms).bind ?_
  rintro ⟨protection, secrets⟩ algorithms
  refine ends_settled_bind (settles_permanent _ WellFormed.recipient) fun recipient named => ?_
  refine ends_settled_bind (settles_needed WellFormed.sender) fun sender sending => ?_
  refine ends_settled_bind (settles_permanent _ WellFormed.digest) fun digest chosen => ?_
  refine ends_settled_bind (settles_permanent _ fun _ => runtimeConfigurationDigest_exists encodes _ _) fun _ _ => ?_
  exact ⟨⟨_, resolved⟩, ⟨_, validated⟩, signers, ⟨_, scheme⟩, algorithms, ⟨_, named⟩, ⟨_, sending⟩, ⟨_, chosen⟩⟩

end

/-- What `Check` calls permanent is not for the Secrets to mend: an issuer that fails so in one state of the
cluster passes in none. -/
theorem permanent_check_final {lib : Library} {clusterResourceNamespace : String} {issuer : Issuer}
    (encodes : ∀ identity, ∃ encoded, lib.marshalIdentity identity = .ok encoded)
    {answer : (o : Op) → o.Answer} {ready : Option IssuerCondition} {err : GoError}
    (refused : (check lib clusterResourceNamespace issuer ready).eval answer = .error (.error (.permanent err)))
    (answer' : (o : Op) → o.Answer) (ready' : Option IssuerCondition) :
    ∃ fault, (check lib clusterResourceNamespace issuer ready').eval answer' = .error fault := by
  have ends := loadRuntimeConfiguration_final encodes clusterResourceNamespace issuer
  have ill : ¬ WellFormed lib clusterResourceNamespace issuer := by
    have settled := ends.eval answer
    unfold check at refused
    rw [Program.eval_bind, Program.eval_mapError] at refused
    cases loaded : (loadRuntimeConfiguration lib clusterResourceNamespace issuer).eval answer with
    | ok configuration =>
        rw [loaded] at refused
        simp only [Except.mapError, Except.bind] at refused
        split at refused <;> cases refused
    | error fault =>
        rw [loaded] at refused settled
        cases fault with
        | panic reason => cases refused
        | error cause =>
            have permanent : cause.permanent = true := by
              by_contra retryable
              have returned : cause.checkError = cause.goError := if_neg retryable
              cases (congrArg Except.error (congrArg Fault.error returned)).symm.trans refused
            exact settled permanent
  cases result : (check lib clusterResourceNamespace issuer ready').eval answer' with
  | error fault => exact ⟨fault, rfl⟩
  | ok event =>
      obtain ⟨configuration, loaded, _⟩ := check_eval_ok_iff.mp result
      have settled := ends.eval answer'
      rw [loaded] at settled
      exact absurd settled ill

def untimedIssuer : Issuer :=
  { plainIssuer with spec := { plainSpec with endpoint := { plainSpec.endpoint with timeout := 0 } } }

theorem permanent_check_final_untimed : ∃ err,
    (check plainLibrary "" untimedIssuer none).eval (plainDeployment none []).shows =
      .error (.error (.permanent err)) ∧
    ∀ answer ready, ∃ fault, (check plainLibrary "" untimedIssuer ready).eval answer = .error fault := by
  have refused : (check plainLibrary "" untimedIssuer none).eval (plainDeployment none []).shows =
      .error (.error (.permanent (permanentConfiguration "validate issuer spec"
        (.text "endpoint timeout or response size is outside supported bounds")).goError)) := by decide +kernel
  exact ⟨_, refused, permanent_check_final (fun _ => ⟨_, rfl⟩) refused⟩

end CmpIssuer
