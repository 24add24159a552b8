import CmpIssuer.Cluster.Deployment
import CmpIssuer.Session.Timing

/-!
What a CMP server is asked for. Every message that asks for a certificate asks
for the certificate of the approved CSR: its key, its extensions and its
subject, with a proof of possession by the key of the CSR. A key update asks
under the subject of the certificate it updates, which names the same attributes
in an order and encoding of its own.
-/
namespace CmpIssuer
open Effect

/-- The operation of a message that asks for a certificate. -/
def Body.operation : Body → Option Operation
  | .p10cr _ => some .p10cr
  | .ir _ => some .ir
  | .kur _ => some .kur
  | _ => none

/-- The template of a certificate for the key and the extensions of a CSR. -/
structure TemplateOf (lib : Library) (csr : CertificateRequest) (key : Signer) (subject : GeneralName)
    (notAfter : Option Time) (template : CertTemplate) : Prop where
  own : publicKeysEqual lib key.publicKey csr.publicKey = true
  publicKey : lib.marshalPKIXPublicKey key.publicKey = .ok template.publicKey
  subject : template.subject = subject
  extensions : csr.extensions = [] ∧ template.extensions = none ∨
    ∃ encoded, lib.marshalExtensions csr.extensions = .ok encoded ∧ template.extensions = some encoded
  notAfter : template.notAfter = notAfter

/-- A CRMF request for a CSR, with its proof of possession. -/
structure CertReqMsgOf (lib : Library) (csr : CertificateRequest) (digest : Option Hash) (subject : GeneralName)
    (notAfter : Option Time) (controls : List Bytes) (message : CertReqMsg) : Prop where
  single : message.request.certReqID = 0
  controls : message.request.controls = controls
  possession : ∃ key drawn, TemplateOf lib csr key subject notAfter message.request.template ∧
    lib.generatePOPWithHash key (signatureDigestFor key digest) drawn message.request =
      .ok message.proofOfPossession

/-- A body that asks for the certificate of a CSR. -/
inductive AsksFor (lib : Library) (csr : CertificateRequest) (digest : Option Hash) (notAfter : Option Time) :
    Body → Prop
  | p10cr : AsksFor lib csr digest notAfter (.p10cr csr)
  | ir {message : CertReqMsg}
      (content : CertReqMsgOf lib csr digest (lib.newDirectoryNameFromRawDER csr.rawSubject) notAfter []
        message) : AsksFor lib csr digest notAfter (.ir [message])
  | kur {message : CertReqMsg} {certificate : Certificate} {oldCertID : Bytes}
      (identity : sameKURIdentity lib certificate csr = true)
      (updates : lib.newOldCertIDControl certificate = .ok oldCertID)
      (content : CertReqMsgOf lib csr digest (certificateSubject lib certificate) notAfter [oldCertID]
        message) : AsksFor lib csr digest notAfter (.kur [message])

/-- What a message may carry when the client works on a request. -/
def Requesting (lib : Library) (request : EnrollmentRequest) (sent : HTTPRequest) : Prop :=
  ∀ operation, sent.message.body.operation = some operation → request.operation = operation ∧
    ∃ csr, signedRequestCSR lib request = .ok csr ∧
      AsksFor lib csr request.signatureDigest request.requestedNotAfter sent.message.body

/-- The monitor of a client whose messages have a property. -/
def sending (P : HTTPRequest → Prop) : Monitor interface Unit where
  allows _
    | .send sent => P sent
    | o => o.client = true
  next _ _ _ := ()

/-- The monitor of `Sign` that knows for which request a message is sent. -/
def attending (P : ClientCall → HTTPRequest → Prop) : Monitor interface (Option ClientCall) where
  allows served
    | .send sent => ∃ call, served = some call ∧ P call sent
    | _ => True
  next served
    | .call handed, _ => some handed
    | _, _ => served

section
variable {P : ClientCall → HTTPRequest → Prop} {lib : Library}

/-- The request a message is sent for is the one that was handed over last. -/
theorem attending_run (lib : Library) (served : Option ClientCall) (t : Trail) :
    (attending P).run served t = (serving lib).run served t := by
  induction t generalizing served with
  | nil => rfl
  | cons e t ih =>
      obtain ⟨o, answer⟩ := e
      rw [Monitor.run_cons, Monitor.run_cons, ih]
      cases o <;> rfl

/-- A property that the client gives to the messages of each request holds for every message of `Sign`, for a
request that was handed over under the contract. -/
theorem sign_attends (client : ∀ call, Follows (sending (P call)) (fun _ _ => True) () (serve lib call))
    {job : Job} {t : Trail} {sent : HTTPRequest} {next : HTTPAnswer → Go GoError Bytes}
    (path : Path (sign lib job.clusterResourceNamespace job.request job.issuer) t (.op (.send sent) next)) :
    ∃ hold call before, before ++ [⟨.call call, ()⟩] <+: t ∧ Hands lib job before hold call ∧ P call sent := by
  have served : ∀ state call, Follows (attending P) (fun _ _ => True) state (protocolClient lib call) := by
    intro state call
    refine follows_ask_bind.mpr ⟨trivial, fun _ => ?_⟩
    have related : Follows (attending P) _ (some call) (serve lib call) :=
      (client call).simulate (R := fun _ served => served = some call) (by
        rintro _ _ o rfl allowed
        cases o with
        | send sent => exact ⟨⟨call, rfl, allowed⟩, fun _ => rfl⟩
        | now | entropy => exact ⟨trivial, fun _ => rfl⟩
        | _ => cases allowed) rfl
    exact related.mono fun _ _ _ => trivial
  have free : Undemanding (attending P) := by
    intro state o plain
    cases o with
    | send => cases plain
    | _ => trivial
  obtain ⟨hold, call, before, serving, passed, hands, _⟩ := sign_speaks path
  have loaders : Loaders (attending P) lib job := .unguarded free fun _ _ => trivial
  obtain ⟨call', last, holds⟩ :=
    (sign_relies (c := none) free served loaders (fun _ _ => trivial) fun _ _ => trivial).allows path
  rw [attending_run lib, serving_run path serving] at last
  cases last
  exact ⟨hold, call, before, passed, hands, holds⟩

end

section
variable {lib : Library} {α β : Type} {c : Unit} {request : EnrollmentRequest}

/-- A part of the client whose value is of a kind. -/
def Furnishes (V : α → Prop) (_ : Unit) (r : Except (Fault GoError) α) : Prop := ∀ a, r = .ok a → V a

theorem furnishes_outcome_bind {P : HTTPRequest → Prop} {V : β → Prop} {r : Except GoError α} {f : α → Go GoError β}
    (rest : ∀ a, r = .ok a → Follows (sending P) (Furnishes V) c (f a)) :
    Follows (sending P) (Furnishes V) c (ofExcept r >>= f) :=
  follows_outcome_bind rest (by rintro _ _ _ ⟨⟩)

theorem sending_credentials {P : HTTPRequest → Prop} {operation : String} {f : Credentials → Go GoError α}
    (rest : ∀ credentials, Follows (sending P) (fun _ _ => True) c (f credentials)) :
    Follows (sending P) (fun _ _ => True) c (configuredCredentials lib operation request >>= f) := by
  unfold configuredCredentials
  rcases credentialsFor_eq lib request with ⟨credentials, known⟩ | ⟨fault, known⟩
  · rw [known]
    exact rest credentials
  · rw [known]
    trivial

theorem exchangeMessage_sends {P : HTTPRequest → Prop} {parseOperation : String} {message : PKIMessage}
    {requestDER nonce : Bytes} {previousSigner : Option Certificate}
    (allowed : P ⟨request.endpointURL, message, requestDER⟩) :
    Follows (sending P) (fun _ _ => True) c
      (exchangeMessage lib parseOperation request message requestDER previousSigner nonce) := by
  refine relies_outcome_bind fun _ _ => ?_
  refine follows_ask_bind.mpr ⟨allowed, fun answer => follows_ask_bind.mpr ⟨rfl, fun instant => ?_⟩⟩
  refine relies_outcome_bind ?_
  rintro ⟨response, signer⟩ _
  trivial

variable (laws : MessageLaws lib)
include laws

theorem protectMessage_body {name : String} {credentials : Credentials} {drawn : Entropy}
    {built message : PKIMessage} {requestDER : Bytes}
    (sealed_ : protectMessage lib name credentials drawn built = .ok (message, requestDER)) :
    message.body = built.body :=
  laws.protect_body _ _ _ _ (protectMessage_ok sealed_)

theorem confirmationMessage_requests {P : HTTPRequest → Prop} {confirm : ConfirmRequest}
    {statusInfo : Option PKIStatusInfo} :
    Follows (sending P) (Furnishes fun out => out.1.body.operation = none) c
      (confirmationMessage lib request confirm statusInfo) := by
  unfold confirmationMessage
  split
  · rintro _ ⟨⟩
  · refine furnishes_outcome_bind fun status _ => ?_
    refine follows_ask_bind.mpr ⟨rfl, fun (drawn : Entropy) => ?_⟩
    split
    · rintro _ ⟨⟩
      dsimp only
      rw [(withSenderKID_content _ _).1]
      split
      · exact congrArg Body.operation (laws.body ..)
      · exact congrArg Body.operation (laws.body ..)
    · rintro _ ⟨⟩
      dsimp only
      rw [(withSenderKID_content _ _).1]
      exact congrArg Body.operation (laws.body ..)

theorem exchangeProtected_requests {credentials : Credentials} {built : PKIMessage} {drawn : Entropy}
    {responseSigner : Option Certificate} {nonce : Bytes} {operation : String} {request' : EnrollmentRequest}
    (plain : built.body.operation = none) :
    Follows (sending (Requesting lib request')) (fun _ _ => True) c
      (exchangeProtected lib request credentials built drawn responseSigner nonce operation) := by
  refine relies_outcome_bind ?_
  rintro ⟨message, requestDER⟩ sealed_
  refine exchangeMessage_sends fun operation asks => ?_
  rw [protectMessage_body laws sealed_, plain] at asks
  cases asks

theorem completeOrRefuse_requests {credentials : Credentials} {accepted : Accepted} {csr : CertificateRequest}
    {nonce : Bytes} {request' : EnrollmentRequest} :
    Follows (sending (Requesting lib request')) (fun _ _ => True) c
      (completeOrRefuse lib request credentials accepted csr nonce) := by
  unfold completeOrRefuse
  split
  · trivial
  · trivial
  · trivial
  · refine relies_bind (relies_attempt ?_) fun _ outcome => by cases outcome <;> trivial
    refine (confirmationMessage_requests laws).bind ?_ fun _ _ _ => trivial
    rintro _ ⟨built, drawn, operation⟩ plain
    refine relies_bind (exchangeProtected_requests laws (plain _ rfl)) fun _ accepted => ?_
    split <;> trivial

/-- What follows on a message that was built and protected for a request. -/
theorem sending_sealed {p : Go GoError (PKIMessage × Bytes)} {csr : CertificateRequest}
    {credentials : Credentials} {parseOperation : String} (signed : signedRequestCSR lib request = .ok csr)
    (asks : Follows (sending (Requesting lib request)) (Furnishes fun out =>
      out.1.body.operation = some request.operation ∧
      AsksFor lib csr request.signatureDigest request.requestedNotAfter out.1.body) c p) :
    Follows (sending (Requesting lib request)) (fun _ _ => True) c (do
      let (message, requestDER) ← p
      let accepted ← exchangeMessage lib parseOperation request message requestDER none []
      completeOrRefuse lib request credentials accepted csr message.header.senderNonce) := by
  refine asks.bind ?_ fun _ _ _ => trivial
  rintro u ⟨message, requestDER⟩ asks
  obtain ⟨own, asks⟩ := asks _ rfl
  refine relies_bind (exchangeMessage_sends fun operation known => ?_) fun _ accepted => ?_
  · exact ⟨Option.some.inj (own.symm.trans known), csr, signed, asks⟩
  · exact completeOrRefuse_requests laws

theorem sealed_asks {P : HTTPRequest → Prop} {name : String} {credentials : Credentials} {drawn : Entropy}
    {built : PKIMessage} {csr : CertificateRequest} {digest : Option Hash} {notAfter : Option Time} {body : Body}
    {options : MessageOptions} {operation : Operation}
    (same : built.body = (lib.newPKIMessage body options drawn).body) (own : body.operation = some operation)
    (asks : AsksFor lib csr digest notAfter body) :
    Follows (sending P) (Furnishes fun out =>
      out.1.body.operation = some operation ∧ AsksFor lib csr digest notAfter out.1.body) c
      (ofExcept (protectMessage lib name credentials drawn built)) := by
  rw [follows_outcome]
  rintro ⟨message, requestDER⟩ done
  rw [mapError_eq_ok] at done
  rw [protectMessage_body laws done, same, laws.body]
  exact ⟨own, asks⟩

theorem enrollP10CR_requests :
    Follows (sending (Requesting lib { request with operation := .p10cr })) (fun _ _ => True) c
      (enrollP10CR lib request) := by
  unfold enrollP10CR
  split
  · trivial
  · refine relies_outcome_bind fun _ _ => relies_outcome_bind fun csr signed => ?_
    refine sending_credentials fun credentials => sending_sealed laws signed ?_
    refine follows_ask_bind.mpr ⟨rfl, fun drawn => ?_⟩
    exact sealed_asks laws (enrollment_content _ _).1 rfl .p10cr

omit laws in
theorem signedRequestCSR_checks {csr : CertificateRequest} (h : signedRequestCSR lib request = .ok csr) :
    lib.parseCertificateRequest request.csrDER = .ok csr ∧ lib.checkRequestSignature csr = .ok () := by
  have parsed := signedRequestCSR_ok h
  unfold signedRequestCSR at h
  split at h
  · cases h
  · split at h
    · cases h
    · rename_i checked
      cases h
      exact ⟨parsed, checked⟩

omit laws in
theorem requestedKey_own {name : String} {csr : CertificateRequest} {key : Signer}
    (h : requestedKey lib name request csr = .ok key) : publicKeysEqual lib key.publicKey csr.publicKey = true := by
  unfold requestedKey at h
  dsimp only at h
  split at h
  · cases h
  · split at h
    · cases h
      assumption
    · cases h

omit laws in
theorem certificateTemplate_of {key : Signer} {csr : CertificateRequest} {subject : GeneralName}
    {template : CertTemplate} (own : publicKeysEqual lib key.publicKey csr.publicKey = true)
    (h : certificateTemplate lib request key csr subject = .ok template) :
    TemplateOf lib csr key subject request.requestedNotAfter template := by
  unfold certificateTemplate at h
  split at h
  · cases h
  · rename_i publicKey marshalled
    dsimp only at h
    split at h
    · rename_i bare
      cases h
      exact ⟨own, marshalled, rfl, .inl ⟨bare, rfl⟩, rfl⟩
    · split at h
      · cases h
      · rename_i encoded extensions
        cases h
        exact ⟨own, marshalled, rfl, .inr ⟨encoded, extensions, rfl⟩, rfl⟩

omit laws in
theorem certReqMsg_of {name : String} {key : Signer} {drawn : Entropy} {template : CertTemplate}
    {controls : List Bytes} {csr : CertificateRequest} {subject : GeneralName} {message : CertReqMsg}
    (content : TemplateOf lib csr key subject request.requestedNotAfter template)
    (h : certReqMsg lib name request key drawn template controls = .ok message) :
    CertReqMsgOf lib csr request.signatureDigest subject request.requestedNotAfter controls message := by
  unfold certReqMsg at h
  dsimp only at h
  split at h
  · cases h
  · rename_i proof generated
    cases h
    exact ⟨rfl, rfl, key, drawn, content, generated⟩

omit laws in
theorem validateIRRequest_checks {csr : CertificateRequest} {key : Signer}
    (h : validateIRRequest lib request = .ok (csr, key)) :
    signedRequestCSR lib { request with operation := .ir } = .ok csr ∧
      publicKeysEqual lib key.publicKey csr.publicKey = true := by
  unfold validateIRRequest at h
  simp only [bind, Except.bind] at h
  split at h
  · cases h
  · split at h
    · cases h
    · rename_i signed
      split at h
      · cases h
      · rename_i requested
        cases h
        exact ⟨signed, requestedKey_own requested⟩

theorem enrollIR_requests :
    Follows (sending (Requesting lib { request with operation := .ir })) (fun _ _ => True) c
      (enrollIR lib request) := by
  unfold enrollIR
  refine relies_outcome_bind ?_
  rintro ⟨csr, key⟩ checked
  obtain ⟨signed, own⟩ := validateIRRequest_checks checked
  refine sending_credentials fun credentials => sending_sealed laws signed ?_
  refine furnishes_outcome_bind fun template made => ?_
  refine follows_ask_bind.mpr ⟨rfl, fun drawn => ?_⟩
  refine furnishes_outcome_bind fun message proved => ?_
  have content := certificateTemplate_of own made
  exact sealed_asks laws (enrollment_content _ _).1 rfl (.ir (certReqMsg_of content proved))

omit laws in
theorem validateKURProofs_checks {csr : CertificateRequest} {t : Time} {signature : SignatureProtection}
    {key : Signer} (h : validateKURProofs lib request csr t = .ok (signature, key)) :
    publicKeysEqual lib key.publicKey csr.publicKey = true ∧
      sameKURIdentity lib signature.certificate csr = true := by
  unfold validateKURProofs at h
  split at h
  · split at h
    · cases h
    · rename_i requested
      dsimp only at h
      split at h
      · cases h
      · split at h
        · cases h
        · split at h
          · cases h
          · rename_i identity
            cases h
            exact ⟨requestedKey_own requested, by simpa using identity⟩
  · cases h

omit laws in
theorem validateKURRequest_checks {P : HTTPRequest → Prop} :
    Follows (sending P) (Furnishes fun (csr, signature, key) =>
      signedRequestCSR lib { request with operation := .kur } = .ok csr ∧
        publicKeysEqual lib key.publicKey csr.publicKey = true ∧
        sameKURIdentity lib signature.certificate csr = true) c (validateKURRequest lib request) := by
  refine furnishes_outcome_bind fun _ _ => furnishes_outcome_bind fun csr signed => ?_
  refine follows_ask_bind.mpr ⟨rfl, fun instant => furnishes_outcome_bind ?_⟩
  rintro ⟨signature, key⟩ proofs _ ⟨⟩
  exact ⟨signed, validateKURProofs_checks proofs⟩

theorem enrollKUR_requests :
    Follows (sending (Requesting lib { request with operation := .kur })) (fun _ _ => True) c
      (enrollKUR lib request) := by
  unfold enrollKUR
  refine validateKURRequest_checks.bind ?_ fun _ _ _ => trivial
  rintro u ⟨csr, signature, key⟩ checked
  obtain ⟨signed, own, identity⟩ := checked _ rfl
  refine sending_credentials fun credentials => sending_sealed laws signed ?_
  refine furnishes_outcome_bind fun template made => ?_
  refine furnishes_outcome_bind fun oldCertID updates => ?_
  rw [mapError_eq_ok] at updates
  refine follows_ask_bind.mpr ⟨rfl, fun drawn => ?_⟩
  refine furnishes_outcome_bind fun message proved => ?_
  have content := certReqMsg_of (certificateTemplate_of own made) proved
  exact sealed_asks laws (withImplicitConfirm_content _ _).1 rfl (.kur identity updates content)

theorem pollP10CR_requests {poll : PollRequest} {request' : EnrollmentRequest} :
    Follows (sending (Requesting lib request')) (fun _ _ => True) c (pollP10CR lib poll) := by
  unfold pollP10CR
  refine relies_outcome_bind fun _ _ => ?_
  split
  · trivial
  · refine relies_outcome_bind fun csr _ => sending_credentials fun credentials => ?_
    refine follows_ask_bind.mpr ⟨rfl, fun (drawn : Entropy) => relies_outcome_bind ?_⟩
    rintro ⟨message, requestDER⟩ sealed_
    refine relies_bind (exchangeMessage_sends fun operation asks => ?_) fun _ accepted => ?_
    · rw [protectMessage_body laws sealed_, (withSenderKID_content _ _).1, laws.body] at asks
      cases asks
    · split
      · exact relies_outcome_bind fun _ _ => trivial
      · exact completeOrRefuse_requests laws

theorem confirmP10CR_requests {confirm : ConfirmRequest} {request' : EnrollmentRequest} :
    Follows (sending (Requesting lib request')) (fun _ _ => True) c (confirmP10CR lib confirm) := by
  unfold confirmP10CR
  refine relies_outcome_bind fun _ _ => ?_
  split
  · trivial
  · split
    · trivial
    · refine relies_outcome_bind fun _ _ => sending_credentials fun credentials => ?_
      refine (confirmationMessage_requests laws).bind ?_ fun _ _ _ => trivial
      rintro _ ⟨built, drawn, operation⟩ plain
      exact relies_bind (exchangeProtected_requests laws (plain _ rfl)) fun _ _ => relies_outcome

/-- What the client asks for, it asks for with the CSR of its request. -/
theorem serve_requests (call : ClientCall) :
    Follows (sending (Requesting lib call.request)) (fun _ _ => True) () (serve lib call) := by
  cases call with
  | enrollP10CR => exact enrollP10CR_requests laws
  | enrollIR => exact enrollIR_requests laws
  | enrollKUR => exact enrollKUR_requests laws
  | pollP10CR => exact pollP10CR_requests laws
  | confirmP10CR => exact confirmP10CR_requests laws

end

/-- The validity that is asked for depends on the operation of the record only as far as the client does. -/
theorem Hands.requestedNotAfter {lib : Library} {job : Job} {trail : Trail} {hold : Hold} {call : ClientCall}
    (hands : Hands lib job trail hold call) (validity : Setting RequestedValidity)
    (request : CertificateRequestObject) (started : Time) :
    CmpIssuer.requestedNotAfter validity call.enrollment.operation request started =
      CmpIssuer.requestedNotAfter validity call.request.operation request started := by
  have operation := hands.enrolls.operation
  have phase := hands.phase
  cases call with
  | enrollP10CR enrollment =>
      have other : enrollment.operation ≠ .ir ∧ enrollment.operation ≠ .kur := by
        rw [show enrollment.operation = hold.record.spec.operation from operation]
        exact phase.2
      rw [CmpIssuer.requestedNotAfter, CmpIssuer.requestedNotAfter, if_pos (.inr other),
        if_pos (.inr ⟨by rintro ⟨⟩, by rintro ⟨⟩⟩)]
  | enrollIR => rw [operation, phase.2]; rfl
  | enrollKUR => rw [operation, phase.2]; rfl
  | pollP10CR | confirmP10CR => rfl

end CmpIssuer
