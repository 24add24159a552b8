import CmpIssuer.Session.Invariant

/-!
`Sign` as a user of the protocol client. All it sends is sent by the client on
behalf of the request it was handed last, so the path since that request is a
path of the client. What the client puts into a message, whoever calls it, is
said here once for all its methods.
-/
namespace CmpIssuer
open Effect

section
variable {C ε α β : Type} {M : Monitor interface C} {c : C}

/-- The operations that the monitors of this module let pass: all but requests to the client, messages,
reads of Secrets and of the record, and the creation of a record. -/
def Op.plain : Op → Bool
  | .call _ | .send _ | .getSecret _ | .getTransaction _ | .createTransaction _ => false
  | _ => true

def Op.creates : Op → Bool
  | .createTransaction _ => true
  | _ => false

def Op.client : Op → Bool
  | .now | .entropy | .send _ => true
  | _ => false

theorem relies_bind {p : Go ε α} {f : α → Go ε β} (first : Follows M (fun _ _ => True) c p)
    (rest : ∀ c a, Follows M (fun _ _ => True) c (f a)) : Follows M (fun _ _ => True) c (p >>= f) :=
  first.bind (fun c a _ => rest c a) fun _ _ _ => trivial

theorem relies_outcome {r : Except ε α} : Follows M (fun _ _ => True) c (ofExcept r : Go ε α) := by
  rw [follows_outcome]
  cases r <;> trivial

theorem relies_outcome_bind {r : Except ε α} {f : α → Go ε β}
    (rest : ∀ a, r = .ok a → Follows M (fun _ _ => True) c (f a)) :
    Follows M (fun _ _ => True) c (ofExcept r >>= f) :=
  follows_outcome_bind rest fun _ _ => trivial

theorem relies_mapError {ε' : Type} {p : Go ε α} {g : Fault ε → Fault ε'}
    (h : Follows M (fun _ _ => True) c p) : Follows M (fun _ _ => True) c (p.mapError g) :=
  follows_mapError.mpr (h.mono fun _ _ _ => trivial)

theorem relies_attempt {p : Go GoError α} (h : Follows M (fun _ _ => True) c p) :
    Follows M (fun _ _ => True) c (attempt p : Go GoError (Except GoError α)) := by
  unfold attempt
  refine follows_attempt.mpr (h.mono ?_)
  rintro c ((err | reason) | a) _ <;> trivial

def Undemanding (M : Monitor interface C) : Prop := ∀ c o, o.plain = true → M.allows c o

/-- Programs that only look around, under a monitor that lets Secrets be read. -/
theorem relies_reading (free : Undemanding M) (secrets : ∀ c key, M.allows c (.getSecret key))
    {P : Trail → α → Prop} {p : Go ε α} (h : Follows reading (Loads P) [] p) :
    Follows M (fun _ r => ∃ t, Loads P t r) c p := by
  have allowed : ∀ c o, o.silent = true → M.allows c o := by
    intro c o silent
    cases o with
    | getSecret key => exact secrets c key
    | now | random | entropy | getCertificate => exact free _ _ rfl
    | _ => cases silent
  have related : Follows M _ c p := h.simulate (R := fun _ _ => True)
    (fun _ c o _ silent => ⟨allowed c o silent, fun _ => trivial⟩) trivial
  exact related.mono fun _ _ ⟨t, _, holds⟩ => ⟨t, holds⟩

theorem relies_ask (free : Undemanding M) {o : Op} {f : o.Answer → Go ε β} (plain : o.plain = true)
    (rest : ∀ c answer, Follows M (fun _ _ => True) c (f answer)) :
    Follows M (fun _ _ => True) c (ask o >>= f) :=
  follows_ask_bind.mpr ⟨free c o plain, fun answer => rest _ answer⟩

end

section
variable {C α : Type} {M : Monitor interface C} {c : C} {lib : Library} (free : Undemanding M)
include free

theorem writeStatus_relies {failure : String} {record : CMPTransaction} {status : CMPTransactionStatus} :
    Follows M (fun _ _ => True) c (writeStatus failure record status) :=
  relies_ask free rfl fun _ answer => by cases answer <;> trivial

theorem createRecord_relies (creates : ∀ c record, M.allows c (.createTransaction record))
    {request : CertificateRequestObject} {deadline : Time} {detail : TransactionDetail} :
    Follows M (fun _ _ => True) c (createRecord request deadline detail) := by
  refine relies_ask free rfl fun c drawn => ?_
  cases drawn with
  | error => trivial
  | ok =>
      refine follows_ask_bind.mpr ⟨creates _ _, fun created => ?_⟩
      cases created with
      | error => trivial
      | ok => exact relies_ask free rfl fun c t => writeStatus_relies free

theorem loadRecord_relies (loads : ∀ c key, M.allows c (.getTransaction key))
    {request : CertificateRequestObject} : Follows M (fun _ _ => True) c (loadRecord request) := by
  refine follows_ask_bind.mpr ⟨loads _ _, fun answer => ?_⟩
  cases answer with
  | error => dsimp only; split <;> trivial
  | ok =>
      dsimp only
      split
      · trivial
      · refine relies_ask free rfl fun c answer => ?_
        cases answer with
        | ok => trivial
        | error => dsimp only; split <;> trivial

theorem failTransaction_relies {record : CMPTransaction} {err : GoError} :
    Follows M (fun _ _ => True) c (failTransaction (α := α) record err) := by
  unfold failTransaction
  dsimp only
  split
  · refine relies_bind (relies_ask free rfl fun c answer => ?_) fun _ _ => trivial
    cases answer with
    | ok => trivial
    | error => dsimp only; split <;> trivial
  · trivial

theorem continuePolling_relies {record : CMPTransaction} {pending : PendingTransaction}
    {limits : TransactionSpec} {polled : Bool} :
    Follows M (fun _ _ => True) c (continuePolling (α := α) lib record pending limits polled) :=
  relies_bind (relies_ask free rfl fun _ _ => writeStatus_relies free) fun _ _ =>
    relies_ask free rfl fun _ _ => trivial

theorem continueConfirming_relies {record : CMPTransaction} {chain : List Certificate}
    {pending : PendingTransaction} {limits : TransactionSpec} {polled : Bool} :
    Follows M (fun _ _ => True) c
      (continueConfirming (α := α) lib record chain pending limits polled) :=
  relies_bind (relies_ask free rfl fun _ _ => writeStatus_relies free) fun _ _ =>
    relies_ask free rfl fun _ _ => trivial

theorem recordIssued_relies {record : CMPTransaction} {chain : List Certificate} :
    Follows M (fun _ _ => True) c (recordIssued record chain) :=
  relies_ask free rfl fun _ _ => writeStatus_relies free

variable (client : ∀ c call, Follows M (fun _ _ => True) c (protocolClient lib call))
include client

theorem exchange_relies {enrollment : EnrollmentRequest} {record : CMPTransaction}
    {limits : TransactionSpec} : Follows M (fun _ _ => True) c (exchange lib enrollment record limits) := by
  refine relies_ask free rfl fun c t => ?_
  split
  · trivial
  · split
    · split <;> exact client _ _
    · split
      · split
        · trivial
        · exact relies_outcome_bind fun _ _ => client _ _
      · trivial

theorem confirm_relies {record : CMPTransaction} {enrollment : EnrollmentRequest}
    {limits : TransactionSpec} {chain : List Certificate} {pending : PendingTransaction} :
    Follows M (fun _ _ => True) c (confirm lib record enrollment limits chain pending) := by
  unfold confirm Reported.confirm
  dsimp only [quiet_run, quiet_issued]
  refine relies_ask free rfl fun c t => ?_
  split
  · exact failTransaction_relies free
  · split
    · exact failTransaction_relies free
    · split
      · trivial
      · refine relies_bind (relies_attempt (client _ _)) fun c outcome => ?_
        cases outcome with
        | error => exact failTransaction_relies free
        | ok result =>
            dsimp only
            split
            · exact continueConfirming_relies free
            · exact relies_bind (recordIssued_relies free) fun _ _ => trivial

theorem resumeConfirmation_relies {record : CMPTransaction} {enrollment : EnrollmentRequest}
    {limits : TransactionSpec} {csrDER : Bytes} :
    Follows M (fun _ _ => True) c (resumeConfirmation lib record enrollment limits csrDER) := by
  unfold resumeConfirmation Reported.resumeConfirmation
  dsimp only [quiet_run]
  split
  · exact failTransaction_relies free
  · refine relies_ask free rfl fun c t => ?_
    split
    · exact failTransaction_relies free
    · split
      · exact failTransaction_relies free
      · exact relies_outcome_bind fun _ _ => confirm_relies free client

theorem continueTransaction_relies {request : CertificateRequestObject} {operation : Operation}
    {csrDER : Bytes} {started : Time} {prepared : Prepared} {record : CMPTransaction} :
    Follows M (fun _ _ => True) c
      (continueTransaction lib request operation csrDER started prepared record) := by
  unfold continueTransaction Reported.continueTransaction
  dsimp only [quiet_run, quiet_issued]
  split
  · exact resumeConfirmation_relies free client
  · refine relies_bind (relies_attempt (exchange_relies free client)) fun c outcome => ?_
    cases outcome with
    | error => exact failTransaction_relies free
    | ok result =>
        dsimp only
        split
        · exact continuePolling_relies free
        · exact relies_bind (relies_ask free rfl fun _ _ => writeStatus_relies free) fun _ _ =>
            confirm_relies free client
        · exact relies_bind (recordIssued_relies free) fun _ _ => trivial

omit free client in
theorem prepareEnrollment_reads {request : CertificateRequestObject} {issuer : Issuer}
    {operation : Operation} {reason : Setting FallbackReason} {csrDER : Bytes}
    {configuration : RuntimeConfiguration} :
    Follows reading (Loads fun _ _ => True) []
      (prepareEnrollment lib request issuer operation reason csrDER configuration) := by
  unfold prepareEnrollment
  dsimp only
  split
  · rename_i workload
    exact loads_mono (prepareWorkloadKeyEnrollment_loads workload) fun _ _ _ => trivial
  · exact loads_pure trivial

omit free client in
theorem selectRenewalFallback_selects {request : CertificateRequestObject} {issuer : Issuer}
    {selected : Operation} {t : Trail} :
    Follows reading (Loads fun _ out => out.1 = selected ∨ selected = .kur) t
      (selectRenewalFallback lib request issuer selected) := by
  refine loads_mono selectRenewalFallback_loads ?_
  rintro u out (rfl | ⟨_, _, update, _⟩)
  · exact .inl rfl
  · exact .inr update

/-- The parts of `Sign` that read Secrets keep to a monitor. The operation of a transaction is the selected
one, or it takes the place of a key update. -/
structure Loaders (M : Monitor interface C) (lib : Library) (job : Job) : Prop where
  configuration : ∀ c, Follows M (fun _ _ => True) c
    (loadRuntimeConfiguration lib job.clusterResourceNamespace job.issuer)
  trust : ∀ c, Follows M (fun _ _ => True) c (loadCMPTrust lib job.clusterResourceNamespace job.issuer)
  selection : ∀ c selected, selectedTransactionOperation lib job.issuer job.request = .ok selected →
    Follows M (fun _ r => ∀ out, r = .ok out → out.1 = selected ∨ selected = .kur) c
      (selectRenewalFallback lib job.request job.issuer selected)
  preparation : ∀ c selected operation reason csrDER configuration,
    selectedTransactionOperation lib job.issuer job.request = .ok selected →
    operation = selected ∨ selected = .kur →
    Follows M (fun _ _ => True) c
      (prepareEnrollment lib job.request job.issuer operation reason csrDER configuration)

omit client in
theorem Loaders.unguarded {job : Job} (secrets : ∀ c key, M.allows c (.getSecret key)) :
    Loaders M lib job where
  configuration _ := (relies_reading free secrets loadRuntimeConfiguration_loads).mono fun _ _ _ => trivial
  trust _ := (relies_reading free secrets loadCMPTrust_loads).mono fun _ _ _ => trivial
  selection _ selected _ := by
    refine (relies_reading free secrets selectRenewalFallback_selects).mono ?_
    rintro c _ ⟨t, holds⟩ out rfl
    exact holds
  preparation _ _ _ _ _ _ _ _ := (relies_reading free secrets prepareEnrollment_reads).mono fun _ _ _ => trivial

variable {job : Job} (loaders : Loaders M lib job)
include loaders

theorem signNew_relies (creates : ∀ c record, M.allows c (.createTransaction record)) {started : Time}
    {csrDER : Bytes} {selected : Operation}
    (selection : selectedTransactionOperation lib job.issuer job.request = .ok selected) :
    Follows M (fun _ _ => True) c (signNew lib job.clusterResourceNamespace job.request job.issuer
      started csrDER selected) := by
  refine relies_bind (relies_mapError (loaders.configuration _)) fun c configuration => ?_
  refine (loaders.selection _ _ selection).bind ?_ fun _ _ _ => trivial
  rintro c ⟨operation, reason⟩ chosen
  refine relies_bind (loaders.preparation _ _ _ _ _ _ selection (chosen _ rfl)) fun c prepared => ?_
  refine relies_ask free rfl fun c t => ?_
  exact relies_bind (createRecord_relies free creates) fun _ _ => continueTransaction_relies free client

omit client in
theorem recoverIssuedChain_relies {record : CMPTransaction} {csrDER : Bytes} :
    Follows M (fun _ _ => True) c (recoverIssuedChain lib job.clusterResourceNamespace record job.issuer
      csrDER) := by
  unfold recoverIssuedChain
  split
  · exact failTransaction_relies free
  · refine relies_bind (relies_mapError (loaders.trust _)) ?_
    rintro c ⟨roots, candidates⟩
    refine relies_ask free rfl fun c t => ?_
    split
    · exact failTransaction_relies free
    · trivial

theorem signResumed_relies {started : Time} {csrDER : Bytes} {selected : Operation}
    {record : CMPTransaction}
    (selection : selectedTransactionOperation lib job.issuer job.request = .ok selected) :
    Follows M (fun _ _ => True) c (signResumed lib job.clusterResourceNamespace job.request job.issuer
      started csrDER selected record) := by
  unfold signResumed Reported.signResumed
  dsimp only [quiet_run, quiet_deferring]
  split
  · exact failTransaction_relies free
  · rename_i valid
    split
    · exact recoverIssuedChain_relies free loaders
    · split
      · trivial
      · split
        · exact failTransaction_relies free
        · refine relies_bind (relies_mapError (loaders.configuration _)) fun c configuration => ?_
          have operation : record.spec.operation = selected ∨ selected = .kur := by
            rcases (validateResumedTransaction_ok job valid).2.2 with ⟨_, same⟩ | ⟨_, _, update, _⟩
            · exact .inl same
            · exact .inr update
          refine relies_bind (loaders.preparation _ _ _ _ _ _ selection operation) fun c prepared => ?_
          split
          · exact failTransaction_relies free
          · exact continueTransaction_relies free client

/-- A monitor that demands something of reads of Secrets, requests to the client and messages only is
followed by `Sign` when the loaders and the client follow it. -/
theorem sign_relies (loads : ∀ c key, M.allows c (.getTransaction key))
    (creates : ∀ c record, M.allows c (.createTransaction record)) :
    Follows M (fun _ _ => True) c (sign lib job.clusterResourceNamespace job.request job.issuer) := by
  refine relies_ask free rfl fun c started => relies_outcome_bind fun csrDER _ =>
    relies_outcome_bind fun selected selection => relies_bind (loadRecord_relies free loads) fun c loaded => ?_
  rw [mapError_eq_ok] at selection
  cases loaded with
  | none => exact signNew_relies free client loaders creates selection
  | some record => exact signResumed_relies free client loaders selection

end

/-- The sender of the messages a call builds. A KUR names the certificate being updated, every other message
the sender of its request. -/
inductive NamesSender (lib : Library) (call : ClientCall) : Body → GeneralName → Prop
  | request {body : Body} (other : body.type ≠ .kur) :
      NamesSender lib call body (requestSender lib call.request)
  | update {messages : List CertReqMsg} {signature : SignatureProtection}
      (protection : call.request.protection = { password := none, signature := some signature }) :
      NamesSender lib call (.kur messages) (certificateSubject lib signature.certificate)

/-- What the client puts into a message: the sender, and the protection with the credentials of the
request. -/
structure Speaks (lib : Library) (call : ClientCall) (sent : HTTPRequest) : Prop where
  built : ∃ credentials drawn built body options, credentialsFor lib call.request = .pure credentials ∧
    lib.protect credentials drawn built = .ok sent.message ∧
    built.body = (lib.newPKIMessage body options drawn).body ∧
    built.header.sender = (lib.newPKIMessage body options drawn).header.sender ∧
    NamesSender lib call body options.sender

/-- The monitor of the client at work on a call. -/
def speaking (lib : Library) (call : ClientCall) : Monitor interface Unit where
  allows _
    | .send sent => Speaks lib call sent
    | o => o.client = true
  next _ _ _ := ()

section
variable {lib : Library} {call : ClientCall} {α : Type} {c : Unit}

theorem credentialsFor_eq (lib : Library) (request : EnrollmentRequest) :
    (∃ credentials, credentialsFor lib request = .pure credentials) ∨
      ∃ fault, credentialsFor lib request = .throw fault := by
  have outcome : ∀ {r : Except GoError Credentials}, (∃ credentials, ofExcept r = .pure credentials) ∨
      ∃ fault, (ofExcept r : Go GoError Credentials) = .throw fault := by
    rintro (err | credentials)
    · exact .inr ⟨_, rfl⟩
    · exact .inl ⟨_, rfl⟩
  unfold credentialsFor
  split
  · split
    · exact .inr ⟨_, rfl⟩
    · exact outcome
  · split
    · exact .inr ⟨_, rfl⟩
    · split
      · exact .inl ⟨_, rfl⟩
      · exact outcome
  · exact .inr ⟨_, rfl⟩

theorem speaks_credentials {operation : String} {request : EnrollmentRequest}
    {f : Credentials → Go GoError α}
    (rest : ∀ credentials, credentialsFor lib request = .pure credentials →
      Follows (speaking lib call) (fun _ _ => True) c (f credentials)) :
    Follows (speaking lib call) (fun _ _ => True) c (configuredCredentials lib operation request >>= f) := by
  unfold configuredCredentials
  rcases credentialsFor_eq lib request with ⟨credentials, known⟩ | ⟨fault, known⟩
  · rw [known]
    exact rest credentials known
  · rw [known]
    trivial

theorem exchangeMessage_speaks {parseOperation : String} {request : EnrollmentRequest}
    {message : PKIMessage} {requestDER : Bytes} {previousSigner : Option Certificate} {nonce : Bytes}
    (speaks : Speaks lib call ⟨request.endpointURL, message, requestDER⟩) :
    Follows (speaking lib call) (fun _ _ => True) c
      (exchangeMessage lib parseOperation request message requestDER previousSigner nonce) := by
  refine relies_outcome_bind fun _ _ => ?_
  refine follows_ask_bind.mpr ⟨speaks, fun answer => follows_ask_bind.mpr ⟨rfl, fun instant => ?_⟩⟩
  refine relies_outcome_bind ?_
  rintro ⟨response, signer⟩ _
  trivial

/-- A message that is built for the request of the call and protected with its credentials. -/
theorem Speaks.intro {name : String} {credentials : Credentials} {drawn : Entropy}
    {built message : PKIMessage} {body : Body} {options : MessageOptions} {requestDER : Bytes}
    {endpoint : String} (known : credentialsFor lib call.request = .pure credentials)
    (sealed_ : protectMessage lib name credentials drawn built = .ok (message, requestDER))
    (content : built.body = (lib.newPKIMessage body options drawn).body ∧
      built.header.sender = (lib.newPKIMessage body options drawn).header.sender)
    (sender : NamesSender lib call body options.sender) :
    Speaks lib call ⟨endpoint, message, requestDER⟩ :=
  ⟨credentials, drawn, built, body, options, known, protectMessage_ok sealed_, content.1, content.2, sender⟩

theorem withSenderKID_content (request : EnrollmentRequest) (message : PKIMessage) :
    (withSenderKID request message).body = message.body ∧
      (withSenderKID request message).header.sender = message.header.sender := by
  unfold withSenderKID
  split <;> exact ⟨rfl, rfl⟩

theorem withImplicitConfirm_content (request : EnrollmentRequest) (message : PKIMessage) :
    (withImplicitConfirm lib request message).body = message.body ∧
      (withImplicitConfirm lib request message).header.sender = message.header.sender := by
  unfold withImplicitConfirm
  split <;> exact ⟨rfl, rfl⟩

/-- The content of a message that was built but not yet protected. -/
def BuiltFor (lib : Library) (call : ClientCall) (built : PKIMessage) (drawn : Entropy) : Prop :=
  ∃ body options, (built.body = (lib.newPKIMessage body options drawn).body ∧
    built.header.sender = (lib.newPKIMessage body options drawn).header.sender) ∧
    NamesSender lib call body options.sender

theorem confirmationMessage_speaks {confirm : ConfirmRequest} {statusInfo : Option PKIStatusInfo} :
    Follows (speaking lib call) (fun _ r => ∀ out, r = .ok out → BuiltFor lib call out.1 out.2.1) c
      (confirmationMessage lib call.request confirm statusInfo) := by
  unfold confirmationMessage
  split
  · rintro _ ⟨⟩
  · refine follows_outcome_bind (fun status _ => ?_) (by rintro _ _ _ ⟨⟩)
    refine follows_ask_bind.mpr ⟨rfl, fun drawn => ?_⟩
    split
    · rintro _ ⟨⟩
      have content := withSenderKID_content call.request (if status.hashAlg.isSome then
        { lib.newPKIMessage (.pollReq [responseCertReqIDStandard])
            (messageOptions lib call.request (requestSender lib call.request) confirm.recipNonce) drawn with
          header := { (lib.newPKIMessage (.pollReq [responseCertReqIDStandard])
            (messageOptions lib call.request (requestSender lib call.request) confirm.recipNonce)
            drawn).header with pvno := 3 } }
        else lib.newPKIMessage (.pollReq [responseCertReqIDStandard])
            (messageOptions lib call.request (requestSender lib call.request) confirm.recipNonce) drawn)
      refine ⟨.pollReq [responseCertReqIDStandard],
        messageOptions lib call.request (requestSender lib call.request) confirm.recipNonce,
        ⟨content.1.trans ?_, content.2.trans ?_⟩, .request (by rintro ⟨⟩)⟩
      · split <;> rfl
      · split <;> rfl
    · rintro _ ⟨⟩
      exact ⟨_, _, withSenderKID_content _ _, .request (by rintro ⟨⟩)⟩

theorem exchangeProtected_speaks {credentials : Credentials} {built : PKIMessage} {drawn : Entropy}
    {responseSigner : Option Certificate} {nonce : Bytes} {operation : String} {request : EnrollmentRequest}
    (known : credentialsFor lib call.request = .pure credentials) (content : BuiltFor lib call built drawn) :
    Follows (speaking lib call) (fun _ _ => True) c
      (exchangeProtected lib request credentials built drawn responseSigner nonce operation) := by
  obtain ⟨body, options, same, sender⟩ := content
  refine relies_outcome_bind ?_
  rintro ⟨message, requestDER⟩ sealed_
  exact exchangeMessage_speaks (.intro known sealed_ same sender)

theorem rejectCertificate_speaks {credentials : Credentials} {refusal : RefusedCertificate}
    {reason : GoError} (known : credentialsFor lib call.request = .pure credentials) :
    Follows (speaking lib call) (fun _ _ => True) c
      (rejectCertificate lib call.request credentials refusal reason) := by
  refine relies_bind (relies_attempt ?_) fun _ outcome => by cases outcome <;> trivial
  refine confirmationMessage_speaks.bind ?_ fun _ _ _ => trivial
  rintro _ ⟨built, drawn, operation⟩ content
  refine relies_bind (exchangeProtected_speaks known (content _ rfl)) fun _ accepted => ?_
  split <;> trivial

theorem completeOrRefuse_speaks {credentials : Credentials} {accepted : Accepted}
    {csr : CertificateRequest} {nonce : Bytes}
    (known : credentialsFor lib call.request = .pure credentials) :
    Follows (speaking lib call) (fun _ _ => True) c
      (completeOrRefuse lib call.request credentials accepted csr nonce) := by
  unfold completeOrRefuse
  split
  · trivial
  · trivial
  · trivial
  · exact rejectCertificate_speaks known

/-- The outcome of a function that builds and protects a message. -/
def Seals (lib : Library) (call : ClientCall) (_ : Unit) (r : Except (Fault GoError) (PKIMessage × Bytes)) :
    Prop :=
  ∀ message requestDER, r = .ok (message, requestDER) → ∀ endpoint, Speaks lib call ⟨endpoint, message, requestDER⟩

theorem protectMessage_seals {name : String} {credentials : Credentials} {drawn : Entropy}
    {built : PKIMessage} (known : credentialsFor lib call.request = .pure credentials)
    (content : BuiltFor lib call built drawn) :
    Follows (speaking lib call) (Seals lib call) c (ofExcept (protectMessage lib name credentials drawn built)) := by
  obtain ⟨body, options, same, sender⟩ := content
  rw [follows_outcome]
  cases sealed_ : protectMessage lib name credentials drawn built with
  | error => rintro _ _ ⟨⟩
  | ok out =>
      rintro message requestDER ⟨⟩ endpoint
      exact .intro known sealed_ same sender

theorem seals_outcome_bind {β : Type} {r : Except GoError β} {f : β → Go GoError (PKIMessage × Bytes)}
    (rest : ∀ a, r = .ok a → Follows (speaking lib call) (Seals lib call) c (f a)) :
    Follows (speaking lib call) (Seals lib call) c (ofExcept r >>= f) :=
  follows_outcome_bind rest (by rintro _ _ _ _ ⟨⟩)

theorem seals_bind {p : Go GoError (PKIMessage × Bytes)} {f : PKIMessage × Bytes → Go GoError α}
    (seals : Follows (speaking lib call) (Seals lib call) c p)
    (rest : ∀ message requestDER, (∀ endpoint, Speaks lib call ⟨endpoint, message, requestDER⟩) →
      Follows (speaking lib call) (fun _ _ => True) () (f (message, requestDER))) :
    Follows (speaking lib call) (fun _ _ => True) c (p >>= f) :=
  seals.bind (fun _ out speaks => rest out.1 out.2 (speaks out.1 out.2 rfl)) fun _ _ _ => trivial

theorem enrollment_content (request : EnrollmentRequest) (message : PKIMessage) :
    (withImplicitConfirm lib request (withSenderKID request message)).body = message.body ∧
      (withImplicitConfirm lib request (withSenderKID request message)).header.sender =
        message.header.sender := by
  have implicit := @withImplicitConfirm_content lib request (withSenderKID request message)
  have kid := withSenderKID_content request message
  exact ⟨implicit.1.trans kid.1, implicit.2.trans kid.2⟩

theorem enrollP10CR_speaks (request : EnrollmentRequest) :
    Follows (speaking lib (.enrollP10CR request)) (fun _ _ => True) () (enrollP10CR lib request) := by
  unfold enrollP10CR
  split
  · trivial
  · refine relies_outcome_bind fun _ _ => relies_outcome_bind fun csr _ => ?_
    refine speaks_credentials fun credentials known => ?_
    refine seals_bind ?_ ?_
    · refine follows_ask_bind.mpr ⟨rfl, fun drawn => ?_⟩
      exact protectMessage_seals known ⟨_, _, enrollment_content _ _, .request (by rintro ⟨⟩)⟩
    · intro message requestDER speaks
      refine relies_bind (exchangeMessage_speaks (speaks _)) fun _ accepted => ?_
      exact @completeOrRefuse_speaks lib (.enrollP10CR request) _ _ _ _ _ known

theorem enrollIR_speaks (request : EnrollmentRequest) :
    Follows (speaking lib (.enrollIR request)) (fun _ _ => True) () (enrollIR lib request) := by
  unfold enrollIR
  refine relies_outcome_bind ?_
  rintro ⟨csr, key⟩ _
  refine speaks_credentials fun credentials known => ?_
  refine seals_bind ?_ ?_
  · refine seals_outcome_bind fun template _ => follows_ask_bind.mpr ⟨rfl, fun drawn => ?_⟩
    refine seals_outcome_bind fun messageRequest _ => ?_
    exact protectMessage_seals known ⟨_, _, enrollment_content _ _, .request (by rintro ⟨⟩)⟩
  · intro message requestDER speaks
    refine relies_bind (exchangeMessage_speaks (speaks _)) fun _ accepted => ?_
    exact @completeOrRefuse_speaks lib (.enrollIR request) _ _ _ _ _ known

theorem validateKURProofs_protection {request : EnrollmentRequest} {csr : CertificateRequest} {t : Time}
    {signature : SignatureProtection} {key : Signer}
    (h : validateKURProofs lib request csr t = .ok (signature, key)) :
    request.protection = { password := none, signature := some signature } := by
  unfold validateKURProofs at h
  split at h
  · rename_i password found
    split at h
    · cases h
    · dsimp only at h
      split at h
      · cases h
      · split at h
        · cases h
        · split at h
          · cases h
          · cases h
            cases protection : request.protection
            rw [protection] at password found
            cases password
            cases found
            rfl
  · cases h

theorem validateKURRequest_speaks {request : EnrollmentRequest} :
    Follows (speaking lib call) (fun _ r => ∀ out, r = .ok out →
      request.protection = { password := none, signature := some out.2.1 }) c
      (validateKURRequest lib request) := by
  have none_ok : ∀ {q : CertificateRequest × SignatureProtection × Signer → Prop} {f : Fault GoError},
      ∀ out, Except.error f = .ok out → q out := by rintro _ _ _ ⟨⟩
  refine follows_outcome_bind (fun _ _ => ?_) fun _ _ => none_ok
  refine follows_outcome_bind (fun csr _ => ?_) fun _ _ => none_ok
  refine follows_ask_bind.mpr ⟨rfl, fun instant => ?_⟩
  refine follows_outcome_bind ?_ fun _ _ => none_ok
  rintro ⟨signature, key⟩ proofs _ ⟨⟩
  exact validateKURProofs_protection proofs

theorem enrollKUR_speaks (request : EnrollmentRequest) :
    Follows (speaking lib (.enrollKUR request)) (fun _ _ => True) () (enrollKUR lib request) := by
  unfold enrollKUR
  refine validateKURRequest_speaks.bind ?_ fun _ _ _ => trivial
  rintro _ ⟨csr, signature, key⟩ protection
  have protection := protection _ rfl
  refine speaks_credentials fun credentials known => ?_
  refine seals_bind ?_ ?_
  · refine seals_outcome_bind fun template _ => seals_outcome_bind fun oldCertID _ => ?_
    refine follows_ask_bind.mpr ⟨rfl, fun drawn => ?_⟩
    refine seals_outcome_bind fun messageRequest _ => ?_
    exact protectMessage_seals known ⟨_, _, withImplicitConfirm_content _ _, .update protection⟩
  · intro message requestDER speaks
    refine relies_bind (exchangeMessage_speaks (speaks _)) fun _ accepted => ?_
    exact @completeOrRefuse_speaks lib (.enrollKUR request) _ _ _ _ _ known

theorem pollP10CR_speaks (poll : PollRequest) :
    Follows (speaking lib (.pollP10CR poll)) (fun _ _ => True) () (pollP10CR lib poll) := by
  unfold pollP10CR
  refine relies_outcome_bind fun _ _ => ?_
  split
  · trivial
  · refine relies_outcome_bind fun csr _ => speaks_credentials fun credentials known => ?_
    refine follows_ask_bind.mpr ⟨rfl, fun drawn => ?_⟩
    refine seals_bind ?_ ?_
    · exact protectMessage_seals known ⟨_, _, withSenderKID_content _ _, .request (by rintro ⟨⟩)⟩
    · intro message requestDER speaks
      refine relies_bind (exchangeMessage_speaks (speaks _)) fun _ accepted => ?_
      split
      · exact relies_outcome_bind fun _ _ => trivial
      · exact completeOrRefuse_speaks known

theorem confirmP10CR_speaks (confirm : ConfirmRequest) :
    Follows (speaking lib (.confirmP10CR confirm)) (fun _ _ => True) () (confirmP10CR lib confirm) := by
  unfold confirmP10CR
  refine relies_outcome_bind fun _ _ => ?_
  split
  · trivial
  · split
    · trivial
    · refine relies_outcome_bind fun _ _ => speaks_credentials fun credentials known => ?_
      refine confirmationMessage_speaks.bind ?_ fun _ _ _ => trivial
      rintro _ ⟨built, drawn, operation⟩ content
      exact relies_bind (exchangeProtected_speaks known (content _ rfl)) fun _ _ => relies_outcome

/-- Every method of the client speaks for its call and does nothing else. -/
theorem serve_speaks (lib : Library) (call : ClientCall) :
    Follows (speaking lib call) (fun _ _ => True) () (serve lib call) := by
  cases call with
  | enrollP10CR request => exact enrollP10CR_speaks request
  | enrollIR request => exact enrollIR_speaks request
  | enrollKUR request => exact enrollKUR_speaks request
  | pollP10CR poll => exact pollP10CR_speaks poll
  | confirmP10CR confirm => exact confirmP10CR_speaks confirm

end

/-- The monitor of `Sign` that knows which request the client is serving. -/
def serving (lib : Library) : Monitor interface (Option ClientCall) where
  allows served
    | .send sent => ∃ call, served = some call ∧ Speaks lib call sent
    | _ => True
  next served
    | .call handed, _ => some handed
    | _, _ => served

theorem protocolClient_serving {lib : Library} (served : Option ClientCall) (call : ClientCall) :
    Follows (serving lib) (fun _ _ => True) served (protocolClient lib call) := by
  refine follows_ask_bind.mpr ⟨trivial, fun _ => ?_⟩
  have related : Follows (serving lib) _ (some call) (serve lib call) :=
    (serve_speaks lib call).simulate (R := fun _ served => served = some call) (by
      rintro _ _ o rfl allowed
      cases o with
      | send sent => exact ⟨⟨call, rfl, allowed⟩, fun _ => rfl⟩
      | now | entropy => exact ⟨trivial, fun _ => rfl⟩
      | _ => cases allowed) rfl
  exact related.mono fun _ _ _ => trivial

/-- The request that is being served is the one that was handed over last. -/
theorem serving_run {lib : Library} {job : Job} {t : Trail} {p : Go GoError Bytes} {hold : Hold}
    {call : ClientCall} (path : Path (sign lib job.clusterResourceNamespace job.request job.issuer) t p)
    (served : ((contract lib).run (Session.begin job) t).stage.serving = some (hold, call)) :
    (serving lib).run none t = some call := by
  have last := (sign_follows lib job).keeps
    (I := fun session => ∀ hold call, session.stage.serving = some (hold, call) →
      (serving lib).run none session.trail = some call) ?_ path (by rintro _ _ ⟨⟩) hold call served
  · simpa using last
  · intro session o answer holds allowed hold call served
    show (serving lib).run none (session.trail ++ [⟨o, answer⟩]) = some call
    rw [Monitor.run_append]
    rcases Stage.next_serving served with ⟨_, event⟩ | before
    · cases event
      rfl
    · rw [holds hold call before]
      cases o with
      | call handed =>
          obtain ⟨held, stage, _⟩ := allowed
          rw [stage] at before
          cases before
      | _ => rfl

/-- What `Sign` sends, the client sends for the request it is serving. That request was handed over in the
same call, under the contract. -/
theorem sign_speaks {lib : Library} {job : Job} {t : Trail} {sent : HTTPRequest}
    {next : HTTPAnswer → Go GoError Bytes}
    (path : Path (sign lib job.clusterResourceNamespace job.request job.issuer) t
      (.op (.send sent) next)) :
    ∃ hold call before, ((contract lib).run (Session.begin job) t).stage.serving = some (hold, call) ∧
      before ++ [⟨.call call, ()⟩] <+: t ∧ Hands lib job before hold call ∧ Speaks lib call sent := by
  have free : Undemanding (serving lib) := by
    intro c o plain
    cases o <;> trivial
  have loaders : Loaders (serving lib) lib job := .unguarded free fun _ _ => trivial
  obtain ⟨hold, call, served, _⟩ := Sends.serving ((sign_follows lib job).allows path)
  obtain ⟨before, later, passed, _, hands, _⟩ := (sign_sound path).handed hold call served
  obtain ⟨call', served', speaks⟩ :=
    (sign_relies (c := none) free protocolClient_serving loaders (fun _ _ => trivial) fun _ _ => trivial).allows path
  rw [serving_run path served] at served'
  cases served'
  rw [contract_run_trail, Session.begin_trail, List.nil_append] at passed
  exact ⟨hold, call, before, served, ⟨later, by simpa using passed.symm⟩, by simpa using hands, speaks⟩

end CmpIssuer
