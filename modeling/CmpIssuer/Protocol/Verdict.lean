import CmpIssuer.Protocol.Client

/-!
What a call of the client makes of an answer, as one function of the call: how
the answer is accepted and what an accepted answer means. The outcomes of
`finishTransaction` are listed here once.
-/
namespace CmpIssuer

/-- The request a call works on. An enrollment call fixes the operation. -/
def ClientCall.request : ClientCall → EnrollmentRequest
  | .enrollP10CR request => { request with operation := .p10cr }
  | .enrollIR request => { request with operation := .ir }
  | .enrollKUR request => { request with operation := .kur }
  | .pollP10CR poll => poll.enrollment
  | .confirmP10CR confirm => confirm.enrollment

theorem ClientCall.request_csrDER (call : ClientCall) : call.request.csrDER = call.enrollment.csrDER := by
  cases call <;> rfl

theorem ClientCall.request_cmpTrust (call : ClientCall) :
    call.request.cmpTrust = call.enrollment.cmpTrust := by
  cases call <;> rfl

theorem ClientCall.request_protection (call : ClientCall) :
    call.request.protection = call.enrollment.protection := by
  cases call <;> rfl

theorem ClientCall.request_sender (call : ClientCall) : call.request.sender = call.enrollment.sender := by
  cases call <;> rfl

theorem ClientCall.request_transactionID (call : ClientCall) :
    call.request.transactionID = call.enrollment.transactionID := by
  cases call <;> rfl

theorem ClientCall.request_endpointURL (call : ClientCall) :
    call.request.endpointURL = call.enrollment.endpointURL := by
  cases call <;> rfl

def ClientCall.previousSigner : ClientCall → Option Certificate
  | .pollP10CR poll => poll.responseSigner
  | .confirmP10CR confirm => confirm.responseSigner
  | _ => none

/-- The nonce of a delayed request that an answer may echo instead of the one just sent. -/
def ClientCall.delayedRequestNonce : ClientCall → Bytes
  | .pollP10CR poll => poll.requestNonce
  | .confirmP10CR confirm => confirm.requestNonce
  | _ => []

def confirmationOperation (confirm : ConfirmRequest) : String :=
  if confirm.requestNonce ≠ [] then "pollReq" else "certConf"

def ClientCall.parseOperation : ClientCall → String
  | .enrollP10CR _ => "parse CP"
  | .enrollIR _ => "parse IP"
  | .enrollKUR _ => "parse KUP"
  | .pollP10CR _ => "parse poll response"
  | .confirmP10CR confirm => "parse " ++ confirmationOperation confirm ++ " response"

/-- Whether a call confirms a certificate instead of obtaining one. -/
def ClientCall.confirms : ClientCall → Bool
  | .confirmP10CR _ => true
  | _ => false

def ClientCall.enrolls : ClientCall → Bool
  | .enrollP10CR _ | .enrollIR _ | .enrollKUR _ => true
  | _ => false

/-- A result, or a failure without a refused certificate. -/
def Finished.ofExcept : Except GoError EnrollmentResult → Finished
  | .ok obtained => .result obtained
  | .error err => .failed none err

theorem Finished.ofExcept_eq_result {r : Except GoError EnrollmentResult} {result : EnrollmentResult} :
    Finished.ofExcept r = .result result ↔ r = .ok result := by
  cases r <;> simp [Finished.ofExcept]

/-- The nonce under which a delayed confirmation is polled for. -/
def confirmationNonce (confirm : ConfirmRequest) (built : PKIMessage) : Bytes :=
  if confirm.requestNonce = [] then built.header.senderNonce else confirm.requestNonce

section
variable (lib : Library)

/-- How a call accepts the answer to the message it sent. -/
def ClientCall.accept (call : ClientCall) (t : Time) (message : PKIMessage) (answer : HTTPAnswer) :
    Except GoError (PKIMessage × Option Certificate) :=
  acceptAnswer lib t call.parseOperation message call.request call.previousSigner
    call.delayedRequestNonce answer

/-- What an accepted response means for a call. `built` is the message before its protection. -/
def ClientCall.verdict (call : ClientCall) (t : Time) (csr : CertificateRequest)
    (built message response : PKIMessage) (signer : Option Certificate) : Except String Finished :=
  match call with
  | .confirmP10CR confirm =>
      .ok (.ofExcept (finishConfirmation lib confirm (confirmationNonce confirm built) response))
  | .pollP10CR poll =>
      match response.body with
      | .pollRep reply =>
          .ok (.ofExcept ((extractPollRep response poll.certReqID signer poll.requestNonce reply).map
            fun pending => { pending := some pending }))
      | _ => finishTransaction lib t poll.enrollment response csr signer poll.requestNonce
  | call => finishTransaction lib t call.request response csr signer message.header.senderNonce

def ClientCall.sends (call : ClientCall) (body : Body) : Prop :=
  match call, body with
  | .enrollP10CR request, .p10cr csr => lib.parseCertificateRequest request.csrDER = .ok csr
  | .enrollIR _, .ir _ => True
  | .enrollKUR _, .kur _ => True
  | .pollP10CR poll, .pollReq certReqIDs => certReqIDs = [poll.certReqID]
  | .confirmP10CR confirm, .pollReq certReqIDs =>
      confirm.requestNonce ≠ [] ∧ certReqIDs = [responseCertReqIDStandard]
  | .confirmP10CR confirm, .certConf statuses =>
      confirm.requestNonce = [] ∧ ∃ leaf status, confirm.certificate = some leaf ∧
        lib.newCertStatus leaf confirm.certReqID = .ok status ∧
        statuses = [{ status with statusInfo := none }]
  | _, _ => False

/-- The body of the certConf that refuses a certificate. -/
def RefusesIn (body : Body) : Prop :=
  ∃ (status : CertStatus) (rejection : PKIStatusInfo),
    body = .certConf [{ status with statusInfo := some rejection }] ∧ rejection.status = .rejection

/-- A message under construction still has the body and the identifiers it was built with. -/
structure BuiltFrom (drawn : Entropy) (transactionID : Bytes) (bodies : Body → Prop)
    (built : PKIMessage) : Prop where
  origin : ∃ body options, bodies body ∧ options.transactionID = transactionID ∧
    built.body = (lib.newPKIMessage body options drawn).body ∧
    built.header.transactionID = (lib.newPKIMessage body options drawn).header.transactionID ∧
    built.header.senderNonce = (lib.newPKIMessage body options drawn).header.senderNonce

/-- The CMP library puts the body, the identifiers of its options and the drawn nonce into a message,
and protection changes none of them. -/
structure MessageLaws : Prop where
  body : ∀ body options drawn, (lib.newPKIMessage body options drawn).body = body
  transactionID : ∀ body options drawn, options.transactionID ≠ [] →
    (lib.newPKIMessage body options drawn).header.transactionID = options.transactionID
  senderNonce : ∀ body options drawn,
    (lib.newPKIMessage body options drawn).header.senderNonce = drawn.senderNonce
  protect_body : ∀ credentials drawn message protected_,
    lib.protect credentials drawn message = .ok protected_ → protected_.body = message.body
  protect_transactionID : ∀ credentials drawn message protected_,
    lib.protect credentials drawn message = .ok protected_ →
    protected_.header.transactionID = message.header.transactionID
  protect_senderNonce : ∀ credentials drawn message protected_,
    lib.protect credentials drawn message = .ok protected_ →
    protected_.header.senderNonce = message.header.senderNonce

end

variable {lib : Library}

theorem BuiltFrom.intro {drawn : Entropy} {transactionID : Bytes} {bodies : Body → Prop} {body : Body}
    {options : MessageOptions} (allowed : bodies body) (same : options.transactionID = transactionID) :
    BuiltFrom lib drawn transactionID bodies (lib.newPKIMessage body options drawn) :=
  ⟨body, options, allowed, same, rfl, rfl, rfl⟩

theorem BuiltFrom.withSenderKID {drawn : Entropy} {transactionID : Bytes} {bodies : Body → Prop}
    {built : PKIMessage} (request : EnrollmentRequest)
    (h : BuiltFrom lib drawn transactionID bodies built) :
    BuiltFrom lib drawn transactionID bodies (withSenderKID request built) := by
  unfold CmpIssuer.withSenderKID
  split
  · exact ⟨h.origin⟩
  · exact h

theorem BuiltFrom.withImplicitConfirm {drawn : Entropy} {transactionID : Bytes} {bodies : Body → Prop}
    {built : PKIMessage} (request : EnrollmentRequest)
    (h : BuiltFrom lib drawn transactionID bodies built) :
    BuiltFrom lib drawn transactionID bodies (withImplicitConfirm lib request built) := by
  unfold CmpIssuer.withImplicitConfirm
  split
  · exact ⟨h.origin⟩
  · exact h

/-- What a protected message carries of the message it was built as. -/
theorem BuiltFrom.protected_ {drawn : Entropy} {transactionID : Bytes} {bodies : Body → Prop}
    {built message : PKIMessage} {credentials : Credentials} (laws : MessageLaws lib)
    (h : BuiltFrom lib drawn transactionID bodies built)
    (sealed_ : lib.protect credentials drawn built = .ok message) :
    bodies message.body ∧ message.header.senderNonce = drawn.senderNonce ∧
      built.header.senderNonce = drawn.senderNonce ∧
      (transactionID ≠ [] → message.header.transactionID = transactionID) := by
  obtain ⟨body, options, allowed, same, bodyEq, idEq, nonceEq⟩ := h.origin
  have nonce : built.header.senderNonce = drawn.senderNonce := nonceEq.trans (laws.senderNonce _ _ _)
  refine ⟨?_, (laws.protect_senderNonce _ _ _ _ sealed_).trans nonce, nonce, fun present => ?_⟩
  · rw [laws.protect_body _ _ _ _ sealed_, bodyEq, laws.body]
    exact allowed
  · rw [laws.protect_transactionID _ _ _ _ sealed_, idEq, laws.transactionID _ _ _ (same ▸ present), same]

/-- The results of `finishTransaction`: the server still works on the request, or a certificate of
the requested key that verifies was issued. -/
theorem finishTransaction_result {t : Time} {request : EnrollmentRequest} {response : PKIMessage}
    {csr : CertificateRequest} {signer : Option Certificate} {nonce : Bytes}
    {result : EnrollmentResult}
    (h : finishTransaction lib t request response csr signer nonce = .ok (.result result)) :
    (∃ pending, result = { pending := some pending } ∧
      pending.recipNonce = response.header.senderNonce ∧ pending.requestNonce = nonce ∧
        pending.responseSigner = signer) ∨
    (result.pending = none ∧
      (∀ pending, result.pendingConfirmation = some pending →
        pending.recipNonce = response.header.senderNonce ∧ pending.requestNonce = [] ∧
          pending.responseSigner = signer) ∧
      ∃ leaf rest, result.chain = leaf :: rest ∧ publicKeysEqual lib csr.publicKey leaf.publicKey ∧
        VerifiedChain lib t request.cmpTrust result.chain) := by
  unfold finishTransaction at h
  split at h
  · cases h
  · rename_i issued extracted
    split at h
    · cases h
      exact .inl ⟨_, rfl, rfl, rfl, rfl⟩
    · refine .inr ?_
      dsimp only at h
      split at h
      · cases h
      · split at h
        · cases h
        · rename_i certificate _
          split at h
          · cases h
          · rename_i keys
            split at h
            · cases h
            · rename_i chain ordered
              obtain ⟨head, verified⟩ := validateAndOrderChain_ok ordered
              have finished : result = finishIssued response signer issued
                  (request.implicitConfirm && issued.implicitGranted) chain := by
                split at h
                · split at h
                  · cases h
                  · split at h <;> cases h
                    rfl
                · cases h
                  rfl
              subst finished
              obtain ⟨rest, rfl⟩ : ∃ rest, chain = certificate :: rest := by
                cases chain with
                | nil => cases head
                | cons first rest => cases head; exact ⟨rest, rfl⟩
              have keys : publicKeysEqual lib csr.publicKey certificate.publicKey := by simpa using keys
              unfold finishIssued
              split
              · exact ⟨rfl, by simp, certificate, rest, rfl, keys, verified⟩
              · refine ⟨rfl, ?_, certificate, rest, rfl, keys, verified⟩
                intro pending same
                cases same
                exact ⟨rfl, rfl, rfl⟩

def GoError.typed : GoError → Bool
  | .protocol _ _ _ _ _ => true
  | _ => false

@[simp] theorem permanent_typed {operation failure : String} {err : GoError} :
    (permanent operation failure err).typed = true := rfl

@[simp] theorem retryable_typed {operation failure : String} {err : GoError} :
    (retryable operation failure err).typed = true := rfl

@[simp] theorem security_typed {operation failure : String} {err : GoError} :
    (security operation failure err).typed = true := rfl

theorem mapError_typed {ε α : Type} {f : ε → GoError} {r : Except ε α} {err : GoError}
    (typed : ∀ e, (f e).typed = true) (h : r.mapError f = .error err) : err.typed = true := by
  cases r with
  | ok a => cases h
  | error e => cases h; exact typed e

theorem readAnswer_typed {maximum : Int} {answer : HTTPAnswer} {err : GoError}
    (h : readAnswer lib maximum answer = .error err) : err.typed = true := by
  unfold readAnswer at h
  split at h
  · cases h; rfl
  · dsimp only at h
    split at h
    · cases h; rfl
    · split at h
      · split at h
        · cases h; rfl
        · split at h <;> cases h <;> rfl
      · split at h
        · cases h; rfl
        · split at h
          · cases h; rfl
          · split at h <;> cases h
            rfl

theorem verifyResponse_typed {t : Time} {message response : PKIMessage} {request : EnrollmentRequest}
    {previousSigner : Option Certificate} {nonce : Bytes} {err : GoError}
    (h : verifyResponse lib t message response request previousSigner nonce = .error err) :
    err.typed = true := by
  unfold verifyResponse at h
  split at h
  · cases h; rfl
  · split at h
    · cases h; rfl
    · split at h
      · cases h; rfl
      · split at h
        · cases h; rfl
        · split at h
          · cases h; rfl
          · split at h
            · cases h; rfl
            · split at h <;> cases h
              rfl

theorem acceptAnswer_typed {t : Time} {parseOperation : String} {message : PKIMessage}
    {request : EnrollmentRequest} {previousSigner : Option Certificate} {nonce : Bytes}
    {answer : HTTPAnswer} {err : GoError}
    (h : acceptAnswer lib t parseOperation message request previousSigner nonce answer = .error err) :
    err.typed = true := by
  unfold acceptAnswer at h
  split at h
  · rename_i failed
    cases h
    exact readAnswer_typed failed
  · split at h
    · cases h; rfl
    · split at h
      · rename_i failed
        cases h
        exact verifyResponse_typed failed
      · cases h

theorem classifyStatus_typed {status : PKIStatusInfo} {err : GoError}
    (h : classifyStatus lib status = some err) : err.typed = true := by
  unfold classifyStatus at h
  split at h
  · cases h
  · dsimp only at h
    split at h
    · cases h; rfl
    · split at h
      · cases h; rfl
      · split at h <;> cases h <;> rfl

theorem classifyStatus_eq_none {status : PKIStatusInfo} :
    classifyStatus lib status = none ↔ status.status = .accepted ∨ status.status = .grantedWithMods := by
  unfold classifyStatus
  split
  · simp [*]
  · rename_i failed
    simp only [failed, iff_false]
    split
    · simp
    · split
      · simp
      · split <;> simp

theorem acceptResponseCertReqID_typed {operation : Operation} {observed : Int} {pinned : Option Int}
    {err : GoError} (h : acceptResponseCertReqID operation observed pinned = .error err) :
    err.typed = true := by
  unfold acceptResponseCertReqID at h
  split at h
  · split at h <;> cases h; rfl
  · split at h <;> cases h; rfl
  · split at h
    · split at h <;> cases h; rfl
    · split at h <;> cases h; rfl

theorem parseResponseCertificates_typed {encoded : List CMPCertificate} {seen : List Bytes}
    {err : GoError} (h : parseResponseCertificates lib seen encoded = .error err) : err.typed = true := by
  induction encoded generalizing seen with
  | nil => cases h
  | cons first rest ih =>
      unfold parseResponseCertificates at h
      split at h
      · exact ih h
      · split at h
        · cases h; rfl
        · split at h
          · rename_i failed
            cases h
            exact ih failed
          · cases h

/-- A single CertResponse announces a wait, carries a certificate or is a typed error. -/
theorem extractCertResponse_spec (lib : Library) (response : PKIMessage) (request : EnrollmentRequest)
    (bodyName : String) (caPubs : List CMPCertificate) (certificateResponse : CertResponse) :
    Outcome (fun issued => issued.waiting = true ∨ issued.certificate.isSome = true)
      (fun err => err.typed = true)
      (extractCertResponse lib response request bodyName caPubs certificateResponse) := by
  unfold extractCertResponse
  split
  · exact Or.inl rfl
  · split
    · rename_i classified
      exact classifyStatus_typed classified
    · split
      · split
        · rfl
        · split
          · rfl
          · split
            · rename_i failed
              exact parseResponseCertificates_typed failed
            · exact Or.inr rfl
      · rfl

/-- The error body that reports success: it carries neither a certificate nor an error. -/
def ReportsSuccess (response : PKIMessage) : Prop :=
  ∃ status, response.body = .error (.ok status) ∧
    (status.status = .accepted ∨ status.status = .grantedWithMods)

theorem extractEnrollmentResponse_spec (lib : Library) (response : PKIMessage) (request : EnrollmentRequest) :
    Outcome
      (fun issued => (issued = {} ∧ ReportsSuccess response) ∨
        (¬ ReportsSuccess response ∧ (issued.waiting = true ∨ issued.certificate.isSome = true)))
      (fun err => ¬ ReportsSuccess response ∧ err.typed = true)
      (extractEnrollmentResponse lib response request) := by
  unfold extractEnrollmentResponse
  split
  · rename_i content body
    split
    · refine ⟨?_, rfl⟩
      rintro ⟨status, same, _⟩
      cases body.symm.trans same
    · rename_i status
      split
      · rename_i statusErr classified
        refine ⟨?_, classifyStatus_typed classified⟩
        rintro ⟨status', same, success⟩
        cases body.symm.trans same
        rw [classifyStatus_eq_none.mpr success] at classified
        cases classified
      · rename_i classified
        exact Or.inl ⟨rfl, status, body, classifyStatus_eq_none.mp classified⟩
  · rename_i notError
    have other : ¬ ReportsSuccess response := fun ⟨_, same, _⟩ => notError _ same
    dsimp only
    generalize (if request.operation = .unset then Operation.p10cr else request.operation) = operation
    split
    · exact ⟨other, rfl⟩
    · split
      · exact ⟨other, rfl⟩
      · split
        · split
          · rename_i failed
            exact ⟨other, acceptResponseCertReqID_typed failed⟩
          · exact (extractCertResponse_spec lib _ _ _ _ _).mono (fun _ h => .inr ⟨other, h⟩)
              (fun _ h => ⟨other, h⟩)
        · exact ⟨other, rfl⟩

/-- `finishTransaction` on every response. It panics on an error body that reports success, and on
a certificate for a KUR without a protection certificate. -/
theorem finishTransaction_spec (lib : Library) (t : Time) (request : EnrollmentRequest) (response : PKIMessage)
    (csr : CertificateRequest) (signer : Option Certificate) (nonce : Bytes)
    (signature : request.operation = .kur → request.protection.signature.isSome) :
    Outcome
      (fun finished => ¬ ReportsSuccess response ∧ ∀ refusal err, finished = .failed refusal err →
        err.typed = true ∧ ∀ refused, refusal = some refused → refused.certificate.isSome)
      (fun _ => ReportsSuccess response)
      (finishTransaction lib t request response csr signer nonce) := by
  have extracted := extractEnrollmentResponse_spec lib response request
  unfold finishTransaction
  split
  · rename_i failed
    rw [failed] at extracted
    refine ⟨extracted.1, ?_⟩
    rintro _ _ ⟨⟩
    exact ⟨extracted.2, by simp⟩
  · rename_i issued succeeded
    rw [succeeded] at extracted
    rcases extracted with ⟨rfl, success⟩ | ⟨other, carries⟩
    · exact success
    · split
      · exact ⟨other, by simp⟩
      · rename_i notWaiting
        have present := carries.resolve_left notWaiting
        dsimp only
        generalize verdict : (request.implicitConfirm && issued.implicitGranted) = implicitly
        have refused : ∀ (reason : String) (refusal : RefusedCertificate),
            (if implicitly = true then none else some
              { certificate := issued.certificate, certReqID := issued.certReqID
                recipNonce := response.header.senderNonce, responseSigner := signer
                reason }) = some refusal → refusal.certificate.isSome := by
          intro reason refusal same
          split at same
          · cases same
          · cases same
            exact present
        split
        · refine ⟨other, ?_⟩
          rintro _ _ ⟨⟩
          exact ⟨rfl, refused _⟩
        · split
          · rename_i absent
            rw [absent] at present
            cases present
          · split
            · refine ⟨other, ?_⟩
              rintro _ _ ⟨⟩
              exact ⟨rfl, refused _⟩
            · split
              · refine ⟨other, ?_⟩
                rintro _ _ ⟨⟩
                exact ⟨rfl, refused _⟩
              · split
                · rename_i update
                  split
                  · rename_i absent
                    have present := signature update
                    rw [absent] at present
                    cases present
                  · split
                    · refine ⟨other, ?_⟩
                      rintro _ _ ⟨⟩
                      exact ⟨rfl, refused _⟩
                    · exact ⟨other, by simp⟩
                · exact ⟨other, by simp⟩

theorem pollRepItem_typed {parse validate id mismatch : String} {expected : Int}
    {reply : Except String (List PollRepItem)} {err : GoError}
    (h : pollRepItem parse validate id mismatch expected reply = .error err) : err.typed = true := by
  unfold pollRepItem at h
  split at h
  · cases h; rfl
  · split at h
    · cases h; rfl
    · split at h <;> cases h
      rfl
  · cases h; rfl

theorem extractPollRep_typed {response : PKIMessage} {expected : Int} {signer : Option Certificate}
    {nonce : Bytes} {reply : Except String (List PollRepItem)} {err : GoError}
    (h : extractPollRep response expected signer nonce reply = .error err) : err.typed = true := by
  unfold extractPollRep at h
  split at h
  · rename_i failed
    cases h
    exact pollRepItem_typed failed
  · cases h

theorem confirmationDelay_typed {response : PKIMessage} {err : GoError}
    (h : confirmationDelay lib response = .error err) : err.typed = true := by
  unfold confirmationDelay at h
  dsimp only at h
  split at h
  · cases h; rfl
  · split at h
    · split at h
      · rename_i classified
        cases h
        exact classifyStatus_typed classified
      · cases h; rfl
    · cases h
  · split at h
    · rename_i failed
      cases h
      exact pollRepItem_typed failed
    · cases h
  · cases h; rfl

theorem finishConfirmation_typed {confirm : ConfirmRequest} {nonce : Bytes} {response : PKIMessage}
    {err : GoError} (h : finishConfirmation lib confirm nonce response = .error err) :
    err.typed = true := by
  unfold finishConfirmation at h
  split at h
  · cases h
  · split at h
    · rename_i failed
      cases h
      exact confirmationDelay_typed failed
    · cases h

/-- A confirmation that is delayed is polled for under the nonce of its certConf. -/
theorem finishConfirmation_delayed {confirm : ConfirmRequest} {nonce : Bytes} {response : PKIMessage}
    {result : EnrollmentResult} {next : PendingTransaction}
    (h : finishConfirmation lib confirm nonce response = .ok result)
    (waits : result.pendingConfirmation = some next) :
    next.requestNonce = nonce ∧ ∃ delay, confirmationDelay lib response = .ok delay := by
  unfold finishConfirmation at h
  split at h
  · cases h
    cases waits
  · split at h
    · cases h
    · rename_i delay delayed
      cases h
      cases waits
      exact ⟨rfl, delay, delayed⟩

/-- An accepted response echoes the nonce of the message or of the delayed request before it. -/
theorem verifyResponse_nonce {t : Time} {message response : PKIMessage} {request : EnrollmentRequest}
    {previousSigner signer : Option Certificate} {delayedRequestNonce : Bytes}
    (h : verifyResponse lib t message response request previousSigner delayedRequestNonce = .ok signer) :
    response.header.recipNonce = message.header.senderNonce ∨
      delayedRequestNonce ≠ [] ∧ response.header.recipNonce = delayedRequestNonce := by
  unfold verifyResponse at h
  split at h
  · cases h
  · split at h
    · cases h
    · split at h
      · cases h
      · split at h
        · cases h
        · split at h
          · cases h
          · rename_i acceptable
            simpa [acceptableRecipNonce, or_iff_not_imp_left] using acceptable

/-- A confirmation polls when it has a nonce to poll for, and sends its certConf otherwise. -/
theorem ClientCall.sends.confirmation {confirm : ConfirmRequest} {body : Body}
    (sends : (ClientCall.confirmP10CR confirm).sends lib body) :
    (confirm.requestNonce ≠ [] ∧ body = .pollReq [responseCertReqIDStandard]) ∨
    (confirm.requestNonce = [] ∧ ∃ leaf status, confirm.certificate = some leaf ∧
      lib.newCertStatus leaf confirm.certReqID = .ok status ∧
      body = .certConf [{ status with statusInfo := none }]) := by
  cases body with
  | pollReq =>
      obtain ⟨set, rfl⟩ := sends
      exact .inl ⟨set, rfl⟩
  | certConf =>
      obtain ⟨unset, leaf, status, certificate, hashed, rfl⟩ := sends
      exact .inr ⟨unset, leaf, status, certificate, hashed, rfl⟩
  | _ => cases sends

theorem acceptAnswer_verified {t : Time} {operation : String} {message response : PKIMessage}
    {request : EnrollmentRequest} {previousSigner signer : Option Certificate} {nonce : Bytes}
    {answer : HTTPAnswer}
    (h : acceptAnswer lib t operation message request previousSigner nonce answer = .ok (response, signer)) :
    verifyResponse lib t message response request previousSigner nonce = .ok signer := by
  unfold acceptAnswer at h
  split at h
  · cases h
  · split at h
    · cases h
    · split at h
      · cases h
      · cases h
        assumption

theorem ClientCall.accept_verified {call : ClientCall} {t : Time} {message response : PKIMessage}
    {answer : HTTPAnswer} {signer : Option Certificate}
    (h : call.accept lib t message answer = .ok (response, signer)) :
    verifyResponse lib t message response call.request call.previousSigner call.delayedRequestNonce =
      .ok signer := acceptAnswer_verified h

theorem extractPollRep_ok {response : PKIMessage} {expected : Int} {signer : Option Certificate}
    {nonce : Bytes} {reply : Except String (List PollRepItem)} {pending : PendingTransaction}
    (h : extractPollRep response expected signer nonce reply = .ok pending) :
    pending.recipNonce = response.header.senderNonce ∧ pending.requestNonce = nonce ∧
      pending.responseSigner = signer := by
  unfold extractPollRep at h
  split at h
  · cases h
  · cases h
    exact ⟨rfl, rfl, rfl⟩

/-- The nonce of the enrollment message a call continues. -/
def ClientCall.enrollmentNonce (call : ClientCall) (message : PKIMessage) : Bytes :=
  match call with
  | .pollP10CR poll => poll.requestNonce
  | _ => message.header.senderNonce

/-- The results of an enrollment or a poll: the server still works on the request, or a certificate
of the requested key that verifies was issued. -/
theorem ClientCall.verdict_result {call : ClientCall} {t : Time} {csr : CertificateRequest}
    {built message response : PKIMessage} {signer : Option Certificate} {result : EnrollmentResult}
    (enrolls : call.confirms = false)
    (h : call.verdict lib t csr built message response signer = .ok (.result result)) :
    (∃ pending, result = { pending := some pending } ∧
      pending.recipNonce = response.header.senderNonce ∧
      pending.requestNonce = call.enrollmentNonce message ∧ pending.responseSigner = signer) ∨
    (result.pending = none ∧
      (∀ pending, result.pendingConfirmation = some pending →
        pending.recipNonce = response.header.senderNonce ∧ pending.requestNonce = [] ∧
          pending.responseSigner = signer) ∧
      ∃ leaf rest, result.chain = leaf :: rest ∧ publicKeysEqual lib csr.publicKey leaf.publicKey ∧
        VerifiedChain lib t call.request.cmpTrust result.chain) := by
  cases call with
  | confirmP10CR => cases enrolls
  | enrollP10CR | enrollIR | enrollKUR =>
      have finished := finishTransaction_result h
      exact finished
  | pollP10CR poll =>
      unfold ClientCall.verdict at h
      dsimp only at h
      split at h
      · rename_i reply _
        cases extracted : extractPollRep response poll.certReqID signer poll.requestNonce reply with
        | error err => rw [extracted] at h; cases h
        | ok pending =>
            rw [extracted] at h
            cases h
            exact .inl ⟨pending, rfl, extractPollRep_ok extracted⟩
      · exact finishTransaction_result h

theorem ClientCall.verdict_spec (lib : Library) (call : ClientCall) (t : Time) (csr : CertificateRequest)
    (built message response : PKIMessage) (signer : Option Certificate)
    (signature : call.request.operation = .kur → call.request.protection.signature.isSome) :
    Outcome
      (fun finished => ∀ refusal err, finished = .failed refusal err →
        err.typed = true ∧ ∀ refused, refusal = some refused →
          refused.certificate.isSome ∧ call.confirms = false)
      (fun _ => ReportsSuccess response ∧ call.confirms = false)
      (call.verdict lib t csr built message response signer) := by
  have enrolls : ∀ request nonce, call.confirms = false →
      (request.operation = .kur → request.protection.signature.isSome) →
      Outcome
        (fun finished => ∀ refusal err, finished = .failed refusal err →
          err.typed = true ∧ ∀ refused, refusal = some refused →
            refused.certificate.isSome ∧ call.confirms = false)
        (fun _ => ReportsSuccess response ∧ call.confirms = false)
        (finishTransaction lib t request response csr signer nonce) := by
    intro request nonce enrolls signature
    refine (finishTransaction_spec lib t request response csr signer nonce signature).mono ?_ ?_
    · rintro finished ⟨_, failed⟩ refusal err same
      exact ⟨(failed refusal err same).1, fun refused h => ⟨(failed refusal err same).2 refused h, enrolls⟩⟩
    · exact fun _ success => ⟨success, enrolls⟩
  unfold ClientCall.verdict
  cases call with
  | confirmP10CR confirm =>
      rintro refusal err failed
      cases outcome : finishConfirmation lib confirm (confirmationNonce confirm built) response with
      | ok result => rw [outcome] at failed; cases failed
      | error err' =>
          rw [outcome] at failed
          cases failed
          exact ⟨finishConfirmation_typed outcome, by simp⟩
  | pollP10CR poll =>
      dsimp only
      split
      · rename_i reply _
        rintro refusal err failed
        cases outcome : extractPollRep response poll.certReqID signer poll.requestNonce reply with
        | ok pending => rw [outcome] at failed; cases failed
        | error err' =>
            rw [outcome] at failed
            cases failed
            exact ⟨extractPollRep_typed outcome, by simp⟩
      · exact enrolls _ _ rfl signature
  | enrollP10CR request => exact enrolls _ _ rfl signature
  | enrollIR request => exact enrolls _ _ rfl signature
  | enrollKUR request => exact enrolls _ _ rfl signature

/-- Whether an accepted response tells a call to wait. -/
def ClientCall.waits (lib : Library) (call : ClientCall) (response : PKIMessage) : Bool :=
  match call with
  | .confirmP10CR _ => (confirmationDelay lib response).toBool
  | .pollP10CR poll =>
      match response.body with
      | .pollRep reply => (extractPollRep response poll.certReqID none poll.requestNonce reply).toBool
      | _ => (extractEnrollmentResponse lib response poll.enrollment).toOption.any IssuedCertificate.waiting
  | call => (extractEnrollmentResponse lib response call.request).toOption.any IssuedCertificate.waiting

def ClientCall.delay (call : ClientCall) (result : EnrollmentResult) : Option PendingTransaction :=
  if call.confirms then result.pendingConfirmation else result.pending

theorem finishTransaction_waits {t : Time} {request : EnrollmentRequest} {response : PKIMessage}
    {csr : CertificateRequest} {signer : Option Certificate} {nonce : Bytes}
    (waits : (extractEnrollmentResponse lib response request).toOption.any IssuedCertificate.waiting = true) :
    ∃ result, finishTransaction lib t request response csr signer nonce = .ok (.result result) ∧
      result.pending.isSome := by
  unfold finishTransaction
  cases extracted : extractEnrollmentResponse lib response request with
  | error =>
      rw [extracted] at waits
      cases waits
  | ok issued =>
      rw [extracted] at waits
      have waits : issued.waiting = true := waits
      exact ⟨_, if_pos waits, rfl⟩

theorem extractPollRep_waits {response : PKIMessage} {expected : Int} {nonce : Bytes}
    {reply : Except String (List PollRepItem)} (signer : Option Certificate)
    (waits : (extractPollRep response expected none nonce reply).toBool = true) :
    ∃ pending, extractPollRep response expected signer nonce reply = .ok pending := by
  unfold extractPollRep at waits ⊢
  split at waits
  · cases waits
  · exact ⟨_, rfl⟩

theorem ClientCall.verdict_waits {call : ClientCall} {response : PKIMessage}
    (waits : call.waits lib response = true) (t : Time) (csr : CertificateRequest) (built message : PKIMessage)
    (signer : Option Certificate) : ∃ result,
      call.verdict lib t csr built message response signer = .ok (.result result) ∧
      (call.delay result).isSome := by
  cases call with
  | enrollP10CR | enrollIR | enrollKUR => exact finishTransaction_waits waits
  | pollP10CR poll =>
      unfold ClientCall.waits at waits
      unfold ClientCall.verdict
      dsimp only at waits ⊢
      split at waits
      · rename_i reply body
        obtain ⟨pending, extracted⟩ := extractPollRep_waits signer waits
        rw [extracted]
        exact ⟨_, rfl, rfl⟩
      · exact finishTransaction_waits waits
  | confirmP10CR confirm =>
      have waits : (confirmationDelay lib response).toBool = true := waits
      unfold ClientCall.verdict finishConfirmation
      dsimp only
      cases delayed : confirmationDelay lib response with
      | error =>
          rw [delayed] at waits
          cases waits
      | ok checkAfter =>
          split
          · rename_i body
            rw [confirmationDelay, body] at delayed
            cases delayed
          · exact ⟨_, rfl, rfl⟩

theorem requestCSR_ok {lib : Library} {request : EnrollmentRequest} {csr : CertificateRequest}
    (h : requestCSR lib request = .ok csr) : lib.parseCertificateRequest request.csrDER = .ok csr :=
  mapError_eq_ok.mp h

theorem signedRequestCSR_ok {lib : Library} {request : EnrollmentRequest} {csr : CertificateRequest}
    (h : signedRequestCSR lib request = .ok csr) :
    lib.parseCertificateRequest request.csrDER = .ok csr := by
  unfold signedRequestCSR at h
  split at h
  · cases h
  · rename_i parsed
    split at h <;> cases h
    exact requestCSR_ok parsed

end CmpIssuer
