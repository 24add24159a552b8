import CmpIssuer.Session.Monitor

/-!
The protocol client follows the contract: each call sends the message that
belongs to it, at most one more to refuse a certificate, and returns a result
only from an accepted answer.
-/
namespace CmpIssuer
open Effect

variable {lib : Library} {α : Type}

theorem Understood.waits {exchange : Exchange} {response : PKIMessage} {signer : Option Certificate}
    {verdict : Except String Finished} (understood : Understood lib exchange response signer verdict)
    (waits : exchange.call.waits lib response = true) :
    ∃ result, verdict = .ok (.result result) ∧ (exchange.call.delay result).isSome := by
  obtain ⟨csr, _, built, _, _, _, _, judged⟩ := understood.judged
  obtain ⟨result, same, delayed⟩ :=
    ClientCall.verdict_waits waits exchange.instant csr built exchange.request.message signer
  exact ⟨result, judged.symm.trans same, delayed⟩

theorem Understood.unwaited {exchange : Exchange} {response : PKIMessage} {signer : Option Certificate}
    {refusal : Option RefusedCertificate} {err : GoError}
    (understood : Understood lib exchange response signer (.ok (.failed refusal err))) :
    exchange.Unwaited lib := by
  intro response' signer' accepted
  cases understood.accepted.symm.trans accepted
  by_contra waits
  obtain ⟨_, ⟨⟩, _⟩ := understood.waits (by simpa using waits)

theorem Understood.unwaited_result {exchange : Exchange} {response : PKIMessage} {signer : Option Certificate}
    {result : EnrollmentResult} (understood : Understood lib exchange response signer (.ok (.result result)))
    (none : exchange.call.delay result = none) : exchange.Unwaited lib := by
  intro response' signer' accepted
  cases understood.accepted.symm.trans accepted
  by_contra waits
  obtain ⟨_, ⟨⟩, delayed⟩ := understood.waits (by simpa using waits)
  rw [none] at delayed
  cases delayed

theorem Understood.sends {exchange : Exchange} (laws : MessageLaws lib) {response : PKIMessage}
    {signer : Option Certificate} {verdict : Except String Finished}
    (understood : Understood lib exchange response signer verdict) :
    exchange.call.sends lib exchange.request.message.body := by
  obtain ⟨_, drawn, built, credentials, _, from_, sealed_, _⟩ := understood.judged
  exact (from_.protected_ laws sealed_).1

theorem Records.sends (laws : MessageLaws lib) {record : CMPTransaction} {exchange : Exchange}
    {status : CMPTransactionStatus} {trail : Trail} (records : Records lib trail record exchange status) :
    exchange.call.sends lib exchange.request.message.body := by
  cases records with
  | pending _ understood | confirming _ understood | issued _ understood | delayed _ understood
  | confirmed _ understood => exact understood.sends laws

def Concludes (lib : Library) (hold : Hold) (call : ClientCall) (session : Session) :
    Except (Fault GoError) EnrollmentResult → Prop
  | .ok result => ∃ exchange response signer, session.stage = .examined hold exchange ∧
      exchange.call = call ∧ Understood lib exchange response signer (.ok (.result result))
  | .error (.error err) => err.typed = true ∧ (session.stage = .calling hold call ∨
      ∃ exchange, exchange.call = call ∧
        (session.stage = .examined hold exchange ∨ session.stage = .refusing hold exchange) ∧
        exchange.Unwaited lib)
  | .error (.panic reason) => ∃ exchange response signer, session.stage = .examined hold exchange ∧
      exchange.call = call ∧ call.confirms = false ∧
      Understood lib exchange response signer (.error reason)

theorem Concludes.working {hold : Hold} {call : ClientCall} {session : Session} {err : GoError}
    (h : Concludes lib hold call session (.error (.error err))) :
    session.stage.working = some hold := by
  rcases h.2 with stage | ⟨_, _, stage | stage, _⟩ <;> rw [stage] <;> rfl

theorem Concludes.unwaited {hold : Hold} {call : ClientCall} {session : Session} {err : GoError}
    (h : Concludes lib hold call session (.error (.error err))) {exchange : Exchange}
    (examined : session.stage = .examined hold exchange) : exchange.Unwaited lib := by
  rcases h.2 with stage | ⟨_, _, stage | stage, unwaited⟩ <;> cases stage.symm.trans examined
  exact unwaited

/-- What a call knows when it hands its message to HTTP. -/
structure Ready (lib : Library) (call : ClientCall) (csr : CertificateRequest) (drawn : Entropy)
    (built message : PKIMessage) : Prop where
  parsed : call.confirms = false → lib.parseCertificateRequest call.request.csrDER = .ok csr
  origin : BuiltFrom lib drawn call.request.transactionID (call.sends lib) built
  sealed_ : ∃ credentials, lib.protect credentials drawn built = .ok message

theorem protectMessage_ok {name : String} {credentials : Credentials} {drawn : Entropy}
    {built message : PKIMessage} {requestDER : Bytes}
    (h : protectMessage lib name credentials drawn built = .ok (message, requestDER)) :
    lib.protect credentials drawn built = .ok message := by
  unfold protectMessage at h
  split at h
  · cases h
  · rename_i sealed_
    split at h <;> cases h
    exact sealed_

theorem protectMessage_typed {name : String} {credentials : Credentials} {drawn : Entropy}
    {built : PKIMessage} {err : GoError}
    (h : protectMessage lib name credentials drawn built = .error err) : err.typed = true := by
  unfold protectMessage at h
  split at h
  · cases h; rfl
  · split at h <;> cases h
    rfl

theorem exchangeMessage_follows (call : ClientCall) (csr : CertificateRequest) (drawn : Entropy)
    {hold : Hold} {built message : PKIMessage} {requestDER : Bytes} {job : Job} {trail : Trail}
    {f : Accepted → Go GoError EnrollmentResult}
    (ready : Ready lib call csr drawn built message)
    (last : trail.getLast? = some ⟨.entropy, drawn⟩)
    (rest : ∀ session exchange response signer,
      session.stage = .examined hold exchange → exchange.call = call →
      exchange.request.message = message →
      Understood lib exchange response signer
        (call.verdict lib exchange.instant csr built message response signer) →
      Follows (contract lib) (Concludes lib hold call) session
        (f ⟨response, signer, exchange.instant⟩)) :
    Follows (contract lib) (Concludes lib hold call) ⟨job, trail, .calling hold call⟩
      (exchangeMessage lib call.parseOperation call.request message requestDER call.previousSigner
        call.delayedRequestNonce >>= f) := by
  obtain ⟨credentials, sealed_⟩ := ready.sealed_
  rw [follows_bind]
  unfold exchangeMessage
  refine follows_outcome_bind (fun _ _ => ?_) ?_
  · refine follows_ask_bind.mpr ⟨.inl ⟨hold, call, rfl, rfl, ?_⟩, fun answer => ?_⟩
    · exact ⟨drawn, built, credentials, last, ready.origin, sealed_⟩
    · refine follows_ask_bind.mpr ⟨trivial, fun instant => ?_⟩
      refine follows_outcome_bind ?_ ?_
      · rintro ⟨response, signer⟩ accepted
        refine rest _ ⟨call, ⟨call.request.endpointURL, message, requestDER⟩, answer, instant⟩ response
          signer rfl rfl rfl ?_
        exact ⟨accepted, csr, drawn, built, credentials, ready.parsed, ready.origin, sealed_, rfl⟩
      · intro err failed
        refine ⟨acceptAnswer_typed failed, .inr ⟨_, rfl, .inl rfl, fun _ _ accepted => ?_⟩⟩
        cases failed.symm.trans accepted
  · intro err failed
    exact ⟨mapError_typed (fun _ => rfl) failed, .inl rfl⟩

/-- Delivering a refusal ends in a value or an error, whatever the server makes of it. -/
def Delivers (hold : Hold) (exchange : Exchange) (session : Session) :
    Except (Fault GoError) Unit → Prop
  | .error (.panic _) => False
  | _ => session.stage = .examined hold exchange ∨ session.stage = .refusing hold exchange

theorem deliverRejection_follows {hold : Hold} {exchange : Exchange} {credentials : Credentials}
    {refusal : RefusedCertificate} {response : PKIMessage} {signer : Option Certificate}
    {err : GoError} {session : Session} (stage : session.stage = .examined hold exchange)
    (enrolls : exchange.call.confirms = false) (present : refusal.certificate.isSome)
    (understood : Understood lib exchange response signer (.ok (.failed (some refusal) err))) :
    Follows (contract lib) (Delivers hold exchange) session
      (deliverRejection lib exchange.call.request credentials refusal) := by
  obtain ⟨certificate, present⟩ := Option.isSome_iff_exists.mp present
  obtain ⟨job, trail, _⟩ := session
  subst stage
  unfold deliverRejection
  dsimp only
  rw [follows_bind]
  unfold confirmationMessage
  rw [present]
  refine follows_outcome_bind (fun status _ => ?_) (fun _ _ => .inl rfl)
  refine follows_ask_bind.mpr ⟨trivial, fun drawn => ?_⟩
  rw [if_neg (by simp)]
  rw [follows_pure', then_ok]
  dsimp only
  rw [follows_bind]
  unfold exchangeProtected
  refine follows_outcome_bind ?_ (fun _ _ => .inl rfl)
  rintro ⟨message, requestDER⟩ sealed_
  have sealed_ := protectMessage_ok sealed_
  unfold exchangeMessage
  refine follows_outcome_bind (fun _ _ => ?_) (fun _ _ => .inl rfl)
  refine follows_ask_bind.mpr ⟨.inr ⟨hold, exchange, rfl, ⟨rfl, drawn, _, credentials, ?_, ?_, sealed_⟩,
    enrolls, response, signer, refusal, err, understood⟩, fun answer => ?_⟩
  · simp [contract]
  · exact BuiltFrom.withSenderKID _ (.intro ⟨status, _, rfl, rfl⟩ rfl)
  · refine follows_ask_bind.mpr ⟨trivial, fun instant => ?_⟩
    refine follows_outcome_bind (fun accepted _ => ?_) (fun _ _ => .inr rfl)
    rw [follows_pure', then_ok]
    split <;> exact .inr rfl

theorem annotateRefusal_typed {reason deliveryErr : GoError} (typed : reason.typed = true) :
    (annotateRefusal reason deliveryErr).typed = true := by
  cases reason with
  | protocol => rfl
  | _ => cases typed

theorem rejectCertificate_follows {hold : Hold} {exchange : Exchange} {credentials : Credentials}
    {refusal : RefusedCertificate} {response : PKIMessage} {signer : Option Certificate}
    {err : GoError} {session : Session} (stage : session.stage = .examined hold exchange)
    (enrolls : exchange.call.confirms = false) (typed : err.typed = true)
    (present : refusal.certificate.isSome)
    (understood : Understood lib exchange response signer (.ok (.failed (some refusal) err))) :
    Follows (contract lib) (Concludes lib hold exchange.call) session
      (rejectCertificate lib exchange.call.request credentials refusal err) := by
  unfold rejectCertificate
  rw [follows_bind, follows_tried]
  refine (deliverRejection_follows stage enrolls present understood).mono ?_
  rintro session ((deliveryErr | reason) | ⟨⟩) delivered
  · exact ⟨annotateRefusal_typed typed, .inr ⟨exchange, rfl, delivered, understood.unwaited⟩⟩
  · exact delivered.elim
  · exact ⟨typed, .inr ⟨exchange, rfl, delivered, understood.unwaited⟩⟩

theorem completeOrRefuse_follows {hold : Hold} {exchange : Exchange} {credentials : Credentials}
    {response : PKIMessage} {signer : Option Certificate} {csr : CertificateRequest}
    {nonce : Bytes} {session : Session} (built : PKIMessage)
    (stage : session.stage = .examined hold exchange) (enrolls : exchange.call.confirms = false)
    (signature : exchange.call.request.operation = .kur →
      exchange.call.request.protection.signature.isSome)
    (judged : exchange.call.verdict lib exchange.instant csr built exchange.request.message response
      signer = finishTransaction lib exchange.instant exchange.call.request response csr signer nonce)
    (understood : Understood lib exchange response signer (exchange.call.verdict lib exchange.instant
      csr built exchange.request.message response signer)) :
    Follows (contract lib) (Concludes lib hold exchange.call) session
      (completeOrRefuse lib exchange.call.request credentials ⟨response, signer, exchange.instant⟩ csr
        nonce) := by
  have spec := ClientCall.verdict_spec lib exchange.call exchange.instant csr built
    exchange.request.message response signer signature
  rw [judged] at spec understood
  unfold completeOrRefuse
  dsimp only
  cases verdict : finishTransaction lib exchange.instant exchange.call.request response csr signer
      nonce with
  | error reason =>
      rw [verdict] at understood
      exact ⟨exchange, response, signer, stage, rfl, enrolls, understood⟩
  | ok finished =>
      rw [verdict] at understood spec
      cases finished with
      | result result => exact ⟨exchange, response, signer, stage, rfl, understood⟩
      | failed refusal err =>
          obtain ⟨typed, refused⟩ := spec refusal err rfl
          cases refusal with
          | none => exact ⟨typed, .inr ⟨exchange, rfl, .inl stage, understood.unwaited⟩⟩
          | some refusal =>
              exact rejectCertificate_follows stage enrolls typed (refused refusal rfl).1 understood

theorem enrollmentExchange_follows (call : ClientCall) (drawn : Entropy) {hold : Hold}
    {csr : CertificateRequest} {built message : PKIMessage} {requestDER : Bytes}
    {credentials : Credentials} {job : Job} {trail : Trail} (ready : Ready lib call csr drawn built message)
    (last : trail.getLast? = some ⟨.entropy, drawn⟩) (enrolls : call.confirms = false)
    (signature : call.request.operation = .kur → call.request.protection.signature.isSome)
    (judged : ∀ t response signer, call.verdict lib t csr built message response signer =
      finishTransaction lib t call.request response csr signer message.header.senderNonce) :
    Follows (contract lib) (Concludes lib hold call) ⟨job, trail, .calling hold call⟩
      (exchangeMessage lib call.parseOperation call.request message requestDER call.previousSigner
        call.delayedRequestNonce >>= fun accepted =>
          completeOrRefuse lib call.request credentials accepted csr message.header.senderNonce) := by
  refine exchangeMessage_follows call csr drawn ready last ?_
  rintro session ⟨_, _, answer, instant⟩ response signer stage rfl rfl understood
  exact completeOrRefuse_follows built stage enrolls signature (judged _ _ _) understood

theorem validateRequestProtection_typed {protection : Protection} {err : GoError}
    (h : validateRequestProtection lib protection = .error err) : err.typed = true := by
  unfold validateRequestProtection at h
  split at h
  · split at h
    · cases h; rfl
    · split at h
      · cases h; rfl
      · split at h <;> cases h
        rfl
  · split at h <;> cases h
    rfl
  · cases h; rfl

theorem validateEnrollmentRequest_typed {request : EnrollmentRequest} {err : GoError}
    (h : validateEnrollmentRequest lib request = .error err) : err.typed = true := by
  unfold validateEnrollmentRequest at h
  split at h
  · cases h; rfl
  · split at h
    · cases h; rfl
    · split at h
      · cases h; rfl
      · split at h
        · cases h; rfl
        · split at h
          · cases h; rfl
          · exact validateRequestProtection_typed h

theorem validateEnrollmentRequest_protected {request : EnrollmentRequest}
    (h : validateEnrollmentRequest lib request = .ok ()) :
    request.protection.password.isSome ∨ request.protection.signature.isSome := by
  unfold validateEnrollmentRequest at h
  split at h
  · cases h
  · split at h
    · cases h
    · split at h
      · cases h
      · split at h
        · cases h
        · split at h
          · cases h
          · unfold validateRequestProtection at h
            split at h
            · rename_i found _
              exact .inl (by rw [found]; rfl)
            · rename_i found
              exact .inr (by rw [found]; rfl)
            · cases h

theorem requestCSR_typed {request : EnrollmentRequest} {err : GoError}
    (h : requestCSR lib request = .error err) : err.typed = true :=
  mapError_typed (fun _ => rfl) h

theorem signedRequestCSR_typed {request : EnrollmentRequest} {err : GoError}
    (h : signedRequestCSR lib request = .error err) : err.typed = true := by
  unfold signedRequestCSR at h
  split at h
  · rename_i failed
    cases h
    exact requestCSR_typed failed
  · split at h <;> cases h
    rfl

theorem requestedKey_typed {name : String} {request : EnrollmentRequest} {csr : CertificateRequest}
    {err : GoError} (h : requestedKey lib name request csr = .error err) : err.typed = true := by
  unfold requestedKey at h
  dsimp only at h
  split at h
  · cases h; rfl
  · split at h <;> cases h
    rfl

theorem certificateTemplate_typed {request : EnrollmentRequest} {key : Signer}
    {csr : CertificateRequest} {subject : GeneralName} {err : GoError}
    (h : certificateTemplate lib request key csr subject = .error err) : err.typed = true := by
  unfold certificateTemplate at h
  split at h
  · cases h; rfl
  · dsimp only at h
    split at h
    · cases h
    · split at h <;> cases h
      rfl

theorem certReqMsg_typed {name : String} {request : EnrollmentRequest} {key : Signer} {drawn : Entropy}
    {template : CertTemplate} {controls : List Bytes} {err : GoError}
    (h : certReqMsg lib name request key drawn template controls = .error err) : err.typed = true := by
  unfold certReqMsg at h
  dsimp only at h
  split at h <;> cases h
  rfl

theorem credentialsFor_outcome {request : EnrollmentRequest}
    (protected_ : request.protection.password.isSome ∨ request.protection.signature.isSome) :
    ∃ r, credentialsFor lib request = ofExcept r := by
  unfold credentialsFor
  split
  · split
    · exact ⟨.error _, rfl⟩
    · exact ⟨_, rfl⟩
  · split
    · exact ⟨.error _, rfl⟩
    · split
      · exact ⟨.ok _, rfl⟩
      · exact ⟨_, rfl⟩
  · rename_i noPassword noSignature
    simp [noPassword, noSignature] at protected_

/-- Building the credentials of a validated request asks for nothing. -/
theorem configuredCredentials_follows {C : Type} {M : Monitor interface C} {c : C}
    {Q : C → Except (Fault GoError) α → Prop} {operation : String} {request : EnrollmentRequest}
    {f : Credentials → Go GoError α} (validated : validateEnrollmentRequest lib request = .ok ())
    (value : ∀ credentials, Follows M Q c (f credentials))
    (failure : ∀ err, err.typed = true → Q c (.error (.error err))) :
    Follows M Q c (configuredCredentials lib operation request >>= f) := by
  obtain ⟨r, same⟩ := credentialsFor_outcome (validateEnrollmentRequest_protected validated)
  unfold configuredCredentials
  rw [same]
  cases r with
  | ok credentials => exact value credentials
  | error err => exact failure _ rfl

section
variable {hold : Hold} {job : Job} {trail : Trail}

theorem enrollP10CR_follows {request : EnrollmentRequest} :
    Follows (contract lib) (Concludes lib hold (.enrollP10CR request))
      ⟨job, trail, .calling hold (.enrollP10CR request)⟩ (enrollP10CR lib request) := by
  unfold enrollP10CR
  split
  · exact ⟨rfl, .inl rfl⟩
  · refine follows_outcome_bind (fun _ validated => ?_)
      (fun err failed => ⟨validateEnrollmentRequest_typed failed, .inl rfl⟩)
    refine follows_outcome_bind (fun csr parsed => ?_)
      (fun err failed => ⟨signedRequestCSR_typed failed, .inl rfl⟩)
    have parses := signedRequestCSR_ok parsed
    refine configuredCredentials_follows validated (fun credentials => ?_)
      (fun err typed => ⟨typed, .inl rfl⟩)
    unfold protectedEnrollment
    rw [follows_bind]
    refine follows_ask_bind.mpr ⟨trivial, fun drawn => ?_⟩
    refine follows_outcome.mpr ?_
    cases outcome : protectMessage lib "P10CR" credentials drawn _ with
    | error err => exact ⟨protectMessage_typed outcome, .inl rfl⟩
    | ok out =>
        refine enrollmentExchange_follows (.enrollP10CR request) drawn
          ⟨fun _ => parses, ?_, credentials, protectMessage_ok outcome⟩ (by simp) rfl (by rintro ⟨⟩)
          (fun _ _ _ => rfl)
        exact .withImplicitConfirm _ (.withSenderKID _ (.intro parses rfl))

theorem validateIRRequest_ok {request : EnrollmentRequest} {csr : CertificateRequest} {key : Signer}
    (h : validateIRRequest lib request = .ok (csr, key)) :
    validateEnrollmentRequest lib { request with operation := .ir } = .ok () ∧
      lib.parseCertificateRequest request.csrDER = .ok csr := by
  unfold validateIRRequest at h
  simp only [bind, Except.bind] at h
  split at h
  · cases h
  · rename_i validated
    split at h
    · cases h
    · rename_i parsed
      split at h
      · cases h
      · cases h
        exact ⟨validated, signedRequestCSR_ok parsed⟩

theorem validateIRRequest_typed {request : EnrollmentRequest} {err : GoError}
    (h : validateIRRequest lib request = .error err) : err.typed = true := by
  unfold validateIRRequest at h
  simp only [bind, Except.bind] at h
  split at h
  · rename_i failed
    cases h
    exact validateEnrollmentRequest_typed failed
  · split at h
    · rename_i failed
      cases h
      exact signedRequestCSR_typed failed
    · split at h
      · rename_i failed
        cases h
        exact requestedKey_typed failed
      · cases h

theorem enrollIR_follows {request : EnrollmentRequest} :
    Follows (contract lib) (Concludes lib hold (.enrollIR request))
      ⟨job, trail, .calling hold (.enrollIR request)⟩ (enrollIR lib request) := by
  unfold enrollIR
  refine follows_outcome_bind ?_ (fun err failed => ⟨validateIRRequest_typed failed, .inl rfl⟩)
  rintro ⟨csr, key⟩ checked
  obtain ⟨validated, parses⟩ := validateIRRequest_ok checked
  refine configuredCredentials_follows validated (fun credentials => ?_)
    (fun err typed => ⟨typed, .inl rfl⟩)
  unfold protectedIR
  rw [follows_bind]
  refine follows_outcome_bind (fun template _ => ?_)
    (fun err failed => ⟨certificateTemplate_typed failed, .inl rfl⟩)
  refine follows_ask_bind.mpr ⟨trivial, fun drawn => ?_⟩
  refine follows_outcome_bind (fun messageRequest _ => ?_)
    (fun err failed => ⟨certReqMsg_typed failed, .inl rfl⟩)
  refine follows_outcome.mpr ?_
  cases outcome : protectMessage lib "IR" credentials drawn _ with
  | error err => exact ⟨protectMessage_typed outcome, .inl rfl⟩
  | ok out =>
      refine enrollmentExchange_follows (.enrollIR request) drawn
        ⟨fun _ => parses, ?_, credentials, protectMessage_ok outcome⟩ (by simp) rfl (by rintro ⟨⟩)
        (fun _ _ _ => rfl)
      exact .withImplicitConfirm _ (.withSenderKID _ (.intro trivial rfl))

theorem validateKURProofs_ok {request : EnrollmentRequest} {csr : CertificateRequest} {t : Time}
    {signature : SignatureProtection} {key : Signer}
    (h : validateKURProofs lib request csr t = .ok (signature, key)) :
    request.protection.signature = some signature := by
  unfold validateKURProofs at h
  split at h
  · rename_i found
    split at h
    · cases h
    · dsimp only at h
      split at h
      · cases h
      · split at h
        · cases h
        · split at h <;> cases h
          exact found
  · cases h

theorem validateKURProofs_typed {request : EnrollmentRequest} {csr : CertificateRequest} {t : Time}
    {err : GoError} (h : validateKURProofs lib request csr t = .error err) : err.typed = true := by
  unfold validateKURProofs at h
  split at h
  · split at h
    · rename_i failed
      cases h
      exact requestedKey_typed failed
    · dsimp only at h
      split at h
      · cases h; rfl
      · split at h
        · cases h; rfl
        · split at h <;> cases h
          rfl
  · cases h; rfl

theorem enrollKUR_follows {request : EnrollmentRequest} :
    Follows (contract lib) (Concludes lib hold (.enrollKUR request))
      ⟨job, trail, .calling hold (.enrollKUR request)⟩ (enrollKUR lib request) := by
  unfold enrollKUR
  rw [follows_bind]
  unfold validateKURRequest
  refine follows_outcome_bind (fun _ validated => ?_)
    (fun err failed => ⟨validateEnrollmentRequest_typed failed, .inl rfl⟩)
  refine follows_outcome_bind (fun csr parsed => ?_)
    (fun err failed => ⟨signedRequestCSR_typed failed, .inl rfl⟩)
  refine follows_ask_bind.mpr ⟨trivial, fun t => ?_⟩
  refine follows_outcome_bind ?_ (fun err failed => ⟨validateKURProofs_typed failed, .inl rfl⟩)
  rintro ⟨signature, key⟩ proved
  have found := validateKURProofs_ok proved
  refine configuredCredentials_follows validated (fun credentials => ?_)
    (fun err typed => ⟨typed, .inl rfl⟩)
  unfold protectedKUR
  rw [follows_bind]
  refine follows_outcome_bind (fun template _ => ?_)
    (fun err failed => ⟨certificateTemplate_typed failed, .inl rfl⟩)
  refine follows_outcome_bind (fun oldCertID _ => ?_)
    (fun err failed => ⟨mapError_typed (fun _ => rfl) failed, .inl rfl⟩)
  refine follows_ask_bind.mpr ⟨trivial, fun drawn => ?_⟩
  refine follows_outcome_bind (fun messageRequest _ => ?_)
    (fun err failed => ⟨certReqMsg_typed failed, .inl rfl⟩)
  refine follows_outcome.mpr ?_
  cases outcome : protectMessage lib "KUR" credentials drawn _ with
  | error err => exact ⟨protectMessage_typed outcome, .inl rfl⟩
  | ok out =>
      refine enrollmentExchange_follows (.enrollKUR request) drawn
        ⟨fun _ => signedRequestCSR_ok parsed, ?_, credentials, protectMessage_ok outcome⟩ (by simp) rfl
        (fun _ => ?_) (fun _ _ _ => rfl)
      · exact .withImplicitConfirm _ (.intro trivial rfl)
      · exact Option.isSome_iff_exists.mpr ⟨signature, found⟩

theorem pollP10CR_follows {poll : PollRequest}
    (signature : poll.enrollment.operation = .kur → poll.enrollment.protection.signature.isSome) :
    Follows (contract lib) (Concludes lib hold (.pollP10CR poll))
      ⟨job, trail, .calling hold (.pollP10CR poll)⟩ (pollP10CR lib poll) := by
  unfold pollP10CR
  refine follows_outcome_bind (fun _ validated => ?_)
    (fun err failed => ⟨validateEnrollmentRequest_typed failed, .inl rfl⟩)
  split
  · exact ⟨rfl, .inl rfl⟩
  · refine follows_outcome_bind (fun csr parsed => ?_)
      (fun err failed => ⟨requestCSR_typed failed, .inl rfl⟩)
    refine configuredCredentials_follows validated (fun credentials => ?_)
      (fun err typed => ⟨typed, .inl rfl⟩)
    refine follows_ask_bind.mpr ⟨trivial, fun drawn => ?_⟩
    refine follows_outcome_bind ?_ (fun err failed => ⟨protectMessage_typed failed, .inl rfl⟩)
    rintro ⟨message, requestDER⟩ sealed_
    refine exchangeMessage_follows (.pollP10CR poll) csr drawn
      ⟨fun _ => requestCSR_ok parsed, .withSenderKID _ (.intro (by exact rfl) rfl), credentials,
        protectMessage_ok sealed_⟩ (by simp) ?_
    rintro session ⟨call, request, answer, instant⟩ response signer stage rfl rfl understood
    dsimp only at understood ⊢
    split
    · rename_i reply body
      simp only [ClientCall.verdict, body] at understood
      refine follows_outcome_bind (fun pending extracted => ?_) (fun err failed => ?_)
      · rw [extracted] at understood
        exact ⟨_, response, signer, stage, rfl, understood⟩
      · rw [failed] at understood
        exact ⟨extractPollRep_typed failed, .inr ⟨_, rfl, .inl stage, Understood.unwaited understood⟩⟩
    · rename_i notPollRep
      refine completeOrRefuse_follows _ stage rfl signature ?_ understood
      unfold ClientCall.verdict
      dsimp only
      split
      · rename_i reply body
        exact (notPollRep reply body).elim
      · rfl

/-- The exchange of a certConf or of the pollReq for its delayed answer. -/
theorem confirmationExchange_follows {confirm : ConfirmRequest} {credentials : Credentials}
    {drawn : Entropy} {built : PKIMessage} (last : trail.getLast? = some ⟨.entropy, drawn⟩)
    (origin : BuiltFrom lib drawn confirm.enrollment.transactionID
      ((ClientCall.confirmP10CR confirm).sends lib) built) :
    Follows (contract lib) (Concludes lib hold (.confirmP10CR confirm))
      ⟨job, trail, .calling hold (.confirmP10CR confirm)⟩
      (exchangeProtected lib confirm.enrollment credentials built drawn confirm.responseSigner
        confirm.requestNonce (confirmationOperation confirm) >>= fun accepted =>
          ofExcept (finishConfirmation lib confirm (confirmationNonce confirm built)
            accepted.response)) := by
  rw [follows_bind]
  unfold exchangeProtected
  refine follows_outcome_bind ?_ (fun err failed => ⟨protectMessage_typed failed, .inl rfl⟩)
  rintro ⟨message, requestDER⟩ sealed_
  refine follows_bind.mp (exchangeMessage_follows (.confirmP10CR confirm) ⟨[], [], .other [], []⟩ drawn
    ⟨by rintro ⟨⟩, origin, credentials, protectMessage_ok sealed_⟩ last ?_)
  rintro session exchange response signer stage called rfl understood
  refine follows_outcome.mpr ?_
  simp only [ClientCall.verdict] at understood
  cases finished : finishConfirmation lib confirm (confirmationNonce confirm built) response with
  | error err =>
      rw [finished] at understood
      exact ⟨finishConfirmation_typed finished, .inr ⟨exchange, called, .inl stage,
        Understood.unwaited understood⟩⟩
  | ok result =>
      rw [finished] at understood
      exact ⟨exchange, response, signer, stage, called, understood⟩

theorem confirmP10CR_follows {confirm : ConfirmRequest} :
    Follows (contract lib) (Concludes lib hold (.confirmP10CR confirm))
      ⟨job, trail, .calling hold (.confirmP10CR confirm)⟩ (confirmP10CR lib confirm) := by
  unfold confirmP10CR
  refine follows_outcome_bind (fun _ validated => ?_)
    (fun err failed => ⟨validateEnrollmentRequest_typed failed, .inl rfl⟩)
  split
  · exact ⟨rfl, .inl rfl⟩
  · rename_i certificate present
    split
    · exact ⟨rfl, .inl rfl⟩
    · refine follows_outcome_bind (fun _ _ => ?_)
        (fun err failed => ⟨mapError_typed (fun _ => rfl) failed, .inl rfl⟩)
      refine configuredCredentials_follows validated (fun credentials => ?_)
        (fun err typed => ⟨typed, .inl rfl⟩)
      unfold confirmationMessage
      rw [follows_bind, present]
      refine follows_outcome_bind (fun status hashed => ?_)
        (fun err failed => ⟨mapError_typed (fun _ => rfl) failed, .inl rfl⟩)
      rw [mapError_eq_ok] at hashed
      refine follows_ask_bind.mpr ⟨trivial, fun drawn => ?_⟩
      by_cases delayed : confirm.requestNonce ≠ []
      · have named : confirmationOperation confirm = "pollReq" := if_pos delayed
        rw [if_pos delayed, ← named]
        refine confirmationExchange_follows (by simp) (.withSenderKID _ ?_)
        have polls : (ClientCall.confirmP10CR confirm).sends lib
            (.pollReq [responseCertReqIDStandard]) := ⟨delayed, rfl⟩
        split
        · exact ⟨_, messageOptions lib confirm.enrollment (requestSender lib confirm.enrollment)
            confirm.recipNonce, polls, rfl, rfl, rfl, rfl⟩
        · exact .intro polls rfl
      · have named : confirmationOperation confirm = "certConf" := if_neg delayed
        rw [if_neg delayed, ← named]
        refine confirmationExchange_follows (by simp) (.withSenderKID _ (.intro ?_ rfl))
        exact ⟨not_not.mp delayed, certificate, status, present, hashed, rfl⟩

/-- What one part of a call leaves as it was for the next. -/
structure Carries (before after : Session) : Prop where
  job : after.job = before.job
  seen : before.trail <+: after.trail
  unread : secretsRead after.trail = secretsRead before.trail

theorem Carries.trans {s t u : Session} (first : Carries s t) (second : Carries t u) : Carries s u :=
  ⟨second.job.trans first.job, first.seen.trans second.seen, second.unread.trans first.unread⟩

/-- The examination of an answer happened at an instant the call asked for. -/
def Stamped (session : Session) : Prop :=
  ∀ hold exchange, session.stage = .examined hold exchange →
    (⟨.now, exchange.instant⟩ : Event interface) ∈ session.trail

/-- An exchange is examined when the clock was read after its answer, or was so before. -/
theorem Stage.next_examined {stage : Stage} {o : Op} {answer : o.Answer} {exchange : Exchange}
    (h : stage.next job o answer = .examined hold exchange) :
    stage = .examined hold exchange ∨
      (⟨.now, exchange.instant⟩ : Event interface) = ⟨o, answer⟩ := by
  cases o with
  | now =>
      cases stage with
      | answered => cases h; exact .inr rfl
      | _ => exact .inl h
  | random | entropy | getSecret | getCertificate => exact .inl h
  | call | send => cases stage <;> first | exact .inl h | cases h
  | createTransaction | updateTransactionStatus => cases answer <;> cases h
  | getTransaction =>
      cases answer <;> simp only [Stage.next] at h <;> split at h <;> cases h
  | deleteTransaction =>
      cases answer <;> cases stage <;> simp only [Stage.next, afterDelete] at h <;>
        first | cases h | (split at h <;> cases h)

theorem Stamped.next {session : Session} {o : Op} {answer : o.Answer} (h : Stamped session) :
    Stamped ((contract lib).next session o answer) := by
  intro hold exchange examined
  refine List.mem_append.mpr ?_
  rcases Stage.next_examined examined with before | read
  · exact .inl (h hold exchange before)
  · exact .inr (List.mem_singleton.mpr read)

theorem serve_follows {call : ClientCall}
    (signature : call.enrollment.operation = .kur → call.enrollment.protection.signature.isSome) :
    Follows (contract lib) (Concludes lib hold call) ⟨job, trail, .calling hold call⟩
      (serve lib call) := by
  cases call with
  | enrollP10CR request => exact enrollP10CR_follows
  | enrollIR request => exact enrollIR_follows
  | enrollKUR request => exact enrollKUR_follows
  | pollP10CR poll => exact pollP10CR_follows signature
  | confirmP10CR confirm => exact confirmP10CR_follows

/-- The client follows the contract from a request it may be handed. -/
theorem protocolClient_follows {call : ClientCall} (session : Session)
    (stage : session.stage = .held hold)
    (hands : Hands lib session.job session.trail hold call) :
    Follows (contract lib) (fun s r => Concludes lib hold call s r ∧ Carries session s ∧ Stamped s)
      session (protocolClient lib call) := by
  obtain ⟨job, trail, _⟩ := session
  subst stage
  refine follows_ask_bind.mpr ⟨⟨hold, rfl, hands⟩, fun _ => ?_⟩
  have late : HandedOver (trail ++ [⟨.call call, ()⟩]) := ⟨call, by simp⟩
  have follows : Follows (contract lib) (Concludes lib hold call)
      ⟨job, trail ++ [⟨.call call, ()⟩], .calling hold call⟩ (serve lib call) :=
    serve_follows hands.enrolls.signature
  have carried := Follows.unread (Follows.extends follows) late
  refine (carried.stable (fun _ _ _ h _ => Stamped.next h) (by rintro _ _ ⟨⟩)).mono ?_
  rintro s r ⟨⟨⟨concludes, same, seen⟩, _, unread⟩, stamped⟩
  refine ⟨concludes, ⟨same, (List.prefix_append _ _).trans seen, unread.trans ?_⟩, stamped⟩
  simp [secretRead]

end

end CmpIssuer
