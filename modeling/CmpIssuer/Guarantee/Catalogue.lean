import CmpIssuer.Controller.Signer
import CmpIssuer.Effect.Outcome

/-!
The errors of the client and of `Sign`. A failure of the client has a class, a
retry delay that belongs to the class and one of finitely many names, whatever
a server answers. `Sign` turns it into an error that issuer-lib understands.
-/
namespace CmpIssuer
open Effect

section
variable {ε ε' α β : Type} {P : ε → Prop}

def Raised (P : ε → Prop) : Fault ε → Prop
  | .error err => P err
  | .panic _ => True

/-- Every error a call returns satisfies `P`. -/
def Raises (P : ε → Prop) (call : Go ε α) : Prop := Ends (fun _ => True) (Raised P) call

theorem raises_fail {err : ε} (h : P err) : Raises P (fail err : Go ε α) := h

theorem raises_pure (a : α) : Raises P (.pure a : Go ε α) := trivial

theorem raises_panic (reason : String) : Raises P (.throw (.panic reason) : Go ε α) := trivial

theorem raises_outcome {r : Except ε α} (h : ∀ err, r = .error err → P err) :
    Raises P (ofExcept r : Go ε α) := by
  cases r with
  | ok a => trivial
  | error err => exact h err rfl

theorem Raises.bind {call : Go ε α} {f : α → Go ε β} (first : Raises P call) (rest : ∀ a, Raises P (f a)) :
    Raises P (call >>= f) :=
  Ends.bind first fun a _ => rest a

theorem raises_ask_bind {o : Op} {f : o.Answer → Go ε β} (rest : ∀ answer, Raises P (f answer)) :
    Raises P (ask o >>= f) :=
  ends_perform_bind.mpr rest

theorem Raises.mapError {call : Go ε α} {f : ε → ε'} {Q : ε' → Prop} (h : Raises P call)
    (mapped : ∀ err, P err → Q (f err)) : Raises Q (call.mapError (Fault.map f)) := by
  refine ends_mapError.mpr (Ends.mono h (fun _ _ => trivial) ?_)
  rintro (err | reason) raised
  · exact mapped err raised
  · trivial

theorem Raises.attempted {call : Go ε α} {Q : ε' → Prop} (h : Raises P call) :
    Ends (fun tried => Settles (fun _ => True) P tried) (Raised Q) (attempt call) := by
  refine ends_attempt.mpr (Ends.mono h (fun _ _ => trivial) ?_)
  rintro (err | reason) raised <;> exact raised

theorem Raises.attempt_bind {call : Go ε α} {Q : ε' → Prop} {f : Except ε α → Go ε' β} (h : Raises P call)
    (value : ∀ a, Raises Q (f (.ok a))) (failure : ∀ err, P err → Raises Q (f (.error err))) :
    Raises Q (attempt call >>= f) := by
  refine Ends.bind h.attempted ?_
  rintro (err | a) settled
  · exact failure err settled
  · exact value a

theorem Raises.of {call : Go ε α} {t : List (Event interface)} {err : ε} (h : Raises P call)
    (path : Path call t (.throw (.error err))) : P err := by
  have ended : Path call t (.ofExcept (.error (.error err))) := path
  have settled := Ends.path h ended
  exact settled

end

/-- The names of failures that the client writes itself. -/
def fixedFailures : List String :=
  ["systemUnavail", "redirectRejected", "badDataFormat", "responseTooLarge", "missingProtection",
    "badMessageCheck", "transactionIdMismatch", "nonceMismatch", "unsupportedVersion", "wrongAuthority",
    "waiting", "unknownStatus", "certReqIdMismatch", "certReqIdUnsupported", "unsupportedBody",
    "badRequest", "grantedWithMods", "publicKeyMismatch", "signerNotTrusted", "validityNotRenewed",
    "badAlg", "badCertTemplate", "badPOP", "badTime"]

/-- The names of all failures: those, and the names of the status bits the client tells apart. -/
def failureNames (lib : Library) : List String :=
  fixedFailures ++ classifiedFailureBitOrder.map lib.failureBitName

/-- The classes of failures and the retry delay that goes with each. -/
inductive Classified : ErrorKind → Duration → Prop
  | permanent : Classified .permanent 0
  | retryable : Classified .retryable 0
  | security : Classified .security 0
  | waiting : Classified .pending second

/-- A failure of the client. -/
inductive Catalogued (lib : Library) : GoError → Prop
  | intro {kind : ErrorKind} {operation failure : String} {requeueAfter : Duration} {cause : GoError}
      (classified : Classified kind requeueAfter) (named : failure ∈ failureNames lib) :
      Catalogued lib (.protocol kind operation failure requeueAfter cause)

section
variable {lib : Library} {operation failure : String} {err : GoError}

theorem mem_failureNames (fixed : failure ∈ fixedFailures) : failure ∈ failureNames lib :=
  List.mem_append_left _ fixed

theorem permanent_catalogued (fixed : failure ∈ fixedFailures) :
    Catalogued lib (permanent operation failure err) := .intro .permanent (mem_failureNames fixed)

theorem retryable_catalogued (fixed : failure ∈ fixedFailures) :
    Catalogued lib (retryable operation failure err) := .intro .retryable (mem_failureNames fixed)

theorem security_catalogued (fixed : failure ∈ fixedFailures) :
    Catalogued lib (security operation failure err) := .intro .security (mem_failureNames fixed)

theorem boundedFailureName_mem (failInfo : List FailureBit) :
    boundedFailureName lib failInfo ∈ failureNames lib := by
  unfold boundedFailureName
  split
  · rename_i bit found
    exact List.mem_append_right _ (List.mem_map_of_mem (List.mem_of_find?_eq_some found))
  · exact mem_failureNames (by decide)

theorem readAnswer_catalogued {maximum : Int} {answer : HTTPAnswer}
    (h : readAnswer lib maximum answer = .error err) : Catalogued lib err := by
  unfold readAnswer at h
  dsimp only at h
  repeat' split at h
  all_goals cases h
  all_goals first
    | exact retryable_catalogued (by decide)
    | exact permanent_catalogued (by decide)

theorem verifyResponse_catalogued {t : Time} {message response : PKIMessage} {request : EnrollmentRequest}
    {previousSigner : Option Certificate} {nonce : Bytes}
    (h : verifyResponse lib t message response request previousSigner nonce = .error err) :
    Catalogued lib err := by
  unfold verifyResponse at h
  repeat' split at h
  all_goals cases h
  all_goals first
    | exact security_catalogued (by decide)
    | exact permanent_catalogued (by decide)

theorem acceptAnswer_catalogued {t : Time} {parseOperation : String} {message : PKIMessage}
    {request : EnrollmentRequest} {previousSigner : Option Certificate} {nonce : Bytes} {answer : HTTPAnswer}
    (h : acceptAnswer lib t parseOperation message request previousSigner nonce answer = .error err) :
    Catalogued lib err := by
  unfold acceptAnswer at h
  split at h
  · rename_i failed
    cases h
    exact readAnswer_catalogued failed
  · split at h
    · cases h
      exact security_catalogued (by decide)
    · split at h
      · rename_i failed
        cases h
        exact verifyResponse_catalogued failed
      · cases h

theorem classifyStatus_catalogued {status : PKIStatusInfo} (h : classifyStatus lib status = some err) :
    Catalogued lib err := by
  unfold classifyStatus at h
  dsimp only at h
  repeat' split at h
  all_goals cases h
  · exact .intro .waiting (mem_failureNames (by decide))
  · exact .intro .permanent (boundedFailureName_mem _)
  · exact .intro .retryable (boundedFailureName_mem _)
  · exact permanent_catalogued (by decide)

theorem acceptResponseCertReqID_catalogued {operation : Operation} {observed : Int} {pinned : Option Int}
    (h : acceptResponseCertReqID operation observed pinned = .error err) : Catalogued lib err := by
  unfold acceptResponseCertReqID at h
  repeat' split at h
  all_goals cases h
  all_goals exact security_catalogued (by decide)

theorem parseResponseCertificates_catalogued {encoded : List CMPCertificate} {seen : List Bytes}
    (h : parseResponseCertificates lib seen encoded = .error err) : Catalogued lib err := by
  induction encoded generalizing seen with
  | nil => cases h
  | cons first rest ih =>
      unfold parseResponseCertificates at h
      split at h
      · exact ih h
      · split at h
        · cases h
          exact permanent_catalogued (by decide)
        · split at h
          · rename_i failed
            cases h
            exact ih failed
          · cases h

theorem extractCertResponse_catalogued {response : PKIMessage} {request : EnrollmentRequest}
    {bodyName : String} {caPubs : List CMPCertificate} {certificateResponse : CertResponse}
    (h : extractCertResponse lib response request bodyName caPubs certificateResponse = .error err) :
    Catalogued lib err := by
  unfold extractCertResponse at h
  split at h
  · cases h
  · split at h
    · rename_i classified
      cases h
      exact classifyStatus_catalogued classified
    · split at h
      · split at h
        · cases h
          exact permanent_catalogued (by decide)
        · split at h
          · cases h
            exact permanent_catalogued (by decide)
          · split at h
            · rename_i failed
              cases h
              exact parseResponseCertificates_catalogued failed
            · cases h
      · cases h
        exact permanent_catalogued (by decide)

theorem extractEnrollmentResponse_catalogued {response : PKIMessage} {request : EnrollmentRequest}
    (h : extractEnrollmentResponse lib response request = .error err) : Catalogued lib err := by
  unfold extractEnrollmentResponse at h
  split at h
  · split at h
    · cases h
      exact permanent_catalogued (by decide)
    · split at h
      · rename_i classified
        cases h
        exact classifyStatus_catalogued classified
      · cases h
  · dsimp only at h
    generalize (if request.operation = .unset then Operation.p10cr else request.operation) = operation at h
    split at h
    · cases h
      exact permanent_catalogued (by decide)
    · split at h
      · cases h
        exact permanent_catalogued (by decide)
      · split at h
        · split at h
          · rename_i failed
            cases h
            exact acceptResponseCertReqID_catalogued failed
          · exact extractCertResponse_catalogued h
        · cases h
          exact permanent_catalogued (by decide)

theorem finishTransaction_catalogued {t : Time} {request : EnrollmentRequest} {response : PKIMessage}
    {csr : CertificateRequest} {signer : Option Certificate} {nonce : Bytes}
    {refusal : Option RefusedCertificate}
    (h : finishTransaction lib t request response csr signer nonce = .ok (.failed refusal err)) :
    Catalogued lib err := by
  unfold finishTransaction at h
  split at h
  · rename_i failed
    cases h
    exact extractEnrollmentResponse_catalogued failed
  · dsimp only at h
    repeat' split at h
    all_goals cases h
    all_goals first
      | exact permanent_catalogued (by decide)
      | exact security_catalogued (by decide)

theorem pollRepItem_catalogued {parse validate id mismatch : String} {expected : Int}
    {reply : Except String (List PollRepItem)}
    (h : pollRepItem parse validate id mismatch expected reply = .error err) : Catalogued lib err := by
  unfold pollRepItem at h
  repeat' split at h
  all_goals cases h
  all_goals first
    | exact permanent_catalogued (by decide)
    | exact security_catalogued (by decide)

theorem extractPollRep_catalogued {response : PKIMessage} {expected : Int} {signer : Option Certificate}
    {nonce : Bytes} {reply : Except String (List PollRepItem)}
    (h : extractPollRep response expected signer nonce reply = .error err) : Catalogued lib err := by
  unfold extractPollRep at h
  split at h
  · rename_i failed
    cases h
    exact pollRepItem_catalogued failed
  · cases h

theorem confirmationDelay_catalogued {response : PKIMessage} (h : confirmationDelay lib response = .error err) :
    Catalogued lib err := by
  unfold confirmationDelay at h
  dsimp only at h
  split at h
  · cases h
    exact permanent_catalogued (by decide)
  · split at h
    · split at h
      · rename_i classified
        cases h
        exact classifyStatus_catalogued classified
      · cases h
        exact permanent_catalogued (by decide)
    · cases h
  · split at h
    · rename_i failed
      cases h
      exact pollRepItem_catalogued failed
    · cases h
  · cases h
    exact permanent_catalogued (by decide)

theorem finishConfirmation_catalogued {confirm : ConfirmRequest} {nonce : Bytes} {response : PKIMessage}
    (h : finishConfirmation lib confirm nonce response = .error err) : Catalogued lib err := by
  unfold finishConfirmation at h
  split at h
  · cases h
  · split at h
    · rename_i failed
      cases h
      exact confirmationDelay_catalogued failed
    · cases h

theorem mapError_catalogued {ε α : Type} {f : ε → GoError} {r : Except ε α}
    (mapped : ∀ e, Catalogued lib (f e)) (h : r.mapError f = .error err) : Catalogued lib err := by
  obtain ⟨e, _, rfl⟩ := mapError_eq_error.mp h
  exact mapped e

theorem protectMessage_catalogued {name : String} {credentials : Credentials} {drawn : Entropy}
    {message : PKIMessage} (h : protectMessage lib name credentials drawn message = .error err) :
    Catalogued lib err := by
  unfold protectMessage at h
  repeat' split at h
  all_goals cases h
  all_goals exact permanent_catalogued (by decide)

theorem validateRequestProtection_catalogued {protection : Protection}
    (h : validateRequestProtection lib protection = .error err) : Catalogued lib err := by
  unfold validateRequestProtection at h
  repeat' split at h
  all_goals cases h
  all_goals exact permanent_catalogued (by decide)

theorem validateEnrollmentRequest_catalogued {request : EnrollmentRequest}
    (h : validateEnrollmentRequest lib request = .error err) : Catalogued lib err := by
  unfold validateEnrollmentRequest at h
  repeat' split at h
  all_goals first
    | exact validateRequestProtection_catalogued h
    | (cases h; exact permanent_catalogued (by decide))

theorem requestCSR_catalogued {request : EnrollmentRequest} (h : requestCSR lib request = .error err) :
    Catalogued lib err :=
  mapError_catalogued (fun _ => permanent_catalogued (by decide)) h

theorem signedRequestCSR_catalogued {request : EnrollmentRequest}
    (h : signedRequestCSR lib request = .error err) : Catalogued lib err := by
  unfold signedRequestCSR at h
  split at h
  · rename_i failed
    cases h
    exact requestCSR_catalogued failed
  · split at h <;> cases h
    exact permanent_catalogued (by decide)

theorem requestedKey_catalogued {name : String} {request : EnrollmentRequest} {csr : CertificateRequest}
    (h : requestedKey lib name request csr = .error err) : Catalogued lib err := by
  unfold requestedKey at h
  repeat' split at h
  all_goals cases h
  all_goals exact permanent_catalogued (by decide)

theorem certificateTemplate_catalogued {request : EnrollmentRequest} {key : Signer}
    {csr : CertificateRequest} {subject : GeneralName}
    (h : certificateTemplate lib request key csr subject = .error err) : Catalogued lib err := by
  unfold certificateTemplate at h
  dsimp only at h
  repeat' split at h
  all_goals cases h
  all_goals exact permanent_catalogued (by decide)

theorem certReqMsg_catalogued {name : String} {request : EnrollmentRequest} {key : Signer} {drawn : Entropy}
    {template : CertTemplate} {controls : List Bytes}
    (h : certReqMsg lib name request key drawn template controls = .error err) : Catalogued lib err := by
  unfold certReqMsg at h
  dsimp only at h
  split at h <;> cases h
  exact permanent_catalogued (by decide)

theorem validateKURProofs_catalogued {request : EnrollmentRequest} {csr : CertificateRequest} {t : Time}
    (h : validateKURProofs lib request csr t = .error err) : Catalogued lib err := by
  unfold validateKURProofs at h
  split at h
  · split at h
    · rename_i failed
      cases h
      exact requestedKey_catalogued failed
    · dsimp only at h
      repeat' split at h
      all_goals cases h
      all_goals exact permanent_catalogued (by decide)
  · cases h
    exact permanent_catalogued (by decide)

theorem validateIRRequest_catalogued {request : EnrollmentRequest}
    (h : validateIRRequest lib request = .error err) : Catalogued lib err := by
  unfold validateIRRequest at h
  simp only [bind, Except.bind] at h
  split at h
  · rename_i failed
    cases h
    exact validateEnrollmentRequest_catalogued failed
  · split at h
    · rename_i failed
      cases h
      exact signedRequestCSR_catalogued failed
    · split at h
      · rename_i failed
        cases h
        exact requestedKey_catalogued failed
      · cases h

end

section
variable {lib : Library}

theorem configuredCredentials_raises (operation : String) (request : EnrollmentRequest) :
    Raises (Catalogued lib) (configuredCredentials lib operation request) := by
  have any : Raises (fun _ => True) (credentialsFor lib request) := by
    unfold credentialsFor
    repeat' split
    all_goals first
      | exact raises_fail trivial
      | exact raises_outcome fun _ _ => trivial
      | exact raises_pure _
      | exact raises_panic _
  exact any.mapError fun _ _ => permanent_catalogued (by decide)

theorem exchangeMessage_raises (parseOperation : String) (request : EnrollmentRequest) (message : PKIMessage)
    (requestDER : Bytes) (previousSigner : Option Certificate) (nonce : Bytes) :
    Raises (Catalogued lib)
      (exchangeMessage lib parseOperation request message requestDER previousSigner nonce) := by
  unfold exchangeMessage
  refine Raises.bind (raises_outcome fun err failed =>
    mapError_catalogued (fun _ => permanent_catalogued (by decide)) failed) fun _ => ?_
  refine raises_ask_bind fun answer => raises_ask_bind fun instant => ?_
  refine Raises.bind (raises_outcome fun err failed => acceptAnswer_catalogued failed) ?_
  rintro ⟨response, signer⟩
  exact raises_pure _

theorem rejectCertificate_raises {request : EnrollmentRequest} {credentials : Credentials}
    {refusal : RefusedCertificate} {reason : GoError} (catalogued : Catalogued lib reason) :
    Raises (Catalogued lib) (rejectCertificate lib request credentials refusal reason) := by
  have any : Raises (fun _ => True) (deliverRejection lib request credentials refusal) :=
    Ends.mono (Follows.ends (V := fun _ => True) (F := fun _ => True) (follows_grows [] _)
      (by rintro _ (_ | _) _ <;> trivial)) (fun _ _ => trivial) (by rintro (_ | _) _ <;> trivial)
  unfold rejectCertificate
  refine any.attempt_bind (fun _ => raises_fail catalogued) fun deliveryErr _ => raises_fail ?_
  -- The delivery failure is added to the text, and the class and the name stay.
  cases catalogued with
  | intro classified named => exact .intro classified named

theorem completeOrRefuse_raises (request : EnrollmentRequest) (credentials : Credentials)
    (accepted : Accepted) (csr : CertificateRequest) (nonce : Bytes) :
    Raises (Catalogued lib) (completeOrRefuse lib request credentials accepted csr nonce) := by
  unfold completeOrRefuse
  split
  · exact raises_panic _
  · exact raises_pure _
  · rename_i judged
    exact raises_fail (finishTransaction_catalogued judged)
  · rename_i judged
    exact rejectCertificate_raises (finishTransaction_catalogued judged)

theorem validateKURRequest_raises (request : EnrollmentRequest) :
    Raises (Catalogued lib) (validateKURRequest lib request) := by
  unfold validateKURRequest
  refine Raises.bind (raises_outcome fun err failed => validateEnrollmentRequest_catalogued failed) fun _ => ?_
  refine Raises.bind (raises_outcome fun err failed => signedRequestCSR_catalogued failed) fun csr => ?_
  refine raises_ask_bind fun t => ?_
  refine Raises.bind (raises_outcome fun err failed => validateKURProofs_catalogued failed) ?_
  rintro ⟨signature, key⟩
  exact raises_pure _

theorem enrollP10CR_raises (request : EnrollmentRequest) :
    Raises (Catalogued lib) (enrollP10CR lib request) := by
  unfold enrollP10CR
  split
  · exact raises_fail (permanent_catalogued (by decide))
  · refine Raises.bind (raises_outcome fun err failed => validateEnrollmentRequest_catalogued failed) fun _ => ?_
    refine Raises.bind (raises_outcome fun err failed => signedRequestCSR_catalogued failed) fun csr => ?_
    refine Raises.bind (configuredCredentials_raises _ _) fun credentials => ?_
    refine Raises.bind (raises_ask_bind fun drawn => raises_outcome fun err failed =>
      protectMessage_catalogued failed) ?_
    rintro ⟨message, requestDER⟩
    exact Raises.bind (exchangeMessage_raises ..) fun accepted => completeOrRefuse_raises ..

theorem enrollIR_raises (request : EnrollmentRequest) : Raises (Catalogued lib) (enrollIR lib request) := by
  unfold enrollIR protectedIR
  refine Raises.bind (raises_outcome fun err failed => validateIRRequest_catalogued failed) ?_
  rintro ⟨csr, key⟩
  refine Raises.bind (configuredCredentials_raises _ _) fun credentials => ?_
  refine Raises.bind (Raises.bind (raises_outcome fun err failed => certificateTemplate_catalogued failed)
    fun template => raises_ask_bind fun drawn =>
      Raises.bind (raises_outcome fun err failed => certReqMsg_catalogued failed)
        fun messageRequest => raises_outcome fun err failed => protectMessage_catalogued failed) ?_
  rintro ⟨message, requestDER⟩
  exact Raises.bind (exchangeMessage_raises ..) fun accepted => completeOrRefuse_raises ..

theorem enrollKUR_raises (request : EnrollmentRequest) : Raises (Catalogued lib) (enrollKUR lib request) := by
  unfold enrollKUR protectedKUR
  refine Raises.bind (validateKURRequest_raises _) ?_
  rintro ⟨csr, signature, key⟩
  refine Raises.bind (configuredCredentials_raises _ _) fun credentials => ?_
  refine Raises.bind (Raises.bind (raises_outcome fun err failed => certificateTemplate_catalogued failed)
    fun template => Raises.bind (raises_outcome fun err failed =>
      mapError_catalogued (fun _ => permanent_catalogued (by decide)) failed)
    fun oldCertID => raises_ask_bind fun drawn =>
      Raises.bind (raises_outcome fun err failed => certReqMsg_catalogued failed)
        fun messageRequest => raises_outcome fun err failed => protectMessage_catalogued failed) ?_
  rintro ⟨message, requestDER⟩
  exact Raises.bind (exchangeMessage_raises ..) fun accepted => completeOrRefuse_raises ..

theorem pollP10CR_raises (poll : PollRequest) : Raises (Catalogued lib) (pollP10CR lib poll) := by
  unfold pollP10CR
  refine Raises.bind (raises_outcome fun err failed => validateEnrollmentRequest_catalogued failed) fun _ => ?_
  split
  · exact raises_fail (permanent_catalogued (by decide))
  · refine Raises.bind (raises_outcome fun err failed => requestCSR_catalogued failed) fun csr => ?_
    refine Raises.bind (configuredCredentials_raises _ _) fun credentials => raises_ask_bind fun drawn => ?_
    refine Raises.bind (raises_outcome fun err failed => protectMessage_catalogued failed) ?_
    rintro ⟨message, requestDER⟩
    refine Raises.bind (exchangeMessage_raises ..) fun accepted => ?_
    split
    · exact Raises.bind (raises_outcome fun err failed => extractPollRep_catalogued failed)
        fun pending => raises_pure _
    · exact completeOrRefuse_raises ..

theorem confirmP10CR_raises (confirm : ConfirmRequest) : Raises (Catalogued lib) (confirmP10CR lib confirm) := by
  have message : ∀ request statusInfo, Raises (Catalogued lib)
      (confirmationMessage lib request confirm statusInfo) := by
    intro request statusInfo
    unfold confirmationMessage
    split
    · exact raises_panic _
    · refine Raises.bind (raises_outcome fun err failed =>
        mapError_catalogued (fun _ => permanent_catalogued (by decide)) failed) fun status => ?_
      refine raises_ask_bind fun drawn => ?_
      split <;> exact raises_pure _
  unfold confirmP10CR
  refine Raises.bind (raises_outcome fun err failed => validateEnrollmentRequest_catalogued failed) fun _ => ?_
  split
  · exact raises_fail (permanent_catalogued (by decide))
  · split
    · exact raises_fail (permanent_catalogued (by decide))
    · refine Raises.bind (raises_outcome fun err failed =>
        mapError_catalogued (fun _ => permanent_catalogued (by decide)) failed) fun _ => ?_
      refine Raises.bind (configuredCredentials_raises _ _) fun credentials => Raises.bind (message _ _) ?_
      rintro ⟨message, drawn, operation⟩
      refine Raises.bind ?_ fun accepted => raises_outcome fun err failed => finishConfirmation_catalogued failed
      unfold exchangeProtected
      refine Raises.bind (raises_outcome fun err failed => protectMessage_catalogued failed) ?_
      rintro ⟨message, requestDER⟩
      exact exchangeMessage_raises ..

theorem protocolClient_raises (call : ClientCall) : Raises (Catalogued lib) (protocolClient lib call) := by
  refine raises_ask_bind fun _ => ?_
  cases call with
  | enrollP10CR request => exact enrollP10CR_raises request
  | enrollIR request => exact enrollIR_raises request
  | enrollKUR request => exact enrollKUR_raises request
  | pollP10CR poll => exact pollP10CR_raises poll
  | confirmP10CR confirm => exact confirmP10CR_raises confirm

end

end CmpIssuer
