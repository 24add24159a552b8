import CmpIssuer.Session.Handover

/-!
The exchanges of a client call, read off its trail. A call sends one message
and examines the answer. When it refuses the certificate of the answer it sends
a second one, and the answer to that is examined with the signer of the first.
-/
namespace CmpIssuer
open Effect

def Op.message? : Op → Option HTTPRequest
  | .send sent => some sent
  | _ => none

theorem Op.eq_send {o : Op} {sent : HTTPRequest} (h : o.message? = some sent) : o = .send sent := by
  cases o <;> cases h
  rfl

theorem Op.message?_of_silent {o : Op} (silent : o.silent = true) : o.message? = none := by
  cases o <;> first | rfl | cases silent

/-- A message of a call, the answer to it and the instant at which the answer is examined. -/
structure Examination where
  request : HTTPRequest
  answer : HTTPAnswer
  instant : Time

/-- The answers that are examined along a trail of the client. -/
def examinations : Trail → List Examination
  | ⟨.send request, answer⟩ :: ⟨.now, instant⟩ :: rest => ⟨request, answer, instant⟩ :: examinations rest
  | _ :: rest => examinations rest
  | [] => []

theorem examinations_append {u : Trail} (quiet : ∀ e ∈ u, e.op.message? = none) (v : Trail) :
    examinations (u ++ v) = examinations v := by
  induction u with
  | nil => rfl
  | cons e u ih =>
      obtain ⟨o, answer⟩ := e
      have later := ih fun e member => quiet e (List.mem_cons_of_mem _ member)
      cases o with
      | send => cases quiet _ List.mem_cons_self
      | _ => exact later

theorem exists_first_message {t : Trail} (some_ : ¬ ∀ e ∈ t, e.op.message? = none) :
    ∃ u sent answer v, t = u ++ ⟨.send sent, answer⟩ :: v ∧ ∀ e ∈ u, e.op.message? = none := by
  induction t with
  | nil => exact absurd (by rintro _ ⟨⟩) some_
  | cons e t ih =>
      obtain ⟨o, answer⟩ := e
      by_cases sends : o.message? = none
      · obtain ⟨u, sent, answer', v, rfl, quiet⟩ := ih fun none => some_ (List.forall_mem_cons.mpr ⟨sends, none⟩)
        exact ⟨_ :: u, sent, answer', v, rfl, List.forall_mem_cons.mpr ⟨sends, quiet⟩⟩
      · obtain ⟨sent, sends⟩ := Option.ne_none_iff_exists'.mp sends
        obtain rfl := Op.eq_send sends
        exact ⟨[], sent, answer, t, rfl, by rintro _ ⟨⟩⟩

section
variable (lib : Library)

/-- The signer that is known when the next answer of a call is examined: the one the call was given, and
after an exchange the one that was accepted in it. -/
def ClientCall.knownSigner (call : ClientCall) : List Examination → Option Certificate
  | [] => call.previousSigner
  | first :: _ =>
      match call.accept lib first.instant first.request.message first.answer with
      | .ok (_, signer) => signer
      | .error _ => none

/-- How the next answer of a call is accepted. After the first exchange it is the answer to the certConf
that refuses a certificate. -/
def ClientCall.acceptNext (call : ClientCall) (earlier : List Examination) (t : Time) (message : PKIMessage)
    (answer : HTTPAnswer) : Except GoError (PKIMessage × Option Certificate) :=
  match earlier with
  | [] => call.accept lib t message answer
  | _ :: _ => acceptAnswer lib t "parse certConf response" message call.request
      (call.knownSigner lib earlier) [] answer

end

section
variable {lib : Library} {α : Type} {t : Trail} {sent : HTTPRequest} {next : HTTPAnswer → Go GoError α}

/-- A way through an exchange up to a message: the message of the exchange, or a later one. -/
theorem exchangeMessage_op {parseOperation : String} {request : EnrollmentRequest} {message : PKIMessage}
    {requestDER : Bytes} {previousSigner : Option Certificate} {nonce : Bytes} {f : Accepted → Go GoError α}
    (path : Path (exchangeMessage lib parseOperation request message requestDER previousSigner nonce >>= f) t
      (.op (.send sent) next)) :
    (t = [] ∧ sent.message = message ∧ lib.newHTTPRequest request.endpointURL = .ok () ∧
      ∀ answer, next answer = .op .now fun instant =>
        ofExcept (acceptAnswer lib instant parseOperation message request previousSigner nonce answer) >>=
          fun out => f ⟨out.1, out.2, instant⟩) ∨
    ∃ earlier answer instant accepted rest, t = ⟨.send earlier, answer⟩ :: ⟨.now, instant⟩ :: rest ∧
      Path (f accepted) rest (.op (.send sent) next) := by
  have examined : exchangeMessage lib parseOperation request message requestDER previousSigner nonce >>= f =
      ofExcept ((lib.newHTTPRequest request.endpointURL).mapError fun err =>
        permanent "create HTTP request" "badRequest" (.text err)) >>= fun _ =>
      Program.op (S := interface) (.send ⟨request.endpointURL, message, requestDER⟩) fun answer =>
        .op .now fun instant =>
          ofExcept (acceptAnswer lib instant parseOperation message request previousSigner nonce answer) >>=
            fun out => f ⟨out.1, out.2, instant⟩ := by
    unfold exchangeMessage
    cases lib.newHTTPRequest request.endpointURL with
    | error err => rfl
    | ok =>
        refine congrArg (Program.op (S := interface) _) (funext fun answer => ?_)
        refine congrArg (Program.op (S := interface) .now) (funext fun instant => ?_)
        change (ofExcept (acceptAnswer lib instant parseOperation message request previousSigner nonce
          answer) >>= fun out => pure (⟨out.1, out.2, instant⟩ : Accepted)) >>= f = _
        cases acceptAnswer lib instant parseOperation message request previousSigner nonce answer <;> rfl
  rw [examined] at path
  obtain ⟨_, reachable, path⟩ := path_outcome_op path
  cases path with
  | refl => exact .inl ⟨rfl, rfl, mapError_eq_ok.mp reachable, fun _ => rfl⟩
  | step answer rest =>
      cases rest with
      | step instant rest =>
          obtain ⟨_, _, rest⟩ := path_outcome_op rest
          exact .inr ⟨_, answer, instant, _, _, rfl, rest⟩

theorem exchangeMessage_first {parseOperation : String} {request : EnrollmentRequest} {message : PKIMessage}
    {requestDER : Bytes} {previousSigner : Option Certificate} {nonce : Bytes} {f : Accepted → Go GoError α}
    (path : Path (exchangeMessage lib parseOperation request message requestDER previousSigner nonce >>= f) t
      (.op (.send sent) next))
    (first : ∀ e ∈ t, e.op.message? = none) :
    sent.message = message ∧ lib.newHTTPRequest request.endpointURL = .ok () ∧
      ∀ answer, next answer = .op .now fun instant =>
        ofExcept (acceptAnswer lib instant parseOperation message request previousSigner nonce answer) >>=
          fun out => f ⟨out.1, out.2, instant⟩ := by
  rcases exchangeMessage_op path with ⟨_, facts⟩ | ⟨earlier, answer, instant, accepted, rest, rfl, _⟩
  · exact facts
  · cases first _ List.mem_cons_self

theorem configuredCredentials_op {operation : String} {request : EnrollmentRequest}
    {f : Credentials → Go GoError α}
    (path : Path (configuredCredentials lib operation request >>= f) t (.op (.send sent) next)) :
    ∃ credentials, credentialsFor lib request = .pure credentials ∧
      Path (f credentials) t (.op (.send sent) next) := by
  unfold configuredCredentials at path
  rcases credentialsFor_eq lib request with ⟨credentials, known⟩ | ⟨fault, known⟩
  · rw [known] at path
    exact ⟨credentials, known, path⟩
  · rw [known] at path
    cases path

theorem protectedEnrollment_reads {request : EnrollmentRequest} {csr : CertificateRequest}
    {credentials : Credentials} :
    Follows reading (fun _ _ => True) [] (protectedEnrollment lib request csr credentials) :=
  follows_ask_bind.mpr ⟨rfl, fun _ => relies_outcome⟩

theorem protectedIR_reads {request : EnrollmentRequest} {key : Signer} {csr : CertificateRequest}
    {credentials : Credentials} :
    Follows reading (fun _ _ => True) [] (protectedIR lib request key csr credentials) :=
  relies_outcome_bind fun _ _ => follows_ask_bind.mpr ⟨rfl, fun _ =>
    relies_outcome_bind fun _ _ => relies_outcome⟩

theorem protectedKUR_reads {request : EnrollmentRequest} {signature : SignatureProtection} {key : Signer}
    {csr : CertificateRequest} {credentials : Credentials} :
    Follows reading (fun _ _ => True) [] (protectedKUR lib request signature key csr credentials) :=
  relies_outcome_bind fun _ _ => relies_outcome_bind fun _ _ => follows_ask_bind.mpr ⟨rfl, fun _ =>
    relies_outcome_bind fun _ _ => relies_outcome⟩

theorem validateKURRequest_reads {request : EnrollmentRequest} :
    Follows reading (fun _ r => ∀ out, r = .ok out →
      lib.parseCertificateRequest request.csrDER = .ok out.1) [] (validateKURRequest lib request) := by
  refine follows_outcome_bind (fun _ _ => ?_) (by rintro _ _ _ ⟨⟩)
  refine follows_outcome_bind (fun csr parsed => ?_) (by rintro _ _ _ ⟨⟩)
  refine follows_ask_bind.mpr ⟨rfl, fun instant => ?_⟩
  refine follows_outcome_bind ?_ (by rintro _ _ _ ⟨⟩)
  rintro ⟨signature, key⟩ _ _ ⟨⟩
  exact signedRequestCSR_ok parsed

theorem confirmationMessage_reads {request : EnrollmentRequest} {confirm : ConfirmRequest}
    {statusInfo : Option PKIStatusInfo} :
    Follows reading (fun _ r => ∀ out, r = .ok out → out.2.2 = confirmationOperation confirm) []
      (confirmationMessage lib request confirm statusInfo) := by
  unfold confirmationMessage
  split
  · rintro _ ⟨⟩
  · refine follows_outcome_bind (fun status _ => ?_) (by rintro _ _ _ ⟨⟩)
    refine follows_ask_bind.mpr ⟨rfl, fun drawn => ?_⟩
    unfold confirmationOperation
    split
    · rintro _ ⟨⟩
      rfl
    · rintro _ ⟨⟩
      rfl

end

section
variable {lib : Library} {call : ClientCall} {before : Trail} {sent : HTTPRequest}
  {next : HTTPAnswer → Go GoError EnrollmentResult}

/-- All that is made of an answer is how it is accepted, and one that is not accepted ends the call. -/
def Judges (accept : Time → HTTPAnswer → Except GoError (PKIMessage × Option Certificate))
    (next : HTTPAnswer → Go GoError EnrollmentResult) : Prop :=
  ∃ rest : Time → Except GoError (PKIMessage × Option Certificate) → Go GoError EnrollmentResult,
    (∀ answer instant, Path (next answer) [⟨.now, instant⟩] (rest instant (accept instant answer))) ∧
    ∀ instant err, ∃ fault, rest instant (.error err) = .throw fault

/-- What follows the first message of a call: the clock, and with an accepted answer the rest of the call. -/
def Examines (lib : Library) (call : ClientCall) (sent : HTTPRequest)
    (next : HTTPAnswer → Go GoError EnrollmentResult) (rest : Accepted → Go GoError EnrollmentResult) : Prop :=
  ∀ answer, next answer = .op .now fun instant =>
    ofExcept (call.accept lib instant sent.message answer) >>= fun out => rest ⟨out.1, out.2, instant⟩

/-- The first message of an enrollment or a poll. An answer that is no pollRep completes the transaction. -/
def Completes (lib : Library) (call : ClientCall) (sent : HTTPRequest)
    (next : HTTPAnswer → Go GoError EnrollmentResult) : Prop :=
  lib.newHTTPRequest call.request.endpointURL = .ok () ∧
  ∃ csr credentials rest, lib.parseCertificateRequest call.request.csrDER = .ok csr ∧
    credentialsFor lib call.request = .pure credentials ∧ Examines lib call sent next rest ∧
    ∀ accepted, if accepted.response.body.type = .pollRep ∧ call.enrolls = false then
        ∃ r, rest accepted = .ofExcept r
      else rest accepted = completeOrRefuse lib call.request credentials accepted csr
        (call.enrollmentNonce sent.message)

theorem Completes.intro {csr : CertificateRequest} {credentials : Credentials} (enrolls : call.enrolls = true)
    (reachable : lib.newHTTPRequest call.request.endpointURL = .ok ())
    (parsed : lib.parseCertificateRequest call.request.csrDER = .ok csr)
    (known : credentialsFor lib call.request = .pure credentials)
    (examines : Examines lib call sent next fun accepted =>
      completeOrRefuse lib call.request credentials accepted csr (call.enrollmentNonce sent.message)) :
    Completes lib call sent next := by
  refine ⟨reachable, csr, credentials, _, parsed, known, examines, fun accepted => ?_⟩
  rw [if_neg (by simp [enrolls])]

theorem enrollP10CR_completes {request : EnrollmentRequest}
    (path : Path (enrollP10CR lib request) before (.op (.send sent) next))
    (first : ∀ e ∈ before, e.op.message? = none) : Completes lib (.enrollP10CR request) sent next := by
  unfold enrollP10CR at path
  split at path
  · cases path
  · obtain ⟨_, _, path⟩ := path_outcome_op path
    obtain ⟨csr, parsed, path⟩ := path_outcome_op path
    obtain ⟨credentials, known, path⟩ := configuredCredentials_op path
    obtain ⟨⟨message, requestDER⟩, u, v, rfl, _, path⟩ := path_reading_op protectedEnrollment_reads path rfl
    obtain ⟨rfl, reachable, examines⟩ := exchangeMessage_first path fun e member =>
      first e (List.mem_append_right u member)
    exact .intro rfl reachable (signedRequestCSR_ok parsed) known examines

theorem enrollIR_completes {request : EnrollmentRequest}
    (path : Path (enrollIR lib request) before (.op (.send sent) next))
    (first : ∀ e ∈ before, e.op.message? = none) : Completes lib (.enrollIR request) sent next := by
  obtain ⟨⟨csr, key⟩, checked, path⟩ := path_outcome_op path
  obtain ⟨credentials, known, path⟩ := configuredCredentials_op path
  obtain ⟨⟨message, requestDER⟩, u, v, rfl, _, path⟩ := path_reading_op protectedIR_reads path rfl
  obtain ⟨rfl, reachable, examines⟩ := exchangeMessage_first path fun e member =>
    first e (List.mem_append_right u member)
  exact .intro rfl reachable (validateIRRequest_ok checked).2 known examines

theorem enrollKUR_completes {request : EnrollmentRequest}
    (path : Path (enrollKUR lib request) before (.op (.send sent) next))
    (first : ∀ e ∈ before, e.op.message? = none) : Completes lib (.enrollKUR request) sent next := by
  obtain ⟨⟨csr, signature, key⟩, t, u, rfl, checking, path⟩ :=
    path_reading_op validateKURRequest_reads path rfl
  have parsed := validateKURRequest_reads.outcome (r := .ok (csr, signature, key)) checking _ rfl
  obtain ⟨credentials, known, path⟩ := configuredCredentials_op path
  obtain ⟨⟨message, requestDER⟩, v, w, rfl, _, path⟩ := path_reading_op protectedKUR_reads path rfl
  obtain ⟨rfl, reachable, examines⟩ := exchangeMessage_first path fun e member =>
    first e (List.mem_append_right t (List.mem_append_right v member))
  exact .intro rfl reachable parsed known examines

def completePoll (lib : Library) (poll : PollRequest) (credentials : Credentials) (csr : CertificateRequest)
    (accepted : Accepted) : Go GoError EnrollmentResult :=
  match accepted.response.body with
  | .pollRep reply => do
      let pending ← ofExcept (extractPollRep accepted.response poll.certReqID accepted.responseSigner
        poll.requestNonce reply)
      return { pending := some pending }
  | _ => completeOrRefuse lib poll.enrollment credentials accepted csr poll.requestNonce

theorem pollP10CR_completes {poll : PollRequest}
    (path : Path (pollP10CR lib poll) before (.op (.send sent) next))
    (first : ∀ e ∈ before, e.op.message? = none) : Completes lib (.pollP10CR poll) sent next := by
  obtain ⟨_, _, path⟩ := path_outcome_op path
  split at path
  · cases path
  · obtain ⟨csr, parsed, path⟩ := path_outcome_op path
    obtain ⟨credentials, known, path⟩ := configuredCredentials_op path
    obtain ⟨drawn, u, rfl, building⟩ := path_ask_op .entropy path (by rintro ⟨⟩)
    obtain ⟨⟨message, requestDER⟩, _, sending⟩ := path_outcome_op building
    obtain ⟨rfl, reachable, examines⟩ := exchangeMessage_first sending fun e member =>
      first e (List.mem_cons_of_mem _ member)
    refine ⟨reachable, csr, credentials, completePoll lib poll credentials csr, requestCSR_ok parsed, known,
      examines, fun accepted => ?_⟩
    unfold completePoll
    cases body : accepted.response.body with
    | pollRep reply =>
        rw [if_pos ⟨rfl, rfl⟩]
        dsimp only
        cases extractPollRep accepted.response poll.certReqID accepted.responseSigner poll.requestNonce reply with
        | error err => exact ⟨.error (.error err), rfl⟩
        | ok pending => exact ⟨.ok _, rfl⟩
    | _ =>
        rw [if_neg (by rintro ⟨⟨⟩, _⟩)]
        rfl

theorem serve_completes (obtains : call.confirms = false)
    (path : Path (serve lib call) before (.op (.send sent) next))
    (first : ∀ e ∈ before, e.op.message? = none) : Completes lib call sent next := by
  cases call with
  | enrollP10CR request => exact enrollP10CR_completes path first
  | enrollIR request => exact enrollIR_completes path first
  | enrollKUR request => exact enrollKUR_completes path first
  | pollP10CR poll => exact pollP10CR_completes path first
  | confirmP10CR confirm => cases obtains

/-- The message that `exchangeProtected` hands over is the protected one. -/
theorem exchangeProtected_op {α : Type} {request : EnrollmentRequest} {credentials : Credentials}
    {built : PKIMessage} {drawn : Entropy} {signer : Option Certificate} {nonce : Bytes} {operation : String}
    {f : Accepted → Go GoError α} {next : HTTPAnswer → Go GoError α}
    (path : Path (exchangeProtected lib request credentials built drawn signer nonce operation >>= f) before
      (.op (.send sent) next)) :
    ∃ message requestDER, Path (exchangeMessage lib ("parse " ++ operation ++ " response") request message
      requestDER signer nonce >>= f) before (.op (.send sent) next) := by
  unfold exchangeProtected at path
  cases sealed_ : protectMessage lib operation credentials drawn built with
  | error err =>
      rw [sealed_] at path
      cases path
  | ok out =>
      rw [sealed_] at path
      exact ⟨out.1, out.2, path⟩

theorem confirmP10CR_examines {confirm : ConfirmRequest}
    (path : Path (confirmP10CR lib confirm) before (.op (.send sent) next)) :
    (∀ e ∈ before, e.op.message? = none) ∧
      ∃ rest, Examines lib (.confirmP10CR confirm) sent next rest := by
  obtain ⟨_, _, path⟩ := path_outcome_op path
  split at path
  · cases path
  · split at path
    · cases path
    · obtain ⟨_, _, path⟩ := path_outcome_op path
      obtain ⟨credentials, _, path⟩ := configuredCredentials_op path
      obtain ⟨⟨built, drawn, operation⟩, u, v, rfl, building, path⟩ :=
        path_reading_op confirmationMessage_reads path rfl
      obtain rfl := confirmationMessage_reads.outcome (r := .ok (built, drawn, operation)) building _ rfl
      obtain ⟨message, requestDER, path⟩ := exchangeProtected_op path
      rcases exchangeMessage_op path with ⟨rfl, rfl, _, examines⟩ | ⟨_, _, _, accepted, _, rfl, ending⟩
      · refine ⟨?_, fun accepted => ofExcept (finishConfirmation lib confirm _ accepted.response), examines⟩
        rw [List.append_nil]
        exact fun e member => Op.message?_of_silent (confirmationMessage_reads.quiet building e member)
      · generalize finishConfirmation lib confirm _ accepted.response = r at ending
        cases r <;> cases ending

/-- The certConf that refuses a certificate. Its answer is examined with the signer of the refusal. -/
theorem deliverRejection_examines {request : EnrollmentRequest} {credentials : Credentials}
    {refusal : RefusedCertificate} {next : HTTPAnswer → Go GoError Unit}
    (path : Path (deliverRejection lib request credentials refusal) before (.op (.send sent) next)) :
    (∀ e ∈ before, e.op.message? = none) ∧ ∃ rest : Accepted → Go GoError Unit, ∀ answer,
      next answer = .op .now fun instant =>
        ofExcept (acceptAnswer lib instant "parse certConf response" sent.message request
          refusal.responseSigner [] answer) >>= fun out => rest ⟨out.1, out.2, instant⟩ := by
  obtain ⟨⟨built, drawn, operation⟩, u, v, rfl, building, path⟩ :=
    path_reading_op confirmationMessage_reads path rfl
  obtain rfl := confirmationMessage_reads.outcome (r := .ok (built, drawn, operation)) building _ rfl
  obtain ⟨message, requestDER, path⟩ := exchangeProtected_op path
  rcases exchangeMessage_op path with ⟨rfl, rfl, _, examines⟩ | ⟨_, _, _, accepted, _, rfl, ending⟩
  · refine ⟨?_, fun accepted => if accepted.response.body.type = .pkiConf then return () else
      fail (.text ("server answered with " ++ lib.bodyTypeName accepted.response.body.type ++
        " instead of pkiConf")), examines⟩
    rw [List.append_nil]
    exact fun e member => Op.message?_of_silent (confirmationMessage_reads.quiet building e member)
  · split at ending <;> cases ending

/-- A refusal is delivered under the signer of the response it is about. -/
theorem finishTransaction_signer {t : Time} {request : EnrollmentRequest} {response : PKIMessage}
    {csr : CertificateRequest} {signer : Option Certificate} {nonce : Bytes} {refusal : RefusedCertificate}
    {err : GoError}
    (h : finishTransaction lib t request response csr signer nonce = .ok (.failed (some refusal) err)) :
    refusal.responseSigner = signer := by
  have refused : ∀ {implicitly : Bool} {refused : RefusedCertificate},
      (if implicitly = true then none else some refused) = some refusal → refused = refusal := by
    intro implicitly refused same
    split at same
    · cases same
    · exact Option.some.inj same
  have failed : ∀ {reason : Option RefusedCertificate} {err' : GoError},
      (Except.ok (.failed reason err') : Except String Finished) = .ok (.failed (some refusal) err) →
        reason = some refusal := by
    rintro _ _ ⟨⟩
    rfl
  unfold finishTransaction at h
  split at h
  · cases h
  · split at h
    · cases h
    · dsimp only at h
      split at h
      · rw [← refused (failed h)]
      · split at h
        · cases h
        · split at h
          · rw [← refused (failed h)]
          · split at h
            · rw [← refused (failed h)]
            · split at h
              · split at h
                · cases h
                · split at h
                  · rw [← refused (failed h)]
                  · cases h
              · cases h

/-- How a refusal ends once its certConf was delivered or was not. -/
def afterRefusal (reason : GoError) : Except GoError Unit → Go GoError EnrollmentResult
  | .ok () => fail reason
  | .error deliveryErr => fail (annotateRefusal reason deliveryErr)

theorem completeOrRefuse_judges {request : EnrollmentRequest} {credentials : Credentials}
    {accepted : Accepted} {csr : CertificateRequest} {nonce : Bytes}
    (path : Path (completeOrRefuse lib request credentials accepted csr nonce) before (.op (.send sent) next)) :
    (∀ e ∈ before, e.op.message? = none) ∧
      Judges (fun instant answer => acceptAnswer lib instant "parse certConf response" sent.message request
        accepted.responseSigner [] answer) next := by
  unfold completeOrRefuse at path
  split at path
  · cases path
  · cases path
  · cases path
  · rename_i refusal reason failed
    rw [← finishTransaction_signer failed]
    rcases path_attempt_op path with ⟨next', delivering, continues⟩ | ⟨r, _, _, rfl, _, ending⟩
    · obtain ⟨quiet, rest, examines⟩ := deliverRejection_examines delivering
      refine ⟨quiet, fun instant r => attempt (ofExcept r >>= fun out => rest ⟨out.1, out.2, instant⟩) >>=
        afterRefusal reason, fun answer instant => ?_, fun _ _ => ⟨_, rfl⟩⟩
      refine Eq.mpr (congrArg (Path · _ _) ((continues answer).trans (congrArg (attempt · >>= afterRefusal reason)
        (examines answer)))) ?_
      exact .step (S := interface) (o := .now) instant (.refl _)
    · cases r <;> cases ending

theorem Examines.judges {rest : Accepted → Go GoError EnrollmentResult} (examines : Examines lib call sent next rest) :
    Judges (fun instant answer => call.accept lib instant sent.message answer) next := by
  refine ⟨fun instant r => ofExcept r >>= fun out => rest ⟨out.1, out.2, instant⟩, fun answer instant => ?_,
    fun _ _ => ⟨_, rfl⟩⟩
  rw [examines answer]
  exact .step (S := interface) (o := .now) instant (.refl _)

/-- Every answer to a message of a call is examined, with the signer that is known at that point. -/
theorem serve_judges (path : Path (serve lib call) before (.op (.send sent) next)) :
    Judges (fun instant answer => call.acceptNext lib (examinations before) instant sent.message answer)
      next := by
  by_cases first : ∀ e ∈ before, e.op.message? = none
  · -- The first message.
    have none := examinations_append first []
    rw [List.append_nil] at none
    rw [none]
    cases obtains : call.confirms with
    | false =>
        obtain ⟨_, _, _, _, _, _, examines, _⟩ := serve_completes obtains path first
        exact examines.judges
    | true =>
        cases call with
        | confirmP10CR confirm => exact (confirmP10CR_examines path).2.elim fun _ examines => examines.judges
        | _ => cases obtains
  · -- The certConf that refuses the certificate of the first answer.
    obtain ⟨u, earlier, answer, v, rfl, quiet⟩ := exists_first_message first
    obtain ⟨middle, reached, later⟩ := path.append_inv
    cases later with
    | step answer later =>
        cases obtains : call.confirms with
        | true =>
            cases call with
            | confirmP10CR confirm =>
                cases (confirmP10CR_examines path).1 _ (List.mem_append_right u List.mem_cons_self)
            | _ => cases obtains
        | false =>
            obtain ⟨_, csr, credentials, rest, _, _, examines, completes⟩ :=
              serve_completes obtains reached quiet
            rw [examines answer] at later
            cases later with
            | step instant later =>
                obtain ⟨⟨response, signer⟩, accepted, later⟩ := path_outcome_op later
                have completing := completes ⟨response, signer, instant⟩
                split at completing
                · obtain ⟨r, ended⟩ := completing
                  rw [ended] at later
                  cases r <;> cases later
                · rw [completing] at later
                  obtain ⟨_, judges⟩ := completeOrRefuse_judges later
                  rw [examinations_append quiet]
                  change Judges (fun t reply => call.acceptNext lib (⟨earlier, answer, instant⟩ :: _) t
                    sent.message reply) next
                  unfold ClientCall.acceptNext ClientCall.knownSigner
                  dsimp only
                  rw [accepted]
                  exact judges

end

end CmpIssuer
