import CmpIssuer.Guarantee.Response

/-!
Certificates that the client refuses. An authenticated response that issues a
certificate obliges the client to confirm it or to reject it in certConf. The
refusals that `finishTransaction` decides on are reported to the server, those
met while the rest of the response is extracted are not.
-/
namespace CmpIssuer
open Effect

/-- A response of the expected kind that issues a certificate and leaves it to the client to confirm it. -/
structure Issues (lib : Library) (request : EnrollmentRequest) (response : PKIMessage)
    (caPubs : List CMPCertificate) (certificateResponse : CertResponse) (certificate : Certificate) : Prop where
  kind : response.body.type = expectedBody request.operation
  reply : response.body.certRep = .ok ⟨caPubs, [certificateResponse]⟩
  identifier : acceptResponseCertReqID request.operation certificateResponse.certReqID
    request.responseCertReqID = .ok ()
  granted : certificateResponse.status.status = .accepted ∨
    certificateResponse.status.status = .grantedWithMods
  plaintext : ∃ encoded, certificateResponse.certifiedKeyPair = some (some encoded) ∧
    lib.parseCMPCertificate encoded = .ok certificate
  explicit : ¬ (request.implicitConfirm = true ∧ responseGrantsImplicitConfirm lib response = true)

/-- The other certificates of a response: a KUP brings no caPubs where they have to be absent, and every
certificate beside the issued one can be parsed. -/
structure CleanCandidates (lib : Library) (request : EnrollmentRequest) (response : PKIMessage)
    (caPubs : List CMPCertificate) : Prop where
  absent : ¬ (request.operation = .kur ∧ request.requireKUPCAPubsAbsent = true ∧ caPubs ≠ [])
  parse : ∀ encoded ∈ caPubs ++ response.extraCerts, ∃ candidate,
    lib.parseCMPCertificate encoded = .ok candidate

/-- The body of the certConf that rejects this certificate. -/
def RejectsIn (lib : Library) (certificate : Certificate) (certReqID : Int) (body : Body) : Prop :=
  ∃ status rejection, lib.newCertStatus certificate certReqID = .ok status ∧
    rejection.status = .rejection ∧ body = .certConf [{ status with statusInfo := some rejection }]

/-- The certificate was rejected in certConf, or that certConf could not be built. -/
inductive Rejected (lib : Library) (request : EnrollmentRequest) (certificate : Certificate) (certReqID : Int)
    (trail : Trail) : Prop
  | sent {sent : HTTPRequest} {answer : HTTPAnswer}
      (member : (⟨.send sent, answer⟩ : Event interface) ∈ trail)
      (rejects : RejectsIn lib certificate certReqID sent.message.body)
  | unhashed {err : String} (failed : lib.newCertStatus certificate certReqID = .error err)
  | unsealed {drawn : Entropy} {credentials : Credentials} {built : PKIMessage} {err : GoError}
      (member : (⟨.entropy, drawn⟩ : Event interface) ∈ trail)
      (known : credentialsFor lib request = .pure credentials)
      (rejects : RejectsIn lib certificate certReqID built.body)
      (failed : protectMessage lib "certConf" credentials drawn built = .error err)

def GoError.classification (err : GoError) : Option (ErrorKind × String) :=
  err.asProtocol.map fun (kind, _, failure, _) => (kind, failure)

section
variable {lib : Library} {request : EnrollmentRequest} {response : PKIMessage} {caPubs : List CMPCertificate}
  {certificateResponse : CertResponse} {certificate : Certificate}

theorem parseResponseCertificates_ok_iff {encoded : List CMPCertificate} {seen : List Bytes} :
    (∃ candidates, parseResponseCertificates lib seen encoded = .ok candidates) ↔
      ∀ entry ∈ encoded, entry.raw ∈ seen ∨ ∃ candidate, lib.parseCMPCertificate entry = .ok candidate := by
  induction encoded generalizing seen with
  | nil => simp [parseResponseCertificates]
  | cons first rest ih =>
      rw [List.forall_mem_cons]
      unfold parseResponseCertificates
      split
      · rename_i repeated
        rw [ih]
        exact (and_iff_right (.inl repeated)).symm
      · rename_i fresh
        cases parsed : lib.parseCMPCertificate first with
        | error err =>
            constructor
            · rintro ⟨_, ⟨⟩⟩
            · rintro ⟨member | ⟨_, ⟨⟩⟩, _⟩
              exact absurd member fresh
        | ok candidate =>
            -- An entry that repeats the first one can be parsed as well.
            have later : (∀ entry ∈ rest, entry.raw ∈ first.raw :: seen ∨
                  ∃ candidate, lib.parseCMPCertificate entry = .ok candidate) ↔
                ∀ entry ∈ rest, entry.raw ∈ seen ∨
                  ∃ candidate, lib.parseCMPCertificate entry = .ok candidate := by
              refine forall_congr' fun entry => imp_congr_right fun _ => ?_
              rw [List.mem_cons, or_assoc]
              refine or_iff_right_of_imp fun same => .inr ⟨candidate, ?_⟩
              obtain ⟨raw⟩ := entry
              obtain ⟨raw'⟩ := first
              cases same
              exact parsed
            rw [and_iff_right (.inr ⟨candidate, rfl⟩), ← later, ← ih]
            dsimp only
            cases parseResponseCertificates lib (first.raw :: seen) rest <;> simp

/-- What is extracted from such a response with these candidates. -/
def issuedWith (lib : Library) (response : PKIMessage) (certificateResponse : CertResponse)
    (certificate : Certificate) (candidates : List Certificate) : IssuedCertificate where
  certificate := some certificate
  candidates
  certReqID := certificateResponse.certReqID
  implicitGranted := responseGrantsImplicitConfirm lib response
  grantedWithMods := certificateResponse.status.status == .grantedWithMods

theorem Issues.extractCertResponse_eq
    (issues : Issues lib request response caPubs certificateResponse certificate) (bodyName : String) :
    extractCertResponse lib response request bodyName caPubs certificateResponse =
      if request.operation = .kur ∧ request.requireKUPCAPubsAbsent = true ∧ caPubs ≠ [] then
        .error (permanent "validate KUP" "badDataFormat" (.text "KUP caPubs must be absent"))
      else (parseResponseCertificates lib [] (caPubs ++ response.extraCerts)).map
        (issuedWith lib response certificateResponse certificate) := by
  obtain ⟨encoded, carried, parsed⟩ := issues.plaintext
  have classified : classifyStatus lib certificateResponse.status = none :=
    classifyStatus_eq_none.mpr issues.granted
  have decided : certificateResponse.status.status ≠ .waiting := by
    rcases issues.granted with same | same <;> rw [same] <;> rintro ⟨⟩
  unfold extractCertResponse
  rw [if_neg decided, classified, carried]
  dsimp only
  rw [parsed]
  dsimp only
  split
  · rfl
  · cases parseResponseCertificates lib [] (caPubs ++ response.extraCerts) <;> rfl

theorem Issues.extract (issues : Issues lib request response caPubs certificateResponse certificate) :
    extractEnrollmentResponse lib response request =
      if request.operation = .kur ∧ request.requireKUPCAPubsAbsent = true ∧ caPubs ≠ [] then
        .error (permanent "validate KUP" "badDataFormat" (.text "KUP caPubs must be absent"))
      else (parseResponseCertificates lib [] (caPubs ++ response.extraCerts)).map
        (issuedWith lib response certificateResponse certificate) := by
  have reply := issues.reply
  -- An operation that is not set stands for P10CR, which is checked in the same way.
  have operation : expectedBody (if request.operation = .unset then .p10cr else request.operation) =
        expectedBody request.operation ∧
      acceptResponseCertReqID (if request.operation = .unset then .p10cr else request.operation)
        certificateResponse.certReqID request.responseCertReqID = .ok () := by
    have identifier := issues.identifier
    split
    · rename_i unset
      rw [unset] at identifier ⊢
      exact ⟨rfl, identifier⟩
    · exact ⟨rfl, identifier⟩
  unfold extractEnrollmentResponse
  split
  · rename_i same
    rw [same] at reply
    cases reply
  · dsimp only
    rw [operation.1, if_neg (not_not.mpr issues.kind), reply]
    dsimp only
    rw [operation.2]
    exact issues.extractCertResponse_eq _

theorem Issues.extract_clean (issues : Issues lib request response caPubs certificateResponse certificate)
    (clean : CleanCandidates lib request response caPubs) :
    ∃ candidates, extractEnrollmentResponse lib response request =
      .ok (issuedWith lib response certificateResponse certificate candidates) := by
  obtain ⟨candidates, parsed⟩ := parseResponseCertificates_ok_iff.mpr fun entry member =>
    .inr (clean.parse entry member)
  refine ⟨candidates, ?_⟩
  rw [issues.extract, if_neg clean.absent, parsed]
  rfl

theorem Issues.extract_unclean (issues : Issues lib request response caPubs certificateResponse certificate)
    (unclean : ¬ CleanCandidates lib request response caPubs) :
    ∃ err, extractEnrollmentResponse lib response request = .error err := by
  rw [issues.extract]
  split
  · exact ⟨_, rfl⟩
  · rename_i absent
    cases parsed : parseResponseCertificates lib [] (caPubs ++ response.extraCerts) with
    | error err => exact ⟨err, rfl⟩
    | ok candidates =>
        refine absurd ⟨absent, fun entry member => ?_⟩ unclean
        exact (parseResponseCertificates_ok_iff.mp ⟨candidates, parsed⟩ entry member).resolve_left (by simp)

/-- Every failure of `finishTransaction` after the extraction refuses the certificate. -/
theorem Issues.finish_clean (issues : Issues lib request response caPubs certificateResponse certificate)
    (clean : CleanCandidates lib request response caPubs) {t : Time} {csr : CertificateRequest}
    {signer : Option Certificate} {nonce : Bytes} {refusal : Option RefusedCertificate} {err : GoError}
    (failed : finishTransaction lib t request response csr signer nonce = .ok (.failed refusal err)) :
    ∃ reason, refusal = some ⟨some certificate, certificateResponse.certReqID, response.header.senderNonce,
      signer, reason⟩ := by
  obtain ⟨candidates, extracted⟩ := issues.extract_clean clean
  have explicit : (request.implicitConfirm && responseGrantsImplicitConfirm lib response) = false := by
    rw [Bool.eq_false_iff, ne_eq, Bool.and_eq_true]
    exact issues.explicit
  unfold finishTransaction at failed
  rw [extracted] at failed
  simp only [issuedWith, explicit, Bool.false_eq_true, if_false] at failed
  split at failed
  · cases failed
    exact ⟨_, rfl⟩
  · split at failed
    · cases failed
      exact ⟨_, rfl⟩
    · split at failed
      · cases failed
        exact ⟨_, rfl⟩
      · split at failed
        · split at failed
          · cases failed
          · split at failed <;> cases failed
            exact ⟨_, rfl⟩
        · cases failed

end

section
variable {lib : Library} {request : EnrollmentRequest} {certificate : Certificate} {certReqID : Int}
  {credentials : Credentials}

theorem confirmationMessage_rejects (laws : MessageLaws lib) {confirm : ConfirmRequest}
    {rejection : PKIStatusInfo} (refused : confirm.certificate = some certificate)
    (undelayed : confirm.requestNonce = []) (rejects : rejection.status = .rejection) :
    Follows (recorder fun _ => True)
      (fun u r => (∃ err, lib.newCertStatus certificate confirm.certReqID = .error err) ∨
        ∃ built drawn, r = .ok (built, drawn, "certConf") ∧ (⟨.entropy, drawn⟩ : Event interface) ∈ u ∧
          RejectsIn lib certificate confirm.certReqID built.body)
      [] (confirmationMessage lib request confirm (some rejection)) := by
  unfold confirmationMessage
  rw [refused]
  refine follows_outcome_bind (fun status hashed => ?_) fun _ failed => ?_
  · refine follows_ask_bind.mpr ⟨trivial, fun drawn => ?_⟩
    rw [if_neg (not_not.mpr undelayed)]
    refine .inr ⟨_, drawn, rfl, List.mem_singleton.mpr rfl, status, rejection, mapError_eq_ok.mp hashed,
      rejects, ?_⟩
    rw [(withSenderKID_content _ _).1]
    exact laws.body _ _ _
  · obtain ⟨err, failed, _⟩ := mapError_eq_error.mp failed
    exact .inl ⟨err, failed⟩

theorem exchangeProtected_rejects (laws : MessageLaws lib) {built : PKIMessage} {drawn : Entropy}
    {signer : Option Certificate} {nonce : Bytes} {u : Trail}
    (reachable : lib.newHTTPRequest request.endpointURL = .ok ())
    (known : credentialsFor lib request = .pure credentials)
    (member : (⟨.entropy, drawn⟩ : Event interface) ∈ u)
    (rejects : RejectsIn lib certificate certReqID built.body) :
    Follows (recorder fun _ => True) (fun u _ => Rejected lib request certificate certReqID u) u
      (exchangeProtected lib request credentials built drawn signer nonce "certConf") := by
  refine follows_outcome_bind ?_ fun err failed => .unsealed member known rejects failed
  rintro ⟨message, requestDER⟩ sealed_
  refine follows_outcome_bind (fun _ _ => ?_) fun err failed => ?_
  · refine follows_ask_bind.mpr ⟨trivial, fun answer => ?_⟩
    -- The certConf is in the record, which keeps it.
    refine (follows_grows _ _).mono fun later _ grown => .sent
      (grown.subset (List.mem_append_right u (List.mem_singleton.mpr rfl))) ?_
    rw [laws.protect_body _ _ _ _ (protectMessage_ok sealed_)]
    exact rejects
  · rw [reachable] at failed
    cases failed

/-- The delivery of a rejection sends the certConf unless it cannot be built. -/
theorem deliverRejection_rejects (laws : MessageLaws lib) {refusal : RefusedCertificate}
    (refused : refusal.certificate = some certificate)
    (reachable : lib.newHTTPRequest request.endpointURL = .ok ())
    (known : credentialsFor lib request = .pure credentials) :
    Follows (recorder fun _ => True) (fun u _ => Rejected lib request certificate refusal.certReqID u) []
      (deliverRejection lib request credentials refusal) := by
  refine (confirmationMessage_rejects laws refused rfl rfl).bind ?_ ?_
  · rintro u ⟨message, randomness, operation⟩ (⟨err, failed⟩ | ⟨built, drawn, same, member, rejects⟩)
    · exact (follows_grows _ _).mono fun _ _ _ => .unhashed failed
    · cases same
      refine (exchangeProtected_rejects laws reachable known member rejects).bind ?_ fun _ _ rejected => rejected
      intro u accepted rejected
      split <;> exact rejected
  · rintro u _ (⟨err, failed⟩ | ⟨_, _, ⟨⟩, _⟩)
    exact .unhashed failed

theorem annotateRefusal_classification {reason : GoError} (deliveryErr : GoError) :
    (annotateRefusal reason deliveryErr).classification = reason.classification := by
  unfold annotateRefusal GoError.classification
  dsimp only
  split
  · rename_i found
    rw [found]
    rfl
  · rfl

theorem rejectCertificate_rejects (laws : MessageLaws lib) {refusal : RefusedCertificate} {reason : GoError}
    (refused : refusal.certificate = some certificate)
    (reachable : lib.newHTTPRequest request.endpointURL = .ok ())
    (known : credentialsFor lib request = .pure credentials) :
    Follows (recorder fun _ => True)
      (fun u r => ∀ err, r = .error (.error err) →
        Rejected lib request certificate refusal.certReqID u ∧ err.classification = reason.classification)
      [] (rejectCertificate lib request credentials refusal reason) := by
  have delivered := deliverRejection_rejects laws refused reachable known
  have attempted : Follows (recorder fun _ => True)
      (fun u r => Outcome (fun _ => Rejected lib request certificate refusal.certReqID u)
        (fun fault => ∃ text, fault = .panic text) r)
      [] (attempt (deliverRejection lib request credentials refusal) : Go GoError (Except GoError Unit)) := by
    refine follows_tried.mpr (delivered.mono ?_)
    rintro u ((err | text) | _) rejected
    · exact rejected
    · exact ⟨text, rfl⟩
    · exact rejected
  refine attempted.bind ?_ ?_
  · rintro u (deliveryErr | _) rejected
    · rintro _ ⟨⟩
      exact ⟨rejected, annotateRefusal_classification deliveryErr⟩
    · rintro _ ⟨⟩
      exact ⟨rejected, rfl⟩
  · rintro u _ ⟨text, rfl⟩ _ ⟨⟩

end

/-- The refusal that `finishTransaction` answers a response with. -/
def Refuses (lib : Library) (call : ClientCall) (instant : Time) (message response : PKIMessage)
    (signer : Option Certificate) (reason : GoError) : Prop :=
  ∃ csr refusal, lib.parseCertificateRequest call.request.csrDER = .ok csr ∧
    finishTransaction lib instant call.request response csr signer (call.enrollmentNonce message) =
      .ok (.failed refusal reason)

/-- A refused certificate whose candidates are in order is rejected in certConf. -/
theorem Issues.completeOrRefuse_rejects {lib : Library} (laws : MessageLaws lib) {request : EnrollmentRequest}
    {accepted : Accepted} {caPubs : List CMPCertificate} {certificateResponse : CertResponse}
    {certificate : Certificate} {credentials : Credentials} {csr : CertificateRequest} {nonce : Bytes}
    (issues : Issues lib request accepted.response caPubs certificateResponse certificate)
    (clean : CleanCandidates lib request accepted.response caPubs)
    (reachable : lib.newHTTPRequest request.endpointURL = .ok ())
    (known : credentialsFor lib request = .pure credentials) :
    Follows (recorder fun _ => True)
      (fun u r => ∀ err, r = .error (.error err) →
        Rejected lib request certificate certificateResponse.certReqID u ∧
        ∃ refusal reason, finishTransaction lib accepted.instant request accepted.response csr
            accepted.responseSigner nonce = .ok (.failed refusal reason) ∧
          err.classification = reason.classification)
      [] (completeOrRefuse lib request credentials accepted csr nonce) := by
  unfold completeOrRefuse
  split
  · rintro _ ⟨⟩
  · rintro _ ⟨⟩
  · rename_i failed
    obtain ⟨_, ⟨⟩⟩ := issues.finish_clean clean failed
  · rename_i refusal reason failed
    obtain ⟨text, same⟩ := issues.finish_clean clean failed
    obtain rfl := Option.some.inj same
    refine (rejectCertificate_rejects laws rfl reachable known).mono ?_
    intro u r rejects err ended
    obtain ⟨rejected, classified⟩ := rejects err ended
    exact ⟨rejected, _, reason, failed, classified⟩

/-- The certificate of an authenticated response is rejected in certConf whenever the call fails, and the
error keeps the classification of the refusal, if and only if the response brings no caPubs where a KUP must
not have them and no other certificate that cannot be parsed (or the certConf cannot be built at all). -/
theorem refused_certificate_rejected_iff {lib : Library} (laws : MessageLaws lib) {call : ClientCall}
    (obtains : call.confirms = false) {before : Trail} {sent : HTTPRequest}
    {next : HTTPAnswer → Go GoError EnrollmentResult}
    (sending : Path (serve lib call) before (.op (.send sent) next))
    (first : ∀ e ∈ before, e.op.message? = none) {answer : HTTPAnswer} {instant : Time} {response : PKIMessage}
    {signer : Option Certificate} (accepted : call.accept lib instant sent.message answer = .ok (response, signer))
    {caPubs : List CMPCertificate} {certificateResponse : CertResponse} {certificate : Certificate}
    (issues : Issues lib call.request response caPubs certificateResponse certificate) :
    (∀ after err, Path (serve lib call)
        (before ++ (⟨.send sent, answer⟩ :: ⟨.now, instant⟩ :: after)) (.throw (.error err)) →
      Rejected lib call.request certificate certificateResponse.certReqID after ∧
      ∃ reason, Refuses lib call instant sent.message response signer reason ∧
        err.classification = reason.classification) ↔
    CleanCandidates lib call.request response caPubs ∨
      ∃ err, lib.newCertStatus certificate certificateResponse.certReqID = .error err := by
  obtain ⟨reachable, csr, credentials, rest, parsed, known, examines, completes⟩ :=
    serve_completes obtains sending first
  have other : ¬ (response.body.type = .pollRep ∧ call.enrolls = false) := by
    rw [issues.kind]
    unfold expectedBody
    split <;> rintro ⟨⟨⟩, _⟩
  have completing : Path (next answer) [⟨.now, instant⟩] (completeOrRefuse lib call.request credentials
      ⟨response, signer, instant⟩ csr (call.enrollmentNonce sent.message)) := by
    have continues := completes ⟨response, signer, instant⟩
    rw [if_neg other] at continues
    rw [examines answer, ← continues]
    refine .step (S := interface) (o := .now) instant ?_
    rw [accepted]
    exact .refl _
  have reached : Path (serve lib call) (before ++ [⟨.send sent, answer⟩, ⟨.now, instant⟩])
      (completeOrRefuse lib call.request credentials ⟨response, signer, instant⟩ csr
        (call.enrollmentNonce sent.message)) :=
    sending.trans (.step (S := interface) (o := .send sent) answer completing)
  have remaining : ∀ after q, Path (serve lib call)
      (before ++ (⟨.send sent, answer⟩ :: ⟨.now, instant⟩ :: after)) q →
      Path (completeOrRefuse lib call.request credentials ⟨response, signer, instant⟩ csr
        (call.enrollmentNonce sent.message)) after q := by
    intro after q whole
    rw [List.append_cons, List.append_cons, List.append_assoc before] at whole
    obtain ⟨middle, examined, rest⟩ := whole.append_inv
    rwa [examined.deterministic reached] at rest
  by_cases clean : CleanCandidates lib call.request response caPubs
  · refine iff_of_true (fun after err failing => ?_) (.inl clean)
    have rejects := @Issues.completeOrRefuse_rejects lib laws call.request ⟨response, signer, instant⟩ caPubs
      certificateResponse certificate credentials csr (call.enrollmentNonce sent.message) issues clean
      reachable known
    have ended := remaining after _ failing
    obtain ⟨rejected, refusal, reason, failed, classified⟩ :=
      rejects.outcome (r := .error (.error err)) ended err rfl
    exact ⟨rejected, reason, ⟨csr, refusal, parsed, failed⟩, classified⟩
  · obtain ⟨err, unextracted⟩ := issues.extract_unclean clean
    have failed : finishTransaction lib instant call.request response csr signer
        (call.enrollmentNonce sent.message) = .ok (.failed none err) := by
      unfold finishTransaction
      rw [unextracted]
    have stops : completeOrRefuse lib call.request credentials ⟨response, signer, instant⟩ csr
        (call.enrollmentNonce sent.message) = fail err := by
      unfold completeOrRefuse
      rw [failed]
    constructor
    · intro reports
      obtain ⟨rejected, _⟩ := reports [] err (by rw [stops] at reached; exact reached)
      cases rejected with
      | sent member => cases member
      | unhashed failed => exact .inr ⟨_, failed⟩
      | unsealed member => cases member
    · rintro (tidy | ⟨_, unhashed⟩) after err' failing
      · exact absurd tidy clean
      · have ended := remaining after _ failing
        rw [stops] at ended
        cases ended
        exact ⟨.unhashed unhashed, err, ⟨csr, none, parsed, failed⟩, rfl⟩

/-- The single CertResponse of the sample responses. -/
def plainIssue (certReqID : Int) (status : PKIStatus) : CertResponse :=
  ⟨certReqID, ⟨status, [], []⟩, some (some ⟨[3]⟩)⟩

/-- A library that cannot parse one encoding, with three more responses: a CP with modifications, a CP that
brings the malformed encoding along and a KUP with caPubs. -/
def brittleLibrary : Library :=
  { plainLibrary with
    parseCMPCertificate := fun encoded =>
      if encoded.raw = [0] then .error "malformed" else .ok (plainCertificate encoded.raw)
    parsePKIMessage := fun
      | 6 :: nonce => .ok (plainResponse nonce (.cp (.ok ⟨[], [plainIssue (-1) .grantedWithMods]⟩)))
      | 7 :: nonce => .ok
          { plainResponse nonce (.cp (.ok ⟨[], [plainIssue (-1) .accepted]⟩)) with extraCerts := [⟨[0]⟩] }
      | 8 :: nonce => .ok (plainResponse nonce (.kup (.ok ⟨[⟨[4]⟩], [plainIssue 0 .accepted]⟩)))
      | data => plainLibrary.parsePKIMessage data }

theorem brittleLibrary_message : MessageLaws brittleLibrary where
  body _ _ _ := rfl
  transactionID _ _ _ _ := rfl
  senderNonce _ _ _ := rfl
  protect_body := by rintro _ _ _ _ ⟨⟩; rfl
  protect_transactionID := by rintro _ _ _ _ ⟨⟩; rfl
  protect_senderNonce := by rintro _ _ _ _ ⟨⟩; rfl

/-- A request that does not accept modifications. -/
def strictRequest : EnrollmentRequest :=
  { plainRequest with csrDER := [1], transactionID := plainTransactionID, rejectGrantedMods := true }

/-- The events of the sample runs: randomness with a nonce, an answer that names the nonce and the clock. -/
def draw (nonce : UInt8) : Event interface := ⟨.entropy, (⟨[nonce], [], [], []⟩ : Entropy)⟩
def reply (sent : HTTPRequest) (code nonce : UInt8) : Event interface := ⟨.send sent, plainReply code [nonce]⟩
def tick : Event interface := ⟨.now, (10 : Int)⟩

/-- A certificate that was granted with modifications is rejected, and the server confirms the rejection. -/
theorem refused_certificate_rejected_iff_modified : ∃ sent next after err,
    Path (serve brittleLibrary (.enrollP10CR strictRequest)) [draw 9]
      (.op (.send sent) next) ∧
    Path (serve brittleLibrary (.enrollP10CR strictRequest))
      ([draw 9] ++ (reply sent 6 9 :: tick :: after))
      (.throw (.error err)) ∧
    Rejected brittleLibrary (ClientCall.enrollP10CR strictRequest).request (plainCertificate [3]) (-1) after ∧
    err.classification = some (.permanent, "grantedWithMods") := by
  have issues : Issues brittleLibrary (ClientCall.enrollP10CR strictRequest).request
      (plainResponse [9] (.cp (.ok ⟨[], [plainIssue (-1) .grantedWithMods]⟩))) []
      (plainIssue (-1) .grantedWithMods) (plainCertificate [3]) :=
    ⟨rfl, rfl, rfl, .inr rfl, ⟨_, rfl, rfl⟩, by decide +kernel⟩
  have clean : CleanCandidates brittleLibrary (ClientCall.enrollP10CR strictRequest).request
      (plainResponse [9] (.cp (.ok ⟨[], [plainIssue (-1) .grantedWithMods]⟩))) [] :=
    ⟨by rintro ⟨⟨⟩, _⟩, by rintro _ ⟨⟩⟩
  obtain ⟨sent, next, after, err, sending, failing, accepted, classified⟩ : ∃ sent next after err,
      Path (serve brittleLibrary (.enrollP10CR strictRequest)) [draw 9]
        (.op (.send sent) next) ∧
      Path (serve brittleLibrary (.enrollP10CR strictRequest))
        ([draw 9] ++ (reply sent 6 9 :: tick :: after))
        (.throw (.error err)) ∧
      (ClientCall.enrollP10CR strictRequest).accept brittleLibrary 10 sent.message (plainReply 6 [9]) =
        .ok (plainResponse [9] (.cp (.ok ⟨[], [plainIssue (-1) .grantedWithMods]⟩)), none) ∧
      err.classification = some (.permanent, "grantedWithMods") :=
    ⟨_, _, [draw 7, reply _ 3 7, tick], _,
      .step (S := interface) (o := .entropy) ⟨[9], [], [], []⟩ (.refl _),
      .step (S := interface) (o := .entropy) ⟨[9], [], [], []⟩
        (.step (S := interface) (o := .send _) (plainReply 6 [9])
          (.step (S := interface) (o := .now) (10 : Int)
            (.step (S := interface) (o := .entropy) ⟨[7], [], [], []⟩
              (.step (S := interface) (o := .send _) (plainReply 3 [7])
                (.step (S := interface) (o := .now) (10 : Int) (.refl _)))))), rfl, rfl⟩
  have reports := (refused_certificate_rejected_iff brittleLibrary_message rfl sending
    (List.forall_mem_singleton.mpr rfl) accepted issues).mpr (.inl clean)
  exact ⟨sent, next, after, err, sending, failing, (reports after err failing).1, classified⟩

def renewalRequest : EnrollmentRequest :=
  { plainRequest with
    csrDER := [1]
    transactionID := plainTransactionID
    requireKUPCAPubsAbsent := true
    requestedPrivateKey := some ⟨[1], .other [7]⟩
    protection := { signature := some ⟨⟨[6], .other [7]⟩, plainCertificate [2], []⟩ } }

/-- Two authenticated responses that issue a certificate and leave it to be confirmed: a CP with a malformed
certificate beside it, and a KUP with caPubs where they have to be absent. The call fails after the response
and sends nothing more, although certConf could be built and sent. -/
theorem malformed_candidate_unreported :
    (∃ sent err response,
      Path (serve brittleLibrary (.enrollP10CR strictRequest))
        [draw 9, reply sent 7 9, tick]
        (.throw (.error err)) ∧
      (ClientCall.enrollP10CR strictRequest).accept brittleLibrary 10 sent.message (plainReply 7 [9]) =
        .ok (response, none) ∧
      Issues brittleLibrary (ClientCall.enrollP10CR strictRequest).request response []
        (plainIssue (-1) .accepted) (plainCertificate [3]) ∧
      ¬ Rejected brittleLibrary (ClientCall.enrollP10CR strictRequest).request (plainCertificate [3]) (-1) []) ∧
    ∃ sent err response signer,
      Path (serve brittleLibrary (.enrollKUR renewalRequest))
        [tick, draw 9, reply sent 8 9, tick]
        (.throw (.error err)) ∧
      (ClientCall.enrollKUR renewalRequest).accept brittleLibrary 10 sent.message (plainReply 8 [9]) =
        .ok (response, signer) ∧
      Issues brittleLibrary (ClientCall.enrollKUR renewalRequest).request response [⟨[4]⟩]
        (plainIssue 0 .accepted) (plainCertificate [3]) ∧
      ¬ Rejected brittleLibrary (ClientCall.enrollKUR renewalRequest).request (plainCertificate [3]) 0 [] := by
  have unreported : ∀ request certReqID,
      ¬ Rejected brittleLibrary request (plainCertificate [3]) certReqID [] := by
    rintro request certReqID (member | failed | member)
    · cases member
    · cases failed
    · cases member
  refine ⟨⟨_, _, _, .step (S := interface) (o := .entropy) ⟨[9], [], [], []⟩
      (.step (S := interface) (o := .send _) (plainReply 7 [9])
        (.step (S := interface) (o := .now) (10 : Int) (.refl _))), rfl,
      ⟨rfl, rfl, rfl, .inl rfl, ⟨_, rfl, rfl⟩, by decide +kernel⟩, unreported _ _⟩,
    _, _, _, _, .step (S := interface) (o := .now) (10 : Int)
      (.step (S := interface) (o := .entropy) ⟨[9], [], [], []⟩
        (.step (S := interface) (o := .send _) (plainReply 8 [9])
          (.step (S := interface) (o := .now) (10 : Int) (.refl _)))), rfl,
      ⟨rfl, rfl, rfl, .inl rfl, ⟨_, rfl, rfl⟩, by decide +kernel⟩, unreported _ _⟩

end CmpIssuer
