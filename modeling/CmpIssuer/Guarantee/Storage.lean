import CmpIssuer.Session.Invariant
import CmpIssuer.Cluster.Deployment

/-!
Whether what `Sign` records for an answer can be stored. The schema of a
CMPTransaction bounds the nonces, in base64, and the length of the chain. The
client checks neither, so the answer decides.
-/
namespace CmpIssuer
open Effect

/-- The length of the base64 encoding of so many octets. -/
def base64Length (octets : Nat) : Nat := 4 * ((octets + 2) / 3)

def nonceFits (nonce : Bytes) : Bool := base64Length nonce.length ≤ 64

/-- The limits of the CMPTransaction schema on a status. -/
structure Storable (status : CMPTransactionStatus) : Prop where
  recipNonce : nonceFits status.recipNonce = true
  requestNonce : nonceFits status.requestNonce = true
  issuedChain : status.issuedChain.length ≤ 16

theorem storable_iff {status : CMPTransactionStatus} : Storable status ↔ nonceFits status.recipNonce = true ∧
    nonceFits status.requestNonce = true ∧ status.issuedChain.length ≤ 16 :=
  ⟨fun h => ⟨h.recipNonce, h.requestNonce, h.issuedChain⟩, fun h => ⟨h.1, h.2.1, h.2.2⟩⟩

instance (status : CMPTransactionStatus) : Decidable (Storable status) :=
  decidable_of_iff _ storable_iff.symm

section
variable (lib : Library)

def issuedIn (request : EnrollmentRequest) (response : PKIMessage) : Option IssuedCertificate :=
  match extractEnrollmentResponse lib response request with
  | .ok issued => if issued.waiting then none else some issued
  | .error _ => none

def finalIn (request : EnrollmentRequest) (response : PKIMessage) : Bool :=
  (issuedIn lib request response).any fun issued => request.implicitConfirm && issued.implicitGranted

/-- The chain that is validated for the certificate of a response. -/
def chainIn (t : Time) (request : EnrollmentRequest) (response : PKIMessage) : List Certificate :=
  match issuedIn lib request response with
  | none => []
  | some issued =>
      match issued.certificate with
      | none => []
      | some certificate =>
          (validateAndOrderChain lib t certificate
            (issued.candidates ++ request.cmpResponseCertificates) request.cmpTrust).toOption.getD []

/-- The answer fits into a record: its nonce, unless it is the last one, and its chain, or the chain that a
confirmation is for. -/
def FitsRecord (exchange : Exchange) (response : PKIMessage) (confirmed : List Certificate) : Prop :=
  match exchange.call with
  | .confirmP10CR _ =>
      (response.body.type = .pkiConf ∨ nonceFits response.header.senderNonce = true) ∧ confirmed.length ≤ 16
  | call =>
      (finalIn lib call.request response = true ∨ nonceFits response.header.senderNonce = true) ∧
        (chainIn lib exchange.instant call.request response).length ≤ 16

end

section
variable {lib : Library}

theorem finishTransaction_parts {t : Time} {request : EnrollmentRequest} {response : PKIMessage}
    {csr : CertificateRequest} {signer : Option Certificate} {nonce : Bytes} {result : EnrollmentResult}
    (h : finishTransaction lib t request response csr signer nonce = .ok (.result result)) :
    (issuedIn lib request response = none ∧ ∃ pending, result = { pending := some pending } ∧
      pending.recipNonce = response.header.senderNonce ∧ pending.requestNonce = nonce) ∨
    ∃ issued chain, issuedIn lib request response = some issued ∧
      chainIn lib t request response = chain ∧
      result = finishIssued response signer issued (request.implicitConfirm && issued.implicitGranted) chain := by
  unfold finishTransaction at h
  split at h
  · cases h
  · rename_i issued extracted
    have found : issuedIn lib request response = if issued.waiting then none else some issued := by
      rw [issuedIn, extracted]
    split at h
    · rename_i waiting
      cases h
      exact .inl ⟨by rw [found, if_pos waiting], _, rfl, rfl, rfl⟩
    · rename_i waiting
      rw [if_neg waiting] at found
      refine .inr ⟨issued, _, found, rfl, ?_⟩
      dsimp only at h
      split at h
      · cases h
      · split at h
        · cases h
        · rename_i certificate present
          split at h
          · cases h
          · split at h
            · cases h
            · rename_i chain ordered
              have same : chainIn lib t request response = chain := by
                unfold chainIn
                rw [found]
                dsimp only
                rw [present]
                dsimp only
                rw [ordered]
                rfl
              rw [same]
              split at h
              · split at h
                · cases h
                · split at h <;> cases h
                  rfl
              · cases h
                rfl

theorem issuedIn_pollRep {request : EnrollmentRequest} {response : PKIMessage}
    {reply : Except String (List PollRepItem)} (body : response.body = .pollRep reply) :
    issuedIn lib request response = none := by
  have other : ∀ operation, (Body.pollRep reply).type ≠ expectedBody operation := by
    intro operation
    cases operation <;> exact nofun
  unfold issuedIn extractEnrollmentResponse
  rw [body]
  dsimp only
  rw [if_pos (other _)]

theorem verdict_parts {call : ClientCall} {t : Time} {csr : CertificateRequest}
    {built message response : PKIMessage} {signer : Option Certificate} {result : EnrollmentResult}
    (enrolls : call.confirms = false)
    (h : call.verdict lib t csr built message response signer = .ok (.result result)) :
    (issuedIn lib call.request response = none ∧ ∃ pending, result = { pending := some pending } ∧
      pending.recipNonce = response.header.senderNonce ∧ pending.requestNonce = call.enrollmentNonce message) ∨
    ∃ issued chain, issuedIn lib call.request response = some issued ∧
      chainIn lib t call.request response = chain ∧
      result = finishIssued response signer issued
        (call.request.implicitConfirm && issued.implicitGranted) chain := by
  cases call with
  | confirmP10CR => cases enrolls
  | enrollP10CR | enrollIR | enrollKUR => exact finishTransaction_parts h
  | pollP10CR poll =>
      unfold ClientCall.verdict at h
      dsimp only at h
      split at h
      · rename_i reply body
        cases extracted : extractPollRep response poll.certReqID signer poll.requestNonce reply with
        | error err =>
            rw [extracted] at h
            cases h
        | ok pending =>
            rw [extracted] at h
            cases h
            have fields := extractPollRep_ok extracted
            exact .inl ⟨issuedIn_pollRep body, pending, rfl, fields.1, fields.2.1⟩
      · exact finishTransaction_parts h

/-- The nonce of the enrollment message: drawn for it, or recorded before. -/
theorem enrollmentNonce_fits {record : CMPTransaction} {call : ClientCall} {message : PKIMessage}
    (before : Storable record.status) (phase : PhaseAllows lib record call)
    (drawn : message.header.senderNonce.length = 16) :
    nonceFits (call.enrollmentNonce message) = true := by
  have own : nonceFits message.header.senderNonce = true := by
    rw [nonceFits, drawn]
    decide
  cases call with
  | pollP10CR poll =>
      rw [ClientCall.enrollmentNonce, phase.2.2.2.1]
      exact before.requestNonce
  | _ => exact own

theorem countPoll_storable {record : CMPTransaction} (polled : Bool) (before : Storable record.status) :
    Storable (record.countPoll polled).status := by
  cases polled
  · exact before
  · exact ⟨before.recipNonce, before.requestNonce, before.issuedChain⟩

theorem encodeChain_length (chain : List Certificate) : (encodeChain chain).length = chain.length := by
  simp [encodeChain]

/-! The three statuses that an answer is recorded with. -/

theorem pending_storable {status : CMPTransactionStatus} {pending : PendingTransaction} {t : Time}
    (before : Storable status) (request : nonceFits pending.requestNonce = true) :
    Storable (status.pending pending t) ↔ nonceFits pending.recipNonce = true := by
  refine ⟨fun h => h.recipNonce, fun fits => ⟨fits, ?_, before.issuedChain⟩⟩
  unfold CMPTransactionStatus.pending
  dsimp only
  split
  · exact before.requestNonce
  · exact request

theorem confirming_storable {status : CMPTransactionStatus} {chain : List Certificate}
    {pending : PendingTransaction} {t : Time} (request : nonceFits pending.requestNonce = true) :
    Storable (status.confirming chain pending t) ↔
      nonceFits pending.recipNonce = true ∧ chain.length ≤ 16 := by
  rw [← encodeChain_length chain]
  exact ⟨fun h => ⟨h.recipNonce, h.issuedChain⟩, fun h => ⟨h.1, request, h.2⟩⟩

theorem issued_storable {status : CMPTransactionStatus} {chain : List Certificate} {t : Time}
    (before : Storable status) : Storable (status.issued chain t) ↔ chain.length ≤ 16 := by
  rw [← encodeChain_length chain]
  exact ⟨fun h => h.issuedChain, fun h => ⟨before.recipNonce, before.requestNonce, h⟩⟩

theorem enrolled_storable {record : CMPTransaction} {exchange : Exchange} {response : PKIMessage}
    {signer : Option Certificate} {result : EnrollmentResult} {t : Time}
    (understood : Understood lib exchange response signer (.ok (.result result)))
    (enrolls : exchange.call.confirms = false) (before : Storable record.status)
    (phase : PhaseAllows lib record exchange.call)
    (drawn : exchange.request.message.header.senderNonce.length = 16) :
    let fits := (finalIn lib exchange.call.request response = true ∨
      nonceFits response.header.senderNonce = true) ∧
        (chainIn lib exchange.instant exchange.call.request response).length ≤ 16
    (∀ pending polled, result.pending = some pending →
      (Storable ((record.countPoll polled).status.pending pending t) ↔ fits)) ∧
    (∀ pending, result.pending = none → result.pendingConfirmation = some pending →
      (Storable (record.status.confirming result.chain pending t) ↔ fits)) ∧
    (result.pending = none → result.pendingConfirmation = none →
      (Storable (record.status.issued result.chain t) ↔ fits)) := by
  obtain ⟨csr, _, built, _, _, _, _, judged⟩ := understood.judged
  rcases verdict_parts enrolls judged with ⟨none, pending, rfl, nonce, request⟩ | ⟨issued, chain, some, same, rfl⟩
  · have own := enrollmentNonce_fits before phase drawn
    rw [← request] at own
    refine ⟨?_, by rintro _ ⟨⟩, by rintro ⟨⟩⟩
    rintro _ polled ⟨⟩
    rw [pending_storable (countPoll_storable polled before) own, nonce]
    simp [finalIn, chainIn, none]
  · rw [finalIn, some, same]
    unfold finishIssued
    cases final : exchange.call.request.implicitConfirm && issued.implicitGranted with
    | true =>
        refine ⟨by rintro _ _ ⟨⟩, by rintro _ _ ⟨⟩, fun _ _ => ?_⟩
        rw [if_pos rfl, issued_storable before]
        simp [final]
    | false =>
        refine ⟨by rintro _ _ ⟨⟩, ?_, by rintro _ ⟨⟩⟩
        rintro _ _ ⟨⟩
        rw [if_neg (by simp), confirming_storable (show nonceFits [] = true by decide)]
        simp [final]

theorem confirmed_storable (laws : MessageLaws lib) {record : CMPTransaction} {exchange : Exchange}
    {response : PKIMessage} {signer : Option Certificate} {result : EnrollmentResult} {t : Time}
    {confirm : ConfirmRequest} {chain : List Certificate}
    (understood : Understood lib exchange response signer (.ok (.result result)))
    (confirms : exchange.call = .confirmP10CR confirm) (before : Storable record.status)
    (phase : PhaseAllows lib record exchange.call)
    (drawn : exchange.request.message.header.senderNonce.length = 16) :
    let fits := (response.body.type = .pkiConf ∨ nonceFits response.header.senderNonce = true) ∧
      chain.length ≤ 16
    (∀ next polled, result.pendingConfirmation = some next →
      (Storable ((record.countPoll polled).status.confirming chain next t) ↔ fits)) ∧
    (result.pendingConfirmation = none → (Storable (record.status.issued chain t) ↔ fits)) := by
  obtain ⟨csr, _, built, _, _, _, sealed_, judged⟩ := understood.judged
  have nonce : nonceFits (confirmationNonce confirm built) = true := by
    unfold confirmationNonce
    split
    · rw [nonceFits, ← laws.protect_senderNonce _ _ _ _ sealed_, drawn]
      decide
    · rw [confirms] at phase
      rw [phase.2.2.2.1]
      exact before.requestNonce
  rw [confirms] at judged
  cases finished : finishConfirmation lib confirm (confirmationNonce confirm built) response with
  | error err =>
      rw [ClientCall.verdict, finished] at judged
      cases judged
  | ok outcome =>
      rw [ClientCall.verdict, finished] at judged
      cases judged
      unfold finishConfirmation at finished
      split at finished
      · rename_i body
        cases finished
        refine ⟨by rintro _ _ ⟨⟩, fun _ => ?_⟩
        rw [issued_storable before, body]
        simp [Body.type]
      · rename_i other
        split at finished
        · cases finished
        · cases finished
          refine ⟨?_, by rintro ⟨⟩⟩
          rintro _ polled ⟨⟩
          have type : response.body.type ≠ .pkiConf := by
            intro same
            cases body : response.body with
            | pkiConf => exact other body
            | _ =>
                rw [body] at same
                cases same
          rw [confirming_storable nonce]
          simp [type]

theorem fitsRecord_iff_of_enrolls {exchange : Exchange} {response : PKIMessage}
    (enrolls : exchange.call.confirms = false) (confirmed : List Certificate) :
    FitsRecord lib exchange response confirmed ↔
      (finalIn lib exchange.call.request response = true ∨ nonceFits response.header.senderNonce = true) ∧
        (chainIn lib exchange.instant exchange.call.request response).length ≤ 16 := by
  obtain ⟨call, _, _, _⟩ := exchange
  cases call with
  | confirmP10CR => cases enrolls
  | _ => exact Iff.rfl

/-- What is recorded for an accepted answer can be stored exactly when the nonce and the chain of the answer
fit. For a confirmation the chain is the one that is confirmed. -/
theorem recorded_status_storable_iff (laws : MessageLaws lib) {t : Trail} {record : CMPTransaction}
    {exchange : Exchange} {status : CMPTransactionStatus} (records : Records lib t record exchange status)
    (before : Storable record.status) (phase : PhaseAllows lib record exchange.call)
    (drawn : exchange.request.message.header.senderNonce.length = 16) :
    ∃ response signer confirmed,
      exchange.call.accept lib exchange.instant exchange.request.message exchange.answer =
        .ok (response, signer) ∧
      (exchange.call.confirms = true → status.issuedChain = encodeChain confirmed ∧
        ConfirmedChain lib t record exchange.call.enrollment confirmed) ∧
      (Storable status ↔ FitsRecord lib exchange response confirmed) := by
  have enrolled : ∀ {response signer}, exchange.call.accept lib exchange.instant exchange.request.message
      exchange.answer = .ok (response, signer) → exchange.call.confirms = false →
      (Storable status ↔ (finalIn lib exchange.call.request response = true ∨
        nonceFits response.header.senderNonce = true) ∧
          (chainIn lib exchange.instant exchange.call.request response).length ≤ 16) →
      ∃ response signer confirmed,
        exchange.call.accept lib exchange.instant exchange.request.message exchange.answer =
          .ok (response, signer) ∧
        (exchange.call.confirms = true → status.issuedChain = encodeChain confirmed ∧
          ConfirmedChain lib t record exchange.call.enrollment confirmed) ∧
        (Storable status ↔ FitsRecord lib exchange response confirmed) := by
    intro response signer accepted enrolls fits
    refine ⟨response, signer, [], accepted, fun confirms => ?_,
      fits.trans (fitsRecord_iff_of_enrolls enrolls []).symm⟩
    exact absurd (enrolls.symm.trans confirms) Bool.false_ne_true
  cases records with
  | pending _ understood enrolls waits =>
      exact enrolled understood.accepted enrolls
        ((enrolled_storable understood enrolls before phase drawn).1 _ _ waits)
  | confirming _ understood enrolls issued unconfirmed =>
      exact enrolled understood.accepted enrolls
        ((enrolled_storable understood enrolls before phase drawn).2.1 _ issued unconfirmed)
  | issued _ understood enrolls issued confirmed =>
      exact enrolled understood.accepted enrolls
        ((enrolled_storable understood enrolls before phase drawn).2.2 issued confirmed)
  | delayed _ understood confirms head chain waits =>
      refine ⟨_, _, _, understood.accepted, fun _ => ⟨rfl, by rw [confirms]; exact chain⟩, ?_⟩
      rw [FitsRecord, confirms]
      exact (confirmed_storable laws understood confirms before phase drawn).1 _ _ waits
  | confirmed _ understood confirms head chain done =>
      refine ⟨_, _, _, understood.accepted, fun _ => ⟨rfl, by rw [confirms]; exact chain⟩, ?_⟩
      rw [FitsRecord, confirms]
      exact (confirmed_storable laws understood confirms before phase drawn).2 done

/-- A status that `Sign` writes for an answer can be stored exactly when the nonce and the chain of the
answer fit. The chain of a confirmation is the one that this call has recorded before, or what the loaded
record has when it is verified again. The nonces of its own messages have 16 octets. -/
theorem written_status_storable_iff (laws : MessageLaws lib) {job : Job} {t : Trail}
    {written : CMPTransaction} {next : Except ApiError String → Go GoError Bytes} {hold : Hold}
    {exchange : Exchange}
    (path : Path (sign lib job.clusterResourceNamespace job.request job.issuer) t
      (.op (.updateTransactionStatus written) next))
    (stage : ((contract lib).run (Session.begin job) t).stage = .examined hold exchange)
    (before : Storable hold.record.status)
    (drawn : exchange.request.message.header.senderNonce.length = 16) :
    ∃ response signer confirmed,
      exchange.call.accept lib exchange.instant exchange.request.message exchange.answer =
        .ok (response, signer) ∧
      (exchange.call.confirms = true → written.status.issuedChain = encodeChain confirmed ∧
        ConfirmedChain lib t hold.record exchange.call.enrollment confirmed) ∧
      (Storable written.status ↔ FitsRecord lib exchange response confirmed) := by
  obtain ⟨_, _, _, _, hands, _⟩ := (sign_sound path).handed hold exchange.call (by rw [stage]; rfl)
  rcases (sign_follows lib job).allows path with ⟨_, _, created, _⟩ | ⟨_, _, status, examined, records, rfl⟩
  · cases stage.symm.trans created
  · cases stage.symm.trans examined
    rw [contract_run_trail] at records
    exact recorded_status_storable_iff laws records before hands.phase drawn

end

def Stage.exchange? : Stage → Option (Hold × Exchange)
  | .examined hold exchange => some (hold, exchange)
  | _ => none

theorem Stage.eq_examined {stage : Stage} {hold : Hold} {exchange : Exchange}
    (h : stage.exchange? = some (hold, exchange)) : stage = .examined hold exchange := by
  cases stage <;> cases h
  rfl

/-- The record an operation writes the status of. -/
def Op.update? : Op → Option CMPTransaction
  | .updateTransactionStatus record => some record
  | _ => none

theorem Op.eq_update {o : Op} {record : CMPTransaction} (h : o.update? = some record) :
    o = .updateTransactionStatus record := by
  cases o <;> cases h
  rfl

/-- A deployment with a nonce of so many octets in its log. A nonce is longer than those before it together. -/
def longDeployment (octets : Nat) (replies : List HTTPAnswer) : Deployment :=
  { plainDeployment none replies with
    cluster := { Cluster.start none with
      log := [⟨0, ⟨.entropy, ⟨List.replicate octets 9, [], [], []⟩⟩, none, none⟩] } }

/-- A call of the deployment that is about to write a status for an answer. -/
theorem written_status (d : Deployment) (lib : Library) (job : Job) (n : Nat)
    {written : CMPTransaction} {hold : Hold} {exchange : Exchange}
    (reached : (d.run lib job n).2.2.next?.bind Op.update? = some written)
    (examined : ((contract lib).run (Session.begin job) (d.run lib job n).1).stage.exchange? =
      some (hold, exchange)) :
    ∃ t next, Path (sign lib job.clusterResourceNamespace job.request job.issuer) t
      (.op (.updateTransactionStatus written) next) ∧
      ((contract lib).run (Session.begin job) t).stage = .examined hold exchange := by
  obtain ⟨next, path⟩ := d.run_view lib job n Op.eq_update reached
  exact ⟨_, next, path, Stage.eq_examined examined⟩

/-- A certConf is answered with pkiConf, and the chain that was recorded before it is recorded as issued. -/
theorem written_status_storable_iff_confirmed : ∃ (t : Trail) (written : CMPTransaction) (hold : Hold)
    (exchange : Exchange) (response : PKIMessage) (signer : Option Certificate) (confirmed : List Certificate),
    exchange.call.accept plainLibrary exchange.instant exchange.request.message exchange.answer =
      .ok (response, signer) ∧
    exchange.call.confirms = true ∧ written.status.phase = .issued ∧
    ConfirmedChain plainLibrary t hold.record exchange.call.enrollment confirmed ∧
    Storable written.status ∧ FitsRecord plainLibrary exchange response confirmed := by
  obtain ⟨d, writes, examines⟩ : ∃ d : Deployment,
      ((d.run plainLibrary plainJob 21).2.2.next?.bind Op.update?).any (fun written =>
        written.status.phase = .issued ∧ Storable written.status) = true ∧
      ((contract plainLibrary).run (Session.begin plainJob) (d.run plainLibrary plainJob 21).1).stage.exchange?.any
        (fun examined => Storable examined.1.record.status ∧
          examined.2.request.message.header.senderNonce.length = 16 ∧ examined.2.call.confirms = true) = true :=
    ⟨longDeployment 7 [plainReply 2 (List.replicate 8 9), plainReply 3 (List.replicate 16 9)],
      by decide +kernel, by decide +kernel⟩
  obtain ⟨written, reached, issued⟩ := (Option.any_eq_true _ _).mp writes
  obtain ⟨⟨hold, exchange⟩, examined, confirming⟩ := (Option.any_eq_true _ _).mp examines
  obtain ⟨phase, stored⟩ := of_decide_eq_true issued
  obtain ⟨before, drawn, confirms⟩ := of_decide_eq_true confirming
  obtain ⟨t, next, path, stage⟩ := written_status d plainLibrary plainJob 21 reached examined
  obtain ⟨response, signer, confirmed, accepted, chain, fits⟩ :=
    written_status_storable_iff plainLibrary_message path stage before drawn
  exact ⟨t, written, hold, exchange, response, signer, confirmed, accepted, confirms, phase, (chain confirms).2,
    stored, fits.mp stored⟩

def verboseLibrary : Library :=
  { plainLibrary with
    parsePKIMessage := fun data => (plainLibrary.parsePKIMessage data).map fun message =>
      { message with header := { message.header with senderNonce := List.replicate 49 8 } } }

/-- The state that has to be stored before the certConf is sent is one that the API server refuses. -/
theorem long_nonce_unstorable : ∃ (t : Trail) (written : CMPTransaction)
    (next : Except ApiError String → Go GoError Bytes) (hold : Hold) (exchange : Exchange),
    Path (sign verboseLibrary plainJob.clusterResourceNamespace plainJob.request plainJob.issuer) t
      (.op (.updateTransactionStatus written) next) ∧
    ((contract verboseLibrary).run (Session.begin plainJob) t).stage = .examined hold exchange ∧
    Storable hold.record.status ∧ exchange.request.message.header.senderNonce.length = 16 ∧
    written.status.phase = .confirming ∧ written.status.issuedChain.length = 2 ∧
    ¬ Storable written.status := by
  obtain ⟨d, written, hold, exchange, reached, examined, facts⟩ : ∃ d : Deployment,
      ∃ written hold exchange, (d.run verboseLibrary plainJob 14).2.2.next?.bind Op.update? = some written ∧
      ((contract verboseLibrary).run (Session.begin plainJob)
        (d.run verboseLibrary plainJob 14).1).stage.exchange? = some (hold, exchange) ∧
      Storable hold.record.status ∧ exchange.request.message.header.senderNonce.length = 16 ∧
      written.status.phase = .confirming ∧ written.status.issuedChain.length = 2 ∧
      ¬ Storable written.status := by
    refine ⟨longDeployment 15 [plainReply 2 (List.replicate 16 9)], _, _, _, rfl, rfl, ?_⟩
    decide +kernel
  obtain ⟨t, next, path, stage⟩ := written_status d verboseLibrary plainJob 14 reached examined
  exact ⟨t, written, next, hold, exchange, path, stage, facts⟩

end CmpIssuer
