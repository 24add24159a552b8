import CmpIssuer.Cluster.Chronicle
import CmpIssuer.Guarantee.Replica
import CmpIssuer.Session.Policy

/-!
Where a certificate comes from. Every chain that is stored for a
CertificateRequest was issued by the server in a response that a call of the
run accepted under the policy of its issuer, and a record comes to phase Issued
only when the server has confirmed that certificate. Both hold over any
interleaving of calls, across polls, crashes and changes of the issuer, so they
hold for every bundle that is returned.
-/
namespace CmpIssuer
open Effect

section
variable {lib : Library}

/-- What a result with a chain says about the response it was made from. -/
theorem finishTransaction_grants {t : Time} {request : EnrollmentRequest} {response : PKIMessage}
    {csr : CertificateRequest} {signer : Option Certificate} {nonce : Bytes} {result : EnrollmentResult}
    (h : finishTransaction lib t request response csr signer nonce = .ok (.result result))
    (obtained : result.pending = none) :
    ∃ issued leaf, extractEnrollmentResponse lib response request = .ok issued ∧
      issued.certificate = some leaf ∧ result.chain.head? = some leaf ∧
      (request.rejectGrantedMods = true → issued.grantedWithMods = false) ∧
      (result.pendingConfirmation = none → request.implicitConfirm = true ∧ issued.implicitGranted = true) := by
  unfold finishTransaction at h
  split at h
  · cases h
  · rename_i issued extracted
    split at h
    · cases h
      cases obtained
    · dsimp only at h
      split at h
      · cases h
      · rename_i policy
        split at h
        · cases h
        · rename_i certificate present
          split at h
          · cases h
          · split at h
            · cases h
            · rename_i chain ordered
              have finished : result = finishIssued response signer issued
                  (request.implicitConfirm && issued.implicitGranted) chain := by
                split at h
                · split at h
                  · cases h
                  · split at h <;> cases h
                    rfl
                · cases h
                  rfl
              subst finished
              refine ⟨issued, certificate, extracted, present, ?_, fun rejects => ?_, fun confirmed => ?_⟩
              · obtain ⟨head, _⟩ := validateAndOrderChain_ok ordered
                unfold finishIssued
                split <;> exact head
              · simpa [rejects] using policy
              · unfold finishIssued at confirmed
                split at confirmed
                · rename_i implicitly
                  exact Bool.and_eq_true_iff.mp implicitly
                · cases confirmed

theorem ClientCall.verdict_grants {call : ClientCall} {t : Time} {csr : CertificateRequest}
    {built message response : PKIMessage} {signer : Option Certificate} {result : EnrollmentResult}
    (enrolls : call.confirms = false)
    (h : call.verdict lib t csr built message response signer = .ok (.result result))
    (obtained : result.pending = none) :
    ∃ issued leaf, extractEnrollmentResponse lib response call.request = .ok issued ∧
      issued.certificate = some leaf ∧ result.chain.head? = some leaf ∧
      (call.request.rejectGrantedMods = true → issued.grantedWithMods = false) ∧
      (result.pendingConfirmation = none →
        call.request.implicitConfirm = true ∧ issued.implicitGranted = true) := by
  cases call with
  | confirmP10CR => cases enrolls
  | enrollP10CR | enrollIR | enrollKUR => exact finishTransaction_grants h obtained
  | pollP10CR poll =>
      unfold ClientCall.verdict at h
      dsimp only at h
      split at h
      · rename_i reply _
        cases extracted : extractPollRep response poll.certReqID signer poll.requestNonce reply with
        | error => rw [extracted] at h; cases h
        | ok => rw [extracted] at h; cases h; cases obtained
      · exact finishTransaction_grants h obtained

theorem finishConfirmation_confirmed {confirm : ConfirmRequest} {nonce : Bytes} {response : PKIMessage}
    {result : EnrollmentResult} (h : finishConfirmation lib confirm nonce response = .ok result)
    (done : result.pendingConfirmation = none) : response.body = .pkiConf := by
  unfold finishConfirmation at h
  split at h
  · assumption
  · split at h
    · cases h
    · cases h
      cases done

end

section
variable (lib : Library) (log : List Entry) (jobs : List Job) (transactionID : Bytes)

/-- The call of the run for this job handed the request to the client, sent the message, got the answer and
read the clock, in this order. -/
def Conversed (job : Job) (exchange : Exchange) : Prop :=
  ∃ earlier entry later, log = earlier ++ entry :: later ∧ jobs[entry.thread]? = some job ∧
    entry.event = ⟨.send exchange.request, exchange.answer⟩ ∧
    (∃ handed ∈ earlier, handed.thread = entry.thread ∧ handed.event = ⟨.call exchange.call, ()⟩) ∧
    ∃ read ∈ later, read.thread = entry.thread ∧ read.event = ⟨.now, exchange.instant⟩

/-- A message that the call for this job sent for the request, and the response that was accepted for it. -/
def Replied (job : Job) (call : ClientCall) (response : PKIMessage) : Prop :=
  ∃ sent answer t signer, Conversed log jobs job ⟨call, sent, answer, t⟩ ∧
    call.sends lib sent.message.body ∧
    (transactionID ≠ [] → sent.message.header.transactionID = transactionID) ∧
    call.accept lib t sent.message answer = .ok (response, signer)

/-- A response with a certificate, and the request and the job it was accepted for. -/
structure Grant where
  job : Job
  call : ClientCall
  response : PKIMessage
  issued : IssuedCertificate
  leaf : Certificate

/-- The server issued this certificate in a response that a call of the run accepted, and the policy of
the issuer allows it. -/
structure Granted (encoded : Bytes) (grant : Grant) : Prop where
  job : grant.job ∈ jobs
  replied : Replied lib log jobs transactionID grant.job grant.call grant.response
  enrolls : grant.call.confirms = false
  obeys : Obeys lib grant.job.issuer.spec grant.call.request
  extracted : extractEnrollmentResponse lib grant.response grant.call.request = .ok grant.issued
  certificate : grant.issued.certificate = some grant.leaf
  encoded : grant.leaf.raw = encoded
  modified : grant.issued.grantedWithMods = true →
    grant.job.issuer.spec.grantedModifications = .value .accept

/-- A certConf that accepts this certificate was sent in the run with this nonce. -/
def ConfirmationSent (encoded nonce : Bytes) : Prop :=
  ∃ entry ∈ log, ∃ sent answer leaf certReqID status, entry.event = ⟨.send sent, answer⟩ ∧
    leaf.raw = encoded ∧ lib.newCertStatus leaf certReqID = .ok status ∧
    sent.message.body = .certConf [{ status with statusInfo := none }] ∧
    (transactionID ≠ [] → sent.message.header.transactionID = transactionID) ∧
    sent.message.header.senderNonce = nonce

/-- The server has confirmed the certificate: it granted implicit confirmation to an issuer that asks for
it, or it answered the certConf for the certificate, or a poll for that answer, with pkiConf. -/
inductive Confirmed (encoded : Bytes) : Prop
  | implicit {grant : Grant} (granted : Granted lib log jobs transactionID encoded grant)
      (asked : grant.job.issuer.spec.protocol.confirmation = .value .implicit)
      (given : grant.issued.implicitGranted = true)
  | explicit {nonce : Bytes} {job : Job} {confirm : ConfirmRequest} {response : PKIMessage}
      (sent : ConfirmationSent lib log transactionID encoded nonce)
      (replied : Replied lib log jobs transactionID job (.confirmP10CR confirm) response)
      (confirmed : response.body = .pkiConf)
      (answers : response.header.recipNonce = nonce ∨ confirm.requestNonce = nonce)

/-- The origin of what a record says about a certificate. -/
structure Sourced (record : CMPTransaction) : Prop where
  received : ∀ encoded, record.status.issuedChain.head? = some encoded →
    ∃ grant, Granted lib log jobs record.spec.transactionID encoded grant
  confirming : record.status.phase = .confirming → record.status.requestNonce ≠ [] →
    ∃ encoded, record.status.issuedChain.head? = some encoded ∧
      ConfirmationSent lib log record.spec.transactionID encoded record.status.requestNonce
  issued : record.status.phase = .issued → ∃ encoded, record.status.issuedChain.head? = some encoded ∧
    Confirmed lib log jobs record.spec.transactionID encoded

end

section
variable {lib : Library} {log later : List Entry} {jobs more : List Job} {transactionID encoded : Bytes}
  {record : CMPTransaction}

/-! Nothing of this is undone by what happens later. -/

theorem Conversed.mono {job : Job} {exchange : Exchange} (h : Conversed log jobs job exchange)
    (grows : log <+: later) (joins : jobs <+: more) : Conversed later more job exchange := by
  obtain ⟨earlier, entry, rest, rfl, served, event, handed, read, member, clock⟩ := h
  obtain ⟨last, rfl⟩ := grows
  refine ⟨earlier, entry, rest ++ last, by simp, ?_, event, handed, read, List.mem_append_left _ member, clock⟩
  exact (List.prefix_iff_getElem?.mp joins _ (List.getElem?_eq_some_iff.mp served).1).trans
    ((List.getElem?_eq_getElem _).symm.trans served)

theorem Replied.mono {job : Job} {call : ClientCall} {response : PKIMessage}
    (h : Replied lib log jobs transactionID job call response) (grows : log <+: later) (joins : jobs <+: more) :
    Replied lib later more transactionID job call response := by
  obtain ⟨sent, answer, t, signer, conversed, rest⟩ := h
  exact ⟨sent, answer, t, signer, conversed.mono grows joins, rest⟩

theorem Granted.mono {grant : Grant} (h : Granted lib log jobs transactionID encoded grant)
    (grows : log <+: later) (joins : jobs <+: more) : Granted lib later more transactionID encoded grant :=
  ⟨joins.subset h.job, h.replied.mono grows joins, h.enrolls, h.obeys, h.extracted, h.certificate, h.encoded,
    h.modified⟩

theorem ConfirmationSent.mono {nonce : Bytes} (h : ConfirmationSent lib log transactionID encoded nonce)
    (grows : log <+: later) : ConfirmationSent lib later transactionID encoded nonce := by
  obtain ⟨entry, member, rest⟩ := h
  exact ⟨entry, grows.subset member, rest⟩

theorem Confirmed.mono (h : Confirmed lib log jobs transactionID encoded) (grows : log <+: later)
    (joins : jobs <+: more) : Confirmed lib later more transactionID encoded := by
  cases h with
  | implicit granted asked given => exact .implicit (granted.mono grows joins) asked given
  | explicit sent replied confirmed answers =>
      exact .explicit (sent.mono grows) (replied.mono grows joins) confirmed answers

theorem Sourced.mono (h : Sourced lib log jobs record) (grows : log <+: later) (joins : jobs <+: more) :
    Sourced lib later more record where
  received encoded head := by
    obtain ⟨grant, granted⟩ := h.received encoded head
    exact ⟨grant, granted.mono grows joins⟩
  confirming phase present := by
    obtain ⟨encoded, head, sent⟩ := h.confirming phase present
    exact ⟨encoded, head, sent.mono grows⟩
  issued phase := by
    obtain ⟨encoded, head, confirmed⟩ := h.issued phase
    exact ⟨encoded, head, confirmed.mono grows joins⟩

theorem Sourced.updated (h : Sourced lib log jobs record) (resourceVersion : String) :
    Sourced lib log jobs (record.updated resourceVersion) :=
  ⟨h.received, h.confirming, h.issued⟩

theorem Sourced.opened (empty : record.status.issuedChain = [])
    (early : record.status.phase.rank < Phase.confirming.rank) : Sourced lib log jobs record where
  received encoded head := by
    rw [empty] at head
    cases head
  confirming phase := by
    rw [phase] at early
    exact absurd early (lt_irrefl _)
  issued phase := by
    rw [phase] at early
    exact absurd early (by decide)

variable {exchange : Exchange} {job : Job} {status : CMPTransactionStatus}

/-- An exchange of the run, with what its call was handed over under. -/
structure Conducted (lib : Library) (log : List Entry) (jobs : List Job) (record : CMPTransaction)
    (exchange : Exchange) (job : Job) : Prop where
  known : job ∈ jobs
  obeys : Obeys lib job.issuer.spec exchange.call.request
  phase : PhaseAllows lib record exchange.call
  identified : exchange.call.request.transactionID = record.spec.transactionID
  conversed : Conversed log jobs job exchange

section
variable (laws : MessageLaws lib) (conducted : Conducted lib log jobs record exchange job)
  {response : PKIMessage} {signer : Option Certificate} {result : EnrollmentResult}
  (understood : Understood lib exchange response signer (.ok (.result result)))
include laws conducted understood

theorem Understood.replied :
    Replied lib log jobs record.spec.transactionID job exchange.call response ∧
      (record.spec.transactionID ≠ [] →
        exchange.request.message.header.transactionID = record.spec.transactionID) := by
  obtain ⟨_, _, _, _, _, from_, sealed_, _⟩ := understood.judged
  have identified := (from_.protected_ laws sealed_).2.2.2
  rw [conducted.identified] at identified
  exact ⟨⟨_, _, _, signer, conducted.conversed, understood.sends laws, identified, understood.accepted⟩, identified⟩

theorem Understood.granted (enrolls : exchange.call.confirms = false) (obtained : result.pending = none) :
    ∃ grant, Granted lib log jobs record.spec.transactionID grant.leaf.raw grant ∧
      (encodeChain result.chain).head? = some grant.leaf.raw ∧
      (result.pendingConfirmation = none →
        grant.job.issuer.spec.protocol.confirmation = .value .implicit ∧
          grant.issued.implicitGranted = true) := by
  obtain ⟨replied, _⟩ := Understood.replied laws conducted understood
  obtain ⟨csr, _, built, _, _, _, _, judged⟩ := understood.judged
  obtain ⟨issued, leaf, extracted, certificate, head, policy, confirmed⟩ :=
    ClientCall.verdict_grants enrolls judged obtained
  rw [conducted.obeys.rejectGrantedMods] at policy
  rw [conducted.obeys.implicitConfirm] at confirmed
  refine ⟨⟨job, exchange.call, response, issued, leaf⟩, ⟨conducted.known, replied, enrolls, conducted.obeys,
    extracted, certificate, rfl, fun modified => ?_⟩, by rw [encodeChain, List.head?_map, head]; rfl,
    fun none => ?_⟩
  · by_contra refused
    have rejected := policy (bne_iff_ne.mpr refused)
    rw [modified] at rejected
    cases rejected
  · obtain ⟨asked, given⟩ := confirmed none
    exact ⟨beq_iff_eq.mp asked, given⟩

/-- A confirmation sends a certConf for the stored leaf, or polls for one that was sent before. -/
theorem Understood.confirmationSent (keeps : KeepsEncoding lib) (sourced : Sourced lib log jobs record)
    {confirm : ConfirmRequest} (confirms : exchange.call = .confirmP10CR confirm) {leaf : Certificate}
    (head : confirm.certificate = some leaf) :
    (confirm.requestNonce = [] → ConfirmationSent lib log record.spec.transactionID leaf.raw
      exchange.request.message.header.senderNonce) ∧
    (confirm.requestNonce ≠ [] →
      ConfirmationSent lib log record.spec.transactionID leaf.raw confirm.requestNonce) := by
  obtain ⟨_, identified⟩ := Understood.replied laws conducted understood
  obtain ⟨earlier, entry, rest, same, _, event, _⟩ := conducted.conversed
  have member : entry ∈ log := same ▸ List.mem_append_right _ List.mem_cons_self
  have sends := understood.sends laws
  rw [confirms] at sends
  obtain ⟨confirming, nonce, stored⟩ := conducted.phase.confirming confirms head
  rcases sends.confirmation with ⟨set, _⟩ | ⟨unset, leaf', status, certificate', hashed, body⟩
  · refine ⟨fun unset => absurd unset set, fun _ => ?_⟩
    obtain ⟨encoded, first, sent⟩ := sourced.confirming confirming (nonce ▸ set)
    cases (stored.head keeps).symm.trans first
    rwa [nonce]
  · cases certificate'.symm.trans head
    exact ⟨fun _ => ⟨entry, member, _, _, leaf, _, status, event, rfl, hashed, body, identified, rfl⟩,
      fun set => absurd unset set⟩

end

theorem Understood.delayedNonce (laws : MessageLaws lib) {response : PKIMessage}
    {signer : Option Certificate} {result : EnrollmentResult} {confirm : ConfirmRequest}
    {next : PendingTransaction}
    (understood : Understood lib exchange response signer (.ok (.result result)))
    (confirms : exchange.call = .confirmP10CR confirm) (waits : result.pendingConfirmation = some next) :
    next.requestNonce = if confirm.requestNonce = [] then exchange.request.message.header.senderNonce
      else confirm.requestNonce := by
  obtain ⟨csr, drawn, built, _, _, from_, sealed_, judged⟩ := understood.judged
  obtain ⟨_, sealedNonce, builtNonce, _⟩ := from_.protected_ laws sealed_
  rw [confirms] at judged
  have finished := Finished.ofExcept_eq_result.mp (Except.ok.inj judged)
  rw [(finishConfirmation_delayed finished waits).1, confirmationNonce, sealedNonce, builtNonce]

theorem Records.sourced (laws : MessageLaws lib) (keeps : KeepsEncoding lib)
    (conducted : Conducted lib log jobs record exchange job)
    {trail : Trail} (records : Records lib trail record exchange status) (sourced : Sourced lib log jobs record) :
    Sourced lib log jobs { record with status } := by
  cases records with
  | pending t understood enrolls waits =>
      refine ⟨fun encoded head => sourced.received encoded ?_, by rintro ⟨⟩, by rintro ⟨⟩⟩
      rwa [← countPoll_issuedChain record (record.status.phase == .polling)]
  | @confirming _ _ result _ t understood enrolls obtained unconfirmed =>
      obtain ⟨grant, granted, head, _⟩ := Understood.granted laws conducted understood enrolls obtained
      refine ⟨fun encoded same => ?_, fun _ present => ?_, by rintro ⟨⟩⟩
      · cases head.symm.trans same
        exact ⟨grant, granted⟩
      · obtain ⟨csr, _, built, _, _, _, _, judged⟩ := understood.judged
        rcases ClientCall.verdict_result enrolls judged with ⟨_, rfl, _⟩ | ⟨_, nonces, _⟩
        · cases obtained
        · exact absurd (nonces _ unconfirmed).2.1 present
  | @issued _ _ result t understood enrolls obtained confirmed =>
      obtain ⟨grant, granted, head, implicitly⟩ :=
        Understood.granted laws conducted understood enrolls obtained
      obtain ⟨asked, given⟩ := implicitly confirmed
      refine ⟨fun encoded same => ?_, by rintro ⟨⟩, fun _ => ⟨_, head, .implicit granted asked given⟩⟩
      cases head.symm.trans same
      exact ⟨grant, granted⟩
  | @delayed response signer result confirm leaf rest next t understood confirms head _ waits =>
      obtain ⟨_, _, stored⟩ := conducted.phase.confirming confirms head
      obtain ⟨first, again⟩ := Understood.confirmationSent laws conducted understood keeps sourced confirms head
      have nonce := understood.delayedNonce laws confirms waits
      refine ⟨fun encoded same => ?_, fun _ _ => ⟨leaf.raw, rfl, ?_⟩, by rintro ⟨⟩⟩
      · cases same
        exact sourced.received _ (stored.head keeps)
      · show ConfirmationSent lib log record.spec.transactionID leaf.raw next.requestNonce
        rw [nonce]
        split
        · rename_i unset
          exact first unset
        · rename_i set
          exact again set
  | @confirmed response signer result confirm leaf rest t understood confirms head _ done =>
      obtain ⟨_, _, stored⟩ := conducted.phase.confirming confirms head
      obtain ⟨first, again⟩ := Understood.confirmationSent laws conducted understood keeps sourced confirms head
      obtain ⟨replied, _⟩ := Understood.replied laws conducted understood
      rw [confirms] at replied
      obtain ⟨_, _, _, _, _, _, _, judged⟩ := understood.judged
      rw [confirms] at judged
      have finished := Finished.ofExcept_eq_result.mp (Except.ok.inj judged)
      have body := finishConfirmation_confirmed finished done
      refine ⟨fun encoded same => ?_, by rintro ⟨⟩, fun _ => ⟨leaf.raw, rfl, ?_⟩⟩
      · cases same
        exact sourced.received _ (stored.head keeps)
      · by_cases unset : confirm.requestNonce = []
        · refine .explicit (first unset) replied body (.inl ?_)
          have accepted := understood.accepted
          rw [confirms] at accepted
          rcases verifyResponse_nonce (ClientCall.accept_verified accepted) with same | ⟨present, _⟩
          · exact same
          · exact absurd unset present
        · exact .explicit (again unset) replied body (.inr rfl)

end

/-- Where in its trail a session has sent the message whose answer it is to examine or has examined. -/
def Located (session : Session) : Prop :=
  match session.stage with
  | .calling _ call => (⟨.call call, ()⟩ : Event interface) ∈ session.trail
  | .answered _ call request answer => ∃ before after,
      session.trail = before ++ ⟨.send request, answer⟩ :: after ∧ (⟨.call call, ()⟩ : Event interface) ∈ before
  | .examined _ exchange => ∃ before after,
      session.trail = before ++ ⟨.send exchange.request, exchange.answer⟩ :: after ∧
      (⟨.call exchange.call, ()⟩ : Event interface) ∈ before ∧
      (⟨.now, exchange.instant⟩ : Event interface) ∈ after
  | _ => True

theorem Located.append {job : Job} {trail : Trail} {stage : Stage} (located : Located ⟨job, trail, stage⟩)
    (e : Event interface) : Located ⟨job, trail ++ [e], stage⟩ := by
  cases stage with
  | calling => exact List.mem_append_left _ located
  | answered =>
      obtain ⟨before, after, same, handed⟩ := located
      exact ⟨before, after ++ [e], (congrArg (· ++ [e]) same).trans (List.append_assoc ..), handed⟩
  | examined =>
      obtain ⟨before, after, same, handed, read⟩ := located
      exact ⟨before, after ++ [e], (congrArg (· ++ [e]) same).trans (List.append_assoc ..), handed,
        List.mem_append_left _ read⟩
  | _ => trivial

theorem Located.next {lib : Library} {session : Session} {o : Op} {answer : o.Answer} (located : Located session)
    (allowed : (contract lib).allows session o) : Located ((contract lib).next session o answer) := by
  obtain ⟨job, trail, stage⟩ := session
  cases o with
  | call call =>
      obtain ⟨hold, rfl, _⟩ := allowed
      exact List.mem_append_right _ List.mem_cons_self
  | send sent =>
      rcases allowed with ⟨hold, call, rfl, _⟩ | ⟨hold, exchange, rfl, _⟩
      · exact ⟨trail, [], rfl, located⟩
      · trivial
  | now =>
      cases stage with
      | answered hold call request reply =>
          obtain ⟨before, after, same, handed⟩ := located
          exact ⟨before, after ++ [⟨.now, answer⟩], (congrArg (· ++ [_]) same).trans (List.append_assoc ..), handed,
            List.mem_append_right _ List.mem_cons_self⟩
      | _ => exact located.append _
  | random | entropy | getSecret | getCertificate => exact located.append _
  | getTransaction =>
      cases answer <;>
      · show Located ⟨_, _, ite _ _ _⟩
        split <;> trivial
  | createTransaction => cases answer <;> trivial
  | updateTransactionStatus => cases answer <;> trivial
  | deleteTransaction =>
      obtain ⟨record, deletable, _⟩ := allowed
      cases answer <;> cases stage <;> cases deletable <;> first
        | trivial
        | (show Located ⟨_, _, ite _ _ _⟩; split <;> trivial)

/-- What one call has done, in the order of the log. -/
def Cluster.eventsOf (cluster : Cluster) (i : Nat) : Trail :=
  (cluster.log.filter (·.thread == i)).map Entry.event

theorem exists_split_of_eventsOf {cluster : Cluster} {i : Nat} {before after : Trail} {e : Event interface}
    (h : cluster.eventsOf i = before ++ e :: after) :
    ∃ earlier entry later, cluster.log = earlier ++ entry :: later ∧ entry.thread = i ∧ entry.event = e ∧
      (∀ first ∈ before, ∃ handed ∈ earlier, handed.thread = i ∧ handed.event = first) ∧
      ∀ last ∈ after, ∃ read ∈ later, read.thread = i ∧ read.event = last := by
  have found : ∀ {entries : List Entry} {t : Trail}, (entries.filter (·.thread == i)).map Entry.event = t →
      ∀ e ∈ t, ∃ entry ∈ entries, entry.thread = i ∧ entry.event = e := by
    rintro entries _ rfl e member
    obtain ⟨entry, kept, rfl⟩ := List.mem_map.mp member
    obtain ⟨inside, own⟩ := List.mem_filter.mp kept
    exact ⟨entry, inside, beq_iff_eq.mp own, rfl⟩
  obtain ⟨first, last, split, events, others⟩ := List.map_eq_append_iff.mp h
  obtain ⟨entry, rest, rfl, rfl, later⟩ := List.map_eq_cons_iff.mp others
  obtain ⟨earlier, tail, same, firsts, lasts⟩ := List.filter_eq_append_iff.mp split
  obtain ⟨skipped, final, rfl, foreign, own, rests⟩ := List.filter_eq_cons_iff.mp lasts
  refine ⟨earlier ++ skipped, entry, final, by rw [same, List.append_assoc], beq_iff_eq.mp own, rfl, ?_, ?_⟩
  · intro e member
    obtain ⟨handed, among, same⟩ := found (by rw [firsts]; exact events) e member
    exact ⟨handed, List.mem_append_left _ among, same⟩
  · exact found (by rw [rests]; exact later)

/-- What the calls of a run can account for: the log holds what each of them has done, and every stored
version of the record is sourced. -/
structure Accounted (lib : Library) (subject : Subject) (cluster : Cluster) (sessions : List Session) :
    Prop where
  numbered : ∀ entry ∈ cluster.log, entry.thread < sessions.length
  trails : ∀ i session, sessions[i]? = some session → cluster.eventsOf i = session.trail ∧ Located session
  sourced : ∀ record ∈ cluster.past, record.spec.certificateRequestUID = subject.uid →
    Sourced lib cluster.log (sessions.map Session.job) record

section
variable {lib : Library} {subject : Subject} {cluster : Cluster} {sessions : List Session}
  {session : Session} {o : Op} {answer : o.Answer} {after : Option CMPTransaction} {i : Nat}

theorem Accounted.conversed (accounted : Accounted lib subject cluster sessions)
    (thread : sessions[i]? = some session) {hold : Hold} {exchange : Exchange}
    (stage : session.stage = .examined hold exchange) :
    Conversed cluster.log (sessions.map Session.job) session.job exchange := by
  obtain ⟨events, located⟩ := accounted.trails i session thread
  rw [Located, stage] at located
  obtain ⟨before, after, same, handed, read⟩ := located
  obtain ⟨earlier, entry, later, split, own, event, firsts, lasts⟩ := exists_split_of_eventsOf (events.trans same)
  refine ⟨earlier, entry, later, split, ?_, event, ?_, ?_⟩
  · rw [own, List.getElem?_map, thread]
    rfl
  · rw [own]
    exact firsts _ handed
  · rw [own]
    exact lasts _ read

theorem sessions_job_set (thread : sessions[i]? = some session) :
    (sessions.set i ((contract lib).next session o answer)).map Session.job = sessions.map Session.job := by
  obtain ⟨bound, same⟩ := List.getElem?_eq_some_iff.mp thread
  rw [List.map_set, contract_next_job, ← same, ← List.getElem_map Session.job (h := by simpa using bound)]
  exact List.set_getElem_self _

theorem Accounted.stored (accounted : Accounted lib subject cluster sessions)
    (consistent : Consistent lib subject cluster sessions) (laws : MessageLaws lib) (keeps : KeepsEncoding lib)
    (thread : sessions[i]? = some session) (allowed : (contract lib).allows session o)
    (change : cluster.Change o after) {record : CMPTransaction} (stored : after = some record)
    (own : record.spec.certificateRequestUID = subject.uid) :
    Sourced lib cluster.log (sessions.map Session.job) record := by
  have member := List.mem_of_getElem? thread
  cases change with
  | keep => exact accounted.sourced record (consistent.ordered.mem stored) own
  | create asked assigned =>
      cases stored
      exact .opened rfl (by decide : Phase.unset.rank < Phase.confirming.rank)
  | delete => cases stored
  | update written old resourceVersion found current version =>
      obtain ⟨known, same⟩ := consistent.updated member allowed found current resourceVersion
      rw [same] at stored
      cases stored
      refine Sourced.updated ?_ resourceVersion
      rcases allowed with ⟨created, t, stage, rfl⟩ | ⟨hold, exchange, status, stage, records, rfl⟩
      · have empty := (consistent.sound session member).fresh created stage
        refine .opened ?_ (by decide : Phase.enrolling.rank < Phase.confirming.rank)
        show created.status.issuedChain = []
        rw [empty]
      · obtain ⟨_, _, _, _, hands, _⟩ := (consistent.sound session member).handed hold exchange.call
          (by rw [stage]; rfl)
        rw [stage] at known
        cases known
        refine records.sourced laws keeps ⟨List.mem_map_of_mem member, hands.obeys.request, hands.phase, ?_,
          accounted.conversed thread stage⟩ (accounted.sourced hold.record (consistent.ordered.mem found) own)
        rw [ClientCall.request_transactionID, hands.enrolls.transactionID]

theorem Accounted.act (accounted : Accounted lib subject cluster sessions)
    (consistent : Consistent lib subject cluster sessions) (laws : MessageLaws lib) (keeps : KeepsEncoding lib)
    (thread : sessions[i]? = some session) (allowed : (contract lib).allows session o)
    (served : cluster.ambiguous o answer after) :
    Accounted lib subject (cluster.step i ⟨o, answer⟩ after)
      (sessions.set i ((contract lib).next session o answer)) where
  numbered := by
    intro entry member
    rw [List.length_set]
    rcases List.mem_append.mp member with old | new
    · exact accounted.numbered entry old
    · cases List.mem_singleton.mp new
      exact (List.getElem?_eq_some_iff.mp thread).1
  trails := by
    intro j other found
    have events : (cluster.step i ⟨o, answer⟩ after).eventsOf j =
        cluster.eventsOf j ++ if i = j then [⟨o, answer⟩] else [] := by
      rw [Cluster.eventsOf, Cluster.step, List.filter_append, List.map_append]
      by_cases mine : i = j <;> simp [mine, Cluster.eventsOf]
    by_cases mine : i = j
    · subst mine
      rw [List.getElem?_set_self (List.getElem?_eq_some_iff.mp thread).1] at found
      cases found
      obtain ⟨same, located⟩ := accounted.trails i session thread
      rw [events, if_pos rfl, same]
      exact ⟨rfl, located.next allowed⟩
    · rw [List.getElem?_set_ne mine] at found
      rw [events, if_neg mine, List.append_nil]
      exact accounted.trails j other found
  sourced := by
    intro record member own
    rw [sessions_job_set thread]
    have grows : cluster.log <+: (cluster.step i ⟨o, answer⟩ after).log := List.prefix_append _ _
    rcases Cluster.mem_past_step member with old | new
    · exact (accounted.sourced record old own).mono grows List.prefix_rfl
    · exact (accounted.stored consistent laws keeps thread allowed (Cluster.ambiguous.change served) new
        own).mono grows List.prefix_rfl

theorem Accounted.spawn (accounted : Accounted lib subject cluster sessions) (job : Job) :
    Accounted lib subject cluster (sessions ++ [Session.begin job]) where
  numbered entry member := (accounted.numbered entry member).trans_le (by simp)
  trails := by
    intro i session found
    rcases lt_or_ge i sessions.length with old | new
    · rw [List.getElem?_append_left old] at found
      exact accounted.trails i session found
    · rw [List.getElem?_append_right new] at found
      obtain rfl := List.mem_singleton.mp (List.mem_of_getElem? found)
      refine ⟨?_, trivial⟩
      rw [Cluster.eventsOf, List.filter_eq_nil_iff.mpr]
      · rfl
      · intro entry member own
        have below := accounted.numbered entry member
        rw [beq_iff_eq.mp own] at below
        exact absurd new (not_le.mpr below)
  sourced := by
    intro record member own
    rw [List.map_append]
    exact (accounted.sourced record member own).mono List.prefix_rfl (List.prefix_append _ _)

theorem Accounted.interfere (accounted : Accounted lib subject cluster sessions) {cluster' : Cluster}
    (disturbed : cluster.Interferes cluster') : Accounted lib subject cluster' sessions := by
  cases disturbed with
  | delete => exact ⟨accounted.numbered, accounted.trails, accounted.sourced⟩
  | recreate record assigned free uid version =>
      refine ⟨accounted.numbered, accounted.trails, fun stored member own => ?_⟩
      rcases List.mem_append.mp member with old | new
      · exact accounted.sourced stored old own
      · cases List.mem_singleton.mp new
        exact .opened rfl (by decide : Phase.unset.rank < Phase.confirming.rank)

theorem Accounted.start {slot : Option CMPTransaction} (unclaimed : Unclaimed subject slot) :
    Accounted lib subject (Cluster.start slot) [] where
  numbered := by rintro _ ⟨⟩
  trails := by simp
  sourced record member own := absurd own (unclaimed record (Option.mem_toList.mp member)).2

/-- Every state that calls for one CertificateRequest reach is accounted for. -/
theorem SharedRun.accounted (laws : MessageLaws lib) (keeps : KeepsEncoding lib)
    {slot : Option CMPTransaction} {pool : Signers} (run : SharedRun lib subject slot pool)
    (unclaimed : Unclaimed subject slot) : Accounted lib subject pool.world (pool.sessions lib) := by
  refine (Pool.Reach.invariant (J := fun cluster sessions => Consistent lib subject cluster sessions ∧
    Accounted lib subject cluster sessions) (fun job _ => sign_follows lib job) ?_ ?_ ?_
    ⟨.start unclaimed, .start unclaimed⟩ run).2
  · exact fun _ _ job wanted holds => ⟨holds.1.spawn wanted, holds.2.spawn job⟩
  · rintro _ _ i session o answer _ ⟨consistent, accounted⟩ thread _ allowed ⟨after, served, rfl⟩
    exact ⟨consistent.act thread allowed served, accounted.act consistent laws keeps thread allowed served⟩
  · exact fun _ _ _ holds disturbed => ⟨holds.1.interfere disturbed, holds.2.interfere disturbed⟩

def Signers.jobs (pool : Signers) : List Job := pool.threads.map Thread.job

theorem Signers.sessions_job (lib : Library) (pool : Signers) :
    (pool.sessions lib).map Session.job = pool.jobs := by
  unfold Signers.sessions Signers.jobs
  rw [List.map_map]
  refine List.map_congr_left fun thread _ => ?_
  exact contract_run_job lib (Session.begin thread.job) thread.trace

end

/-- Calls for one CertificateRequest in any interleaving: the leaf of every bundle that is returned was
issued by the server in a response that a call of the run accepted, with modifications only if the issuer
of that call accepts them, and the server has confirmed it. -/
theorem bundle_granted_and_confirmed {lib : Library} (laws : MessageLaws lib) (keeps : KeepsEncoding lib)
    {subject : Subject} {slot : Option CMPTransaction} (unclaimed : Unclaimed subject slot) {pool : Signers}
    (run : SharedRun lib subject slot pool) {thread : Thread interface (Fault GoError) Bytes Job}
    (member : thread ∈ pool.threads) {bundle : Bytes} (returned : thread.program = .pure bundle) :
    ∃ chain leaf record, bundle = encodeChainPEM lib chain ∧ chain.head? = some leaf ∧
      record ∈ pool.world.past ∧ record.spec.certificateRequestUID = subject.uid ∧
      (∃ grant, Granted lib pool.world.log pool.jobs record.spec.transactionID leaf.raw grant) ∧
      Confirmed lib pool.world.log pool.jobs record.spec.transactionID leaf.raw := by
  obtain ⟨session, path⟩ := run.session member
  rw [returned] at path
  obtain ⟨hold, chain, leaf, stage, phase, rfl, head, stored, _⟩ := sign_finish (r := .ok bundle) path
  have held : (thread.watched (contract lib) Session.begin).stage.hold? = some hold :=
    congrArg Stage.hold? stage
  obtain ⟨past, own, _⟩ := (run.consistent unclaimed).held session held
  have sourced := (run.accounted laws keeps unclaimed).sourced hold.record past own
  rw [Signers.sessions_job] at sourced
  obtain ⟨encoded, first, confirmed⟩ := sourced.issued phase
  cases (stored.head keeps).symm.trans first
  exact ⟨chain, leaf, hold.record, rfl, head, past, own, sourced.received _ first, confirmed⟩

/-- Of two overlapping calls the first obtains the certificate and the second confirms it. -/
theorem bundle_granted_and_confirmed_explicit : ∃ pool, SharedRun plainLibrary plainJob.subject none pool ∧
    ∃ first second, pool.threads = [first, second] ∧ first.program.outcome? = none ∧
      second.program = .pure [3, 4] ∧ ∃ transactionID leaf,
        (∃ grant, Granted plainLibrary pool.world.log pool.jobs transactionID leaf grant) ∧
        Confirmed plainLibrary pool.world.log pool.jobs transactionID leaf := by
  obtain ⟨pool, run, first, second, threads, unfinished, ended⟩ := plain_overlap
  obtain ⟨_, leaf, record, _, _, _, _, granted, confirmed⟩ := bundle_granted_and_confirmed plainLibrary_message
    plainLibrary_encoding (by rintro _ ⟨⟩) run (by rw [threads]; exact .tail _ (.head _)) ended
  exact ⟨pool, run, first, second, threads, unfinished, ended, _, _, granted, confirmed⟩

end CmpIssuer
