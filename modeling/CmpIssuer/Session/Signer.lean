import CmpIssuer.Session.Client

/-!
`Sign` follows the contract and ends as `Finish` says. The lemmas go through the
signer function by function, each from the session in which it is called.
-/
namespace CmpIssuer
open Effect

variable {lib : Library}

theorem Time.truncate_le (t : Time) : t.truncate ≤ t := by
  have remainder : 0 ≤ t % second := Int.emod_nonneg t (by decide)
  exact Int.sub_le_self t remainder

theorem Continues.refl (record : CMPTransaction) : Continues record record := ⟨rfl, rfl, rfl, le_rfl⟩

theorem Continues.updated {loaded record : CMPTransaction} (h : Continues loaded record)
    (status : CMPTransactionStatus) (resourceVersion : String) :
    Continues loaded (({ record with status } : CMPTransaction).updated resourceVersion) :=
  ⟨h.uid, h.transactionID, h.operation, (Time.truncate_le _).trans h.deadline⟩

theorem Enrolls.updated {job : Job} {trail : Trail} {hold : Hold} {enrollment : EnrollmentRequest}
    (h : Enrolls lib job trail hold enrollment) (status : CMPTransactionStatus)
    (resourceVersion : String) :
    Enrolls lib job trail
      ⟨({ hold.record with status } : CMPTransaction).updated resourceVersion, hold.origin⟩ enrollment :=
  { transactionID := h.transactionID
    operation := h.operation
    csr := h.csr
    endpoint := h.endpoint
    anchors := h.anchors
    signature := h.signature
    prepared := h.prepared
    bound := fun loaded origin =>
      ⟨(h.bound loaded origin).1, (h.bound loaded origin).2.updated status resourceVersion⟩ }

theorem PreparedIn.mono {job : Job} {trail later : Trail} {record : CMPTransaction}
    {enrollment : EnrollmentRequest} (h : PreparedIn lib job trail record enrollment)
    (seen : trail <+: later) : PreparedIn lib job later record enrollment := by
  obtain ⟨first, reads, between, work, last, configuration, prepared, notAfter, rfl, rest⟩ := h
  obtain ⟨more, rfl⟩ := seen
  exact ⟨first, reads, between, work, last ++ more, configuration, prepared, notAfter, by simp, rest⟩

theorem Enrolls.mono {job : Job} {trail later : Trail} {hold : Hold} {enrollment : EnrollmentRequest}
    (h : Enrolls lib job trail hold enrollment) (seen : trail <+: later)
    (unread : secretsRead later = secretsRead trail) : Enrolls lib job later hold enrollment :=
  { h with
    anchors := h.anchors.imp fun _ read => ⟨read.1, read.2.mono seen.subset⟩
    prepared := h.prepared.mono seen
    bound := fun loaded origin => by rw [unread]; exact h.bound loaded origin }

theorem Enrolls.carried {before after : Session} {hold : Hold} {enrollment : EnrollmentRequest}
    (h : Enrolls lib before.job before.trail hold enrollment) (carries : Carries before after) :
    Enrolls lib after.job after.trail hold enrollment := by
  rw [carries.job]
  exact h.mono carries.seen carries.unread

theorem TrustedChain.carried {before after : Session} {chain : List Certificate}
    (h : TrustedChain lib before.job before.trail chain) (carries : Carries before after) :
    TrustedChain lib after.job after.trail chain := by
  rw [carries.job]
  exact h.mono carries.seen

theorem Carries.event (session : Session) {o : Op} {answer : o.Answer} (stage : Stage)
    (unread : secretRead ⟨o, answer⟩ = none) :
    Carries session ⟨session.job, session.trail ++ [⟨o, answer⟩], stage⟩ :=
  ⟨rfl, List.prefix_append _ _, by simp [unread]⟩

theorem Carries.next (session : Session) {o : Op} {answer : o.Answer}
    (unread : secretRead ⟨o, answer⟩ = none) :
    Carries session ((contract lib).next session o answer) := Carries.event session _ unread

def Removes (hold : Hold) (session : Session) : Except (Fault GoError) Unit → Prop
  | .ok () => session.stage = .removed hold.record
  | .error (.error err) => session.stage = .stopped ∧ err.isPermanent = false
  | .error (.panic _) => False

theorem removeRecord_follows {hold : Hold} {session : Session}
    (working : session.stage.working = some hold) :
    Follows (contract lib) (Removes hold) session (removeRecord hold.record) := by
  obtain ⟨job, trail, stage⟩ := session
  have deletable : stage.deletable = some hold.record := by
    cases stage <;> cases working <;> rfl
  have removed : afterDelete stage (.ok ()) = .removed hold.record := by
    cases stage <;> cases working <;> rfl
  have failed : ∀ err, afterDelete stage (.error err) =
      if err.reason = .notFound ∨ err.reason = .conflict then .removed hold.record else .stopped := by
    intro err
    cases stage <;> cases working <;> rfl
  refine follows_ask_bind.mpr ⟨⟨hold.record, deletable, rfl, rfl⟩, fun answer => ?_⟩
  cases answer with
  | ok => exact removed
  | error err =>
      dsimp only
      split
      · rename_i gone
        exact (failed err).trans (if_pos gone)
      · rename_i present
        exact ⟨(failed err).trans (if_neg present), rfl⟩

/-- A call has done with its record: no answer to wait for is at hand. -/
structure Yields (lib : Library) (hold : Hold) (session : Session) : Prop where
  working : session.stage.working = some hold
  unwaited : ∀ exchange, session.stage = .examined hold exchange → exchange.Unwaited lib

theorem Yields.held {hold : Hold} {session : Session} (stage : session.stage = .held hold) :
    Yields lib hold session where
  working := by rw [stage]; rfl
  unwaited _ examined := by cases stage.symm.trans examined

theorem fails_working {hold : Hold} {session : Session} {err : GoError}
    (yields : Yields lib hold session) (open_ : err.isPermanent = false) : Fails lib session err := by
  have working := yields.working
  unfold Fails
  cases stage : session.stage <;> rw [stage] at working <;> cases working
  case held =>
    intro permanent
    rw [open_] at permanent
    cases permanent
  case examined => exact ⟨open_, yields.unwaited _ stage⟩
  all_goals exact open_

theorem failTransaction_follows (hold : Hold) {session : Session} {err : GoError}
    (yields : Yields lib hold session) :
    Follows (contract lib) (Finish lib) session (failTransaction hold.record err) := by
  unfold failTransaction
  dsimp only
  split
  · rename_i permanent
    refine (removeRecord_follows yields.working).bind ?_ ?_
    · rintro s ⟨⟩ removed
      have removed : s.stage = .removed hold.record := removed
      rw [follows_fail]
      unfold Finish Fails
      rw [removed]
      exact permanent
    · rintro s (err' | reason) failed
      · unfold Finish Fails
        rw [failed.1]
        exact failed.2
      · exact failed.elim
  · rename_i transient
    exact fails_working yields (by simpa using transient)

def Wrote (record : CMPTransaction) (origin : Origin) (before session : Session) :
    Except (Fault GoError) CMPTransaction → Prop
  | .ok written => ∃ resourceVersion, written = record.updated resourceVersion ∧
      session.stage = .held ⟨written, origin⟩ ∧ Carries before session ∧
      (⟨.updateTransactionStatus record, .ok resourceVersion⟩ : Event interface) ∈ session.trail
  | .error (.error err) => session.stage = .stopped ∧ err.isPermanent = false
  | .error (.panic _) => False

theorem writeStatus_follows {failure : String} {record : CMPTransaction}
    {status : CMPTransactionStatus} {session : Session}
    (writes : Writes lib session { record with status }) :
    Follows (contract lib) (Wrote { record with status } session.stage.origin session) session
      (writeStatus failure record status) := by
  refine follows_ask_bind.mpr ⟨writes, fun answer => ?_⟩
  cases answer with
  | ok resourceVersion =>
      exact ⟨resourceVersion, rfl, rfl, Carries.event session _ rfl, List.mem_append_right _ (.head _)⟩
  | error err => exact ⟨rfl, rfl⟩

theorem recordAnswer_follows {α : Type} {Q : Session → Except (Fault GoError) α → Prop} {hold : Hold}
    {exchange : Exchange} {session : Session} {failure : String} {record : CMPTransaction}
    {status : Time → CMPTransactionStatus} {f : CMPTransaction → Go GoError α}
    (stage : session.stage = .examined hold exchange)
    (same : ∀ written, ({ record with status := written } : CMPTransaction) =
      { hold.record with status := written })
    (records : ∀ t, Records lib (session.trail ++ [⟨.now, t⟩]) hold.record exchange (status t))
    (rest : ∀ s t resourceVersion, Carries session s →
      s.stage = .held ⟨({ hold.record with status := status t } : CMPTransaction).updated resourceVersion,
        hold.origin⟩ →
      (⟨.updateTransactionStatus { hold.record with status := status t }, .ok resourceVersion⟩ :
        Event interface) ∈ s.trail →
      Follows (contract lib) Q s
        (f (({ hold.record with status := status t } : CMPTransaction).updated resourceVersion)))
    (failed : ∀ s err, s.stage = .stopped → err.isPermanent = false → Q s (.error (.error err))) :
    Follows (contract lib) Q session
      ((do let t ← now; writeStatus failure record (status t)) >>= f) := by
  obtain ⟨job, trail, _⟩ := session
  subst stage
  rw [follows_bind]
  refine follows_ask_bind.mpr ⟨trivial, fun t => ?_⟩
  have writes : Writes lib ⟨job, trail ++ [⟨.now, t⟩], .examined hold exchange⟩
      { record with status := status t } :=
    .inr ⟨hold, exchange, status t, rfl, records t, same _⟩
  refine (writeStatus_follows writes).mono ?_
  rintro s ((err | reason) | written) wrote
  · exact failed s err wrote.1 wrote.2
  · exact wrote.elim
  · obtain ⟨resourceVersion, rfl, held, carries, stored⟩ := wrote
    rw [same]
    rw [same] at held stored
    exact rest s t resourceVersion ((Carries.event ⟨job, trail, _⟩ _ rfl).trans carries) held stored

theorem fails_stopped {session : Session} {err : GoError} (stopped : session.stage = .stopped)
    (open_ : err.isPermanent = false) : Fails lib session err := by
  unfold Fails
  rw [stopped]
  exact open_

theorem countPoll_status (record : CMPTransaction) (polled : Bool) (status : CMPTransactionStatus) :
    ({ record.countPoll polled with status } : CMPTransaction) = { record with status } := by
  cases polled <;> rfl

theorem requeue_follows {hold : Hold} {session : Session} {f : Time → GoError}
    (stage : session.stage = .held hold) (transient : ∀ t, (f t).isPermanent = false) :
    Follows (contract lib) (Finish lib) session (do let t ← now; fail (f t)) := by
  obtain ⟨job, trail, _⟩ := session
  subst stage
  refine follows_ask_bind.mpr ⟨trivial, fun t => ?_⟩
  have failed : Fails lib ⟨job, trail ++ [⟨.now, t⟩], .held hold⟩ (f t) :=
    fails_working (.held rfl) (transient t)
  exact failed

section
variable {hold : Hold} {enrollment : EnrollmentRequest} {limits : TransactionSpec}

theorem confirm_follows (hold : Hold) {leaf : Certificate} {rest : List Certificate}
    {pending : PendingTransaction} {session : Session} (stage : session.stage = .held hold)
    (enrolls : Enrolls lib session.job session.trail hold enrollment)
    (phase : hold.record.status.phase = .confirming)
    (certReqID : hold.record.status.certReqID = some pending.certReqID)
    (recipNonce : pending.recipNonce = hold.record.status.recipNonce)
    (requestNonce : pending.requestNonce = hold.record.status.requestNonce)
    (stored : LeafStored lib hold.record leaf)
    (trusted : TrustedChain lib session.job session.trail (leaf :: rest))
    (confirmed : ConfirmedChain lib session.trail hold.record enrollment (leaf :: rest)) :
    Follows (contract lib) (Finish lib) session
      (confirm lib hold.record enrollment limits (leaf :: rest) pending) := by
  obtain ⟨job, trail, _⟩ := session
  subst stage
  unfold confirm Reported.confirm
  dsimp only [quiet_run, quiet_issued]
  refine follows_ask_bind.mpr ⟨trivial, fun t => ?_⟩
  have carries : Carries ⟨job, trail, .held hold⟩ ⟨job, trail ++ [⟨.now, t⟩], .held hold⟩ :=
    .event ⟨job, trail, .held hold⟩ _ rfl
  split
  · exact failTransaction_follows hold (.held rfl)
  · rename_i inTime
    split
    · exact failTransaction_follows hold (.held rfl)
    · have hands : Hands lib job (trail ++ [⟨.now, t⟩]) hold (.confirmP10CR
          { enrollment, certificate := some leaf, certReqID := pending.certReqID
            recipNonce := pending.recipNonce, responseSigner := pending.responseSigner
            requestNonce := pending.requestNonce }) :=
        { enrolls := enrolls.carried carries
          inTime := ⟨t, by simp, not_lt.mp inTime⟩
          phase := ⟨phase, certReqID, recipNonce, requestNonce, leaf, rfl, stored⟩ }
      rw [follows_bind, follows_tried]
      refine (protocolClient_follows ⟨job, trail ++ [⟨.now, t⟩], .held hold⟩ rfl hands).mono ?_
      rintro s ((err | reason) | result) ⟨concludes, carried, _⟩
      · exact failTransaction_follows hold ⟨concludes.working, fun _ => concludes.unwaited⟩
      · obtain ⟨_, _, _, _, _, ⟨⟩, _⟩ := concludes
      · obtain ⟨exchange, response, signer, examined, called, understood⟩ := concludes
        have passed : ∀ t, trail ⊆ s.trail ++ [⟨.now, t⟩] := fun t =>
          ((carries.trans carried).seen.trans (List.prefix_append _ _)).subset
        show Follows _ _ _ _
        dsimp only
        cases delayed : result.pendingConfirmation with
        | some next =>
            dsimp only
            unfold Reported.continueConfirming
            dsimp only [quiet_run, quiet_polled]
            unfold recordConfirming
            exact recordAnswer_follows examined (countPoll_status _ _)
              (fun t => .delayed t understood called rfl (confirmed.mono (passed t)) delayed)
              (fun _ _ _ _ held _ => requeue_follows held fun _ => rfl) (fun _ _ => fails_stopped)
        | none =>
            refine recordAnswer_follows examined (fun _ => rfl)
              (fun t => .confirmed t understood called rfl (confirmed.mono (passed t)) delayed) ?_
              (fun _ _ => fails_stopped)
            intro s t resourceVersion recorded held _
            exact ⟨_, leaf :: rest, leaf, held, rfl, rfl, rfl, ⟨leaf.raw, rfl, .inl rfl⟩,
              trusted.carried ((carries.trans carried).trans recorded)⟩

theorem parseRecordedChain_ok {encoded : List Bytes} {chain : List Certificate}
    (h : parseRecordedChain lib encoded = .ok chain) :
    List.Forall₂ (fun bytes certificate => lib.parseCertificate bytes = .ok certificate)
      encoded chain := by
  induction encoded generalizing chain with
  | nil => cases h; exact .nil
  | cons bytes rest ih =>
      unfold parseRecordedChain at h
      split at h
      · cases h
      · rename_i certificate parsed
        split at h
        · cases h
        · split at h
          · cases h
          · rename_i later
            cases h
            exact .cons parsed (ih later)

/-- A recorded chain has the leaf the record stores, and the leaf has the requested key. -/
theorem recordedChain_ok {record : CMPTransaction} {csrDER : Bytes} {chain : List Certificate}
    (h : recordedChain lib record csrDER = .ok chain) :
    ∃ leaf csr, chain.head? = some leaf ∧ LeafStored lib record leaf ∧
      lib.parseCertificateRequest csrDER = .ok csr ∧ publicKeysEqual lib csr.publicKey leaf.publicKey := by
  unfold recordedChain at h
  split at h
  · cases h
  · cases h
  · rename_i leaf rest parsed
    split at h
    · cases h
    · rename_i csr parsedCSR
      split at h
      · cases h
      · rename_i matching
        cases h
        generalize stored : record.status.issuedChain = encoded at parsed
        cases parseRecordedChain_ok parsed with
        | cons first later =>
            refine ⟨leaf, csr, rfl, ⟨_, ?_, .inr first⟩, parsedCSR, by simpa using matching⟩
            rw [stored]
            rfl

/-- What a recorded chain is good for once it was verified against the anchors at hand. -/
theorem trustedRecordedChain_ok {job : Job} {trail : Trail} {record : CMPTransaction} {csrDER : Bytes}
    {chain validated anchors candidates : List Certificate} {t : Time}
    (csr : requestedCSR lib job.request = .ok csrDER)
    (recorded : recordedChain lib record csrDER = .ok chain)
    (read : AnchorsRead lib job.clusterResourceNamespace job.issuer trail anchors)
    (clock : (⟨.now, t⟩ : Event interface) ∈ trail)
    (h : trustedRecordedChain lib t chain (some anchors) candidates = .ok validated) :
    ∃ leaf rest, validated = leaf :: rest ∧ LeafStored lib record leaf ∧
      TrustedChain lib job trail validated := by
  obtain ⟨leaf, parsedCSR, head, stored, parsed, matching⟩ := recordedChain_ok recorded
  obtain ⟨same, verified⟩ := validateIssuedChain_ok (mapError_eq_ok.mp h)
  rw [head] at same
  obtain ⟨rest, rfl⟩ := List.head?_eq_some_iff.mp same
  exact ⟨leaf, rest, rfl, stored, ⟨csrDER, parsedCSR, leaf, rest, rfl, csr, parsed, matching⟩,
    anchors, t, read, clock, verified⟩

/-- A retained signer that does not parse fails the call past `failTransaction`. -/
def Unretained (lib : Library) (record : CMPTransaction) (enrollment : EnrollmentRequest)
    (session : Session) : Prop :=
  ∀ t chain trusted certReqID err, recordedChain lib record enrollment.csrDER = .ok chain →
    trustedRecordedChain lib t chain enrollment.cmpTrust
      (enrollment.cmpTrustCertificates ++ enrollment.cmpResponseCertificates) = .ok trusted →
    record.status.certReqID = some certReqID → retainedSigner lib record = .error err →
    Bypasses lib session.job record err (session.trail ++ [⟨.now, t⟩])

theorem resumeConfirmation_follows {session : Session} (stage : session.stage = .held hold)
    (enrolls : Enrolls lib session.job session.trail hold enrollment)
    (phase : hold.record.status.phase = .confirming) {key : NamespacedName}
    (loaded : (⟨.getTransaction key, .ok hold.record⟩ : Event interface) ∈ session.trail)
    (bypasses : Unretained lib hold.record enrollment session) :
    Follows (contract lib) (Finish lib) session
      (resumeConfirmation lib hold.record enrollment limits enrollment.csrDER) := by
  obtain ⟨job, trail, _⟩ := session
  subst stage
  unfold resumeConfirmation Reported.resumeConfirmation
  dsimp only [quiet_run]
  split
  · exact failTransaction_follows hold (.held rfl)
  · rename_i chain recorded
    refine follows_ask_bind.mpr ⟨trivial, fun t => ?_⟩
    have carries : Carries ⟨job, trail, .held hold⟩ ⟨job, trail ++ [⟨.now, t⟩], .held hold⟩ :=
      .event ⟨job, trail, .held hold⟩ _ rfl
    have enrolls := enrolls.carried carries
    split
    · exact failTransaction_follows hold (.held rfl)
    · rename_i validated verified
      have bypasses := fun certReqID err => bypasses t chain validated certReqID err recorded verified
      have confirmed : ConfirmedChain lib (trail ++ [⟨.now, t⟩]) hold.record enrollment validated :=
        .verified (List.mem_append_left _ loaded) recorded (List.mem_append_right _ (.head _)) verified
      obtain ⟨anchors, trust, read⟩ := enrolls.anchors
      rw [trust] at verified
      obtain ⟨leaf, rest, rfl, stored, trusted⟩ :=
        trustedRecordedChain_ok enrolls.csr recorded read (by simp) verified
      split
      · exact failTransaction_follows hold (.held rfl)
      · rename_i certReqID present
        refine follows_outcome_bind (fun signer _ => ?_) (fun err failed => ?_)
        · exact confirm_follows hold rfl enrolls phase present rfl rfl stored trusted confirmed
        · exact fun _ => bypasses certReqID err present failed

/-- What the exchange of an enrollment or a poll leaves behind. -/
def Exchanged (lib : Library) (hold : Hold) (enrollment : EnrollmentRequest) (before session : Session) :
    Except (Fault GoError) EnrollmentResult → Prop
  | .ok result => ∃ exchange response signer, session.stage = .examined hold exchange ∧
      exchange.call.confirms = false ∧ exchange.call.enrollment = enrollment ∧
      Understood lib exchange response signer (.ok (.result result)) ∧ Carries before session ∧
      (⟨.now, exchange.instant⟩ : Event interface) ∈ session.trail
  | .error (.error _) => Yields lib hold session
  | .error (.panic reason) => ∃ exchange response signer, session.stage = .examined hold exchange ∧
      exchange.call.confirms = false ∧ Understood lib exchange response signer (.error reason)

theorem clientExchange_follows (call : ClientCall) {before session : Session}
    (stage : session.stage = .held hold) (carries : Carries before session)
    (enrolls : call.confirms = false) (hands : Hands lib session.job session.trail hold call) :
    Follows (contract lib) (Exchanged lib hold call.enrollment before) session
      (protocolClient lib call) := by
  refine (protocolClient_follows session stage hands).mono ?_
  rintro s ((err | reason) | result) ⟨concludes, carried, stamped⟩
  · exact ⟨concludes.working, fun _ => concludes.unwaited⟩
  · obtain ⟨exchange, response, signer, examined, rfl, _, understood⟩ := concludes
    exact ⟨exchange, response, signer, examined, enrolls, understood⟩
  · obtain ⟨exchange, response, signer, examined, rfl, understood⟩ := concludes
    exact ⟨exchange, response, signer, examined, enrolls, rfl, understood, carries.trans carried,
      stamped _ _ examined⟩

theorem exchange_follows {session : Session} (stage : session.stage = .held hold)
    (enrolls : Enrolls lib session.job session.trail hold enrollment)
    (unconfirmed : hold.record.status.phase ≠ .confirming)
    (unissued : hold.record.status.phase ≠ .issued) :
    Follows (contract lib) (Exchanged lib hold enrollment session) session
      (exchange lib enrollment hold.record limits) := by
  obtain ⟨job, trail, _⟩ := session
  subst stage
  unfold exchange
  refine follows_ask_bind.mpr ⟨trivial, fun t => ?_⟩
  have carries : Carries ⟨job, trail, .held hold⟩ ⟨job, trail ++ [⟨.now, t⟩], .held hold⟩ :=
    .event ⟨job, trail, .held hold⟩ _ rfl
  have enrolls := enrolls.carried carries
  split
  · exact .held rfl
  · rename_i inTime
    have inTime : ∃ s : Time, (trail ++ [(⟨.now, t⟩ : Event interface)]).getLast? = some ⟨.now, s⟩ ∧
        s ≤ hold.record.spec.deadline := ⟨t, by simp, not_lt.mp inTime⟩
    split
    · rename_i unpolled
      have fresh : hold.record.status.phase ∉ [Phase.polling, .confirming, .issued] := by
        simp [unpolled, unconfirmed, unissued]
      split
      · rename_i operation
        exact clientExchange_follows (.enrollIR enrollment) rfl carries rfl
          ⟨enrolls, inTime, fresh, operation⟩
      · rename_i operation
        exact clientExchange_follows (.enrollKUR enrollment) rfl carries rfl
          ⟨enrolls, inTime, fresh, operation⟩
      · rename_i notIR notKUR
        exact clientExchange_follows (.enrollP10CR enrollment) rfl carries rfl
          ⟨enrolls, inTime, fresh, notIR, notKUR⟩
    · rename_i polled
      rw [not_not] at polled
      split
      · rename_i certReqID first rest present nonce
        split
        · exact Yields.held rfl
        · refine follows_outcome_bind (fun signer retained => ?_) (fun _ _ => Yields.held rfl)
          exact clientExchange_follows (.pollP10CR _) rfl carries rfl
            ⟨enrolls, inTime, polled, present, nonce.symm, rfl, retained⟩
      · exact Yields.held rfl

/-- An issued certificate is good for the request it was issued for. -/
theorem Understood.trusted {session : Session} {exchange : Exchange} {response : PKIMessage}
    {signer : Option Certificate} {result : EnrollmentResult}
    (understood : Understood lib exchange response signer (.ok (.result result)))
    (enrolls : Enrolls lib session.job session.trail hold exchange.call.enrollment)
    (obtains : exchange.call.confirms = false) (issued : result.pending = none)
    (clock : (⟨.now, exchange.instant⟩ : Event interface) ∈ session.trail) :
    ∃ leaf rest, result.chain = leaf :: rest ∧
      TrustedChain lib session.job session.trail (leaf :: rest) := by
  obtain ⟨csr, _, built, _, parsed, _, _, verdict⟩ := understood.judged
  rcases ClientCall.verdict_result obtains verdict with
    ⟨pending, rfl, _⟩ | ⟨_, _, leaf, rest, chain, matching, verified⟩
  · cases issued
  · obtain ⟨anchors, trust, read⟩ := enrolls.anchors
    have parsed := parsed obtains
    rw [ClientCall.request_csrDER] at parsed
    rw [ClientCall.request_cmpTrust, trust, chain] at verified
    exact ⟨leaf, rest, chain, ⟨_, csr, leaf, rest, rfl, enrolls.csr, parsed, matching⟩,
      anchors, exchange.instant, read, clock, verified⟩

theorem continueTransaction_follows (hold : Hold) {request : CertificateRequestObject} {operation : Operation}
    {started : Time} {prepared : Prepared} {session : Session} (stage : session.stage = .held hold)
    (enrolls : Enrolls lib session.job session.trail hold { prepared.enrollment with
      transactionID := hold.record.spec.transactionID
      requestedNotAfter :=
        requestedNotAfter prepared.configuration.requestedValidity operation request started })
    (unissued : hold.record.status.phase ≠ .issued)
    (loaded : hold.record.status.phase = .confirming →
      ∃ key, (⟨.getTransaction key, .ok hold.record⟩ : Event interface) ∈ session.trail)
    (bypasses : hold.record.status.phase = .confirming → Unretained lib hold.record prepared.enrollment session) :
    Follows (contract lib) (Finish lib) session
      (continueTransaction lib request operation prepared.enrollment.csrDER started prepared
        hold.record) := by
  unfold continueTransaction Reported.continueTransaction
  dsimp only [quiet_run, quiet_issued]
  split
  · rename_i confirming
    obtain ⟨key, loaded⟩ := loaded confirming
    exact resumeConfirmation_follows stage enrolls confirming loaded (bypasses confirming)
  · rename_i unconfirmed
    rw [follows_bind, follows_tried]
    refine (exchange_follows stage enrolls unconfirmed unissued).mono ?_
    rintro s ((err | reason) | result) exchanged
    · exact failTransaction_follows hold exchanged
    · obtain ⟨exchange, response, signer, examined, obtains, understood⟩ := exchanged
      exact ⟨hold, exchange, response, signer, examined, obtains, understood⟩
    · obtain ⟨exchange, response, signer, examined, obtains, sent, understood, carries, clock⟩ := exchanged
      have enrolls := enrolls.carried carries
      show Follows _ _ _ _
      dsimp only
      cases waiting : result.pending with
      | some pending =>
          exact recordAnswer_follows examined (countPoll_status _ _)
            (fun t => .pending t understood obtains waiting)
            (fun _ _ _ _ held _ => requeue_follows held fun _ => rfl) (fun _ _ => fails_stopped)
      | none =>
          obtain ⟨leaf, rest, chain, trusted⟩ :=
            understood.trusted (sent ▸ enrolls) obtains waiting clock
          cases unaccepted : result.pendingConfirmation with
          | some pending =>
              refine recordAnswer_follows examined (fun _ => rfl)
                (fun t => .confirming t understood obtains waiting unaccepted) ?_ (fun _ _ => fails_stopped)
              intro s t resourceVersion recorded held wrote
              rw [chain] at held wrote ⊢
              exact confirm_follows ⟨_, _⟩ held ((enrolls.updated _ _).carried recorded) rfl rfl rfl rfl
                ⟨leaf.raw, rfl, .inl rfl⟩ (trusted.carried recorded) (.recorded wrote rfl rfl)
          | none =>
              refine recordAnswer_follows examined (fun _ => rfl)
                (fun t => .issued t understood obtains waiting unaccepted) ?_ (fun _ _ => fails_stopped)
              intro s t resourceVersion recorded held _
              rw [chain] at held ⊢
              exact ⟨_, leaf :: rest, leaf, held, rfl, rfl, rfl, ⟨leaf.raw, rfl, .inl rfl⟩,
                trusted.carried recorded⟩

theorem recoverIssuedChain_follows (hold : Hold) {session : Session} {csrDER : Bytes}
    (stage : session.stage = .held hold) (early : ¬ HandedOver session.trail)
    (phase : hold.record.status.phase = .issued)
    (csr : requestedCSR lib session.job.request = .ok csrDER) :
    Follows (contract lib) (Finish lib) session
      (recoverIssuedChain lib session.job.clusterResourceNamespace hold.record session.job.issuer
        csrDER) := by
  obtain ⟨job, trail, _⟩ := session
  subst stage
  unfold recoverIssuedChain
  split
  · exact failTransaction_follows hold (.held rfl)
  · rename_i chain recorded
    rw [follows_bind, follows_mapError]
    refine (Follows.quietly (by trivial) early loadCMPTrust_loads).mono ?_
    rintro s ((err | reason) | ⟨anchors, candidates⟩) ⟨u, rfl, _, loads, _⟩
    · intro permanent
      simp [GoError.isPermanent, ConfigurationError.goError] at permanent
    · exact loads.elim
    · have loads : AnchorsRead lib job.clusterResourceNamespace job.issuer u anchors := loads
      refine follows_ask_bind.mpr ⟨trivial, fun t => ?_⟩
      split
      · exact failTransaction_follows hold (.held rfl)
      · rename_i validated verified
        have read : AnchorsRead lib job.clusterResourceNamespace job.issuer
            (trail ++ u ++ [⟨.now, t⟩]) anchors := AnchorsRead.mono loads (by simp)
        obtain ⟨leaf, rest, rfl, stored, trusted⟩ :=
          trustedRecordedChain_ok csr recorded read (by simp) verified
        exact ⟨hold, leaf :: rest, leaf, rfl, phase, rfl, rfl, stored, trusted⟩

/-- The request of a reconcile belongs to a record with the operation and digest it was prepared for. -/
theorem enrolls_prepared {job : Job} {first reads between work last : Trail}
    {configuration : RuntimeConfiguration} {prepared : Prepared} {csrDER : Bytes}
    (csr : requestedCSR lib job.request = .ok csrDER)
    (configured : Configured lib job.clusterResourceNamespace job.issuer reads configuration)
    (loading : Path (loadRuntimeConfiguration lib job.clusterResourceNamespace job.issuer) reads
      (.pure configuration))
    (prepares : Prepares lib job.issuer hold.record.spec.operation csrDER configuration work prepared)
    (preparing : Path (prepareEnrollment lib job.request job.issuer hold.record.spec.operation
      hold.record.spec.renewalFallback csrDER configuration) work (.pure prepared))
    (digest : hold.record.spec.configurationDigest = prepared.configuration.configurationDigest)
    (bound : ∀ loaded, hold.origin = .loaded loaded →
      Bindings lib job (secretsRead (first ++ reads ++ between ++ work ++ last)) loaded ∧
        Continues loaded hold.record) (notAfter : Option Time) :
    Enrolls lib job (first ++ reads ++ between ++ work ++ last) hold { prepared.enrollment with
      transactionID := hold.record.spec.transactionID
      requestedNotAfter := notAfter } := by
  obtain ⟨anchors, read, trust⟩ := configured.anchors
  have same := prepares.csr
  subst same
  exact
    { transactionID := rfl
      operation := prepares.selected
      csr := csr
      endpoint := by
        unfold selectedEndpoint
        rw [prepares.endpoint, configured.endpoint, configured.renewalEndpoint]
      anchors := ⟨anchors, prepares.trust.trans trust, read.mono (by simp)⟩
      signature := fun update => prepares.signature (prepares.selected ▸ update)
      prepared := ⟨first, reads, between, work, last, configuration, prepared, notAfter, rfl, loading,
        preparing, digest, rfl⟩
      bound := bound }

def Recorded (lib : Library) (detail : TransactionDetail) (before session : Session) :
    Except (Fault GoError) CMPTransaction → Prop
  | .ok record => record.spec.operation = detail.operation ∧
      record.spec.renewalFallback = detail.renewalFallback ∧
      record.spec.configurationDigest = detail.configurationDigest ∧
      record.status.phase = .enrolling ∧ session.stage = .held ⟨record, .created⟩ ∧
      Carries before session
  | .error (.error err) => Fails lib session err
  | .error (.panic _) => False

theorem createRecord_follows {session : Session} {deadline : Time} {detail : TransactionDetail}
    {csrDER : Bytes} {secrets : Fingerprints} (stage : session.stage = .absent)
    (csr : requestedCSR lib session.job.request = .ok csrDER)
    (csrDigest : detail.csrDigest = csrDigestHex lib csrDER)
    (issuerRef : detail.issuerRef = issuerReference session.job.issuer)
    (operation : detail.operation ≠ .unset)
    (digest : runtimeConfigurationDigest lib (issuerReference session.job.issuer) secrets =
      .ok detail.configurationDigest) :
    Follows (contract lib) (Recorded lib detail session) session
      (createRecord session.job.request deadline detail) := by
  obtain ⟨job, trail, _⟩ := session
  subst stage
  unfold createRecord
  refine follows_ask_bind.mpr ⟨trivial, fun drawn => ?_⟩
  cases drawn with
  | error err => exact trivial
  | ok transactionID =>
      have creates : Creates lib job (trail ++ [⟨.random transactionIDLength, .ok transactionID⟩])
          (newTransaction job.request transactionID deadline detail) :=
        ⟨transactionID, deadline, detail, csrDER, rfl, by simp, csr, csrDigest, issuerRef, operation,
          secrets, digest⟩
      refine follows_ask_bind.mpr ⟨⟨rfl, creates⟩, fun answer => ?_⟩
      cases answer with
      | error err => exact rfl
      | ok assigned =>
          refine follows_ask_bind.mpr ⟨trivial, fun t => ?_⟩
          refine (writeStatus_follows (.inl ⟨_, t, rfl, rfl⟩)).mono ?_
          rintro s ((err | reason) | written) wrote
          · exact fails_stopped wrote.1 wrote.2
          · exact wrote.elim
          · obtain ⟨resourceVersion, rfl, held, carries, _⟩ := wrote
            exact ⟨rfl, rfl, rfl, rfl, held, (Carries.next _ rfl).trans ((Carries.next _ rfl).trans
              ((Carries.next _ rfl).trans carries))⟩

theorem initialOperation_mem (spec : ProtocolSpec) : initialOperation spec ∈ [Operation.p10cr, .ir] := by
  unfold initialOperation
  split <;> simp

theorem renewalOperation_mem (spec : ProtocolSpec) : renewalOperation spec ∈ [Operation.p10cr, .kur] := by
  unfold renewalOperation
  split
  · simp
  · simp
  · split <;> simp

theorem selectedTransactionOperation_mem {issuer : Issuer} {request : CertificateRequestObject}
    {selected : Operation} (h : selectedTransactionOperation lib issuer request = .ok selected) :
    selected ∈ [Operation.p10cr, .ir, .kur] := by
  unfold selectedTransactionOperation at h
  split at h
  · cases h
  · rename_i spec _
    have initial := initialOperation_mem spec.protocol
    have renewal := renewalOperation_mem spec.protocol
    dsimp only at h
    split at h
    · cases h; simp
    · split at h
      · split at h <;> cases h
        simp
      · split at h
        · cases h
        · split at h
          · cases h
          · split at h <;> cases h <;> simp_all <;> tauto

theorem renewalFallbackOperation_mem {issuer : Issuer} (allowed : renewalFallbackOperation issuer ≠ .unset) :
    renewalFallbackOperation issuer ∈ [Operation.p10cr, .ir, .kur] := by
  unfold renewalFallbackOperation at allowed ⊢
  split
  · simp_all
  · rename_i spec _
    split
    · have initial := initialOperation_mem spec.protocol
      simp only [List.mem_cons, List.not_mem_nil, or_false] at initial ⊢
      exact initial.imp_right .inl
    · simp_all

theorem Bindings.operation_mem {job : Job} {reads : List (NamespacedName × Secret)}
    {record : CMPTransaction} (h : Bindings lib job reads record) :
    record.spec.operation ∈ [Operation.p10cr, .ir, .kur] := by
  obtain ⟨selected, selection, ⟨_, same⟩ | ⟨_, _, _, allowed, same⟩⟩ := h.operation
  · exact same ▸ selectedTransactionOperation_mem selection
  · exact same ▸ renewalFallbackOperation_mem allowed

theorem signNew_follows {session : Session} {started : Time} {csrDER : Bytes} {selected : Operation}
    (stage : session.stage = .absent) (early : ¬ HandedOver session.trail)
    (csr : requestedCSR lib session.job.request = .ok csrDER)
    (selection : selectedTransactionOperation lib session.job.issuer session.job.request = .ok selected) :
    Follows (contract lib) (Finish lib) session
      (signNew lib session.job.clusterResourceNamespace session.job.request session.job.issuer started
        csrDER selected) := by
  obtain ⟨job, trail, _⟩ := session
  subst stage
  unfold signNew Reported.signNew
  dsimp only [quiet_run, quiet_fallback]
  unfold issuerConfiguration
  rw [follows_bind, follows_mapError]
  refine (Follows.quietly (by trivial) early loadRuntimeConfiguration_loads).mono ?_
  rintro s ((err | reason) | configuration) ⟨reads, rfl, quiet₁, configured, loading⟩
  · exact trivial
  · exact configured.elim
  have configured : Configured lib job.clusterResourceNamespace job.issuer reads configuration := configured
  have early₁ : ¬ HandedOver (trail ++ reads) := by
    rw [handedOver_append]
    exact not_or.mpr ⟨early, quiet₁⟩
  show Follows _ _ _ (selectRenewalFallback lib job.request job.issuer selected >>= _)
  rw [follows_bind]
  refine (Follows.quietly (by trivial) early₁ selectRenewalFallback_loads).mono ?_
  rintro s ((err | reason) | ⟨operation, fallbackReason⟩) ⟨between, rfl, quiet₂, chosen, _⟩
  · exact trivial
  · exact chosen.elim
  have chosen : (operation, fallbackReason) = (selected, .unset) ∨
      ∃ reason, (operation, fallbackReason) = (renewalFallbackOperation job.issuer, .value reason) ∧
        selected = .kur ∧ renewalFallbackOperation job.issuer ≠ .unset := chosen
  have set : operation ≠ .unset := by
    rcases chosen with same | ⟨_, same, _, fallback⟩ <;> cases same
    · rintro rfl
      simpa using selectedTransactionOperation_mem selection
    · exact fallback
  have early₂ : ¬ HandedOver (trail ++ reads ++ between) := by
    rw [handedOver_append]
    exact not_or.mpr ⟨early₁, quiet₂⟩
  show Follows _ _ _ (prepareEnrollment lib job.request job.issuer operation fallbackReason csrDER
    configuration >>= _)
  rw [follows_bind]
  refine (Follows.quietly (by trivial) early₂ (prepareEnrollment_loads configured.digest)).mono ?_
  rintro s ((err | reason) | prepared) ⟨work, rfl, _, prepares, preparing⟩
  · exact trivial
  · exact prepares.elim
  have prepares : Prepares lib job.issuer operation csrDER configuration work prepared := prepares
  refine follows_ask_bind.mpr ⟨trivial, fun (t : Time) => ?_⟩
  let ready : Session := ⟨job, trail ++ reads ++ between ++ work ++ [⟨.now, t⟩], .absent⟩
  let detail : TransactionDetail :=
    { csrDigest := csrDigestHex lib csrDER
      issuerRef := issuerReference job.issuer
      configurationDigest := prepared.configuration.configurationDigest
      operation
      renewalFallback := fallbackReason
      protocolVersion := cmpProtocolVersion }
  have recorded : Follows (contract lib) (Recorded lib detail ready) ready (createRecord job.request
      (t + prepared.configuration.transaction.maximumDuration) detail) :=
    createRecord_follows rfl csr rfl rfl set prepares.digest
  refine recorded.bind ?_ ?_
  · rintro s record ⟨rfl, rfl, digest, phase, held, carries⟩
    have sameCSR := prepares.csr
    subst sameCSR
    have enrolls : Enrolls lib ready.job ready.trail ⟨record, .created⟩ _ :=
      enrolls_prepared csr configured loading prepares preparing digest (by rintro _ ⟨⟩)
        (requestedNotAfter prepared.configuration.requestedValidity record.spec.operation job.request
          started)
    exact continueTransaction_follows ⟨record, .created⟩ held (enrolls.carried carries) (by simp [phase])
      (by simp [phase]) (by simp [phase])
  · rintro s (err | reason) failed
    · exact failed
    · exact failed.elim

/-- What a record that passes `validateResumedTransaction` is bound to. -/
theorem validateResumedTransaction_ok (job : Job) {record : CMPTransaction} {csrDER : Bytes}
    {selected : Operation}
    (h : validateResumedTransaction record (csrDigestHex lib csrDER) selected
      (renewalFallbackOperation job.issuer) (issuerReference job.issuer) = .ok ()) :
    record.spec.csrDigest = csrDigestHex lib csrDER ∧
    (∃ recorded, record.spec.issuerRef = some recorded ∧
      recorded.name = (issuerReference job.issuer).name ∧
      recorded.kind = (issuerReference job.issuer).kind ∧
      recorded.uid = (issuerReference job.issuer).uid) ∧
    (record.spec.renewalFallback = .unset ∧ record.spec.operation = selected ∨
      ∃ reason, record.spec.renewalFallback = .value reason ∧ selected = .kur ∧
        renewalFallbackOperation job.issuer ≠ .unset ∧
        record.spec.operation = renewalFallbackOperation job.issuer) := by
  unfold validateResumedTransaction at h
  dsimp only at h
  split at h
  · cases h
  · split at h
    · cases h
    · rename_i digest
      split at h
      · cases h
      · rename_i issuer
        refine ⟨not_not.mp digest, ?_, ?_⟩
        · cases recorded : record.spec.issuerRef with
          | none => simp [recorded] at issuer
          | some found => simpa [recorded, and_assoc] using issuer
        · split at h
          · rename_i plain
            split at h
            · cases h
            · rename_i same
              exact .inl ⟨plain, not_not.mp same⟩
          · rename_i reason fallback
            split at h
            · cases h
            · rename_i allowed
              push Not at allowed
              exact .inr ⟨reason, fallback, allowed⟩
          · cases h

theorem signResumed_follows {job : Job} {started : Time} {csrDER : Bytes} {selected : Operation}
    {record : CMPTransaction} (own : record.spec.certificateRequestUID = job.request.uid)
    (csr : requestedCSR lib job.request = .ok csrDER)
    (selection : selectedTransactionOperation lib job.issuer job.request = .ok selected) :
    Follows (contract lib) (Finish lib)
      ⟨job, [⟨.now, started⟩, ⟨.getTransaction job.request.key, .ok record⟩], .held ⟨record, .loaded record⟩⟩
      (signResumed lib job.clusterResourceNamespace job.request job.issuer started csrDER selected
        record) := by
  let hold : Hold := ⟨record, .loaded record⟩
  let trail : Trail := [⟨.now, started⟩, ⟨.getTransaction job.request.key, .ok record⟩]
  have early : ¬ HandedOver trail := not_handedOver_append (t := [⟨.now, started⟩])
    (not_handedOver_append not_handedOver_nil (by rintro _ ⟨⟩)) (by rintro _ ⟨⟩)
  have refused : ∀ {t : Trail} {err : GoError}, Follows (contract lib) (Finish lib)
      ⟨job, t, .held hold⟩ (failTransaction record err) :=
    failTransaction_follows hold (.held rfl)
  unfold signResumed Reported.signResumed
  dsimp only [quiet_run, quiet_deferring]
  split
  · exact refused
  · rename_i valid
    obtain ⟨digest, ⟨recorded, issuerRef, name, kind, uid⟩, operation⟩ :=
      validateResumedTransaction_ok job valid
    split
    · rename_i issued
      exact recoverIssuedChain_follows hold rfl early issued csr
    · rename_i unissued
      split
      · rename_i absent
        rw [issuerRef] at absent
        cases absent
      · rename_i found same
        rw [issuerRef] at same
        cases same
        split
        · exact refused
        · rename_i generation
          have sameIssuer : recorded = issuerReference job.issuer := by
            obtain ⟨_, _, _, _⟩ := recorded
            simp_all [issuerReference]
          have resumes : Resumes lib job record csrDER :=
            ⟨own, csr, ⟨selected, selection, valid⟩, unissued, issuerRef.trans (congrArg some sameIssuer)⟩
          unfold issuerConfiguration
          rw [follows_bind, follows_mapError]
          refine (Follows.quietly (by trivial) early loadRuntimeConfiguration_loads).mono ?_
          rintro s ((err | reason) | configuration) ⟨reads, rfl, quiet, configured, loading⟩
          · intro permanent
            simp [GoError.isPermanent, ConfigurationError.goError] at permanent
          · exact configured.elim
          have configured : Configured lib job.clusterResourceNamespace job.issuer reads configuration :=
            configured
          have early : ¬ HandedOver (trail ++ reads) := by
            rw [handedOver_append]
            exact not_or.mpr ⟨early, quiet⟩
          show Follows _ _ _ (prepareEnrollment lib job.request job.issuer record.spec.operation
            record.spec.renewalFallback csrDER configuration >>= _)
          rw [follows_bind]
          refine (Follows.quietly (by trivial) early (prepareEnrollment_loads configured.digest)).mono ?_
          rintro s ((err | reason) | prepared) ⟨work, rfl, _, prepares, preparing⟩
          · exact fun _ => .workload resumes loading preparing
          · exact prepares.elim
          have prepares : Prepares lib job.issuer record.spec.operation csrDER configuration work prepared :=
            prepares
          rw [then_ok]
          split
          · exact refused
          · rename_i sameDigest
            have sameDigest := not_not.mp sameDigest
            have bindings : Bindings lib job (secretsRead (trail ++ reads ++ [] ++ work ++ [])) record :=
              { csr := ⟨csrDER, csr, digest⟩
                issuer := issuerRef.trans (congrArg some sameIssuer)
                operation := ⟨selected, selection, operation⟩
                configuration := by
                  rw [sameDigest]
                  simpa [trail, secretRead] using digestOf_prepared configured prepares }
            have sameCSR := prepares.csr
            subst sameCSR
            have enrolls : Enrolls lib job (trail ++ reads ++ [] ++ work ++ []) hold _ :=
              enrolls_prepared csr configured loading prepares preparing sameDigest
                (by rintro _ ⟨⟩; exact ⟨bindings, .refl _⟩)
                (requestedNotAfter prepared.configuration.requestedValidity record.spec.operation
                  job.request (transactionStartTime record started))
            rw [List.append_nil, List.append_nil] at enrolls
            exact continueTransaction_follows hold rfl enrolls unissued
              (fun _ => ⟨job.request.key, by simp [hold]⟩) fun phase _ _ _ _ _ recorded verified
              present unparsed => .signer resumes loading preparing sameDigest phase recorded verified present
                unparsed

/-- How looking for a recorded transaction ends. -/
def Found (lib : Library) (before session : Session) :
    Except (Fault GoError) (Option CMPTransaction) → Prop
  | .ok none => session.stage = .absent ∧ Carries before session ∧ ¬ HandedOver session.trail
  | .ok (some record) => session = ⟨before.job,
      before.trail ++ [⟨.getTransaction before.job.request.key, .ok record⟩], .held ⟨record, .loaded record⟩⟩ ∧
      record.spec.certificateRequestUID = before.job.request.uid
  | .error (.error err) => Fails lib session err
  | .error (.panic _) => False

theorem deleteStale_follows {before session : Session} {record : CMPTransaction}
    (stage : session.stage = .stale record) (carries : Carries before session)
    (early : ¬ HandedOver session.trail) :
    Follows (contract lib) (Found lib before) session
      (do match ← deleteTransaction record.key (deletePreconditions record) with
          | .ok () => return none
          | .error err =>
              if err.reason = .notFound then return none
              else fail (.wrap "remove stale CMP transaction state: " (.api err) "")) := by
  obtain ⟨job, trail, _⟩ := session
  subst stage
  have early : ∀ answer, ¬ HandedOver (trail ++ [⟨.deleteTransaction record.key
    (deletePreconditions record), answer⟩]) := fun _ => not_handedOver_append early (by rintro _ ⟨⟩)
  refine follows_ask_bind.mpr ⟨⟨record, rfl, rfl, rfl⟩, fun answer => ?_⟩
  cases answer with
  | ok => exact ⟨rfl, carries.trans (.next _ rfl), early _⟩
  | error err =>
      dsimp only
      split
      · rename_i gone
        exact ⟨if_pos gone, carries.trans (.next _ rfl), early _⟩
      · rename_i failed
        exact fails_stopped (if_neg failed) rfl

theorem loadRecord_follows {session : Session} (stage : session.stage = .start)
    (early : ¬ HandedOver session.trail) :
    Follows (contract lib) (Found lib session) session (loadRecord session.job.request) := by
  obtain ⟨job, trail, _⟩ := session
  subst stage
  have early : ∀ answer, ¬ HandedOver (trail ++ [⟨.getTransaction job.request.key, answer⟩]) :=
    fun _ => not_handedOver_append early (by rintro _ ⟨⟩)
  unfold loadRecord
  refine follows_ask_bind.mpr ⟨⟨rfl, rfl⟩, fun answer => ?_⟩
  cases answer with
  | error err =>
      dsimp only
      split
      · rename_i gone
        exact ⟨if_pos gone, .next _ rfl, early _⟩
      · rename_i failed
        exact fails_stopped (if_neg failed) rfl
  | ok record =>
      dsimp only
      split
      · rename_i own
        refine ⟨?_, own⟩
        simp only [contract, Stage.next, if_pos own]
      · rename_i foreign
        exact deleteStale_follows (if_neg foreign) (.next _ rfl) (early _)

/-- `Sign` keeps to the contract, whatever it is answered. -/
theorem sign_follows (lib : Library) (job : Job) :
    Follows (contract lib) (Finish lib) (Session.begin job)
      (sign lib job.clusterResourceNamespace job.request job.issuer) := by
  unfold sign
  refine follows_ask_bind.mpr ⟨trivial, fun started => ?_⟩
  refine follows_outcome_bind (fun csrDER csr => ?_) (fun _ _ => trivial)
  refine follows_outcome_bind (fun selected selection => ?_) (fun _ _ => trivial)
  rw [mapError_eq_ok] at selection
  have early : ¬ HandedOver ([] ++ [⟨.now, started⟩]) :=
    not_handedOver_append not_handedOver_nil (by rintro _ ⟨⟩)
  have found : Follows (contract lib) _ ⟨job, [⟨.now, started⟩], .start⟩ (loadRecord job.request) :=
    loadRecord_follows rfl early
  refine found.bind ?_ ?_
  · rintro ⟨_, trail, stage⟩ (_ | record) found
    · obtain ⟨at_, ⟨rfl, _⟩, early⟩ := found
      exact signNew_follows at_ early csr selection
    · obtain ⟨same, own⟩ := found
      cases same
      exact signResumed_follows own csr selection
  · rintro s (err | reason) failed
    · exact failed
    · exact failed.elim

theorem Finish.unwaited {session : Session} {r : Except (Fault GoError) Bytes} {hold : Hold}
    {exchange : Exchange} (finish : Finish lib session r) (stage : session.stage = .examined hold exchange) :
    exchange.Unwaited lib := by
  rcases r with (err | reason) | bundle
  · simp only [Finish, Fails, stage] at finish
    exact finish.2
  · obtain ⟨_, _, response, signer, examined, _, understood⟩ := finish
    cases stage.symm.trans examined
    intro response' signer' accepted
    cases understood.accepted.symm.trans accepted
    by_contra waits
    obtain ⟨_, ⟨⟩, _⟩ := understood.waits (by simpa using waits)
  · obtain ⟨_, _, _, held, _⟩ := finish
    cases stage.symm.trans held

/-- A call that has ended. -/
theorem sign_finish {job : Job} {t : Trail} {r : Except (Fault GoError) Bytes}
    (path : Path (sign lib job.clusterResourceNamespace job.request job.issuer) t (.ofExcept r)) :
    Finish lib ((contract lib).run (Session.begin job) t) r :=
  follows_ofExcept.mp ((sign_follows lib job).path path)

end

end CmpIssuer
