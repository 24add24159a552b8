import CmpIssuer.Cluster.Deployment
import CmpIssuer.Controller.Loading
import CmpIssuer.Guarantee.Catalogue

/-!
What `Sign` answers when it has no certificate. Its error is final, blames the
issuer, asks for another call after a delay, or passes on a failure of the
store. The delay is never zero, so no answer of a server makes issuer-lib call
again at once.
-/
namespace CmpIssuer
open Effect

/-- The protocol error inside an error, if there is one, is a failure of the client. -/
def GoError.Bounded (lib : Library) (err : GoError) : Prop :=
  ∀ kind operation failure requeueAfter cause,
    err.asProtocol = some (kind, operation, failure, requeueAfter, cause) →
      Catalogued lib (.protocol kind operation failure requeueAfter cause)

/-- The errors of `Sign`. -/
inductive Reply (lib : Library) : GoError → Prop
  | permanent {err : GoError} (bounded : err.Bounded lib) : Reply lib (.permanent err)
  | issuer (err : ConfigurationError) : Reply lib (.issuer err.goError)
  | again {err : GoError} {delay : Duration} (bounded : err.Bounded lib) (positive : 0 < delay) :
      Reply lib (.pending err delay)
  | store (before : String) (err : ApiError) : Reply lib (.wrap before (.api err) "")
  | random (err : String) : Reply lib (.wrap "generate CMP transaction ID: " (.text err) "")

/-- An error that announces a wait for the server. -/
def GoError.waits : GoError → Bool
  | .pending (.text _) _ => true
  | _ => false

/-- The errors of `Sign` that announce no wait. -/
structure Decided (lib : Library) (err : GoError) : Prop where
  reply : Reply lib err
  decided : err.waits = false

/-- A failure that the signer finds without the client. -/
def GoError.Local (err : GoError) : Prop := ∃ cause, err = .permanent cause ∧ cause.asProtocol = none

section
variable {lib : Library} {α : Type} {err : GoError}

@[simp] theorem PlainError.asProtocol_goError (err : PlainError) : err.goError.asProtocol = none := by
  induction err with
  | text | api => rfl
  | wrap before err after ih => exact ih

@[simp] theorem ConfigurationError.asProtocol_goError (err : ConfigurationError) :
    err.goError.asProtocol = none :=
  err.err.asProtocol_goError

theorem GoError.bounded_of_none (plain : err.asProtocol = none) : err.Bounded lib := by
  intro kind operation failure requeueAfter cause classified
  rw [plain] at classified
  cases classified

theorem Catalogued.bounded (catalogued : Catalogued lib err) : err.Bounded lib := by
  cases catalogued with
  | intro classified named =>
      rintro _ _ _ _ _ ⟨⟩
      exact .intro classified named

theorem decided_permanent (bounded : err.Bounded lib) : Decided lib (.permanent err) :=
  ⟨.permanent bounded, rfl⟩

theorem GoError.Local.settled (own : err.Local) : Decided lib err := by
  obtain ⟨cause, rfl, plain⟩ := own
  exact decided_permanent (GoError.bounded_of_none plain)

theorem GoError.Local.mapped (own : err.Local) : mapProtocolError err = err := by
  obtain ⟨cause, rfl, plain⟩ := own
  have unclassified : (GoError.permanent cause).asProtocol = none := plain
  rw [mapProtocolError, unclassified]

theorem Catalogued.mapped (catalogued : Catalogued lib err) : Decided lib (mapProtocolError err) := by
  have bounded := catalogued.bounded
  cases catalogued with
  | intro classified named =>
      cases classified with
      | permanent => exact decided_permanent bounded
      | security => exact decided_permanent bounded
      | retryable => exact ⟨.again bounded (by decide), rfl⟩
      | waiting => exact ⟨.again bounded (by decide), rfl⟩

theorem writeStatus_settles (failure : String) (transaction : CMPTransaction) (status : CMPTransactionStatus) :
    Raises (Decided lib) (writeStatus failure transaction status) := by
  unfold writeStatus
  refine raises_ask_bind fun answer => ?_
  cases answer with
  | ok => exact raises_pure _
  | error err => exact raises_fail ⟨.store failure err, rfl⟩

theorem removeRecord_settles (transaction : CMPTransaction) : Raises (Decided lib) (removeRecord transaction) := by
  unfold removeRecord
  refine raises_ask_bind fun answer => ?_
  cases answer with
  | ok => exact raises_pure _
  | error err =>
      dsimp only
      split
      · exact raises_pure _
      · exact raises_fail ⟨.store _ err, rfl⟩

theorem failTransaction_ends (transaction : CMPTransaction) (known : Catalogued lib err ∨ err.Local) :
    Ends (fun _ => False) (Raised (Decided lib)) (failTransaction transaction err : Go GoError α) := by
  have mapped : Decided lib (mapProtocolError err) := by
    rcases known with catalogued | own
    · exact catalogued.mapped
    · rw [own.mapped]
      exact own.settled
  unfold failTransaction
  dsimp only
  split
  · exact Ends.bind (removeRecord_settles transaction) fun _ _ => ends_throw.mpr mapped
  · exact ends_throw.mpr mapped

theorem failTransaction_settles (transaction : CMPTransaction) (known : Catalogued lib err ∨ err.Local) :
    Raises (Decided lib) (failTransaction transaction err : Go GoError α) :=
  (failTransaction_ends transaction known).mono (fun _ => False.elim) fun _ decided => decided

theorem createRecord_settles (request : CertificateRequestObject) (deadline : Time)
    (detail : TransactionDetail) : Raises (Decided lib) (createRecord request deadline detail) := by
  unfold createRecord
  refine raises_ask_bind fun answer => ?_
  cases answer with
  | error err => exact raises_fail ⟨.random err, rfl⟩
  | ok transactionID =>
      refine raises_ask_bind fun answer => ?_
      cases answer with
      | error err => exact raises_fail ⟨.store _ err, rfl⟩
      | ok assigned => exact raises_ask_bind fun t => writeStatus_settles ..

theorem loadRecord_settles (request : CertificateRequestObject) :
    Raises (Decided lib) (loadRecord request) := by
  unfold loadRecord
  refine raises_ask_bind fun answer => ?_
  cases answer with
  | error err =>
      dsimp only
      split
      · exact raises_pure _
      · exact raises_fail ⟨.store _ err, rfl⟩
  | ok record =>
      dsimp only
      split
      · exact raises_pure _
      · refine raises_ask_bind fun answer => ?_
        cases answer with
        | ok => exact raises_pure _
        | error err =>
            dsimp only
            split
            · exact raises_pure _
            · exact raises_fail ⟨.store _ err, rfl⟩

theorem parseRecordedChain_local {encoded : List Bytes} (h : parseRecordedChain lib encoded = .error err) :
    err.Local := by
  induction encoded with
  | nil => cases h
  | cons first rest ih =>
      unfold parseRecordedChain at h
      split at h
      · cases h
        exact ⟨_, rfl, rfl⟩
      · split at h
        · cases h
          exact ⟨_, rfl, PlainError.asProtocol_goError _⟩
        · split at h
          · rename_i failed
            cases h
            exact ih failed
          · cases h

theorem recordedChain_local {transaction : CMPTransaction} {csrDER : Bytes}
    (h : recordedChain lib transaction csrDER = .error err) : err.Local := by
  unfold recordedChain at h
  split at h
  · rename_i failed
    cases h
    exact parseRecordedChain_local failed
  · cases h
    exact ⟨_, rfl, rfl⟩
  · repeat' split at h
    all_goals cases h
    all_goals exact ⟨_, rfl, rfl⟩

theorem trustedRecordedChain_local {t : Time} {chain candidates : List Certificate} {roots : Option CertPool}
    (h : trustedRecordedChain lib t chain roots candidates = .error err) : err.Local := by
  obtain ⟨cause, _, rfl⟩ := mapError_eq_error.mp h
  exact ⟨_, rfl, cause.asProtocol_goError⟩

theorem retainedSigner_local {transaction : CMPTransaction} (h : retainedSigner lib transaction = .error err) :
    err.Local := by
  unfold retainedSigner at h
  repeat' split at h
  all_goals cases h
  exact ⟨_, rfl, rfl⟩

theorem protocolClient_known (call : ClientCall) :
    Raises (fun err => Catalogued lib err ∨ err.Local) (protocolClient lib call) :=
  Ends.mono (protocolClient_raises call) (fun _ _ => trivial) (by
    rintro (err | reason) raised
    · exact .inl raised
    · trivial)

theorem exchange_known (enrollment : EnrollmentRequest) (transaction : CMPTransaction)
    (limits : TransactionSpec) :
    Raises (fun err => Catalogued lib err ∨ err.Local) (exchange lib enrollment transaction limits) := by
  unfold exchange
  refine raises_ask_bind fun t => ?_
  split
  · exact raises_fail (.inr ⟨_, rfl, rfl⟩)
  · split
    · split <;> exact protocolClient_known _
    · split
      · split
        · exact raises_fail (.inr ⟨_, rfl, rfl⟩)
        · exact Raises.bind (raises_outcome fun err failed => .inr (retainedSigner_local failed))
            fun signer => protocolClient_known _
      · exact raises_fail (.inr ⟨_, rfl, rfl⟩)

/-- An error that announces no wait is an error of `Sign` all the same. -/
theorem ends_replies {V : α → Prop} {call : Go GoError α} (h : Ends V (Raised (Decided lib)) call) :
    Ends V (Raised (Reply lib)) call := by
  refine h.mono (fun _ value => value) ?_
  rintro (err | reason) raised
  · exact raised.reply
  · trivial

theorem Raises.replies {call : Go GoError α} (h : Raises (Decided lib) call) : Raises (Reply lib) call :=
  ends_replies h

/-- Limits between which every poll delay is positive. -/
structure Paced (limits : TransactionSpec) : Prop where
  minimum : 0 < limits.minimumPollInterval
  maximum : 0 < limits.maximumPollInterval

/-- The defaults see to that, also for limits that were never validated. -/
theorem transactionLimits_paced (spec : TransactionSpec) : Paced (transactionLimitsWithDefaults spec) := by
  have minimum : 0 < (transactionLimitsWithDefaults spec).minimumPollInterval := by
    unfold transactionLimitsWithDefaults
    dsimp only
    split
    · decide
    · rename_i positive
      exact not_le.mp positive
  refine ⟨minimum, ?_⟩
  unfold transactionLimitsWithDefaults at minimum ⊢
  dsimp only at minimum ⊢
  by_cases short : spec.maximumPollInterval <
      if spec.minimumPollInterval ≤ 0 then defaultMinimumPollInterval else spec.minimumPollInterval
  · rw [if_pos short]
    decide
  · rw [if_neg short]
    exact minimum.trans_le (not_lt.mp short)

theorem boundedDelay_pos {limits : TransactionSpec} (paced : Paced limits) (pending : PendingTransaction)
    (deadline t : Time) : 0 < boundedDelay pending limits deadline t := by
  have delay : 0 < pollDelay pending.checkAfter limits := by
    unfold pollDelay
    split
    · exact paced.minimum
    · rename_i long
      split
      · exact paced.maximum
      · exact paced.minimum.trans_le (not_lt.mp long)
  unfold boundedDelay
  dsimp only
  split
  · rename_i cut
    exact cut.1
  · exact delay

section
variable {limits : TransactionSpec} (paced : Paced limits)
include paced

theorem continuePolling_replies (transaction : CMPTransaction) (pending : PendingTransaction)
    (polled : Bool) :
    Raises (Reply lib) (continuePolling lib transaction pending limits polled : Go GoError α) := by
  unfold continuePolling Reported.continuePolling
  dsimp only [quiet_run, quiet_polled]
  unfold recordPending
  refine Raises.bind (raises_ask_bind fun t => (writeStatus_settles ..).replies) fun transaction => ?_
  exact raises_ask_bind fun t => raises_fail (.again (GoError.bounded_of_none rfl) (boundedDelay_pos paced ..))

theorem continueConfirming_replies (transaction : CMPTransaction) (chain : List Certificate)
    (pending : PendingTransaction) (polled : Bool) :
    Raises (Reply lib)
      (continueConfirming lib transaction chain pending limits polled : Go GoError α) := by
  unfold continueConfirming Reported.continueConfirming
  dsimp only [quiet_run, quiet_polled]
  unfold recordConfirming
  refine Raises.bind (raises_ask_bind fun t => (writeStatus_settles ..).replies) fun transaction => ?_
  exact raises_ask_bind fun t => raises_fail (.again (GoError.bounded_of_none rfl) (boundedDelay_pos paced ..))

theorem confirm_replies (transaction : CMPTransaction) (enrollment : EnrollmentRequest)
    (chain : List Certificate) (pending : PendingTransaction) :
    Raises (Reply lib) (confirm lib transaction enrollment limits chain pending) := by
  unfold confirm Reported.confirm
  dsimp only [quiet_run, quiet_issued]
  refine raises_ask_bind fun t => ?_
  split
  · exact (failTransaction_settles _ (.inr ⟨_, rfl, rfl⟩)).replies
  · split
    · exact (failTransaction_settles _ (.inr ⟨_, rfl, rfl⟩)).replies
    · split
      · exact raises_panic _
      · refine (protocolClient_raises _).attempt_bind (fun result => ?_)
          fun err catalogued => (failTransaction_settles _ (.inl catalogued)).replies
        dsimp only
        split
        · exact continueConfirming_replies paced ..
        · exact Raises.bind (raises_ask_bind fun t => (writeStatus_settles ..).replies) fun _ => raises_pure _

theorem resumeConfirmation_replies (transaction : CMPTransaction) (enrollment : EnrollmentRequest)
    (csrDER : Bytes) : Raises (Reply lib) (resumeConfirmation lib transaction enrollment limits csrDER) := by
  unfold resumeConfirmation Reported.resumeConfirmation
  dsimp only [quiet_run]
  split
  · rename_i failed
    exact (failTransaction_settles _ (.inr (recordedChain_local failed))).replies
  · refine raises_ask_bind fun t => ?_
    split
    · rename_i failed
      exact (failTransaction_settles _ (.inr (trustedRecordedChain_local failed))).replies
    · split
      · exact (failTransaction_settles _ (.inr ⟨_, rfl, rfl⟩)).replies
      · exact Raises.bind (raises_outcome fun err failed => (retainedSigner_local failed).settled.reply)
          fun signer => confirm_replies paced ..

theorem continueTransaction_replies {request : CertificateRequestObject} {operation : Operation}
    {requestDER : Bytes} {started : Time} {prepared : Prepared}
    (same : prepared.configuration.transaction = limits) (transaction : CMPTransaction) :
    Raises (Reply lib)
      (continueTransaction lib request operation requestDER started prepared transaction) := by
  subst same
  unfold continueTransaction Reported.continueTransaction
  dsimp only [quiet_run, quiet_issued]
  split
  · exact resumeConfirmation_replies paced ..
  · refine (exchange_known ..).attempt_bind (fun result => ?_) fun err known =>
      (failTransaction_settles _ known).replies
    dsimp only
    split
    · exact continuePolling_replies paced ..
    · exact Raises.bind (raises_ask_bind fun t => (writeStatus_settles ..).replies) fun transaction =>
        confirm_replies paced ..
    · exact Raises.bind (raises_ask_bind fun t => (writeStatus_settles ..).replies) fun _ => raises_pure _

end

theorem workloadConfigurationError_decided (err : ConfigurationError) :
    Decided lib (workloadConfigurationError err) := by
  unfold workloadConfigurationError
  split
  · exact decided_permanent (GoError.bounded_of_none err.asProtocol_goError)
  · exact ⟨.again (GoError.bounded_of_none err.asProtocol_goError) (by decide), rfl⟩

theorem raises_any {ε : Type} (call : Go ε α) : Raises (fun _ => True) call :=
  (follows_grows [] call).ends (by rintro _ ((_ | _) | _) _ <;> trivial)

theorem issuerConfiguration_ends (clusterResourceNamespace : String) (issuer : Issuer) :
    Ends (fun configuration => Paced configuration.transaction) (Raised (Decided lib))
      (issuerConfiguration lib clusterResourceNamespace issuer) := by
  refine ends_mapError.mpr (loadRuntimeConfiguration_loads.ends ?_)
  rintro t ((err | reason) | configuration) loads
  · exact ⟨.issuer err, rfl⟩
  · exact loads.elim
  · have configured : Configured lib clusterResourceNamespace issuer t configuration := loads
    show Paced _
    rw [configured.limits]
    exact transactionLimits_paced _

theorem selectRenewalFallback_settles (request : CertificateRequestObject) (issuer : Issuer)
    (operation : Operation) : Raises (Decided lib) (selectRenewalFallback lib request issuer operation) := by
  unfold selectRenewalFallback
  dsimp only
  split
  · exact raises_pure _
  · refine raises_ask_bind fun t => ?_
    refine Raises.bind ((raises_any _).mapError fun err _ => workloadConfigurationError_decided err)
      fun fallback => ?_
    split <;> exact raises_pure _

theorem prepareEnrollment_ends (request : CertificateRequestObject) (issuer : Issuer)
    (operation : Operation) (reason : Setting FallbackReason) (requestDER : Bytes)
    (configuration : RuntimeConfiguration) :
    Ends (fun prepared => prepared.configuration.transaction = configuration.transaction)
      (Raised (Decided lib))
      (prepareEnrollment lib request issuer operation reason requestDER configuration) := by
  unfold prepareEnrollment prepareWorkloadKeyEnrollment
  dsimp only
  split
  · refine Ends.bind ((raises_any _).mapError fun err _ => workloadConfigurationError_decided err)
      fun material _ => ?_
    refine Ends.bind (raises_outcome fun err failed => ?_) fun digest _ => ?_
    · obtain ⟨cause, _, rfl⟩ := mapError_eq_error.mp failed
      exact decided_permanent (GoError.bounded_of_none cause.asProtocol_goError)
    · split
      · refine Ends.bind ((validateKURRequest_raises _).mapError fun err catalogued => catalogued.mapped)
          fun _ _ => ends_pure.mpr rfl
      · refine Ends.bind (raises_outcome fun err failed => ?_) fun _ _ => ends_pure.mpr rfl
        obtain ⟨cause, invalid, rfl⟩ := mapError_eq_error.mp failed
        exact (validateIRRequest_catalogued invalid).mapped
  · exact ends_pure.mpr rfl

theorem signNew_replies (clusterResourceNamespace : String) (request : CertificateRequestObject)
    (issuer : Issuer) (started : Time) (requestDER : Bytes) (selected : Operation) :
    Raises (Reply lib)
      (signNew lib clusterResourceNamespace request issuer started requestDER selected) := by
  unfold signNew Reported.signNew
  dsimp only [quiet_run, quiet_fallback]
  refine Ends.bind (ends_replies (issuerConfiguration_ends clusterResourceNamespace issuer))
    fun configuration paced => ?_
  refine Raises.bind (selectRenewalFallback_settles ..).replies ?_
  rintro ⟨operation, reason⟩
  refine Ends.bind (ends_replies (prepareEnrollment_ends ..)) fun prepared same => raises_ask_bind fun t => ?_
  exact Raises.bind (createRecord_settles ..).replies fun transaction =>
    continueTransaction_replies paced same transaction

theorem validateResumedTransaction_local {transaction : CMPTransaction} {csrDigest : String}
    {operation fallback : Operation} {issuer : TransactionIssuerReference}
    (invalid : validateResumedTransaction transaction csrDigest operation fallback issuer = .error err) :
    GoError.Local (.permanent err) := by
  refine ⟨_, rfl, ?_⟩
  unfold validateResumedTransaction at invalid
  dsimp only at invalid
  repeat' split at invalid
  all_goals cases invalid
  all_goals rfl

theorem recoverIssuedChain_settles (clusterResourceNamespace : String) (transaction : CMPTransaction)
    (issuer : Issuer) (requestDER : Bytes) :
    Raises (Decided lib) (recoverIssuedChain lib clusterResourceNamespace transaction issuer requestDER) := by
  unfold recoverIssuedChain
  split
  · rename_i failed
    exact failTransaction_settles _ (.inr (recordedChain_local failed))
  · refine Raises.bind ((raises_any _).mapError fun err _ => ⟨.issuer err, rfl⟩) ?_
    rintro ⟨roots, candidates⟩
    refine raises_ask_bind fun t => ?_
    split
    · rename_i failed
      exact failTransaction_settles _ (.inr (trustedRecordedChain_local failed))
    · exact raises_pure _

theorem requestedCSR_decided {request : CertificateRequestObject}
    (failed : requestedCSR lib request = .error err) : Decided lib err := by
  unfold requestedCSR at failed
  split at failed
  · cases failed
    exact decided_permanent (GoError.bounded_of_none rfl)
  · obtain ⟨cause, _, rfl⟩ := mapError_eq_error.mp failed
    exact decided_permanent (GoError.bounded_of_none cause.asProtocol_goError)

theorem permanent_decided {r : Except PlainError α}
    (failed : (r.mapError fun cause => GoError.permanent cause.goError) = .error err) : Decided lib err := by
  obtain ⟨cause, _, rfl⟩ := mapError_eq_error.mp failed
  exact decided_permanent (GoError.bounded_of_none cause.asProtocol_goError)

theorem signResumed_replies (clusterResourceNamespace : String) (request : CertificateRequestObject)
    (issuer : Issuer) (started : Time) (requestDER : Bytes) (selected : Operation)
    (transaction : CMPTransaction) :
    Raises (Reply lib)
      (signResumed lib clusterResourceNamespace request issuer started requestDER selected transaction) := by
  unfold signResumed Reported.signResumed
  dsimp only [quiet_run, quiet_deferring]
  split
  · rename_i err invalid
    exact (failTransaction_settles _ (.inr (validateResumedTransaction_local invalid))).replies
  · split
    · exact (recoverIssuedChain_settles ..).replies
    · split
      · exact raises_panic _
      · split
        · exact (failTransaction_settles _ (.inr ⟨_, rfl, rfl⟩)).replies
        · refine Ends.bind (ends_replies (issuerConfiguration_ends clusterResourceNamespace issuer))
            fun configuration paced => ?_
          refine Ends.bind (ends_replies (prepareEnrollment_ends ..)) fun prepared same => ?_
          split
          · exact (failTransaction_settles _ (.inr ⟨_, rfl, rfl⟩)).replies
          · exact continueTransaction_replies paced same transaction

/-- Every error of `Sign`, whatever is answered to it. -/
theorem sign_replies (clusterResourceNamespace : String) (request : CertificateRequestObject)
    (issuer : Issuer) : Raises (Reply lib) (sign lib clusterResourceNamespace request issuer) := by
  unfold sign
  refine raises_ask_bind fun started => ?_
  refine Raises.bind (raises_outcome fun err failed => (requestedCSR_decided failed).reply) fun requestDER => ?_
  refine Raises.bind (raises_outcome fun err failed => (permanent_decided failed).reply) fun selected => ?_
  refine Raises.bind (loadRecord_settles request).replies fun loaded => ?_
  cases loaded with
  | none => exact signNew_replies ..
  | some transaction => exact signResumed_replies ..

theorem Reply.bounded (reply : Reply lib err) : err.Bounded lib := by
  cases reply with
  | permanent bounded => exact bounded
  | issuer err => exact GoError.bounded_of_none err.asProtocol_goError
  | again bounded positive => exact bounded
  | store before err => exact GoError.bounded_of_none rfl
  | random err => exact GoError.bounded_of_none rfl

end

/-- An error of `Sign` is one that issuer-lib tells apart. It never asks for another call at once, and
the name of a protocol failure in it is one of a fixed list. -/
theorem sign_error_classified {lib : Library} {clusterResourceNamespace : String}
    {request : CertificateRequestObject} {issuer : Issuer} {t : Trail} {err : GoError}
    (path : Path (sign lib clusterResourceNamespace request issuer) t (.throw (.error err))) :
    Reply lib err ∧ ∀ kind operation failure requeueAfter cause,
      err.asProtocol = some (kind, operation, failure, requeueAfter, cause) →
        failure ∈ failureNames lib ∧ Classified kind requeueAfter := by
  have reply := (sign_replies clusterResourceNamespace request issuer).of path
  refine ⟨reply, fun kind operation failure requeueAfter cause classified => ?_⟩
  cases reply.bounded _ _ _ _ _ classified with
  | intro classified named => exact ⟨named, classified⟩

/-- A server that does not answer. -/
theorem sign_error_classified_unanswered : ∃ t cause, Path (sign plainLibrary
      plainJob.clusterResourceNamespace plainJob.request plainJob.issuer) t
        (.throw (.error (.pending cause second))) ∧
    Reply plainLibrary (.pending cause second) := by
  have path := (plainDeployment none []).run_outcome plainLibrary plainJob 40
    (r := .error (.error (.pending (retryable "HTTP exchange" "systemUnavail" (.text "no answer")) second)))
    (by decide +kernel)
  exact ⟨_, _, path, (sign_error_classified path).1⟩

end CmpIssuer
