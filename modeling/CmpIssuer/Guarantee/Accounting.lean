import CmpIssuer.Controller.Reporting
import CmpIssuer.Guarantee.Retry
import CmpIssuer.Session.Serving

/-!
What `Sign` reports. A brief of a call holds what its reports depend on: the
record it read, the record it opened, whether it asked the client to confirm
and the record it stored as issued. Every call reports its outcome once, from
its brief and its result.
-/
namespace CmpIssuer
open Effect

/-- What the reports of a call depend on. -/
structure Brief where
  found : Option CMPTransaction := none
  opened : Option CMPTransaction := none
  confirming : Bool := false
  issued : Option CMPTransaction := none

def Brief.stored (brief : Brief) (written : CMPTransaction) : Brief :=
  if written.status.phase = .enrolling then { brief with opened := some written }
  else if written.status.phase = .issued then { brief with issued := some written }
  else brief

def Brief.called (brief : Brief) : ClientCall → Brief
  | .confirmP10CR _ => { brief with confirming := true }
  | _ => brief

def Brief.next (brief : Brief) : (o : Op) → o.Answer → Brief
  | .getTransaction _, .ok record => { brief with found := some record }
  | .updateTransactionStatus written, .ok _ => brief.stored written
  | .call call, _ => brief.called call
  | _, _ => brief

def briefing : Monitor interface Brief where
  allows _ _ := True
  next := Brief.next

/-- The operations that leave a brief as it is. -/
def Op.minor : Op → Bool
  | .getTransaction _ | .updateTransactionStatus _ | .call _ => false
  | _ => true

section
variable {lib : Library} {ε α β : Type} {b : Brief}

theorem Brief.next_minor {o : Op} (minor : o.minor = true) (answer : o.Answer) : b.next o answer = b := by
  cases o <;> first | rfl | cases minor

theorem brief_kept {C : Type} {M : Monitor interface C} {Q : C → Except (Fault ε) α → Prop} {c : C}
    {p : Go ε α} (minor : ∀ c o, M.allows c o → o.minor = true) (h : Follows M Q c p) :
    Follows briefing (fun b' r => b' = b ∧ ∃ c, Q c r) b p := by
  have related : Follows briefing _ b p := h.simulate (R := fun _ b' => b' = b) (by
    rintro c _ o rfl allowed
    exact ⟨trivial, Brief.next_minor (minor c o allowed)⟩) rfl
  exact related.mono fun b' r ⟨c, same, holds⟩ => ⟨same, c, holds⟩

theorem brief_reading {P : Trail → α → Prop} {p : Go ε α} (h : Follows reading (Loads P) [] p) :
    Follows briefing (fun b' _ => b' = b) b p := by
  refine (brief_kept ?_ h).mono fun _ _ kept => kept.1
  intro _ o silent
  cases o <;> first | rfl | cases silent

theorem brief_ask {Q : Brief → Except (Fault ε) β → Prop} {o : Op} {f : o.Answer → Go ε β}
    (minor : o.minor = true) (rest : ∀ answer, Follows briefing Q b (f answer)) :
    Follows briefing Q b (ask o >>= f) := by
  refine follows_ask_bind.mpr ⟨trivial, fun answer => ?_⟩
  have kept : briefing.next b o answer = b := Brief.next_minor minor answer
  rw [kept]
  exact rest answer

theorem protocolClient_brief (call : ClientCall) :
    Follows briefing (fun b' _ => b' = b.called call) b (protocolClient lib call) := by
  refine follows_ask_bind.mpr ⟨trivial, fun _ => ?_⟩
  refine (brief_kept ?_ (serve_speaks lib call)).mono fun _ _ kept => kept.1
  intro _ o allowed
  cases o with
  | send | now | entropy => rfl
  | _ => cases allowed

theorem exchange_brief (enrollment : EnrollmentRequest) (transaction : CMPTransaction)
    (limits : TransactionSpec) :
    Follows briefing (fun b' _ => b' = b) b (exchange lib enrollment transaction limits) := by
  unfold exchange
  refine brief_ask rfl fun t => ?_
  split
  · exact rfl
  · split
    · split <;> exact protocolClient_brief _
    · split
      · split
        · exact rfl
        · exact follows_outcome_bind (fun signer _ => protocolClient_brief _) fun _ _ => rfl
      · exact rfl

theorem brief_attempt {b₁ : Brief} {p : Go GoError α} (h : Follows briefing (fun b' _ => b' = b₁) b p) :
    Follows briefing (fun b' _ => b' = b₁) b (attempt p : Go GoError (Except GoError α)) := by
  refine follows_tried.mpr (h.mono ?_)
  rintro b' ((err | reason) | a) same <;> exact same

def StoredAs (b : Brief) (phase : Phase) (spec : CMPTransactionSpec) (b' : Brief) :
    Except (Fault ε) CMPTransaction → Prop
  | .ok _ => ∃ written : CMPTransaction, written.status.phase = phase ∧ written.spec = spec ∧
      b' = b.stored written
  | .error _ => b' = b

theorem writeStatus_brief (failure : String) (transaction : CMPTransaction) (status : CMPTransactionStatus) :
    Follows briefing (StoredAs b status.phase transaction.spec) b (writeStatus failure transaction status) := by
  refine follows_ask_bind.mpr ⟨trivial, fun answer => ?_⟩
  cases answer with
  | ok version => exact ⟨{ transaction with status }, rfl, rfl, rfl⟩
  | error err => exact rfl

theorem recordPending_brief (transaction : CMPTransaction) (pending : PendingTransaction) :
    Follows briefing (StoredAs b .polling transaction.spec) b (recordPending transaction pending) :=
  brief_ask rfl fun _ => writeStatus_brief _ _ _

theorem recordConfirming_brief (transaction : CMPTransaction) (chain : List Certificate)
    (pending : PendingTransaction) :
    Follows briefing (StoredAs b .confirming transaction.spec) b
      (recordConfirming transaction chain pending) :=
  brief_ask rfl fun _ => writeStatus_brief _ _ _

theorem recordIssued_brief (transaction : CMPTransaction) (chain : List Certificate) :
    Follows briefing (StoredAs b .issued transaction.spec) b (recordIssued transaction chain) :=
  brief_ask rfl fun _ => writeStatus_brief _ _ _

theorem Brief.stored_polling {written : CMPTransaction} (phase : written.status.phase = .polling) :
    b.stored written = b := by
  simp [Brief.stored, phase]

theorem Brief.stored_confirming {written : CMPTransaction} (phase : written.status.phase = .confirming) :
    b.stored written = b := by
  simp [Brief.stored, phase]

theorem Brief.stored_issued {written : CMPTransaction} (phase : written.status.phase = .issued) :
    b.stored written = { b with issued := some written } := by
  simp [Brief.stored, phase]

theorem removeRecord_brief (transaction : CMPTransaction) :
    Follows briefing (fun b' _ => b' = b) b (removeRecord transaction) := by
  refine brief_ask rfl fun answer => ?_
  cases answer with
  | ok => exact rfl
  | error err => dsimp only; split <;> exact rfl

theorem failTransaction_brief (transaction : CMPTransaction) (err : GoError) :
    Follows briefing (fun b' _ => b' = b) b (failTransaction transaction err : Go GoError α) := by
  unfold failTransaction
  dsimp only
  split
  · exact (removeRecord_brief transaction).bind (fun _ _ kept => kept) fun _ _ kept => kept
  · exact rfl

theorem recoverIssuedChain_brief (clusterResourceNamespace : String) (transaction : CMPTransaction)
    (issuer : Issuer) (requestDER : Bytes) :
    Follows briefing (fun b' _ => b' = b) b
      (recoverIssuedChain lib clusterResourceNamespace transaction issuer requestDER) := by
  unfold recoverIssuedChain
  split
  · exact failTransaction_brief ..
  · refine (brief_reading (loads_mapError loadCMPTrust_loads)).bind ?_ fun _ _ kept => kept
    rintro b ⟨roots, candidates⟩ rfl
    refine brief_ask rfl fun t => ?_
    split
    · exact failTransaction_brief ..
    · exact rfl

theorem createRecord_brief (request : CertificateRequestObject) (deadline : Time) (detail : TransactionDetail) :
    Follows briefing (fun b' r => match r with
      | .ok _ => ∃ written : CMPTransaction, written.spec.operation = detail.operation ∧
          written.spec.renewalFallback = detail.renewalFallback ∧ b' = { b with opened := some written }
      | .error _ => b' = b) b (createRecord request deadline detail) := by
  refine brief_ask rfl fun drawn => ?_
  cases drawn with
  | error err => exact rfl
  | ok transactionID =>
      refine brief_ask rfl fun created => ?_
      cases created with
      | error err => exact rfl
      | ok assigned =>
          refine brief_ask rfl fun t => (writeStatus_brief _ _ _).mono ?_
          rintro b' (fault | record) stored
          · exact stored
          · obtain ⟨written, phase, spec, rfl⟩ := stored
            refine ⟨written, by rw [spec]; rfl, by rw [spec]; rfl, if_pos phase⟩

/-- A record is found for the request, or at most one of another request. -/
def LoadedAs (request : CertificateRequestObject) (b : Brief) : Except (Fault ε) (Option CMPTransaction) → Prop
  | .ok (some record) => b = { found := some record } ∧ record.spec.certificateRequestUID = request.uid
  | _ => ∃ found, b = { found } ∧ ∀ record : CMPTransaction, found = some record →
      record.spec.certificateRequestUID ≠ request.uid

theorem loadRecord_brief (request : CertificateRequestObject) :
    Follows briefing (LoadedAs request) {} (loadRecord request) := by
  refine follows_ask_bind.mpr ⟨trivial, fun answer => ?_⟩
  cases answer with
  | error err =>
      dsimp only
      split <;> exact ⟨none, rfl, by rintro _ ⟨⟩⟩
  | ok record =>
      dsimp only
      split
      · rename_i own
        exact ⟨rfl, own⟩
      · rename_i foreign
        have other : ∀ found : CMPTransaction, some record = some found →
            found.spec.certificateRequestUID ≠ request.uid := by
          rintro _ ⟨⟩
          exact foreign
        refine brief_ask rfl fun answer => ?_
        cases answer with
        | ok => exact ⟨some record, rfl, other⟩
        | error err =>
            dsimp only
            split <;> exact ⟨some record, rfl, other⟩

end

def fallbackReports (operation : Operation) : Setting FallbackReason → List Report
  | .value reason => [.renewalFallback operation reason]
  | _ => []

def Brief.opening (brief : Brief) : List Report :=
  match brief.opened with
  | none => []
  | some written => fallbackReports written.spec.operation written.spec.renewalFallback

def Brief.confirmation (brief : Brief) : String :=
  if brief.confirming then confirmationExplicit else confirmationImplicit

/-- What an error tells about itself: the operation that failed, the failure and its classification. -/
def GoError.blames (err : GoError) : Option (String × String × String) :=
  match err.asProtocol with
  | some (kind, operation, failure, _, _) => some (operation, failure, kind.text)
  | none => err.asConfiguration.map fun (lasting, operation) =>
      (operation, "issuerConfiguration", if lasting then "Permanent" else "Retryable")

section
variable (labels : Labels) (started : Time)

/-- The reports of a call up to its deferred function. -/
def Brief.direct (brief : Brief) : Except (Fault GoError) Bytes → List Report
  | .ok _ =>
      if brief.issued.isSome then
        [.outcome labels resultIssued started, .confirmation labels brief.confirmation]
      else []
  | .error (.error err) => if err.waits then [.poll labels] else []
  | .error (.panic _) => []

/-- The reports of a failure that is not a wait: the log line, the outcome, and the failure under the name
and the classification that the log line has. -/
def failureReports : Except (Fault GoError) Bytes → List Report
  | .error (.error err) =>
      if err.isPending then []
      else
        [.enrollmentFailed err err.blames, .outcome labels "failed" started,
          match err.blames with
          | some (_, failure, classification) => .failure labels failure classification
          | none => .failure labels "unclassified" "Unknown"]
  | _ => []

def Brief.reports (brief : Brief) (r : Except (Fault GoError) Bytes) : List Report :=
  brief.opening ++ (brief.direct labels started r ++ failureReports labels started r)

theorem deferredReport_eq (fault : Fault GoError) :
    deferredReport labels started fault = failureReports labels started (.error fault) := by
  cases fault with
  | panic => rfl
  | error err =>
      unfold deferredReport failureReports logEnrollmentFailure recordFailedEnrollment failureLabels GoError.blames
      dsimp only
      cases err.isPending with
      | true => rfl
      | false =>
          rcases err.asProtocol with _ | ⟨kind, operation, failure, _, _⟩
          · rcases err.asConfiguration with _ | ⟨_ | _, operation⟩ <;> rfl
          · rfl

/-- Since `b`, a part of a call has reported what its brief says. -/
def Reports (b : Brief) (notes : List Report) (c : Brief × List Report) (r : Except (Fault GoError) Bytes) :
    Prop :=
  c.1.found = b.found ∧ c.1.opened = b.opened ∧ c.2 = notes ++ c.1.direct labels started r

end

section
variable {lib : Library} {labels : Labels} {started : Time} {b : Brief} {notes : List Report} {α : Type}

theorem reports_decided {fault : Fault GoError} (decided : Raised (Decided lib) fault) :
    Reports labels started b notes (b, notes) (.error fault) := by
  refine ⟨rfl, rfl, ?_⟩
  cases fault with
  | error err => simp [Brief.direct, decided.decided]
  | panic reason => exact (List.append_nil _).symm

theorem reports_lift_bind (lib : Library) {Q : Brief × List Report → Except (Fault GoError) Bytes → Prop}
    {R : Brief → Except (Fault GoError) α → Prop} {V : α → Prop} {p : Go GoError α} {f : α → Reporting Bytes}
    (decided : ∀ fault, Raised (Decided lib) fault → Q (b, notes) (.error fault))
    (first : Follows briefing R b p) (ends : Ends V (Raised (Decided lib)) p)
    (kept : ∀ b' fault, R b' (.error fault) → b' = b)
    (rest : ∀ b' a, R b' (.ok a) → V a → Follows (briefing.noting Report) Q (b', notes) (f a)) :
    Follows (briefing.noting Report) Q (b, notes) (p.lift >>= f) := by
  refine (first.and_ends ends).lift_bind (fun b' a holds => rest b' a holds.1 holds.2) ?_
  rintro b' fault ⟨holds, raised⟩
  obtain rfl := kept b' fault holds
  exact decided fault raised

theorem reports_now {Q : Brief × List Report → Except (Fault GoError) Bytes → Prop} {f : Time → Reporting Bytes}
    (rest : ∀ t, Follows (briefing.noting Report) Q (b, notes) (f t)) :
    Follows (briefing.noting Report) Q (b, notes) (Program.lift now >>= f) :=
  Follows.lift_bind (R := fun b' r => b' = b ∧ r.isOk) (M := briefing) (by exact ⟨trivial, fun _ => ⟨rfl, rfl⟩⟩)
    (fun _ t kept => kept.1 ▸ rest t) (by rintro _ _ ⟨_, ⟨⟩⟩)

theorem failTransaction_reports (lib : Library) (transaction : CMPTransaction) {err : GoError}
    (known : Catalogued lib err ∨ err.Local) :
    Follows (briefing.noting Report) (Reports labels started b notes) (b, notes)
      (Program.lift (failTransaction transaction err)) := by
  refine follows_lift.mpr (((failTransaction_brief transaction err).and_ends
    (failTransaction_ends transaction known)).mono ?_)
  rintro _ (fault | bundle) ⟨rfl, ended⟩
  · exact reports_decided ended
  · exact ended.elim

theorem reports_attempt {call : Go GoError EnrollmentResult} {b₁ : Brief}
    {f : Except GoError EnrollmentResult → Reporting Bytes}
    (first : Follows briefing (fun b' _ => b' = b₁) b call)
    (same : b₁.found = b.found ∧ b₁.opened = b.opened)
    (known : Raises (fun err => Catalogued lib err ∨ err.Local) call)
    (failure : ∀ err, Catalogued lib err ∨ err.Local →
      Follows (briefing.noting Report) (Reports labels started b₁ notes) (b₁, notes) (f (.error err)))
    (value : ∀ result,
      Follows (briefing.noting Report) (Reports labels started b₁ notes) (b₁, notes) (f (.ok result))) :
    Follows (briefing.noting Report) (Reports labels started b notes) (b, notes)
      (Program.lift (attempt call) >>= f) := by
  have within : ∀ c r, Reports labels started b₁ notes c r → Reports labels started b notes c r := by
    rintro c r ⟨found, opened, reported⟩
    exact ⟨found.trans same.1, opened.trans same.2, reported⟩
  refine ((brief_attempt first).and_ends (known.attempted (Q := fun _ => False))).lift_bind ?_ ?_
  · rintro _ (err | result) ⟨rfl, settled⟩
    · exact (failure err settled).mono within
    · exact (value result).mono within
  · rintro _ (err | reason) ⟨rfl, raised⟩
    · exact raised.elim
    · exact ⟨same.1, same.2, (List.append_nil _).symm⟩

theorem continuePolling_reports (transaction : CMPTransaction) (pending : PendingTransaction)
    (limits : TransactionSpec) (polled : Bool) :
    Follows (briefing.noting Report) (Reports labels started b notes) (b, notes)
      (Reported.continuePolling lib (enrollmentReporter labels started) transaction pending limits polled) := by
  refine reports_lift_bind lib (fun _ => reports_decided) (recordPending_brief ..)
    (raises_ask_bind fun t => writeStatus_settles ..)
    (fun _ _ kept => kept) ?_
  rintro _ record ⟨written, phase, _, rfl⟩ _
  rw [Brief.stored_polling phase]
  exact reports_now fun t => follows_note_bind.mpr (follows_lift.mpr ⟨rfl, rfl, rfl⟩)

theorem continueConfirming_reports (transaction : CMPTransaction) (chain : List Certificate)
    (pending : PendingTransaction) (limits : TransactionSpec) (polled : Bool) :
    Follows (briefing.noting Report) (Reports labels started b notes) (b, notes)
      (Reported.continueConfirming lib (enrollmentReporter labels started) transaction chain pending limits
        polled) := by
  refine reports_lift_bind lib (fun _ => reports_decided) (recordConfirming_brief ..)
    (raises_ask_bind fun t => writeStatus_settles ..)
    (fun _ _ kept => kept) ?_
  rintro _ record ⟨written, phase, _, rfl⟩ _
  rw [Brief.stored_confirming phase]
  exact reports_now fun t => follows_note_bind.mpr (follows_lift.mpr ⟨rfl, rfl, rfl⟩)

theorem recordIssued_reports (lib : Library) (transaction : CMPTransaction) (chain : List Certificate)
    {confirmation : String} (confirmed : b.confirmation = confirmation) (bundle : Bytes) :
    Follows (briefing.noting Report) (Reports labels started b notes) (b, notes) (do
      let _ ← (recordIssued transaction chain).lift
      recordIssuedEnrollment labels confirmation started
      return bundle) := by
  subst confirmed
  refine reports_lift_bind lib (fun _ => reports_decided) (recordIssued_brief ..)
    (raises_ask_bind fun t => writeStatus_settles ..)
    (fun _ _ kept => kept) ?_
  rintro _ record ⟨written, phase, _, rfl⟩ _
  rw [Brief.stored_issued phase]
  refine follows_bind.mpr (follows_note_bind.mpr ⟨trivial, fun _ => follows_pure.mpr ⟨rfl, rfl, ?_⟩⟩)
  exact List.append_assoc ..

theorem confirm_reports (transaction : CMPTransaction) (enrollment : EnrollmentRequest)
    (limits : TransactionSpec) (chain : List Certificate) (pending : PendingTransaction) :
    Follows (briefing.noting Report) (Reports labels started b notes) (b, notes)
      (Reported.confirm lib (enrollmentReporter labels started) transaction enrollment limits chain pending) := by
  refine reports_now fun t => ?_
  split
  · exact failTransaction_reports lib transaction (.inr ⟨_, rfl, rfl⟩)
  · split
    · exact failTransaction_reports lib transaction (.inr ⟨_, rfl, rfl⟩)
    · cases chain with
      | nil => exact ⟨rfl, rfl, (List.append_nil _).symm⟩
      | cons leaf rest =>
          refine reports_attempt (protocolClient_brief _) ⟨rfl, rfl⟩ (protocolClient_known _)
            (fun err known => failTransaction_reports lib transaction known) fun result => ?_
          dsimp only
          split
          · exact continueConfirming_reports ..
          · exact recordIssued_reports lib _ _ rfl _

theorem resumeConfirmation_reports (transaction : CMPTransaction) (enrollment : EnrollmentRequest)
    (limits : TransactionSpec) (csrDER : Bytes) :
    Follows (briefing.noting Report) (Reports labels started b notes) (b, notes)
      (Reported.resumeConfirmation lib (enrollmentReporter labels started) transaction enrollment limits csrDER) := by
  unfold Reported.resumeConfirmation
  split
  · rename_i failed
    exact failTransaction_reports lib transaction (.inr (recordedChain_local failed))
  · refine reports_now fun t => ?_
    split
    · rename_i failed
      exact failTransaction_reports lib transaction (.inr (trustedRecordedChain_local failed))
    · split
      · exact failTransaction_reports lib transaction (.inr ⟨_, rfl, rfl⟩)
      · refine reports_lift_bind lib (R := fun b' _ => b' = b) (fun _ => reports_decided) (follows_outcome.mpr rfl)
          (raises_outcome fun err failed => (retainedSigner_local failed).settled) (fun _ _ kept => kept) ?_
        rintro _ signer rfl _
        exact confirm_reports ..

theorem continueTransaction_reports (unconfirmed : b.confirming = false) (request : CertificateRequestObject)
    (operation : Operation) (requestDER : Bytes) (prepared : Prepared) (transaction : CMPTransaction) :
    Follows (briefing.noting Report) (Reports labels started b notes) (b, notes)
      (Reported.continueTransaction lib (enrollmentReporter labels started) request operation requestDER started
        prepared transaction) := by
  unfold Reported.continueTransaction
  dsimp only
  split
  · exact resumeConfirmation_reports ..
  · refine reports_attempt (exchange_brief ..) ⟨rfl, rfl⟩ (exchange_known ..)
      (fun err known => failTransaction_reports lib transaction known) fun result => ?_
    dsimp only
    split
    · exact continuePolling_reports ..
    · refine reports_lift_bind lib (fun _ => reports_decided) (recordConfirming_brief ..)
        (raises_ask_bind fun t => writeStatus_settles ..) (fun _ _ kept => kept) ?_
      rintro _ record ⟨written, phase, _, rfl⟩ _
      rw [Brief.stored_confirming phase]
      exact confirm_reports ..
    · refine recordIssued_reports lib _ _ ?_ _
      rw [Brief.confirmation, unconfirmed]
      rfl

/-- Up to its deferred function, a call has reported what its brief says. -/
def Recounts (labels : Labels) (started : Time) (found : Option CMPTransaction) (c : Brief × List Report)
    (r : Except (Fault GoError) Bytes) : Prop :=
  c.1.found = found ∧ c.2 = c.1.opening ++ c.1.direct labels started r

theorem recounts_decided (unopened : b.opened = none) {fault : Fault GoError}
    (decided : Raised (Decided lib) fault) :
    Recounts labels started b.found (b, []) (.error fault) := by
  have reports : Reports labels started b [] (b, []) (.error fault) := reports_decided decided
  refine ⟨rfl, ?_⟩
  rw [Brief.opening, unopened]
  exact reports.2.2

theorem Reports.recounts {c : Brief × List Report} {r : Except (Fault GoError) Bytes}
    (reports : Reports labels started b b.opening c r) : Recounts labels started b.found c r := by
  obtain ⟨found, opened, reported⟩ := reports
  refine ⟨found, ?_⟩
  rw [reported, Brief.opening, Brief.opening, opened]

theorem reportRenewalFallback_bind {Q : Brief × List Report → Except (Fault GoError) Bytes → Prop}
    {operation : Operation} {reason : Setting FallbackReason} {f : Unit → Reporting Bytes}
    (rest : Follows (briefing.noting Report) Q (b, notes ++ fallbackReports operation reason) (f ())) :
    Follows (briefing.noting Report) Q (b, notes) (reportRenewalFallback operation reason >>= f) := by
  cases reason with
  | value reason => exact follows_note_bind.mpr rest
  | unset => exact List.append_nil notes ▸ rest
  | unknown text => exact List.append_nil notes ▸ rest

theorem signNew_recounts (unopened : b.opened = none) (unconfirmed : b.confirming = false)
    (clusterResourceNamespace : String) (request : CertificateRequestObject) (issuer : Issuer)
    (requestDER : Bytes) (selected : Operation) :
    Follows (briefing.noting Report) (Recounts labels started b.found) (b, [])
      (Reported.signNew lib clusterResourceNamespace (enrollmentReporter labels started) request issuer started
        requestDER selected) := by
  refine reports_lift_bind lib (fun _ => recounts_decided unopened)
    (brief_reading (loads_mapError loadRuntimeConfiguration_loads)) (issuerConfiguration_ends ..)
    (fun _ _ kept => kept) ?_
  rintro b configuration rfl _
  refine reports_lift_bind lib (fun _ => recounts_decided unopened)
    (brief_reading selectRenewalFallback_selects) (selectRenewalFallback_settles ..) (fun _ _ kept => kept) ?_
  rintro b ⟨operation, reason⟩ rfl _
  refine reports_lift_bind lib (fun _ => recounts_decided unopened)
    (brief_reading prepareEnrollment_reads) (prepareEnrollment_ends ..) (fun _ _ kept => kept) ?_
  rintro b prepared rfl _
  refine reports_now fun t => ?_
  refine reports_lift_bind lib (fun _ => recounts_decided unopened)
    (createRecord_brief ..) (createRecord_settles ..) (fun _ _ kept => kept) ?_
  rintro _ record ⟨written, rfl, rfl, rfl⟩ _
  refine reportRenewalFallback_bind (Follows.mono (continueTransaction_reports ?_ ..) ?_)
  · exact unconfirmed
  · exact fun c r reports => reports.recounts

/-- The record that a call read is one that it resumes: it belongs to the request, the operation and the
issuer of the call. -/
def BelongsTo (lib : Library) (request : CertificateRequestObject) (issuer : Issuer) (record : CMPTransaction) :
    Prop :=
  record.spec.certificateRequestUID = request.uid ∧ ∃ csrDER selected,
    requestedCSR lib request = .ok csrDER ∧ selectedTransactionOperation lib issuer request = .ok selected ∧
    validateResumedTransaction record (csrDigestHex lib csrDER) selected (renewalFallbackOperation issuer)
      (issuerReference issuer) = .ok ()

/-- The instant from which a call counts: the start of the record that it resumes, and its own start when
there is none. -/
inductive Dated (lib : Library) (request : CertificateRequestObject) (issuer : Issuer) (t₀ : Time)
    (found : Option CMPTransaction) : Time → Prop
  | resumed {record : CMPTransaction} (read : found = some record) (resumes : BelongsTo lib request issuer record) :
      Dated lib request issuer t₀ found (transactionStartTime record t₀)
  | own (other : ∀ record, found = some record → ¬ BelongsTo lib request issuer record) :
      Dated lib request issuer t₀ found t₀

def Recounted (lib : Library) (request : CertificateRequestObject) (issuer : Issuer) (labels : Labels) (t₀ : Time)
    (c : Brief × List Report) (r : Except (Fault GoError) Bytes) : Prop :=
  ∃ started, Dated lib request issuer t₀ c.1.found started ∧ c.2 = c.1.reports labels started r

theorem deferring_recounted {request : CertificateRequestObject} {issuer : Issuer} {t₀ : Time}
    {found : Option CMPTransaction} {c : Brief × List Report}
    {part : Reporting Bytes} (h : Follows (briefing.noting Report) (Recounts labels started found) c part)
    (dated : Dated lib request issuer t₀ found started) :
    Follows (briefing.noting Report) (Recounted lib request issuer labels t₀) c
      (deferring labels started part) := by
  refine h.onFailure ?_ ?_
  · rintro c bundle ⟨rfl, reported⟩
    refine ⟨started, dated, ?_⟩
    rw [reported, Brief.reports]
    exact congrArg _ (List.append_nil _).symm
  · rintro c fault ⟨rfl, reported⟩
    refine ⟨started, dated, ?_⟩
    rw [reported, List.append_assoc, deferredReport_eq]
    rfl

theorem recoverIssuedChain_recounts (unopened : b.opened = none) (unissued : b.issued = none)
    (clusterResourceNamespace : String) (transaction : CMPTransaction) (issuer : Issuer) (requestDER : Bytes) :
    Follows (briefing.noting Report) (Recounts labels started b.found) (b, [])
      (Program.lift (recoverIssuedChain lib clusterResourceNamespace transaction issuer requestDER)) := by
  refine follows_lift.mpr (((recoverIssuedChain_brief ..).and_ends (recoverIssuedChain_settles ..)).mono ?_)
  rintro _ (fault | bundle) ⟨rfl, ended⟩
  · exact recounts_decided unopened ended
  · refine ⟨rfl, ?_⟩
    rw [Brief.opening, unopened, Brief.direct, unissued]
    rfl

theorem signResumed_recounted {t₀ : Time} {transaction : CMPTransaction} {request : CertificateRequestObject}
    {issuer : Issuer} {requestDER : Bytes} {selected : Operation} (found : b.found = some transaction)
    (own : transaction.spec.certificateRequestUID = request.uid)
    (csr : requestedCSR lib request = .ok requestDER)
    (selection : selectedTransactionOperation lib issuer request = .ok selected)
    (unopened : b.opened = none) (unconfirmed : b.confirming = false) (unissued : b.issued = none)
    (clusterResourceNamespace : String) :
    Follows (briefing.noting Report) (Recounted lib request issuer labels t₀) (b, [])
      (Reported.signResumed lib clusterResourceNamespace (enrollmentReporter labels) request issuer t₀ requestDER
        selected transaction) := by
  have plain : ∀ {part : Reporting Bytes} {started : Time},
      Follows (briefing.noting Report) (Reports labels started b []) (b, []) part →
      Follows (briefing.noting Report) (Recounts labels started b.found) (b, []) part := by
    intro part started h
    have unnoted : b.opening = [] := by rw [Brief.opening, unopened]
    exact h.mono fun c r reports => Reports.recounts (by rwa [unnoted])
  unfold Reported.signResumed
  dsimp only
  split
  · rename_i invalid
    refine deferring_recounted (plain ?_) (.own ?_)
    · exact failTransaction_reports lib transaction (.inr (validateResumedTransaction_local invalid))
    · rintro record read ⟨_, _, _, csr', selection', valid⟩
      cases found.symm.trans read
      cases csr.symm.trans csr'
      cases selection.symm.trans selection'
      cases invalid.symm.trans valid
  · rename_i valid
    refine deferring_recounted ?_ (.resumed found ⟨own, requestDER, selected, csr, selection, valid⟩)
    split
    · exact recoverIssuedChain_recounts unopened unissued ..
    · split
      · exact plain ⟨rfl, rfl, rfl⟩
      · split
        · exact plain (failTransaction_reports lib transaction (.inr ⟨_, rfl, rfl⟩))
        · refine reports_lift_bind lib (fun _ => recounts_decided unopened)
            (brief_reading (loads_mapError loadRuntimeConfiguration_loads)) (issuerConfiguration_ends ..)
            (fun _ _ kept => kept) ?_
          rintro b configuration rfl _
          refine reports_lift_bind lib (fun _ => recounts_decided unopened)
            (brief_reading prepareEnrollment_reads) (prepareEnrollment_ends ..) (fun _ _ kept => kept) ?_
          rintro b prepared rfl _
          split
          · exact plain (failTransaction_reports lib transaction (.inr ⟨_, rfl, rfl⟩))
          · exact plain (continueTransaction_reports unconfirmed ..)

/-- A part before the record is known, under the deferred function. -/
theorem deferring_bind (lib : Library) {request : CertificateRequestObject} {issuer : Issuer} {t₀ : Time}
    {R : Brief → Except (Fault GoError) α → Prop} {V : α → Prop}
    {p : Go GoError α} {f : α → Reporting Bytes} (first : Follows briefing R b p)
    (ends : Ends V (Raised (Decided lib)) p) (unopened : ∀ b' fault, R b' (.error fault) → b'.opened = none ∧
      ∀ record, b'.found = some record → record.spec.certificateRequestUID ≠ request.uid)
    (rest : ∀ b' a, R b' (.ok a) →
      Follows (briefing.noting Report) (Recounted lib request issuer labels t₀) (b', []) (f a)) :
    Follows (briefing.noting Report) (Recounted lib request issuer labels t₀) (b, [])
      (deferring labels t₀ p.lift >>= f) := by
  have lifted : Follows (briefing.noting Report)
      (fun c r => c.2 = [] ∧ R c.1 r ∧ Settles V (Raised (Decided lib)) r) (b, []) p.lift :=
    follows_lift.mpr ((first.and_ends ends).mono fun _ _ holds => ⟨rfl, holds⟩)
  refine follows_bind.mpr (lifted.onFailure ?_ ?_)
  · rintro ⟨b', notes⟩ a ⟨rfl, holds, _⟩
    exact rest b' a holds
  · rintro ⟨b', notes⟩ fault ⟨rfl, holds, decided⟩
    obtain ⟨unopened, foreign⟩ := unopened b' fault holds
    have recounts : Recounts labels t₀ b'.found (b', []) (.error fault) := recounts_decided unopened decided
    refine ⟨t₀, .own fun record read resumes => foreign record read resumes.1, ?_⟩
    rw [Brief.reports, ← List.append_assoc, ← recounts.2, deferredReport_eq]

/-- `Sign` after its first reading of the clock. -/
theorem sign_recounted (lib : Library) (clusterResourceNamespace : String) (request : CertificateRequestObject)
    (issuer : Issuer) :
    ∃ body : Time → Reporting Bytes,
      Reported.sign lib clusterResourceNamespace request issuer = Program.lift now >>= body ∧
      ∀ t₀, Follows (briefing.noting Report)
        (Recounted lib request issuer (enrollmentMetricLabels lib issuer request) t₀) ({}, []) (body t₀) := by
  refine ⟨_, rfl, fun t₀ => ?_⟩
  have unread : ∀ (b' : Brief), b' = {} → b'.opened = none ∧ ∀ record : CMPTransaction,
      b'.found = some record → record.spec.certificateRequestUID ≠ request.uid := by
    rintro _ rfl
    exact ⟨rfl, by rintro _ ⟨⟩⟩
  refine deferring_bind lib (R := fun b' r => b' = {} ∧ r = (requestedCSR lib request).mapError .error)
    (follows_outcome.mpr ⟨rfl, rfl⟩) (raises_outcome fun err failed => requestedCSR_decided failed)
    (fun b' _ holds => unread b' holds.1) ?_
  rintro _ requestDER ⟨rfl, csr⟩
  refine deferring_bind lib (R := fun b' r => b' = {} ∧ r = ((selectedTransactionOperation lib issuer request).mapError
      fun err => GoError.permanent err.goError).mapError .error)
    (follows_outcome.mpr ⟨rfl, rfl⟩) (raises_outcome fun err failed => permanent_decided failed)
    (fun b' _ holds => unread b' holds.1) ?_
  rintro _ selected ⟨rfl, selection⟩
  refine deferring_bind lib (loadRecord_brief request) (loadRecord_settles request) ?_ ?_
  · rintro _ fault ⟨found, rfl, foreign⟩
    exact ⟨rfl, foreign⟩
  · rintro b' (_ | record) loaded
    · obtain ⟨found, rfl, foreign⟩ := loaded
      exact deferring_recounted (signNew_recounts rfl rfl ..)
        (.own fun record read resumes => foreign record read resumes.1)
    · obtain ⟨rfl, own⟩ := loaded
      exact signResumed_recounted rfl own (mapError_eq_ok.mp csr.symm)
        (mapError_eq_ok.mp (mapError_eq_ok.mp selection.symm)) rfl rfl rfl ..

end

def Trail.brief (t : Trail) : Brief := briefing.run {} t

theorem reported_at_end {lib : Library} {clusterResourceNamespace : String}
    {request : CertificateRequestObject} {issuer : Issuer} {t : List (Event (interface.noting Report))}
    {r : Except (Fault GoError) Bytes}
    (path : Path (Reported.sign lib clusterResourceNamespace request issuer) t (.ofExcept r)) :
    ∃ t₀ rest started, plainEvents t = ⟨.now, t₀⟩ :: rest ∧
      Dated lib request issuer t₀ (Trail.brief (plainEvents t)).found started ∧
      notesTaken t =
        (Trail.brief (plainEvents t)).reports (enrollmentMetricLabels lib issuer request) started r := by
  obtain ⟨body, same, recounted⟩ := sign_recounted lib clusterResourceNamespace request issuer
  rw [same] at path
  generalize ended : (Program.ofExcept r : Reporting Bytes) = q at path
  cases path with
  | refl => cases r <;> cases ended
  | @step _ _ t₀ t _ rest =>
      subst ended
      obtain ⟨started, dated, reported⟩ := (recounted t₀).noted rest
      exact ⟨t₀, plainEvents t, started, rfl, dated, reported⟩

/-- Whatever is answered to it, `Sign` does the same with its reports as without, and it reports what its
brief and its outcome say and nothing else: a certificate once it is recorded as issued, with the way it
was confirmed, a wait for the server, or a failure, each once. -/
theorem sign_reports_outcome {lib : Library} {clusterResourceNamespace : String}
    {request : CertificateRequestObject} {issuer : Issuer} {t : List (Event (interface.noting Report))}
    {r : Except (Fault GoError) Bytes}
    (path : Path (Reported.sign lib clusterResourceNamespace request issuer) t (.ofExcept r)) :
    Path (sign lib clusterResourceNamespace request issuer) (plainEvents t) (.ofExcept r) ∧
      ∃ t₀ rest started, plainEvents t = ⟨.now, t₀⟩ :: rest ∧
        Dated lib request issuer t₀ (Trail.brief (plainEvents t)).found started ∧
        notesTaken t =
          (Trail.brief (plainEvents t)).reports (enrollmentMetricLabels lib issuer request) started r := by
  have erased := path.erase
  rw [erase_sign] at erased
  refine ⟨?_, reported_at_end path⟩
  cases r <;> exact erased

/-- A certificate that the server confirms on request. -/
theorem sign_reports_outcome_explicit : ∃ t t₀, Path (Reported.sign plainLibrary
      plainJob.clusterResourceNamespace plainJob.request plainJob.issuer) t (.ofExcept (.ok [3, 4])) ∧
    notesTaken t = [.outcome ⟨"CMPIssuer", "default/issuer", "enrollment"⟩ "issued" t₀,
      .confirmation ⟨"CMPIssuer", "default/issuer", "enrollment"⟩ "Explicit"] := by
  obtain ⟨d, ended, brief⟩ : ∃ d : Deployment, (d.run plainLibrary plainJob 40).2.2.outcome? = some (.ok [3, 4]) ∧
      ((Trail.brief (d.run plainLibrary plainJob 40).1).opening.isEmpty &&
        (Trail.brief (d.run plainLibrary plainJob 40).1).confirming &&
        (Trail.brief (d.run plainLibrary plainJob 40).1).issued.isSome) = true :=
    ⟨plainDeployment none [plainReply 2 [9], plainReply 3 [9, 9]], by decide +kernel, by decide +kernel⟩
  have path := d.run_outcome plainLibrary plainJob 40 ended
  rw [← erase_sign] at path
  obtain ⟨t, path, same⟩ := Path.annotated path
  obtain ⟨_, t₀, _, started, _, _, reported⟩ := sign_reports_outcome path
  rw [same] at reported
  simp only [Bool.and_eq_true, List.isEmpty_iff] at brief
  refine ⟨t, started, path, ?_⟩
  rw [reported, Brief.reports, brief.1.1, Brief.direct, if_pos brief.2, Brief.confirmation, if_pos brief.1.2]
  rfl

end CmpIssuer
