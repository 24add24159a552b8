import CmpIssuer.Controller.Metrics
import CmpIssuer.Effect.Report

/-!
`Sign` with its reports: the metrics, the log line of a failure and the Event of
a renewal fallback, each where the source makes it. The other log lines are left
out. Without the reports this is `Sign` as it is modelled before.
-/
namespace CmpIssuer
open Effect

abbrev Reporting (α : Type) := Program (interface.noting Report) (Fault GoError) α

/-- What the deferred function of `Sign` reports. A panic leaves its error nil, so there is nothing to
report then. -/
def deferredReport (labels : Labels) (started : Time) : Fault GoError → List Report
  | .error err => logEnrollmentFailure err ++ recordFailedEnrollment labels err started
  | .panic _ => []

/-- A part of `Sign` under its deferred function, with `enrollmentStarted` as it is there. -/
def deferring {α : Type} (labels : Labels) (started : Time) (part : Reporting α) : Reporting α :=
  part.onFailure (deferredReport labels started)

def recordIssuedEnrollment (labels : Labels) (confirmation : String) (started : Time) : Reporting Unit := do
  Program.note (.outcome labels resultIssued started)
  Program.note (.confirmation labels confirmation)

/-- The Event that `reportRenewalFallback` makes for the reason of a fallback. -/
def reportRenewalFallback (operation : Operation) (reason : Setting FallbackReason) : Reporting Unit :=
  match reason with
  | .value reason => Program.note (.renewalFallback operation reason)
  | _ => .pure ()

/-- The reports of an enrollment that has started at some time. -/
def enrollmentReporter (labels : Labels) (started : Time) : Reporter (interface.noting Report) where
  run := Program.lift
  polled rest := Program.note (.poll labels) >>= fun _ => rest
  issued confirmation rest := recordIssuedEnrollment labels confirmation started >>= fun _ => rest
  fallback operation reason rest := reportRenewalFallback operation reason >>= fun _ => rest
  deferring := deferring labels started

/-- `Sign` with its reports. -/
def Reported.sign (lib : Library) (clusterResourceNamespace : String) (request : CertificateRequestObject)
    (issuer : Issuer) : Reporting Bytes := do
  let started ← Program.lift now
  signStarted lib clusterResourceNamespace (enrollmentReporter (enrollmentMetricLabels lib issuer request))
    request issuer started

section
variable (lib : Library) (labels : Labels) (started : Time)

theorem erase_deferring {α : Type} (part : Reporting α) :
    (deferring labels started part).erase = part.erase := Program.erase_onFailure _ _

theorem erase_deferring_lift_bind {labels started} {α β : Type} {part : Go GoError α} {f : α → Reporting β}
    {g : α → Go GoError β} (rest : ∀ a, (f a).erase = g a) :
    (deferring labels started part.lift >>= f).erase = part >>= g := by
  rw [Program.erase_bind, erase_deferring, Program.erase_lift, funext rest]

theorem erase_continuePolling {α : Type} (transaction : CMPTransaction) (pending : PendingTransaction)
    (limits : TransactionSpec) (polled : Bool) :
    (Reported.continuePolling lib (enrollmentReporter labels started) transaction pending limits polled :
      Reporting α).erase = continuePolling lib transaction pending limits polled :=
  Program.erase_lift_bind fun _ => Program.erase_lift_bind fun _ => Program.erase_lift _

theorem erase_continueConfirming {α : Type} (transaction : CMPTransaction) (chain : List Certificate)
    (pending : PendingTransaction) (limits : TransactionSpec) (polled : Bool) :
    (Reported.continueConfirming lib (enrollmentReporter labels started) transaction chain pending limits
      polled : Reporting α).erase = continueConfirming lib transaction chain pending limits polled :=
  Program.erase_lift_bind fun _ => Program.erase_lift_bind fun _ => Program.erase_lift _

theorem erase_confirm (transaction : CMPTransaction) (enrollment : EnrollmentRequest)
    (limits : TransactionSpec) (chain : List Certificate) (pending : PendingTransaction) :
    (Reported.confirm lib (enrollmentReporter labels started) transaction enrollment limits chain
      pending).erase = confirm lib transaction enrollment limits chain pending := by
  refine Program.erase_lift_bind fun t => ?_
  split
  · exact Program.erase_lift _
  · split
    · exact Program.erase_lift _
    · cases chain with
      | nil => rfl
      | cons leaf rest =>
          refine Program.erase_lift_bind fun tried => ?_
          cases tried with
          | error err => exact Program.erase_lift _
          | ok result =>
              dsimp only
              cases result.pendingConfirmation with
              | some next => exact erase_continueConfirming ..
              | none => exact Program.erase_lift_bind fun _ => rfl

theorem erase_resumeConfirmation (transaction : CMPTransaction) (enrollment : EnrollmentRequest)
    (limits : TransactionSpec) (csrDER : Bytes) :
    (Reported.resumeConfirmation lib (enrollmentReporter labels started) transaction enrollment limits
      csrDER).erase = resumeConfirmation lib transaction enrollment limits csrDER := by
  unfold resumeConfirmation Reported.resumeConfirmation
  cases recordedChain lib transaction csrDER with
  | error err => exact Program.erase_lift _
  | ok chain =>
      refine Program.erase_lift_bind fun t => ?_
      cases trustedRecordedChain lib t chain enrollment.cmpTrust
        (enrollment.cmpTrustCertificates ++ enrollment.cmpResponseCertificates) with
      | error err => exact Program.erase_lift _
      | ok chain =>
          cases transaction.status.certReqID with
          | none => exact Program.erase_lift _
          | some certReqID => exact Program.erase_lift_bind fun _ => erase_confirm ..

theorem erase_continueTransaction (request : CertificateRequestObject) (operation : Operation)
    (requestDER : Bytes) (started' : Time) (prepared : Prepared) (transaction : CMPTransaction) :
    (Reported.continueTransaction lib (enrollmentReporter labels started) request operation requestDER
      started' prepared transaction).erase =
      continueTransaction lib request operation requestDER started' prepared transaction := by
  unfold continueTransaction Reported.continueTransaction
  dsimp only
  split
  · exact erase_resumeConfirmation ..
  · refine Program.erase_lift_bind fun tried => ?_
    cases tried with
    | error err => exact Program.erase_lift _
    | ok result =>
        dsimp only
        cases result.pending with
        | some pending => exact erase_continuePolling ..
        | none =>
            cases result.pendingConfirmation with
            | some pending => exact Program.erase_lift_bind fun _ => erase_confirm ..
            | none => exact Program.erase_lift_bind fun _ => rfl

variable (clusterResourceNamespace : String) (request : CertificateRequestObject) (issuer : Issuer)
  (requestDER : Bytes) (selected : Operation)

theorem erase_signNew :
    (Reported.signNew lib clusterResourceNamespace (enrollmentReporter labels started) request issuer started
      requestDER selected).erase =
      signNew lib clusterResourceNamespace request issuer started requestDER selected := by
  refine Program.erase_lift_bind fun configuration => Program.erase_lift_bind ?_
  rintro ⟨operation, reason⟩
  refine Program.erase_lift_bind fun prepared => Program.erase_lift_bind fun t =>
    Program.erase_lift_bind fun transaction => ?_
  cases reason <;> exact erase_continueTransaction ..

theorem erase_signResumed (transaction : CMPTransaction) :
    (Reported.signResumed lib clusterResourceNamespace (enrollmentReporter labels) request issuer started
      requestDER selected transaction).erase =
      signResumed lib clusterResourceNamespace request issuer started requestDER selected transaction := by
  unfold signResumed Reported.signResumed
  dsimp only
  cases validateResumedTransaction transaction (csrDigestHex lib requestDER) selected
    (renewalFallbackOperation issuer) (issuerReference issuer) with
  | error err => exact (erase_deferring ..).trans (Program.erase_lift _)
  | ok =>
      refine (erase_deferring ..).trans ?_
      split
      · exact Program.erase_lift _
      · cases transaction.spec.issuerRef with
        | none => rfl
        | some recorded =>
            dsimp only
            split
            · exact Program.erase_lift _
            · refine Program.erase_lift_bind fun configuration =>
                Program.erase_lift_bind fun prepared => ?_
              split
              · exact Program.erase_lift _
              · exact erase_continueTransaction ..

theorem erase_signStarted :
    (Reported.signStarted lib clusterResourceNamespace (enrollmentReporter labels) request issuer started).erase =
      Reported.signStarted lib clusterResourceNamespace (fun _ => quiet) request issuer started := by
  refine erase_deferring_lift_bind fun requestDER => erase_deferring_lift_bind fun selected =>
    erase_deferring_lift_bind fun loaded => ?_
  cases loaded with
  | none => exact (erase_deferring ..).trans (erase_signNew ..)
  | some transaction => exact erase_signResumed ..

end

/-- The reports change nothing of what `Sign` asks, writes, sends and returns. -/
theorem erase_sign (lib : Library) (clusterResourceNamespace : String) (request : CertificateRequestObject)
    (issuer : Issuer) :
    (Reported.sign lib clusterResourceNamespace request issuer).erase =
      sign lib clusterResourceNamespace request issuer :=
  Program.erase_lift_bind fun _ => erase_signStarted ..

end CmpIssuer
