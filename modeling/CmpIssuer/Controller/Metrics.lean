import CmpIssuer.Controller.Signer

/-!
The enrollment metrics: the counters the process publishes, the labels of an
enrollment and the report each outcome leads to. A duration histogram is kept
by the number of its observations.
-/
namespace CmpIssuer

def operationEnrollment : String := "enrollment"
def operationRenewal : String := "renewal"
def resultIssued : String := "issued"
def resultFailed : String := "failed"
def issuerKindNamespaced : String := "CMPIssuer"
def issuerKindCluster : String := "CMPClusterIssuer"
def failureIssuerConfiguration : String := "issuerConfiguration"
def failureUnclassified : String := "unclassified"
def classificationUnknown : String := "Unknown"

structure Labels where
  issuerKind : String
  issuer : String
  operation : String
  deriving DecidableEq, Repr

def Labels.values (labels : Labels) : List String := [labels.issuerKind, labels.issuer, labels.operation]

def Labels.complete (labels : Labels) : Bool :=
  labels.issuerKind != "" && labels.issuer != "" && labels.operation != ""

/-- A vector of counters by their label values. -/
def Counters := List String → Nat

def Counters.inc (counters : Counters) (values : List String) : Counters :=
  Function.update counters values (counters values + 1)

/-- The collectors that are registered. -/
structure Registry where
  enrollmentTotal : Counters := fun _ => 0
  enrollmentDuration : Counters := fun _ => 0
  enrollmentFailures : Counters := fun _ => 0
  enrollmentPolls : Counters := fun _ => 0
  enrollmentConfirmations : Counters := fun _ => 0

def Registry.recordOutcome (registry : Registry) (labels : Labels) (result : String) : Registry :=
  if !labels.complete then registry
  else
    let values := labels.values ++ [result]
    { registry with
      enrollmentTotal := registry.enrollmentTotal.inc values
      enrollmentDuration := registry.enrollmentDuration.inc values }

def Registry.recordFailure (registry : Registry) (labels : Labels) (failure classification : String) :
    Registry :=
  if !labels.complete then registry
  else { registry with
    enrollmentFailures := registry.enrollmentFailures.inc (labels.values ++ [failure, classification]) }

def Registry.recordPoll (registry : Registry) (labels : Labels) : Registry :=
  if !labels.complete then registry
  else { registry with enrollmentPolls := registry.enrollmentPolls.inc labels.values }

def Registry.recordConfirmation (registry : Registry) (labels : Labels) (confirmation : String) : Registry :=
  if !labels.complete then registry
  else { registry with
    enrollmentConfirmations := registry.enrollmentConfirmations.inc (labels.values ++ [confirmation]) }

/-- `string(kind)`. -/
def ErrorKind.text : ErrorKind → String
  | .permanent => "Permanent"
  | .retryable => "Retryable"
  | .pending => "Pending"
  | .security => "Security"
  | .unknown text => text

/-- `errors.As(err, *issuersigner.PendingError)`. -/
def GoError.isPending : GoError → Bool
  | .pending _ _ => true
  | .text _ | .api _ => false
  | .wrap _ err _ | .protocol _ _ _ _ err | .permanent err | .issuer err
  | .configuration _ _ err => err.isPending

/-- `errors.As(err, **configurationError)`: whether it is permanent and its operation. -/
def GoError.asConfiguration : GoError → Option (Bool × String)
  | .configuration lasting operation _ => some (lasting, operation)
  | .text _ | .api _ => none
  | .wrap _ err _ | .protocol _ _ _ _ err | .permanent err | .pending err _
  | .issuer err => err.asConfiguration

def configurationClassification (permanent : Bool) : String :=
  if permanent then ErrorKind.permanent.text else ErrorKind.retryable.text

def failureLabels (err : GoError) : String × String :=
  match err.asProtocol with
  | some (kind, _, failure, _, _) => (failure, kind.text)
  | none =>
      match err.asConfiguration with
      | some (permanent, _) => (failureIssuerConfiguration, configurationClassification permanent)
      | none => (failureUnclassified, classificationUnknown)

/-- What `Sign` reports beside its result. -/
inductive Report where
  /-- An outcome, with the instant from which its duration counts. -/
  | outcome (labels : Labels) (result : String) (started : Time)
  | failure (labels : Labels) (failure classification : String)
  | poll (labels : Labels)
  | confirmation (labels : Labels) (confirmation : String)
  /-- The log line of a failed enrollment, with the operation, failure and classification it names. -/
  | enrollmentFailed (err : GoError) (values : Option (String × String × String))
  /-- The Warning Event of a recorded renewal fallback. -/
  | renewalFallback (operation : Operation) (reason : FallbackReason)
  deriving DecidableEq

def Registry.record (registry : Registry) : Report → Registry
  | .outcome labels result _ => registry.recordOutcome labels result
  | .failure labels failure classification => registry.recordFailure labels failure classification
  | .poll labels => registry.recordPoll labels
  | .confirmation labels confirmation => registry.recordConfirmation labels confirmation
  | .enrollmentFailed _ _ | .renewalFallback _ _ => registry

def logEnrollmentFailure (err : GoError) : List Report :=
  if err.isPending then []
  else
    match err.asProtocol with
    | some (kind, operation, failure, _, _) =>
        [.enrollmentFailed err (some (operation, failure, kind.text))]
    | none =>
        match err.asConfiguration with
        | some (permanent, operation) =>
            [.enrollmentFailed err (some (operation, "issuerConfiguration",
              configurationClassification permanent))]
        | none => [.enrollmentFailed err none]

def recordFailedEnrollment (labels : Labels) (err : GoError) (started : Time) : List Report :=
  if err.isPending then []
  else
    let (failure, classification) := failureLabels err
    [.outcome labels resultFailed started, .failure labels failure classification]

section
variable (lib : Library)

def enrollmentOperation (request : CertificateRequestObject) : String :=
  match lib.atoi (stringAt request.annotations certificateRequestRevisionAnnotationKey) with
  | some revision => if revision > 1 then operationRenewal else operationEnrollment
  | none => operationEnrollment

def enrollmentMetricLabels (issuer : Issuer) (request : CertificateRequestObject) : Labels :=
  match issuer.type with
  | .cmpClusterIssuer => ⟨issuerKindCluster, issuer.name, enrollmentOperation lib request⟩
  | _ => ⟨issuerKindNamespaced, issuer.namespace_ ++ "/" ++ issuer.name, enrollmentOperation lib request⟩

end

end CmpIssuer
