import CmpIssuer.Effect.Outcome
import CmpIssuer.Session.Invariant

/-!
The policy of an issuer in the requests that are made for it. What an issuer
spec says about confirmation, granted modifications, response protection and
limits reaches the client in every request, because nothing between the loaded
configuration and the client changes it.
-/
namespace CmpIssuer
open Effect

/-- The request asks for and accepts what the issuer spec says. -/
structure Obeys (lib : Library) (spec : CMPIssuerSpec) (enrollment : EnrollmentRequest) : Prop where
  timeout : enrollment.timeout = spec.endpoint.timeout
  maxResponseSize : enrollment.maxResponseSize = spec.endpoint.maxResponseSize
  recipient : parseDistinguishedName lib spec.protocol.recipient = .ok enrollment.recipient
  implicitConfirm : enrollment.implicitConfirm = (spec.protocol.confirmation == .value .implicit)
  rejectGrantedMods : enrollment.rejectGrantedMods = (spec.grantedModifications != .value .accept)
  allowSignedMACResponse : enrollment.allowSignedMACResponse =
    !(spec.protocol.validationProfile == .value .rfc9483 ||
      spec.protocol.macResponseProtection == .value .strict)
  requireMACIterationFloor : enrollment.requireMACIterationFloor =
    (spec.protocol.validationProfile == .value .rfc9483 ||
      spec.protocol.macResponseProtection == .value .strict)
  requireKUPCAPubsAbsent : enrollment.requireKUPCAPubsAbsent =
    (spec.protocol.validationProfile == .value .rfc9483 ||
      spec.protocol.kurResponseCAPubs == .value .requireAbsent)

section
variable {lib : Library} {spec : CMPIssuerSpec} {enrollment : EnrollmentRequest} {ε α β : Type}

theorem ends_after {V : β → Prop} {p : Go ε α} {f : α → Go ε β}
    (rest : ∀ a, Ends V (fun _ => True) (f a)) : Ends V (fun _ => True) (p >>= f) := by
  have first : Ends (fun _ => True) (fun _ => True) p :=
    (follows_grows [] p).ends (by rintro _ (_ | _) _ <;> trivial)
  exact first.bind fun a _ => rest a

theorem ends_outcome {V : β → Prop} {r : Except ε α} {f : α → Go ε β}
    (rest : ∀ a, r = .ok a → Ends V (fun _ => True) (f a)) :
    Ends V (fun _ => True) ((ofExcept r : Go ε α) >>= f) := by
  cases r with
  | error => trivial
  | ok a => exact rest a rfl

theorem loadRuntimeConfiguration_obeys (clusterResourceNamespace : String) (issuer : Issuer) :
    Ends (fun configuration => Obeys lib issuer.spec configuration.enrollmentRequest) (fun _ => True)
      (loadRuntimeConfiguration lib clusterResourceNamespace issuer) := by
  unfold loadRuntimeConfiguration
  refine ends_outcome ?_
  rintro ⟨spec, namespace_⟩ resolved
  rw [mapError_eq_ok] at resolved
  obtain rfl := issuerSpecAndNamespace_ok resolved
  refine ends_after fun endpoint => ends_after fun anchors => ends_after fun signers => ?_
  refine ends_after fun renewal => ends_after fun roots => ends_after fun protection => ?_
  refine ends_outcome fun recipient parsed => ends_after fun sender => ends_after fun digest => ?_
  refine ends_after fun configurationDigest => ?_
  exact ⟨rfl, rfl, mapError_eq_ok.mp parsed, rfl, rfl, rfl, rfl, rfl⟩

theorem prepareEnrollment_obeys {request : CertificateRequestObject} {issuer : Issuer} {operation : Operation}
    {reason : Setting FallbackReason} {requestDER : Bytes} {configuration : RuntimeConfiguration}
    (obeys : Obeys lib spec configuration.enrollmentRequest) :
    Ends (fun prepared => Obeys lib spec prepared.enrollment) (fun _ => True)
      (prepareEnrollment lib request issuer operation reason requestDER configuration) := by
  unfold prepareEnrollment prepareWorkloadKeyEnrollment
  dsimp only
  split
  · refine ends_after fun material => ends_after fun digest => ?_
    split <;> exact ends_after fun _ => ⟨obeys.1, obeys.2, obeys.3, obeys.4, obeys.5, obeys.6, obeys.7, obeys.8⟩
  · exact ⟨obeys.1, obeys.2, obeys.3, obeys.4, obeys.5, obeys.6, obeys.7, obeys.8⟩

theorem Hands.obeys {job : Job} {trail : Trail} {hold : Hold} {call : ClientCall}
    (hands : Hands lib job trail hold call) : Obeys lib job.issuer.spec call.enrollment := by
  obtain ⟨_, reads, _, work, _, configuration, prepared, _, _, loading, preparing, _, same⟩ :=
    hands.enrolls.prepared
  have loaded : Obeys lib job.issuer.spec configuration.enrollmentRequest :=
    (loadRuntimeConfiguration_obeys _ _).path (r := .ok configuration) loading
  have obeys : Obeys lib job.issuer.spec prepared.enrollment :=
    (prepareEnrollment_obeys loaded).path (r := .ok prepared) preparing
  rw [same]
  exact ⟨obeys.1, obeys.2, obeys.3, obeys.4, obeys.5, obeys.6, obeys.7, obeys.8⟩

theorem Obeys.request {call : ClientCall} (obeys : Obeys lib spec call.enrollment) :
    Obeys lib spec call.request := by
  cases call <;> exact ⟨obeys.1, obeys.2, obeys.3, obeys.4, obeys.5, obeys.6, obeys.7, obeys.8⟩

end

end CmpIssuer
