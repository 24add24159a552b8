import CmpIssuer.Cluster.Deployment
import CmpIssuer.Protocol.Authentication
import CmpIssuer.Session.Invariant

/-!
Which responses are accepted: those that name the authority the issuer
addresses, that belong to the message just sent and that are protected by the
shared secret or by a signer. A signer chains to the CMP trust unless it is one
that was known before, which is taken as it is.
-/
namespace CmpIssuer
open Effect

/-- What the verification of a message establishes: the protection is of the required kind, a MAC was made
with the given secret and an iteration count within the given bounds, a signature with the key of the
given certificate. -/
structure VerifySemantics (lib : Library) where
  MadeWith : PKIMessage → (secret : Bytes) → (iterations : Int) → Prop
  Signed : PKIMessage → Certificate → Prop
  mac : ∀ t message options, lib.verifyMessage t message options = .ok () →
    options.requiredProtection = .mac → ∃ iterations, MadeWith message options.sharedSecret iterations ∧
      options.minMACIterationCount ≤ iterations ∧ iterations ≤ options.maxMACIterationCount
  signature : ∀ t message options certificate, lib.verifyMessage t message options = .ok () →
    options.requiredProtection = .signature → options.trustedCert = some certificate →
    Signed message certificate

/-- A response that `verifyResponse` accepts. -/
theorem verified_response {lib : Library} (semantics : VerifySemantics lib) {t : Time}
    {requestMessage response : PKIMessage} {request : EnrollmentRequest}
    {previousSigner signer : Option Certificate} {delayedRequestNonce : Bytes}
    (accepted : verifyResponse lib t requestMessage response request previousSigner delayedRequestNonce =
      .ok signer) :
    (response.header.protectionAlg.isSome ∧ response.protection ≠ []) ∧
    ((∃ password iterations, request.protection.password = some password ∧
        semantics.MadeWith response password.secret iterations ∧ iterations ≤ 1048575 ∧
        (request.requireMACIterationFloor = true → 100 ≤ iterations) ∧ signer = none) ∨
      ∃ certificate, signer = some certificate ∧
        (request.protection.password = none ∨ request.allowSignedMACResponse = true) ∧
        semantics.Signed response certificate ∧ validateMLDSAKeyUsage certificate = .ok () ∧
        (previousSigner = some certificate ∨
          (∃ encoded, (encoded ∈ response.extraCerts ∨
              encoded ∈ request.cmpTrustCertificates.map (fun c => ⟨c.raw⟩) ∨
              encoded ∈ request.cmpResponseCertificates.map fun c => ⟨c.raw⟩) ∧
            lib.parseCMPCertificate encoded = .ok certificate) ∧
          ChainsTo lib t request.cmpTrust certificate)) ∧
    response.header.transactionID = requestMessage.header.transactionID ∧
    (response.header.recipNonce = requestMessage.header.senderNonce ∨
      delayedRequestNonce ≠ [] ∧ response.header.recipNonce = delayedRequestNonce) ∧
    (response.header.pvno = 2 ∨ response.header.pvno = requestMessage.header.pvno) ∧
    senderMatchesRecipient lib response.header.sender request.recipient = true := by
  have verified := verifyResponse_ok accepted
  refine ⟨verified.protection, ?_, verified.transactionID, verified.recipNonce, verified.version,
    verified.sender⟩
  cases verified.authenticated with
  | mac configured checked =>
      obtain ⟨iterations, made, atLeast, atMost⟩ := semantics.mac _ _ _ checked (by
        simp [responseVerifyOptions, requiredProtection, configured])
      simp only [responseVerifyOptions, configured, Option.map_some, Option.getD_some] at made atLeast
      refine .inl ⟨_, iterations, configured, made, atMost, fun floor => ?_, rfl⟩
      rwa [if_pos floor] at atLeast
  | retained acceptable previous signed =>
      exact .inr ⟨_, rfl, acceptable, semantics.signature _ _ _ _ signed rfl rfl, verified.usage _ rfl,
        .inl previous⟩
  | chained acceptable candidate parsed chains signed =>
      refine .inr ⟨_, rfl, acceptable, semantics.signature _ _ _ _ signed rfl rfl, verified.usage _ rfl,
        .inr ⟨⟨_, ?_, parsed⟩, chains⟩⟩
      simpa [signerCandidates, or_assoc] using candidate

/-- A library that accepts signatures and MACs with 100 iterations. -/
def countingLibrary : Library :=
  { plainLibrary with
    verifyMessage := fun _ _ options =>
      if options.requiredProtection = .signature ∨
          (options.minMACIterationCount ≤ 100 ∧ 100 ≤ options.maxMACIterationCount) then .ok ()
      else .error "iterations" }

def countingSemantics : VerifySemantics countingLibrary where
  MadeWith _ _ iterations := iterations = 100
  Signed _ _ := True
  mac := by
    intro t message options verified required
    simp only [countingLibrary, required, reduceCtorEq, false_or] at verified
    split at verified
    · rename_i bounds
      exact ⟨100, rfl, bounds.1, bounds.2⟩
    · cases verified
  signature := fun _ _ _ _ _ _ _ => trivial

def plainRequest : EnrollmentRequest :=
  issuerEnrollmentRequest plainSpec { commonName := "CA" } none none
    { password := some ⟨[5], [6], 100, some .sha256, some .sha256⟩ } [plainCertificate [4]] [] none

/-- A response that is protected with the shared secret of the sample issuer. -/
theorem verified_response_mac : ∃ response signer,
    verifyResponse countingLibrary 10 (plainResponse [] .pkiConf) response plainRequest none [] =
      .ok signer ∧
    ∃ password iterations, plainRequest.protection.password = some password ∧
      countingSemantics.MadeWith response password.secret iterations ∧ iterations ≤ 1048575 := by
  have accepted : verifyResponse countingLibrary 10 (plainResponse [] .pkiConf) (plainResponse [8] .pkiConf)
      plainRequest none [] = .ok none := by decide +kernel
  refine ⟨_, _, accepted, ?_⟩
  rcases (verified_response countingSemantics accepted).2.1 with
    ⟨password, iterations, configured, made, bounded, _⟩ | ⟨_, ⟨⟩, _⟩
  exact ⟨password, iterations, configured, made, bounded⟩

section
variable {lib : Library} {call : ClientCall} {earlier : List Examination}

/-- A signer that is accepted chains to the trust, unless it was known before. -/
theorem ClientCall.acceptNext_signer {t : Time} {message response : PKIMessage} {answer : HTTPAnswer}
    {signer : Certificate}
    (accepted : call.acceptNext lib earlier t message answer = .ok (response, some signer)) :
    ChainsTo lib t call.request.cmpTrust signer ∨ call.knownSigner lib earlier = some signer := by
  have verified : ∃ nonce, verifyResponse lib t message response call.request
      (call.knownSigner lib earlier) nonce = .ok (some signer) := by
    cases earlier with
    | nil => exact ⟨_, acceptAnswer_verified accepted⟩
    | cons => exact ⟨_, acceptAnswer_verified accepted⟩
  obtain ⟨_, verified⟩ := verified
  cases (verifyResponse_ok verified).authenticated with
  | retained _ previous _ => exact .inr previous
  | chained _ _ _ chains _ => exact .inl chains

/-- A known signer that the call did not bring along chained to the trust when it was accepted. -/
theorem ClientCall.knownSigner_chains {signer : Certificate} (known : call.knownSigner lib earlier = some signer) :
    call.previousSigner = some signer ∨
      ∃ examined ∈ earlier, ChainsTo lib examined.instant call.request.cmpTrust signer := by
  cases earlier with
  | nil => exact .inl known
  | cons first rest =>
      unfold ClientCall.knownSigner at known
      dsimp only at known
      split at known
      · rename_i accepted
        subst known
        have accepted : call.acceptNext lib [] _ _ _ = .ok (_, some signer) := accepted
        rcases ClientCall.acceptNext_signer accepted with chains | previous
        · exact .inr ⟨first, List.mem_cons_self, chains⟩
        · exact .inl previous
      · cases known

end

/-- A library in which the messages with protection `[2]` are signed by the certificate `[66]` and by nobody
else. Three responses are signed in this way: a waiting CP, a CP with modifications and a pkiConf. -/
def signedLibrary : Library :=
  { plainLibrary with
    parsePKIMessage := fun data =>
      match data with
      | 6 :: nonce => .ok { plainResponse nonce (.cp (.ok ⟨[], [⟨-1, ⟨.waiting, [], []⟩, none⟩]⟩)) with
          protection := [2] }
      | 7 :: nonce => .ok { plainResponse nonce
            (.cp (.ok ⟨[], [⟨-1, ⟨.grantedWithMods, [], []⟩, some (some ⟨[3]⟩)⟩]⟩)) with
          protection := [2] }
      | 8 :: nonce => .ok { plainResponse nonce .pkiConf with protection := [2] }
      | data => plainLibrary.parsePKIMessage data
    verifyMessage := fun _ message options =>
      if message.protection = [2] ∧ options.trustedCert ≠ some (plainCertificate [66]) then .error "signature"
      else .ok () }

/-- A record in phase Polling to which another principal has written a signer of its own. -/
def CMPTransaction.retaining (record : CMPTransaction) (signer : Bytes) : CMPTransaction :=
  { record with status := { record.status with responseSigner := signer } }

/-- The sample deployment after a call that was left waiting, with a signer in the record. -/
def retainingDeployment (lib : Library) (replies : List HTTPAnswer) : Deployment :=
  let d := (plainDeployment none [plainReply 4 [9]]).after lib plainJob 40
  { d with
    cluster := .start (d.cluster.slot.map fun record => record.retaining [66])
    replies := replies }

theorem signedLibrary_chains {clusterResourceNamespace : String} {issuer : Issuer} {t : Trail}
    {anchors : List Certificate} (read : AnchorsRead signedLibrary clusterResourceNamespace issuer t anchors)
    (instant : Time) (raw : Bytes) : ChainsTo signedLibrary instant (some anchors) (plainCertificate raw) := by
  obtain ⟨_, _, _, _, data, _, _, parsed⟩ := read
  have single : anchors = [plainCertificate data] := by
    simp only [parseCertificates, parsePEMCertificates, signedLibrary, plainLibrary] at parsed
    split at parsed
    · cases parsed
    · rename_i known
      split at known <;> cases known
      cases parsed
      rfl
  subst single
  refine ⟨rfl, [], _, [plainCertificate raw, plainCertificate data], rfl, List.mem_singleton_self _, ?_⟩
  intro c member
  rcases List.mem_pair.mp member with rfl | rfl
  · rfl
  · rfl

/-- The library with an authority of which `[66]` is no part. -/
def forgingLibrary : Library :=
  { signedLibrary with
    verify := fun t leaf roots intermediates =>
      if leaf.raw = [66] then .error "unknown authority" else plainLibrary.verify t leaf roots intermediates }

end CmpIssuer
