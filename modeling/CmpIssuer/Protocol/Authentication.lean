import CmpIssuer.Protocol.Attributes
import CmpIssuer.Protocol.Verdict

/-!
How a response becomes authentic. `verifyResponse` makes up to four attempts,
and each of them stands for one way a response can be accepted: by the MAC of
the shared secret, by the signature of the retained signer, or by the signature
of a signer that chains to the CMP trust.
-/
namespace CmpIssuer

section
variable {lib : Library} {t : Time} {message response : PKIMessage} {request : EnrollmentRequest}
  {previousSigner : Option Certificate}

/-- X.509 verification builds a chain from the certificate to the roots, and every key in it is used as
RFC 9881 allows. -/
structure ChainsTo (lib : Library) (t : Time) (roots : Option CertPool) (certificate : Certificate) :
    Prop where
  present : roots.isSome
  built : ∃ intermediates chains chain, lib.verify t certificate roots intermediates = .ok chains ∧
    chain ∈ chains ∧ ∀ c ∈ chain, validateMLDSAKeyUsage c = .ok ()

/-- The signature of a message verifies under a certificate. -/
def SignedBy (lib : Library) (t : Time) (message : PKIMessage) (certificate : Certificate) : Prop :=
  lib.verifyMessage t message { requiredProtection := .signature, trustedCert := some certificate } = .ok ()

theorem toBool_eq_true {ε α : Type} {r : Except ε α} (h : r.toBool = true) : ∃ a, r = .ok a := by
  cases r with
  | error => cases h
  | ok a => exact ⟨a, rfl⟩

theorem verifyTrustedSignature_ok {roots : Option CertPool} {candidates : List CMPCertificate}
    {signer : Certificate} (h : verifyTrustedSignature lib t message roots candidates = .ok signer) :
    (∃ encoded ∈ candidates, lib.parseCMPCertificate encoded = .ok signer) ∧ ChainsTo lib t roots signer ∧
      SignedBy lib t message signer := by
  unfold verifyTrustedSignature at h
  split at h
  · cases h
  · rename_i present
    dsimp only at h
    split at h
    · rename_i found
      cases h
      have checked := List.find?_some found
      obtain ⟨chain, verified⟩ := toBool_eq_true (Bool.and_eq_true_iff.mp checked).1
      obtain ⟨_, signed⟩ := toBool_eq_true (Bool.and_eq_true_iff.mp checked).2
      obtain ⟨chains, built, member, usages⟩ := verifyCertificateChain_ok verified
      obtain ⟨encoded, candidate, parsed⟩ := List.mem_filterMap.mp (List.mem_of_find?_eq_some found)
      refine ⟨⟨encoded, candidate, ?_⟩, ⟨?_, _, chains, chain, built, member, usages⟩, signed⟩
      · cases known : lib.parseCMPCertificate encoded with
        | error => rw [known] at parsed; cases parsed
        | ok => rw [known] at parsed; cases parsed; rfl
      · exact Option.isSome_iff_ne_none.mpr (by simpa using present)
    · cases h

/-- A signed response is acceptable to this request. -/
def AcceptsSignature (request : EnrollmentRequest) : Prop :=
  request.protection.password = none ∨ request.allowSignedMACResponse = true

theorem acceptsSignature_iff :
    (requiredProtection request == .signature || request.allowSignedMACResponse) = true ↔
      AcceptsSignature request := by
  unfold requiredProtection AcceptsSignature
  cases request.protection.password <;> simp

/-- The ways a response is authenticated, with the signer each of them returns. -/
inductive Authenticated (lib : Library) (t : Time) (response : PKIMessage) (request : EnrollmentRequest)
    (previousSigner : Option Certificate) : Option Certificate → Prop
  | mac {password : PasswordProtection} (configured : request.protection.password = some password)
      (verified : lib.verifyMessage t response (responseVerifyOptions response request) = .ok ()) :
      Authenticated lib t response request previousSigner none
  | retained {signer : Certificate} (acceptable : AcceptsSignature request)
      (previous : previousSigner = some signer) (signed : SignedBy lib t response signer) :
      Authenticated lib t response request previousSigner (some signer)
  | chained {signer : Certificate} {encoded : CMPCertificate} (acceptable : AcceptsSignature request)
      (candidate : encoded ∈ signerCandidates response request)
      (parsed : lib.parseCMPCertificate encoded = .ok signer)
      (chains : ChainsTo lib t request.cmpTrust signer) (signed : SignedBy lib t response signer) :
      Authenticated lib t response request previousSigner (some signer)

/-- The attempts of `verifyResponse`, one case for each that can succeed. -/
theorem authenticateResponse_ok {signer : Option Certificate}
    (h : authenticateResponse lib t response request previousSigner = .ok signer) :
    Authenticated lib t response request previousSigner signer := by
  have trusted : ∀ signer, AcceptsSignature request →
      verifyTrustedSignature lib t response request.cmpTrust (signerCandidates response request) =
        .ok signer → Authenticated lib t response request previousSigner (some signer) := by
    intro signer acceptable found
    obtain ⟨⟨encoded, candidate, parsed⟩, chains, signed⟩ := verifyTrustedSignature_ok found
    exact .chained acceptable candidate parsed chains signed
  unfold authenticateResponse at h
  dsimp only at h
  split at h
  · -- The first two attempts have failed.
    split at h
    · rename_i acceptable
      split at h
      · rename_i found
        cases h
        exact trusted _ (acceptsSignature_iff.mp acceptable) found
      · cases h
    · cases h
  · split at h
    · -- The retained signer.
      split at h
      · rename_i accepted
        cases h
        obtain ⟨acceptable, verified⟩ := Bool.and_eq_true_iff.mp accepted
        obtain ⟨_, signed⟩ := toBool_eq_true verified
        exact .retained (acceptsSignature_iff.mp acceptable) rfl signed
      · cases h
    · -- The required protection.
      split at h
      · cases h
      · rename_i verified
        split at h
        · rename_i required
          cases found : verifyTrustedSignature lib t response request.cmpTrust
              (signerCandidates response request) with
          | error err =>
              rw [found] at h
              cases h
          | ok signer =>
              rw [found] at h
              cases h
              refine trusted _ (.inl ?_) found
              unfold requiredProtection at required
              split at required
              · cases required
              · rename_i absent
                simpa using absent
        · rename_i required
          cases h
          unfold requiredProtection at required
          split at required
          · rename_i present
            obtain ⟨password, configured⟩ := Option.isSome_iff_exists.mp present
            exact .mac configured verified
          · exact absurd rfl required

/-- What `verifyResponse` has checked when it succeeds. -/
structure Verified (lib : Library) (t : Time) (requestMessage response : PKIMessage)
    (request : EnrollmentRequest) (previousSigner : Option Certificate) (delayedRequestNonce : Bytes)
    (signer : Option Certificate) : Prop where
  protection : response.header.protectionAlg.isSome ∧ response.protection ≠ []
  authenticated : Authenticated lib t response request previousSigner signer
  usage : ∀ certificate, signer = some certificate → validateMLDSAKeyUsage certificate = .ok ()
  transactionID : response.header.transactionID = requestMessage.header.transactionID
  recipNonce : response.header.recipNonce = requestMessage.header.senderNonce ∨
    delayedRequestNonce ≠ [] ∧ response.header.recipNonce = delayedRequestNonce
  version : response.header.pvno = 2 ∨ response.header.pvno = requestMessage.header.pvno
  sender : senderMatchesRecipient lib response.header.sender request.recipient = true

theorem verifyResponse_ok {delayedRequestNonce : Bytes} {signer : Option Certificate}
    (h : verifyResponse lib t message response request previousSigner delayedRequestNonce = .ok signer) :
    Verified lib t message response request previousSigner delayedRequestNonce signer := by
  have recipNonce := verifyResponse_nonce h
  unfold verifyResponse at h
  split at h
  · cases h
  · rename_i unprotected
    rw [not_or] at unprotected
    split at h
    · cases h
    · rename_i found authenticated
      split at h
      · cases h
      · rename_i usage
        split at h
        · cases h
        · rename_i transactionID
          split at h
          · cases h
          · split at h
            · cases h
            · rename_i version
              split at h
              · cases h
              · rename_i sender
                cases h
                exact
                  { protection := ⟨Option.isSome_iff_ne_none.mpr (by simpa using unprotected.1),
                      unprotected.2⟩
                    authenticated := authenticateResponse_ok authenticated
                    usage := by rintro certificate rfl; exact usage
                    transactionID := not_not.mp transactionID
                    recipNonce
                    version := by
                      by_contra other
                      exact version (not_or.mp other)
                    sender := by simpa using sender }

end

end CmpIssuer
