import CmpIssuer.Controller.Digest
import CmpIssuer.Guarantee.Storage
import CmpIssuer.Protocol.Authentication
import CmpIssuer.Session.Pending

/-!
What a `Sign` call leaves behind for the next one. A call that records a wait
has sent a message for its request, so the request can be sent again: it
passed its checks and its credentials protect messages. The certificates the
record keeps are certificates that were parsed before.
-/
namespace CmpIssuer
open Effect

/-- What a request needs for a message to be sent for it. -/
structure Equipped (lib : Library) (request : EnrollmentRequest) : Prop where
  valid : validateEnrollmentRequest lib request = .ok ()
  reachable : lib.newHTTPRequest request.endpointURL = .ok ()
  credentials : ∃ credentials drawn built protected_, credentialsFor lib request = .pure credentials ∧
    lib.protect credentials drawn built = .ok protected_

abbrev anything : Monitor interface Trail := recorder fun _ => True

section
variable {lib : Library} {α β : Type} {t : Trail} {request : EnrollmentRequest}

/-- A client program that returns a value has what its request needs. -/
def Equips (lib : Library) (request : EnrollmentRequest) (_ : Trail) (r : Except (Fault GoError) α) : Prop :=
  ∀ a, r = .ok a → Equipped lib request

theorem equips_outcome_bind {r : Except GoError α} {f : α → Go GoError β}
    (rest : ∀ a, r = .ok a → Follows anything (Equips lib request) t (f a)) :
    Follows anything (Equips lib request) t (ofExcept r >>= f) :=
  follows_outcome_bind rest (by rintro _ _ _ ⟨⟩)

theorem equips_credentials {operation : String} {f : Credentials → Go GoError α}
    (rest : ∀ credentials, credentialsFor lib request = .pure credentials →
      Follows anything (Equips lib request) t (f credentials)) :
    Follows anything (Equips lib request) t (configuredCredentials lib operation request >>= f) := by
  unfold configuredCredentials
  rcases credentialsFor_eq lib request with ⟨credentials, known⟩ | ⟨fault, known⟩
  · rw [known]
    exact rest credentials known
  · rw [known]
    rintro _ ⟨⟩

theorem equips_exchange {parseOperation : String} {message built : PKIMessage} {requestDER nonce : Bytes}
    {previousSigner : Option Certificate} {credentials : Credentials} {drawn : Entropy}
    {f : Accepted → Go GoError α} (valid : validateEnrollmentRequest lib request = .ok ())
    (known : credentialsFor lib request = .pure credentials)
    (sealed_ : lib.protect credentials drawn built = .ok message) :
    Follows anything (Equips lib request) t
      (exchangeMessage lib parseOperation request message requestDER previousSigner nonce >>= f) := by
  rw [follows_bind]
  unfold exchangeMessage
  refine follows_outcome_bind (fun _ reachable => ?_) (by rintro _ _ _ ⟨⟩)
  rw [mapError_eq_ok] at reachable
  have equipped : Equipped lib request := ⟨valid, reachable, credentials, drawn, built, message, known, sealed_⟩
  have kept : ∀ {γ : Type} (t : Trail) (p : Go GoError γ), Follows anything (Equips lib request) t p :=
    fun t p => (follows_grows t p).mono fun _ _ _ _ _ => equipped
  refine (kept _ _).mono ?_
  rintro u (fault | accepted) _
  · rintro _ ⟨⟩
  · exact kept u (f accepted)

/-- The outcome of a function that builds and protects a message. -/
def Protects (lib : Library) (credentials : Credentials) (_ : Trail)
    (r : Except (Fault GoError) (PKIMessage × Bytes)) : Prop :=
  ∀ out, r = .ok out → ∃ drawn built, lib.protect credentials drawn built = .ok out.1

theorem protectMessage_protects {name : String} {credentials : Credentials} {drawn : Entropy}
    {built : PKIMessage} :
    Follows anything (Protects lib credentials) t (ofExcept (protectMessage lib name credentials drawn built)) := by
  rw [follows_outcome]
  rintro ⟨message, requestDER⟩ same
  rw [mapError_eq_ok] at same
  exact ⟨drawn, built, protectMessage_ok same⟩

theorem protects_outcome_bind {credentials : Credentials} {r : Except GoError α}
    {f : α → Go GoError (PKIMessage × Bytes)}
    (rest : ∀ a, Follows anything (Protects lib credentials) t (f a)) :
    Follows anything (Protects lib credentials) t (ofExcept r >>= f) :=
  follows_outcome_bind (fun a _ => rest a) (by rintro _ _ _ ⟨⟩)

theorem equips_sealed {credentials : Credentials} {p : Go GoError (PKIMessage × Bytes)}
    {f : PKIMessage × Bytes → Go GoError α} (protects : Follows anything (Protects lib credentials) t p)
    (rest : ∀ u message requestDER drawn built, lib.protect credentials drawn built = .ok message →
      Follows anything (Equips lib request) u (f (message, requestDER))) :
    Follows anything (Equips lib request) t (p >>= f) := by
  refine protects.bind ?_ (by rintro _ _ _ _ ⟨⟩)
  rintro u ⟨message, requestDER⟩ sealed_
  obtain ⟨drawn, built, sealed_⟩ := sealed_ _ rfl
  exact rest u message requestDER drawn built sealed_

theorem enrollP10CR_equips :
    Follows anything (Equips lib { request with operation := .p10cr }) t (enrollP10CR lib request) := by
  unfold enrollP10CR
  split
  · rintro _ ⟨⟩
  · refine equips_outcome_bind fun _ valid => equips_outcome_bind fun csr _ =>
      equips_credentials fun credentials known => equips_sealed ?_ fun _ _ _ _ _ sealed_ =>
        equips_exchange valid known sealed_
    exact follows_ask_bind.mpr ⟨trivial, fun _ => protectMessage_protects⟩

theorem enrollIR_equips :
    Follows anything (Equips lib { request with operation := .ir }) t (enrollIR lib request) := by
  refine equips_outcome_bind ?_
  rintro ⟨csr, key⟩ checked
  refine equips_credentials fun credentials known => equips_sealed ?_ fun _ _ _ _ _ sealed_ =>
    equips_exchange (validateIRRequest_ok checked).1 known sealed_
  exact protects_outcome_bind fun template => follows_ask_bind.mpr ⟨trivial, fun drawn =>
    protects_outcome_bind fun _ => protectMessage_protects⟩

theorem enrollKUR_equips :
    Follows anything (Equips lib { request with operation := .kur }) t (enrollKUR lib request) := by
  have checks : Follows anything (fun _ r => ∀ out, r = .ok out →
      validateEnrollmentRequest lib { request with operation := .kur } = .ok ()) t
      (validateKURRequest lib { request with operation := .kur }) := by
    refine follows_outcome_bind (fun _ valid => ?_) (by rintro _ _ _ ⟨⟩)
    exact (follows_grows t _).mono fun _ _ _ _ _ => valid
  refine checks.bind ?_ (by rintro _ _ _ _ ⟨⟩)
  rintro u ⟨csr, signature, key⟩ valid
  refine equips_credentials fun credentials known => equips_sealed ?_ fun _ _ _ _ _ sealed_ =>
    equips_exchange (valid _ rfl) known sealed_
  exact protects_outcome_bind fun template => protects_outcome_bind fun _ => follows_ask_bind.mpr ⟨trivial,
    fun drawn => protects_outcome_bind fun _ => protectMessage_protects⟩

theorem pollP10CR_equips {poll : PollRequest} :
    Follows anything (Equips lib poll.enrollment) t (pollP10CR lib poll) := by
  refine equips_outcome_bind fun _ valid => ?_
  split
  · rintro _ ⟨⟩
  · refine equips_outcome_bind fun csr _ => equips_credentials fun credentials known => ?_
    refine follows_ask_bind.mpr ⟨trivial, fun drawn => equips_outcome_bind ?_⟩
    rintro ⟨message, requestDER⟩ sealed_
    exact equips_exchange valid known (protectMessage_ok sealed_)

theorem confirmP10CR_equips {confirm : ConfirmRequest} :
    Follows anything (Equips lib confirm.enrollment) t (confirmP10CR lib confirm) := by
  refine equips_outcome_bind fun _ valid => ?_
  split
  · rintro _ ⟨⟩
  · split
    · rintro _ ⟨⟩
    · refine equips_outcome_bind fun _ _ => equips_credentials fun credentials known => ?_
      refine (follows_grows t _).bind ?_ (by rintro _ _ _ _ ⟨⟩)
      rintro u ⟨built, drawn, operation⟩ _
      rw [follows_bind]
      refine follows_outcome_bind ?_ (by rintro _ _ _ ⟨⟩)
      rintro ⟨message, requestDER⟩ sealed_
      exact follows_bind.mp (equips_exchange valid known (protectMessage_ok sealed_))

/-- Every request that the client returned a result for has what it needs. -/
theorem serve_equips {call : ClientCall} : Follows anything (Equips lib call.request) t (serve lib call) := by
  cases call with
  | enrollP10CR => exact enrollP10CR_equips
  | enrollIR => exact enrollIR_equips
  | enrollKUR => exact enrollKUR_equips
  | pollP10CR => exact pollP10CR_equips
  | confirmP10CR => exact confirmP10CR_equips

/-- An outcome of the client after which the transaction goes on. -/
def Lasts : Except GoError EnrollmentResult → Prop
  | .ok _ => True
  | .error err => ∀ cause, mapProtocolError err ≠ .permanent cause

/-- A confirmation that does not end its transaction got as far as the hash of its certificate. -/
theorem confirmP10CR_hashes {confirm : ConfirmRequest} (equipped : Equipped lib confirm.enrollment)
    {r : Except GoError EnrollmentResult} (path : Path (confirmP10CR lib confirm) t (ofExcept r))
    (lasts : Lasts r) : ∃ leaf status, confirm.certificate = some leaf ∧
      lib.newCertStatus leaf confirm.certReqID = .ok status := by
  have permanent_ends : ∀ {operation failure : String} {err : GoError},
      Path (fail (permanent operation failure err) : Go GoError EnrollmentResult) t (ofExcept r) → False := by
    intro operation failure err ended
    cases r with
    | ok => cases ended
    | error => cases ended; exact lasts _ rfl
  obtain ⟨credentials, _, _, _, known, _⟩ := equipped.credentials
  unfold confirmP10CR at path
  dsimp only at path
  rw [equipped.valid] at path
  cases present : confirm.certificate with
  | none =>
      rw [present] at path
      exact (permanent_ends path).elim
  | some certificate =>
      rw [present] at path
      dsimp only at path
      split at path
      · exact (permanent_ends path).elim
      · cases usage : validateMLDSAKeyUsage certificate with
        | error err =>
            rw [usage] at path
            exact (permanent_ends path).elim
        | ok =>
            cases hashed : lib.newCertStatus certificate confirm.certReqID with
            | ok status => exact ⟨certificate, status, rfl, hashed⟩
            | error err =>
                have unhashed : confirmationMessage lib confirm.enrollment confirm none =
                    fail (permanent "compute certificate hash" "badAlg" (.text err)) := by
                  unfold confirmationMessage
                  rw [present]
                  dsimp only
                  rw [hashed]
                  rfl
                unfold configuredCredentials at path
                rw [usage, known, unhashed] at path
                exact (permanent_ends path).elim

end

/-- X.509 parsing keeps the encoding it is given, and a certificate of a CMP message is the certificate that its
encoding parses to. -/
structure ParsingLaws (lib : Library) : Prop where
  keeps : KeepsEncoding lib
  reparses : ∀ encoded certificate, lib.parseCMPCertificate encoded = .ok certificate →
    lib.parseCertificate certificate.raw = .ok certificate

/-- A certificate that is found again in its encoding. -/
def ReadsBack (lib : Library) (certificate : Certificate) : Prop :=
  lib.parseCertificate certificate.raw = .ok certificate

section
variable {lib : Library}

theorem ParsingLaws.readsBack (laws : ParsingLaws lib) {encoded : Bytes} {certificate : Certificate}
    (parsed : lib.parseCertificate encoded = .ok certificate) : ReadsBack lib certificate := by
  rw [ReadsBack, laws.keeps _ _ parsed]
  exact parsed

theorem extractCertResponse_parsed {response : PKIMessage} {request : EnrollmentRequest} {bodyName : String}
    {caPubs : List CMPCertificate} {certificateResponse : CertResponse} {issued : IssuedCertificate}
    {certificate : Certificate}
    (h : extractCertResponse lib response request bodyName caPubs certificateResponse = .ok issued)
    (present : issued.certificate = some certificate) :
    ∃ encoded, lib.parseCMPCertificate encoded = .ok certificate := by
  unfold extractCertResponse at h
  split at h
  · cases h
    cases present
  · split at h
    · cases h
    · split at h
      · rename_i encoded _
        split at h
        · cases h
        · rename_i parsed
          split at h
          · cases h
          · split at h
            · cases h
            · cases h
              cases present
              exact ⟨encoded, parsed⟩
      · cases h

theorem extractEnrollmentResponse_parsed {response : PKIMessage} {request : EnrollmentRequest}
    {issued : IssuedCertificate} {certificate : Certificate}
    (h : extractEnrollmentResponse lib response request = .ok issued)
    (present : issued.certificate = some certificate) :
    ∃ encoded, lib.parseCMPCertificate encoded = .ok certificate := by
  unfold extractEnrollmentResponse at h
  split at h
  · split at h
    · cases h
    · split at h
      · cases h
      · cases h
        cases present
  · dsimp only at h
    generalize (if request.operation = .unset then Operation.p10cr else request.operation) = operation at h
    split at h
    · cases h
    · split at h
      · cases h
      · split at h
        · split at h
          · cases h
          · exact extractCertResponse_parsed h present
        · cases h

/-- The leaf of the chain of a response is the certificate it brings. -/
theorem chainIn_leaf {t : Time} {request : EnrollmentRequest} {response : PKIMessage} {leaf : Certificate}
    {rest : List Certificate} (h : chainIn lib t request response = leaf :: rest) :
    ∃ encoded, lib.parseCMPCertificate encoded = .ok leaf := by
  unfold chainIn issuedIn at h
  split at h
  · cases h
  · rename_i issued found
    split at h
    · cases h
    · rename_i certificate present
      split at found
      · rename_i other extracted
        split at found
        · cases found
        obtain rfl : issued = other := (Option.some.inj found).symm
        cases ordered : validateAndOrderChain lib t certificate
            (issued.candidates ++ request.cmpResponseCertificates) request.cmpTrust with
        | error err =>
            rw [ordered] at h
            cases h
        | ok chain =>
            rw [ordered] at h
            obtain rfl : chain = leaf :: rest := h
            cases (validateAndOrderChain_ok ordered).1
            exact extractEnrollmentResponse_parsed extracted present
      · cases found

variable {exchange : Exchange} {response : PKIMessage} {signer : Option Certificate} {result : EnrollmentResult}

theorem Understood.leaf (laws : ParsingLaws lib)
    (understood : Understood lib exchange response signer (.ok (.result result)))
    (obtains : exchange.call.confirms = false) (issued : result.pending = none) :
    ∃ leaf rest, result.chain = leaf :: rest ∧ ReadsBack lib leaf := by
  obtain ⟨csr, _, built, _, _, _, _, judged⟩ := understood.judged
  have stored := understood.chain obtains issued
  rcases verdict_parts obtains judged with ⟨_, _, rfl, _⟩ | ⟨_, _, _, same, rfl⟩
  · cases issued
  · have chain : ∀ implicit found chain, (finishIssued response signer found implicit chain).chain = chain := by
      intro implicit found chain
      unfold finishIssued
      split <;> rfl
    rw [chain] at stored ⊢
    subst same
    cases found : chainIn lib exchange.instant exchange.call.request response with
    | nil =>
        rw [found] at stored
        exact absurd rfl stored
    | cons leaf rest =>
        obtain ⟨encoded, parsed⟩ := chainIn_leaf found
        exact ⟨leaf, rest, rfl, laws.reparses encoded leaf parsed⟩

/-- The signer of an accepted answer was parsed from the answer, or it is the one at hand. -/
theorem Understood.signer_readsBack (laws : ParsingLaws lib) {verdict : Except String Finished}
    (understood : Understood lib exchange response signer verdict)
    (previous : ∀ certificate, exchange.call.previousSigner = some certificate → ReadsBack lib certificate) :
    ∀ certificate, signer = some certificate → ReadsBack lib certificate := by
  rintro certificate rfl
  cases (verifyResponse_ok (ClientCall.accept_verified understood.accepted)).authenticated with
  | retained _ same _ => exact previous certificate same
  | chained _ _ parsed _ _ => exact laws.reparses _ _ parsed

theorem Understood.retains (laws : ParsingLaws lib)
    (understood : Understood lib exchange response signer (.ok (.result result)))
    (obtains : exchange.call.confirms = false)
    (previous : ∀ certificate, exchange.call.previousSigner = some certificate → ReadsBack lib certificate)
    {pending : PendingTransaction}
    (waits : result.pending = some pending ∨ result.pendingConfirmation = some pending) :
    ∀ certificate, pending.responseSigner = some certificate → ReadsBack lib certificate := by
  obtain ⟨csr, _, built, _, _, _, _, judged⟩ := understood.judged
  have same : pending.responseSigner = signer := by
    rcases ClientCall.verdict_result obtains judged with ⟨_, rfl, _, _, same⟩ | ⟨none, unconfirmed, _⟩
    · rcases waits with waits | waits <;> cases waits
      exact same
    · rcases waits with waits | waits
      · rw [none] at waits
        cases waits
      · exact (unconfirmed _ waits).2.2
  rw [same]
  exact understood.signer_readsBack laws previous

/-- A delayed confirmation keeps the signer it was made with, and the certificate it is for. -/
theorem Understood.delayed {confirm : ConfirmRequest} {pending : PendingTransaction}
    (understood : Understood lib exchange response signer (.ok (.result result)))
    (confirms : exchange.call = .confirmP10CR confirm) (waits : result.pendingConfirmation = some pending) :
    pending.responseSigner = confirm.responseSigner ∧ pending.certReqID = confirm.certReqID := by
  obtain ⟨csr, _, built, _, _, _, _, judged⟩ := understood.judged
  rw [confirms] at judged
  have finished := Finished.ofExcept_eq_result.mp (Except.ok.inj judged)
  unfold finishConfirmation at finished
  split at finished
  · cases finished
    cases waits
  · split at finished <;> cases finished
    cases waits
    exact ⟨rfl, rfl⟩

end

section
variable {lib : Library} {request : EnrollmentRequest}

/-- What a request needs does not depend on which of the known operations it performs. -/
theorem Equipped.of_operation {operation : Operation} (h : Equipped lib { request with operation })
    (known : request.operation ∈ [Operation.p10cr, .ir, .kur]) : Equipped lib request := by
  refine ⟨?_, h.reachable, h.credentials⟩
  have valid := h.valid
  have supported : ¬ (request.operation ≠ .unset ∧ request.operation ≠ .p10cr ∧ request.operation ≠ .ir ∧
      request.operation ≠ .kur) := by
    simp only [List.mem_cons, List.not_mem_nil, or_false] at known
    tauto
  unfold validateEnrollmentRequest at valid ⊢
  rw [if_neg supported]
  split at valid
  · cases valid
  · exact valid

theorem Equipped.of_call {call : ClientCall} (h : Equipped lib call.request)
    (known : call.enrollment.operation ∈ [Operation.p10cr, .ir, .kur]) : Equipped lib call.enrollment := by
  cases call with
  | enrollP10CR | enrollIR | enrollKUR => exact h.of_operation known
  | pollP10CR | confirmP10CR => exact h

theorem Suits.known {job : Job} {csrDER : Bytes} {record : CMPTransaction} (suits : Suits lib job csrDER record) :
    record.spec.operation ∈ [Operation.p10cr, .ir, .kur] := by
  obtain ⟨selected, selection, ⟨_, same⟩ | ⟨_, _, _, allowed, same⟩⟩ := suits.operation
  · exact same ▸ selectedTransactionOperation_mem selection
  · exact same ▸ renewalFallbackOperation_mem allowed

end

/-- What a record can keep as its response signer: nothing, or a certificate. -/
def Retained (lib : Library) (encoded : Bytes) : Prop :=
  encoded = [] ∨ ∃ certificate, lib.parseCertificate encoded = .ok certificate

section
variable {lib : Library} {record : CMPTransaction}

theorem retainedSigner_iff :
    (∃ signer, retainedSigner lib record = .ok signer) ↔ Retained lib record.status.responseSigner := by
  unfold retainedSigner Retained
  split
  · rename_i empty
    exact iff_of_true ⟨none, rfl⟩ (.inl empty)
  · rename_i present
    cases lib.parseCertificate record.status.responseSigner with
    | error err => simp [present]
    | ok certificate => exact iff_of_true ⟨some certificate, rfl⟩ (.inr ⟨certificate, rfl⟩)

theorem retainedSigner_readsBack (laws : ParsingLaws lib) {signer : Option Certificate}
    (h : retainedSigner lib record = .ok signer) :
    ∀ certificate, signer = some certificate → ReadsBack lib certificate := by
  rintro certificate rfl
  unfold retainedSigner at h
  split at h
  · cases h
  · split at h
    · cases h
    · rename_i parsed
      cases h
      exact laws.readsBack parsed

theorem Retained.update {status : CMPTransactionStatus} {signer : Option Certificate}
    (before : Retained lib status.responseSigner)
    (known : ∀ certificate, signer = some certificate → ReadsBack lib certificate) :
    Retained lib (status.retainedSigner signer) := by
  cases signer with
  | none => exact before
  | some certificate => exact .inr ⟨certificate, known certificate rfl⟩

end

/-- A record of an unfinished transaction that the same request can be continued with. -/
structure Resumable (lib : Library) (request : EnrollmentRequest) (record : CMPTransaction) : Prop where
  equipped : Equipped lib request
  signer : Retained lib record.status.responseSigner
  identified : record.status.certReqID.isSome
  parsed : record.status.phase = .polling → ∃ csr, lib.parseCertificateRequest request.csrDER = .ok csr
  confirmable : record.status.phase = .confirming → ∃ leaf certReqID status,
    record.status.issuedChain.head? = some leaf.raw ∧ ReadsBack lib leaf ∧
    record.status.certReqID = some certReqID ∧ lib.newCertStatus leaf certReqID = .ok status

section
variable {lib : Library} {t : Trail} {enrollment : EnrollmentRequest} {record written : CMPTransaction}
  {limits : TransactionSpec} {next : Except ApiError String → Go GoError Bytes}

theorem path_ask_end {ε α : Type} (o : Op) {f : o.Answer → Go ε α} {r : Except (Fault ε) α}
    (path : Path (ask o >>= f) t (.ofExcept r)) :
    ∃ answer u, t = ⟨o, answer⟩ :: u ∧ Path (f answer) u (.ofExcept r) := by
  change Path (Program.op o fun answer => f answer) t _ at path
  generalize ended : (Program.ofExcept r : Go ε α) = q at path
  cases path with
  | refl => cases r <;> cases ended
  | step answer rest => exact ⟨answer, _, rfl, ended ▸ rest⟩

theorem protocolClient_pure {call : ClientCall} {result : EnrollmentResult}
    (path : Path (protocolClient lib call) t (.pure result)) : ∃ u, Path (serve lib call) u (.pure result) := by
  obtain ⟨_, u, rfl, serving⟩ := path_ask_pure (.call call) path
  exact ⟨u, serving⟩

theorem exchange_serves {result : EnrollmentResult}
    (path : Path (exchange lib enrollment record limits) t (.pure result)) :
    ∃ call u, call.confirms = false ∧ call.enrollment = enrollment ∧ Path (serve lib call) u (.pure result) ∧
      (record.status.phase ≠ .polling ∧ call.previousSigner = none ∨
        retainedSigner lib record = .ok call.previousSigner) := by
  obtain ⟨instant, u, rfl, checking⟩ := path_ask_pure .now path
  split at checking
  · cases checking
  · split at checking
    · rename_i other
      split at checking <;> obtain ⟨v, serving⟩ := protocolClient_pure checking <;>
        exact ⟨_, v, rfl, rfl, serving, .inl ⟨other, rfl⟩⟩
    · split at checking
      · split at checking
        · cases checking
        · cases signer : retainedSigner lib record with
          | error err =>
              rw [signer] at checking
              cases checking
          | ok previous =>
              rw [signer] at checking
              obtain ⟨v, serving⟩ := protocolClient_pure checking
              exact ⟨_, v, rfl, rfl, serving, .inr rfl⟩
      · cases checking

/-- A status write on the way to a status write: it is the one, or the record was written before. -/
theorem writeStatus_op {failure : String} {status : Time → CMPTransactionStatus}
    {rest : CMPTransaction → Go GoError Bytes}
    (path : Path ((now >>= fun t => writeStatus failure record (status t)) >>= rest) t
      (.op (.updateTransactionStatus written) next)) :
    (∃ instant, written = { record with status := status instant } ∧
      ∀ version, next (.ok version) = rest (written.updated version)) ∨
    ∃ instant version u, Path (rest (({ record with status := status instant } : CMPTransaction).updated version)) u
      (.op (.updateTransactionStatus written) next) := by
  obtain ⟨instant, u, rfl, writing⟩ := path_ask_op .now path (by rintro ⟨⟩)
  change Path (Program.op (S := interface) (Op.updateTransactionStatus _) _) u _ at writing
  cases writing with
  | refl => exact .inl ⟨instant, rfl, fun _ => rfl⟩
  | step answer after =>
      cases answer with
      | error => cases after
      | ok version => exact .inr ⟨instant, version, _, after⟩

/-- The request that confirms the leaf of a chain. -/
abbrev PendingTransaction.confirmation (pending : PendingTransaction) (enrollment : EnrollmentRequest)
    (leaf : Certificate) : ConfirmRequest :=
  { enrollment
    certificate := some leaf
    certReqID := pending.certReqID
    recipNonce := pending.recipNonce
    responseSigner := pending.responseSigner
    requestNonce := pending.requestNonce }

theorem failTransaction_unwriting {err : GoError}
    (path : Path (failTransaction record err) t (.op (.updateTransactionStatus written) next)) : False := by
  obtain ⟨_, _, _, ⟨⟩⟩ := failTransaction_op path

theorem protocolClient_unwriting {call : ClientCall} {next : Except ApiError String → Go GoError EnrollmentResult}
    (path : Path (protocolClient lib call) t (.op (.updateTransactionStatus written) next)) : False := by
  change Path (Program.op (S := interface) (Op.call call) fun _ => serve lib call) t _ at path
  cases path with
  | step answer rest =>
      have client : Op.client (.updateTransactionStatus written) = true := (serve_speaks lib call).allows rest
      cases client

theorem exchange_unwriting {next : Except ApiError String → Go GoError EnrollmentResult}
    (path : Path (exchange lib enrollment record limits) t (.op (.updateTransactionStatus written) next)) :
    False := by
  obtain ⟨instant, u, rfl, checking⟩ := path_ask_op .now path (by rintro ⟨⟩)
  split at checking
  · cases checking
  · split at checking
    · split at checking <;> exact protocolClient_unwriting checking
    · split at checking
      · split at checking
        · cases checking
        · obtain ⟨signer, _, polling⟩ := path_outcome_op checking
          exact protocolClient_unwriting polling
      · cases checking

theorem requeue_unwriting {p : Go GoError Bytes} (requeues : Requeues p)
    (path : Path p t (.op (.updateTransactionStatus written) next)) : False := by
  obtain ⟨report, rfl⟩ := requeues
  obtain ⟨instant, u, rfl, failing⟩ := path_ask_op .now path (by rintro ⟨⟩)
  cases failing

/-- A confirmation writes the status of a delay, or that of an issued certificate. -/
theorem confirm_updates {chain : List Certificate} {pending : PendingTransaction}
    (path : Path (confirm lib record enrollment limits chain pending) t
      (.op (.updateTransactionStatus written) next)) (unissued : written.status.phase ≠ .issued) :
    ∃ leaf rest u result after instant, chain = leaf :: rest ∧
      Path (confirmP10CR lib (pending.confirmation enrollment leaf)) u (.pure result) ∧
      result.pendingConfirmation = some after ∧
      written = { record with status :=
        (record.countPoll (pending.requestNonce != [])).status.confirming (leaf :: rest) after instant } := by
  unfold confirm Reported.confirm at path
  dsimp only [quiet_run, quiet_issued] at path
  obtain ⟨instant, u, rfl, checking⟩ := path_ask_op .now path (by rintro ⟨⟩)
  split at checking
  · exact (failTransaction_unwriting checking).elim
  · split at checking
    · exact (failTransaction_unwriting checking).elim
    · split at checking
      · cases checking
      · rename_i leaf rest
        rcases path_attempt_op checking with ⟨_, calling, _⟩ | ⟨r, v, w, rfl, served, recording⟩
        · exact (protocolClient_unwriting calling).elim
        · cases r with
          | error err => exact (failTransaction_unwriting recording).elim
          | ok result =>
              obtain ⟨x, confirming⟩ := protocolClient_pure served
              dsimp only at recording
              split at recording
              · rename_i after waits
                rcases writeStatus_op recording with ⟨instant', same, _⟩ | ⟨_, _, _, later⟩
                · refine ⟨leaf, rest, x, result, after, instant', rfl, confirming, waits, same.trans ?_⟩
                  unfold CMPTransaction.countPoll
                  split <;> rfl
                · exact (requeue_unwriting ⟨_, rfl⟩ later).elim
              · rcases writeStatus_op recording with ⟨_, rfl, _⟩ | ⟨_, _, _, later⟩
                · exact absurd rfl unissued
                · cases later

theorem failTransaction_pends {err cause : GoError} {delay : Duration}
    (path : Path (failTransaction (α := Bytes) record err) t (.throw (.error (.pending cause delay)))) :
    mapProtocolError err = .pending cause delay := by
  unfold failTransaction at path
  dsimp only at path
  generalize mapProtocolError err = mapped at path
  split at path
  · rcases path.bind_inv with ⟨p, removing, same⟩ | ⟨_, u, v, rfl, _, failing⟩
    · change Path (Program.op (S := interface) (Op.deleteTransaction _ _) _) t _ at removing
      cases removing with
      | refl => cases same
      | step answer rest =>
          cases answer with
          | ok =>
              cases rest
              cases same
              rfl
          | error =>
              change Path (if _ then _ else _) _ _ at rest
              split at rest <;> cases rest <;> cases same
              rfl
    · cases failing
      rfl
  · cases path
    rfl

/-- A confirmation that asks for a requeue has an outcome after which the transaction goes on. -/
theorem confirm_pends {chain : List Certificate} {pending : PendingTransaction} {err : GoError} {delay : Duration}
    (path : Path (confirm lib record enrollment limits chain pending) t (.throw (.error (.pending err delay)))) :
    ∃ leaf rest u r, chain = leaf :: rest ∧
      Path (confirmP10CR lib (pending.confirmation enrollment leaf)) u (ofExcept r) ∧ Lasts r := by
  unfold confirm Reported.confirm at path
  dsimp only [quiet_run, quiet_issued] at path
  obtain ⟨instant, u, rfl, checking⟩ := path_ask_end .now (r := .error (.error (GoError.pending err delay))) path
  split at checking
  · cases failTransaction_pends checking
  · split at checking
    · cases failTransaction_pends checking
    · split at checking
      · cases checking
      · rename_i leaf rest
        rcases path_attempt_end checking with ⟨_, ⟨⟩⟩ | ⟨r, v, w, rfl, served, recording⟩
        have confirming : ∃ x, Path (confirmP10CR lib (pending.confirmation enrollment leaf)) x (ofExcept r) := by
          cases r with
          | ok result => exact protocolClient_pure served
          | error failure =>
              obtain ⟨_, x, rfl, serving⟩ :=
                path_ask_end (.call _) (r := .error (.error failure)) served
              exact ⟨x, serving⟩
        obtain ⟨x, confirming⟩ := confirming
        refine ⟨leaf, rest, x, r, rfl, confirming, ?_⟩
        cases r with
        | ok => trivial
        | error failure =>
            intro cause permanent
            cases permanent.symm.trans (failTransaction_pends recording)

end

/-- The leaf of a recorded chain was parsed from the record and may be confirmed. -/
theorem recordedChain_parsed {lib : Library} {record : CMPTransaction} {csrDER : Bytes} {chain : List Certificate}
    (h : recordedChain lib record csrDER = .ok chain) :
    ∃ leaf rest encoded, chain = leaf :: rest ∧ record.status.issuedChain.head? = some encoded ∧
      lib.parseCertificate encoded = .ok leaf ∧ validateMLDSAKeyUsage leaf = .ok () := by
  unfold recordedChain at h
  split at h
  · cases h
  · cases h
  · rename_i leaf rest parsed
    generalize record.status.issuedChain = stored at parsed ⊢
    cases stored with
    | nil => cases parsed
    | cons encoded later =>
        unfold parseRecordedChain at parsed
        split at parsed
        · cases parsed
        · rename_i certificate first
          split at parsed
          · cases parsed
          · rename_i usage
            split at parsed <;> cases parsed
            split at h
            · cases h
            · split at h <;> cases h
              exact ⟨_, _, encoded, rfl, rfl, first, usage⟩

theorem trustedRecordedChain_head {lib : Library} {t : Time} {leaf : Certificate}
    {rest trusted candidates : List Certificate} {roots : Option CertPool}
    (h : trustedRecordedChain lib t (leaf :: rest) roots candidates = .ok trusted) :
    ∃ later, trusted = leaf :: later := by
  have same : trusted.head? = some leaf := (validateIssuedChain_ok (mapError_eq_ok.mp h)).1
  exact List.head?_eq_some_iff.mp same

section
variable {lib : Library} {job : Job} {t : Trail} {record written : CMPTransaction}
  {next : Except ApiError String → Go GoError Bytes}

/-- A result of the client is one that the session of any call understands. -/
theorem serve_understood (job : Job) (record : CMPTransaction) (call : ClientCall) {result : EnrollmentResult}
    (signature : call.enrollment.operation = .kur → call.enrollment.protection.signature.isSome)
    (path : Path (serve lib call) t (.pure result)) :
    ∃ exchange response signer, exchange.call = call ∧
      Understood lib exchange response signer (.ok (.result result)) := by
  have follows : Follows (contract lib) (Concludes lib ⟨record, .created⟩ call)
      ⟨job, [], .calling ⟨record, .created⟩ call⟩ (serve lib call) := serve_follows signature
  obtain ⟨exchange, response, signer, _, same, understood⟩ := follows.path path
  exact ⟨exchange, response, signer, same, understood⟩

theorem countPoll_responseSigner (record : CMPTransaction) (polled : Bool) :
    (record.countPoll polled).status.responseSigner = record.status.responseSigner := by
  cases polled <;> rfl

theorem confirm_resumable (job : Job) {enrollment : EnrollmentRequest}
    {limits : TransactionSpec} {chain : List Certificate} {pending : PendingTransaction}
    (signature : enrollment.operation = .kur → enrollment.protection.signature.isSome)
    (retained : Retained lib record.status.responseSigner)
    (signer : ∀ certificate, pending.responseSigner = some certificate → ReadsBack lib certificate)
    (leaves : ∀ leaf rest, chain = leaf :: rest → ReadsBack lib leaf)
    (path : Path (confirm lib record enrollment limits chain pending) t
      (.op (.updateTransactionStatus written) next)) (unissued : written.status.phase ≠ .issued) :
    Resumable lib enrollment written ∧ written.spec = record.spec := by
  obtain ⟨leaf, rest, u, result, after, instant, same, confirming, waits, rfl⟩ := confirm_updates path unissued
  have equipped : Equipped lib enrollment := confirmP10CR_equips.outcome (r := .ok result) confirming result rfl
  obtain ⟨certificate, status, present, hashed⟩ := confirmP10CR_hashes (r := .ok result) equipped confirming trivial
  obtain rfl : leaf = certificate := Option.some.inj present
  obtain ⟨exchange, response, found, confirms, understood⟩ :=
    serve_understood job record (.confirmP10CR (pending.confirmation enrollment leaf)) signature confirming
  obtain ⟨sameSigner, sameID⟩ := understood.delayed confirms waits
  refine ⟨⟨equipped, Retained.update ?_ ?_, rfl, by rintro ⟨⟩, fun _ => ?_⟩, rfl⟩
  · rw [countPoll_responseSigner]
    exact retained
  · rw [sameSigner]
    exact signer
  · exact ⟨leaf, after.certReqID, status, rfl, leaves leaf rest same, rfl, sameID ▸ hashed⟩

/-- What a call records of an unfinished transaction, and then asks for a requeue over, can be resumed. -/
theorem resumeConfirmation_resumable (job : Job) (laws : ParsingLaws lib) {enrollment : EnrollmentRequest}
    {limits : TransactionSpec} {csrDER : Bytes}
    (signature : enrollment.operation = .kur → enrollment.protection.signature.isSome)
    (path : Path (resumeConfirmation lib record enrollment limits csrDER) t
      (.op (.updateTransactionStatus written) next)) (unissued : written.status.phase ≠ .issued) :
    Resumable lib enrollment written ∧ written.spec = record.spec := by
  unfold resumeConfirmation Reported.resumeConfirmation at path
  dsimp only [quiet_run] at path
  split at path
  · exact (failTransaction_unwriting path).elim
  · rename_i chain recorded
    obtain ⟨instant, v, rfl, checking⟩ := path_ask_op .now path (by rintro ⟨⟩)
    split at checking
    · exact (failTransaction_unwriting checking).elim
    · rename_i trusted verified
      split at checking
      · exact (failTransaction_unwriting checking).elim
      · obtain ⟨signer, retained, confirming⟩ := path_outcome_op checking
        obtain ⟨leaf, later, encoded, rfl, _, parsed, _⟩ := recordedChain_parsed recorded
        obtain ⟨later', rfl⟩ := trustedRecordedChain_head verified
        exact confirm_resumable job signature (retainedSigner_iff.mp ⟨signer, retained⟩)
          (retainedSigner_readsBack laws retained) (by rintro _ _ ⟨⟩; exact laws.readsBack parsed) confirming
          unissued

theorem continueTransaction_resumable (job : Job) (laws : ParsingLaws lib) {request : CertificateRequestObject}
    {operation : Operation} {csrDER : Bytes} {started : Time} {prepared : Prepared}
    (signature : prepared.enrollment.operation = .kur → prepared.enrollment.protection.signature.isSome)
    (known : prepared.enrollment.operation ∈ [Operation.p10cr, .ir, .kur])
    (early : record.status.phase ≠ .polling → record.status.phase ≠ .confirming →
      Retained lib record.status.responseSigner)
    (path : Path (continueTransaction lib request operation csrDER started prepared record) t
      (.op (.updateTransactionStatus written) next)) (unissued : written.status.phase ≠ .issued)
    {version : String} {u : Trail} {err : GoError} {delay : Duration}
    (rest : Path (next (.ok version)) u (.throw (.error (.pending err delay)))) :
    Resumable lib prepared.enrollment written ∧ written.terms = record.terms := by
  unfold continueTransaction Reported.continueTransaction at path
  dsimp only [quiet_run, quiet_issued] at path
  generalize made : ({ prepared.enrollment with
    transactionID := record.spec.transactionID
    requestedNotAfter := requestedNotAfter prepared.configuration.requestedValidity operation request started } :
      EnrollmentRequest) = enrollment at path
  have signed : enrollment.operation = .kur → enrollment.protection.signature.isSome := made ▸ signature
  have performs : enrollment.operation ∈ [Operation.p10cr, .ir, .kur] := made ▸ known
  have equips : Equipped lib enrollment → Equipped lib prepared.enrollment := by
    subst made
    exact fun h => ⟨h.valid, h.reachable, h.credentials⟩
  have sameCSR : enrollment.csrDER = prepared.enrollment.csrDER := by rw [← made]
  have carried : Resumable lib enrollment written → Resumable lib prepared.enrollment written := fun resumable =>
    { resumable with equipped := equips resumable.equipped, parsed := sameCSR ▸ resumable.parsed }
  split at path
  · obtain ⟨resumable, spec⟩ := resumeConfirmation_resumable job laws signed path unissued
    refine ⟨carried resumable, ?_⟩
    rw [CMPTransaction.terms, spec]
    rfl
  · rename_i unconfirmed
    rcases path_attempt_op path with ⟨_, calling, _⟩ | ⟨r, v, w, rfl, served, recording⟩
    · exact (exchange_unwriting calling).elim
    cases r with
    | error failure => exact (failTransaction_unwriting recording).elim
    | ok result =>
        obtain ⟨call, x, obtains, rfl, serving, previous⟩ := exchange_serves served
        obtain ⟨exchange, response, signer, rfl, understood⟩ := serve_understood job record call signed serving
        have equipped : Equipped lib exchange.call.enrollment :=
          Equipped.of_call (serve_equips.outcome (r := .ok result) serving result rfl) performs
        have retained : Retained lib record.status.responseSigner := by
          rcases previous with ⟨other, _⟩ | kept
          · exact early other unconfirmed
          · exact retainedSigner_iff.mp ⟨_, kept⟩
        have parsed : ∀ certificate, exchange.call.previousSigner = some certificate →
            ReadsBack lib certificate := by
          rcases previous with ⟨_, none⟩ | kept
          · rw [none]
            rintro _ ⟨⟩
          · exact retainedSigner_readsBack laws kept
        dsimp only at recording
        split at recording
        · -- The server has not issued the certificate yet.
          rename_i pending waits
          rcases writeStatus_op recording with ⟨instant, rfl, _⟩ | ⟨_, _, _, later⟩
          · refine ⟨⟨equips equipped, Retained.update ?_ (understood.retains laws obtains parsed (.inl waits)), rfl,
              fun _ => ?_, by rintro ⟨⟩⟩, ?_⟩
            · rw [countPoll_responseSigner]
              exact retained
            · obtain ⟨csr, _, _, _, accepted, _⟩ := understood.judged
              exact ⟨csr, sameCSR ▸ exchange.call.request_csrDER ▸ accepted obtains⟩
            · unfold CMPTransaction.countPoll
              split <;> rfl
          · exact (requeue_unwriting ⟨_, rfl⟩ later).elim
        · rename_i pending issued unconfirmed
          have signs := understood.retains laws obtains parsed (.inr unconfirmed)
          obtain ⟨leaf, later, same, reads⟩ := understood.leaf laws obtains issued
          rcases writeStatus_op recording with ⟨instant, rfl, continues⟩ | ⟨instant, version', y, confirming⟩
          · -- The call went on to confirm the certificate before it asked for the requeue.
            rw [continues] at rest
            obtain ⟨certificate, others, z, r, chain, confirming, lasts⟩ := confirm_pends rest
            cases same.symm.trans chain
            obtain ⟨certificate, status, present, hashed⟩ := confirmP10CR_hashes equipped confirming lasts
            obtain rfl : leaf = certificate := Option.some.inj present
            refine ⟨⟨equips equipped, Retained.update retained signs, rfl, by rintro ⟨⟩, fun _ => ?_⟩, rfl⟩
            refine ⟨leaf, pending.certReqID, status, ?_, reads, rfl, hashed⟩
            show (encodeChain result.chain).head? = some leaf.raw
            rw [same]
            rfl
          · obtain ⟨resumable, spec⟩ := confirm_resumable job signed (Retained.update retained signs) signs
              (fun certificate others chain => by cases same.symm.trans chain; exact reads) confirming unissued
            refine ⟨carried resumable, ?_⟩
            rw [CMPTransaction.terms, spec]
            rfl
        · rcases writeStatus_op recording with ⟨_, rfl, _⟩ | ⟨_, _, _, later⟩
          · exact absurd rfl unissued
          · cases later

theorem Underway.prepares {hold : Hold} {csrDER : Bytes} {prepared : Prepared}
    (underway : Underway lib job t hold csrDER prepared) :
    ∃ configuration work, Prepares lib job.issuer hold.record.spec.operation csrDER configuration work prepared := by
  obtain ⟨_, reads, _, work, _, configuration, _, loading, preparing⟩ := underway.preparation
  have configured : Configured lib job.clusterResourceNamespace job.issuer reads configuration :=
    loadRuntimeConfiguration_loads.outcome (r := .ok configuration) loading
  exact ⟨configuration, work, (prepareEnrollment_loads configured.digest).outcome (r := .ok prepared) preparing⟩

theorem FixedSize.hex_ne_empty (sized : FixedSize lib) (data : Bytes) : hexEncode (lib.sha256 data) ≠ "" := by
  intro empty
  obtain ⟨size, positive, length⟩ := sized
  have same : hexEncode (lib.sha256 data) = hexEncode [] := empty
  rw [← length data, hexEncode_injective same] at positive
  cases positive

/-- A record that says what the record at hand says is resumed by the next call. -/
theorem Underway.resumes (sized : FixedSize lib) {hold : Hold} {csrDER : Bytes} {prepared : Prepared}
    (underway : Underway lib job t hold csrDER prepared) (same : record.terms = hold.record.terms)
    (unissued : record.status.phase ≠ .issued) : Resumes lib job record csrDER := by
  have field : ∀ {β : Type} (f : CMPTransactionSpec → β), f record.terms = f hold.record.terms := by
    intro β f
    rw [same]
  have csrDigest : record.spec.csrDigest = hold.record.spec.csrDigest := field (·.csrDigest)
  have issuerRef : record.spec.issuerRef = hold.record.spec.issuerRef := field (·.issuerRef)
  have configured : record.spec.configurationDigest = hold.record.spec.configurationDigest :=
    field (·.configurationDigest)
  have operation : record.spec.operation = hold.record.spec.operation := field (·.operation)
  have fallback : record.spec.renewalFallback = hold.record.spec.renewalFallback := field (·.renewalFallback)
  have suits := underway.suits
  obtain ⟨configuration, work, prepares⟩ := underway.prepares
  obtain ⟨encoded, _, digest⟩ := runtimeConfigurationDigest_ok prepares.digest
  obtain ⟨selected, selection, chosen⟩ := suits.operation
  refine ⟨(field (·.certificateRequestUID)).trans underway.own, suits.csr, ⟨selected, selection, ?_⟩, unissued,
    issuerRef.trans suits.issuer⟩
  unfold validateResumedTransaction
  dsimp only
  rw [csrDigest, configured, operation, fallback, issuerRef, suits.digest, underway.digest, digest, suits.issuer]
  have bound : ¬ (csrDigestHex lib csrDER = "" ∨ hexEncode (lib.sha256 encoded) = "" ∨
      hold.record.spec.operation = .unset) := by
    rintro (empty | empty | unset)
    · exact sized.hex_ne_empty csrDER empty
    · exact sized.hex_ne_empty encoded empty
    · have known := suits.known
      rw [unset] at known
      simp at known
  rw [if_neg bound, if_neg (not_not.mpr rfl), if_neg (by simp)]
  rcases chosen with ⟨unset, performs⟩ | ⟨reason, set, update, allowed, performs⟩
  · rw [unset]
    exact if_neg (not_not.mpr performs)
  · rw [set]
    exact if_neg (by rw [update]; simp [allowed, performs])

/-- The record of an unfinished transaction that a call leaves with a requeue can be resumed. -/
theorem sign_resumable (laws : ParsingLaws lib) {err : GoError} {delay : Duration}
    (path : Path (sign lib job.clusterResourceNamespace job.request job.issuer) t
      (.throw (.error (.pending err delay)))) {version : String}
    (recorded : (⟨.updateTransactionStatus written, .ok version⟩ : Event interface) ∈ t)
    (unfinished : written.status.phase = .polling ∨ written.status.phase = .confirming)
    (early : ∀ u v hold, t = u ++ v → ((contract lib).run (Session.begin job) u).stage = .held hold →
      hold.record.spec.certificateRequestUID = job.request.uid →
      hold.record.status.phase ∉ [Phase.polling, .confirming, .issued] →
        Retained lib hold.record.status.responseSigner) :
    ∃ u v hold csrDER prepared, t = u ++ v ∧ Underway lib job u hold csrDER prepared ∧
      Resumable lib prepared.enrollment written ∧ written.terms = hold.record.terms := by
  obtain ⟨before, after, rfl⟩ := List.append_of_mem recorded
  obtain ⟨p, writing, rest⟩ := path.append_inv
  have late : Op.late (.updateTransactionStatus written) = true := by
    rcases unfinished with phase | phase <;> simp [Op.late, phase]
  have unissued : written.status.phase ≠ .issued := by
    rcases unfinished with phase | phase <;> simp [phase]
  cases rest with
  | step _ rest =>
      obtain ⟨u, v, hold, csrDER, started, prepared, rfl, underway, continuing⟩ := sign_continues late writing
      obtain ⟨configuration, work, prepares⟩ := underway.prepares
      obtain ⟨resumable, terms⟩ := continueTransaction_resumable job laws
        (fun update => prepares.signature (prepares.selected.symm.trans update))
        (prepares.selected ▸ underway.suits.known)
        (fun unpolled unconfirmed => early u _ hold (List.append_assoc ..) underway.held underway.own
          (by simp [unpolled, unconfirmed, underway.unissued])) continuing unissued rest
      exact ⟨u, _, hold, csrDER, prepared, List.append_assoc .., underway, resumable, terms⟩

end

end CmpIssuer
