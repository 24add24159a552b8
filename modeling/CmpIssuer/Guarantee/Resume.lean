import CmpIssuer.Controller.Authorization
import CmpIssuer.Effect.Progress
import CmpIssuer.Guarantee.Readiness

/-!
The call after one that recorded a wait. Nothing that `Sign` reads has changed,
so the call gets to the message of the recorded phase, unless one of two things
stands in its way: the record has no nonce to poll with, because the answer it
was made from carried none, or the certificate of a key update is not valid any
more.
-/
namespace CmpIssuer
open Effect

def Op.shown : Op → Bool
  | .getSecret _ | .getCertificate _ => true
  | _ => false

/-- The reads found what the cluster shows. -/
def ShownBy (answer : (o : Op) → o.Answer) (t : Trail) : Prop :=
  ∀ e ∈ t, e.op.shown = true → e.answer = answer e.op

theorem ShownBy.mono {answer : (o : Op) → o.Answer} {t u : Trail} (shown : ShownBy answer u) (seen : t ⊆ u) :
    ShownBy answer t := fun e member => shown e (seen member)

/-- The monitor of programs that only read what the cluster shows. -/
abbrev looking : Monitor interface Trail := recorder fun o => o.shown = true

section
variable {lib : Library} {request : CertificateRequestObject} {issuer : Issuer} {csrDER : Bytes} {t : Trail}

theorem authorizeOwningCertificate_looks {operation : Operation} {renewal : Bool} :
    Follows looking (fun _ _ => True) t
      (authorizeOwningCertificate lib request issuer operation renewal) := by
  refine relies_outcome_bind fun revision _ => relies_outcome_bind fun owner _ => relies_bind ?_ ?_
  · refine follows_ask_bind.mpr ⟨rfl, fun answer => ?_⟩
    cases answer <;> dsimp only <;> split <;> trivial
  · intro u certificate
    split
    · trivial
    · split <;> trivial

theorem loadStagedKey_looks {key : NamespacedName} {certificate : CertManagerCertificate}
    {operation : Operation} :
    Follows looking (fun _ _ => True) t (loadStagedKey lib key certificate csrDER operation) := by
  refine relies_bind ?_ fun u secret => ?_
  · refine follows_ask_bind.mpr ⟨rfl, fun answer => ?_⟩
    cases answer with
    | ok => trivial
    | error => dsimp only; split <;> trivial
  · split
    · trivial
    · exact relies_outcome_bind fun _ _ => trivial

theorem loadIRMaterial_looks {reason : Setting FallbackReason} :
    Follows looking (fun _ _ => True) t (loadIRMaterial lib request issuer csrDER reason) := by
  unfold loadIRMaterial
  dsimp only
  split
  · trivial
  · refine relies_bind authorizeOwningCertificate_looks fun u certificate => ?_
    refine relies_outcome_bind fun stagedName _ => relies_bind loadStagedKey_looks ?_
    exact fun _ _ => trivial

theorem loadKURMaterial_looks :
    Follows looking (fun _ _ => True) t (loadKURMaterial lib request issuer csrDER) := by
  refine relies_bind authorizeOwningCertificate_looks fun u certificate => ?_
  refine relies_outcome_bind fun stagedName _ => ?_
  split
  · trivial
  · refine relies_bind ?_ fun u secret => ?_
    · refine follows_ask_bind.mpr ⟨rfl, fun answer => ?_⟩
      cases answer with
      | ok => trivial
      | error => dsimp only; split <;> trivial
    · cases secret with
      | none => trivial
      | some =>
          refine relies_outcome_bind fun _ _ => relies_bind loadStagedKey_looks fun _ _ => ?_
          exact relies_outcome_bind fun _ _ => trivial

theorem loadRuntimeConfiguration_looks {clusterResourceNamespace : String} :
    Follows looking (fun _ _ => True) t (loadRuntimeConfiguration lib clusterResourceNamespace issuer) := by
  refine (loadRuntimeConfiguration_asks.after ?_ t).mono fun _ _ _ => trivial
  rintro o ⟨key, _, rfl⟩
  rfl

end

def Op.IsMessage (o : Op) : Prop := ∃ sent, o = .send sent

theorem Op.shown_quiet (o : Op) (shown : o.shown = true) : ¬ o.IsMessage := by
  rintro ⟨sent, rfl⟩
  cases shown

theorem Op.silent_quiet (o : Op) (silent : o.silent = true) : ¬ o.IsMessage := by
  rintro ⟨sent, rfl⟩
  cases silent

theorem path_outcome_stop {ε α β : Type} {t : Trail} {r : Except ε α} {f : α → Go ε β} {q : Go ε β}
    (path : Path (ofExcept r >>= f) t q) :
    (∃ err, r = .error err ∧ q = .throw (.error err)) ∨ ∃ a, r = .ok a ∧ Path (f a) t q := by
  cases r with
  | error err =>
      cases path
      exact .inl ⟨err, rfl, rfl⟩
  | ok a => exact .inr ⟨a, rfl, path⟩

def Certificate.ValidAt (certificate : Certificate) (t : Time) : Prop :=
  certificate.notBefore ≤ t ∧ t < certificate.notAfter

section
variable {lib : Library} {request : CertificateRequestObject} {issuer : Issuer} {csrDER : Bytes} {t u : Trail}

/-- The proofs for a key update that were accepted once are accepted while the certificate is valid. -/
theorem validateKURProofs_again {enrollment : EnrollmentRequest} {csr : CertificateRequest} {t₁ : Time} (t₂ : Time)
    {signature : SignatureProtection} {key : Signer}
    (first : validateKURProofs lib enrollment csr t₁ = .ok (signature, key)) :
    enrollment.protection.signature = some signature ∧
      (signature.certificate.ValidAt t₂ → validateKURProofs lib enrollment csr t₂ = .ok (signature, key)) ∧
      (¬ signature.certificate.ValidAt t₂ → ∃ err, validateKURProofs lib enrollment csr t₂ = .error err) := by
  have outside : ∀ t, (t < signature.certificate.notBefore ∨ signature.certificate.notAfter ≤ t) ↔
      ¬ signature.certificate.ValidAt t := by
    intro t
    rw [Certificate.ValidAt, not_and_or, not_le, not_lt]
  unfold validateKURProofs at first ⊢
  split at first
  · rename_i found password present
    split at first
    · cases first
    · dsimp only at first ⊢
      split at first
      · cases first
      · split at first
        · cases first
        · rename_i usage
          split at first
          · cases first
          · rename_i identity
            cases first
            refine ⟨present, fun valid => ?_, fun expired => ?_⟩
            · rw [if_neg fun bad => (outside t₂).mp bad valid, if_neg usage, if_neg identity]
            · exact ⟨_, if_pos ((outside t₂).mpr expired)⟩
  · cases first

theorem validateKURRequest_again {enrollment : EnrollmentRequest}
    {out : CertificateRequest × SignatureProtection × Signer} {r : Except (Fault GoError) _}
    (first : Path (validateKURRequest lib enrollment) t (.pure out))
    (second : Path (validateKURRequest lib enrollment) u (.ofExcept r)) :
    ∃ signature instant, enrollment.protection.signature = some signature ∧ u = [⟨.now, instant⟩] ∧
      (signature.certificate.ValidAt instant → r = .ok out) ∧
      (¬ signature.certificate.ValidAt instant → ∃ err, r = .error (.error err)) := by
  unfold validateKURRequest at first second
  dsimp only at first second
  rcases path_outcome_stop first with ⟨_, _, ⟨⟩⟩ | ⟨_, valid, first⟩
  rcases path_outcome_stop first with ⟨_, _, ⟨⟩⟩ | ⟨csr, parsed, first⟩
  obtain ⟨instant₁, v, rfl, proving⟩ := path_ask_pure .now first
  rcases path_outcome_stop proving with ⟨_, _, ⟨⟩⟩ | ⟨⟨signature, key⟩, proofs, returning⟩
  cases returning
  rw [valid, parsed] at second
  obtain ⟨instant, w, rfl, again⟩ := path_ask_end .now second
  obtain ⟨present, valid', expired⟩ := validateKURProofs_again instant proofs
  have ended : w = [] ∧ (Program.ofExcept r : Go GoError _) =
      (ofExcept (validateKURProofs lib { enrollment with operation := .kur } csr instant) >>=
        fun checked => Program.pure (csr, checked.1, checked.2)) := by
    cases known : validateKURProofs lib { enrollment with operation := .kur } csr instant with
    | error err =>
        rw [known] at again
        cases r <;> cases again
        exact ⟨rfl, rfl⟩
    | ok checked =>
        rw [known] at again
        cases r <;> cases again
        exact ⟨rfl, rfl⟩
  obtain ⟨rfl, ended⟩ := ended
  refine ⟨signature, instant, present, rfl, fun valid => ?_, fun invalid => ?_⟩
  · rw [valid' valid] at ended
    cases r <;> cases ended
    rfl
  · obtain ⟨err, failed⟩ := expired invalid
    rw [failed] at ended
    cases r <;> cases ended
    exact ⟨err, rfl⟩

variable {answer : (o : Op) → o.Answer} {operation : Operation} {reason : Setting FallbackReason}

theorem loadMaterial_looks :
    Follows looking (fun _ _ => True) t
      ((if operation = .kur then loadKURMaterial lib request issuer csrDER
        else loadIRMaterial lib request issuer csrDER reason).mapError (Fault.map workloadConfigurationError)) := by
  refine relies_mapError ?_
  split
  · exact loadKURMaterial_looks
  · exact loadIRMaterial_looks

/-- A request that is prepared again from what the cluster shows comes out as before, but for the clock. -/
theorem prepareEnrollment_again {configuration : RuntimeConfiguration} {prepared : Prepared}
    {r : Except (Fault GoError) Prepared}
    (first : Path (prepareEnrollment lib request issuer operation reason csrDER configuration) t (.pure prepared))
    (shown : ShownBy answer t)
    (second : Path (prepareEnrollment lib request issuer operation reason csrDER configuration) u (.ofExcept r))
    (shown' : ShownBy answer u) :
    operation ≠ .kur ∧ r = .ok prepared ∧ (∀ e ∈ u, e.op.shown = true) ∨
    operation = .kur ∧ ∃ signature reads instant, prepared.enrollment.protection.signature = some signature ∧
      u = reads ++ [⟨.now, instant⟩] ∧ (∀ e ∈ reads, e.op.shown = true) ∧
      (signature.certificate.ValidAt instant → r = .ok prepared) ∧
      (¬ signature.certificate.ValidAt instant → ∃ fault, r = .error fault) := by
  unfold prepareEnrollment at first second
  dsimp only at first second
  split at first
  · rename_i workload
    rw [if_pos workload] at second
    unfold prepareWorkloadKeyEnrollment at first second
    dsimp only at first second
    have stops : (Program.ofExcept r : Go GoError Prepared).StopsAt Op.IsMessage := Program.stopsAt_ofExcept r
    have ends : (Program.pure prepared : Go GoError Prepared).StopsAt Op.IsMessage := by rintro _ _ ⟨⟩
    rcases loadMaterial_looks.stop Op.shown_quiet first ends with
      ⟨_, _, ⟨⟩⟩ | ⟨material, reads, v, rfl, loading, making⟩
    have value : ((if operation = .kur then loadKURMaterial lib request issuer csrDER
        else loadIRMaterial lib request issuer csrDER reason).mapError
          (Fault.map workloadConfigurationError)).eval answer = .ok material :=
      Path.evaluated (r := .ok material) loading fun e member =>
        shown e (List.mem_append_left _ member) ((loadMaterial_looks (t := [])).quiet loading e member)
    obtain ⟨reads', w, rfl, quiet, _, making'⟩ :=
      loadMaterial_looks.stop_value Op.shown_quiet second stops shown' value
    rcases path_outcome_stop making with ⟨_, _, ⟨⟩⟩ | ⟨digest, digested, checking⟩
    rcases path_outcome_stop making' with ⟨_, failed, _⟩ | ⟨digest', digested', checking'⟩
    · cases failed.symm.trans digested
    cases digested.symm.trans digested'
    split at checking
    · rename_i update
      rw [if_pos update] at checking'
      rcases (loads_mapError validateKURRequest_loads).stop Op.silent_quiet checking ends with
        ⟨_, _, ⟨⟩⟩ | ⟨out, x, y, rfl, validating, returning⟩
      cases returning
      have validated := Path.mapError_pure validating
      rcases (loads_mapError validateKURRequest_loads).stop Op.silent_quiet checking' stops with
        ⟨e, validating', same⟩ | ⟨out', x', y', rfl, validating', returning'⟩
      · obtain ⟨p', validated', failed⟩ := validating'.mapError_inv
        cases p' with
        | throw e' =>
            obtain ⟨signature, instant, present, rfl, valid, invalid⟩ :=
              validateKURRequest_again (r := .error e') validated validated'
            refine .inr ⟨update, signature, reads', instant, present, rfl, quiet, fun ok => ?_, fun _ => ?_⟩
            · cases valid ok
            · cases r <;> cases same
              exact ⟨e, rfl⟩
        | pure => cases failed
        | op => cases failed
      · obtain ⟨signature, instant, present, rfl, valid, invalid⟩ :=
          validateKURRequest_again (r := .ok out') validated (Path.mapError_pure validating')
        cases r <;> cases returning'
        refine .inr ⟨update, signature, reads', instant, present, by simp, quiet, fun _ => rfl, fun bad => ?_⟩
        obtain ⟨_, ⟨⟩⟩ := invalid bad
    · rename_i other
      rw [if_neg other] at checking'
      rcases path_outcome_stop checking with ⟨_, _, ⟨⟩⟩ | ⟨checked, valid, returning⟩
      cases returning
      rcases path_outcome_stop checking' with ⟨_, failed, _⟩ | ⟨_, _, returning'⟩
      · cases failed.symm.trans valid
      cases r <;> cases returning'
      exact .inl ⟨other, rfl, by simpa using quiet⟩
  · rename_i plain
    rw [if_neg plain] at second
    cases first
    cases r <;> cases second
    exact .inl ⟨fun update => plain (.inr update), rfl, by rintro _ ⟨⟩⟩

end

/-- The messages that a recorded transaction goes on with. -/
def Body.Resuming : Body → Prop
  | .pollReq _ | .certConf _ => True
  | _ => False

/-- Credentials that have protected a message protect the messages a transaction goes on with, and what is
protected can be encoded. -/
structure SealingLaws (lib : Library) : Prop where
  protects : ∀ credentials drawn message protected_ drawn' next,
    lib.protect credentials drawn message = .ok protected_ → next.body.Resuming →
    ∃ sealed_, lib.protect credentials drawn' next = .ok sealed_
  encodes : ∀ credentials drawn message protected_, lib.protect credentials drawn message = .ok protected_ →
    ∃ encoded, lib.marshalBinary protected_ = .ok encoded

/-- An event that reads the clock reads an instant of one kind. -/
def ClockIn (P : Time → Prop) (e : Event interface) : Prop := ∀ instant, clockRead e = some instant → P instant

/-- The program sends a message with such a body before it ends, when it reads such instants. -/
abbrev Sending {ε α : Type} (bodies : Body → Prop) (P : Time → Prop) (p : Go ε α) : Prop :=
  Reaches (S := interface) Op.IsMessage (fun o : Op => ∃ sent, o = .send sent ∧ bodies sent.message.body)
    (ClockIn P) p

section
variable {lib : Library} {ε α β : Type} {bodies : Body → Prop} {P : Time → Prop}

theorem sending_outcome {r : Except ε α} {f : α → Go ε β} {a : α} (value : r = .ok a)
    (rest : Sending bodies P (f a)) : Sending bodies P (ofExcept r >>= f) := by
  subst value
  exact rest

theorem sending_now {f : Time → Go ε β} (rest : ∀ instant, P instant → Sending bodies P (f instant)) :
    Sending bodies P (now >>= f) :=
  reaches_pass (S := interface) (o := Op.now) (by rintro ⟨_, ⟨⟩⟩) fun instant usual => rest instant (usual instant rfl)

theorem sending_entropy {f : Entropy → Go ε β} (rest : ∀ drawn, Sending bodies P (f drawn)) :
    Sending bodies P (entropy >>= f) :=
  reaches_pass (S := interface) (o := Op.entropy) (by rintro ⟨_, ⟨⟩⟩) fun drawn _ => rest drawn

theorem sending_handOver {call : ClientCall} {f : Unit → Go ε β} (rest : Sending bodies P (f ())) :
    Sending bodies P (handOver call >>= f) :=
  reaches_pass (S := interface) (o := Op.call call) (by rintro ⟨_, ⟨⟩⟩) fun _ _ => rest

theorem sending_attempt {p : Go ε α} {f : Except ε α → Go GoError β} (inside : Sending bodies P p) :
    Sending bodies P (attempt p >>= f) :=
  (Reaches.attempt inside _).bind f

variable {request : EnrollmentRequest}

theorem exchangeMessage_sending {operation : String} {message : PKIMessage} {requestDER nonce : Bytes}
    {previousSigner : Option Certificate} (equipped : Equipped lib request) (body : bodies message.body) :
    Sending bodies P (exchangeMessage lib operation request message requestDER previousSigner nonce) := by
  refine sending_outcome (a := ()) (by rw [equipped.reachable]; rfl) ?_
  exact reaches_goal (S := interface) ⟨_, rfl⟩ ⟨_, rfl, body⟩

theorem protectMessage_again (messages : MessageLaws lib) (sealing : SealingLaws lib) (name : String)
    (drawn' : Entropy) {credentials : Credentials} {drawn : Entropy} {built protected_ next : PKIMessage}
    (before : lib.protect credentials drawn built = .ok protected_) (resuming : next.body.Resuming) :
    ∃ message requestDER, protectMessage lib name credentials drawn' next = .ok (message, requestDER) ∧
      message.body = next.body := by
  obtain ⟨message, sealed_⟩ := sealing.protects credentials drawn built protected_ drawn' next before resuming
  obtain ⟨requestDER, encoded⟩ := sealing.encodes credentials drawn' next message sealed_
  refine ⟨message, requestDER, ?_, messages.protect_body _ _ _ _ sealed_⟩
  unfold protectMessage
  rw [sealed_]
  dsimp only
  rw [encoded]

theorem withSenderKID_body (message : PKIMessage) : (withSenderKID request message).body = message.body := by
  unfold withSenderKID
  split <;> rfl

theorem configuredCredentials_known {operation : String} {credentials : Credentials} {f : Credentials → Go GoError α}
    (known : credentialsFor lib request = .pure credentials) (rest : Sending bodies P (f credentials)) :
    Sending bodies P (configuredCredentials lib operation request >>= f) := by
  unfold configuredCredentials
  rw [known]
  exact rest

/-- The bodies of a confirmation: the certConf, or the poll after it was delayed. -/
def Body.Confirming : Body → Prop
  | .pollReq ids => ids = [responseCertReqIDStandard]
  | .certConf statuses => ∃ status, statuses = [status]
  | _ => False

theorem Body.Confirming.resuming {body : Body} (h : body.Confirming) : body.Resuming := by
  cases body <;> trivial

theorem pollP10CR_sending (messages : MessageLaws lib) (sealing : SealingLaws lib) {poll : PollRequest}
    {csr : CertificateRequest} (equipped : Equipped lib poll.enrollment)
    (identified : poll.enrollment.transactionID ≠ []) (nonce : poll.recipNonce ≠ [])
    (parsed : lib.parseCertificateRequest poll.enrollment.csrDER = .ok csr)
    (wanted : bodies (.pollReq [poll.certReqID])) : Sending bodies P (pollP10CR lib poll) := by
  obtain ⟨credentials, drawn₀, built, protected_, known, before⟩ := equipped.credentials
  refine sending_outcome equipped.valid ?_
  rw [if_neg (by simp [identified, nonce])]
  refine sending_outcome (a := csr) (by rw [requestCSR, parsed]; rfl) ?_
  refine configuredCredentials_known known (sending_entropy fun drawn => ?_)
  have body : (withSenderKID poll.enrollment (lib.newPKIMessage (.pollReq [poll.certReqID])
      (messageOptions lib poll.enrollment (requestSender lib poll.enrollment) poll.recipNonce) drawn)).body =
        .pollReq [poll.certReqID] := by
    rw [withSenderKID_body]
    exact messages.body _ _ _
  obtain ⟨message, requestDER, sealed_, same⟩ := protectMessage_again messages sealing "pollReq" drawn
    before (by rw [body]; trivial)
  have sent : bodies message.body := by
    rw [same, body]
    exact wanted
  exact sending_outcome sealed_ ((exchangeMessage_sending equipped sent).bind _)

/-- The message of a confirmation is built once the hash of the certificate is known. -/
theorem confirmationMessage_sending (messages : MessageLaws lib) {confirm : ConfirmRequest} {leaf : Certificate}
    {status : CertStatus} {f : PKIMessage × Entropy × String → Go GoError α} (present : confirm.certificate = some leaf)
    (hashed : lib.newCertStatus leaf confirm.certReqID = .ok status)
    (rest : ∀ message drawn operation, message.body.Confirming →
      Sending bodies P (f (message, drawn, operation))) :
    Sending bodies P (confirmationMessage lib request confirm none >>= f) := by
  unfold confirmationMessage
  rw [present]
  dsimp only
  rw [hashed]
  refine sending_entropy fun drawn => ?_
  dsimp only
  split
  · refine rest _ drawn _ ?_
    rw [withSenderKID_body]
    split <;> simp only [messages.body] <;> rfl
  · refine rest _ drawn _ ?_
    rw [withSenderKID_body, messages.body]
    exact ⟨_, rfl⟩

theorem confirmP10CR_sending (messages : MessageLaws lib) (sealing : SealingLaws lib) {confirm : ConfirmRequest}
    {leaf : Certificate} {status : CertStatus} (equipped : Equipped lib confirm.enrollment)
    (identified : confirm.enrollment.transactionID ≠ []) (present : confirm.certificate = some leaf)
    (usage : validateMLDSAKeyUsage leaf = .ok ()) (hashed : lib.newCertStatus leaf confirm.certReqID = .ok status)
    (wanted : ∀ body : Body, body.Confirming → bodies body) : Sending bodies P (confirmP10CR lib confirm) := by
  obtain ⟨credentials, drawn₀, built, protected_, known, before⟩ := equipped.credentials
  unfold confirmP10CR
  dsimp only
  refine sending_outcome equipped.valid ?_
  rw [present]
  dsimp only
  rw [if_neg identified]
  refine sending_outcome (a := ()) (by rw [usage]; rfl) ?_
  refine configuredCredentials_known known ?_
  refine confirmationMessage_sending messages present hashed ?_
  intro built drawn operation confirms
  obtain ⟨message, requestDER, sealed_, same⟩ := protectMessage_again messages sealing operation drawn
    before confirms.resuming
  refine Reaches.bind (sending_outcome sealed_ ?_) _
  exact exchangeMessage_sending equipped (wanted _ (same ▸ confirms))

theorem protocolClient_sending {call : ClientCall} (serving : Sending bodies P (serve lib call)) :
    Sending bodies P (protocolClient lib call) := sending_handOver serving

end

/-- The message that the phase of a record asks for. -/
structure NextBody (record : CMPTransaction) (body : Body) : Prop where
  polling : record.status.phase = .polling → ∃ certReqID, record.status.certReqID = some certReqID ∧
    body = .pollReq [certReqID]
  confirming : record.status.phase = .confirming → body.Confirming

section
variable {lib : Library} {P : Time → Prop} {record : CMPTransaction} {enrollment : EnrollmentRequest}
  {limits : TransactionSpec} {csrDER : Bytes}

theorem exchange_sending (messages : MessageLaws lib) (sealing : SealingLaws lib)
    (resumable : Resumable lib enrollment record) (identified : enrollment.transactionID ≠ [])
    (phase : record.status.phase = .polling) (nonce : record.status.recipNonce ≠ [])
    (budget : record.status.polls < limits.maximumPolls)
    (inTime : ∀ instant, P instant → instant ≤ record.spec.deadline) :
    Sending (NextBody record) P (exchange lib enrollment record limits) := by
  refine sending_now fun instant holds => ?_
  rw [if_neg (not_lt.mpr (inTime instant holds)), if_neg (not_not.mpr phase)]
  obtain ⟨certReqID, known⟩ := Option.isSome_iff_exists.mp resumable.identified
  obtain ⟨signer, retained⟩ := retainedSigner_iff.mpr resumable.signer
  obtain ⟨csr, parsed⟩ := resumable.parsed phase
  cases present : record.status.recipNonce with
  | nil => exact absurd present nonce
  | cons first rest =>
      rw [known]
      dsimp only
      rw [if_neg (not_le.mpr budget)]
      refine sending_outcome retained (protocolClient_sending ?_)
      exact pollP10CR_sending messages sealing resumable.equipped identified (List.cons_ne_nil _ _) parsed
        ⟨fun _ => ⟨certReqID, known, rfl⟩, fun other => (by rw [phase] at other; cases other)⟩

/-- The leaf that a record in phase Confirming can be resumed with is the one its chain starts with. -/
theorem Resumable.leaf (resumable : Resumable lib enrollment record) (phase : record.status.phase = .confirming)
    {chain : List Certificate} (recorded : recordedChain lib record csrDER = .ok chain) :
    ∃ leaf rest certReqID status, chain = leaf :: rest ∧ validateMLDSAKeyUsage leaf = .ok () ∧
      record.status.certReqID = some certReqID ∧ lib.newCertStatus leaf certReqID = .ok status := by
  obtain ⟨leaf, rest, encoded, rfl, head, parsed, usage⟩ := recordedChain_parsed recorded
  obtain ⟨stored, certReqID, status, head', reads, known, hashed⟩ := resumable.confirmable phase
  cases head.symm.trans head'
  cases reads.symm.trans parsed
  exact ⟨leaf, rest, certReqID, status, rfl, usage, known, hashed⟩

theorem resumeConfirmation_sending (messages : MessageLaws lib) (sealing : SealingLaws lib)
    {chain : List Certificate} (resumable : Resumable lib enrollment record)
    (identified : enrollment.transactionID ≠ []) (phase : record.status.phase = .confirming)
    (budget : record.status.polls < limits.maximumPolls)
    (inTime : ∀ instant, P instant → instant ≤ record.spec.deadline)
    (recorded : recordedChain lib record csrDER = .ok chain)
    (verifies : ∀ instant, P instant → ∃ trusted, trustedRecordedChain lib instant chain enrollment.cmpTrust
      (enrollment.cmpTrustCertificates ++ enrollment.cmpResponseCertificates) = .ok trusted) :
    Sending (NextBody record) P (resumeConfirmation lib record enrollment limits csrDER) := by
  obtain ⟨leaf, rest, certReqID, status, rfl, usage, known, hashed⟩ := resumable.leaf phase recorded
  obtain ⟨signer, retained⟩ := retainedSigner_iff.mpr resumable.signer
  unfold resumeConfirmation Reported.resumeConfirmation
  dsimp only [quiet_run]
  rw [recorded]
  refine sending_now fun instant holds => ?_
  obtain ⟨trusted, verified⟩ := verifies instant holds
  obtain ⟨later, rfl⟩ := trustedRecordedChain_head verified
  rw [verified, known]
  refine sending_outcome retained (sending_now fun instant' holds' => ?_)
  rw [if_neg (not_lt.mpr (inTime instant' holds')), if_neg (not_le.mpr budget)]
  refine sending_attempt (protocolClient_sending ?_)
  exact confirmP10CR_sending messages sealing resumable.equipped identified rfl usage hashed
    fun body confirms => ⟨fun other => (by rw [phase] at other; cases other), fun _ => confirms⟩

variable {request : CertificateRequestObject} {operation : Operation} {started : Time} {prepared : Prepared}

/-- A record that the last call left behind is taken to its next message. -/
theorem continueTransaction_sending (messages : MessageLaws lib) (sealing : SealingLaws lib)
    (resumable : Resumable lib prepared.enrollment record) (identified : record.spec.transactionID ≠ [])
    (unfinished : record.status.phase = .polling ∨ record.status.phase = .confirming)
    (nonce : record.status.phase = .polling → record.status.recipNonce ≠ [])
    (budget : record.status.polls < prepared.configuration.transaction.maximumPolls)
    (inTime : ∀ instant, P instant → instant ≤ record.spec.deadline)
    (verifies : record.status.phase = .confirming → ∃ chain, recordedChain lib record csrDER = .ok chain ∧
      ∀ instant, P instant → ∃ trusted, trustedRecordedChain lib instant chain prepared.enrollment.cmpTrust
        (prepared.enrollment.cmpTrustCertificates ++ prepared.enrollment.cmpResponseCertificates) =
          .ok trusted) :
    Sending (NextBody record) P (continueTransaction lib request operation csrDER started prepared record) := by
  unfold continueTransaction Reported.continueTransaction
  dsimp only [quiet_run, quiet_issued]
  have equipped := resumable.equipped
  split
  · rename_i phase
    obtain ⟨chain, recorded, trusts⟩ := verifies phase
    exact resumeConfirmation_sending messages sealing
      { resumable with equipped := ⟨equipped.valid, equipped.reachable, equipped.credentials⟩ } identified phase
      budget inTime recorded trusts
  · rename_i other
    have phase := unfinished.resolve_right other
    refine sending_attempt (exchange_sending messages sealing
      { resumable with equipped := ⟨equipped.valid, equipped.reachable, equipped.credentials⟩ } identified phase
      (nonce phase) budget inTime)

abbrev unsending : Monitor interface Trail := recorder fun o => ¬ o.IsMessage

theorem unsending_free : Undemanding unsending := by
  rintro t o plain ⟨sent, rfl⟩
  cases plain

theorem continueTransaction_stuck (phase : record.status.phase = .polling) (missing : record.status.recipNonce = [])
    {t : Trail} : Follows unsending (fun _ _ => True) t
      (continueTransaction lib request operation csrDER started prepared record) := by
  unfold continueTransaction Reported.continueTransaction
  dsimp only [quiet_run, quiet_issued]
  rw [if_neg (by rw [phase]; decide), follows_bind, follows_tried]
  refine follows_ask_bind.mpr ⟨by rintro ⟨_, ⟨⟩⟩, fun instant => ?_⟩
  split
  · exact failTransaction_relies unsending_free
  · rw [if_neg (not_not.mpr phase), missing]
    cases record.status.certReqID <;> exact failTransaction_relies unsending_free

end

section
variable {lib : Library} {job : Job} {record : CMPTransaction} {csrDER : Bytes} {answer : (o : Op) → o.Answer}
  {t : Trail} {q : Go GoError Bytes}

/-- A call that finds a record it resumes gets to the preparation of its request. -/
theorem sign_resumed {configuration : RuntimeConfiguration} (resumes : Resumes lib job record csrDER)
    (value : (issuerConfiguration lib job.clusterResourceNamespace job.issuer).eval answer = .ok configuration)
    (found : ∀ key stored, (⟨.getTransaction key, stored⟩ : Event interface) ∈ t → stored = .ok record)
    (shown : ShownBy answer t)
    (path : Path (sign lib job.clusterResourceNamespace job.request job.issuer) t q)
    (stops : q.StopsAt Op.IsMessage) :
    ∃ started reads v, t = ⟨.now, started⟩ :: ⟨.getTransaction job.request.key, .ok record⟩ :: (reads ++ v) ∧
      (∀ e ∈ reads, e.op.shown = true) ∧
      Path (prepareEnrollment lib job.request job.issuer record.spec.operation record.spec.renewalFallback csrDER
        configuration >>= fun prepared =>
          if record.spec.configurationDigest ≠ prepared.configuration.configurationDigest then
            failTransaction record
              (.permanent (.text "issuer credentials changed during the recorded CMP transaction"))
          else continueTransaction lib job.request record.spec.operation csrDER
            (transactionStartTime record started) prepared record) v q := by
  have quiet : ∀ o : Op, (∀ sent, o ≠ .send sent) → ¬ o.IsMessage := fun o other ⟨sent, same⟩ => other sent same
  obtain ⟨selected, selection, valid⟩ := resumes.valid
  obtain ⟨started, t, rfl, starting⟩ := Path.perform_stop (S := interface) Op.now path stops (quiet _ (by rintro _ ⟨⟩))
  rcases path_outcome_stop starting with ⟨_, failed, _⟩ | ⟨_, csr, requesting⟩
  · cases failed.symm.trans resumes.csr
  cases csr.symm.trans resumes.csr
  rcases path_outcome_stop requesting with ⟨_, failed, _⟩ | ⟨_, chosen, loading⟩
  · rw [selection] at failed
    cases failed
  rw [selection] at chosen
  cases chosen
  change Path (Program.op (S := interface) (Op.getTransaction job.request.key) _) t q at loading
  cases loading with
  | refl => exact absurd (stops _ _ rfl) (quiet _ (by rintro _ ⟨⟩))
  | @step _ _ stored t _ working =>
      obtain rfl := found job.request.key stored (List.mem_cons_of_mem _ List.mem_cons_self)
      have signing : Path (signResumed lib job.clusterResourceNamespace job.request job.issuer started csrDER
          selected record) t q := by
        change Path ((if record.spec.certificateRequestUID = job.request.uid then Pure.pure (some record)
          else _ : Go GoError (Option CMPTransaction)) >>= _) t q at working
        rw [if_pos resumes.own] at working
        exact working
      unfold signResumed Reported.signResumed at signing
      dsimp only [quiet_run, quiet_deferring] at signing
      rw [valid] at signing
      simp only [if_neg resumes.unissued, resumes.issuer, ne_eq, not_true_eq_false, if_false] at signing
      have looks : Follows looking (fun _ _ => True) []
          (issuerConfiguration lib job.clusterResourceNamespace job.issuer) :=
        relies_mapError loadRuntimeConfiguration_looks
      obtain ⟨reads, v, rfl, only, _, preparing⟩ := looks.stop_value Op.shown_quiet signing stops
        (fun e member => shown e (List.mem_cons_of_mem _ (List.mem_cons_of_mem _ member))) value
      exact ⟨started, reads, v, rfl, only, preparing⟩

/-- The certificate that a renewal of this request updates, as the cluster shows it: the first one in the
Secret of the Certificate that controls the request. -/
def currentCertificate (lib : Library) (answer : (o : Op) → o.Answer) (request : CertificateRequestObject) :
    Option Certificate :=
  match request.ownerReferences.filter fun owner => owner.controller == some true with
  | [owner] =>
      match answer (.getCertificate ⟨request.namespace_, owner.name⟩) with
      | .error _ => none
      | .ok certificate =>
          match answer (.getSecret ⟨request.namespace_, certificate.secretName⟩) with
          | .error _ => none
          | .ok secret =>
              match parseCertificates lib ((secret.data.lookup tlsCertKey).getD []) with
              | .ok (current :: _) => some current
              | _ => none
  | _ => none

theorem AuthorizedKUR.current {key : Signer} {signature : SignatureProtection}
    (authorized : AuthorizedKUR lib job.request job.issuer csrDER t key signature) (shown : ShownBy answer t) :
    currentCertificate lib answer job.request = some signature.certificate := by
  obtain ⟨revision, certificate, owned, _, _, current⟩ := authorized.certificate
  obtain ⟨owner, single, _, _, _, _, read⟩ := owned.owner
  obtain ⟨secret, data, member, _, _, stored, parsed, _⟩ := current.secret
  have owning := shown _ read rfl
  have holding := shown _ (mem_of_secretsRead member) rfl
  unfold currentCertificate
  rw [single]
  dsimp only at owning holding ⊢
  rw [← owning]
  dsimp only
  rw [← holding]
  dsimp only
  rw [stored, Option.getD_some, parsed]

/-- The instants at which the clock was read, in order. -/
def clockReadings (t : Trail) : List Time := t.filterMap clockRead

theorem clockReadings_shown (shown : ∀ e ∈ t, e.op.shown = true) : clockReadings t = [] := by
  refine List.filterMap_eq_nil_iff.mpr fun e member => ?_
  have kind := shown e member
  obtain ⟨o, answer⟩ := e
  cases o <;> first | rfl | cases kind

/-- A call during which nothing has changed since its record was written: it finds that record and what the
cluster shows, within the deadline and the poll limit, and the recorded chain still verifies. -/
structure Undisturbed (lib : Library) (answer : (o : Op) → o.Answer) (job : Job) (record : CMPTransaction)
    (t : Trail) : Prop where
  found : ∀ key stored, (⟨.getTransaction key, stored⟩ : Event interface) ∈ t → stored = .ok record
  shown : ShownBy answer t
  inTime : ∀ instant ∈ clockReadings t, instant ≤ record.spec.deadline
  budget : record.status.polls < (transactionLimitsWithDefaults job.issuer.spec.transaction).maximumPolls
  verifies : record.status.phase = .confirming → ∃ csrDER configuration chain,
    requestedCSR lib job.request = .ok csrDER ∧
    (loadRuntimeConfiguration lib job.clusterResourceNamespace job.issuer).eval answer = .ok configuration ∧
    recordedChain lib record csrDER = .ok chain ∧
    ∀ instant ∈ clockReadings t, ∃ trusted, trustedRecordedChain lib instant chain
      configuration.enrollmentRequest.cmpTrust (configuration.enrollmentRequest.cmpTrustCertificates ++
        configuration.enrollmentRequest.cmpResponseCertificates) = .ok trusted

theorem mem_clockReadings {e : Event interface} (member : e ∈ t) :
    ClockIn (fun instant => instant ∈ clockReadings t) e :=
  fun _ read => List.mem_filterMap.mpr ⟨e, member, read⟩

/-- What is left of an undisturbed call once its request is prepared. -/
theorem Undisturbed.continues {hold : Hold} {prepared : Prepared} {first : Trail}
    (undisturbed : Undisturbed lib answer job record t) (messages : MessageLaws lib) (sealing : SealingLaws lib)
    (underway : Underway lib job first hold csrDER prepared) (shown : ShownBy answer first)
    (resumable : Resumable lib prepared.enrollment record) (identified : record.spec.transactionID ≠ [])
    (unfinished : record.status.phase = .polling ∨ record.status.phase = .confirming) {started : Time} {v : Trail}
    (within : v ⊆ t) (unsent : ∀ e ∈ t, ¬ e.op.IsMessage) (stops : q.StopsAt Op.IsMessage)
    (path : Path (continueTransaction lib job.request record.spec.operation csrDER started prepared record) v q) :
    (∃ sent next, q = .op (.send sent) next ∧ NextBody record sent.message.body) ↔
      (record.status.phase = .polling → record.status.recipNonce ≠ []) := by
  constructor
  · rintro ⟨sent, next, rfl, _⟩ phase missing
    exact (continueTransaction_stuck phase missing (t := [])).allows path ⟨sent, rfl⟩
  · intro nonce
    obtain ⟨earlier, reads, between, work, last, configuration, rfl, loading, preparing⟩ := underway.preparation
    have made : PreparedFrom lib job.request csrDER hold.record.spec.operation configuration work prepared :=
      prepareEnrollment_material.outcome (r := .ok prepared) preparing
    obtain ⟨roots, anchors, responses, _⟩ := made.trust
    have value : (loadRuntimeConfiguration lib job.clusterResourceNamespace job.issuer).eval answer =
        .ok configuration := by
      refine Path.evaluated (r := .ok configuration) loading fun e member => shown e ?_ ?_
      · simp [member]
      · exact (loadRuntimeConfiguration_looks (t := [])).quiet loading e member
    have sending : Sending (NextBody record) (fun instant => instant ∈ clockReadings t)
        (continueTransaction lib job.request record.spec.operation csrDER started prepared record) := by
      refine continueTransaction_sending messages sealing resumable identified unfinished nonce
        (underway.limits ▸ undisturbed.budget) undisturbed.inTime fun phase => ?_
      · obtain ⟨_, _, chain, same, value', recorded, trusts⟩ := undisturbed.verifies phase
        cases same.symm.trans underway.suits.csr
        cases value'.symm.trans value
        rw [roots, anchors, responses]
        exact ⟨chain, recorded, trusts⟩
    obtain ⟨o, next, rfl, _, sent, rfl, body⟩ := sending.stop path stops (fun e member => unsent e (within member))
      fun e member => mem_clockReadings (within member)
    exact ⟨sent, next, rfl, body⟩

theorem clockReadings_second (started instant : Time) (found : Except ApiError CMPTransaction) (key : NamespacedName)
    (rest : Trail) {reads reads' : Trail} (only : ∀ e ∈ reads, e.op.shown = true)
    (only' : ∀ e ∈ reads', e.op.shown = true) :
    (clockReadings (⟨.now, started⟩ :: ⟨.getTransaction key, found⟩ ::
      (reads ++ (reads' ++ [⟨.now, instant⟩] ++ rest))))[1]? = some instant := by
  have none : clockReadings reads = [] := clockReadings_shown only
  have none' : clockReadings reads' = [] := clockReadings_shown only'
  unfold clockReadings at none none' ⊢
  simp [List.filterMap_cons, clockRead, none, none']

/-- What an undisturbed call depends on: a record in phase Polling has a nonce to poll with, and the
certificate of a key update is valid when the clock is read for the second time. -/
structure Prompt (lib : Library) (answer : (o : Op) → o.Answer) (job : Job) (record : CMPTransaction) (t : Trail) :
    Prop where
  nonce : record.status.phase = .polling → record.status.recipNonce ≠ []
  current : record.spec.operation = .kur → ∀ current instant,
    currentCertificate lib answer job.request = some current → (clockReadings t)[1]? = some instant →
    current.ValidAt instant

theorem Undisturbed.sends_iff {hold : Hold} {prepared : Prepared} {first : Trail}
    (undisturbed : Undisturbed lib answer job record t) (messages : MessageLaws lib) (sealing : SealingLaws lib)
    (sized : FixedSize lib) (underway : Underway lib job first hold csrDER prepared) (shown : ShownBy answer first)
    (same : record.terms = hold.record.terms) (resumable : Resumable lib prepared.enrollment record)
    (identified : record.spec.transactionID ≠ [])
    (unfinished : record.status.phase = .polling ∨ record.status.phase = .confirming)
    (path : Path (sign lib job.clusterResourceNamespace job.request job.issuer) t q)
    (unsent : ∀ e ∈ t, ¬ e.op.IsMessage) (stops : q.StopsAt Op.IsMessage) :
    (∃ sent next, q = .op (.send sent) next ∧ NextBody record sent.message.body) ↔
      Prompt lib answer job record t := by
  have field : ∀ {β : Type} (f : CMPTransactionSpec → β), f record.terms = f hold.record.terms := by
    intro β f
    rw [same]
  have operation : record.spec.operation = hold.record.spec.operation := field (·.operation)
  have fallback : record.spec.renewalFallback = hold.record.spec.renewalFallback := field (·.renewalFallback)
  have digest : record.spec.configurationDigest = prepared.configuration.configurationDigest :=
    (field (·.configurationDigest) : record.spec.configurationDigest = _).trans underway.digest
  have resumes := underway.resumes sized same (by rcases unfinished with phase | phase <;> rw [phase] <;> decide)
  obtain ⟨earlier, reads, between, work, last, configuration, rfl, loading, preparing⟩ := underway.preparation
  have value : (issuerConfiguration lib job.clusterResourceNamespace job.issuer).eval answer =
      .ok configuration := by
    refine Path.evaluated (r := .ok configuration) (loading.mapError _) fun e member => shown e ?_ ?_
    · simp [member]
    · exact (loadRuntimeConfiguration_looks (t := [])).quiet loading e member
  have worked : ShownBy answer work := shown.mono (by intro e; simp +contextual)
  obtain ⟨started, reads', v, rfl, only, rest⟩ :=
    sign_resumed resumes value undisturbed.found undisturbed.shown path stops
  have shown' : ∀ {w}, w ⊆ v → ShownBy answer w := fun within =>
    undisturbed.shown.mono fun e member =>
      List.mem_cons_of_mem _ (List.mem_cons_of_mem _ (List.mem_append_right _ (within member)))
  rw [← operation, ← fallback] at preparing
  have continues : ∀ {u w}, v = u ++ w →
      Path (continueTransaction lib job.request record.spec.operation csrDER
        (transactionStartTime record started) prepared record) w q →
      ((∃ sent next, q = .op (.send sent) next ∧ NextBody record sent.message.body) ↔
        (record.status.phase = .polling → record.status.recipNonce ≠ [])) := by
    rintro u w rfl continuing
    refine undisturbed.continues messages sealing underway shown resumable identified unfinished ?_ unsent stops
      continuing
    intro e member
    simp [member]
  have updated : record.spec.operation = .kur → ∀ signature,
      prepared.enrollment.protection.signature = some signature →
      currentCertificate lib answer job.request = some signature.certificate := by
    intro update signature present
    have authorizes : Authorizes lib job.request job.issuer record.spec.operation record.spec.renewalFallback csrDER
        work prepared.enrollment := prepareEnrollment_authorizes.outcome (r := .ok prepared) preparing
    obtain ⟨key, other, _, protection, authorized, _⟩ := authorizes.kur update
    rw [protection] at present
    cases present
    exact authorized.current worked
  rcases prepareEnrollment_reads.stop Op.silent_quiet rest stops with
    ⟨fault, failing, rfl⟩ | ⟨prepared', u, w, rfl, done, deciding⟩
  · rcases prepareEnrollment_again (r := .error fault) preparing worked failing (shown' (List.Subset.refl _)) with
      ⟨_, ⟨⟩, _⟩ | ⟨update, signature, reads₂, instant, present, rfl, only₂, valid, _⟩
    refine iff_of_false (by rintro ⟨_, _, ⟨⟩, _⟩) fun prompt => ?_
    have read := clockReadings_second started instant (.ok record) job.request.key [] only only₂
    rw [List.append_nil] at read
    cases valid (prompt.current update _ _ (updated update _ present) read)
  · have again := prepareEnrollment_again (r := .ok prepared') preparing worked done
      (shown' (List.subset_append_left _ _))
    obtain ⟨rfl, usable⟩ : prepared' = prepared ∧ (record.spec.operation = .kur → ∀ current instant,
        currentCertificate lib answer job.request = some current →
        (clockReadings (⟨.now, started⟩ :: ⟨.getTransaction job.request.key, .ok record⟩ ::
          (reads' ++ (u ++ w))))[1]? = some instant → current.ValidAt instant) := by
      rcases again with ⟨other, same, _⟩ | ⟨update, signature, reads₂, instant, present, rfl, only₂, valid, invalid⟩
      · exact ⟨Except.ok.inj same, fun update => absurd update other⟩
      · have holds : signature.certificate.ValidAt instant := by
          by_contra bad
          obtain ⟨_, ⟨⟩⟩ := invalid bad
        refine ⟨Except.ok.inj (valid holds), fun update current other known read => ?_⟩
        cases known.symm.trans (updated update _ present)
        cases read.symm.trans (clockReadings_second started instant (.ok record) job.request.key w only only₂)
        exact holds
    rw [if_neg (not_not.mpr digest)] at deciding
    rw [continues rfl deciding]
    exact ⟨fun nonce => ⟨nonce, usable⟩, fun prompt => prompt.nonce⟩

end

/-- A record keeps no response signer before phase Polling. -/
def Cluster.Unsigned (uid : String) (cluster : Cluster) : Prop :=
  ∀ record ∈ cluster.past, record.spec.certificateRequestUID = uid →
    record.status.phase ∉ [Phase.polling, .confirming, .issued] → record.status.responseSigner = []

section
variable {lib : Library} {subject : Subject} {slot : Option CMPTransaction} {pool : Signers}

theorem Records.late {record : CMPTransaction} {exchange : Exchange} {status : CMPTransactionStatus}
    {trail : Trail} (records : Records lib trail record exchange status) :
    status.phase ∈ [Phase.polling, .confirming, .issued] := by
  cases records with
  | pending => exact .head _
  | confirming | delayed => exact .tail _ (.head _)
  | issued | confirmed => exact .tail _ (.tail _ (.head _))

theorem Orderly.unsigned {cluster : Cluster} {sessions : List Session} {session : Session}
    (orderly : Orderly lib subject cluster (sessions ++ [session])) (unsigned : cluster.Unsigned subject.uid)
    {o : Op} {answer : o.Answer} {after : Option CMPTransaction} (allowed : (contract lib).allows session o)
    (served : cluster.ambiguous o answer after) :
    (cluster.step sessions.length ⟨o, answer⟩ after).Unsigned subject.uid := by
  have member : session ∈ sessions ++ [session] := List.mem_append_right _ List.mem_cons_self
  intro record past own early
  rcases Cluster.mem_past_step past with old | rfl
  · exact unsigned record old own early
  have change := Cluster.ambiguous.change served
  generalize stored : some record = after at change
  cases change with
  | keep => exact unsigned record (orderly.consistent.ordered.mem stored.symm) own early
  | create => cases stored; rfl
  | update written old resourceVersion found current =>
      rw [(orderly.consistent.updated member allowed found current _).2] at stored
      cases stored
      obtain ⟨before, kept, known, _, advances, _⟩ := orderly.consistent.forward member allowed
      rcases allowed with ⟨created, t, stage, rfl⟩ | ⟨hold, exchange, status, stage, records, rfl⟩
      · rw [stage] at known
        obtain rfl : created = before := Option.some.inj known
        have rank : created.status.phase.rank ≤ Phase.enrolling.rank := advances.phase
        refine unsigned created kept (advances.owner.symm.trans own) fun late => ?_
        simp only [List.mem_cons, List.not_mem_nil, or_false] at late
        rcases late with phase | phase | phase <;> rw [phase] at rank <;> simp [Phase.rank] at rank
      · exact absurd records.late early
  | delete => cases stored

theorem SequentialRun.unsigned (run : SequentialRun lib subject slot pool) (unclaimed : Unclaimed subject slot) :
    Orderly lib subject pool.world (pool.sessions lib) ∧ pool.world.Unsigned subject.uid := by
  refine Pool.Reach.sequence (J := fun cluster sessions => Orderly lib subject cluster sessions ∧
    cluster.Unsigned subject.uid) (fun job _ => sign_follows lib job) ?_ ?_ (fun _ _ => id) ⟨.start unclaimed, ?_⟩ run
  · exact fun _ _ job wanted holds => ⟨holds.1.spawn wanted, holds.2⟩
  · rintro _ _ session o answer _ ⟨orderly, unsigned⟩ allowed ⟨after, served, rfl⟩
    exact ⟨orderly.act allowed served, orderly.unsigned unsigned allowed served⟩
  · intro record member own
    exact absurd own (unclaimed record (Option.mem_toList.mp member)).2

abbrev Call := Thread interface (Fault GoError) Bytes Job

/-- The call after one that recorded a wait. Calls for one CertificateRequest run one after the other. One of
them has recorded phase Polling or Confirming and asked for a requeue, and a later one for the same request and
issuer finds that record, in a cluster that shows both the same and within the limits of the issuer. Taken up to
its first message, the later call sends the message of the recorded phase exactly when a record in phase Polling
has a nonce to poll with and the certificate of a key update is still valid. -/
theorem next_call_sends_iff {lib : Library} (messages : MessageLaws lib) (parsing : ParsingLaws lib)
    (sealing : SealingLaws lib) (sized : FixedSize lib) {subject : Subject} {slot : Option CMPTransaction}
    (unclaimed : Unclaimed subject slot) {pool : Signers} (run : SequentialRun lib subject slot pool)
    {answer : (o : Op) → o.Answer} {first second : Call} (past : first ∈ pool.threads)
    (later : second ∈ pool.threads) (unchanged : second.job = first.job) {err : GoError} {delay : Duration}
    (pending : first.program = .throw (.error (.pending err delay))) {written : CMPTransaction} {version : String}
    (recorded : (⟨.updateTransactionStatus written, .ok version⟩ : Event interface) ∈ first.trace)
    (unfinished : written.status.phase = .polling ∨ written.status.phase = .confirming)
    (shown : ShownBy answer first.trace)
    (undisturbed : Undisturbed lib answer second.job (written.updated version) second.trace)
    (unsent : ∀ e ∈ second.trace, ¬ e.op.IsMessage) (stops : second.program.StopsAt Op.IsMessage) :
    (∃ sent next, second.program = .op (.send sent) next ∧ NextBody (written.updated version) sent.message.body) ↔
      Prompt lib answer second.job (written.updated version) second.trace := by
  obtain ⟨orderly, unsigned⟩ := run.unsigned unclaimed
  obtain ⟨wanted, path⟩ := Pool.Reach.path run first past
  obtain ⟨_, path'⟩ := Pool.Reach.path run second later
  have named : first.job.request.uid = subject.uid := congrArg Subject.uid wanted
  rw [pending] at path
  obtain ⟨u, v, hold, csrDER, prepared, split, underway, resumable, terms⟩ :=
    sign_resumable parsing path recorded unfinished fun u v hold split held own early =>
      .inl (unsigned hold.record (run.shared.worked unclaimed past split (by rw [held]; rfl)) (own.trans named) early)
  have worked := run.shared.worked unclaimed past split (by rw [underway.held]; rfl)
  have identified : written.spec.transactionID ≠ [] := by
    have same : written.terms.transactionID = hold.record.terms.transactionID := by rw [terms]
    change written.spec.transactionID = hold.record.spec.transactionID at same
    rw [same]
    exact orderly.named hold.record worked (underway.own.trans named)
  rw [unchanged] at undisturbed path' ⊢
  have resumable' : Resumable lib prepared.enrollment (written.updated version) :=
    ⟨resumable.equipped, resumable.signer, resumable.identified, resumable.parsed, resumable.confirmable⟩
  exact undisturbed.sends_iff messages sealing sized underway (shown.mono (by simp [split])) terms resumable'
    identified unfinished path' unsent stops

end

def Deployment.shows (d : Deployment) (o : Op) : o.Answer := (d.respond o).1

theorem Deployment.runAs_shown {d s : Deployment} (same : s.secrets = d.secrets ∧ s.certificates = d.certificates)
    (thread : Nat) (lib : Library) (job : Job) (n : Nat) : ShownBy d.shows (s.runAs thread lib job n).1 ∧
      (s.runAs thread lib job n).2.1.secrets = d.secrets ∧
      (s.runAs thread lib job n).2.1.certificates = d.certificates := by
  refine Program.advance_forall (I := fun s : Deployment =>
    s.secrets = d.secrets ∧ s.certificates = d.certificates)
    (P := fun e : Event interface => e.op.shown = true → e.answer = d.shows e.op) ?_ n s _ same
  rintro s o ⟨secrets, certificates⟩
  refine ⟨fun kind => ?_, secrets, certificates⟩
  cases o with
  | getSecret key => exact congrFun secrets key
  | getCertificate key => exact congrFun certificates key
  | _ => cases kind

/-- A call and the next one, each taken as far as wanted. -/
def Deployment.firstCall (d : Deployment) (lib : Library) (job : Job) (n : Nat) : Call :=
  ⟨job, (d.runAs 0 lib job n).1, (d.runAs 0 lib job n).2.2⟩

def Deployment.nextCall (d : Deployment) (lib : Library) (job : Job) (n m : Nat) : Call :=
  ⟨job, ((d.runAs 0 lib job n).2.1.runAs 1 lib job m).1, ((d.runAs 0 lib job n).2.1.runAs 1 lib job m).2.2⟩

theorem Deployment.two_calls (d : Deployment) (lib : Library) (job : Job) (n m : Nat) {slot : Option CMPTransaction}
    (initial : d.cluster = .start slot) : ∃ pool, SequentialRun lib job.subject slot pool ∧
      d.firstCall lib job n ∈ pool.threads ∧ d.nextCall lib job n m ∈ pool.threads ∧
      ShownBy d.shows (d.firstCall lib job n).trace ∧ ShownBy d.shows (d.nextCall lib job n m).trace := by
  have start : SequentialRun lib job.subject slot ⟨d.cluster, []⟩ := initial ▸ .init
  let wanted : Job → Prop := fun other => other.subject = job.subject
  have one := @reach_call d lib job n wanted rfl _ _ start
  have two := @reach_call (d.runAs 0 lib job n).2.1 lib job m wanted rfl _ _ one
  obtain ⟨shown, kept⟩ := Deployment.runAs_shown (d := d) ⟨rfl, rfl⟩ 0 lib job n
  exact ⟨_, two, by simp [firstCall], by simp [nextCall], shown, (runAs_shown kept 1 lib job m).1⟩

/-- The record that an event has written, with its new version. -/
def statusWritten : Event interface → Option (CMPTransaction × String)
  | ⟨.updateTransactionStatus record, .ok version⟩ => some (record, version)
  | _ => none

theorem mem_of_statusWritten {t : Trail} {written : CMPTransaction} {version : String}
    (h : (written, version) ∈ t.filterMap statusWritten) :
    (⟨.updateTransactionStatus written, .ok version⟩ : Event interface) ∈ t := by
  obtain ⟨⟨o, answer⟩, member, read⟩ := List.mem_filterMap.mp h
  cases o with
  | updateTransactionStatus record =>
      cases answer <;> cases read
      exact member
  | _ => cases read

/-- Whether an event reads this record, if it reads one. -/
def findsOnly (record : CMPTransaction) : Event interface → Bool
  | ⟨.getTransaction _, .ok stored⟩ => stored == record
  | ⟨.getTransaction _, .error _⟩ => false
  | _ => true

theorem found_of_findsOnly {t : Trail} {record : CMPTransaction} (h : t.all (findsOnly record) = true)
    (key : NamespacedName) (stored : Except ApiError CMPTransaction)
    (member : (⟨.getTransaction key, stored⟩ : Event interface) ∈ t) : stored = .ok record := by
  have checked := List.all_eq_true.mp h _ member
  cases stored with
  | error => cases checked
  | ok other => rw [beq_iff_eq.mp checked]

/-- A library whose digests have one byte. It knows one more answer: a wait without a nonce of its sender. -/
def waitingLibrary : Library :=
  { plainLibrary with
    sha256 := fun _ => [1]
    parseCMPCertificate := fun certificate =>
      if certificate.raw = [] then .error "no certificate" else .ok (plainCertificate certificate.raw)
    parsePKIMessage := fun data =>
      match data with
      | 6 :: nonce =>
          let response := plainResponse nonce (.cp (.ok ⟨[], [⟨-1, ⟨.waiting, [], []⟩, none⟩]⟩))
          .ok { response with header := { response.header with senderNonce := [] } }
      | other => plainLibrary.parsePKIMessage other }

theorem waitingLibrary_message : MessageLaws waitingLibrary where
  body _ _ _ := rfl
  transactionID _ _ _ _ := rfl
  senderNonce _ _ _ := rfl
  protect_body := by rintro _ _ _ _ ⟨⟩; rfl
  protect_transactionID := by rintro _ _ _ _ ⟨⟩; rfl
  protect_senderNonce := by rintro _ _ _ _ ⟨⟩; rfl

theorem waitingLibrary_parsing : ParsingLaws waitingLibrary where
  keeps := plainLibrary_encoding
  reparses := by
    intro encoded certificate parsed
    simp only [waitingLibrary] at parsed
    split at parsed <;> cases parsed
    rename_i present
    exact if_neg present

theorem waitingLibrary_sealing : SealingLaws waitingLibrary where
  protects _ _ _ _ _ next _ _ := ⟨next, rfl⟩
  encodes _ _ _ _ _ := ⟨[], rfl⟩

theorem waitingLibrary_sized : FixedSize waitingLibrary := ⟨1, by decide, fun _ => rfl⟩

theorem Op.isMessage_iff {o : Op} : o.IsMessage ↔ o.message?.isSome = true := by
  constructor
  · rintro ⟨sent, rfl⟩
    rfl
  · intro some_
    obtain ⟨sent, found⟩ := Option.isSome_iff_exists.mp some_
    exact ⟨sent, Op.eq_send found⟩

theorem unsent_of_all {t : Trail} (h : t.all (fun e => e.op.message?.isNone) = true) :
    ∀ e ∈ t, ¬ e.op.IsMessage := by
  intro e member sends
  have silent := List.all_eq_true.mp h e member
  rw [Op.isMessage_iff, ← Option.not_isNone, silent] at sends
  cases sends

def Deployment.leaves (d : Deployment) (lib : Library) (job : Job) (n : Nat) : Option (CMPTransaction × String) :=
  ((d.firstCall lib job n).trace.filterMap statusWritten).getLast?

theorem Deployment.leaves_written {d : Deployment} {lib : Library} {job : Job} {n : Nat} {written : CMPTransaction}
    {version : String} (left : d.leaves lib job n = some (written, version)) :
    (⟨.updateTransactionStatus written, .ok version⟩ : Event interface) ∈ (d.firstCall lib job n).trace :=
  mem_of_statusWritten (List.mem_of_getLast? left)

/-- A next call that is undisturbed, as a check on its events shows. -/
theorem Deployment.undisturbed {d : Deployment} {lib : Library} {job : Job} {n m : Nat} {record : CMPTransaction}
    (shown : ShownBy d.shows (d.nextCall lib job n m).trace) (phase : record.status.phase = .polling)
    (found : (d.nextCall lib job n m).trace.all (findsOnly record) = true)
    (inTime : (clockReadings (d.nextCall lib job n m).trace).all (fun instant => instant ≤ record.spec.deadline) = true)
    (budget : record.status.polls < (transactionLimitsWithDefaults job.issuer.spec.transaction).maximumPolls) :
    Undisturbed lib d.shows job record (d.nextCall lib job n m).trace where
  found := found_of_findsOnly found
  shown := shown
  inTime instant read := by simpa using List.all_eq_true.mp inTime instant read
  budget := budget
  verifies other := by
    rw [phase] at other
    cases other

/-- A wait that the server signs with a nonce, and the poll of the next call. -/
theorem next_call_sends_iff_waiting : ∃ pool first second written version answer,
    SequentialRun waitingLibrary plainJob.subject none pool ∧ first ∈ pool.threads ∧ second ∈ pool.threads ∧
    (⟨.updateTransactionStatus written, .ok version⟩ : Event interface) ∈ first.trace ∧
    written.status.phase = .polling ∧
    Undisturbed waitingLibrary answer plainJob (written.updated version) second.trace ∧
    ∃ sent next, second.program = .op (.send sent) next ∧
      NextBody (written.updated version) sent.message.body := by
  obtain ⟨d, initial, ended, ⟨⟨written, version⟩, left, phase, nonce, operation, found, inTime, budget⟩, unsent,
      ⟨sent, next⟩⟩ : ∃ d : Deployment, d.cluster = .start none ∧
      (d.firstCall waitingLibrary plainJob 40).program.outcome? = some (.error (.error (.pending
        (.text "CMP server has not issued the certificate yet, polling again in 1s") CmpIssuer.second))) ∧
      (∃ left ∈ d.leaves waitingLibrary plainJob 40, left.1.status.phase = .polling ∧
        left.1.status.recipNonce ≠ [] ∧ left.1.spec.operation = .p10cr ∧
        (d.nextCall waitingLibrary plainJob 40 6).trace.all (findsOnly (left.1.updated left.2)) = true ∧
        (clockReadings (d.nextCall waitingLibrary plainJob 40 6).trace).all
          (fun instant => instant ≤ (left.1.updated left.2).spec.deadline) = true ∧
        left.1.status.polls < (transactionLimitsWithDefaults plainJob.issuer.spec.transaction).maximumPolls) ∧
      (d.nextCall waitingLibrary plainJob 40 6).trace.all (fun e => e.op.message?.isNone) = true ∧
      ∃ sent, (d.nextCall waitingLibrary plainJob 40 6).program.next?.bind Op.message? = some sent := by
    refine ⟨plainDeployment none [plainReply 4 [9]], rfl, by decide +kernel, by decide +kernel, by decide +kernel,
      Option.isSome_iff_exists.mp (by decide +kernel)⟩
  obtain ⟨pool, run, past, later, shown, shown'⟩ := d.two_calls waitingLibrary plainJob 40 6 initial
  have undisturbed : Undisturbed _ _ _ (written.updated version) _ :=
    Deployment.undisturbed shown' phase found inTime budget
  obtain ⟨o, reached, message⟩ := Option.bind_eq_some_iff.mp next
  obtain ⟨rest, program⟩ := Program.exists_op_of_next reached
  cases Op.eq_send message
  refine ⟨pool, _, _, written, version, d.shows, run, past, later, Deployment.leaves_written left, phase,
    undisturbed, ?_⟩
  refine (next_call_sends_iff waitingLibrary_message waitingLibrary_parsing waitingLibrary_sealing
    waitingLibrary_sized (by rintro _ ⟨⟩) run past later rfl (Program.eq_ofExcept_of_outcome ended)
    (Deployment.leaves_written left) (.inl phase) shown undisturbed ?_ ?_).mpr ⟨fun _ => nonce, fun update => ?_⟩
  · exact unsent_of_all unsent
  · rw [program]
    rintro _ _ ⟨⟩
    exact ⟨sent, rfl⟩
  · cases operation.symm.trans update

/-- A wait that carries no nonce of its sender is accepted and recorded, and the next call gives the transaction
up without a message. -/
theorem wait_without_nonce_given_up : ∃ pool first second written version answer,
    SequentialRun waitingLibrary plainJob.subject none pool ∧ first ∈ pool.threads ∧ second ∈ pool.threads ∧
    second.job = first.job ∧
    first.program = .throw (.error (.pending
      (.text "CMP server has not issued the certificate yet, polling again in 1s") CmpIssuer.second)) ∧
    (⟨.updateTransactionStatus written, .ok version⟩ : Event interface) ∈ first.trace ∧
    written.status.phase = .polling ∧ written.status.recipNonce = [] ∧ ShownBy answer first.trace ∧
    Undisturbed waitingLibrary answer plainJob (written.updated version) second.trace ∧
    (∀ e ∈ second.trace, ¬ e.op.IsMessage) ∧
    second.program = .throw (.error (.permanent
      (.text "recorded CMP transaction is missing the state required to poll"))) := by
  obtain ⟨d, initial, ended, ⟨⟨written, version⟩, left, phase, nonce, found, inTime, budget⟩, unsent, failed⟩ :
      ∃ d : Deployment, d.cluster = .start none ∧
      (d.firstCall waitingLibrary plainJob 40).program.outcome? = some (.error (.error (.pending
        (.text "CMP server has not issued the certificate yet, polling again in 1s") CmpIssuer.second))) ∧
      (∃ left ∈ d.leaves waitingLibrary plainJob 40, left.1.status.phase = .polling ∧
        left.1.status.recipNonce = [] ∧
        (d.nextCall waitingLibrary plainJob 40 40).trace.all (findsOnly (left.1.updated left.2)) = true ∧
        (clockReadings (d.nextCall waitingLibrary plainJob 40 40).trace).all
          (fun instant => instant ≤ (left.1.updated left.2).spec.deadline) = true ∧
        left.1.status.polls < (transactionLimitsWithDefaults plainJob.issuer.spec.transaction).maximumPolls) ∧
      (d.nextCall waitingLibrary plainJob 40 40).trace.all (fun e => e.op.message?.isNone) = true ∧
      (d.nextCall waitingLibrary plainJob 40 40).program.outcome? = some (.error (.error (.permanent
        (.text "recorded CMP transaction is missing the state required to poll")))) := by
    exact ⟨plainDeployment none [plainReply 6 [9]], rfl, by decide +kernel, by decide +kernel, by decide +kernel,
      by decide +kernel⟩
  obtain ⟨pool, run, past, later, shown, shown'⟩ := d.two_calls waitingLibrary plainJob 40 40 initial
  have undisturbed : Undisturbed _ _ _ (written.updated version) _ :=
    Deployment.undisturbed shown' phase found inTime budget
  exact ⟨pool, _, _, written, version, d.shows, run, past, later, rfl, Program.eq_ofExcept_of_outcome ended,
    Deployment.leaves_written left, phase, nonce, shown, undisturbed, unsent_of_all unsent,
    Program.eq_ofExcept_of_outcome failed⟩

end CmpIssuer
