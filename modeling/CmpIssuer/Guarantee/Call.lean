import CmpIssuer.Cluster.Deployment
import CmpIssuer.Session.Invariant

/-!
What holds for every single `Sign` call, whatever the API server, the Secrets
and the CMP server answer: which certificates it returns, what it makes of an
authenticated response, and under which conditions it speaks to the CMP server.
-/
namespace CmpIssuer
open Effect

/-- X.509 verification returns only chains that end in one of the given roots. -/
def VerifiesToRoots (lib : Library) : Prop :=
  ∀ t leaf roots intermediates chains chain, lib.verify t leaf (some roots) intermediates = .ok chains →
    chain ∈ chains → ∃ root ∈ roots, chain.getLast? = some root

/-- A bundle is a chain of the requested key that verifies up to the anchors of the issuer. The path is
any way through `Sign`, so the stored record and all answers are arbitrary. -/
theorem sign_bundle_trusted {lib : Library} (roots : VerifiesToRoots lib) {job : Job} {t : Trail}
    {bundle : Bytes}
    (path : Path (sign lib job.clusterResourceNamespace job.request job.issuer) t (.pure bundle)) :
    ∃ leaf rest, bundle = encodeChainPEM lib (leaf :: rest) ∧
      (∃ csrDER csr publicKey, requestedCSR lib job.request = .ok csrDER ∧
        lib.parseCertificateRequest csrDER = .ok csr ∧
        lib.marshalPKIXPublicKey csr.publicKey = .ok publicKey ∧
        lib.marshalPKIXPublicKey leaf.publicKey = .ok publicKey) ∧
      ∃ anchors instant intermediates chains verified,
        AnchorsRead lib job.clusterResourceNamespace job.issuer t anchors ∧
        (⟨.now, instant⟩ : Event interface) ∈ t ∧
        lib.verify instant leaf (some anchors) intermediates = .ok chains ∧ verified ∈ chains ∧
        (∃ root ∈ anchors, verified.getLast? = some root) ∧ rest <+: verified.tail ∧
        ∀ certificate ∈ verified, validateMLDSAKeyUsage certificate = .ok () := by
  obtain ⟨_, _, _, _, _, rfl, _, _, trusted⟩ := sign_finish (r := .ok bundle) path
  rw [contract_run_job, contract_run_trail] at trusted
  obtain ⟨csrDER, csr, leaf, rest, rfl, requested, parsed, matching⟩ := trusted.key
  obtain ⟨anchors, instant, read, clock, built⟩ := trusted.trust
  obtain ⟨_, intermediates, chains, verified, verifies, member, usages, _, ⟨⟩, within⟩ := built.built
  obtain ⟨publicKey, requestedKey, issuedKey⟩ := publicKeysEqual_iff.mp matching
  exact ⟨leaf, rest, rfl, ⟨csrDER, csr, publicKey, requested, parsed, requestedKey, issuedKey⟩,
    anchors, instant, intermediates, chains, verified, read, clock, verifies, member,
    roots _ _ _ _ _ _ verifies member, within, usages⟩

theorem plainLibrary_roots : VerifiesToRoots plainLibrary := by
  rintro t leaf (_ | ⟨root, rest⟩) intermediates chains chain verified member
  · cases verified
  · cases verified
    obtain rfl := List.mem_singleton.mp member
    exact ⟨root, List.mem_cons_self, rfl⟩

/-- A new transaction that is confirmed in the same call. -/
theorem sign_bundle_trusted_explicit : ∃ t, Path (sign plainLibrary plainJob.clusterResourceNamespace
      plainJob.request plainJob.issuer) t (.pure [3, 4]) ∧
    ∃ leaf rest anchors, [3, 4] = encodeChainPEM plainLibrary (leaf :: rest) ∧
      AnchorsRead plainLibrary plainJob.clusterResourceNamespace plainJob.issuer t anchors := by
  have path := (plainDeployment none [plainReply 2 [9], plainReply 3 [9, 9]]).run_outcome plainLibrary
    plainJob 40 (r := .ok [3, 4]) (by decide +kernel)
  obtain ⟨leaf, rest, bundle, _, anchors, _, _, _, _, read, _⟩ :=
    sign_bundle_trusted plainLibrary_roots path
  exact ⟨_, path, leaf, rest, anchors, bundle, read⟩

/-- The outcome of a response to a request that `Sign` hands over. Only the error
message that reports success leaves the code without a certificate and without an error. -/
theorem response_resolved_iff {lib : Library} {job : Job} {t : Trail} {call : ClientCall}
    {next : Unit → Go GoError Bytes}
    (path : Path (sign lib job.clusterResourceNamespace job.request job.issuer) t
      (.op (.call call) next)) (response : PKIMessage) :
    ((∀ issued, extractEnrollmentResponse lib response call.request = .ok issued →
        issued.waiting = true ∨ issued.certificate.isSome = true) ∧
      ∀ instant csr built message signer, ∃ finished,
        call.verdict lib instant csr built message response signer = .ok finished ∧
        ∀ refusal err, finished = .failed refusal err → err.typed = true) ↔
      ¬ ReportsSuccess response := by
  obtain ⟨hold, _, hands⟩ := sign_hands path
  have extracted := extractEnrollmentResponse_spec lib response call.request
  constructor
  · rintro ⟨complete, _⟩ success
    cases outcome : extractEnrollmentResponse lib response call.request with
    | error err =>
        rw [outcome] at extracted
        exact extracted.1 success
    | ok issued =>
        rw [outcome] at extracted
        rcases extracted with ⟨rfl, _⟩ | ⟨other, _⟩
        · rcases complete _ outcome with waits | present
          · cases waits
          · cases present
        · exact other success
  · intro other
    refine ⟨fun issued outcome => ?_, fun instant csr built message signer => ?_⟩
    · rw [outcome] at extracted
      rcases extracted with ⟨_, success⟩ | ⟨_, complete⟩
      · exact absurd success other
      · exact complete
    · have verdict := call.verdict_spec lib instant csr built message response signer hands.signature
      cases outcome : call.verdict lib instant csr built message response signer with
      | error reason =>
          rw [outcome] at verdict
          exact absurd verdict.1 other
      | ok finished =>
          rw [outcome] at verdict
          exact ⟨finished, rfl, fun refusal err same => (verdict refusal err same).1⟩

/-- Whether an operation hands over a request that obtains a certificate. -/
def Op.obtains : Op → Bool
  | .call handed => !handed.confirms
  | _ => false

/-- A CMP server that rejects a request hands back an error the signer can report. -/
theorem response_resolved_iff_new : ∃ t call, (∃ next, Path (sign plainLibrary
      plainJob.clusterResourceNamespace plainJob.request plainJob.issuer) t (.op (.call call) next)) ∧
    call.confirms = false ∧
    ∀ issued, extractEnrollmentResponse plainLibrary (plainResponse [9] .pkiConf) call.request =
      .ok issued → issued.waiting = true ∨ issued.certificate.isSome = true := by
  have reached : ((plainDeployment none []).run plainLibrary plainJob 9).2.2.next?.map Op.obtains =
      some true := by decide +kernel
  obtain ⟨o, next, obtains⟩ := Option.map_eq_some_iff.mp reached
  cases o with
  | call call =>
      obtain ⟨rest, path⟩ := (plainDeployment none []).run_next plainLibrary plainJob 9 next
      have obtains : call.confirms = false := by simpa [Op.obtains] using obtains
      have other : ¬ ReportsSuccess (plainResponse [9] .pkiConf) := by
        rintro ⟨_, ⟨⟩, _⟩
      exact ⟨_, call, ⟨rest, path⟩, obtains, ((response_resolved_iff path _).mpr other).1⟩
  | _ => cases obtains

/-- The error message that reports success: the enrollment dereferences a certificate it never got. -/
theorem error_message_success_panics :
    (∃ t, Path (sign plainLibrary plainJob.clusterResourceNamespace plainJob.request plainJob.issuer) t
      (.throw (.panic nilDereference))) ∧
    ∀ request, extractEnrollmentResponse plainLibrary
      (plainResponse [9] (.error (.ok ⟨.accepted, [], []⟩))) request = .ok {} :=
  ⟨⟨_, (plainDeployment none [plainReply 1 [9]]).run_outcome plainLibrary plainJob 40
    (r := .error (.panic nilDereference)) (by decide +kernel)⟩, fun _ => rfl⟩

/-- A message under a loaded record is sent only while everything the record is bound to still is as
recorded. The request that it is sent for was handed over before the deadline, and the message belongs to
the recorded transaction, operation and endpoint. -/
theorem resumed_message_bound {lib : Library} (laws : MessageLaws lib) {job : Job} {t : Trail}
    {sent : HTTPRequest} {next : HTTPAnswer → Go GoError Bytes}
    (path : Path (sign lib job.clusterResourceNamespace job.request job.issuer) t
      (.op (.send sent) next))
    {key : NamespacedName} {record : CMPTransaction}
    (loaded : (⟨.getTransaction key, .ok record⟩ : Event interface) ∈ t)
    (own : record.spec.certificateRequestUID = job.request.uid)
    (identified : record.spec.transactionID ≠ []) :
    (∃ csrDER, requestedCSR lib job.request = .ok csrDER ∧
      record.spec.csrDigest = csrDigestHex lib csrDER) ∧
    record.spec.issuerRef = some (issuerReference job.issuer) ∧
    (∃ selected, selectedTransactionOperation lib job.issuer job.request = .ok selected ∧
      (record.spec.renewalFallback = .unset ∧ record.spec.operation = selected ∨
        ∃ reason, record.spec.renewalFallback = .value reason ∧ selected = .kur ∧
          renewalFallbackOperation job.issuer ≠ .unset ∧
          record.spec.operation = renewalFallbackOperation job.issuer)) ∧
    DigestOf lib job.issuer record.spec.operation (secretsRead t) record.spec.configurationDigest ∧
    (∃ before instant call later, t = before ++ ⟨.now, instant⟩ :: ⟨.call call, ()⟩ :: later ∧
      (∀ e ∈ later, callHanded e = none) ∧ SentFor lib t call.request (call.speaks lib) sent ∧
      instant ≤ record.spec.deadline ∧ call.enrollment.operation = record.spec.operation) ∧
    sent.message.header.transactionID = record.spec.transactionID ∧
    (∀ operation, sent.message.body.operation? = some operation → operation = record.spec.operation) ∧
    sent.endpoint = selectedEndpoint job.issuer.spec record.spec.operation := by
  have sound := sign_sound path
  obtain ⟨hold, call, serving, sentFor⟩ := Sends.serving ((sign_follows lib job).allows path)
  obtain ⟨before, later, passed, quiet, hands, unread⟩ := sound.handed hold call serving
  obtain ⟨live, origin⟩ := Stage.origin_of_hold (Stage.hold_of_serving serving)
  have resumed := sound.loaded live key record (by simpa using loaded) (by simpa using own)
  simp only [contract_run_job, contract_run_trail, Session.begin_job, Session.begin_trail,
    List.nil_append] at *
  obtain ⟨bindings, continues⟩ := hands.enrolls.bound record (origin.symm.trans resumed)
  have sameID : call.request.transactionID = record.spec.transactionID :=
    call.request_transactionID.trans (hands.enrolls.transactionID.trans continues.transactionID)
  have operation := hands.enrolls.operation.trans continues.operation
  obtain ⟨speaks, message, _⟩ := sentFor.message laws
  obtain ⟨instant, last, inTime⟩ := hands.inTime
  obtain ⟨earlier, rfl⟩ := List.getLast?_eq_some_iff.mp last
  refine ⟨bindings.csr, bindings.issuer, bindings.operation, unread ▸ bindings.configuration,
    ⟨earlier, instant, call, later, by simpa using passed, quiet, sentFor, inTime.trans continues.deadline,
      operation⟩,
    (message (sameID ▸ identified)).trans sameID, fun performed performs => ?_, ?_⟩
  · have known : hold.record.spec.operation ∈ [Operation.p10cr, .ir, .kur] :=
      continues.operation ▸ bindings.operation_mem
    exact (hands.phase.operation speaks performs known).1.trans continues.operation
  · rw [sentFor.endpoint, call.request_endpointURL, hands.enrolls.endpoint, continues.operation]

/-- The poll of a transaction that an earlier call left waiting. -/
theorem resumed_message_bound_polling : ∃ t sent record, (∃ next, Path (sign plainLibrary
      plainJob.clusterResourceNamespace plainJob.request plainJob.issuer) t (.op (.send sent) next)) ∧
    record.status.phase = .polling ∧ (∃ key, ⟨.getTransaction key, .ok record⟩ ∈ t) ∧
    sent.message.header.transactionID = record.spec.transactionID ∧
    DigestOf plainLibrary plainJob.issuer record.spec.operation (secretsRead t)
      record.spec.configurationDigest := by
  let d := (plainDeployment none [plainReply 4 [9]]).after plainLibrary plainJob 40
  have sends : ((d.run plainLibrary plainJob 6).2.2.next?.bind Op.message?).isSome = true := by
    decide +kernel
  have reads : ((d.run plainLibrary plainJob 6).1.filterMap recordRead).map (fun record =>
      (record.spec.certificateRequestUID, record.spec.transactionID, record.status.phase)) =
      [(plainJob.request.uid, plainTransactionID, .polling)] := by decide +kernel
  obtain ⟨sent, named⟩ := Option.isSome_iff_exists.mp sends
  obtain ⟨o, next, message⟩ := Option.bind_eq_some_iff.mp named
  obtain rfl := Op.eq_send message
  obtain ⟨rest, path⟩ := d.run_next plainLibrary plainJob 6 next
  obtain ⟨record, others, found, same, _⟩ := List.map_eq_cons_iff.mp reads
  obtain ⟨own, identified, polling⟩ : _ ∧ _ ∧ _ := by simpa using same
  obtain ⟨key, loaded⟩ := exists_read_of_mem (found ▸ List.mem_cons_self)
  obtain ⟨_, _, _, digest, _, transaction, _⟩ := resumed_message_bound plainLibrary_message path loaded own
    (by rw [identified]; decide)
  exact ⟨_, sent, record, ⟨rest, path⟩, polling, ⟨key, loaded⟩, transaction, digest⟩

end CmpIssuer
