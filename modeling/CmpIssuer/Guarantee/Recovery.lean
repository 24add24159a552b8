import CmpIssuer.Guarantee.Failure

/-!
Recovery of an issued certificate. A record in phase Issued answers every later
reconcile of its request from the chain it stores, whatever became of the
issuer spec, as long as the spec still selects the operation on record: the
operation is compared before the phase is looked at.
-/
namespace CmpIssuer
open Effect

/-- The record that `Sign` has written for this request under an issuer of the same identity. The issuer
may have any spec by now. -/
structure WrittenFor (lib : Library) (job : Job) (csrDER : Bytes) (record : CMPTransaction) : Prop where
  own : record.spec.certificateRequestUID = job.request.uid
  csr : requestedCSR lib job.request = .ok csrDER
  digest : record.spec.csrDigest = csrDigestHex lib csrDER
  present : record.spec.csrDigest ≠ "" ∧ record.spec.configurationDigest ≠ "" ∧
    record.spec.operation ≠ .unset
  issuer : ∃ generation, record.spec.issuerRef = some { issuerReference job.issuer with generation }
  fallback : ∀ text, record.spec.renewalFallback ≠ .unknown text

/-- The issuer of today still asks for the operation on record, or for a KUR that may fall back to it. -/
def OperationAgrees (issuer : Issuer) (record : CMPTransaction) (selected : Operation) : Prop :=
  record.spec.renewalFallback = .unset ∧ record.spec.operation = selected ∨
  ∃ reason, record.spec.renewalFallback = .value reason ∧ selected = .kur ∧
    renewalFallbackOperation issuer ≠ .unset ∧ record.spec.operation = renewalFallbackOperation issuer

section
variable {lib : Library} {job : Job} {csrDER : Bytes} {record : CMPTransaction}

theorem WrittenFor.validates (written : WrittenFor lib job csrDER record) (selected : Operation) :
    validateResumedTransaction record (csrDigestHex lib csrDER) selected
      (renewalFallbackOperation job.issuer) (issuerReference job.issuer) = .ok () ↔
      OperationAgrees job.issuer record selected := by
  obtain ⟨generation, issuer⟩ := written.issuer
  obtain ⟨csrDigest, configurationDigest, operation⟩ := written.present
  unfold validateResumedTransaction OperationAgrees
  dsimp only
  rw [if_neg (by simp [csrDigest, configurationDigest, operation]), if_neg (not_not.mpr written.digest),
    issuer, if_neg (by simp)]
  split
  · rename_i fallback
    simp only [fallback, true_and, reduceCtorEq, false_and, exists_false, or_false]
    split <;> simp_all
  · rename_i reason fallback
    simp only [fallback, reduceCtorEq, false_and, false_or, Setting.value.injEq, exists_eq_left']
    split
    · rename_i other
      simp only [reduceCtorEq, false_iff]
      rintro ⟨kur, allowed, same⟩
      simp [kur, allowed, same] at other
    · rename_i other
      simpa [not_or] using other
  · rename_i text fallback
    exact absurd fallback (written.fallback text)

theorem failTransaction_fails {α : Type} {t : Trail} (err : GoError) :
    Follows (recorder fun _ => True) (fun _ r => ∃ fault, r = .error fault) t
      (failTransaction (α := α) record err) := by
  unfold failTransaction
  dsimp only
  split
  · exact (follows_grows t (removeRecord record)).bind (fun _ _ _ => ⟨_, rfl⟩) (fun _ fault _ => ⟨fault, rfl⟩)
  · exact ⟨_, rfl⟩

/-- The chain of a record comes out of a run that has only looked around. -/
structure Recovered (lib : Library) (chain : List Certificate) (t : Trail)
    (r : Except (Fault GoError) Bytes) : Prop where
  bundle : ∃ leaf rest, chain.head? = some leaf ∧ r = .ok (encodeChainPEM lib (leaf :: rest))
  looks : ∀ e ∈ t, e.op.silent = true ∨ ∃ key, e.op = .getTransaction key

/-- What a run finds when the trust it loads is the one at hand and the recorded chain verifies. -/
structure Finds (lib : Library) (job : Job) (record : CMPTransaction)
    (secrets : NamespacedName → Except ApiError Secret) (chain roots candidates : List Certificate)
    (t : Trail) : Prop where
  record : ∀ started answer rest,
    t = ⟨.now, started⟩ :: ⟨.getTransaction job.request.key, answer⟩ :: rest → answer = .ok record
  secrets : ∀ e ∈ t, AgreesWith secrets e.op e.answer
  verifies : ∀ instant, (⟨.now, instant⟩ : Event interface) ∈ t →
    ∃ trusted, trustedRecordedChain lib instant chain (some roots) candidates = .ok trusted

variable {secrets : NamespacedName → Except ApiError Secret} {chain roots candidates : List Certificate}
  {reads : Trail}

theorem loadCMPTrust_determined
    (loading : Path (loadCMPTrust lib job.clusterResourceNamespace job.issuer) reads
      (.pure (roots, candidates)))
    (answered : ∀ e ∈ reads, AgreesWith secrets e.op e.answer) (t : Trail) :
    Follows (recorder fun _ => True) (fun u r => ∃ v, u = t ++ v ∧ (∀ e ∈ v, e.op.silent = true) ∧
        ((∀ e ∈ u, AgreesWith secrets e.op e.answer) → r = .ok (roots, candidates))) t
      (loadCMPTrust lib job.clusterResourceNamespace job.issuer) := by
  have unique : ∀ o a b, SecretOf (credentialSecrets job.clusterResourceNamespace job.issuer) o →
      AgreesWith secrets o a → AgreesWith secrets o b → a = b := by
    rintro _ a b ⟨key, _, rfl⟩ first second
    exact first.trans second.symm
  have determined := (loadCMPTrust_asks (t := [])).determined (r := .ok (roots, candidates)) unique loading answered
  refine (determined.after (fun _ _ => trivial) t).mono ?_
  rintro _ r ⟨v, rfl, known, asked⟩
  refine ⟨v, rfl, fun e member => ?_, fun all => known fun e member => all e (List.mem_append_right _ member)⟩
  obtain ⟨key, _, same⟩ := asked e member
  rw [same]
  rfl

theorem Finds.closed (t u : Trail) (part : t <+: u)
    (finds : Finds lib job record secrets chain roots candidates u) :
    Finds lib job record secrets chain roots candidates t where
  record started answer rest same := by
    obtain ⟨later, rfl⟩ := part
    exact finds.record started answer (rest ++ later) (by rw [same]; rfl)
  secrets e member := finds.secrets e (part.subset member)
  verifies instant member := finds.verifies instant (part.subset member)

theorem recoverIssuedChain_recovers (recorded : recordedChain lib record csrDER = .ok chain)
    (loading : Path (loadCMPTrust lib job.clusterResourceNamespace job.issuer) reads
      (.pure (roots, candidates)))
    (answered : ∀ e ∈ reads, AgreesWith secrets e.op e.answer) {t : Trail}
    (looks : ∀ e ∈ t, e.op.silent = true ∨ ∃ key, e.op = .getTransaction key) :
    Follows (recorder fun _ => True)
      (fun u r => Finds lib job record secrets chain roots candidates u → Recovered lib chain u r) t
      (recoverIssuedChain lib job.clusterResourceNamespace record job.issuer csrDER) := by
  have trust : Follows (recorder fun _ => True) (fun u r => ∃ v, u = t ++ v ∧
      (∀ e ∈ v, e.op.silent = true) ∧
        ((∀ e ∈ u, AgreesWith secrets e.op e.answer) → r = .ok (roots, candidates))) t
      ((loadCMPTrust lib job.clusterResourceNamespace job.issuer).mapError
        (Fault.map fun err => GoError.issuer err.goError)) := by
    refine follows_mapError.mpr ((loadCMPTrust_determined loading answered t).mono ?_)
    rintro _ r ⟨v, same, silent, known⟩
    exact ⟨v, same, silent, fun all => by rw [known all]; rfl⟩
  unfold recoverIssuedChain
  rw [recorded]
  refine trust.bind ?_ ?_
  · rintro _ ⟨roots', candidates'⟩ ⟨v, rfl, silent, known⟩
    refine follows_ask_bind.mpr ⟨trivial, fun instant => follows_assuming Finds.closed fun finds => ?_⟩
    cases known fun e member => finds.secrets e (List.mem_append_left _ member)
    obtain ⟨trusted, verified⟩ := finds.verifies instant (List.mem_append_right _ List.mem_cons_self)
    obtain ⟨leaf, _, head, _⟩ := recordedChain_ok recorded
    obtain ⟨same, _⟩ := validateIssuedChain_ok (mapError_eq_ok.mp verified)
    obtain ⟨rest, rfl⟩ := List.head?_eq_some_iff.mp (same.trans head)
    dsimp only
    rw [verified]
    refine fun _ => ⟨⟨leaf, rest, head, rfl⟩, fun e member => ?_⟩
    rcases List.mem_append.mp member with before | last
    · rcases List.mem_append.mp before with first | read
      · exact looks e first
      · exact .inl (silent e read)
    · cases List.mem_singleton.mp last
      exact .inl rfl
  · rintro _ fault ⟨v, rfl, silent, known⟩ finds
    cases known finds.secrets

theorem loadRecord_finds (own : record.spec.certificateRequestUID = job.request.uid) (started : Time) :
    Follows (recorder fun _ => True) (fun t r => Finds lib job record secrets chain roots candidates t →
      r = .ok (some record) ∧ t = [⟨.now, started⟩, ⟨.getTransaction job.request.key, .ok record⟩])
      [⟨.now, started⟩] (loadRecord job.request) := by
  refine follows_ask_bind.mpr ⟨trivial, fun answer => follows_assuming Finds.closed fun finds => ?_⟩
  cases finds.record started answer [] rfl
  dsimp only
  rw [if_pos own]
  exact fun _ => ⟨rfl, rfl⟩

/-- The issuer of today selects an operation that agrees with the record. -/
def StillSelected (lib : Library) (job : Job) (record : CMPTransaction) : Prop :=
  ∃ selected, selectedTransactionOperation lib job.issuer job.request = .ok selected ∧
    OperationAgrees job.issuer record selected

theorem signResumed_recovers (written : WrittenFor lib job csrDER record)
    (phase : record.status.phase = .issued) (recorded : recordedChain lib record csrDER = .ok chain)
    (loading : Path (loadCMPTrust lib job.clusterResourceNamespace job.issuer) reads
      (.pure (roots, candidates)))
    (answered : ∀ e ∈ reads, AgreesWith secrets e.op e.answer) {started : Time} {selected : Operation}
    (selection : selectedTransactionOperation lib job.issuer job.request = .ok selected) {t : Trail}
    (looks : ∀ e ∈ t, e.op.silent = true ∨ ∃ key, e.op = .getTransaction key) :
    Follows (recorder fun _ => True)
      (fun u r => Finds lib job record secrets chain roots candidates u →
        (StillSelected lib job record ∧ Recovered lib chain u r) ∨
        ¬ StillSelected lib job record ∧ ∃ fault, r = .error fault) t
      (signResumed lib job.clusterResourceNamespace job.request job.issuer started csrDER selected record) := by
  unfold signResumed Reported.signResumed
  dsimp only [quiet_run, quiet_deferring]
  by_cases agrees : OperationAgrees job.issuer record selected
  · rw [(written.validates selected).mpr agrees]
    dsimp only
    rw [if_pos phase]
    exact (recoverIssuedChain_recovers recorded loading answered looks).mono
      fun u r recovered finds => .inl ⟨⟨selected, selection, agrees⟩, recovered finds⟩
  · have invalid := mt (written.validates selected).mp agrees
    split
    · refine (failTransaction_fails _).mono fun u r fails _ => .inr ⟨?_, fails⟩
      rintro ⟨other, selection', agrees'⟩
      cases selection.symm.trans selection'
      exact agrees agrees'
    · rename_i valid
      exact absurd valid invalid

/-- A whole call on the record of an issued certificate. -/
theorem sign_recovers (written : WrittenFor lib job csrDER record) (phase : record.status.phase = .issued)
    (recorded : recordedChain lib record csrDER = .ok chain)
    (loading : Path (loadCMPTrust lib job.clusterResourceNamespace job.issuer) reads
      (.pure (roots, candidates)))
    (answered : ∀ e ∈ reads, AgreesWith secrets e.op e.answer) :
    Follows (recorder fun _ => True)
      (fun t r => Finds lib job record secrets chain roots candidates t →
        (StillSelected lib job record ∧ Recovered lib chain t r) ∨
        ¬ StillSelected lib job record ∧ ∃ fault, r = .error fault) []
      (sign lib job.clusterResourceNamespace job.request job.issuer) := by
  refine follows_ask_bind.mpr ⟨trivial, fun started => ?_⟩
  refine follows_outcome_bind ?_ (by intro err failed; rw [written.csr] at failed; cases failed)
  intro requestDER csr
  cases written.csr.symm.trans csr
  refine follows_outcome_bind ?_ ?_
  · intro selected selection
    rw [mapError_eq_ok] at selection
    have loads : Follows (recorder fun _ => True)
        (fun t r => Finds lib job record secrets chain roots candidates t → _) _ (loadRecord job.request) :=
      loadRecord_finds written.own started
    refine loads.bind (fun t loaded found => follows_assuming Finds.closed fun finds => ?_) ?_
    · obtain ⟨⟨⟩, rfl⟩ := found finds
      refine signResumed_recovers written phase recorded loading answered selection fun e member => ?_
      rcases List.mem_pair.mp member with rfl | rfl
      · exact .inl rfl
      · exact .inr ⟨_, rfl⟩
    · intro t fault found finds
      cases (found finds).1
  · intro err failed _
    refine .inr ⟨?_, ⟨_, rfl⟩⟩
    rintro ⟨selected, selection, _⟩
    rw [selection] at failed
    cases failed

theorem slot_of_looks {i : Nat} {cluster final : Cluster} {t : Trail}
    (trace : reliableWorld.Trace i cluster t final)
    (looks : ∀ e ∈ t, e.op.silent = true ∨ ∃ key, e.op = .getTransaction key) :
    final.slot = cluster.slot := by
  induction trace with
  | nil => rfl
  | @cons s _ _ e _ first rest ih =>
      obtain ⟨after, served, rfl⟩ := first
      have same : after = s.slot := by
        obtain ⟨o, answer⟩ := e
        rcases looks _ List.mem_cons_self with silent | ⟨key, rfl⟩
        · exact (Cluster.ambiguous.change (.inl served.honest)).keeps (by cases o <;> first | rfl | cases silent)
        · cases answer with
          | ok => exact served.2.2
          | error => exact served.2.2
      rw [ih fun e' member => looks e' (List.mem_cons_of_mem _ member)]
      exact same

/-- The record under the name of the request is the one a reliable store answers with. -/
theorem read_of_reliable {i : Nat} {cluster final : Cluster} {t : Trail} {key : NamespacedName}
    {started : Time} {answer : Except ApiError CMPTransaction}
    (trace : reliableWorld.Trace i cluster (⟨.now, started⟩ :: ⟨.getTransaction key, answer⟩ :: t) final)
    (stored : cluster.slot = some record) (named : record.key = key) : answer = .ok record := by
  cases trace with
  | cons first later =>
      obtain ⟨_, same, rfl⟩ := first
      cases later with
      | cons second _ =>
          obtain ⟨_, served, rfl⟩ := second
          have slot : (cluster.step i ⟨.now, started⟩ _).slot = some record := same.trans stored
          cases answer with
          | ok found => rw [Option.some.inj (served.1.symm.trans slot)]
          | error => exact absurd named (served.2.1 record slot)

end

/-- A call for a request whose record is in phase Issued. The recorded chain matches the CSR and verifies
against the trust that the issuer configures by now. The call returns the recorded leaf, sends nothing and
leaves the record exactly when the issuer still selects the operation on record. -/
theorem issued_recovery_iff {lib : Library} {job : Job} {record : CMPTransaction} {csrDER : Bytes}
    {secrets : NamespacedName → Except ApiError Secret} {chain roots candidates : List Certificate}
    {reads t : Trail} {r : Except (Fault GoError) Bytes} {cluster final : Cluster}
    (written : WrittenFor lib job csrDER record) (phase : record.status.phase = .issued)
    (stored : cluster.slot = some record) (named : record.key = job.request.key)
    (recorded : recordedChain lib record csrDER = .ok chain)
    (loading : Path (loadCMPTrust lib job.clusterResourceNamespace job.issuer) reads
      (.pure (roots, candidates)))
    (answered : ∀ e ∈ reads, AgreesWith secrets e.op e.answer)
    (path : Path (sign lib job.clusterResourceNamespace job.request job.issuer) t (.ofExcept r))
    (trace : reliableWorld.Trace 0 cluster t final)
    (current : ∀ e ∈ t, AgreesWith secrets e.op e.answer)
    (verifies : ∀ instant, (⟨.now, instant⟩ : Event interface) ∈ t →
      ∃ trusted, trustedRecordedChain lib instant chain (some roots) candidates = .ok trusted) :
    ((∃ leaf rest, chain.head? = some leaf ∧ r = .ok (encodeChainPEM lib (leaf :: rest))) ∧
      (∀ sent answer, (⟨.send sent, answer⟩ : Event interface) ∉ t) ∧ final.slot = some record) ↔
    ∃ selected, selectedTransactionOperation lib job.issuer job.request = .ok selected ∧
      OperationAgrees job.issuer record selected := by
  have finds : Finds lib job record secrets chain roots candidates t :=
    { record := by rintro started answer rest rfl; exact read_of_reliable trace stored named
      secrets := current
      verifies }
  rcases (sign_recovers written phase recorded loading answered).outcome path finds with
    ⟨selected, recovered⟩ | ⟨unselected, fault, rfl⟩
  · refine iff_of_true ⟨recovered.bundle, ?_, ?_⟩ selected
    · intro sent answer member
      rcases recovered.looks _ member with silent | ⟨key, other⟩
      · cases silent
      · cases other
    · rw [slot_of_looks trace recovered.looks, stored]
  · refine iff_of_false ?_ unselected
    rintro ⟨⟨leaf, rest, _, returned⟩, _⟩
    cases returned

/-- The record of a request whose P10CR was answered with a certificate. -/
def issuedRecord : CMPTransaction :=
  let record := plainRecord plainJob .p10cr
  { record with status := record.status.issued [plainCertificate [3]] 20 }

/-- The record of a finished P10CR, recovered under the spec it was made with. -/
theorem issued_recovery_iff_unchanged : ∃ t r cluster final,
    Path (sign plainLibrary plainJob.clusterResourceNamespace plainJob.request plainJob.issuer) t
      (.ofExcept r) ∧ reliableWorld.Trace 0 cluster t final ∧ cluster.slot = some issuedRecord ∧
    (((∃ leaf rest, [plainCertificate [3]].head? = some leaf ∧
        r = .ok (encodeChainPEM plainLibrary (leaf :: rest))) ∧
      (∀ sent answer, (⟨.send sent, answer⟩ : Event interface) ∉ t) ∧ final.slot = some issuedRecord) ↔
    ∃ selected, selectedTransactionOperation plainLibrary plainJob.issuer plainJob.request = .ok selected ∧
      OperationAgrees plainJob.issuer issuedRecord selected) := by
  obtain ⟨d, stored, secrets, ended, succeed⟩ : ∃ d : Deployment, d.cluster.slot = some issuedRecord ∧
      d.secrets = (fun _ => .ok plainSecret) ∧
      (d.run plainLibrary plainJob 40).2.2.outcome?.isSome = true ∧
      ∀ e ∈ (d.run plainLibrary plainJob 40).1, ¬ e.op.failed e.answer :=
    ⟨plainDeployment (some issuedRecord) [], rfl, rfl, by decide +kernel, by decide +kernel⟩
  obtain ⟨r, ended⟩ := Option.isSome_iff_exists.mp ended
  have written : WrittenFor plainLibrary plainJob [1] issuedRecord :=
    { own := rfl
      csr := by decide +kernel
      digest := by decide +kernel
      present := by decide +kernel
      issuer := ⟨1, by decide +kernel⟩
      fallback := by rintro _ ⟨⟩ }
  have loading : Path (loadCMPTrust plainLibrary "" plainIssuer)
      [⟨.getSecret ⟨"default", "cmp"⟩, .ok plainSecret⟩]
      (.pure ([plainCertificate [4]], [plainCertificate [4]])) := .step (S := interface) _ (.refl _)
  have answered : ∀ e ∈ [(⟨.getSecret ⟨"default", "cmp"⟩, .ok plainSecret⟩ : Event interface)],
      AgreesWith d.secrets e.op e.answer := by
    intro e member
    cases List.mem_singleton.mp member
    rw [secrets]
    rfl
  have path := d.run_outcome plainLibrary plainJob 40 ended
  have trace := d.run_reliable plainLibrary plainJob 40 succeed
  exact ⟨_, r, _, _, path, trace, stored,
    issued_recovery_iff written rfl stored rfl (by decide +kernel) loading answered path trace
      (d.run_agrees plainLibrary plainJob 40).1 fun _ _ => ⟨_, rfl⟩⟩

/-- A request with a revision under the issuer that enrolls with P10CR. -/
def revisionJob : Job := ⟨"", irObject, plainIssuer⟩

/-- The same request after the issuer was switched to IR. -/
def switchedJob : Job := ⟨"", irObject, { irIssuer with generation := 2 }⟩

/-- A request is enrolled with P10CR, which the issuer selects. Then the issuer is switched to IR: the next
call for the request deletes the record with its certificate and fails for good, although the recorded chain
verifies against the trust that the issuer configures. -/
theorem switched_issuer_discards_record : ∃ t bundle middle record t' r final,
    Path (sign plainLibrary revisionJob.clusterResourceNamespace revisionJob.request revisionJob.issuer) t
      (.ofExcept (.ok bundle)) ∧
    honestWorld.Trace 0 (.start none) t middle ∧ middle.slot = some record ∧
    record.status.phase = .issued ∧ WrittenFor plainLibrary switchedJob [1] record ∧
    record.key = switchedJob.request.key ∧
    recordedChain plainLibrary record [1] = .ok [plainCertificate [3], plainCertificate [4]] ∧
    (∃ secrets roots candidates reads,
      Path (loadCMPTrust plainLibrary switchedJob.clusterResourceNamespace switchedJob.issuer) reads
        (.pure (roots, candidates)) ∧ (∀ e ∈ reads ++ t', AgreesWith secrets e.op e.answer) ∧
      ∀ instant, (⟨.now, instant⟩ : Event interface) ∈ t' → ∃ trusted, trustedRecordedChain plainLibrary
        instant [plainCertificate [3], plainCertificate [4]] (some roots) candidates = .ok trusted) ∧
    Path (sign plainLibrary switchedJob.clusterResourceNamespace switchedJob.request switchedJob.issuer) t'
      (.ofExcept r) ∧
    reliableWorld.Trace 0 middle t' final ∧ FailsForGood r ∧ final.slot = none := by
  obtain ⟨d, initial, secrets, ended, stored, ended', succeed, gone⟩ : ∃ d : Deployment,
      d.cluster = .start none ∧ d.secrets = (fun _ => .ok plainSecret) ∧
      (d.run plainLibrary revisionJob 40).2.2.outcome? = some (.ok [3, 4]) ∧
      (∃ record ∈ (d.after plainLibrary revisionJob 40).cluster.slot, record.status.phase = .issued ∧
        record.spec.certificateRequestUID = switchedJob.request.uid ∧
        record.spec.csrDigest = csrDigestHex plainLibrary [1] ∧
        (record.spec.csrDigest ≠ "" ∧ record.spec.configurationDigest ≠ "" ∧
          record.spec.operation ≠ .unset) ∧
        record.spec.issuerRef = some { issuerReference switchedJob.issuer with generation := 1 } ∧
        record.spec.renewalFallback = .unset ∧ record.key = switchedJob.request.key ∧
        recordedChain plainLibrary record [1] = .ok [plainCertificate [3], plainCertificate [4]]) ∧
      (∃ r ∈ ((d.after plainLibrary revisionJob 40).run plainLibrary switchedJob 40).2.2.outcome?,
        FailsForGood r) ∧
      (∀ e ∈ ((d.after plainLibrary revisionJob 40).run plainLibrary switchedJob 40).1,
        ¬ e.op.failed e.answer) ∧
      ((d.after plainLibrary revisionJob 40).after plainLibrary switchedJob 40).cluster.slot = none :=
    ⟨plainDeployment none [plainReply 2 [9], plainReply 3 [9, 9]], rfl, rfl, by decide +kernel,
      by decide +kernel, by decide +kernel, by decide +kernel, by decide +kernel⟩
  obtain ⟨record, stored, phase, own, digest, present, issuer, fallback, named, recorded⟩ := stored
  obtain ⟨r, ended', failed⟩ := ended'
  have written : WrittenFor plainLibrary switchedJob [1] record :=
    { own, digest, present
      csr := by decide +kernel
      issuer := ⟨1, issuer⟩
      fallback := by rw [fallback]; rintro _ ⟨⟩ }
  have loading : Path (loadCMPTrust plainLibrary "" switchedJob.issuer)
      [⟨.getSecret ⟨"default", "cmp"⟩, .ok plainSecret⟩]
      (.pure ([plainCertificate [4]], [plainCertificate [4]])) := .step (S := interface) _ (.refl _)
  have agree := ((d.after plainLibrary revisionJob 40).run_agrees plainLibrary switchedJob 40).1
  rw [(d.run_agrees plainLibrary revisionJob 40).2, secrets] at agree
  exact ⟨_, _, _, record, _, r, _, d.run_outcome plainLibrary revisionJob 40 ended,
    initial ▸ d.run_trace plainLibrary revisionJob 40, stored, phase, written, named, recorded,
    ⟨fun _ => .ok plainSecret, _, _, _, loading, List.forall_mem_cons.mpr ⟨rfl, agree⟩, fun _ _ => ⟨_, rfl⟩⟩,
    (d.after plainLibrary revisionJob 40).run_outcome plainLibrary switchedJob 40 ended',
    (d.after plainLibrary revisionJob 40).run_reliable plainLibrary switchedJob 40 succeed, failed, gone⟩

end CmpIssuer
