import CmpIssuer.Cluster.Deployment
import CmpIssuer.Controller.Authorization
import CmpIssuer.Session.Serving

/-!
What a `Sign` call needs before it touches a workload: which Secrets it may
read at all, and what it has established by the time it sends a message of an
initial or a key update request. Both hold for every record, also a forged one,
because the preparation is part of every call that gets that far.
-/
namespace CmpIssuer
open Effect

/-- The workload Secrets a call may read after what it has seen. For a P10CR there are none. -/
inductive WorkloadSecret (lib : Library) (job : Job) (t : Trail) : NamespacedName → Prop
  | staged {selected : Operation} {revision : Int} {certificate : CertManagerCertificate} {name : String}
      (selection : selectedTransactionOperation lib job.issuer job.request = .ok selected)
      (workload : selected = .ir ∨ selected = .kur)
      (authorized : Authorized lib job.request job.issuer t revision certificate)
      (named : certificate.nextPrivateKeySecretName = some name) :
      WorkloadSecret lib job t ⟨job.request.namespace_, name⟩
  | current {revision : Int} {certificate : CertManagerCertificate}
      (selection : selectedTransactionOperation lib job.issuer job.request = .ok .kur)
      (authorized : Authorized lib job.request job.issuer t revision certificate) :
      WorkloadSecret lib job t ⟨job.request.namespace_, certificate.secretName⟩

/-- The Secrets a call may read. -/
def MayRead (lib : Library) (job : Job) (t : Trail) (key : NamespacedName) : Prop :=
  key ∈ credentialSecrets job.clusterResourceNamespace job.issuer ∨ WorkloadSecret lib job t key

/-- The monitor of calls that read no other Secrets. -/
def confined (lib : Library) (job : Job) : Monitor interface Trail where
  allows t
    | .getSecret key => MayRead lib job t key
    | _ => True
  next t o answer := t ++ [⟨o, answer⟩]

section
variable {lib : Library} {job : Job} {ε α : Type} {t : Trail}

theorem confined_asks {p : Go ε α}
    (h : Follows (asking (credentialSecrets job.clusterResourceNamespace job.issuer)) (fun _ _ => True) t p) :
    Follows (confined lib job) (fun _ _ => True) t p := by
  have related : Follows (confined lib job) _ t p := h.simulate (R := fun _ _ => True) (by
    rintro _ u _ _ ⟨key, member, rfl⟩
    exact ⟨.inl member, fun _ => trivial⟩) trivial
  exact related.mono fun _ _ _ => trivial

theorem confined_entitled {P : Trail → α → Prop} {p : Go ε α}
    (h : Follows (entitled (MayRead lib job)) (Loads P) t p) :
    Follows (confined lib job) (Loads P) t p := by
  have related : Follows (confined lib job) _ t p := h.simulate (R := Eq) (by
    rintro u _ o rfl allowed
    refine ⟨?_, fun _ => rfl⟩
    cases o with
    | getSecret key => exact allowed.2 key rfl
    | _ => trivial) rfl
  refine related.mono ?_
  rintro u r ⟨_, rfl, holds⟩
  exact holds

theorem selectRenewalFallback_entitled {W : Trail → NamespacedName → Prop} {selected : Operation}
    (current : selected = .kur → CurrentAllowed lib job.request job.issuer W) :
    Follows (entitled W) (Loads fun _ out => out.1 = selected ∨ selected = .kur) t
      (selectRenewalFallback lib job.request job.issuer selected) := by
  unfold selectRenewalFallback
  dsimp only
  split
  · exact loads_pure (.inl rfl)
  · rename_i wanted
    push Not at wanted
    refine entitled_ask rfl (by rintro _ ⟨⟩) fun instant => ?_
    refine entitled_bind (entitled_mapError (classifyRenewalFallback_entitled (current wanted.1))) ?_
    rintro u (_ | reason) _ _
    · exact loads_pure (.inl rfl)
    · exact loads_pure (.inr wanted.1)

theorem loaders_confined : Loaders (confined lib job) lib job where
  configuration _ := confined_asks loadRuntimeConfiguration_asks
  trust _ := confined_asks loadCMPTrust_asks
  selection _ selected selection := by
    have allowed : selected = .kur → CurrentAllowed lib job.request job.issuer (MayRead lib job) := by
      rintro rfl u revision certificate authorized
      exact .inr (.current selection authorized)
    refine (confined_entitled (selectRenewalFallback_entitled allowed)).mono ?_
    rintro u _ holds out rfl
    exact holds
  preparation _ selected operation reason csrDER configuration selection chosen := by
    have staged : operation = .ir ∨ operation = .kur →
        StagedAllowed lib job.request job.issuer (MayRead lib job) := by
      intro workload u revision certificate name authorized named
      refine .inr (.staged selection ?_ authorized named)
      rcases chosen with rfl | update
      · exact workload
      · exact .inr update
    have current : operation = .kur → CurrentAllowed lib job.request job.issuer (MayRead lib job) := by
      rintro update u revision certificate authorized
      obtain rfl : selected = .kur := by
        rcases chosen with same | other
        · exact same.symm.trans update
        · exact other
      exact .inr (.current selection authorized)
    exact (confined_entitled (prepareEnrollment_entitled staged current)).mono fun _ _ _ => trivial

theorem protocolClient_confined (t : Trail) (call : ClientCall) :
    Follows (confined lib job) (fun _ _ => True) t (protocolClient lib call) := by
  refine follows_ask_bind.mpr ⟨trivial, fun _ => ?_⟩
  have related : Follows (confined lib job) _ (t ++ [⟨.call call, ()⟩]) (serve lib call) :=
    (serve_speaks lib call).simulate (R := fun _ _ => True) (by
      rintro _ u o _ allowed
      cases o with
      | send | now | entropy => exact ⟨trivial, fun _ => trivial⟩
      | _ => cases allowed) trivial
  exact related.mono fun _ _ _ => trivial

end

/-- The same job with another private-key annotation on its request. -/
def Job.annotated (job : Job) (value : String) : Job :=
  { job with request := { job.request with
      annotations := job.request.annotations.insert certificateRequestPrivateKeyAnnotationKey value } }

section
variable {lib : Library} {job : Job} {value : String}

theorem Job.annotated_revision :
    stringAt (job.annotated value).request.annotations certificateRequestRevisionAnnotationKey =
      stringAt job.request.annotations certificateRequestRevisionAnnotationKey := by
  unfold stringAt Job.annotated
  dsimp only
  rw [GoMap.lookup_insert, if_neg (by decide)]

theorem Job.annotated_selection :
    selectedTransactionOperation lib (job.annotated value).issuer (job.annotated value).request =
      selectedTransactionOperation lib job.issuer job.request := by
  unfold selectedTransactionOperation certificateRequestRevision
  rw [Job.annotated_revision]
  rfl

theorem Job.annotated_authorized {t : Trail} {revision : Int} {certificate : CertManagerCertificate} :
    Authorized lib (job.annotated value).request (job.annotated value).issuer t revision certificate ↔
      Authorized lib job.request job.issuer t revision certificate := by
  have requested : certificateRequestRevision lib (job.annotated value).request =
      certificateRequestRevision lib job.request := by
    unfold certificateRequestRevision
    rw [Job.annotated_revision]
  constructor
  · rintro ⟨owner, present, issuer, revises, follows⟩
    exact ⟨owner, present, issuer, requested ▸ revises, follows⟩
  · rintro ⟨owner, present, issuer, revises, follows⟩
    exact ⟨owner, present, issuer, requested.trans revises, follows⟩

theorem Job.annotated_workloadSecret {t : Trail} {key : NamespacedName} :
    WorkloadSecret lib (job.annotated value) t key ↔ WorkloadSecret lib job t key := by
  constructor
  · rintro (⟨selection, workload, authorized, named⟩ | ⟨selection, authorized⟩)
    · rw [Job.annotated_selection] at selection
      exact .staged selection workload (Job.annotated_authorized.mp authorized) named
    · rw [Job.annotated_selection] at selection
      exact .current selection (Job.annotated_authorized.mp authorized)
  · rintro (⟨selection, workload, authorized, named⟩ | ⟨selection, authorized⟩)
    · exact .staged (Job.annotated_selection.trans selection) workload
        (Job.annotated_authorized.mpr authorized) named
    · exact .current (Job.annotated_selection.trans selection) (Job.annotated_authorized.mpr authorized)

end

/-- Every Secret a call reads is named by the issuer, in the namespace the issuer takes its Secrets from, or
it is a Secret of the Certificate that the call has authorized before. The annotation that names a private
key has no part in it. -/
theorem secrets_confined {lib : Library} {job : Job} {t : Trail} {key : NamespacedName}
    {next : Except ApiError Secret → Go GoError Bytes}
    (path : Path (sign lib job.clusterResourceNamespace job.request job.issuer) t
      (.op (.getSecret key) next)) :
    (key ∈ credentialSecrets job.clusterResourceNamespace job.issuer ∨ WorkloadSecret lib job t key) ∧
      ∀ value, WorkloadSecret lib (job.annotated value) t key ↔ WorkloadSecret lib job t key := by
  have free : Undemanding (confined lib job) := by
    intro t o plain
    cases o with
    | getSecret => cases plain
    | _ => trivial
  have follows : Follows (confined lib job) (fun _ _ => True) [] _ :=
    sign_relies free protocolClient_confined loaders_confined (fun _ _ => trivial) fun _ _ => trivial
  have allowed := follows.allows path
  have seen : (confined lib job).run [] t = t := Monitor.run_record (fun _ _ _ => rfl) [] t
  rw [seen] at allowed
  exact ⟨allowed, fun value => Job.annotated_workloadSecret⟩

/-- The staged key of a Certificate that is being renewed. -/
theorem secrets_confined_renewal : ∃ t next, Path (sign plainLibrary kurJob.clusterResourceNamespace
      kurJob.request kurJob.issuer) t (.op (.getSecret ⟨"default", "staged"⟩) next) ∧
    WorkloadSecret plainLibrary kurJob t ⟨"default", "staged"⟩ := by
  have reached : ((renewalDeployment none []).run plainLibrary kurJob 5).2.2.next?.bind Op.secret? =
      some ⟨"default", "staged"⟩ := by decide +kernel
  obtain ⟨o, next, asks⟩ := Option.bind_eq_some_iff.mp reached
  obtain rfl := Op.eq_getSecret asks
  obtain ⟨rest, path⟩ := (renewalDeployment none []).run_next plainLibrary kurJob 5 next
  have other : (⟨"default", "staged"⟩ : NamespacedName) ∉
      credentialSecrets kurJob.clusterResourceNamespace kurJob.issuer := by decide
  exact ⟨_, rest, path, (secrets_confined path).1.resolve_left other⟩

/-- A message that is protected with the key of a certificate. -/
structure SignedWith (lib : Library) (signature : SignatureProtection) (sent : HTTPRequest) : Prop where
  credentials : ∃ base credentials drawn built, lib.newSignatureCredentials
      (.signature signature.privateKey signature.certificate signature.chain none) = .ok base ∧
    (credentials = base ∨ ∃ digest, lib.withHash base digest = .ok credentials) ∧
    lib.protect credentials drawn built = .ok sent.message

theorem Speaks.signedWith {lib : Library} {call : ClientCall} {sent : HTTPRequest}
    {signature : SignatureProtection} (speaks : Speaks lib call sent)
    (protection : call.request.protection = { password := none, signature := some signature }) :
    SignedWith lib signature sent := by
  obtain ⟨credentials, drawn, built, _, _, known, sealed_, _⟩ := speaks.built
  unfold credentialsFor at known
  rw [protection] at known
  dsimp only at known
  split at known
  · cases known
  · rename_i base created
    split at known
    · cases known
      exact ⟨credentials, credentials, drawn, built, created, .inl rfl, sealed_⟩
    · rename_i digest _
      cases hashed : lib.withHash base digest with
      | error => rw [hashed] at known; cases known
      | ok other =>
          rw [hashed] at known
          cases known
          exact ⟨base, credentials, drawn, built, created, .inr ⟨digest, hashed⟩, sealed_⟩

/-- A request that was prepared in a call has been authorized in that call. -/
theorem PreparedIn.authorizes {lib : Library} {job : Job} {t : Trail} {record : CMPTransaction}
    {enrollment : EnrollmentRequest} (h : PreparedIn lib job t record enrollment) :
    Authorizes lib job.request job.issuer record.spec.operation record.spec.renewalFallback
      enrollment.csrDER t enrollment := by
  obtain ⟨first, reads, between, work, last, configuration, prepared, notAfter, rfl, _, preparing, _, same⟩ := h
  have within : work ⊆ first ++ reads ++ between ++ work ++ last := by
    intro e member
    exact List.mem_append_left _ (List.mem_append_right _ member)
  have authorizes : Authorizes lib job.request job.issuer record.spec.operation record.spec.renewalFallback
      enrollment.csrDER work prepared.enrollment :=
    prepareEnrollment_authorizes.outcome (r := .ok prepared) preparing
  refine ⟨fun ir => ?_, fun kur => ?_⟩
  · obtain ⟨key, found, authorized⟩ := authorizes.ir ir
    exact ⟨key, by rw [same]; exact found, authorized.mono within⟩
  · obtain ⟨key, signature, found, protection, authorized, usable⟩ := authorizes.kur kur
    exact ⟨key, signature, by rw [same]; exact found, by rw [same]; exact protection,
      authorized.mono within, usable.mono within⟩

/-- A message of a transaction that uses workload keys is sent only for a request whose keys were authorized
in the same call, for the operation and the fallback reason the record has. -/
theorem workload_message_authorized {lib : Library} {job : Job} {t : Trail} {sent : HTTPRequest}
    {next : HTTPAnswer → Go GoError Bytes}
    (path : Path (sign lib job.clusterResourceNamespace job.request job.issuer) t
      (.op (.send sent) next)) :
    ∃ hold call csrDER, ((contract lib).run (Session.begin job) t).stage.hold? = some hold ∧
      servedCall t = some call ∧ Speaks lib call sent ∧
      requestedCSR lib job.request = .ok csrDER ∧ call.enrollment.csrDER = csrDER ∧
      (hold.record.spec.operation = .ir → ∃ key, call.enrollment.requestedPrivateKey = some key ∧
        AuthorizedIR lib job.request job.issuer hold.record.spec.renewalFallback csrDER t key) ∧
      (hold.record.spec.operation = .kur → ∃ key signature, call.enrollment.requestedPrivateKey = some key ∧
        call.enrollment.protection = { password := none, signature := some signature } ∧
        AuthorizedKUR lib job.request job.issuer csrDER t key signature ∧
        UsableForKUR lib csrDER t signature.certificate ∧ SignedWith lib signature sent) := by
  obtain ⟨hold, call, before, served, passed, hands, speaks⟩ := sign_speaks path
  have seen : before ⊆ t := fun e member => passed.subset (List.mem_append_left _ member)
  have authorizes := hands.enrolls.prepared.authorizes
  refine ⟨hold, call, call.enrollment.csrDER, Stage.hold_of_serving served, servedCall_of_serving path served,
    speaks, hands.enrolls.csr, rfl, fun ir => ?_, fun kur => ?_⟩
  · obtain ⟨key, requested, authorized⟩ := authorizes.ir ir
    exact ⟨key, requested, authorized.mono seen⟩
  · obtain ⟨key, signature, requested, protection, authorized, usable⟩ := authorizes.kur kur
    refine ⟨key, signature, requested, protection, authorized.mono seen, usable.mono seen,
      speaks.signedWith ?_⟩
    rw [call.request_protection]
    exact protection

/-- The key update of a Certificate that is being renewed. -/
theorem workload_message_authorized_renewal : ∃ t sent call key signature csrDER, (∃ next,
      Path (sign plainLibrary kurJob.clusterResourceNamespace kurJob.request kurJob.issuer) t
        (.op (.send sent) next)) ∧
    servedCall t = some call ∧ call.enrollment.requestedPrivateKey = some key ∧
    call.enrollment.protection = { password := none, signature := some signature } ∧
    AuthorizedKUR plainLibrary kurJob.request kurJob.issuer csrDER t key signature ∧
    UsableForKUR plainLibrary csrDER t signature.certificate ∧ SignedWith plainLibrary signature sent := by
  have sends : (((renewalDeployment none []).run plainLibrary kurJob 16).2.2.next?.bind
      Op.message?).isSome = true := by decide +kernel
  have update : ((contract plainLibrary).run (Session.begin kurJob)
      ((renewalDeployment none []).run plainLibrary kurJob 16).1).stage.hold?.map
        (fun hold => hold.record.spec.operation) = some .kur := by decide +kernel
  obtain ⟨sent, named⟩ := Option.isSome_iff_exists.mp sends
  obtain ⟨o, next, message⟩ := Option.bind_eq_some_iff.mp named
  obtain rfl := Op.eq_send message
  obtain ⟨rest, path⟩ := (renewalDeployment none []).run_next plainLibrary kurJob 16 next
  obtain ⟨hold, call, csrDER, held, serves, _, _, _, _, authorized⟩ := workload_message_authorized path
  rw [held] at update
  obtain ⟨key, signature, all⟩ := authorized (Option.some.inj update)
  exact ⟨_, sent, call, key, signature, csrDER, ⟨rest, path⟩, serves, all⟩

end CmpIssuer
