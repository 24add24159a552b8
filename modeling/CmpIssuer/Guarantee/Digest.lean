import CmpIssuer.Guarantee.Call
import CmpIssuer.Controller.Digest
import CmpIssuer.Session.Execution
import CmpIssuer.Session.Serving

/-!
The configuration digest across two reconciles: the one that recorded a
transaction and one that resumes it. Equal digests mean that the transaction
consumes the same Secret values in both, as long as no Secret is a credential
of the issuer and a Secret of the workload at once.
-/
namespace CmpIssuer
open Effect

/-- The monitor of programs that create no record. -/
abbrev uncreating : Monitor interface Trail := recorder fun o => o.creates = false

theorem uncreating_free : Undemanding uncreating := by
  intro t o plain
  cases o <;> first | rfl | cases plain

theorem uncreating_client {lib : Library} (t : Trail) (call : ClientCall) :
    Follows uncreating (fun _ _ => True) t (protocolClient lib call) := by
  refine follows_ask_bind.mpr ⟨rfl, fun _ => ?_⟩
  have related : Follows uncreating _ (t ++ [⟨.call call, ()⟩]) (serve lib call) :=
    (serve_speaks lib call).simulate (R := fun _ _ => True) (by
      rintro _ u o _ allowed
      cases o with
      | send | now | entropy => exact ⟨rfl, fun _ => trivial⟩
      | _ => cases allowed) trivial
  exact related.mono fun _ _ _ => trivial

theorem uncreating_path {ε α : Type} {t u : Trail} {p : Go ε α} {record : CMPTransaction}
    {next : Except ApiError Assigned → Go ε α} {Q : Trail → Except (Fault ε) α → Prop}
    (h : Follows uncreating Q u p) (path : Path p t (.op (.createTransaction record) next)) : False := by
  have creates : Op.creates (.createTransaction record) = false := h.allows path
  cases creates

theorem createRecord_creates {request : CertificateRequestObject} {deadline : Time}
    {detail : TransactionDetail} {t : Trail} {record : CMPTransaction}
    {next : Except ApiError Assigned → Go GoError CMPTransaction}
    (path : Path (createRecord request deadline detail) t (.op (.createTransaction record) next)) :
    ∃ transactionID, record = newTransaction request transactionID deadline detail := by
  obtain ⟨drawn, u, rfl, drawing⟩ := path_ask_op (.random transactionIDLength) path (by rintro ⟨⟩)
  cases drawn with
  | error => cases drawing
  | ok transactionID =>
      change Path (Program.op (S := interface) (Op.createTransaction _) _) u _ at drawing
      cases drawing with
      | refl => exact ⟨transactionID, rfl⟩
      | step answer rest =>
          cases answer with
          | error => cases rest
          | ok assigned =>
              obtain ⟨instant, v, rfl, writing⟩ := path_ask_op .now rest (by rintro ⟨⟩)
              exact (uncreating_path (writeStatus_relies (c := []) uncreating_free) writing).elim

/-- A transaction is recorded with the digest and the operation of the request that was prepared for it. -/
theorem sign_creates {lib : Library} {job : Job} {t : Trail} {record : CMPTransaction}
    {next : Except ApiError Assigned → Go GoError Bytes}
    (path : Path (sign lib job.clusterResourceNamespace job.request job.issuer) t
      (.op (.createTransaction record) next)) :
    ∃ enrollment, PreparedIn lib job t record enrollment := by
  have loaders : Loaders uncreating lib job := .unguarded uncreating_free fun _ _ => rfl
  obtain ⟨started, t₁, rfl, starting⟩ := path_ask_op .now path (by rintro ⟨⟩)
  obtain ⟨csrDER, _, requesting⟩ := path_outcome_op starting
  obtain ⟨selected, selection, selecting⟩ := path_outcome_op requesting
  rw [mapError_eq_ok] at selection
  rcases selecting.bind_op with ⟨_, inside⟩ | ⟨loaded, u, v, rfl, _, working⟩
  · exact (uncreating_path (loadRecord_relies (c := []) uncreating_free fun _ _ => rfl) inside).elim
  cases loaded with
  | some old =>
      have resumed : Follows uncreating (fun _ _ => True) [] (signResumed lib job.clusterResourceNamespace
          job.request job.issuer started csrDER selected old) :=
        signResumed_relies uncreating_free uncreating_client loaders selection
      exact (uncreating_path resumed working).elim
  | none =>
      obtain ⟨configuration, reads, v, rfl, loading, selecting⟩ :=
        path_reading_op (loads_mapError loadRuntimeConfiguration_loads) working rfl
      obtain ⟨⟨operation, reason⟩, between, v, rfl, _, preparing⟩ :=
        path_reading_op selectRenewalFallback_loads selecting rfl
      obtain ⟨prepared, work, v, rfl, prepares, recording⟩ :=
        path_reading_op prepareEnrollment_reads preparing rfl
      obtain ⟨instant, v, rfl, creating⟩ := path_ask_op .now recording (by rintro ⟨⟩)
      rcases creating.bind_op with ⟨_, inside⟩ | ⟨created, w, v, rfl, _, continuing⟩
      · obtain ⟨transactionID, rfl⟩ := createRecord_creates inside
        have loaded : Path (loadRuntimeConfiguration lib job.clusterResourceNamespace job.issuer) reads
            (.pure configuration) := Path.mapError_pure loading
        have configured : Configured lib job.clusterResourceNamespace job.issuer reads configuration :=
          loadRuntimeConfiguration_loads.outcome (r := .ok configuration) loaded
        have result : Prepares lib job.issuer operation csrDER configuration work prepared :=
          (prepareEnrollment_loads configured.digest).outcome (r := .ok prepared) prepares
        refine ⟨{ prepared.enrollment with transactionID, requestedNotAfter := none },
          ⟨.now, started⟩ :: u, reads, between, work, ⟨.now, instant⟩ :: v, configuration, prepared, none,
          ?_, loaded, ?_, rfl, rfl⟩
        · simp
        · dsimp only
          rw [result.csr]
          exact prepares
      · exact (uncreating_path (continueTransaction_relies (c := []) uncreating_free uncreating_client)
          continuing).elim

/-- A Certificate does not name a Secret of the issuer as its own: not for its staged key, and for a key
update not for its current one. -/
def Job.NamesApart (job : Job) (operation : Operation) (certificate : CertManagerCertificate) : Prop :=
  (operation = .ir ∨ operation = .kur → ∀ name ∈ certificate.nextPrivateKeySecretName,
    (⟨job.request.namespace_, name⟩ : NamespacedName) ∉
      credentialSecrets job.clusterResourceNamespace job.issuer) ∧
  (operation = .kur → (⟨job.request.namespace_, certificate.secretName⟩ : NamespacedName) ∉
    credentialSecrets job.clusterResourceNamespace job.issuer)

instance (job : Job) (operation : Operation) (certificate : CertManagerCertificate) :
    Decidable (job.NamesApart operation certificate) := inferInstanceAs (Decidable (_ ∧ _))

/-- This holds of every Certificate that a preparation of the reconcile has read. One that was read for
the choice of a fallback only does not count. -/
def WorkloadApart (lib : Library) (job : Job) (operation : Operation) (t : Trail) : Prop :=
  ∀ work reason csrDER configuration prepared, work <:+: t →
    Path (prepareEnrollment lib job.request job.issuer operation reason csrDER configuration) work
      (.pure prepared) →
    ∀ key certificate, (⟨.getCertificate key, .ok certificate⟩ : Event interface) ∈ work →
      job.NamesApart operation certificate

def certificateRead : Event interface → Option CertManagerCertificate
  | ⟨.getCertificate _, .ok certificate⟩ => some certificate
  | _ => none

theorem WorkloadApart.of_reads {lib : Library} {job : Job} {operation : Operation} {t : Trail}
    (apart : ∀ certificate ∈ t.filterMap certificateRead, job.NamesApart operation certificate) :
    WorkloadApart lib job operation t := by
  intro work _ _ _ _ within _ key certificate read
  exact apart certificate (List.mem_filterMap.mpr ⟨_, within.subset read, rfl⟩)

theorem WorkloadApart.secrets {lib : Library} {job : Job} {operation : Operation}
    {reason : Setting FallbackReason} {csrDER : Bytes} {configuration : RuntimeConfiguration}
    {prepared : Prepared} {work t : Trail} (apart : WorkloadApart lib job operation t) (within : work <:+: t)
    (preparing : Path (prepareEnrollment lib job.request job.issuer operation reason csrDER configuration)
      work (.pure prepared)) :
    ∀ key secret, (key, secret) ∈ secretsRead work →
      key ∉ credentialSecrets job.clusterResourceNamespace job.issuer := by
  intro key secret read
  have named := apart work reason csrDER configuration prepared within preparing
  let W : Trail → NamespacedName → Prop := fun u key => u ⊆ work →
    key ∉ credentialSecrets job.clusterResourceNamespace job.issuer
  have follows : Follows (entitled W) (Loads fun u prepared => Authorizes lib job.request job.issuer
      operation reason csrDER u prepared.enrollment) [] (prepareEnrollment lib job.request job.issuer
      operation reason csrDER configuration) := by
    refine prepareEnrollment_entitled (fun workload u revision certificate name authorized staged seen => ?_)
      (fun update u revision certificate authorized seen => ?_)
    · obtain ⟨_, _, _, _, _, _, found⟩ := authorized.owner
      exact (named _ certificate (seen found)).1 workload name staged
    · obtain ⟨_, _, _, _, _, _, found⟩ := authorized.owner
      exact (named _ certificate (seen found)).2 update
  obtain ⟨u, before, entitlement⟩ := entitled_read follows preparing (mem_of_secretsRead read)
  exact entitlement fun e member => before.subset member

/-- What stands behind a request: the reads of its configuration and of its workload keys. -/
theorem PreparedIn.preparation {lib : Library} {job : Job} {t : Trail} {record : CMPTransaction}
    {enrollment : EnrollmentRequest} (h : PreparedIn lib job t record enrollment) :
    ∃ first second configuration prepared,
      Preparation lib job.clusterResourceNamespace job.request job.issuer record.spec.operation
        enrollment.csrDER first second configuration prepared ∧
      first ⊆ t ∧ second ⊆ t ∧
      (WorkloadApart lib job record.spec.operation t → ∀ key secret, (key, secret) ∈ secretsRead second →
        key ∉ credentialSecrets job.clusterResourceNamespace job.issuer) ∧
      record.spec.configurationDigest = prepared.configuration.configurationDigest ∧
      SameSecrets enrollment prepared.enrollment ∧ enrollment.sender = prepared.enrollment.sender := by
  obtain ⟨first, reads, between, work, last, configuration, prepared, notAfter, rfl, loading, preparing, own,
    same⟩ := h
  have within : work <:+: first ++ reads ++ between ++ work ++ last := ⟨first ++ reads ++ between, last, rfl⟩
  refine ⟨reads, work, configuration, prepared, .intro loading preparing,
    fun _ member => by simp [member], within.subset, fun apart => apart.secrets within preparing, own, ?_⟩
  rw [same]
  exact ⟨⟨rfl, rfl, rfl, rfl, rfl, rfl⟩, rfl⟩

/-- Two reconciles of one issuer generation with equal configuration digests consume the same Secret
values. -/
theorem digest_fixes_secrets {lib : Library} (size : FixedSize lib) (encoding : EncodesIdentity lib)
    {job job' : Job} {t t' : Trail} {record : CMPTransaction} {call : ClientCall} {hold : Hold}
    {next : Except ApiError Assigned → Go GoError Bytes} {next' : Unit → Go GoError Bytes}
    (issuer : job'.issuer = job.issuer)
    (signer : job'.clusterResourceNamespace = job.clusterResourceNamespace)
    (recorded : Path (sign lib job.clusterResourceNamespace job.request job.issuer) t
      (.op (.createTransaction record) next))
    (resumed : Path (sign lib job'.clusterResourceNamespace job'.request job'.issuer) t'
      (.op (.call call) next'))
    (held : ((contract lib).run (Session.begin job') t').stage = .held hold)
    (operation : hold.record.spec.operation = record.spec.operation)
    (digest : hold.record.spec.configurationDigest = record.spec.configurationDigest)
    (free : CollisionFree lib job.issuer (secretsRead t ++ secretsRead t'))
    (versions : VersionsTell (secretsRead t) (secretsRead t'))
    (apart : WorkloadApart lib job record.spec.operation t)
    (apart' : WorkloadApart lib job' record.spec.operation t') :
    ∃ enrollment, PreparedIn lib job t record enrollment ∧ SameSecrets enrollment call.enrollment := by
  obtain ⟨enrollment, prepared⟩ := sign_creates recorded
  obtain ⟨hold', stage, hands⟩ := sign_hands resumed
  cases held.symm.trans stage
  refine ⟨enrollment, prepared, ?_⟩
  obtain ⟨first, second, configuration, made, preparation, readsIn, workIn, others, own, secrets, _⟩ :=
    prepared.preparation
  obtain ⟨first', second', configuration', made', preparation', readsIn', workIn', others', own', secrets',
    _⟩ := hands.enrolls.prepared.preparation
  rw [operation] at preparation' others'
  have others' := others' apart'
  rw [issuer, signer] at preparation' others'
  have left := List.subset_append_left (secretsRead t) (secretsRead t')
  have right := List.subset_append_right (secretsRead t) (secretsRead t')
  have seen := List.Subset.trans (secretsRead_mono workIn) left
  have seen' := List.Subset.trans (secretsRead_mono workIn') right
  have covers := preparation.covers.mono (List.append_subset.mpr
    ⟨List.Subset.trans (secretsRead_mono readsIn) left, seen⟩)
  have covers' := preparation'.covers.mono (List.append_subset.mpr
    ⟨List.Subset.trans (secretsRead_mono readsIn') right, seen'⟩)
  have lookups := lookup_of_digest encoding free covers covers' preparation.digest
    (by rw [preparation'.digest, ← own', digest, own])
  have both := preparation.sameSecrets preparation' lookups rfl size free seen seen'
    (fun key secret secret' read read' => versions key secret secret' (secretsRead_mono readsIn read)
      (secretsRead_mono readsIn' read')) (others apart) others'
  exact secrets.trans (both.trans secrets'.symm)

/-- The inputs of the hash function that come from Secrets. -/
def hashedInputs (lib : Library) (reads : List (NamespacedName × Secret)) : List Bytes :=
  reads.flatMap fun entry => workloadKeys.flatMap fun keys =>
    fingerprintInput lib entry.2 keys :: keys.map (coveredValue entry.2)

theorem Hashed.mem_inputs {lib : Library} {issuer : Issuer} {reads : List (NamespacedName × Secret)}
    {data : Bytes} (hashed : Hashed lib issuer reads data) :
    data ∈ hashedInputs lib reads ∨ ∃ identity, lib.marshalIdentity identity = .ok data := by
  cases hashed with
  | identity _ made => exact .inr ⟨_, made⟩
  | fingerprint read known =>
      refine .inl (List.mem_flatMap.mpr ⟨_, read, List.mem_flatMap.mpr ⟨_, known, ?_⟩⟩)
      exact List.mem_cons_self
  | value read known named =>
      refine .inl (List.mem_flatMap.mpr ⟨_, read, List.mem_flatMap.mpr ⟨_, known, ?_⟩⟩)
      exact List.mem_cons_of_mem _ (List.mem_map_of_mem named)

def shortDigest (data : Bytes) : Bytes :=
  [UInt8.ofNat data.length, data.foldl (fun sum byte => 31 * sum + byte) 7]

/-- The encoding of one of some identities: its place. -/
def placeOf (identities : List ConfigurationIdentity) (identity : ConfigurationIdentity) : Bytes :=
  List.replicate (identities.idxOf identity) 1

/-- A library with this digest that encodes some identities. -/
def digestLibrary (base : Library) (identities : List ConfigurationIdentity) : Library :=
  { base with
    sha256 := shortDigest
    marshalIdentity := fun identity =>
      if identity ∈ identities then .ok (placeOf identities identity) else .error "unexpected identity" }

theorem digestLibrary_size (base : Library) (identities : List ConfigurationIdentity) :
    FixedSize (digestLibrary base identities) :=
  ⟨2, by decide, fun _ => rfl⟩

theorem digestLibrary_marshal {base : Library} {identities : List ConfigurationIdentity}
    {identity : ConfigurationIdentity} {encoded : Bytes}
    (marshalled : (digestLibrary base identities).marshalIdentity identity = .ok encoded) :
    identity ∈ identities ∧ encoded = placeOf identities identity := by
  simp only [digestLibrary] at marshalled
  split at marshalled <;> cases marshalled
  rename_i known
  exact ⟨known, rfl⟩

theorem digestLibrary_encodes (base : Library) (identities : List ConfigurationIdentity) :
    EncodesIdentity (digestLibrary base identities) := by
  intro first second encoded marshalled marshalled'
  obtain ⟨known, rfl⟩ := digestLibrary_marshal marshalled
  obtain ⟨_, same⟩ := digestLibrary_marshal marshalled'
  have places := congrArg List.length same
  simp only [placeOf, List.length_replicate] at places
  exact (List.idxOf_inj known).mp places

/-- What such a library hashes for these Secrets has different digests. -/
def DistinctInputs (identities : List ConfigurationIdentity) (reads : List (NamespacedName × Secret)) : Prop :=
  ∀ first ∈ hashedInputs (digestLibrary plainLibrary []) reads ++ identities.map (placeOf identities),
    ∀ second ∈ hashedInputs (digestLibrary plainLibrary []) reads ++ identities.map (placeOf identities),
      shortDigest first = shortDigest second → first = second

instance (identities : List ConfigurationIdentity) (reads : List (NamespacedName × Secret)) :
    Decidable (DistinctInputs identities reads) := inferInstanceAs (Decidable (∀ _ ∈ _, _))

theorem DistinctInputs.free {base : Library} {identities : List ConfigurationIdentity} {issuer issuer' : Issuer}
    {reads : List (NamespacedName × Secret)} (distinct : DistinctInputs identities reads) :
    ∀ first second, Hashed (digestLibrary base identities) issuer reads first →
      Hashed (digestLibrary base identities) issuer' reads second →
      (digestLibrary base identities).sha256 first = (digestLibrary base identities).sha256 second →
      first = second := by
  have known : ∀ issuer data, Hashed (digestLibrary base identities) issuer reads data →
      data ∈ hashedInputs (digestLibrary plainLibrary []) reads ++ identities.map (placeOf identities) := by
    intro issuer data hashed
    rcases hashed.mem_inputs with member | ⟨identity, marshalled⟩
    · exact List.mem_append_left _ member
    · obtain ⟨known, rfl⟩ := digestLibrary_marshal marshalled
      exact List.mem_append_right _ (List.mem_map_of_mem known)
  exact fun first second left right => distinct first (known _ _ left) second (known _ _ right)

/-- The fingerprints of an issuer with one Secret. -/
def issuerFingerprints (credentials : Secret) : Fingerprints :=
  (∅ : Fingerprints).insert ⟨"default", "cmp"⟩ (credentialFingerprint credentials)

/-- The fingerprints when a Certificate of the issuer with this current Secret is renewed. -/
def renewalFingerprints (credentials : Secret) (name : String) (current : Secret) : Fingerprints :=
  let lib := digestLibrary plainLibrary []
  ((issuerFingerprints credentials).insert ⟨"default", name⟩
    (workloadSecretFingerprint lib current [tlsCertKey, tlsPrivateKeyKey])).insert ⟨"default", "staged"⟩
    (workloadSecretFingerprint lib stagedSecret [tlsPrivateKeyKey])

def Deployment.withSecrets (d : Deployment) (credentials current : Secret) : Deployment :=
  { d with secrets := fun key => .ok (if key.name = "staged" then stagedSecret
      else if key.name = "current" then current else credentials) }

/-- The identities of a renewal with separate Secrets. -/
def renewalIdentities : List ConfigurationIdentity :=
  [issuerFingerprints plainSecret, renewalFingerprints plainSecret "current" currentSecret].map
    (configurationIdentity (issuerReference irIssuer))

theorem digest_fixes_secrets_touched : ∃ t t' record call next next' enrollment,
    Path (sign (digestLibrary plainLibrary renewalIdentities) kurJob.clusterResourceNamespace kurJob.request kurJob.issuer)
      t (.op (.createTransaction record) next) ∧
    Path (sign (digestLibrary plainLibrary renewalIdentities) kurJob.clusterResourceNamespace kurJob.request kurJob.issuer)
      t' (.op (.call call) next') ∧
    PreparedIn (digestLibrary plainLibrary renewalIdentities) kurJob t record enrollment ∧
    SameSecrets enrollment call.enrollment := by
  obtain ⟨lib, known, d, d', ⟨record, creates, hold, works, operation, same, digest⟩, ⟨call, resumes⟩, distinct,
      versions, apart, apart'⟩ :
      ∃ lib, lib = digestLibrary plainLibrary renewalIdentities ∧ ∃ d d' : Deployment,
      (∃ record ∈ (d.run lib kurJob 9).2.2.next?.bind Op.create?,
        ∃ hold ∈ ((contract lib).run (Session.begin kurJob) (d'.run lib kurJob 8).1).stage.working,
          record.spec.operation = .kur ∧ hold.record.spec.operation = .kur ∧
          hold.record.spec.configurationDigest = record.spec.configurationDigest) ∧
      (∃ call ∈ (d'.run lib kurJob 8).2.2.next?.bind Op.call?, True) ∧
      DistinctInputs renewalIdentities
        (secretsRead (d.run lib kurJob 9).1 ++ secretsRead (d'.run lib kurJob 8).1) ∧
      VersionsTell (secretsRead (d.run lib kurJob 9).1) (secretsRead (d'.run lib kurJob 8).1) ∧
      (∀ certificate ∈ (d.run lib kurJob 9).1.filterMap certificateRead, kurJob.NamesApart .kur certificate) ∧
      ∀ certificate ∈ (d'.run lib kurJob 8).1.filterMap certificateRead, kurJob.NamesApart .kur certificate := by
    refine ⟨_, rfl, renewalDeployment none [], ((renewalDeployment none []).after
      (digestLibrary plainLibrary renewalIdentities) kurJob 18).withSecrets plainSecret
      { currentSecret with resourceVersion := "2" }, ?_⟩
    decide +kernel
  obtain ⟨rest, recorded⟩ := d.run_view lib kurJob 9 Op.eq_createTransaction creates
  obtain ⟨rest', resumed⟩ := d'.run_view lib kurJob 8 Op.eq_call resumes.1
  obtain ⟨hold', held, _⟩ := sign_hands resumed
  rw [held] at works
  cases works
  subst known
  obtain ⟨enrollment, prepared, secrets⟩ := digest_fixes_secrets (digestLibrary_size _ _)
    (digestLibrary_encodes _ _) rfl rfl recorded resumed held (same.trans operation.symm) digest distinct.free
    versions (operation ▸ .of_reads apart) (operation ▸ .of_reads apart')
  exact ⟨_, _, record, call, rest, rest', enrollment, recorded, resumed, prepared, secrets⟩

/-- A Secret with the credentials of the issuer that a Certificate uses as its own. -/
def sharedSecret : Secret :=
  { currentSecret with
    uid := "secret-uid"
    data := (plainSecret.data.insert tlsCertKey [2]).insert tlsPrivateKeyKey [6] }

def rotatedSecret : Secret :=
  { sharedSecret with
    resourceVersion := "2"
    data := sharedSecret.data.insert "ca" [9] }

/-- The identities of a renewal with the shared Secret. The last one is that of both Secrets. -/
def sharedIdentities : List ConfigurationIdentity :=
  [issuerFingerprints sharedSecret, issuerFingerprints rotatedSecret,
    renewalFingerprints sharedSecret "cmp" sharedSecret].map (configurationIdentity (issuerReference irIssuer))

def sharedDeployment : Deployment :=
  { (renewalDeployment none []).withSecrets sharedSecret currentSecret with
    certificates := fun _ => .ok { renewedCertificate with secretName := "cmp" } }

def recordCreated : Event interface → Option (CMPTransaction × Assigned)
  | ⟨.createTransaction record, .ok assigned⟩ => some (record, assigned)
  | _ => none

theorem mem_of_recordCreated {t : Trail} {record : CMPTransaction} {assigned : Assigned}
    (h : (record, assigned) ∈ t.filterMap recordCreated) :
    (⟨.createTransaction record, .ok assigned⟩ : Event interface) ∈ t := by
  obtain ⟨⟨o, answer⟩, member, made⟩ := List.mem_filterMap.mp h
  cases o with
  | createTransaction record => cases answer <;> cases made; exact member
  | _ => cases made

/-- A trust anchor is replaced in a Secret that a Certificate shares with its issuer. The version of the
Secret has changed and nothing collides, but the digest is the same. -/
theorem digest_misses_shared_secret : ∃ lib t t' record assigned call call' next next' hold,
    FixedSize lib ∧ EncodesIdentity lib ∧
    CollisionFree lib kurJob.issuer (secretsRead t ++ secretsRead t') ∧
    VersionsTell (secretsRead t) (secretsRead t') ∧
    Path (sign lib kurJob.clusterResourceNamespace kurJob.request kurJob.issuer) t (.op (.call call) next) ∧
    (⟨.createTransaction record, .ok assigned⟩ : Event interface) ∈ t ∧
    Path (sign lib kurJob.clusterResourceNamespace kurJob.request kurJob.issuer) t' (.op (.call call') next') ∧
    ((contract lib).run (Session.begin kurJob) t').stage = .held hold ∧
    hold.record.spec.transactionID = record.spec.transactionID ∧
    hold.record.spec.operation = record.spec.operation ∧
    hold.record.spec.configurationDigest = record.spec.configurationDigest ∧
    call.enrollment.cmpTrust ≠ call'.enrollment.cmpTrust := by
  obtain ⟨lib, known, d, d', ⟨⟨record, assigned⟩, created, hold, works, same⟩,
      ⟨call, hands, call', hands', differ⟩, distinct, versions⟩ :
      ∃ lib, lib = digestLibrary plainLibrary sharedIdentities ∧ ∃ d d' : Deployment,
      (∃ made ∈ (d.run lib kurJob 13).1.filterMap recordCreated,
        ∃ hold ∈ ((contract lib).run (Session.begin kurJob) (d'.run lib kurJob 8).1).stage.working,
          hold.record.spec.transactionID = made.1.spec.transactionID ∧
          hold.record.spec.operation = made.1.spec.operation ∧
          hold.record.spec.configurationDigest = made.1.spec.configurationDigest) ∧
      (∃ call ∈ (d.run lib kurJob 13).2.2.next?.bind Op.call?,
        ∃ call' ∈ (d'.run lib kurJob 8).2.2.next?.bind Op.call?,
          call.enrollment.cmpTrust ≠ call'.enrollment.cmpTrust) ∧
      DistinctInputs sharedIdentities
        (secretsRead (d.run lib kurJob 13).1 ++ secretsRead (d'.run lib kurJob 8).1) ∧
      VersionsTell (secretsRead (d.run lib kurJob 13).1) (secretsRead (d'.run lib kurJob 8).1) := by
    refine ⟨_, rfl, sharedDeployment, (sharedDeployment.after (digestLibrary plainLibrary sharedIdentities) kurJob
      18).withSecrets rotatedSecret currentSecret, ?_⟩
    decide +kernel
  obtain ⟨rest, first⟩ := d.run_view lib kurJob 13 Op.eq_call hands
  obtain ⟨rest', second⟩ := d'.run_view lib kurJob 8 Op.eq_call hands'
  obtain ⟨hold', held, _⟩ := sign_hands second
  rw [held] at works
  cases works
  subst known
  exact ⟨_, _, _, record, assigned, call, call', rest, rest', hold, digestLibrary_size _ _,
    digestLibrary_encodes _ _, distinct.free, versions, first, mem_of_recordCreated created, second, held,
    same.1, same.2.1, same.2.2, differ⟩

end CmpIssuer
