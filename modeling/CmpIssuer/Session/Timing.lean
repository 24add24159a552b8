import CmpIssuer.Session.Policy
import CmpIssuer.Session.Serving

/-!
The times a `Sign` call puts into what it leaves behind. A new record gets the
deadline that its issuer allows from a clock reading of the call on. The
validity that a request asks for counts from the start of its transaction, which
is the creation of the record or, before there is one, the start of the call.
-/
namespace CmpIssuer
open Effect

/-- The start of the transaction a call works on: the creation of the record it has loaded, and only without
one its own start. -/
inductive StartedIn (job : Job) (t : Trail) : Time → Prop
  | call {started : Time} (first : [⟨.now, started⟩] <+: t)
      (undated : ∀ key record, (⟨.getTransaction key, .ok record⟩ : Event interface) ∈ t →
        record.spec.certificateRequestUID = job.request.uid → record.creationTimestamp = none) :
      StartedIn job t started
  | record {key : NamespacedName} {record : CMPTransaction} {started : Time}
      (loaded : (⟨.getTransaction key, .ok record⟩ : Event interface) ∈ t)
      (own : record.spec.certificateRequestUID = job.request.uid)
      (created : record.creationTimestamp = some started) : StartedIn job t started

def Looked (t : Trail) : Prop := ∃ key answer, (⟨.getTransaction key, answer⟩ : Event interface) ∈ t

/-- The request asks for the validity its issuer and its CertificateRequest say, and signs with the digest of
the issuer. -/
structure Timely (job : Job) (t : Trail) (enrollment : EnrollmentRequest) : Prop where
  looked : Looked t
  notAfter : ∃ started, StartedIn job t started ∧ enrollment.requestedNotAfter =
    requestedNotAfter job.issuer.spec.protocol.requestedValidity enrollment.operation job.request started
  digest : signatureDigest job.issuer.spec.protocol.signatureDigest = .ok enrollment.signatureDigest

/-- The deadline of a record counts from a clock reading of the call that creates it. -/
def Bounded (job : Job) (t : Trail) (record : CMPTransaction) : Prop :=
  ∃ instant : Time, (⟨.now, instant⟩ : Event interface) ∈ t ∧ record.spec.deadline =
    instant + (transactionLimitsWithDefaults job.issuer.spec.transaction).maximumDuration

/-- The monitor of these times. A call looks for a record once. -/
def timing (job : Job) : Monitor interface Trail where
  allows t
    | .getTransaction _ => ¬ Looked t
    | .createTransaction record => Bounded job t record
    | .call call => Timely job t call.enrollment
    | _ => True
  next t o answer := t ++ [⟨o, answer⟩]

/-- The trail has grown, but not by a look for a record. -/
structure Grown (t u : Trail) : Prop where
  extends_ : t <+: u
  unread : ∀ key answer, (⟨.getTransaction key, answer⟩ : Event interface) ∈ u → ⟨.getTransaction key, answer⟩ ∈ t

section
variable {job : Job} {t u v : Trail}

theorem Grown.refl (t : Trail) : Grown t t := ⟨List.prefix_rfl, fun _ _ member => member⟩

theorem Grown.trans (first : Grown t u) (second : Grown u v) : Grown t v :=
  ⟨first.extends_.trans second.extends_,
    fun key answer member => first.unread key answer (second.unread key answer member)⟩

theorem Grown.append (t : Trail) {e : Event interface} (other : ∀ key answer, e ≠ ⟨.getTransaction key, answer⟩) :
    Grown t (t ++ [e]) := by
  refine ⟨List.prefix_append .., fun key answer member => ?_⟩
  rcases List.mem_append.mp member with before | last
  · exact before
  · exact absurd (List.mem_singleton.mp last).symm (other key answer)

theorem Grown.now (t : Trail) (instant : Time) : Grown t (t ++ [⟨.now, instant⟩]) :=
  .append t (by rintro _ _ ⟨⟩)

theorem Looked.mono (looked : Looked t) (grown : t <+: u) : Looked u := by
  obtain ⟨key, answer, member⟩ := looked
  exact ⟨key, answer, grown.subset member⟩

theorem StartedIn.mono {started : Time} (h : StartedIn job t started) (grown : Grown t u) :
    StartedIn job u started := by
  cases h with
  | call first undated =>
      exact .call (first.trans grown.extends_) fun key record read => undated key record (grown.unread _ _ read)
  | record loaded own created => exact .record (grown.extends_.subset loaded) own created

theorem Timely.mono {enrollment : EnrollmentRequest} (h : Timely job t enrollment) (grown : Grown t u) :
    Timely job u enrollment := by
  obtain ⟨started, start, same⟩ := h.notAfter
  exact ⟨h.looked.mono grown.extends_, ⟨started, start.mono grown, same⟩, h.digest⟩

theorem timing_free : Undemanding (timing job) := by
  intro t o plain
  cases o with
  | getTransaction | createTransaction | call => cases plain
  | _ => trivial

/-- Once a call has looked for a record, its trail grows by other operations only. -/
theorem Grown.next (looked : Looked t) (grown : Grown t u) {o : Op} (allowed : (timing job).allows u o)
    (answer : o.Answer) : Grown t ((timing job).next u o answer) := by
  refine grown.trans (.append u ?_)
  rintro key read ⟨⟩
  exact allowed (looked.mono grown.extends_)

variable {ε α β : Type}

theorem timed_grows {Q : Trail → Except (Fault ε) α → Prop} {p : Go ε α} (looked : Looked t)
    (h : Follows (timing job) Q t p) : Follows (timing job) (fun u r => Q u r ∧ Grown t u) t p :=
  h.stable (fun _ _ answer kept allowed => kept.next looked allowed answer) (.refl t)

theorem timed_bind {p : Go ε α} {f : α → Go ε β} (looked : Looked t)
    (first : Follows (timing job) (fun _ _ => True) t p)
    (rest : ∀ u a, Grown t u → Follows (timing job) (fun _ _ => True) u (f a)) :
    Follows (timing job) (fun _ _ => True) t (p >>= f) :=
  (timed_grows looked first).bind (fun u a grown => rest u a grown.2) fun _ _ _ => trivial

theorem timed_ask {o : Op} {f : o.Answer → Go ε β} (plain : o.plain = true)
    (rest : ∀ answer, Follows (timing job) (fun _ _ => True) (t ++ [⟨o, answer⟩]) (f answer)) :
    Follows (timing job) (fun _ _ => True) t (ask o >>= f) :=
  follows_ask_bind.mpr ⟨timing_free t o plain, rest⟩

/-- A part that only looks around, with what is known about its value. -/
theorem timed_reading {P : Trail → α → Prop} {V : α → Prop} {p : Go ε α} {f : α → Go ε β} (looked : Looked t)
    (reads : Follows reading (Loads P) [] p) (ends : Ends V (fun _ => True) p)
    (rest : ∀ u a, Grown t u → V a → Follows (timing job) (fun _ _ => True) u (f a)) :
    Follows (timing job) (fun _ _ => True) t (p >>= f) := by
  have looks : Follows (timing job) _ t p := relies_reading timing_free (fun _ _ => trivial) reads
  exact (timed_grows looked (looks.and_ends ends)).bind (fun u a h => rest u a h.2 h.1.2) fun _ _ _ => trivial

variable {lib : Library} {enrollment : EnrollmentRequest}

theorem protocolClient_timed {call : ClientCall} (timely : Timely job t call.enrollment) :
    Follows (timing job) (fun _ _ => True) t (protocolClient lib call) := by
  refine follows_ask_bind.mpr ⟨timely, fun _ => ?_⟩
  have related : Follows (timing job) _ (t ++ [⟨.call call, ()⟩]) (serve lib call) :=
    (serve_speaks lib call).simulate (R := fun _ _ => True) (by
      rintro _ u o _ allowed
      cases o with
      | send | now | entropy => exact ⟨trivial, fun _ => trivial⟩
      | _ => cases allowed) trivial
  exact related.mono fun _ _ _ => trivial

theorem exchange_timed {record : CMPTransaction} {limits : TransactionSpec} (timely : Timely job t enrollment) :
    Follows (timing job) (fun _ _ => True) t (exchange lib enrollment record limits) := by
  refine timed_ask rfl fun instant => ?_
  have timely := timely.mono (.now t instant)
  split
  · trivial
  · split
    · split <;> exact protocolClient_timed timely
    · split
      · split
        · trivial
        · exact relies_outcome_bind fun _ _ => protocolClient_timed timely
      · trivial

theorem confirm_timed {record : CMPTransaction} {limits : TransactionSpec} {chain : List Certificate}
    {pending : PendingTransaction} (timely : Timely job t enrollment) :
    Follows (timing job) (fun _ _ => True) t (confirm lib record enrollment limits chain pending) := by
  unfold confirm Reported.confirm
  dsimp only [quiet_run, quiet_issued]
  refine timed_ask rfl fun instant => ?_
  have timely := timely.mono (.now t instant)
  split
  · exact failTransaction_relies timing_free
  · split
    · exact failTransaction_relies timing_free
    · split
      · trivial
      · refine relies_bind (relies_attempt (protocolClient_timed timely)) fun u outcome => ?_
        cases outcome with
        | error => exact failTransaction_relies timing_free
        | ok result =>
            dsimp only
            split
            · exact continueConfirming_relies timing_free
            · exact relies_bind (recordIssued_relies timing_free) fun _ _ => trivial

theorem resumeConfirmation_timed {record : CMPTransaction} {limits : TransactionSpec} {csrDER : Bytes}
    (timely : Timely job t enrollment) :
    Follows (timing job) (fun _ _ => True) t (resumeConfirmation lib record enrollment limits csrDER) := by
  unfold resumeConfirmation Reported.resumeConfirmation
  dsimp only [quiet_run]
  split
  · exact failTransaction_relies timing_free
  · refine timed_ask rfl fun instant => ?_
    have timely := timely.mono (.now t instant)
    split
    · exact failTransaction_relies timing_free
    · split
      · exact failTransaction_relies timing_free
      · exact relies_outcome_bind fun _ _ => confirm_timed timely

/-- What the configuration of an issuer says about times and digests. -/
structure Scheduled (issuer : Issuer) (configuration : RuntimeConfiguration) : Prop where
  limits : configuration.transaction = transactionLimitsWithDefaults issuer.spec.transaction
  validity : configuration.requestedValidity = issuer.spec.protocol.requestedValidity
  digest : signatureDigest issuer.spec.protocol.signatureDigest =
    .ok configuration.enrollmentRequest.signatureDigest

theorem loadRuntimeConfiguration_scheduled (clusterResourceNamespace : String) (issuer : Issuer) :
    Ends (Scheduled issuer) (fun _ => True) (loadRuntimeConfiguration lib clusterResourceNamespace issuer) := by
  unfold loadRuntimeConfiguration
  refine ends_outcome ?_
  rintro ⟨spec, namespace_⟩ resolved
  rw [mapError_eq_ok] at resolved
  obtain rfl := issuerSpecAndNamespace_ok resolved
  refine ends_after fun endpoint => ends_after fun anchors => ends_after fun signers => ?_
  refine ends_after fun renewal => ends_after fun roots => ends_after fun protection => ?_
  refine ends_after fun recipient => ends_after fun sender => ends_outcome fun digest chosen => ?_
  refine ends_after fun configurationDigest => ?_
  exact ⟨rfl, rfl, mapError_eq_ok.mp chosen⟩

/-- What is prepared for one operation of an issuer. -/
structure Arranged (issuer : Issuer) (operation : Operation) (prepared : Prepared) : Prop where
  limits : prepared.configuration.transaction = transactionLimitsWithDefaults issuer.spec.transaction
  validity : prepared.configuration.requestedValidity = issuer.spec.protocol.requestedValidity
  digest : signatureDigest issuer.spec.protocol.signatureDigest = .ok prepared.enrollment.signatureDigest
  operation : prepared.enrollment.operation = operation

theorem prepareEnrollment_arranged {request : CertificateRequestObject} {issuer : Issuer}
    {operation : Operation} {reason : Setting FallbackReason} {csrDER : Bytes}
    {configuration : RuntimeConfiguration} (scheduled : Scheduled issuer configuration) :
    Ends (Arranged issuer operation) (fun _ => True)
      (prepareEnrollment lib request issuer operation reason csrDER configuration) := by
  unfold prepareEnrollment prepareWorkloadKeyEnrollment
  dsimp only
  split
  · refine ends_after fun material => ends_after fun digest => ?_
    split <;> exact ends_after fun _ => ⟨scheduled.limits, scheduled.validity, scheduled.digest, rfl⟩
  · exact ⟨scheduled.limits, scheduled.validity, scheduled.digest, rfl⟩

theorem continueTransaction_timed {operation : Operation} {csrDER : Bytes} {started : Time}
    {prepared : Prepared} {record : CMPTransaction} (looked : Looked t) (start : StartedIn job t started)
    (arranged : Arranged job.issuer operation prepared) :
    Follows (timing job) (fun _ _ => True) t
      (continueTransaction lib job.request operation csrDER started prepared record) := by
  have timely : Timely job t { prepared.enrollment with
      transactionID := record.spec.transactionID
      requestedNotAfter :=
        requestedNotAfter prepared.configuration.requestedValidity operation job.request started } :=
    ⟨looked, ⟨started, start, by rw [arranged.validity, ← arranged.operation]⟩, arranged.digest⟩
  unfold continueTransaction Reported.continueTransaction
  dsimp only [quiet_run, quiet_issued]
  split
  · exact resumeConfirmation_timed timely
  · refine timed_bind looked (relies_attempt (exchange_timed timely)) fun u outcome grown => ?_
    cases outcome with
    | error => exact failTransaction_relies timing_free
    | ok result =>
        dsimp only
        split
        · exact continuePolling_relies timing_free
        · refine timed_bind (looked.mono grown.extends_)
            (relies_ask timing_free rfl fun _ _ => writeStatus_relies timing_free) ?_
          exact fun v record later => confirm_timed (timely.mono (grown.trans later))
        · exact relies_bind (recordIssued_relies timing_free) fun _ _ => trivial

theorem createRecord_timed {deadline instant : Time} {detail : TransactionDetail}
    (read : (⟨.now, instant⟩ : Event interface) ∈ t) (bound : deadline =
      instant + (transactionLimitsWithDefaults job.issuer.spec.transaction).maximumDuration) :
    Follows (timing job) (fun _ _ => True) t (createRecord job.request deadline detail) := by
  refine timed_ask rfl fun drawn => ?_
  cases drawn with
  | error => trivial
  | ok =>
      refine follows_ask_bind.mpr ⟨⟨instant, List.mem_append_left _ read, bound⟩, fun created => ?_⟩
      cases created with
      | error => trivial
      | ok => exact relies_ask timing_free rfl fun _ _ => writeStatus_relies timing_free

theorem signNew_timed {started : Time} {csrDER : Bytes} {selected : Operation} (looked : Looked t)
    (start : StartedIn job t started) :
    Follows (timing job) (fun _ _ => True) t (signNew lib job.clusterResourceNamespace job.request job.issuer
      started csrDER selected) := by
  refine timed_reading looked (loads_mapError loadRuntimeConfiguration_loads)
    (ends_mapError.mpr (loadRuntimeConfiguration_scheduled _ _)) fun u configuration grown scheduled => ?_
  refine timed_bind (looked.mono grown.extends_)
    ((relies_reading timing_free (fun _ _ => trivial) selectRenewalFallback_selects).mono fun _ _ _ => trivial) ?_
  rintro v ⟨operation, reason⟩ later
  have grown := grown.trans later
  refine timed_reading (looked.mono grown.extends_) prepareEnrollment_reads (prepareEnrollment_arranged scheduled)
    fun w prepared last arranged => ?_
  refine timed_ask rfl fun instant => ?_
  have grown := (grown.trans last).trans (.now w instant)
  have read : (⟨.now, instant⟩ : Event interface) ∈ w ++ [⟨.now, instant⟩] :=
    List.mem_append_right _ List.mem_cons_self
  refine timed_bind (looked.mono grown.extends_) (createRecord_timed read (by rw [arranged.limits]))
    fun x record more => ?_
  have grown := grown.trans more
  exact continueTransaction_timed (looked.mono grown.extends_) (start.mono grown) arranged

theorem signResumed_timed {started : Time} {csrDER : Bytes} {selected : Operation} {record : CMPTransaction}
    (looked : Looked t) (start : StartedIn job t (transactionStartTime record started)) :
    Follows (timing job) (fun _ _ => True) t (signResumed lib job.clusterResourceNamespace job.request
      job.issuer started csrDER selected record) := by
  unfold signResumed Reported.signResumed
  dsimp only [quiet_run, quiet_deferring]
  split
  · exact failTransaction_relies timing_free
  · split
    · exact recoverIssuedChain_relies timing_free (.unguarded timing_free fun _ _ => trivial)
    · split
      · trivial
      · split
        · exact failTransaction_relies timing_free
        · refine timed_reading looked (loads_mapError loadRuntimeConfiguration_loads)
            (ends_mapError.mpr (loadRuntimeConfiguration_scheduled _ _)) fun u configuration grown scheduled => ?_
          refine timed_reading (looked.mono grown.extends_) prepareEnrollment_reads
            (prepareEnrollment_arranged scheduled) fun v prepared later arranged => ?_
          split
          · exact failTransaction_relies timing_free
          · exact continueTransaction_timed (looked.mono (grown.trans later).extends_)
              (start.mono (grown.trans later)) arranged

/-- What looking for a record after the first reading of the clock leaves: the start of the transaction. -/
theorem loadRecord_timed (started : Time) :
    Follows (timing job) (fun u r => ∀ loaded, r = .ok loaded → Looked u ∧
      StartedIn job u (loaded.elim started (transactionStartTime · started))) [⟨.now, started⟩]
      (loadRecord job.request) := by
  have first : ∀ u : Trail, [⟨.now, started⟩] <+: ⟨.now, started⟩ :: u := fun u => List.prefix_append [_] u
  refine follows_ask_bind.mpr ⟨by rintro ⟨_, _, ⟨⟩ | ⟨_, ⟨⟩⟩⟩, fun answer => ?_⟩
  cases answer with
  | error =>
      dsimp only
      split
      · rintro _ ⟨⟩
        refine ⟨⟨_, _, .tail _ (.head _)⟩, .call (first _) ?_⟩
        rintro key record (_ | ⟨_, _ | ⟨_, ⟨⟩⟩⟩)
      · rintro _ ⟨⟩
  | ok stored =>
      dsimp only
      split
      · rename_i own
        rintro _ ⟨⟩
        refine ⟨⟨_, _, .tail _ (.head _)⟩, ?_⟩
        cases created : stored.creationTimestamp with
        | none =>
            rw [Option.elim_some, transactionStartTime, created]
            refine .call (first _) ?_
            rintro key record (_ | ⟨_, _ | ⟨_, ⟨⟩⟩⟩) _
            exact created
        | some time =>
            rw [Option.elim_some, transactionStartTime, created]
            exact .record (.tail _ (.head _)) own created
      · rename_i foreign
        have undated : ∀ answer key record, (⟨.getTransaction key, .ok record⟩ : Event interface) ∈
            [⟨.now, started⟩, ⟨.getTransaction job.request.key, .ok stored⟩, ⟨.deleteTransaction stored.key
              (deletePreconditions stored), answer⟩] →
            record.spec.certificateRequestUID = job.request.uid → record.creationTimestamp = none := by
          rintro answer key record (_ | ⟨_, _ | ⟨_, _ | ⟨_, ⟨⟩⟩⟩⟩) own
          exact absurd own foreign
        refine follows_ask_bind.mpr ⟨trivial, fun answer => ?_⟩
        cases answer with
        | ok =>
            rintro _ ⟨⟩
            exact ⟨⟨_, _, .tail _ (.head _)⟩, .call (first _) (undated _)⟩
        | error =>
            dsimp only
            split
            · rintro _ ⟨⟩
              exact ⟨⟨_, _, .tail _ (.head _)⟩, .call (first _) (undated _)⟩
            · rintro _ ⟨⟩

/-- Every call keeps to these times. -/
theorem sign_timed (lib : Library) (job : Job) :
    Follows (timing job) (fun _ _ => True) [] (sign lib job.clusterResourceNamespace job.request job.issuer) := by
  refine timed_ask rfl fun started => relies_outcome_bind fun csrDER _ =>
    relies_outcome_bind fun selected _ => ?_
  refine (loadRecord_timed started).bind ?_ fun _ _ _ => trivial
  rintro u (_ | record) loaded
  · obtain ⟨looked, start⟩ := loaded _ rfl
    exact signNew_timed looked start
  · obtain ⟨looked, start⟩ := loaded _ rfl
    exact signResumed_timed looked start

/-- A call that has looked for a record does not look again. -/
theorem sign_unread {p : Go GoError Bytes}
    (path : Path (sign lib job.clusterResourceNamespace job.request job.issuer) u p) (earlier : t <+: u)
    (looked : Looked t) : Grown t u := by
  obtain ⟨rest, rfl⟩ := earlier
  obtain ⟨q, first, later⟩ := path.append_inv
  have run : ∀ v w : Trail, (timing job).run v w = v ++ w := fun v w => Monitor.run_record (fun _ _ _ => rfl) v w
  have kept := ((sign_timed lib job).path first).keeps (I := Grown t)
    (fun _ _ answer kept allowed => kept.next looked allowed answer) later
  rw [run, List.nil_append, run] at kept
  exact kept (.refl t)

end

end CmpIssuer
