import CmpIssuer.Session.Execution
import CmpIssuer.Session.Serving

/-!
The point of a `Sign` call at which it hands a request to the client. The record
it works on was opened for this request and issuer, and all but an enrollment is
within the poll limit of the issuer. What is left of the call is the work of the
client and what the signer makes of its outcome, so a wait that the client
reports is recorded and ends the call.
-/
namespace CmpIssuer
open Effect

/-- A record opened for this request and this issuer. -/
structure Suits (lib : Library) (job : Job) (csrDER : Bytes) (record : CMPTransaction) : Prop where
  csr : requestedCSR lib job.request = .ok csrDER
  digest : record.spec.csrDigest = csrDigestHex lib csrDER
  issuer : record.spec.issuerRef = some (issuerReference job.issuer)
  operation : ∃ selected, selectedTransactionOperation lib job.issuer job.request = .ok selected ∧
    (record.spec.renewalFallback = .unset ∧ record.spec.operation = selected ∨
      ∃ reason, record.spec.renewalFallback = .value reason ∧ selected = .kur ∧
        renewalFallbackOperation job.issuer ≠ .unset ∧
        record.spec.operation = renewalFallbackOperation job.issuer)

/-- A status write keeps a record suited. It only cuts the deadline to seconds. -/
theorem Suits.updated {lib : Library} {job : Job} {csrDER : Bytes} {record : CMPTransaction}
    (suits : Suits lib job csrDER record) (status : CMPTransactionStatus) (resourceVersion : String) :
    Suits lib job csrDER (({ record with status } : CMPTransaction).updated resourceVersion) :=
  ⟨suits.csr, suits.digest, suits.issuer, suits.operation⟩

/-- What the signer makes of the outcome of the client. -/
inductive HandsOver (lib : Library) (limits : TransactionSpec) (record : CMPTransaction) :
    ClientCall → (Except GoError EnrollmentResult → Go GoError Bytes) → Prop
  | exchange {call : ClientCall} {after : Except GoError EnrollmentResult → Go GoError Bytes}
      (obtains : call.confirms = false)
      (budget : call.enrolls = false → record.status.polls < limits.maximumPolls)
      (fails : ∀ err, after (.error err) = failTransaction record err)
      (waits : ∀ result pending, result.pending = some pending →
        after (.ok result) = continuePolling lib record pending limits (record.status.phase == .polling)) :
      HandsOver lib limits record call after
  | confirm {confirm : ConfirmRequest} {after : Except GoError EnrollmentResult → Go GoError Bytes}
      (budget : record.status.polls < limits.maximumPolls)
      (fails : ∀ err, after (.error err) = failTransaction record err)
      (waits : ∀ result pending, result.pendingConfirmation = some pending → ∃ chain,
        after (.ok result) = continueConfirming lib record chain pending limits
          (confirm.requestNonce != [])) :
      HandsOver lib limits record (.confirmP10CR confirm) after

theorem HandsOver.failing {lib : Library} {limits : TransactionSpec} {record : CMPTransaction}
    {call : ClientCall} {after : Except GoError EnrollmentResult → Go GoError Bytes}
    (handsOver : HandsOver lib limits record call after) (err : GoError) :
    after (.error err) = failTransaction record err := by
  cases handsOver with
  | exchange _ _ fails | confirm _ fails => exact fails err

section
variable {ε ε' α β : Type} {p : Go ε α} {f : Except ε α → Go ε' β} {t : Trail}

/-- A way through a call whose error is taken as a value, up to an operation. -/
theorem path_attempt_op {o : Op} {next : o.Answer → Go ε' β} (path : Path (attempt p >>= f) t (.op o next)) :
    (∃ next', Path p t (.op o next') ∧ ∀ answer, next answer = attempt (next' answer) >>= f) ∨
      ∃ r u v, t = u ++ v ∧ Path p u (ofExcept r) ∧ Path (f r) v (.op o next) := by
  rcases path.bind_inv with ⟨_, first, same⟩ | ⟨r, u, v, rfl, first, second⟩
  · obtain ⟨q, inside, rfl⟩ := first.attempt_inv
    cases q with
    | pure a => exact .inr ⟨.ok a, t, [], by simp, inside, same ▸ .refl _⟩
    | throw fault =>
        cases fault with
        | error err => exact .inr ⟨.error err, t, [], by simp, inside, same ▸ .refl _⟩
        | panic reason => cases same
    | op o' next' =>
        cases same
        exact .inl ⟨next', inside, fun _ => rfl⟩
  · obtain ⟨q, inside, same⟩ := first.attempt_inv
    refine .inr ⟨r, u, v, rfl, ?_, second⟩
    cases q with
    | pure a => cases same; exact inside
    | throw fault => cases fault <;> cases same; exact inside
    | op => cases same

theorem path_attempt_end {r : Except (Fault ε') β} (path : Path (attempt p >>= f) t (.ofExcept r)) :
    (∃ reason, r = .error (.panic reason)) ∨
      ∃ r' u v, t = u ++ v ∧ Path p u (ofExcept r') ∧ Path (f r') v (.ofExcept r) := by
  rcases path.bind_inv with ⟨_, first, same⟩ | ⟨r', u, v, rfl, first, second⟩
  · obtain ⟨q, inside, rfl⟩ := first.attempt_inv
    cases q with
    | pure a => exact .inr ⟨.ok a, t, [], by simp, inside, same ▸ .refl _⟩
    | throw fault =>
        cases fault with
        | error err => exact .inr ⟨.error err, t, [], by simp, inside, same ▸ .refl _⟩
        | panic reason => cases r <;> cases same; exact .inl ⟨reason, rfl⟩
    | op => cases r <;> cases same
  · obtain ⟨q, inside, same⟩ := first.attempt_inv
    refine .inr ⟨r', u, v, rfl, ?_, second⟩
    cases q with
    | pure a => cases same; exact inside
    | throw fault => cases fault <;> cases same; exact inside
    | op => cases same

end

/-- Whether an operation hands a request to the client. -/
def Op.calls : Op → Bool
  | .call _ => true
  | _ => false

/-- The monitor of programs that hand over nothing. -/
abbrev uncalling : Monitor interface Trail := recorder fun o => o.calls = false

theorem uncalling_free : Undemanding uncalling := by
  intro t o plain
  cases o <;> first | rfl | cases plain

theorem uncalling_path {ε α : Type} {t u : Trail} {p : Go ε α} {call : ClientCall} {next : Unit → Go ε α}
    {Q : Trail → Except (Fault ε) α → Prop} (h : Follows uncalling Q u p)
    (path : Path p t (.op (.call call) next)) : False := by
  have calls : Op.calls (.call call) = false := h.allows path
  cases calls

theorem failTransaction_uncalling {α : Type} {t : Trail} {record : CMPTransaction} {err : GoError}
    {call : ClientCall} {next : Unit → Go GoError α}
    (path : Path (failTransaction record err) t (.op (.call call) next)) : False :=
  uncalling_path (failTransaction_relies (c := []) uncalling_free) path

/-- Whether an operation belongs to the work on a record that is at hand: a request to the client, or a
status past the first one. -/
def Op.late : Op → Bool
  | .call _ => true
  | .updateTransactionStatus record => record.status.phase != .enrolling
  | _ => false

theorem Op.late_silent {o : Op} (late : o.late = true) : o.silent = false := by
  cases o <;> first | rfl | cases late

/-- The monitor of the parts of `Sign` before that work. -/
abbrev opening : Monitor interface Trail := recorder fun o => o.late = false

theorem opening_path {ε α : Type} {t : Trail} {p : Go ε α} {o : Op} {next : o.Answer → Go ε α}
    {Q : Trail → Except (Fault ε) α → Prop} (h : Follows opening Q [] p) (path : Path p t (.op o next))
    (late : o.late = true) : False := by
  have early : o.late = false := h.allows path
  rw [late] at early
  cases early

section
variable {α : Type} {t : Trail}

theorem failTransaction_opening {record : CMPTransaction} {err : GoError} :
    Follows opening (fun _ _ => True) t (failTransaction (α := α) record err) := by
  unfold failTransaction
  dsimp only
  split
  · refine relies_bind (follows_ask_bind.mpr ⟨rfl, fun answer => ?_⟩) fun _ _ => trivial
    cases answer with
    | ok => trivial
    | error => dsimp only; split <;> trivial
  · trivial

theorem loadRecord_opening {request : CertificateRequestObject} :
    Follows opening (fun _ _ => True) t (loadRecord request) := by
  refine follows_ask_bind.mpr ⟨rfl, fun answer => ?_⟩
  cases answer with
  | error => dsimp only; split <;> trivial
  | ok =>
      dsimp only
      split
      · trivial
      · refine follows_ask_bind.mpr ⟨rfl, fun answer => ?_⟩
        cases answer with
        | ok => trivial
        | error => dsimp only; split <;> trivial

theorem createRecord_opening {request : CertificateRequestObject} {deadline : Time} {detail : TransactionDetail} :
    Follows opening (fun _ _ => True) t (createRecord request deadline detail) := by
  refine follows_ask_bind.mpr ⟨rfl, fun drawn => ?_⟩
  cases drawn with
  | error => trivial
  | ok =>
      refine follows_ask_bind.mpr ⟨rfl, fun created => ?_⟩
      cases created with
      | error => trivial
      | ok =>
          refine follows_ask_bind.mpr ⟨rfl, fun instant => follows_ask_bind.mpr ⟨rfl, fun answer => ?_⟩⟩
          cases answer <;> trivial

theorem recoverIssuedChain_opening {lib : Library} {clusterResourceNamespace : String} {record : CMPTransaction}
    {issuer : Issuer} {csrDER : Bytes} :
    Follows opening (fun _ _ => True) t
      (recoverIssuedChain lib clusterResourceNamespace record issuer csrDER) := by
  unfold recoverIssuedChain
  split
  · exact failTransaction_opening
  · have trust : Follows opening (fun _ _ => True) t
        ((loadCMPTrust lib clusterResourceNamespace issuer).mapError
          (Fault.map fun err => GoError.issuer err.goError)) := by
      have silent : ∀ o : Op, o.silent = true → o.late = false := by
        intro o silent
        cases o <;> first | rfl | cases silent
      exact relies_mapError ((loadCMPTrust_loads.after silent t).mono fun _ _ _ => trivial)
    refine relies_bind trust ?_
    rintro u ⟨roots, candidates⟩
    refine follows_ask_bind.mpr ⟨rfl, fun instant => ?_⟩
    split
    · exact failTransaction_opening
    · trivial

end

section
variable {lib : Library} {job : Job} {t : Trail} {call : ClientCall}

/-- The client gets its request at once and hands over nothing itself. -/
theorem protocolClient_calls {served : ClientCall} {next : Unit → Go GoError EnrollmentResult}
    (path : Path (protocolClient lib served) t (.op (.call call) next)) :
    t = [] ∧ served = call ∧ next () = serve lib call := by
  change Path (Program.op (S := interface) (Op.call served) fun _ => serve lib served) t _ at path
  cases path with
  | refl => exact ⟨rfl, rfl, rfl⟩
  | step answer rest =>
      have allowed : Op.client (.call call) = true := (serve_speaks lib served).allows rest
      cases allowed

theorem exchange_calls {enrollment : EnrollmentRequest} {record : CMPTransaction} {limits : TransactionSpec}
    {next : Unit → Go GoError EnrollmentResult}
    (path : Path (exchange lib enrollment record limits) t (.op (.call call) next)) :
    (∃ instant, t = [⟨.now, instant⟩]) ∧ call.confirms = false ∧
      (call.enrolls = false → record.status.polls < limits.maximumPolls) ∧ next () = serve lib call := by
  obtain ⟨instant, u, rfl, checking⟩ := path_ask_op .now path (by rintro ⟨⟩)
  have handed : ∀ served, Path (protocolClient lib served) u (.op (.call call) next) →
      served.confirms = false → (served.enrolls = false → record.status.polls < limits.maximumPolls) →
      (∃ instant', (⟨.now, instant⟩ : Event interface) :: u = [⟨.now, instant'⟩]) ∧ call.confirms = false ∧
        (call.enrolls = false → record.status.polls < limits.maximumPolls) ∧ next () = serve lib call := by
    intro served calling obtains budget
    obtain ⟨rfl, rfl, rest⟩ := protocolClient_calls calling
    exact ⟨⟨instant, rfl⟩, obtains, budget, rest⟩
  split at checking
  · cases checking
  · split at checking
    · split at checking
      · exact handed _ checking rfl (by rintro ⟨⟩)
      · exact handed _ checking rfl (by rintro ⟨⟩)
      · exact handed _ checking rfl (by rintro ⟨⟩)
    · split at checking
      · split at checking
        · cases checking
        · rename_i within
          obtain ⟨signer, _, polling⟩ := path_outcome_op checking
          exact handed _ polling rfl fun _ => not_le.mp within
      · cases checking

/-- The request a call hands over after some events that keep its record, and what it does afterwards. -/
def HandedBy (lib : Library) (limits : TransactionSpec) (hold : Hold) (session : Session) (call : ClientCall)
    (rest : Go GoError Bytes) : Prop :=
  session.stage = .held hold ∧
    ∃ after, HandsOver lib limits hold.record call after ∧ rest = attempt (serve lib call) >>= after

theorem held_now {hold : Hold} {session : Session} {instant : Time} (stage : session.stage = .held hold) :
    ((contract lib).next session .now instant).stage = .held hold := by
  obtain ⟨job, trail, _⟩ := session
  subst stage
  rfl

theorem confirm_calls {hold : Hold} {session : Session} {enrollment : EnrollmentRequest}
    {limits : TransactionSpec} {chain : List Certificate} {pending : PendingTransaction}
    {next : Unit → Go GoError Bytes} (stage : session.stage = .held hold)
    (path : Path (confirm lib hold.record enrollment limits chain pending) t (.op (.call call) next)) :
    HandedBy lib limits hold ((contract lib).run session t) call (next ()) := by
  unfold confirm Reported.confirm at path
  dsimp only [quiet_run, quiet_issued] at path
  obtain ⟨instant, u, rfl, checking⟩ := path_ask_op .now path (by rintro ⟨⟩)
  split at checking
  · exact (failTransaction_uncalling checking).elim
  · split at checking
    · exact (failTransaction_uncalling checking).elim
    · rename_i within
      split at checking
      · cases checking
      · rename_i leaf rest
        rcases path_attempt_op checking with ⟨next', calling, left⟩ | ⟨r, v, w, rfl, _, recording⟩
        · obtain ⟨rfl, rfl, served⟩ := protocolClient_calls calling
          refine ⟨?_, _, ?_, (left ()).trans (by rw [served])⟩
          · exact held_now stage
          · refine .confirm (not_le.mp within) (fun _ => rfl) fun result next delayed => ⟨leaf :: rest, ?_⟩
            dsimp only
            rw [delayed]
            rfl
        · cases r with
          | error => exact (failTransaction_uncalling recording).elim
          | ok result =>
              dsimp only at recording
              split at recording
              · exact (uncalling_path (continueConfirming_relies (c := []) uncalling_free) recording).elim
              · refine (uncalling_path (relies_bind (recordIssued_relies (c := []) uncalling_free) ?_)
                  recording).elim
                exact fun _ _ => trivial

theorem resumeConfirmation_calls {hold : Hold} {session : Session} {enrollment : EnrollmentRequest}
    {limits : TransactionSpec} {csrDER : Bytes} {next : Unit → Go GoError Bytes}
    (stage : session.stage = .held hold)
    (path : Path (resumeConfirmation lib hold.record enrollment limits csrDER) t (.op (.call call) next)) :
    HandedBy lib limits hold ((contract lib).run session t) call (next ()) := by
  unfold resumeConfirmation Reported.resumeConfirmation at path
  dsimp only [quiet_run] at path
  split at path
  · exact (failTransaction_uncalling path).elim
  · obtain ⟨instant, u, rfl, checking⟩ := path_ask_op .now path (by rintro ⟨⟩)
    split at checking
    · exact (failTransaction_uncalling checking).elim
    · split at checking
      · exact (failTransaction_uncalling checking).elim
      · obtain ⟨signer, _, confirming⟩ := path_outcome_op checking
        rw [Monitor.run_cons]
        exact confirm_calls (held_now stage) confirming

/-- A status write that succeeds is the last a call knows of its record. -/
theorem writeStatus_path (lib : Library) (session : Session) {failure : String}
    {record written : CMPTransaction} {status : CMPTransactionStatus}
    (path : Path (writeStatus failure record status) t (.pure written)) :
    ∃ resourceVersion, written = ({ record with status } : CMPTransaction).updated resourceVersion ∧
      ((contract lib).run session t).stage = .held ⟨written, session.stage.origin⟩ := by
  change Path (Program.op (S := interface) (Op.updateTransactionStatus { record with status }) _) t _ at path
  cases path with
  | step answer rest =>
      cases answer with
      | error => cases rest
      | ok resourceVersion =>
          cases rest
          exact ⟨resourceVersion, rfl, rfl⟩

theorem continueTransaction_calls {hold : Hold} {session : Session} {request : CertificateRequestObject}
    {operation : Operation} {csrDER : Bytes} {started : Time} {prepared : Prepared}
    {next : Unit → Go GoError Bytes} (stage : session.stage = .held hold)
    (suits : Suits lib job csrDER hold.record)
    (path : Path (continueTransaction lib request operation csrDER started prepared hold.record) t
      (.op (.call call) next)) :
    ∃ hold', Suits lib job csrDER hold'.record ∧
      HandedBy lib prepared.configuration.transaction hold' ((contract lib).run session t) call (next ()) := by
  unfold continueTransaction Reported.continueTransaction at path
  dsimp only [quiet_run, quiet_issued] at path
  split at path
  · exact ⟨hold, suits, resumeConfirmation_calls stage path⟩
  · rcases path_attempt_op path with ⟨next', calling, left⟩ | ⟨r, u, v, rfl, _, recording⟩
    · obtain ⟨⟨instant, rfl⟩, obtains, budget, served⟩ := exchange_calls calling
      refine ⟨hold, suits, ?_, _, ?_, (left ()).trans (by rw [served])⟩
      · exact held_now stage
      · refine .exchange obtains budget (fun _ => rfl) fun result pending waiting => ?_
        dsimp only
        rw [waiting]
        rfl
    · cases r with
      | error => exact (failTransaction_uncalling recording).elim
      | ok result =>
          dsimp only at recording
          split at recording
          · exact (uncalling_path (continuePolling_relies (c := []) uncalling_free) recording).elim
          · rcases recording.bind_op with ⟨_, inside⟩ | ⟨written, w, v, rfl, writing, confirming⟩
            · refine (uncalling_path (relies_ask (c := []) uncalling_free rfl ?_) inside).elim
              exact fun _ _ => writeStatus_relies uncalling_free
            · obtain ⟨instant, x, rfl, storing⟩ := path_ask_pure .now writing
              obtain ⟨resourceVersion, rfl, held⟩ := writeStatus_path lib
                ((contract lib).next ((contract lib).run session u) .now instant) storing
              rw [Monitor.run_append, Monitor.run_append, Monitor.run_cons]
              exact ⟨_, suits.updated _ resourceVersion, confirm_calls held confirming⟩
          · refine (uncalling_path (relies_bind (recordIssued_relies (c := []) uncalling_free) ?_)
              recording).elim
            exact fun _ _ => trivial

theorem createRecord_path (lib : Library) (session : Session) {request : CertificateRequestObject}
    {deadline : Time} {detail : TransactionDetail} {record : CMPTransaction}
    (path : Path (createRecord request deadline detail) t (.pure record)) :
    record.spec.certificateRequestUID = request.uid ∧ record.spec.csrDigest = detail.csrDigest ∧
      record.spec.issuerRef = some detail.issuerRef ∧
      record.spec.configurationDigest = detail.configurationDigest ∧
      record.spec.operation = detail.operation ∧ record.spec.renewalFallback = detail.renewalFallback ∧
      record.status.phase = .enrolling ∧ ∃ origin, ((contract lib).run session t).stage = .held ⟨record, origin⟩ := by
  obtain ⟨drawn, u, rfl, drawing⟩ := path_ask_pure (.random transactionIDLength) path
  cases drawn with
  | error => cases drawing
  | ok transactionID =>
      obtain ⟨answer, v, rfl, creating⟩ := path_ask_pure (.createTransaction _) drawing
      cases answer with
      | error => cases creating
      | ok assigned =>
          obtain ⟨instant, w, rfl, writing⟩ := path_ask_pure .now creating
          obtain ⟨resourceVersion, rfl, held⟩ := writeStatus_path lib _ writing
          exact ⟨rfl, rfl, rfl, rfl, rfl, rfl, rfl, _, held⟩

theorem loadRecord_some (lib : Library) (session : Session) {record : CMPTransaction}
    (path : Path (loadRecord session.job.request) t (.pure (some record))) :
    ((contract lib).run session t).stage = .held ⟨record, .loaded record⟩ ∧
      record.spec.certificateRequestUID = session.job.request.uid := by
  obtain ⟨answer, u, rfl, found⟩ := path_ask_pure (.getTransaction session.job.request.key) path
  cases answer with
  | error =>
      dsimp only at found
      split at found <;> cases found
  | ok stored =>
      dsimp only at found
      split at found
      · rename_i own
        cases found
        exact ⟨if_pos own, own⟩
      · obtain ⟨answer, v, rfl, gone⟩ := path_ask_pure (.deleteTransaction _ _) found
        cases answer with
        | ok => cases gone
        | error =>
            dsimp only at gone
            split at gone <;> cases gone

theorem prepared_limits {configuration : RuntimeConfiguration} {reads work : Trail} {operation : Operation}
    {reason : Setting FallbackReason} {csrDER : Bytes} {prepared : Prepared}
    (loading : Path (issuerConfiguration lib job.clusterResourceNamespace job.issuer) reads
      (.pure configuration))
    (preparing : Path (prepareEnrollment lib job.request job.issuer operation reason csrDER configuration) work
      (.pure prepared)) :
    prepared.configuration.transaction = transactionLimitsWithDefaults job.issuer.spec.transaction := by
  have configured : Configured lib job.clusterResourceNamespace job.issuer reads configuration :=
    loadRuntimeConfiguration_loads.outcome (r := .ok configuration) (Path.mapError_pure loading)
  have prepares : Prepares lib job.issuer operation csrDER configuration work prepared :=
    (prepareEnrollment_loads configured.digest).outcome (r := .ok prepared) preparing
  exact prepares.limits.trans configured.limits

/-- A call that has a record of its request at hand and the request for its operation prepared. -/
structure Underway (lib : Library) (job : Job) (t : Trail) (hold : Hold) (csrDER : Bytes) (prepared : Prepared) :
    Prop where
  suits : Suits lib job csrDER hold.record
  own : hold.record.spec.certificateRequestUID = job.request.uid
  unissued : hold.record.status.phase ≠ .issued
  held : ((contract lib).run (Session.begin job) t).stage = .held hold
  preparation : ∃ first reads between work last configuration,
    t = first ++ reads ++ between ++ work ++ last ∧
    Path (loadRuntimeConfiguration lib job.clusterResourceNamespace job.issuer) reads (.pure configuration) ∧
    Path (prepareEnrollment lib job.request job.issuer hold.record.spec.operation
      hold.record.spec.renewalFallback csrDER configuration) work (.pure prepared)
  digest : hold.record.spec.configurationDigest = prepared.configuration.configurationDigest

theorem Underway.limits {hold : Hold} {csrDER : Bytes} {prepared : Prepared}
    (underway : Underway lib job t hold csrDER prepared) :
    prepared.configuration.transaction = transactionLimitsWithDefaults job.issuer.spec.transaction := by
  obtain ⟨_, reads, _, work, _, configuration, _, loading, preparing⟩ := underway.preparation
  exact prepared_limits (loading.mapError _) preparing

section
variable {o : Op} {next : o.Answer → Go GoError Bytes} (late : o.late = true)
include late

theorem signResumed_continues {first : Trail} {record : CMPTransaction} {origin : Origin} {started : Time}
    {csrDER : Bytes} {selected : Operation} (own : record.spec.certificateRequestUID = job.request.uid)
    (held : ((contract lib).run (Session.begin job) first).stage = .held ⟨record, origin⟩)
    (csr : requestedCSR lib job.request = .ok csrDER)
    (selection : selectedTransactionOperation lib job.issuer job.request = .ok selected)
    (path : Path (signResumed lib job.clusterResourceNamespace job.request job.issuer started csrDER selected
      record) t (.op o next)) :
    ∃ u v started prepared, t = u ++ v ∧ Underway lib job (first ++ u) ⟨record, origin⟩ csrDER prepared ∧
      Path (continueTransaction lib job.request record.spec.operation csrDER started prepared record) v
        (.op o next) := by
  unfold signResumed Reported.signResumed at path
  dsimp only [quiet_run, quiet_deferring] at path
  split at path
  · exact (opening_path failTransaction_opening path late).elim
  · rename_i valid
    obtain ⟨digest, ⟨recorded, issuerRef, name, kind, uid⟩, operation⟩ :=
      validateResumedTransaction_ok job valid
    split at path
    · exact (opening_path recoverIssuedChain_opening path late).elim
    · rename_i unissued
      split at path
      · cases path
      · rename_i found same
        cases issuerRef.symm.trans same
        split at path
        · exact (opening_path failTransaction_opening path late).elim
        · rename_i generation
          have sameIssuer : recorded = issuerReference job.issuer := by
            obtain ⟨_, _, _, _⟩ := recorded
            simp_all [issuerReference]
          obtain ⟨configuration, reads, v, rfl, loading, preparing⟩ :=
            path_reading_op (loads_mapError loadRuntimeConfiguration_loads) path (Op.late_silent late)
          obtain ⟨prepared, work, v, rfl, prepares, continuing⟩ :=
            path_reading_op prepareEnrollment_reads preparing (Op.late_silent late)
          split at continuing
          · exact (opening_path failTransaction_opening continuing late).elim
          · rename_i unchanged
            have silent := preparation_silent (Path.mapError_pure loading) prepares
            refine ⟨reads ++ work, v, _, prepared, (List.append_assoc ..).symm, ?_, continuing⟩
            exact
              { suits := ⟨csr, digest, issuerRef.trans (congrArg some sameIssuer), selected, selection, operation⟩
                own
                unissued
                held := by
                  rw [Monitor.run_append, contract_run_silent silent (by rw [held]; trivial), held]
                preparation := ⟨first, reads, [], work, [], configuration, by simp, Path.mapError_pure loading,
                  prepares⟩
                digest := not_not.mp unchanged }

/-- A call that works on a record has opened it for its request and prepared the request for it. -/
theorem sign_continues
    (path : Path (sign lib job.clusterResourceNamespace job.request job.issuer) t (.op o next)) :
    ∃ u v hold csrDER started prepared, t = u ++ v ∧ Underway lib job u hold csrDER prepared ∧
      Path (continueTransaction lib job.request hold.record.spec.operation csrDER started prepared hold.record) v
        (.op o next) := by
  obtain ⟨started, t, rfl, starting⟩ := path_ask_op .now path (by rintro rfl; cases late)
  obtain ⟨csrDER, csr, requesting⟩ := path_outcome_op starting
  obtain ⟨selected, selection, selecting⟩ := path_outcome_op requesting
  rw [mapError_eq_ok] at selection
  rcases selecting.bind_op with ⟨_, inside⟩ | ⟨loaded, u, v, rfl, loading, working⟩
  · exact (opening_path loadRecord_opening inside late).elim
  cases loaded with
  | some record =>
      obtain ⟨held, own⟩ := loadRecord_some lib ((contract lib).next (Session.begin job) .now started) loading
      rw [← Monitor.run_cons (contract lib) (Session.begin job) (⟨.now, started⟩ : Event interface)] at held
      obtain ⟨w, x, begun, prepared, rfl, underway, continuing⟩ :=
        signResumed_continues late own held csr selection working
      exact ⟨_, x, _, csrDER, begun, prepared, by simp, underway, continuing⟩
  | none =>
      obtain ⟨configuration, reads, v, rfl, reading₁, selecting⟩ :=
        path_reading_op (loads_mapError loadRuntimeConfiguration_loads) working (Op.late_silent late)
      obtain ⟨⟨operation, reason⟩, between, v, rfl, choosing, preparing⟩ :=
        path_reading_op selectRenewalFallback_loads selecting (Op.late_silent late)
      obtain ⟨prepared, work, v, rfl, prepares, recording⟩ :=
        path_reading_op prepareEnrollment_reads preparing (Op.late_silent late)
      obtain ⟨instant, v, rfl, creating⟩ := path_ask_op .now recording (by rintro rfl; cases late)
      rcases creating.bind_op with ⟨_, inside⟩ | ⟨record, w, v, rfl, created, continuing⟩
      · exact (opening_path createRecord_opening inside late).elim
      · let first : Trail := ⟨.now, started⟩ :: u
        obtain ⟨own, digest, issuerRef, configured, performs, fallback, new, origin, held⟩ := createRecord_path lib
          ((contract lib).run (Session.begin job) (first ++ reads ++ between ++ work ++ [⟨.now, instant⟩])) created
        have chosen : (operation, reason) = (selected, .unset) ∨
            ∃ fallback, (operation, reason) = (renewalFallbackOperation job.issuer, .value fallback) ∧
              selected = .kur ∧ renewalFallbackOperation job.issuer ≠ .unset :=
          selectRenewalFallback_loads.outcome (r := .ok (operation, reason)) choosing
        have suits : Suits lib job csrDER record := by
          refine ⟨csr, digest, issuerRef, selected, selection, ?_⟩
          rcases chosen with same | ⟨reason', same, update, allowed⟩
          · cases same
            exact .inl ⟨fallback, performs⟩
          · cases same
            exact .inr ⟨reason', fallback, update, allowed, performs⟩
        rw [← Monitor.run_append] at held
        refine ⟨_, v, ⟨record, origin⟩, csrDER, started, prepared, ?_,
          ⟨suits, own, by rw [new]; decide, held, ⟨first, reads, between, work, ⟨.now, instant⟩ :: w, configuration, ?_,
            Path.mapError_pure reading₁, ?_⟩, configured⟩, ?_⟩
        · simp [first]
        · simp
        · rwa [performs, fallback]
        · rwa [performs]

end

/-- The hand-over of a call. -/
theorem sign_handover {next : Unit → Go GoError Bytes}
    (path : Path (sign lib job.clusterResourceNamespace job.request job.issuer) t
      (.op (.call call) next)) :
    ∃ hold csrDER, Suits lib job csrDER hold.record ∧
      HandedBy lib (transactionLimitsWithDefaults job.issuer.spec.transaction) hold
        ((contract lib).run (Session.begin job) t) call (next ()) := by
  obtain ⟨u, v, hold, csrDER, started, prepared, rfl, underway, continuing⟩ := sign_continues rfl path
  obtain ⟨hold', suits, handed⟩ := continueTransaction_calls underway.held underway.suits continuing
  rw [← Monitor.run_append, underway.limits] at handed
  exact ⟨hold', csrDER, suits, handed⟩

end

end CmpIssuer
