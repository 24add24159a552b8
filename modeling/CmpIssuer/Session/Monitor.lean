import CmpIssuer.Controller.Loading
import CmpIssuer.Protocol.Verdict

/-!
The contract of one `Sign` call with its surroundings, as a monitor. A session
knows the record the call works on and how far an exchange with the CMP server
has come. The monitor says which store write, which request to the client and
which message is legal there, and why. Everything the later modules prove about
single calls and about runs of calls rests on `Sign` following this monitor.
-/
namespace CmpIssuer
open Effect

/-- What a `Sign` call is called with. -/
structure Job where
  clusterResourceNamespace : String
  request : CertificateRequestObject
  issuer : Issuer

/-- How a call came to its record. -/
inductive Origin where
  | created
  | loaded (record : CMPTransaction)

/-- The record a call works on, as it was last read or written. -/
structure Hold where
  record : CMPTransaction
  origin : Origin

/-- A message of the client, its answer and the instant at which the answer is examined. -/
structure Exchange where
  call : ClientCall
  request : HTTPRequest
  answer : HTTPAnswer
  instant : Time

inductive Stage where
  | start
  /-- A record of another CertificateRequest of the same name was read. -/
  | stale (record : CMPTransaction)
  | absent
  | created (record : CMPTransaction)
  | held (hold : Hold)
  | calling (hold : Hold) (call : ClientCall)
  | answered (hold : Hold) (call : ClientCall) (request : HTTPRequest) (answer : HTTPAnswer)
  | examined (hold : Hold) (exchange : Exchange)
  /-- The rejecting certConf was sent. -/
  | refusing (hold : Hold) (exchange : Exchange)
  | removed (record : CMPTransaction)
  /-- A store operation failed. -/
  | stopped

structure Session where
  job : Job
  trail : Trail
  stage : Stage

def Session.begin (job : Job) : Session := ⟨job, [], .start⟩

@[simp] theorem Session.begin_job (job : Job) : (Session.begin job).job = job := rfl

@[simp] theorem Session.begin_trail (job : Job) : (Session.begin job).trail = [] := rfl

/-- The stages in which a call works on a record and waits for nothing. -/
def Stage.working : Stage → Option Hold
  | .held hold | .calling hold _ | .examined hold _ | .refusing hold _ => some hold
  | _ => none

def Stage.deletable : Stage → Option CMPTransaction
  | .stale record => some record
  | stage => stage.working.map Hold.record

def Stage.origin : Stage → Origin
  | .held hold | .calling hold _ | .answered hold _ _ _ | .examined hold _ | .refusing hold _ =>
      hold.origin
  | _ => .created

def afterDelete (stage : Stage) : Except ApiError Unit → Stage
  | .ok () =>
      match stage with
      | .stale _ => .absent
      | stage => stage.working.elim .stopped fun hold => .removed hold.record
  | .error err =>
      match stage with
      | .stale _ => if err.reason = .notFound then .absent else .stopped
      | stage =>
          if err.reason = .notFound ∨ err.reason = .conflict then
            stage.working.elim .stopped fun hold => .removed hold.record
          else .stopped

def Stage.next (job : Job) (stage : Stage) (o : Op) (answer : o.Answer) : Stage :=
  match o, answer with
  | .getTransaction _, .ok record =>
      if record.spec.certificateRequestUID = job.request.uid then .held ⟨record, .loaded record⟩
      else .stale record
  | .getTransaction _, .error err => if err.reason = .notFound then .absent else .stopped
  | .createTransaction record, .ok assigned => .created (record.created assigned)
  | .createTransaction _, .error _ => .stopped
  | .updateTransactionStatus record, .ok resourceVersion =>
      .held ⟨record.updated resourceVersion, stage.origin⟩
  | .updateTransactionStatus _, .error _ => .stopped
  | .deleteTransaction _ _, answer => afterDelete stage answer
  | .call call, _ =>
      match stage with
      | .held hold => .calling hold call
      | stage => stage
  | .send request, answer =>
      match stage with
      | .calling hold call => .answered hold call request answer
      | .examined hold exchange => .refusing hold exchange
      | stage => stage
  | .now, t =>
      match stage with
      | .answered hold call request answer => .examined hold ⟨call, request, answer, t⟩
      | stage => stage
  | _, _ => stage

/-- The leaf of a stored chain. A chain read back is parsed again. -/
def LeafStored (lib : Library) (record : CMPTransaction) (leaf : Certificate) : Prop :=
  ∃ encoded, record.status.issuedChain.head? = some encoded ∧
    (encoded = leaf.raw ∨ lib.parseCertificate encoded = .ok leaf)

/-- What ties a loaded record to the reconcile that resumes it. -/
structure Bindings (lib : Library) (job : Job) (reads : List (NamespacedName × Secret))
    (record : CMPTransaction) : Prop where
  csr : ∃ csrDER, requestedCSR lib job.request = .ok csrDER ∧
    record.spec.csrDigest = csrDigestHex lib csrDER
  issuer : record.spec.issuerRef = some (issuerReference job.issuer)
  operation : ∃ selected, selectedTransactionOperation lib job.issuer job.request = .ok selected ∧
    (record.spec.renewalFallback = .unset ∧ record.spec.operation = selected ∨
      ∃ reason, record.spec.renewalFallback = .value reason ∧ selected = .kur ∧
        renewalFallbackOperation job.issuer ≠ .unset ∧
        record.spec.operation = renewalFallbackOperation job.issuer)
  configuration : DigestOf lib job.issuer record.spec.operation reads record.spec.configurationDigest

/-- The record at hand says what the loaded one said. A write only cuts the deadline to seconds. -/
structure Continues (loaded record : CMPTransaction) : Prop where
  uid : record.uid = loaded.uid
  transactionID : record.spec.transactionID = loaded.spec.transactionID
  operation : record.spec.operation = loaded.spec.operation
  deadline : record.spec.deadline ≤ loaded.spec.deadline

/-- The phase in which a call is made and the recorded state it carries. -/
def PhaseAllows (lib : Library) (record : CMPTransaction) : ClientCall → Prop
  | .enrollP10CR _ => record.status.phase ∉ [Phase.polling, .confirming, .issued] ∧
      record.spec.operation ≠ .ir ∧ record.spec.operation ≠ .kur
  | .enrollIR _ => record.status.phase ∉ [Phase.polling, .confirming, .issued] ∧
      record.spec.operation = .ir
  | .enrollKUR _ => record.status.phase ∉ [Phase.polling, .confirming, .issued] ∧
      record.spec.operation = .kur
  | .pollP10CR poll => record.status.phase = .polling ∧
      record.status.certReqID = some poll.certReqID ∧ poll.recipNonce = record.status.recipNonce ∧
      poll.requestNonce = record.status.requestNonce ∧
      retainedSigner lib record = .ok poll.responseSigner
  | .confirmP10CR confirm => record.status.phase = .confirming ∧
      record.status.certReqID = some confirm.certReqID ∧
      confirm.recipNonce = record.status.recipNonce ∧
      confirm.requestNonce = record.status.requestNonce ∧
      ∃ leaf, confirm.certificate = some leaf ∧ LeafStored lib record leaf

/-- The request was prepared from the Secrets of this reconcile, and the record has their digest. -/
def PreparedIn (lib : Library) (job : Job) (trail : Trail) (record : CMPTransaction)
    (enrollment : EnrollmentRequest) : Prop :=
  ∃ first reads between work last configuration prepared notAfter,
    trail = first ++ reads ++ between ++ work ++ last ∧
    Path (loadRuntimeConfiguration lib job.clusterResourceNamespace job.issuer) reads
      (.pure configuration) ∧
    Path (prepareEnrollment lib job.request job.issuer record.spec.operation
      record.spec.renewalFallback enrollment.csrDER configuration) work (.pure prepared) ∧
    record.spec.configurationDigest = prepared.configuration.configurationDigest ∧
    enrollment = { prepared.enrollment with
      transactionID := record.spec.transactionID
      requestedNotAfter := notAfter }

/-- A request that belongs to the record at hand. -/
structure Enrolls (lib : Library) (job : Job) (trail : Trail) (hold : Hold)
    (enrollment : EnrollmentRequest) : Prop where
  transactionID : enrollment.transactionID = hold.record.spec.transactionID
  operation : enrollment.operation = hold.record.spec.operation
  csr : requestedCSR lib job.request = .ok enrollment.csrDER
  endpoint : enrollment.endpointURL = selectedEndpoint job.issuer.spec hold.record.spec.operation
  anchors : ∃ anchors, enrollment.cmpTrust = some anchors ∧
    AnchorsRead lib job.clusterResourceNamespace job.issuer trail anchors
  signature : enrollment.operation = .kur → enrollment.protection.signature.isSome
  prepared : PreparedIn lib job trail hold.record enrollment
  bound : ∀ loaded, hold.origin = .loaded loaded →
    Bindings lib job (secretsRead trail) loaded ∧ Continues loaded hold.record

/-- When a request may be handed to the client. -/
structure Hands (lib : Library) (job : Job) (trail : Trail) (hold : Hold) (call : ClientCall) : Prop where
  enrolls : Enrolls lib job trail hold call.enrollment
  inTime : ∃ t : Time, trail.getLast? = some ⟨.now, t⟩ ∧ t ≤ hold.record.spec.deadline
  phase : PhaseAllows lib hold.record call

theorem Hands.signature {lib : Library} {job : Job} {trail : Trail} {hold : Hold} {call : ClientCall}
    (hands : Hands lib job trail hold call) (update : call.request.operation = .kur) :
    call.request.protection.signature.isSome := by
  have signature := hands.enrolls.signature
  rw [hands.enrolls.operation] at signature
  cases call with
  | enrollP10CR | enrollIR => cases update
  | enrollKUR => exact signature hands.phase.2
  | pollP10CR | confirmP10CR => exact signature (hands.enrolls.operation.symm.trans update)

/-- A message built for a call from the randomness drawn last. -/
structure SentFor (lib : Library) (trail : Trail) (request : EnrollmentRequest) (bodies : Body → Prop)
    (sent : HTTPRequest) : Prop where
  endpoint : sent.endpoint = request.endpointURL
  built : ∃ drawn built credentials, trail.getLast? = some ⟨.entropy, drawn⟩ ∧
    BuiltFrom lib drawn request.transactionID bodies built ∧
    lib.protect credentials drawn built = .ok sent.message

/-- An accepted answer and what it means for its call. -/
structure Understood (lib : Library) (exchange : Exchange) (response : PKIMessage)
    (signer : Option Certificate) (verdict : Except String Finished) : Prop where
  accepted : exchange.call.accept lib exchange.instant exchange.request.message exchange.answer =
    .ok (response, signer)
  judged : ∃ csr drawn built credentials,
    (exchange.call.confirms = false →
      lib.parseCertificateRequest exchange.call.request.csrDER = .ok csr) ∧
    BuiltFrom lib drawn exchange.call.request.transactionID (exchange.call.sends lib) built ∧
    lib.protect credentials drawn built = .ok exchange.request.message ∧
    exchange.call.verdict lib exchange.instant csr built exchange.request.message response signer =
      verdict

/-- The answer was not accepted, or it does not tell the call to wait. -/
def Exchange.Unwaited (lib : Library) (exchange : Exchange) : Prop :=
  ∀ response signer, exchange.call.accept lib exchange.instant exchange.request.message exchange.answer =
    .ok (response, signer) → exchange.call.waits lib response = false

/-- The chain that a confirmation is for: the one this call has recorded, or the recorded one as it was
verified again. -/
inductive ConfirmedChain (lib : Library) (trail : Trail) (record : CMPTransaction)
    (enrollment : EnrollmentRequest) (chain : List Certificate) : Prop
  | recorded {written : CMPTransaction} {resourceVersion : String}
      (wrote : (⟨.updateTransactionStatus written, .ok resourceVersion⟩ : Event interface) ∈ trail)
      (at_ : record = written.updated resourceVersion)
      (same : record.status.issuedChain = encodeChain chain)
  | verified {key : NamespacedName} {stored : List Certificate} {t : Time}
      (loaded : (⟨.getTransaction key, .ok record⟩ : Event interface) ∈ trail)
      (read : recordedChain lib record enrollment.csrDER = .ok stored)
      (clock : (⟨.now, t⟩ : Event interface) ∈ trail)
      (trusted : trustedRecordedChain lib t stored enrollment.cmpTrust
        (enrollment.cmpTrustCertificates ++ enrollment.cmpResponseCertificates) = .ok chain)

theorem ConfirmedChain.mono {lib : Library} {trail later : Trail} {record : CMPTransaction}
    {enrollment : EnrollmentRequest} {chain : List Certificate}
    (confirmed : ConfirmedChain lib trail record enrollment chain) (passed : trail ⊆ later) :
    ConfirmedChain lib later record enrollment chain := by
  cases confirmed with
  | recorded wrote at_ same => exact .recorded (passed wrote) at_ same
  | verified loaded read clock trusted => exact .verified (passed loaded) read (passed clock) trusted

/-- The status writes an understood answer leads to. -/
inductive Records (lib : Library) (trail : Trail) (record : CMPTransaction) (exchange : Exchange) :
    CMPTransactionStatus → Prop
  | pending {response : PKIMessage} {signer : Option Certificate} {result : EnrollmentResult}
      {pending : PendingTransaction} (t : Time)
      (understood : Understood lib exchange response signer (.ok (.result result)))
      (enrolls : exchange.call.confirms = false) (waits : result.pending = some pending) :
      Records lib trail record exchange
        ((record.countPoll (record.status.phase == .polling)).status.pending pending t)
  | confirming {response : PKIMessage} {signer : Option Certificate} {result : EnrollmentResult}
      {pending : PendingTransaction} (t : Time)
      (understood : Understood lib exchange response signer (.ok (.result result)))
      (enrolls : exchange.call.confirms = false) (issued : result.pending = none)
      (unconfirmed : result.pendingConfirmation = some pending) :
      Records lib trail record exchange (record.status.confirming result.chain pending t)
  | issued {response : PKIMessage} {signer : Option Certificate} {result : EnrollmentResult} (t : Time)
      (understood : Understood lib exchange response signer (.ok (.result result)))
      (enrolls : exchange.call.confirms = false) (issued : result.pending = none)
      (confirmed : result.pendingConfirmation = none) :
      Records lib trail record exchange (record.status.issued result.chain t)
  | delayed {response : PKIMessage} {signer : Option Certificate} {result : EnrollmentResult}
      {confirm : ConfirmRequest} {leaf : Certificate} {rest : List Certificate}
      {next : PendingTransaction} (t : Time)
      (understood : Understood lib exchange response signer (.ok (.result result)))
      (confirms : exchange.call = .confirmP10CR confirm) (head : confirm.certificate = some leaf)
      (chain : ConfirmedChain lib trail record confirm.enrollment (leaf :: rest))
      (waits : result.pendingConfirmation = some next) :
      Records lib trail record exchange
        ((record.countPoll (confirm.requestNonce != [])).status.confirming (leaf :: rest) next t)
  | confirmed {response : PKIMessage} {signer : Option Certificate} {result : EnrollmentResult}
      {confirm : ConfirmRequest} {leaf : Certificate} {rest : List Certificate} (t : Time)
      (understood : Understood lib exchange response signer (.ok (.result result)))
      (confirms : exchange.call = .confirmP10CR confirm) (head : confirm.certificate = some leaf)
      (chain : ConfirmedChain lib trail record confirm.enrollment (leaf :: rest))
      (done : result.pendingConfirmation = none) :
      Records lib trail record exchange (record.status.issued (leaf :: rest) t)

theorem Records.accepted {lib : Library} {trail : Trail} {record : CMPTransaction} {exchange : Exchange}
    {status : CMPTransactionStatus} (records : Records lib trail record exchange status) :
    ∃ response signer, exchange.call.accept lib exchange.instant exchange.request.message exchange.answer =
      .ok (response, signer) := by
  cases records with
  | pending _ understood | confirming _ understood | issued _ understood | delayed _ understood
  | confirmed _ understood => exact ⟨_, _, understood.accepted⟩

/-- The record a new transaction starts with. -/
structure Creates (lib : Library) (job : Job) (trail : Trail) (record : CMPTransaction) : Prop where
  fields : ∃ transactionID deadline detail csrDER,
    record = newTransaction job.request transactionID deadline detail ∧
    (⟨.random transactionIDLength, .ok transactionID⟩ : Event interface) ∈ trail ∧
    requestedCSR lib job.request = .ok csrDER ∧ detail.csrDigest = csrDigestHex lib csrDER ∧
    detail.issuerRef = issuerReference job.issuer ∧ detail.operation ≠ .unset ∧
    ∃ secrets, runtimeConfigurationDigest lib (issuerReference job.issuer) secrets =
      .ok detail.configurationDigest

/-- The status writes of a session. -/
def Writes (lib : Library) (session : Session) (record : CMPTransaction) : Prop :=
  (∃ old t, session.stage = .created old ∧ record = { old with status := old.status.enrolling t }) ∨
  ∃ hold exchange status, session.stage = .examined hold exchange ∧
    Records lib session.trail hold.record exchange status ∧ record = { hold.record with status }

/-- The messages of a stage: the message of the call, or the certConf that refuses its certificate. -/
def Sends (lib : Library) (session : Session) (sent : HTTPRequest) : Prop :=
  (∃ hold call, session.stage = .calling hold call ∧
    SentFor lib session.trail call.request (call.sends lib) sent) ∨
  ∃ hold exchange, session.stage = .examined hold exchange ∧
    SentFor lib session.trail exchange.call.request RefusesIn sent ∧
    exchange.call.confirms = false ∧
    ∃ response signer refusal err,
      Understood lib exchange response signer (.ok (.failed (some refusal) err))

def HandedOver (trail : Trail) : Prop := ∃ call, (⟨.call call, ()⟩ : Event interface) ∈ trail

/-- The contract of `Sign`. Secrets are read before the first request is handed over. -/
def contract (lib : Library) : Monitor interface Session where
  allows session
    | .now | .random _ | .entropy | .getCertificate _ => True
    | .getSecret _ => ¬ HandedOver session.trail
    | .getTransaction key => session.stage = .start ∧ key = session.job.request.key
    | .createTransaction record =>
        session.stage = .absent ∧ Creates lib session.job session.trail record
    | .updateTransactionStatus record => Writes lib session record
    | .deleteTransaction key uid =>
        ∃ record, session.stage.deletable = some record ∧ key = record.key ∧
          uid = deletePreconditions record
    | .call call =>
        ∃ hold, session.stage = .held hold ∧ Hands lib session.job session.trail hold call
    | .send sent => Sends lib session sent
  next session o answer :=
    ⟨session.job, session.trail ++ [⟨o, answer⟩], session.stage.next session.job o answer⟩

@[simp] theorem contract_next_job (lib : Library) (session : Session) (o : Op) (answer : o.Answer) :
    ((contract lib).next session o answer).job = session.job := rfl

@[simp] theorem contract_next_trail (lib : Library) (session : Session) (o : Op) (answer : o.Answer) :
    ((contract lib).next session o answer).trail = session.trail ++ [⟨o, answer⟩] := rfl

@[simp] theorem contract_run_job (lib : Library) (session : Session) (t : Trail) :
    ((contract lib).run session t).job = session.job := by
  induction t generalizing session with
  | nil => rfl
  | cons e t ih => exact ih _

@[simp] theorem contract_run_trail (lib : Library) (session : Session) (t : Trail) :
    ((contract lib).run session t).trail = session.trail ++ t := by
  induction t generalizing session with
  | nil => simp
  | cons e t ih => exact (ih _).trans (List.append_assoc session.trail [e] t)

/-- A stage in which no answer waits for its examination. -/
def Stage.calm : Stage → Prop
  | .answered _ _ _ _ => False
  | _ => True

theorem Sends.calm {lib : Library} {session : Session} {o : Op} (allowed : (contract lib).allows session o) :
    ∀ sent, o = .send sent → session.stage.calm := by
  rintro sent rfl
  rcases allowed with ⟨_, _, stage, _⟩ | ⟨_, _, stage, _⟩ <;> rw [stage] <;> trivial

theorem Stage.next_silent {job : Job} {stage : Stage} {o : Op} {answer : o.Answer}
    (quiet : o.silent = true) (calm : stage.calm) : stage.next job o answer = stage := by
  cases o with
  | now =>
      cases stage with
      | answered => cases calm
      | _ => rfl
  | random | entropy | getSecret | getCertificate => rfl
  | _ => cases quiet

theorem contract_run_silent {lib : Library} {session : Session} {t : Trail}
    (silent : ∀ e ∈ t, e.op.silent = true) (calm : session.stage.calm) :
    ((contract lib).run session t).stage = session.stage := by
  induction t generalizing session with
  | nil => rfl
  | cons e t ih =>
      have same : ((contract lib).next session e.op e.answer).stage = session.stage :=
        Stage.next_silent (silent e List.mem_cons_self) calm
      rw [Monitor.run_cons, ih (fun e' member => silent e' (List.mem_cons_of_mem _ member)) (same ▸ calm),
        same]

theorem contract_silent {lib : Library} {session : Session} {o : Op} (quiet : o.silent = true)
    (early : ¬ HandedOver session.trail) : (contract lib).allows session o := by
  cases o with
  | getSecret => exact early
  | now | random | entropy | getCertificate => trivial
  | _ => cases quiet

theorem handedOver_append {t u : Trail} : HandedOver (t ++ u) ↔ HandedOver t ∨ HandedOver u := by
  simp only [HandedOver, List.mem_append, exists_or]

theorem not_handedOver_nil : ¬ HandedOver [] := by
  rintro ⟨_, ⟨⟩⟩

theorem not_handedOver_append {t : Trail} {o : Op} {answer : o.Answer} (early : ¬ HandedOver t)
    (other : ∀ call, o ≠ .call call) : ¬ HandedOver (t ++ [⟨o, answer⟩]) := by
  rintro ⟨call, member⟩
  rcases List.mem_append.mp member with before | last
  · exact early ⟨call, before⟩
  · cases List.mem_singleton.mp last
    exact other call rfl

section
variable {lib : Library} {ε α β : Type} {Q : Session → Except ε α → Prop} {session : Session}

theorem Follows.extends {p : Program interface ε α} (h : Follows (contract lib) Q session p) :
    Follows (contract lib)
      (fun s r => Q s r ∧ s.job = session.job ∧ session.trail <+: s.trail) session p :=
  h.stable (fun _ _ _ seen _ => ⟨seen.1, seen.2.trans (List.prefix_append _ _)⟩)
    ⟨rfl, List.prefix_rfl⟩

theorem Follows.unread {p : Program interface ε α} (h : Follows (contract lib) Q session p)
    (late : HandedOver session.trail) :
    Follows (contract lib)
      (fun s r => Q s r ∧ HandedOver s.trail ∧ secretsRead s.trail = secretsRead session.trail)
      session p := by
  refine h.stable ?_ ⟨late, rfl⟩
  rintro s o answer ⟨late, same⟩ allowed
  refine ⟨handedOver_append.mpr (.inl late), ?_⟩
  have unread : secretRead ⟨o, answer⟩ = none := by
    cases o with
    | getSecret => exact (allowed late).elim
    | _ => rfl
  simp only [contract, secretsRead_append, secretsRead_cons, secretsRead_nil, same, unread,
    Option.toList_none, List.append_nil]

theorem Follows.quietly {P : Trail → α → Prop} {p : Go ε α} (calm : session.stage.calm)
    (early : ¬ HandedOver session.trail) (h : Follows reading (Loads P) [] p) :
    Follows (contract lib)
      (fun s r => ∃ u, s = ⟨session.job, session.trail ++ u, session.stage⟩ ∧ ¬ HandedOver u ∧
        Loads P u r ∧ Path p u (Program.ofExcept r)) session p := by
  have step : ∀ u s o, s = ⟨session.job, session.trail ++ u, session.stage⟩ ∧ ¬ HandedOver u →
      o.silent = true → (contract lib).allows s o ∧ ∀ answer, (contract lib).next s o answer =
        ⟨session.job, session.trail ++ (u ++ [⟨o, answer⟩]), session.stage⟩ ∧
        ¬ HandedOver (u ++ [⟨o, answer⟩]) := by
    rintro u s o ⟨rfl, quietSoFar⟩ quiet
    have earlier : ¬ HandedOver (session.trail ++ u) := by
      rw [handedOver_append]
      exact not_or.mpr ⟨early, quietSoFar⟩
    refine ⟨contract_silent quiet earlier, fun answer => ⟨?_, ?_⟩⟩
    · simp only [contract, Stage.next_silent quiet calm, List.append_assoc]
    · exact not_handedOver_append quietSoFar (by rintro call rfl; cases quiet)
  have related : Follows (contract lib) _ session p :=
    h.recorded.simulate step ⟨by simp, not_handedOver_nil⟩
  refine related.mono ?_
  rintro s r ⟨u, ⟨rfl, quiet⟩, holds, v, rfl, path⟩
  exact ⟨_, rfl, quiet, holds, path⟩

end

/-- A chain that is good for the request: its leaf has the requested key and it verifies up to the
anchors the reconcile read. -/
structure TrustedChain (lib : Library) (job : Job) (trail : Trail) (chain : List Certificate) : Prop where
  key : ∃ csrDER csr leaf rest, chain = leaf :: rest ∧ requestedCSR lib job.request = .ok csrDER ∧
    lib.parseCertificateRequest csrDER = .ok csr ∧ publicKeysEqual lib csr.publicKey leaf.publicKey
  trust : ∃ anchors t, AnchorsRead lib job.clusterResourceNamespace job.issuer trail anchors ∧
    (⟨.now, t⟩ : Event interface) ∈ trail ∧ VerifiedChain lib t (some anchors) chain

theorem TrustedChain.mono {lib : Library} {job : Job} {trail later : Trail} {chain : List Certificate}
    (h : TrustedChain lib job trail chain) (extends_ : trail <+: later) :
    TrustedChain lib job later chain := by
  obtain ⟨anchors, t, read, seen, verified⟩ := h.trust
  exact ⟨h.key, anchors, t, read.mono extends_.subset, extends_.subset seen, verified⟩

/-- The record is one that `Sign` resumes: it belongs to the request and to the issuer as they are, and no
certificate was issued yet. -/
structure Resumes (lib : Library) (job : Job) (record : CMPTransaction) (csrDER : Bytes) : Prop where
  own : record.spec.certificateRequestUID = job.request.uid
  csr : requestedCSR lib job.request = .ok csrDER
  valid : ∃ selected, selectedTransactionOperation lib job.issuer job.request = .ok selected ∧
    validateResumedTransaction record (csrDigestHex lib csrDER) selected
      (renewalFallbackOperation job.issuer) (issuerReference job.issuer) = .ok ()
  unissued : record.status.phase ≠ .issued
  issuer : record.spec.issuerRef = some (issuerReference job.issuer)

/-- The events of a call that resumes a record and fails past `failTransaction`: the workload keys could
not be prepared, or the signer that a record in phase Confirming retains does not parse. -/
inductive Bypasses (lib : Library) (job : Job) (record : CMPTransaction) (err : GoError) : Trail → Prop
  | workload {started : Time} {csrDER : Bytes} {configuration : RuntimeConfiguration} {reads work : Trail}
      (resumes : Resumes lib job record csrDER)
      (loading : Path (loadRuntimeConfiguration lib job.clusterResourceNamespace job.issuer) reads
        (.pure configuration))
      (preparing : Path (prepareEnrollment lib job.request job.issuer record.spec.operation
        record.spec.renewalFallback csrDER configuration) work (.throw (.error err))) :
      Bypasses lib job record err
        ([⟨.now, started⟩, ⟨.getTransaction job.request.key, .ok record⟩] ++ reads ++ work)
  | signer {started t : Time} {csrDER : Bytes} {configuration : RuntimeConfiguration} {reads work : Trail}
      {prepared : Prepared} {chain trusted : List Certificate} {certReqID : Int}
      (resumes : Resumes lib job record csrDER)
      (loading : Path (loadRuntimeConfiguration lib job.clusterResourceNamespace job.issuer) reads
        (.pure configuration))
      (preparing : Path (prepareEnrollment lib job.request job.issuer record.spec.operation
        record.spec.renewalFallback csrDER configuration) work (.pure prepared))
      (digest : record.spec.configurationDigest = prepared.configuration.configurationDigest)
      (phase : record.status.phase = .confirming)
      (recorded : recordedChain lib record csrDER = .ok chain)
      (verified : trustedRecordedChain lib t chain prepared.enrollment.cmpTrust
        (prepared.enrollment.cmpTrustCertificates ++ prepared.enrollment.cmpResponseCertificates) =
        .ok trusted)
      (present : record.status.certReqID = some certReqID)
      (unparsed : retainedSigner lib record = .error err) :
      Bypasses lib job record err
        ([⟨.now, started⟩, ⟨.getTransaction job.request.key, .ok record⟩] ++ reads ++ work ++ [⟨.now, t⟩])

/-- How a call ends with an error, by the stage it ends in. -/
def Fails (lib : Library) (session : Session) (err : GoError) : Prop :=
  match session.stage with
  | .start | .absent => True
  | .held hold => err.isPermanent = true → Bypasses lib session.job hold.record err session.trail
  | .examined _ exchange => err.isPermanent = false ∧ exchange.Unwaited lib
  | .calling _ _ | .refusing _ _ | .stopped => err.isPermanent = false
  | .removed _ => err.isPermanent = true
  | .stale _ | .created _ | .answered _ _ _ _ => False

def Finish (lib : Library) (session : Session) : Except (Fault GoError) Bytes → Prop
  | .ok bundle => ∃ hold chain leaf, session.stage = .held hold ∧ hold.record.status.phase = .issued ∧
      bundle = encodeChainPEM lib chain ∧ chain.head? = some leaf ∧ LeafStored lib hold.record leaf ∧
      TrustedChain lib session.job session.trail chain
  | .error (.error err) => Fails lib session err
  | .error (.panic reason) => ∃ hold exchange response signer,
      session.stage = .examined hold exchange ∧ exchange.call.confirms = false ∧
      Understood lib exchange response signer (.error reason)

end CmpIssuer
