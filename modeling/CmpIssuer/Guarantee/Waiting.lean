import CmpIssuer.Guarantee.Uninterrupted

/-!
What becomes of an enrollment that is answered with the status waiting. A
CertResponse with that status is recorded, the record is in phase Polling from
then on, and no further enrollment message is sent for it. An error message
with that status is not recorded: the client reports it as a failure.
-/
namespace CmpIssuer
open Effect

def PKIMessage.waitsInError (response : PKIMessage) : Bool :=
  match response.body with
  | .error (.ok status) => status.status == .waiting
  | _ => false

/-- The entry sends a P10CR, IR or KUR while the record with this UID is stored. -/
def Entry.enrollsFor (uid : String) (entry : Entry) : Bool :=
  entry.exchange?.any (fun recording => recording.request.message.body.operation?.isSome) &&
    entry.before.any fun record => record.uid == uid

/-- The enrollment of the record with this UID is over. -/
def Enrolled (uid : String) (slot : Option CMPTransaction) : Prop :=
  ∀ record, slot = some record → record.uid = uid → Phase.polling.rank ≤ record.status.phase.rank

/-- An enrollment message of the log whose answer tells the call to wait. -/
structure Delays (lib : Library) (uid : String) (log earlier : List Entry) (entry : Entry)
    (later : List Entry) : Prop where
  split : log = earlier ++ entry :: later
  enrolls : entry.enrollsFor uid = true
  waited : Waited lib earlier entry later

/-- The answer to the message before `later` is at hand and not recorded yet. -/
def Outstanding (stage : Stage) (later : List Entry) : Prop :=
  stage.asked.isSome ∧ ∀ e ∈ later, e.exchange? = none

/-- The call has recorded the wait and is about to ask for a requeue. -/
def Deferred (lib : Library) (uid : String) (session : Session) : Prop :=
  ∃ hold, session.stage = .held hold ∧ hold.record.uid = uid ∧ hold.record.status.phase = .polling ∧
    ∀ p, Path (sign lib session.job.clusterResourceNamespace session.job.request session.job.issuer)
      session.trail p → Requeues p ∨ ∃ fault, p = .throw fault

section
variable {lib : Library} {uid : String} {entry : Entry} {session : Session}

theorem Entry.enrollsFor_iff : entry.enrollsFor uid = true ↔ ∃ recording record,
    entry.exchange? = some recording ∧ recording.request.message.body.operation?.isSome ∧
    entry.before = some record ∧ record.uid = uid := by
  simp only [Entry.enrollsFor, Bool.and_eq_true, Option.any_eq_true, beq_iff_eq]
  constructor
  · rintro ⟨⟨recording, sent, enrolls⟩, record, stored, same⟩
    exact ⟨recording, record, sent, enrolls, stored, same⟩
  · rintro ⟨recording, record, sent, enrolls, stored, same⟩
    exact ⟨⟨recording, sent, enrolls⟩, record, stored, same⟩

theorem Recording.confirms_of_operation {recording : Recording}
    (enrolls : recording.request.message.body.operation?.isSome) : recording.confirms = false := by
  unfold Recording.confirms
  cases body : recording.request.message.body <;> rw [body] at enrolls <;> first | rfl | cases enrolls

theorem Sends.enrolls {sent : HTTPRequest} (laws : MessageLaws lib) (sends : Sends lib session sent)
    (type : sent.message.body.operation?.isSome) :
    ∃ hold call, session.stage = .calling hold call ∧ call.enrolls = true := by
  rcases sends with ⟨hold, call, stage, sentFor⟩ | ⟨_, _, _, sentFor, _⟩
  · have speaks := (sentFor.message laws).1
    refine ⟨hold, call, stage, ?_⟩
    generalize sent.message.body = body at type speaks
    cases call with
    | enrollP10CR | enrollIR | enrollKUR => rfl
    | pollP10CR | confirmP10CR =>
        cases body with
        | p10cr | ir | kur => cases speaks
        | _ => cases type
  · obtain ⟨status, rejection, body, _⟩ := (sentFor.message laws).1
    rw [body] at type
    cases type

/-- A write that records a wait for the certificate puts the record into phase Polling. -/
theorem Records.polling {record : CMPTransaction} {exchange : Exchange} {status : CMPTransactionStatus}
    {trail : Trail} (records : Records lib trail record exchange status) (obtains : exchange.call.confirms = false)
    (waits : ¬ exchange.Unwaited lib) : status.phase = .polling := by
  cases records with
  | pending => rfl
  | confirming t understood _ issued | issued t understood _ issued =>
      refine absurd (understood.unwaited_result ?_) waits
      rw [ClientCall.delay, if_neg (by simp [obtains]), issued]
  | delayed t understood confirms | confirmed t understood confirms =>
      rw [confirms] at obtains
      cases obtains

end

section
variable {lib : Library} {subject : Subject} {uid : String} {cluster : Cluster} {sessions : List Session}
  {session : Session} {o : Op} {answer : o.Answer} {after : Option CMPTransaction}
  {log earlier later : List Entry} {entry new : Entry}

theorem Enrolled.act {thread : Nat} (enrolled : Enrolled uid cluster.slot) (change : cluster.Change o after)
    (ordered : (cluster.step thread ⟨o, answer⟩ after).Ordered lib subject.uid) {known : CMPTransaction}
    (member : known ∈ cluster.past) (same : known.uid = uid) (current : ∀ record, cluster.slot = some record →
      record ∈ cluster.past) : Enrolled uid after := by
  cases change with
  | keep => exact enrolled
  | create record assigned free fresh =>
      rintro _ ⟨⟩ uid'
      exact absurd (same.trans uid'.symm) (fresh.2 known member)
  | update written stored resourceVersion found =>
      rintro _ ⟨⟩ uid'
      have advances := ordered.latest rfl (Cluster.past_subset_step (current stored found)) rfl
      exact (enrolled stored found uid').trans advances.phase
  | delete => rintro _ ⟨⟩

theorem Delays.recording (delays : Delays lib uid log earlier entry later) : ∃ recording record,
    entry.exchange? = some recording ∧ recording.confirms = false ∧ entry.before = some record ∧
    record.uid = uid := by
  obtain ⟨recording, record, sent, enrolls, stored, same⟩ := Entry.enrollsFor_iff.mp delays.enrolls
  exact ⟨recording, record, sent, Recording.confirms_of_operation enrolls, stored, same⟩

/-- A delay was there before an entry was added, or the answer is examined with it. -/
theorem Delays.concat {now : List Entry} (delays : Delays lib uid (log ++ [new]) earlier entry now) :
    ∃ later, now = later ++ [new] ∧ log = earlier ++ entry :: later ∧
      (examinedAt (later.map Entry.event) = none ∨ Delays lib uid log earlier entry later) := by
  rcases eq_or_earlier_of_concat delays.split with ⟨rfl, _, _⟩ | ⟨later, rfl, prior⟩
  · obtain ⟨_, _, heard, _⟩ := delays.waited
    exact absurd rfl heard.examined
  · refine ⟨later, rfl, prior, ?_⟩
    by_cases seen : examinedAt (later.map Entry.event) = none
    · exact .inl seen
    · exact .inr ⟨prior, delays.enrolls, (Waited.grows_iff [new] seen).mp delays.waited⟩

theorem Stage.asked_silent {job : Job} {stage : Stage} (silent : o.silent = true) (asked : stage.asked.isSome) :
    (stage.next job o answer).asked.isSome := by
  cases o with
  | now => cases stage <;> exact asked
  | random | entropy | getSecret | getCertificate => exact asked
  | _ => cases silent

theorem Deferred.intro {job : Job} {t : Trail} {next : o.Answer → Go GoError Bytes} {hold : Hold}
    (path : Path (sign lib job.clusterResourceNamespace job.request job.issuer) t (.op o next))
    (stage : ((contract lib).next ((contract lib).run (Session.begin job) t) o answer).stage = .held hold)
    (same : hold.record.uid = uid) (phase : hold.record.status.phase = .polling)
    (rest : Requeues (next answer) ∨ ∃ fault, next answer = .throw fault) :
    Deferred lib uid ((contract lib).next ((contract lib).run (Session.begin job) t) o answer) := by
  refine ⟨hold, stage, same, phase, fun p later => ?_⟩
  have ends : Path (sign lib job.clusterResourceNamespace job.request job.issuer) (t ++ [⟨o, answer⟩]) p := by
    simpa using later
  rw [path.answered_eq ends]
  exact rest

/-- A call that has recorded the wait for its certificate asks for a requeue. -/
theorem Deferred.recorded (laws : MessageLaws lib) {job : Job} {t : Trail} {written : CMPTransaction}
    {next : Except ApiError String → Go GoError Bytes} {hold : Hold} {exchange : Exchange}
    (path : Path (sign lib job.clusterResourceNamespace job.request job.issuer) t
      (.op (.updateTransactionStatus written) next))
    (stage : ((contract lib).run (Session.begin job) t).stage = .examined hold exchange)
    (writes : Writes lib ((contract lib).run (Session.begin job) t) written)
    (waits : ¬ exchange.Unwaited lib) (enrolls : exchange.request.message.body.operation?.isSome)
    (same : hold.record.uid = uid) (resourceVersion : String) :
    Deferred lib uid ((contract lib).next ((contract lib).run (Session.begin job) t)
      (.updateTransactionStatus written) (.ok resourceVersion)) := by
  rcases writes with ⟨_, _, opening, _⟩ | ⟨_, _, status, examined, records, rfl⟩
  · cases stage.symm.trans opening
  cases stage.symm.trans examined
  have obtains : exchange.call.confirms = false :=
    ClientCall.speaks.confirms (.inl (records.sends laws)) (by rw [← Option.isSome_iff_ne_none]; exact enrolls)
  refine .intro path rfl same (records.polling obtains waits) (.inl ?_)
  exact sign_records_wait path stage obtains waits resourceVersion

/-- The call that was told to wait records it, and does nothing else to the record. -/
theorem Outstanding.act (laws : MessageLaws lib) {job : Job} {t : Trail} {next : o.Answer → Go GoError Bytes}
    (working : Working lib subject cluster sessions job t (.op o next))
    (served : cluster.reliable o answer after)
    (allowed : (contract lib).allows ((contract lib).run (Session.begin job) t) o)
    (delays : Delays lib uid cluster.log earlier entry later)
    (outstanding : Outstanding ((contract lib).run (Session.begin job) t).stage later) :
    Outstanding ((contract lib).next ((contract lib).run (Session.begin job) t) o answer).stage
        (later ++ [⟨sessions.length, ⟨o, answer⟩, cluster.slot, after⟩]) ∨
      Deferred lib uid ((contract lib).next ((contract lib).run (Session.begin job) t) o answer) := by
  obtain ⟨asked, quiet⟩ := outstanding
  obtain ⟨recording, record, sent, enrolls, stored, same⟩ := Entry.enrollsFor_iff.mp delays.enrolls
  obtain ⟨earlier', entry', later', awaits⟩ := working.attends.awaits asked
  obtain ⟨rfl, rfl, rfl⟩ := awaits.unique delays.split (by rw [sent]; rfl) quiet
  by_cases silent : o.silent = true
  · refine .inl ⟨Stage.asked_silent silent asked, fun e member => ?_⟩
    rcases List.mem_append.mp member with old | last
    · exact quiet e old
    · rw [List.mem_singleton.mp last]
      exact Entry.exchange_none (by rintro _ rfl; cases silent)
  have calm : ((contract lib).run (Session.begin job) t).stage.calm := by
    by_contra waiting
    exact silent (silent_of_answered allowed waiting)
  obtain ⟨hold, exchange, stage⟩ : ∃ hold exchange,
      ((contract lib).run (Session.begin job) t).stage = .examined hold exchange := by
    generalize ((contract lib).run (Session.begin job) t).stage = stage at asked calm
    cases stage with
    | answered => exact calm.elim
    | examined hold exchange => exact ⟨hold, exchange, rfl⟩
    | _ => cases asked
  rw [stage] at awaits
  have waits := awaits.waited delays.waited
  obtain ⟨_, _, _, ⟨⟩, sent', stored', _⟩ := awaits.asked
  cases sent.symm.trans sent'
  cases stored.symm.trans stored'
  have path := working.path
  cases o with
  | now | random | entropy | getSecret | getCertificate => exact absurd rfl silent
  | getTransaction => cases stage.symm.trans allowed.1
  | createTransaction => cases stage.symm.trans allowed.1
  | call =>
      obtain ⟨_, held, _⟩ := allowed
      cases stage.symm.trans held
  | send =>
      rcases allowed with ⟨_, _, calling, _⟩ | ⟨_, _, examined, _, _, _, _, _, _, understood⟩
      · cases stage.symm.trans calling
      · cases stage.symm.trans examined
        exact absurd understood.unwaited waits
  | deleteTransaction => exact absurd (sign_removes_unwaited path stage) waits
  | updateTransactionStatus written =>
      cases answer with
      | error => exact served.elim
      | ok resourceVersion =>
          exact .inr (Deferred.recorded laws path stage allowed waits enrolls same resourceVersion)

theorem Deferred.act {job : Job} {t : Trail} {next : o.Answer → Go GoError Bytes}
    (path : Path (sign lib job.clusterResourceNamespace job.request job.issuer) t (.op o next))
    (deferred : Deferred lib uid ((contract lib).run (Session.begin job) t)) :
    Deferred lib uid ((contract lib).next ((contract lib).run (Session.begin job) t) o answer) := by
  obtain ⟨hold, stage, same, phase, rest⟩ := deferred
  rcases rest (.op o next) (by simpa using path) with ⟨report, requeues⟩ | ⟨_, ⟨⟩⟩
  cases requeues
  refine .intro path ?_ same phase (.inr ⟨_, rfl⟩)
  change Stage.next job ((contract lib).run (Session.begin job) t).stage .now answer = .held hold
  rw [stage]
  rfl

end

/-- What has become of the enrollments that were told to wait, while a call is running. -/
structure Deferring (lib : Library) (uid : String) (cluster : Cluster) (sessions : List Session)
    (session : Session) : Prop where
  threads : ∀ entry ∈ cluster.log, entry.thread ≤ sessions.length
  closed : ∀ earlier entry later, Delays lib uid cluster.log earlier entry later →
    (∀ next ∈ later, next.enrollsFor uid = false) ∧
      (Enrolled uid cluster.slot ∨ Outstanding session.stage later)
  own : ∀ earlier entry later, Delays lib uid cluster.log earlier entry later →
    entry.thread = sessions.length → Outstanding session.stage later ∨ Deferred lib uid session

section
variable {lib : Library} {subject : Subject} {uid : String} {cluster : Cluster} {sessions : List Session}
  {session : Session} {o : Op} {answer : o.Answer} {after : Option CMPTransaction}
  {earlier later : List Entry} {entry : Entry}

theorem Attends.examines (attends : Attends cluster session.stage)
    (split : cluster.log = earlier ++ entry :: later) (enrolls : entry.enrollsFor uid = true)
    (unseen : examinedAt (later.map Entry.event) = none) (allowed : (contract lib).allows session o)
    {new : Entry} (event : new.event = ⟨o, answer⟩) :
    Outstanding ((contract lib).next session o answer).stage (later ++ [new]) := by
  obtain ⟨recording, _, sent, type, _⟩ := Entry.enrollsFor_iff.mp enrolls
  obtain ⟨waiting, awaits⟩ :=
    attends.unexamined split sent (Recording.confirms_of_operation type) unseen
  have silent := silent_of_answered allowed waiting
  obtain ⟨_, _, _, asked, _⟩ := awaits.asked
  refine ⟨Stage.asked_silent silent (by rw [asked]; rfl), fun e member => ?_⟩
  rcases List.mem_append.mp member with old | last
  · exact awaits.quiet e old
  · rw [List.mem_singleton.mp last, Entry.exchange?, event]
    cases o <;> first | rfl | cases silent

/-- No enrollment message is sent once the enrollment is over, or while an answer is at hand. -/
theorem Orderly.unenrolled (orderly : Orderly lib subject cluster (sessions ++ [session]))
    (laws : MessageLaws lib) (allowed : (contract lib).allows session o)
    (closed : Enrolled uid cluster.slot ∨ session.stage.asked.isSome) :
    Entry.enrollsFor uid ⟨sessions.length, ⟨o, answer⟩, cluster.slot, after⟩ = false := by
  rw [Bool.eq_false_iff]
  intro enrolls
  obtain ⟨recording, record, sent, type, stored, same⟩ := Entry.enrollsFor_iff.mp enrolls
  cases o with
  | send message =>
      cases sent
      obtain ⟨hold, call, stage, enrolling⟩ := Sends.enrolls laws allowed type
      rcases closed with enrolled | asked
      · have member : session ∈ sessions ++ [session] := List.mem_append_right _ List.mem_cons_self
        obtain ⟨_, _, _, _, hands, _⟩ :=
          (orderly.consistent.sound session member).handed hold call (by rw [stage]; rfl)
        have found := (orderly.held (by rw [stage]; rfl : session.stage.hold? = some hold)).1
        cases stored.symm.trans found
        exact absurd (hands.phase.unpolled enrolling) (Nat.not_lt.mpr (enrolled hold.record found same))
      · rw [stage] at asked
        cases asked
  | _ => cases sent

theorem Entry.enrollsFor_unsent (unsent : entry.exchange? = none) : entry.enrollsFor uid = false := by
  simp [Entry.enrollsFor, unsent]

theorem Deferred.enrolled (orderly : Orderly lib subject cluster (sessions ++ [session]))
    (deferred : Deferred lib uid session) : Enrolled uid cluster.slot := by
  obtain ⟨hold, stage, same, phase, _⟩ := deferred
  have found := (orderly.held (by rw [stage]; rfl : session.stage.hold? = some hold)).1
  intro record stored _
  cases found.symm.trans stored
  rw [phase]

theorem Deferring.act (laws : MessageLaws lib) {job : Job} {t : Trail} {next : o.Answer → Go GoError Bytes}
    (working : Working lib subject cluster sessions job t (.op o next))
    (served : cluster.reliable o answer after)
    (allowed : (contract lib).allows ((contract lib).run (Session.begin job) t) o)
    (deferring : Deferring lib uid cluster sessions ((contract lib).run (Session.begin job) t)) :
    Deferring lib uid (cluster.step sessions.length ⟨o, answer⟩ after) sessions
      ((contract lib).next ((contract lib).run (Session.begin job) t) o answer) where
  threads entry member := by
    rcases List.mem_append.mp member with old | last
    · exact deferring.threads entry old
    · rw [List.mem_singleton.mp last]
  closed earlier entry now delays := by
    have stepped := working.orderly.act allowed (.inl served.honest)
    obtain ⟨later, rfl, split, unseen | seen⟩ := delays.concat
    · have outstanding : Outstanding _ (later ++ [⟨sessions.length, ⟨o, answer⟩, cluster.slot, after⟩]) :=
        working.attends.examines split delays.enrolls unseen allowed rfl
      exact ⟨fun next member => Entry.enrollsFor_unsent (outstanding.2 next member), .inr outstanding⟩
    · obtain ⟨none, closed⟩ := deferring.closed earlier entry later seen
      refine ⟨fun next member => ?_, ?_⟩
      · rcases List.mem_append.mp member with old | last
        · exact none next old
        · rw [List.mem_singleton.mp last]
          exact working.orderly.unenrolled laws allowed (closed.imp_right And.left)
      · rcases closed with enrolled | outstanding
        · obtain ⟨_, record, _, _, stored, same⟩ := seen.recording
          have known := working.attends.known entry (by rw [split]; simp) record stored
          exact .inl (enrolled.act (Cluster.ambiguous.change (.inl served.honest))
            stepped.consistent.ordered known same fun _ => working.orderly.consistent.ordered.mem)
        · rcases outstanding.act laws working served allowed seen with still | deferred
          · exact .inr still
          · exact .inl (deferred.enrolled stepped)
  own earlier entry now delays mine := by
    obtain ⟨later, rfl, split, unseen | seen⟩ := delays.concat
    · exact .inl (working.attends.examines split delays.enrolls unseen allowed rfl)
    · rcases deferring.own earlier entry later seen mine with outstanding | deferred
      · exact outstanding.act laws working served allowed seen
      · exact .inr (deferred.act working.path)

/-- A call does not end with a wait at hand that it has not recorded. -/
theorem Outstanding.ended {r : Except (Fault GoError) Bytes} (attends : Attends cluster session.stage)
    (finish : Finish lib session r) (delays : Delays lib uid cluster.log earlier entry later) :
    ¬ Outstanding session.stage later := by
  rintro ⟨asked, quiet⟩
  obtain ⟨_, _, sent, _⟩ := delays.recording
  obtain ⟨_, _, _, awaits⟩ := attends.awaits asked
  obtain ⟨rfl, rfl, rfl⟩ := awaits.unique delays.split (by rw [sent]; rfl) quiet
  have calm := finish.calm
  cases stage : session.stage with
  | answered =>
      rw [stage] at calm
      exact calm.elim
  | examined hold exchange =>
      rw [stage] at awaits
      exact awaits.waited delays.waited (finish.unwaited stage)
  | _ =>
      rw [stage] at asked
      cases asked

end

/-- What has become of them between two calls. -/
structure Resolved (lib : Library) (uid : String) (cluster : Cluster) (sessions : List Session) : Prop where
  threads : ∀ entry ∈ cluster.log, entry.thread < sessions.length
  closed : ∀ earlier entry later, Delays lib uid cluster.log earlier entry later →
    (∀ next ∈ later, next.enrollsFor uid = false) ∧ Enrolled uid cluster.slot

theorem Deferring.ended {lib : Library} {uid : String} {cluster : Cluster} {sessions : List Session}
    {session : Session} {r : Except (Fault GoError) Bytes}
    (deferring : Deferring lib uid cluster sessions session) (attends : Attends cluster session.stage)
    (finish : Finish lib session r) : Resolved lib uid cluster (sessions ++ [session]) where
  threads entry member := by
    rw [List.length_append]
    exact Nat.lt_succ_of_le (deferring.threads entry member)
  closed earlier entry later delays := by
    obtain ⟨none, closed⟩ := deferring.closed earlier entry later delays
    exact ⟨none, closed.resolve_right (Outstanding.ended attends finish delays)⟩

theorem Resolved.begin {lib : Library} {uid : String} {cluster : Cluster} {sessions : List Session}
    (resolved : Resolved lib uid cluster sessions) (job : Job) :
    Deferring lib uid cluster sessions (Session.begin job) where
  threads entry member := (resolved.threads entry member).le
  closed earlier entry later delays := by
    obtain ⟨none, enrolled⟩ := resolved.closed earlier entry later delays
    exact ⟨none, .inl enrolled⟩
  own earlier entry later delays mine := by
    have member : entry ∈ cluster.log := by rw [delays.split]; simp
    exact absurd mine (resolved.threads entry member).ne

/-- What has become of the enrollments that were told to wait, in any run. -/
theorem UninterruptedRun.deferring {lib : Library} (laws : MessageLaws lib) {subject : Subject}
    {slot : Option CMPTransaction} (unclaimed : Unclaimed subject slot) {pool : Signers}
    (run : UninterruptedRun lib subject slot pool) (uid : String) :
    (pool.threads = [] ∧ Attended pool.world ∧ Resolved lib uid pool.world []) ∨
      ∃ front thread, pool.threads = front ++ [thread] ∧
        Working lib subject pool.world (front.map (Thread.watched (contract lib) Session.begin)) thread.job
          thread.trace thread.program ∧
        Deferring lib uid pool.world (front.map (Thread.watched (contract lib) Session.begin))
          (thread.watched (contract lib) Session.begin) := by
  refine run.invariant laws unclaimed (I := Resolved lib uid) (J := Deferring lib uid) ?_ ?_ ?_ ?_
  · refine ⟨by simp [Cluster.start], fun earlier entry later delays => ?_⟩
    have split := delays.split
    simp [Cluster.start] at split
  · exact fun _ _ job _ resolved => resolved.begin job
  · exact fun _ _ _ _ _ _ _ _ working served allowed deferring => deferring.act laws working served allowed
  · exact fun _ _ _ _ _ working finish deferring => deferring.ended working.attends finish

/-- An answer with the status waiting, in whichever body. -/
def AnnouncesWait (lib : Library) (call : ClientCall) (response : PKIMessage) : Prop :=
  response.waitsInError = true ∨ call.waits lib response = true

/-- Any run without store failures and crashes, with any answers. If no enrollment message for the record is
answered with an error message of status waiting, then an answer of that status ends the enrollment: no other
enrollment message follows for the record, and when the call ends the record is in phase Polling. -/
theorem waiting_ends_enrollment {lib : Library} (laws : MessageLaws lib) {subject : Subject}
    {slot : Option CMPTransaction} (unclaimed : Unclaimed subject slot) {pool : Signers}
    (run : UninterruptedRun lib subject slot pool) {uid : String}
    (plain : ∀ earlier entry later call response, pool.world.log = earlier ++ entry :: later →
      entry.enrollsFor uid = true → Heard lib earlier entry later call response →
      response.waitsInError = false) :
    ∀ earlier entry later call response, pool.world.log = earlier ++ entry :: later →
      entry.enrollsFor uid = true → Heard lib earlier entry later call response →
      AnnouncesWait lib call response →
      (∀ next ∈ later, next.enrollsFor uid = false) ∧
      (entry.thread + 1 = pool.threads.length →
        (∀ thread ∈ pool.threads, thread.program.outcome?.isSome) →
        ∃ stored, pool.world.slot = some stored ∧ stored.uid = uid ∧ stored.status.phase = .polling) := by
  intro earlier entry later call response split enrolls heard announces
  have waits : call.waits lib response = true := by
    rcases announces with inError | waits
    · rw [plain earlier entry later call response split enrolls heard] at inError
      cases inError
    · exact waits
  have delays : Delays lib uid pool.world.log earlier entry later :=
    ⟨split, enrolls, call, response, heard, waits⟩
  rcases run.deferring laws unclaimed uid with ⟨empty, _, resolved⟩ | ⟨front, thread, threads, working, deferring⟩
  · exact absurd (resolved.threads entry (by rw [split]; simp)) (Nat.not_lt_zero _)
  · refine ⟨(deferring.closed earlier entry later delays).1, fun last ended => ?_⟩
    have mine : entry.thread = (front.map (Thread.watched (contract lib) Session.begin)).length := by
      rw [threads, List.length_append] at last
      simpa using last
    obtain ⟨r, outcome⟩ := Option.isSome_iff_exists.mp (ended thread (by rw [threads]; simp))
    have path := working.path
    rw [Program.eq_ofExcept_of_outcome outcome] at path
    have finish := sign_finish path
    obtain ⟨hold, stage, same, phase, _⟩ : Deferred lib uid
        ((contract lib).run (Session.begin thread.job) thread.trace) :=
      (deferring.own earlier entry later delays mine).resolve_left
        (Outstanding.ended working.attends finish delays)
    exact ⟨hold.record, (working.orderly.held (by rw [stage]; rfl)).1, same, phase⟩

instance (lib : Library) (call : ClientCall) (response : PKIMessage) :
    Decidable (AnnouncesWait lib call response) :=
  inferInstanceAs (Decidable (_ ∨ _))

/-- The place of an enrollment that is answered with the status waiting, with a property of what follows. -/
def waitedEnrollment (lib : Library) (uid : String) (follows : List Entry → Bool) (earlier : List Entry)
    (entry : Entry) (later : List Entry) : Bool :=
  entry.enrollsFor uid && follows later &&
    (heard? lib earlier entry later).any fun heard => decide (AnnouncesWait lib heard.1 heard.2)

theorem waitedEnrollment_spec {lib : Library} {uid : String} {follows : List Entry → Bool} {log : List Entry}
    (found : somePlace (waitedEnrollment lib uid follows) [] log = true) :
    ∃ earlier entry later call response, log = earlier ++ entry :: later ∧ entry.enrollsFor uid = true ∧
      Heard lib earlier entry later call response ∧ AnnouncesWait lib call response ∧ follows later = true := by
  obtain ⟨earlier, entry, later, split, place⟩ := somePlace_spec found
  simp only [waitedEnrollment, Bool.and_eq_true, Option.any_eq_true, decide_eq_true_eq] at place
  obtain ⟨⟨enrolls, follow⟩, ⟨call, response⟩, heard, announces⟩ := place
  exact ⟨earlier, entry, later, call, response, split, enrolls, heard_iff.mpr heard, announces, follow⟩

/-- An enrollment that is told to wait, and the poll after it. -/
theorem waiting_ends_enrollment_polled : ∃ (pool : Signers) (uid : String),
    UninterruptedRun plainLibrary plainJob.subject none pool ∧ pool.threads.length = 2 ∧
    ∃ earlier entry later call response, pool.world.log = earlier ++ entry :: later ∧
      entry.enrollsFor uid = true ∧ Heard plainLibrary earlier entry later call response ∧
      AnnouncesWait plainLibrary call response ∧ ∀ next ∈ later, next.enrollsFor uid = false := by
  let d := plainDeployment none [plainReply 4 [9], plainReply 4 [9]]
  have run : UninterruptedRun plainLibrary plainJob.subject none (d.pool plainLibrary plainJob 40 2) :=
    d.pool_uninterrupted plainLibrary plainJob 40 2 rfl (by decide +kernel) (by decide +kernel)
  have waited : somePlace (waitedEnrollment plainLibrary "v" fun _ => true) []
      (d.pool plainLibrary plainJob 40 2).world.log = true := by decide +kernel
  have plain : everyPlace (fun earlier entry later => (heard? plainLibrary earlier entry later).all
      fun heard => !heard.2.waitsInError) [] (d.pool plainLibrary plainJob 40 2).world.log = true := by
    decide +kernel
  obtain ⟨earlier, entry, later, call, response, split, enrolls, heard, announces, _⟩ :=
    waitedEnrollment_spec waited
  refine ⟨_, "v", run, by decide +kernel, earlier, entry, later, call, response, split, enrolls, heard,
    announces, ?_⟩
  refine (waiting_ends_enrollment plainLibrary_message (by rintro _ ⟨⟩) run ?_ earlier entry later call
    response split enrolls heard announces).1
  intro earlier' entry' later' call' response' split' _ heard'
  have quiet := everyPlace_spec plain split'
  rw [List.nil_append, heard_iff.mp heard'] at quiet
  simpa using quiet

/-- An error message that tells to wait is not recorded: the next call enrolls again. -/
theorem waiting_error_enrolls_again : ∃ (pool : Signers) (uid : String),
    UninterruptedRun plainLibrary plainJob.subject none pool ∧
    ∃ earlier entry later call response, pool.world.log = earlier ++ entry :: later ∧
      entry.enrollsFor uid = true ∧ Heard plainLibrary earlier entry later call response ∧
      AnnouncesWait plainLibrary call response ∧ ∃ next ∈ later, next.enrollsFor uid = true := by
  let d := plainDeployment none [plainReply 5 [9], plainReply 5 [9]]
  have run : UninterruptedRun plainLibrary plainJob.subject none (d.pool plainLibrary plainJob 40 2) :=
    d.pool_uninterrupted plainLibrary plainJob 40 2 rfl (by decide +kernel) (by decide +kernel)
  have again : somePlace (waitedEnrollment plainLibrary "v" (·.any (Entry.enrollsFor "v"))) []
      (d.pool plainLibrary plainJob 40 2).world.log = true := by decide +kernel
  obtain ⟨earlier, entry, later, call, response, split, enrolls, heard, announces, follow⟩ :=
    waitedEnrollment_spec again
  exact ⟨_, "v", run, earlier, entry, later, call, response, split, enrolls, heard, announces,
    List.any_eq_true.mp follow⟩

end CmpIssuer
