import CmpIssuer.Guarantee.Uninterrupted

/-!
The poll counter of a record over whole runs. `Sign` compares it with the limit
of the issuer before it polls, and counts a poll when its answer is recorded as
a wait. As long as every poll but the last is answered that way, the counter is
the number of polls that were sent, so their number stays within the limit.
-/
namespace CmpIssuer
open Effect

/-- The poll limit of the issuer that a call is made with. -/
def Job.maximumPolls (job : Job) : Int :=
  (transactionLimitsWithDefaults job.issuer.spec.transaction).maximumPolls

/-- The entry sends a pollReq while the record with this UID is stored. -/
def Entry.pollsFor (uid : String) (entry : Entry) : Bool :=
  entry.exchange?.any (fun recording => recording.request.message.body.type == .pollReq) &&
    entry.before.any fun record => record.uid == uid

/-- Every poll for the record was answered with a wait. -/
def AllWaited (lib : Library) (uid : String) (log : List Entry) : Prop :=
  ∀ earlier entry later, log = earlier ++ entry :: later → entry.pollsFor uid = true →
    Waited lib earlier entry later

/-- The poll counter of the stored record is the number of polls in the log. -/
def Tallies (lib : Library) (subject : Subject) (uid : String) (slot : Option CMPTransaction)
    (log : List Entry) : Prop :=
  ∀ record, slot = some record → record.uid = uid → record.spec.certificateRequestUID = subject.uid →
    AllWaited lib uid log → record.status.polls = log.countP (Entry.pollsFor uid)

section
variable {lib : Library} {subject : Subject} {uid : String} {slot : Option CMPTransaction}
  {log earlier later : List Entry} {entry : Entry}

theorem Entry.pollsFor_iff : entry.pollsFor uid = true ↔ ∃ recording record,
    entry.exchange? = some recording ∧ recording.request.message.body.type = .pollReq ∧
    entry.before = some record ∧ record.uid = uid := by
  simp only [Entry.pollsFor, Bool.and_eq_true, Option.any_eq_true, beq_iff_eq]
  constructor
  · rintro ⟨⟨recording, sent, polls⟩, record, stored, same⟩
    exact ⟨recording, record, sent, polls, stored, same⟩
  · rintro ⟨recording, record, sent, polls, stored, same⟩
    exact ⟨⟨recording, sent, polls⟩, record, stored, same⟩

theorem Entry.pollsFor_unsent (unsent : entry.exchange? = none) : entry.pollsFor uid = false := by
  simp [Entry.pollsFor, unsent]

theorem countP_unsent (quiet : ∀ e ∈ later, e.exchange? = none) : later.countP (Entry.pollsFor uid) = 0 := by
  rw [List.countP_eq_zero]
  intro e member
  rw [Entry.pollsFor_unsent (quiet e member)]
  exact Bool.false_ne_true

/-- The polls of a log that was examined were answered with waits when those of a longer log were. -/
theorem AllWaited.before {more : List Entry} (waited : AllWaited lib uid (log ++ more))
    (examined : Examined log) : AllWaited lib uid log := by
  intro before poll after split polls
  obtain ⟨recording, record, sent, type, _⟩ := Entry.pollsFor_iff.mp polls
  have seen := examined before poll after recording split sent (by simp [Recording.confirms, type])
  refine (Waited.grows_iff more seen).mp (waited before poll (after ++ more) ?_ polls)
  rw [split, List.append_assoc, List.cons_append]

theorem Tallies.concat (tallies : Tallies lib subject uid slot log) (examined : Examined log)
    (other : entry.pollsFor uid = false) : Tallies lib subject uid slot (log ++ [entry]) := by
  intro record stored same own waited
  rw [tallies record stored same own (waited.before examined), List.countP_append,
    List.countP_singleton, other]
  simp

variable {hold : Hold} {exchange : Exchange}

/-- A poll whose answer a call has examined was answered with a wait if the log says so. -/
theorem Awaits.waits (awaits : Awaits log (.examined hold exchange) earlier entry later) (more : List Entry)
    (waited : AllWaited lib uid (log ++ more)) (polls : entry.pollsFor uid = true) :
    ¬ exchange.Unwaited lib := by
  have seen : examinedAt (later.map Entry.event) ≠ none := by
    rw [awaits.instant]
    exact Option.some_ne_none _
  refine awaits.waited ((Waited.grows_iff more seen).mp (waited earlier entry (later ++ more) ?_ polls))
  rw [awaits.split, List.append_assoc, List.cons_append]

theorem Awaits.count (awaits : Awaits log (.examined hold exchange) earlier entry later) :
    log.countP (Entry.pollsFor uid) =
      earlier.countP (Entry.pollsFor uid) + if entry.pollsFor uid = true then 1 else 0 := by
  rw [awaits.split, List.countP_append, List.countP_cons, countP_unsent awaits.quiet, Nat.zero_add]

/-- The counter stays right when the answer is no wait and is not recorded. -/
theorem Tallies.unrecorded (tallies : Tallies lib subject uid slot earlier) (examined : Examined earlier)
    (awaits : Awaits log (.examined hold exchange) earlier entry later) (unwaited : exchange.Unwaited lib) :
    Tallies lib subject uid slot log := by
  intro record stored same own waited
  have before : AllWaited lib uid earlier := by
    rw [awaits.split] at waited
    exact waited.before examined
  have other : ¬ entry.pollsFor uid = true := by
    intro polls
    exact awaits.waits [] (by rwa [List.append_nil]) polls unwaited
  rw [tallies record stored same own before, awaits.count, if_neg other, Nat.add_zero]

end

section
variable {lib : Library} {record : CMPTransaction} {exchange : Exchange} {status : CMPTransactionStatus}

/-- A request that obtains a certificate is a poll exactly in phase Polling. -/
theorem PhaseAllows.polling {call : ClientCall} (allowed : PhaseAllows lib record call)
    (obtains : call.confirms = false) : record.status.phase = .polling ↔ call.enrolls = false := by
  cases call with
  | confirmP10CR => cases obtains
  | pollP10CR => exact iff_of_true allowed.1 rfl
  | enrollP10CR | enrollIR | enrollKUR =>
      refine iff_of_false (fun polling => ?_) (by rintro ⟨⟩)
      exact allowed.1 (by simp [polling])

theorem ClientCall.sends.polls {call : ClientCall} {body : Body} (sends : call.sends lib body)
    (obtains : call.confirms = false) : body.type = .pollReq ↔ call.enrolls = false := by
  cases call with
  | confirmP10CR => cases obtains
  | pollP10CR => cases body <;> first | exact iff_of_true rfl rfl | cases sends
  | enrollP10CR | enrollIR | enrollKUR =>
      refine iff_of_false (fun polls => ?_) (by rintro ⟨⟩)
      cases body <;> cases polls
      cases sends

theorem countPoll_polls (record : CMPTransaction) (polled : Bool) :
    (record.countPoll polled).status.polls =
      if polled then wrap32 (record.status.polls + 1) else record.status.polls := by
  cases polled <;> rfl

/-- What a write does to the counter: it counts the answer to a poll that is a wait. -/
theorem Records.polls (laws : MessageLaws lib) {trail : Trail} (records : Records lib trail record exchange status)
    (allowed : PhaseAllows lib record exchange.call) :
    (exchange.Unwaited lib ∧ status.polls = record.status.polls) ∨
      status.polls = if exchange.request.message.body.type = .pollReq then wrap32 (record.status.polls + 1)
        else record.status.polls := by
  cases records with
  | pending t understood enrolls waits =>
      have sends := understood.sends laws
      refine .inr ?_
      change (record.countPoll _).status.polls = _
      rw [countPoll_polls]
      simp only [beq_iff_eq, allowed.polling enrolls, sends.polls enrolls]
  | confirming t understood enrolls issued unconfirmed =>
      refine .inl ⟨understood.unwaited_result ?_, rfl⟩
      rw [ClientCall.delay, if_neg (by simp [enrolls]), issued]
  | issued t understood enrolls issued confirmed =>
      refine .inl ⟨understood.unwaited_result ?_, rfl⟩
      rw [ClientCall.delay, if_neg (by simp [enrolls]), issued]
  | @delayed _ _ _ confirm _ _ _ t understood confirms head _ waits =>
      have sends := understood.sends laws
      refine .inr ?_
      change (record.countPoll _).status.polls = _
      rw [countPoll_polls]
      rw [confirms] at sends
      rcases sends.confirmation with ⟨set, body⟩ | ⟨unset, _, _, _, _, body⟩
      · rw [if_pos (by simpa using set), body]
        exact (if_pos rfl).symm
      · rw [if_neg (by simpa using unset), body]
        exact (if_neg (by rintro ⟨⟩)).symm
  | confirmed t understood confirms head _ done =>
      refine .inl ⟨understood.unwaited_result ?_, rfl⟩
      rw [ClientCall.delay, confirms]
      exact (if_pos rfl).trans done

theorem wrap32_count {n : Nat} {limit : Int} (within : (n : Int) < limit) (int32 : limit < 2 ^ 31) :
    wrap32 (n + 1) = n + 1 := by
  unfold wrap32
  rw [Int.bmod_eq_of_le] <;> omega

end

/-- The polls of a log and the limits of the calls that sent them. -/
structure Counted (lib : Library) (uid : String) (cluster : Cluster) (jobs : List Job) : Prop where
  unborn : (∀ record ∈ cluster.past, record.uid ≠ uid) → cluster.log.countP (Entry.pollsFor uid) = 0
  within : ∀ earlier entry later, cluster.log = earlier ++ entry :: later → entry.pollsFor uid = true →
    AllWaited lib uid earlier → ∃ job, jobs[entry.thread]? = some job ∧
      (earlier.countP (Entry.pollsFor uid) : Int) < job.maximumPolls

/-- The counter while a call is running. The poll whose answer is at hand is not counted yet. -/
structure Metered (lib : Library) (subject : Subject) (uid : String) (cluster : Cluster)
    (sessions : List Session) (session : Session) : Prop where
  counted : Counted lib uid cluster ((sessions ++ [session]).map Session.job)
  budget : ∀ hold call, session.stage.serving = some (hold, call) → call.enrolls = false →
    hold.record.status.polls < session.job.maximumPolls
  settled : session.stage.asked = none → Tallies lib subject uid cluster.slot cluster.log
  asked : session.stage.asked.isSome → ∀ earlier entry later, cluster.log = earlier ++ entry :: later →
    entry.exchange?.isSome → (∀ e ∈ later, e.exchange? = none) →
    Tallies lib subject uid cluster.slot earlier

section
variable {lib : Library} {subject : Subject} {uid : String} {cluster : Cluster} {sessions : List Session}
  {session : Session} {o : Op} {answer : o.Answer} {after : Option CMPTransaction} {i : Nat}

theorem Sends.polls {sent : HTTPRequest} (laws : MessageLaws lib) (sends : Sends lib session sent)
    (type : sent.message.body.type = .pollReq) :
    ∃ hold call, session.stage = .calling hold call ∧ call.enrolls = false := by
  rcases sends with ⟨hold, call, stage, sentFor⟩ | ⟨_, _, _, sentFor, _⟩
  · have speaks := (sentFor.message laws).1
    refine ⟨hold, call, stage, ?_⟩
    cases confirms : call.confirms with
    | false => exact (speaks.polls confirms).mp type
    | true => cases call <;> first | rfl | cases confirms
  · obtain ⟨status, rejection, body, _⟩ := (sentFor.message laws).1
    rw [body] at type
    cases type

theorem Entry.polls_of_step (polls : Entry.pollsFor uid ⟨i, ⟨o, answer⟩, cluster.slot, after⟩ = true) :
    ∃ sent record, o = .send sent ∧ sent.message.body.type = .pollReq ∧ cluster.slot = some record ∧
      record.uid = uid := by
  obtain ⟨recording, record, sent, type, stored, same⟩ := Entry.pollsFor_iff.mp polls
  cases o with
  | send message =>
      cases sent
      exact ⟨message, record, rfl, type, stored, same⟩
  | _ => cases sent

theorem Metered.counted_act (metered : Metered lib subject uid cluster sessions session)
    (orderly : Orderly lib subject cluster (sessions ++ [session])) (laws : MessageLaws lib)
    (allowed : (contract lib).allows session o) :
    Counted lib uid (cluster.step sessions.length ⟨o, answer⟩ after)
      ((sessions ++ [session]).map Session.job) where
  unborn new := by
    have before := metered.counted.unborn fun record member => new record (Cluster.past_subset_step member)
    rw [Cluster.step, List.countP_append, before, Nat.zero_add, List.countP_eq_zero]
    intro entry member polls
    obtain rfl := List.mem_singleton.mp member
    obtain ⟨_, record, _, _, stored, same⟩ := Entry.polls_of_step polls
    exact new record (Cluster.past_subset_step (orderly.consistent.ordered.mem stored)) same
  within := by
    intro earlier entry later split polls waited
    rcases eq_or_earlier_of_concat split with ⟨_, rfl, rfl⟩ | ⟨before, rfl, prior⟩
    · obtain ⟨sent, record, rfl, type, stored, same⟩ := Entry.polls_of_step polls
      obtain ⟨hold, call, stage, polling⟩ := Sends.polls laws allowed type
      obtain ⟨found, own, _⟩ := orderly.held (by rw [stage]; rfl : session.stage.hold? = some hold)
      cases stored.symm.trans found
      have count := metered.settled (by rw [stage]; rfl) hold.record found same own waited
      refine ⟨session.job, by simp, ?_⟩
      rw [← count]
      exact metered.budget hold call (by rw [stage]; rfl) polling
    · exact metered.counted.within earlier entry before prior polls waited

theorem Metered.asked_act (metered : Metered lib subject uid cluster sessions session)
    (allowed : (contract lib).allows session o) (served : cluster.reliable o answer after)
    (stays : ((contract lib).next session o answer).stage.asked.isSome) {earlier later : List Entry}
    {entry : Entry} (split : (cluster.step i ⟨o, answer⟩ after).log = earlier ++ entry :: later)
    (sent : entry.exchange?.isSome) (quiet : ∀ e ∈ later, e.exchange? = none) :
    Tallies lib subject uid after earlier := by
  obtain ⟨⟨hold, call, recording⟩, asked⟩ := Option.isSome_iff_exists.mp stays
  have change := Cluster.ambiguous.change (.inl served.honest)
  rcases Stage.next_asked (Sends.calm allowed) asked with ⟨stage, event⟩ | ⟨before, unstored, unsent⟩
  · cases event
    rw [change.keeps rfl]
    rcases eq_or_earlier_of_concat split with ⟨_, rfl, _⟩ | ⟨_, rfl, _⟩
    · exact metered.settled (by rw [stage]; rfl)
    · cases quiet _ (List.mem_append_right _ List.mem_cons_self)
  · rw [change.keeps unstored]
    rcases eq_or_earlier_of_concat split with ⟨_, _, rfl⟩ | ⟨_, rfl, prior⟩
    · rw [Entry.exchange_none unsent] at sent
      cases sent
    · exact metered.asked (by rw [before]; rfl) earlier entry _ prior sent
        fun e member => quiet e (List.mem_append_left _ member)

/-- A call without an answer at hand changes the record only by creating, opening or removing it. -/
theorem Tallies.unasked (tallies : Tallies lib subject uid cluster.slot cluster.log)
    (counted : Counted lib uid cluster ((sessions ++ [session]).map Session.job))
    (orderly : Orderly lib subject cluster (sessions ++ [session])) (examined : Examined cluster.log)
    (allowed : (contract lib).allows session o) (served : cluster.reliable o answer after)
    (none : session.stage.asked = none)
    (other : Entry.pollsFor uid ⟨sessions.length, ⟨o, answer⟩, cluster.slot, after⟩ = false) :
    Tallies lib subject uid after (cluster.step sessions.length ⟨o, answer⟩ after).log := by
  have change := Cluster.ambiguous.change (.inl served.honest)
  have member : session ∈ sessions ++ [session] := List.mem_append_right _ List.mem_cons_self
  cases change with
  | keep => exact tallies.concat examined other
  | create record assigned free fresh version =>
      rintro _ ⟨⟩ same _ _
      have empty := counted.unborn fun old past => same ▸ fresh.2 old past
      rw [Cluster.step, List.countP_append, empty, List.countP_singleton, other]
      rfl
  | update written stored resourceVersion found current version =>
      rintro _ ⟨⟩ same own waited
      rcases allowed with ⟨old, t, stage, rfl⟩ | ⟨_, _, _, stage, _⟩
      · have held := orderly.exclusive session List.getLast?_concat old (by rw [stage]; rfl)
        cases found.symm.trans held
        exact tallies.concat examined other stored found same own waited
      · rw [stage] at none
        cases none
  | delete => rintro _ ⟨⟩

variable {hold : Hold} {exchange : Exchange} {log earlier later : List Entry} {entry new : Entry}

theorem Awaits.polls_iff (awaits : Awaits log (.examined hold exchange) earlier entry later)
    (same : hold.record.uid = uid) :
    entry.pollsFor uid = true ↔ exchange.request.message.body.type = .pollReq := by
  obtain ⟨_, _, _, ⟨⟩, sent, stored, _⟩ := awaits.asked
  rw [Entry.pollsFor_iff]
  constructor
  · rintro ⟨recording, record, sent', type, _⟩
    cases sent.symm.trans sent'
    exact type
  · exact fun type => ⟨_, _, sent, type, stored, same⟩

theorem Tallies.recorded (laws : MessageLaws lib) {slot : Option CMPTransaction} {limit : Int}
    {status : CMPTransactionStatus} {resourceVersion : String}
    (tallies : Tallies lib subject uid slot earlier) (examined : Examined earlier)
    (awaits : Awaits log (.examined hold exchange) earlier entry later) (found : slot = some hold.record)
    {trail : Trail} (records : Records lib trail hold.record exchange status)
    (allowed : PhaseAllows lib hold.record exchange.call)
    (budget : exchange.call.enrolls = false → hold.record.status.polls < limit) (int32 : limit < 2 ^ 31)
    (unsent : new.exchange? = none) :
    Tallies lib subject uid
      (some (({ hold.record with status } : CMPTransaction).updated resourceVersion)) (log ++ [new]) := by
  rintro _ ⟨⟩ same own waited
  have before : AllWaited lib uid earlier := by
    rw [awaits.split, List.append_assoc] at waited
    exact waited.before examined
  have polls := awaits.polls_iff same
  have count : hold.record.status.polls = earlier.countP (Entry.pollsFor uid) :=
    tallies hold.record found same own before
  rw [List.countP_append, List.countP_singleton, Entry.pollsFor_unsent unsent, awaits.count]
  change status.polls = _
  rcases records.polls laws allowed with ⟨unwaited, kept⟩ | counts
  · rw [if_neg fun polled => awaits.waits [new] waited polled unwaited, kept, count]
    simp
  · by_cases type : exchange.request.message.body.type = .pollReq
    · have enrolls : exchange.call.enrolls = false := by
        cases confirms : exchange.call.confirms with
        | false => exact ((records.sends laws).polls confirms).mp type
        | true => cases call : exchange.call <;> rw [call] at confirms <;> first | rfl | cases confirms
      have within := budget enrolls
      rw [count] at within counts
      rw [counts, if_pos type, if_pos (polls.mpr type), wrap32_count within int32]
      simp
    · rw [counts, if_neg type, if_neg (mt polls.mp type), count]
      simp

theorem Metered.settled_act (metered : Metered lib subject uid cluster sessions session)
    (orderly : Orderly lib subject cluster (sessions ++ [session])) (attends : Attends cluster session.stage)
    (laws : MessageLaws lib) (allowed : (contract lib).allows session o)
    (served : cluster.reliable o answer after) (int32 : session.job.maximumPolls < 2 ^ 31)
    (unasked : ((contract lib).next session o answer).stage.asked = none) :
    Tallies lib subject uid after (cluster.step sessions.length ⟨o, answer⟩ after).log := by
  have member : session ∈ sessions ++ [session] := List.mem_append_right _ List.mem_cons_self
  have sound := orderly.consistent.sound session member
  obtain ⟨job, trail, stage⟩ := session
  have quiet : ∀ {sent}, o = .send sent → sent.message.body.type ≠ .pollReq := by
    rintro sent rfl type
    obtain ⟨hold, call, calling, _⟩ := Sends.polls laws allowed type
    cases calling
    cases unasked
  have other : Entry.pollsFor uid ⟨sessions.length, ⟨o, answer⟩, cluster.slot, after⟩ = false := by
    rw [Bool.eq_false_iff]
    intro polls
    obtain ⟨sent, _, sends, type, _⟩ := Entry.polls_of_step polls
    exact quiet sends type
  cases stage with
  | answered =>
      have silent := silent_of_answered allowed id
      cases o with
      | now | random | entropy | getSecret | getCertificate => cases unasked
      | _ => cases silent
  | examined hold exchange =>
      obtain ⟨earlier, entry, later, awaits⟩ := attends.awaits rfl
      obtain ⟨_, _, _, _, sent, _⟩ := awaits.asked
      have before := attends.before earlier entry later awaits.split (by rw [sent]; rfl)
      have tallies := metered.asked rfl earlier entry later awaits.split (by rw [sent]; rfl) awaits.quiet
      cases o with
      | now | random | entropy | getSecret | getCertificate => cases unasked
      | getTransaction => cases allowed.1
      | createTransaction => cases allowed.1
      | call =>
          obtain ⟨_, held, _⟩ := allowed
          cases held
      | send =>
          rcases allowed with ⟨_, _, calling, _⟩ | ⟨_, _, ⟨⟩, _, _, _, _, _, _, understood⟩
          · cases calling
          · rw [(Cluster.ambiguous.change (.inl served.honest)).keeps rfl]
            exact (tallies.unrecorded before awaits understood.unwaited).concat (attends.examined trivial) other
      | deleteTransaction =>
          cases answer with
          | ok =>
              obtain ⟨_, _, _, _, rfl⟩ := served
              rintro _ ⟨⟩
          | error => exact served.elim
      | updateTransactionStatus written =>
          cases answer with
          | error => exact served.elim
          | ok resourceVersion =>
              obtain ⟨found, _⟩ := orderly.held (show Stage.hold? (.examined hold exchange) = some hold from rfl)
              obtain ⟨_, _, _, _, hands, _⟩ := sound.handed hold exchange.call rfl
              rcases allowed with ⟨_, _, opening, _⟩ | ⟨_, _, status, ⟨⟩, records, rfl⟩
              · cases opening
              · obtain ⟨stored, found', _, current, _, rfl⟩ := served
                cases found'.symm.trans found
                exact tallies.recorded laws before awaits found records hands.phase
                  (metered.budget hold exchange.call rfl) int32 rfl
  | _ =>
      exact (metered.settled rfl).unasked metered.counted orderly (attends.examined trivial) allowed served rfl
        other

/-- A request that is handed over is within the limit, unless it starts the enrollment. -/
theorem Metered.budget_act {job : Job} {t : Trail} {next : o.Answer → Go GoError Bytes}
    (metered : Metered lib subject uid cluster sessions ((contract lib).run (Session.begin job) t))
    (path : Path (sign lib job.clusterResourceNamespace job.request job.issuer) t (.op o next)) {hold : Hold}
    {call : ClientCall}
    (serving : ((contract lib).next ((contract lib).run (Session.begin job) t) o answer).stage.serving =
      some (hold, call)) (polls : call.enrolls = false) :
    hold.record.status.polls < job.maximumPolls := by
  rcases Stage.next_serving serving with ⟨held, event⟩ | before
  · cases event
    obtain ⟨hold', _, _, held', after, handsOver, _⟩ := sign_handover path
    cases held.symm.trans held'
    cases handsOver with
    | exchange _ budget => exact budget polls
    | confirm budget => exact budget
  · simpa using metered.budget hold call before polls

theorem Metered.act (laws : MessageLaws lib) {job : Job} {t : Trail} {next : o.Answer → Go GoError Bytes}
    (working : Working lib subject cluster sessions job t (.op o next))
    (served : cluster.reliable o answer after)
    (allowed : (contract lib).allows ((contract lib).run (Session.begin job) t) o)
    (metered : Metered lib subject uid cluster sessions ((contract lib).run (Session.begin job) t))
    (int32 : job.maximumPolls < 2 ^ 31) :
    Metered lib subject uid (cluster.step sessions.length ⟨o, answer⟩ after) sessions
      ((contract lib).next ((contract lib).run (Session.begin job) t) o answer) where
  counted := by
    have counted : Counted lib uid (cluster.step sessions.length ⟨o, answer⟩ after) _ :=
      metered.counted_act working.orderly laws allowed
    simpa using counted
  budget hold call serving polls := by
    simpa using metered.budget_act working.path serving polls
  settled unasked :=
    metered.settled_act working.orderly working.attends laws allowed served (by simpa using int32) unasked
  asked stays earlier entry later := fun split sent quiet =>
    metered.asked_act allowed served stays split sent quiet

end

/-- The counter between two calls. -/
structure Reckoned (lib : Library) (subject : Subject) (uid : String) (cluster : Cluster)
    (sessions : List Session) : Prop where
  counted : Counted lib uid cluster (sessions.map Session.job)
  tallies : Tallies lib subject uid cluster.slot cluster.log

theorem Reckoned.start {lib : Library} {subject : Subject} {uid : String} {slot : Option CMPTransaction}
    (unclaimed : Unclaimed subject slot) : Reckoned lib subject uid (Cluster.start slot) [] where
  counted := ⟨fun _ => rfl, by simp [Cluster.start]⟩
  tallies record stored _ own _ := absurd own (unclaimed record stored).2

theorem Reckoned.begin {lib : Library} {subject : Subject} {uid : String} {cluster : Cluster}
    {sessions : List Session} (reckoned : Reckoned lib subject uid cluster sessions) (job : Job) :
    Metered lib subject uid cluster sessions (Session.begin job) where
  counted := by
    refine ⟨reckoned.counted.unborn, fun earlier entry later split polls waited => ?_⟩
    obtain ⟨caller, found, within⟩ := reckoned.counted.within earlier entry later split polls waited
    refine ⟨caller, ?_, within⟩
    rw [List.map_append, List.getElem?_append_left (List.getElem?_eq_some_iff.mp found).1]
    exact found
  budget := by rintro _ _ ⟨⟩
  settled _ := reckoned.tallies
  asked := by rintro ⟨⟩

/-- A call ends with the polls it sent counted, or with one whose answer is no wait. -/
theorem Metered.ended {lib : Library} {subject : Subject} {uid : String} {cluster : Cluster}
    {sessions : List Session} {session : Session} {r : Except (Fault GoError) Bytes}
    (metered : Metered lib subject uid cluster sessions session) (attends : Attends cluster session.stage)
    (finish : Finish lib session r) : Reckoned lib subject uid cluster (sessions ++ [session]) := by
  refine ⟨metered.counted, ?_⟩
  have calm := finish.calm
  cases stage : session.stage with
  | answered =>
      rw [stage] at calm
      exact calm.elim
  | examined hold exchange =>
      have asked : session.stage.asked.isSome := by rw [stage]; rfl
      obtain ⟨earlier, entry, later, awaits⟩ := attends.awaits asked
      obtain ⟨_, _, _, _, sent, _⟩ := awaits.asked
      have before := attends.before earlier entry later awaits.split (by rw [sent]; rfl)
      have tallies := metered.asked asked earlier entry later awaits.split (by rw [sent]; rfl) awaits.quiet
      rw [stage] at awaits
      exact tallies.unrecorded before awaits (finish.unwaited stage)
  | _ => exact metered.settled (by rw [stage]; rfl)

/-- The polls of a transaction over any run without store failures and crashes, with any answers. As long
as every poll that is followed by another was answered with a wait that the client accepted, each poll is
within the limit of the issuer that its call was made with. -/
theorem polls_within_limit {lib : Library} (laws : MessageLaws lib) {subject : Subject}
    {slot : Option CMPTransaction} (unclaimed : Unclaimed subject slot) {pool : Signers}
    (run : UninterruptedRun lib subject slot pool)
    (int32 : ∀ thread ∈ pool.threads, thread.job.maximumPolls < 2 ^ 31) {uid : String}
    (waited : ∀ earlier entry later, pool.world.log = earlier ++ entry :: later →
      entry.pollsFor uid = true → (∃ next ∈ later, next.pollsFor uid = true) →
      ∃ call response, Heard lib earlier entry later call response ∧ call.waits lib response = true) :
    ∀ earlier entry later, pool.world.log = earlier ++ entry :: later → entry.pollsFor uid = true →
      ∃ thread, pool.threads[entry.thread]? = some thread ∧
        ((earlier ++ [entry]).countP (Entry.pollsFor uid) : Int) ≤ thread.job.maximumPolls := by
  intro earlier entry later split polls
  have holds := run.invariant laws unclaimed
    (I := fun cluster sessions => (∀ session ∈ sessions, session.job.maximumPolls < 2 ^ 31) →
      Reckoned lib subject uid cluster sessions)
    (J := fun cluster sessions session => (∀ other ∈ sessions ++ [session], other.job.maximumPolls < 2 ^ 31) →
      Metered lib subject uid cluster sessions session)
    (fun _ => .start unclaimed) ?_ ?_ ?_
  · obtain ⟨counted, before⟩ : Counted lib uid pool.world (pool.threads.map Thread.job) ∧
        Examined earlier := by
      have sent : entry.exchange?.isSome := by
        obtain ⟨_, _, sent, _⟩ := Entry.pollsFor_iff.mp polls
        rw [sent]
        rfl
      rcases holds with ⟨empty, attended, reckoned⟩ | ⟨front, thread, threads, working, metered⟩
      · rw [empty]
        exact ⟨(reckoned (by rintro _ ⟨⟩)).counted, attended.before earlier entry later split sent⟩
      · have jobs : (front.map (Thread.watched (contract lib) Session.begin) ++
            [thread.watched (contract lib) Session.begin]).map Session.job = pool.threads.map Thread.job := by
          simp [threads, Thread.watched, Function.comp_def]
        have bounded := metered fun session member => ?_
        · exact ⟨jobs ▸ bounded.counted, working.attends.before earlier entry later split sent⟩
        · have member := List.mem_map_of_mem (f := Session.job) member
          rw [jobs] at member
          obtain ⟨caller, called, same⟩ := List.mem_map.mp member
          exact same ▸ int32 caller called
    have accepted : AllWaited lib uid earlier := by
      intro a poll b split' polls'
      have later' : pool.world.log = a ++ poll :: (b ++ entry :: later) := by
        rw [split, split', List.append_assoc, List.cons_append]
      obtain ⟨recording, _, sent, type, _⟩ := Entry.pollsFor_iff.mp polls'
      have seen := before a poll b recording split' sent (by simp [Recording.confirms, type])
      refine (Waited.grows_iff (entry :: later) seen).mp (waited a poll _ later' polls' ?_)
      exact ⟨entry, List.mem_append_right _ List.mem_cons_self, polls⟩
    obtain ⟨job, called, within⟩ := counted.within earlier entry later split polls accepted
    rw [List.getElem?_map, Option.map_eq_some_iff] at called
    obtain ⟨thread, called, rfl⟩ := called
    refine ⟨thread, called, ?_⟩
    rw [List.countP_append, List.countP_singleton, if_pos polls]
    push_cast
    omega
  · intro cluster sessions job _ reckoned bounded
    exact (reckoned fun session member => bounded session (List.mem_append_left _ member)).begin job
  · intro cluster sessions job t o next answer after working served allowed metered bounded
    have own : job.maximumPolls < 2 ^ 31 := by
      simpa using bounded _ (List.mem_append_right _ List.mem_cons_self)
    refine Metered.act laws working served allowed (metered fun session member => ?_) own
    rcases List.mem_append.mp member with old | last
    · exact bounded session (List.mem_append_left _ old)
    · rw [List.mem_singleton.mp last]
      simpa using own
  · intro cluster sessions job t r working finish metered bounded
    exact (metered bounded).ended working.attends finish

def singlePollJob : Job :=
  { plainJob with issuer := { plainIssuer with spec := { plainSpec with transaction := ⟨minute, second, second, 1⟩ } } }

/-- Two polls, the first of which is answered with a wait. -/
theorem polls_within_limit_twice : ∃ (pool : Signers) (uid : String),
    UninterruptedRun plainLibrary plainJob.subject none pool ∧
    pool.world.log.countP (Entry.pollsFor uid) = 2 ∧
    ∀ earlier entry later, pool.world.log = earlier ++ entry :: later → entry.pollsFor uid = true →
      ∃ thread, pool.threads[entry.thread]? = some thread ∧
        ((earlier ++ [entry]).countP (Entry.pollsFor uid) : Int) ≤ thread.job.maximumPolls := by
  let d := plainDeployment none [plainReply 4 [9], plainReply 4 [9], .failed "reset"]
  have run : UninterruptedRun plainLibrary plainJob.subject none (d.pool plainLibrary plainJob 40 3) :=
    d.pool_uninterrupted plainLibrary plainJob 40 3 rfl (by decide +kernel) (by decide +kernel)
  have waits : everyPlace (fun earlier entry later => decide (entry.pollsFor "v" = true →
      (∃ next ∈ later, Entry.pollsFor "v" next = true) → Waited plainLibrary earlier entry later)) []
      (d.pool plainLibrary plainJob 40 3).world.log = true := by decide +kernel
  refine ⟨_, "v", run, by decide +kernel, ?_⟩
  refine polls_within_limit plainLibrary_message (by rintro _ ⟨⟩) run ?_ ?_
  · intro thread member
    rw [d.pool_job plainLibrary plainJob 40 3 thread member]
    decide
  · intro earlier entry later split polls more
    exact of_decide_eq_true (everyPlace_spec waits split) polls more

/-- A poll that gets no answer is not counted: an issuer that allows one poll sends two. -/
theorem unanswered_polls_exceed_limit : ∃ (pool : Signers) (uid : String),
    UninterruptedRun plainLibrary singlePollJob.subject none pool ∧
    (∀ thread ∈ pool.threads, thread.job.maximumPolls = 1) ∧
    pool.world.log.countP (Entry.pollsFor uid) = 2 := by
  let d := plainDeployment none [plainReply 4 [9], .failed "reset", .failed "reset"]
  refine ⟨d.pool plainLibrary singlePollJob 40 3, "v", ?_, ?_, by decide +kernel⟩
  · exact d.pool_uninterrupted plainLibrary singlePollJob 40 3 rfl (by decide +kernel) (by decide +kernel)
  · intro thread member
    rw [d.pool_job plainLibrary singlePollJob 40 3 thread member]
    decide

end CmpIssuer
