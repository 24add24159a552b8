import CmpIssuer.Cluster.Chronicle

/-!
Nonces over whole runs of calls that follow each other. No two messages share
a nonce, the stored record recalls the exchanges recorded in it, and a nonce
that a confirmation polls for is that of a certConf sent before.
-/
namespace CmpIssuer
open Effect

/-- The nonces of the messages of a run, and the one drawn for the next message. -/
structure Nonces (cluster : Cluster) (sessions : List Session) : Prop where
  present : ∀ entry ∈ cluster.log, ∀ nonce, entry.nonce = some nonce → nonce ≠ []
  drawn : ∀ entry ∈ cluster.log, ∀ sent, entry.event.op = .send sent →
    ∃ other ∈ cluster.log, other.nonce = some sent.message.header.senderNonce
  distinct : cluster.log.Pairwise fun earlier later => ∀ sent sent', earlier.event.op = .send sent →
    later.event.op = .send sent' → sent.message.header.senderNonce ≠ sent'.message.header.senderNonce
  ready : ∀ session, sessions.getLast? = some session → ∀ drawn : Entropy,
    session.trail.getLast? = some ⟨.entropy, drawn⟩ →
    (∃ other ∈ cluster.log, other.nonce = some drawn.senderNonce) ∧
    ∀ entry ∈ cluster.log, ∀ sent, entry.event.op = .send sent →
      sent.message.header.senderNonce ≠ drawn.senderNonce

section
variable {lib : Library} {subject : Subject} {cluster : Cluster} {sessions : List Session}
  {session : Session} {o : Op} {answer : o.Answer} {after : Option CMPTransaction}

theorem Nonces.sends (nonces : Nonces cluster (sessions ++ [session])) (laws : MessageLaws lib)
    {sent : HTTPRequest} (sends : Sends lib session sent) :
    (∃ other ∈ cluster.log, other.nonce = some sent.message.header.senderNonce) ∧
    ∀ entry ∈ cluster.log, ∀ earlier, entry.event.op = .send earlier →
      earlier.message.header.senderNonce ≠ sent.message.header.senderNonce := by
  obtain ⟨_, _, _, sentFor⟩ := sends.serving
  obtain ⟨_, _, drawn, last, nonce⟩ := sentFor.message laws
  rw [nonce]
  exact nonces.ready session List.getLast?_concat drawn last

theorem Nonces.act (nonces : Nonces cluster (sessions ++ [session])) (laws : MessageLaws lib)
    (allowed : (contract lib).allows session o) (served : cluster.ambiguous o answer after) :
    Nonces (cluster.step sessions.length ⟨o, answer⟩ after)
      (sessions ++ [(contract lib).next session o answer]) where
  present := by
    intro entry member nonce drawn
    rcases List.mem_append.mp member with old | new
    · exact nonces.present entry old nonce drawn
    · cases List.mem_singleton.mp new
      cases o <;> cases drawn
      exact (Cluster.ambiguous.serves served (by rintro ⟨⟩)).1.1
  drawn := by
    intro entry member sent sends
    rcases List.mem_append.mp member with old | new
    · obtain ⟨other, known, nonce⟩ := nonces.drawn entry old sent sends
      exact ⟨other, List.mem_append_left _ known, nonce⟩
    · cases List.mem_singleton.mp new
      dsimp only at sends
      subst sends
      obtain ⟨⟨other, known, nonce⟩, _⟩ := nonces.sends laws allowed
      exact ⟨other, List.mem_append_left _ known, nonce⟩
  distinct := by
    refine List.pairwise_append.mpr ⟨nonces.distinct, List.pairwise_singleton _ _, ?_⟩
    intro entry member next last sent sent' sends sends'
    cases List.mem_singleton.mp last
    dsimp only at sends'
    subst sends'
    exact (nonces.sends laws allowed).2 entry member sent sends
  ready := by
    intro running last drawn entropy
    rw [List.getLast?_concat] at last
    cases last
    dsimp only [contract] at entropy
    rw [List.getLast?_concat] at entropy
    cases entropy
    obtain ⟨fresh, _⟩ := Cluster.ambiguous.serves served (by rintro ⟨⟩)
    refine ⟨⟨_, List.mem_append_right _ List.mem_cons_self, rfl⟩, fun entry member sent sends => ?_⟩
    rcases List.mem_append.mp member with old | new
    · obtain ⟨other, known, nonce⟩ := nonces.drawn entry old sent sends
      intro same
      exact fresh.2 other known (same ▸ nonce)
    · cases List.mem_singleton.mp new
      cases sends

theorem Nonces.spawn (nonces : Nonces cluster sessions) (job : Job) :
    Nonces cluster (sessions ++ [Session.begin job]) := by
  refine ⟨nonces.present, nonces.drawn, nonces.distinct, ?_⟩
  intro running last drawn entropy
  rw [List.getLast?_concat] at last
  cases last
  cases entropy

theorem Nonces.start (slot : Option CMPTransaction) : Nonces (Cluster.start slot) [] where
  present := by simp [Cluster.start]
  drawn := by simp [Cluster.start]
  distinct := by simp [Cluster.start]
  ready := by rintro _ ⟨⟩

/-- What is known of an exchange whose answer a call may record. -/
structure Asked (lib : Library) (cluster : Cluster) (thread : Nat) (hold : Hold) (call : ClientCall)
    (recording : Recording) : Prop where
  latest : cluster.chronicle.latest thread = some recording
  sends : call.sends lib recording.request.message.body
  identified : recording.request.message.header.transactionID = hold.record.spec.transactionID
  fresh : recording.nonce ≠ []
  sent : ∃ entry ∈ cluster.log, entry.event = ⟨.send recording.request, recording.answer⟩ ∧
    entry.before = some hold.record

/-- A certConf sent for a record in phase Confirming. -/
def SentConfirming (log : List Entry) (recording : Recording) : Prop :=
  ∃ entry ∈ log, entry.event = ⟨.send recording.request, recording.answer⟩ ∧
    ∃ record, entry.before = some record ∧ record.status.phase = .confirming

structure Remembered (lib : Library) (subject : Subject) (cluster : Cluster) (sessions : List Session) :
    Prop where
  known : ∀ uid, cluster.chronicle.recorded uid ≠ [] → ∃ record ∈ cluster.past, record.uid = uid
  asked : ∀ earlier session, sessions = earlier ++ [session] → ∀ hold call recording,
    session.stage.asked = some (hold, call, recording) →
    Asked lib cluster earlier.length hold call recording
  recalls : ∀ record, cluster.slot = some record → record.spec.certificateRequestUID = subject.uid →
    Recalls lib record (cluster.chronicle.recorded record.uid)
  confirmed : ∀ uid, ∀ recording ∈ cluster.chronicle.recorded uid, recording.confirms = true →
    SentConfirming cluster.log recording
  /-- A confirmation polls only for a certConf that was sent and delayed. -/
  backed : ∀ earlier entry later sent record, cluster.log = earlier ++ entry :: later →
    entry.event.op = .send sent → entry.before = some record → record.status.phase = .confirming →
    (sent.message.body.type = .pollReq → record.status.requestNonce ≠ []) ∧
    (record.status.requestNonce ≠ [] →
      ∃ conf, SentConfirming earlier conf ∧ Delayed lib record conf)

/-- A call that has examined an answer is the last one that asked, with a call its record allows. -/
theorem Remembered.examined (remembered : Remembered lib subject cluster (sessions ++ [session]))
    (orderly : Orderly lib subject cluster (sessions ++ [session])) {hold : Hold} {exchange : Exchange}
    (stage : session.stage = .examined hold exchange) :
    Asked lib cluster sessions.length hold exchange.call exchange.recording ∧
      PhaseAllows lib hold.record exchange.call := by
  have member : session ∈ sessions ++ [session] := List.mem_append_right _ List.mem_cons_self
  obtain ⟨_, _, _, _, hands, _⟩ := (orderly.consistent.sound session member).handed hold exchange.call
    (by rw [stage]; rfl)
  exact ⟨remembered.asked sessions session rfl hold exchange.call exchange.recording (by rw [stage]; rfl),
    hands.phase⟩

/-- What an operation does to the stored record and to what is recorded: an answer is recorded only by
the call that received it, in the record it works on, and a record is opened with nothing recorded. -/
theorem Remembered.recorded_step (remembered : Remembered lib subject cluster (sessions ++ [session]))
    (orderly : Orderly lib subject cluster (sessions ++ [session]))
    (allowed : (contract lib).allows session o) (served : cluster.ambiguous o answer after) :
    ((cluster.step sessions.length ⟨o, answer⟩ after).chronicle.recorded = cluster.chronicle.recorded ∧
      ∀ record, after = some record → cluster.slot = some record ∨
        record.status.phase.rank < Phase.polling.rank ∧ cluster.chronicle.recorded record.uid = []) ∨
    ∃ hold exchange status resourceVersion, session.stage = .examined hold exchange ∧
      Records lib session.trail hold.record exchange status ∧
      after = some (({ hold.record with status } : CMPTransaction).updated resourceVersion) ∧
      (cluster.step sessions.length ⟨o, answer⟩ after).chronicle.recorded =
        Function.update cluster.chronicle.recorded hold.record.uid
          (cluster.chronicle.recorded hold.record.uid ++ [exchange.recording]) := by
  have member : session ∈ sessions ++ [session] := List.mem_append_right _ List.mem_cons_self
  rw [Cluster.chronicle_step]
  cases Cluster.ambiguous.change served with
  | keep =>
      have unrecorded : Entry.recorded? ⟨sessions.length, ⟨o, answer⟩, cluster.slot, cluster.slot⟩ = none := by
        by_contra recorded
        obtain ⟨record, effect⟩ := Option.ne_none_iff_exists'.mp recorded
        obtain ⟨_, same, changed, _⟩ := Entry.recorded_some effect
        exact changed same
      exact .inl ⟨by simp only [Chronicle.step, unrecorded], fun record same => .inl same⟩
  | create asked assigned free fresh version =>
      refine .inl ⟨rfl, ?_⟩
      rintro record ⟨⟩
      refine .inr ⟨(by decide : Phase.unset.rank < Phase.polling.rank), ?_⟩
      by_contra recorded
      obtain ⟨other, past, same⟩ := remembered.known _ recorded
      exact fresh.2 other past same
  | update written stored resourceVersion found current version =>
      obtain ⟨known, same⟩ := orderly.consistent.updated member allowed found current resourceVersion
      rw [same]
      rcases allowed with ⟨old, t, stage, rfl⟩ | ⟨hold, exchange, status, stage, records, rfl⟩
      · rw [stage] at known
        cases known
        have own := ((orderly.consistent.sound session member).own stored (by rw [stage]; rfl)).trans
          (congrArg Subject.uid (orderly.consistent.subject session member))
        have empty := (orderly.consistent.sound session member).fresh stored stage
        have unrecorded := (remembered.recalls stored found own).early (by rw [empty]; decide)
        refine .inl ⟨by simp [Chronicle.step, Entry.recorded?, CMPTransaction.updated,
          CMPTransaction.roundTrip, CMPTransactionStatus.enrolling], ?_⟩
        rintro record ⟨⟩
        exact .inr ⟨(by decide : Phase.enrolling.rank < Phase.polling.rank), unrecorded⟩
      · rw [stage] at known
        cases known
        have latest := (remembered.examined orderly stage).1.latest
        have changed : cluster.slot ≠ some (({ hold.record with status } : CMPTransaction).updated
            resourceVersion) := by
          rw [found]
          intro unchanged
          exact version hold.record (orderly.consistent.ordered.mem found)
            (congrArg CMPTransaction.resourceVersion (Option.some.inj unchanged))
        have effect : Entry.recorded? ⟨sessions.length,
            ⟨.updateTransactionStatus { hold.record with status }, answer⟩, cluster.slot,
            some (({ hold.record with status } : CMPTransaction).updated resourceVersion)⟩ = _ :=
          Entry.recorded_update changed records.answers
        have recorded := Chronicle.recorded_step effect latest
        exact .inr ⟨hold, exchange, status, resourceVersion, stage, records, rfl, recorded⟩
  | delete => exact .inl ⟨rfl, by rintro _ ⟨⟩⟩

/-- An exchange becomes the last one of its call when its message is sent, and stays it until its answer
is recorded. -/
theorem Remembered.asked_step (remembered : Remembered lib subject cluster (sessions ++ [session]))
    (orderly : Orderly lib subject cluster (sessions ++ [session]))
    (nonces : Nonces cluster (sessions ++ [session])) (laws : MessageLaws lib)
    (allowed : (contract lib).allows session o) (served : cluster.ambiguous o answer after)
    {hold : Hold} {call : ClientCall} {recording : Recording}
    (reached : ((contract lib).next session o answer).stage.asked = some (hold, call, recording)) :
    Asked lib (cluster.step sessions.length ⟨o, answer⟩ after) sessions.length hold call recording := by
  rcases Stage.next_asked (Sends.calm allowed) reached with ⟨stage, event⟩ | ⟨same, quiet, unsent⟩
  · cases event
    obtain ⟨⟨other, drawn, nonce⟩, _⟩ := nonces.sends laws allowed
    obtain ⟨_, _, serving, stored, _, _, _, identified, _⟩ := orderly.sends laws allowed
    rw [stage] at serving
    cases serving
    rcases allowed with ⟨_, _, stage', sentFor⟩ | ⟨_, _, stage', _⟩
    · cases stage.symm.trans stage'
      refine ⟨?_, (sentFor.message laws).1, identified, nonces.present other drawn _ nonce,
        _, List.mem_append_right _ List.mem_cons_self, rfl, stored⟩
      rw [Cluster.chronicle_step]
      exact Function.update_self ..
    · cases stage.symm.trans stage'
  · obtain ⟨latest, sends, identified, fresh, entry, member, event, before⟩ :=
      remembered.asked sessions session rfl hold call recording same
    exact ⟨(congrFun (Cluster.latest_step unsent) _).trans latest, sends, identified, fresh, entry,
      List.mem_append_left _ member, event, before⟩

/-- A message for a record in phase Confirming: a poll has a nonce to poll for, and such a nonce is that
of a certConf sent before. -/
theorem Remembered.backed_step (remembered : Remembered lib subject cluster (sessions ++ [session]))
    (orderly : Orderly lib subject cluster (sessions ++ [session])) (laws : MessageLaws lib)
    {sent : HTTPRequest} (sends : Sends lib session sent) {record : CMPTransaction}
    (stored : cluster.slot = some record) (phase : record.status.phase = .confirming) :
    (sent.message.body.type = .pollReq → record.status.requestNonce ≠ []) ∧
    (record.status.requestNonce ≠ [] →
      ∃ conf, SentConfirming cluster.log conf ∧ Delayed lib record conf) := by
  obtain ⟨hold, call, serving, found, own, allowed, speaks, _⟩ := orderly.sends laws sends
  cases found.symm.trans stored
  refine ⟨fun polls => ?_, fun present => ?_⟩
  · cases call with
    | confirmP10CR confirm =>
        rcases speaks with sends | ⟨enrolls, _⟩
        · rcases sends.confirmation with ⟨set, _⟩ | ⟨_, _, _, _, _, body⟩
          · exact allowed.2.2.2.1 ▸ set
          · rw [body] at polls
            cases polls
        · cases enrolls
    | _ =>
        have early := allowed.early rfl
        rw [phase] at early
        exact absurd early (lt_irrefl _)
  · rcases (remembered.recalls hold.record found own).confirming phase with ⟨_, none⟩ | ⟨conf, only, delayed⟩
    · exact absurd none present
    · have member : conf ∈ (cluster.chronicle.recorded hold.record.uid).filter Recording.confirms := by
        rw [only]
        exact List.mem_cons_self
      obtain ⟨recorded, confirms⟩ := List.mem_filter.mp member
      exact ⟨conf, remembered.confirmed _ conf recorded confirms, delayed⟩

/-- A certConf whose answer is recorded was sent for a record in phase Confirming. -/
theorem Asked.confirming {hold : Hold} {call : ClientCall} {recording : Recording}
    (asked : Asked lib cluster sessions.length hold call recording)
    (allowed : PhaseAllows lib hold.record call) (confirms : recording.confirms = true) :
    SentConfirming cluster.log recording := by
  obtain ⟨entry, member, event, before⟩ := asked.sent
  refine ⟨entry, member, event, hold.record, before, ?_⟩
  cases call with
  | confirmP10CR => exact allowed.1
  | _ =>
      have plain := @Exchange.plain lib ⟨_, recording.request, recording.answer, 0⟩ asked.sends rfl
      exact absurd confirms (Bool.eq_false_iff.mp plain)

theorem SentConfirming.mono {log later : List Entry} {recording : Recording}
    (sent : SentConfirming log recording) : SentConfirming (log ++ later) recording := by
  obtain ⟨entry, member, rest⟩ := sent
  exact ⟨entry, List.mem_append_left _ member, rest⟩

theorem Remembered.act (remembered : Remembered lib subject cluster (sessions ++ [session]))
    (orderly : Orderly lib subject cluster (sessions ++ [session]))
    (nonces : Nonces cluster (sessions ++ [session])) (laws : MessageLaws lib) (keeps : KeepsEncoding lib)
    (allowed : (contract lib).allows session o) (served : cluster.ambiguous o answer after) :
    Remembered lib subject (cluster.step sessions.length ⟨o, answer⟩ after)
      (sessions ++ [(contract lib).next session o answer]) where
  known := by
    intro uid recorded
    rcases remembered.recorded_step orderly allowed served with ⟨same, _⟩ |
      ⟨hold, exchange, status, resourceVersion, stage, _, rfl, step⟩
    · obtain ⟨record, member, named⟩ := remembered.known uid (same ▸ recorded)
      exact ⟨record, Cluster.past_subset_step member, named⟩
    · by_cases own : uid = hold.record.uid
      · have stored := (@Orderly.held _ _ _ _ _ orderly hold (by rw [stage]; rfl)).1
        exact ⟨hold.record, Cluster.past_subset_step (orderly.consistent.ordered.mem stored), own.symm⟩
      · rw [step, Function.update_of_ne own] at recorded
        obtain ⟨record, member, named⟩ := remembered.known uid recorded
        exact ⟨record, Cluster.past_subset_step member, named⟩
  asked := by
    intro earlier running last hold call recording reached
    obtain ⟨rfl, same⟩ := List.append_inj' last rfl
    cases same
    exact remembered.asked_step orderly nonces laws allowed served reached
  recalls := by
    intro record stored own
    rcases remembered.recorded_step orderly allowed served with ⟨same, kept⟩ |
      ⟨hold, exchange, status, resourceVersion, stage, records, rfl, step⟩
    · rw [same]
      rcases kept record stored with before | ⟨early, empty⟩
      · exact remembered.recalls record before own
      · rw [empty]
        exact .opened early
    · cases stored
      obtain ⟨asked, phase⟩ := remembered.examined orderly stage
      obtain ⟨found, owned, _⟩ := @Orderly.held _ _ _ _ _ orderly hold (by rw [stage]; rfl)
      have recalls := records.recalls laws keeps phase asked.sends asked.identified asked.fresh
        (remembered.recalls hold.record found owned)
      rw [step]
      show Recalls lib _ (Function.update cluster.chronicle.recorded hold.record.uid _ hold.record.uid)
      rw [Function.update_self]
      exact recalls.updated resourceVersion
  confirmed := by
    intro uid recording recorded confirms
    rcases remembered.recorded_step orderly allowed served with ⟨same, _⟩ |
      ⟨hold, exchange, status, resourceVersion, stage, _, rfl, step⟩
    · rw [same] at recorded
      exact (remembered.confirmed uid recording recorded confirms).mono
    · by_cases own : uid = hold.record.uid
      · rw [step, own, Function.update_self] at recorded
        rcases List.mem_append.mp recorded with old | new
        · exact (remembered.confirmed _ recording old confirms).mono
        · cases List.mem_singleton.mp new
          obtain ⟨asked, phase⟩ := remembered.examined orderly stage
          exact (asked.confirming phase confirms).mono
      · rw [step, Function.update_of_ne own] at recorded
        exact (remembered.confirmed uid recording recorded confirms).mono
  backed := by
    intro earlier entry later sent record split sends before phase
    rcases eq_or_earlier_of_concat split with ⟨_, rfl, rfl⟩ | ⟨between, rfl, prior⟩
    · dsimp only at sends before
      subst sends
      exact remembered.backed_step orderly laws allowed before phase
    · exact remembered.backed earlier entry between sent record prior sends before phase

theorem Remembered.spawn (remembered : Remembered lib subject cluster sessions) (job : Job) :
    Remembered lib subject cluster (sessions ++ [Session.begin job]) where
  known := remembered.known
  asked := by
    intro earlier running last hold call recording reached
    obtain ⟨rfl, same⟩ := List.append_inj' last rfl
    cases same
    cases reached
  recalls := remembered.recalls
  confirmed := remembered.confirmed
  backed := remembered.backed

theorem Remembered.start {slot : Option CMPTransaction} (unclaimed : Unclaimed subject slot) :
    Remembered lib subject (Cluster.start slot) [] where
  known _ recorded := absurd rfl recorded
  asked := by simp
  recalls record stored own := absurd own (unclaimed record stored).2
  confirmed := by simp [Cluster.chronicle, Cluster.start]
  backed := by simp [Cluster.start]

/-- Two messages of a run are the same one or have different nonces. -/
theorem Nonces.ne (nonces : Nonces cluster sessions) {first second : Entry} {sent sent' : HTTPRequest}
    (known : first ∈ cluster.log) (known' : second ∈ cluster.log) (different : first ≠ second)
    (sends : first.event.op = .send sent) (sends' : second.event.op = .send sent') :
    sent.message.header.senderNonce ≠ sent'.message.header.senderNonce := by
  have : Std.Symm fun a b : Entry => ∀ sent sent', a.event.op = .send sent → b.event.op = .send sent' →
      sent.message.header.senderNonce ≠ sent'.message.header.senderNonce :=
    ⟨fun _ _ apart s s' h h' same => apart s' s h' h same.symm⟩
  exact nonces.distinct.forall known known' different sent sent' sends sends'

/-- A response that is accepted in phase Confirming answers a message sent in that phase. -/
theorem Remembered.separate (remembered : Remembered lib subject cluster sessions)
    (nonces : Nonces cluster sessions) {first second : Entry} {sent sent' : HTTPRequest}
    {record record' : CMPTransaction} (known : first ∈ cluster.log) (known' : second ∈ cluster.log)
    (sends : first.event.op = .send sent) (sends' : second.event.op = .send sent')
    (before : first.before = some record) (before' : second.before = some record')
    (earlier : record.status.phase ≠ .confirming) (confirming : record'.status.phase = .confirming)
    {call : ClientCall} (allowed : PhaseAllows lib record' call) {t : Time} {answer : HTTPAnswer}
    {response : PKIMessage} {signer : Option Certificate}
    (accepted : call.accept lib t sent'.message answer = .ok (response, signer)) :
    response.header.recipNonce ≠ sent.message.header.senderNonce := by
  have apart : ∀ entry ∈ cluster.log, ∀ message stored, entry.event.op = .send message →
      entry.before = some stored → stored.status.phase = .confirming →
      message.message.header.senderNonce ≠ sent.message.header.senderNonce := by
    intro entry member message stored event found phase
    refine nonces.ne member known ?_ event sends
    rintro rfl
    cases before.symm.trans found
    exact earlier phase
  rcases verifyResponse_nonce (ClientCall.accept_verified accepted) with echoed | ⟨present, echoed⟩
  · rw [echoed]
    exact apart second known' sent' record' sends' before' confirming
  · cases call with
    | confirmP10CR confirm =>
        have same : confirm.requestNonce = record'.status.requestNonce := allowed.2.2.2.1
        obtain ⟨log, rest, split⟩ := List.append_of_mem known'
        obtain ⟨conf, ⟨entry, member, event, stored, found, phase⟩, delayed⟩ :=
          (remembered.backed log second rest sent' record' split sends' before' confirming).2 (same ▸ present)
        have nonce : response.header.recipNonce = conf.nonce := echoed.trans (same.trans delayed.nonce)
        rw [nonce]
        exact apart entry (split ▸ List.mem_append_left _ member) conf.request stored (by rw [event]) found phase
    | pollP10CR =>
        have polling := allowed.1
        rw [confirming] at polling
        cases polling
    | enrollP10CR | enrollIR | enrollKUR => exact absurd rfl present

end

end CmpIssuer
