import CmpIssuer.Cluster.Deployment
import CmpIssuer.Cluster.Nonces

/-!
What holds over whole runs of `Sign` calls for one CertificateRequest that
follow each other, with crashes at any point, store operations that fail or
only seem to fail, and a CMP server that answers anything.
-/
namespace CmpIssuer
open Effect

/-- The entry removes a record of the request that has this transaction ID. The delete names the record's
own incarnation, as `failTransaction` does it. `load` deletes only records of other requests. -/
def Entry.Removes (subject : Subject) (transactionID : Bytes) (entry : Entry) : Prop :=
  ∃ record, entry.before = some record ∧ entry.after = none ∧
    record.spec.certificateRequestUID = subject.uid ∧ record.spec.transactionID = transactionID ∧
    entry.event.op = .deleteTransaction record.key (some record.uid)

/-- A record of the request with this transaction ID is stored. -/
def Stored (subject : Subject) (transactionID : Bytes) (slot : Option CMPTransaction) : Prop :=
  ∃ record, slot = some record ∧ record.spec.certificateRequestUID = subject.uid ∧
    record.spec.transactionID = transactionID

/-- What the log of a run says about its messages. -/
structure Spoken (subject : Subject) (cluster : Cluster) : Prop where
  past : ∀ entry ∈ cluster.log, ∀ record, entry.after = some record → record ∈ cluster.past
  identified : ∀ entry ∈ cluster.log, ∀ sent, entry.event.op = .send sent →
    Stored subject sent.message.header.transactionID entry.before
  /-- The record a message was sent for is still stored, unless it was removed since. -/
  kept : ∀ earlier entry later sent, cluster.log = earlier ++ entry :: later →
    entry.event.op = .send sent → Stored subject sent.message.header.transactionID cluster.slot ∨
      ∃ removal ∈ later, removal.Removes subject sent.message.header.transactionID
  separated : ∀ earlier first between second later sent sent',
    cluster.log = earlier ++ first :: (between ++ second :: later) →
    first.event.op = .send sent → second.event.op = .send sent' →
    sent.message.header.transactionID ≠ sent'.message.header.transactionID →
    ∃ removal ∈ between, removal.Removes subject sent.message.header.transactionID
  /-- No enrollment after a chain was stored, and no message after the record was issued. -/
  silent : cluster.log.Pairwise fun earlier later => ∀ stored record sent,
    earlier.after = some stored → stored.spec.certificateRequestUID = subject.uid →
    later.before = some record → record.uid = stored.uid → later.event.op = .send sent →
    (stored.status.issuedChain ≠ [] → sent.message.body.operation? = none) ∧
      stored.status.phase ≠ .issued

section
variable {lib : Library} {subject : Subject} {cluster : Cluster} {sessions : List Session}
  {session : Session} {o : Op} {answer : o.Answer} {after : Option CMPTransaction}

/-- An operation of the running call keeps a stored record or removes it. -/
theorem Orderly.keeps_or_removes (orderly : Orderly lib subject cluster (sessions ++ [session]))
    (allowed : (contract lib).allows session o) (served : cluster.ambiguous o answer after)
    {transactionID : Bytes} (stored : Stored subject transactionID cluster.slot) :
    Stored subject transactionID after ∨
      Entry.Removes subject transactionID ⟨sessions.length, ⟨o, answer⟩, cluster.slot, after⟩ := by
  obtain ⟨record, found, own, named⟩ := stored
  have change := Cluster.ambiguous.change served
  cases change with
  | keep => exact .inl ⟨record, found, own, named⟩
  | create asked assigned free => cases free.symm.trans found
  | update written stored resourceVersion found' current =>
      cases found'.symm.trans found
      exact .inl ⟨_, rfl, own, named⟩
  | delete key uid stored found' incarnation =>
      cases found'.symm.trans found
      have named' := orderly.deletes allowed (.delete key uid _ found incarnation) found
      exact .inr ⟨record, found, rfl, own, named, named'⟩

/-- A message is sent for the stored record, and in a phase that calls for it. -/
theorem Orderly.message (orderly : Orderly lib subject cluster (sessions ++ [session]))
    (laws : MessageLaws lib) {sent : HTTPRequest} (sends : Sends lib session sent) :
    ∃ record, cluster.slot = some record ∧ record.spec.certificateRequestUID = subject.uid ∧
      record.spec.transactionID = sent.message.header.transactionID ∧ record.status.phase ≠ .issued ∧
      (sent.message.body.operation? ≠ none → record.status.issuedChain = []) := by
  have member : session ∈ sessions ++ [session] := List.mem_append_right _ List.mem_cons_self
  obtain ⟨hold, call, serving, stored, own, phase, speaks, identified, _⟩ := orderly.sends laws sends
  have shaped := orderly.consistent.shaped member (Stage.record_of_hold (Stage.hold_of_serving serving))
  refine ⟨hold.record, stored, own, identified.symm, phase.unissued, fun enrolls => ?_⟩
  exact shaped.mpr (phase.early (ClientCall.speaks.confirms speaks enrolls))

theorem Spoken.act (spoken : Spoken subject cluster)
    (orderly : Orderly lib subject cluster (sessions ++ [session])) (laws : MessageLaws lib)
    (allowed : (contract lib).allows session o) (served : cluster.ambiguous o answer after) :
    Spoken subject (cluster.step sessions.length ⟨o, answer⟩ after) where
  past := by
    intro entry member record stored
    rcases List.mem_append.mp member with old | new
    · exact Cluster.past_subset_step (spoken.past entry old record stored)
    · cases List.mem_singleton.mp new
      dsimp only at stored
      subst stored
      exact orderly.consistent.ordered.mem_step
  identified := by
    intro entry member sent sends
    rcases List.mem_append.mp member with old | new
    · exact spoken.identified entry old sent sends
    · cases List.mem_singleton.mp new
      dsimp only at sends
      subst sends
      obtain ⟨record, found, own, identified, _⟩ := orderly.message laws allowed
      exact ⟨record, found, own, identified⟩
  kept := by
    intro earlier entry later sent split sends
    rcases eq_or_earlier_of_concat split with ⟨_, _, rfl⟩ | ⟨before, rfl, prior⟩
    · dsimp only at sends
      subst sends
      obtain ⟨record, found, own, identified, _⟩ := orderly.message laws allowed
      have unchanged : after = cluster.slot := (Cluster.ambiguous.change served).keeps rfl
      exact .inl ⟨record, unchanged.trans found, own, identified⟩
    · rcases spoken.kept earlier entry before sent prior sends with stored | ⟨removal, member, removes⟩
      · rcases orderly.keeps_or_removes allowed served stored with stored | removes
        · exact .inl stored
        · exact .inr ⟨_, List.mem_append_right _ List.mem_cons_self, removes⟩
      · exact .inr ⟨removal, List.mem_append_left _ member, removes⟩
  separated := by
    intro earlier first between second later sent sent' split sends sends' different
    rw [← List.cons_append, ← List.append_assoc] at split
    rcases eq_or_earlier_of_concat split with ⟨_, prior, rfl⟩ | ⟨before, rfl, prior⟩
    · dsimp only at sends'
      subst sends'
      obtain ⟨record, found, _, identified, _⟩ := orderly.message laws allowed
      rcases spoken.kept earlier first between sent prior sends with ⟨other, found', _, same⟩ | removed
      · cases found.symm.trans found'
        exact absurd (same.symm.trans identified) different
      · exact removed
    · refine spoken.separated earlier first between second before sent sent' ?_ sends sends' different
      rw [prior, List.append_assoc, List.cons_append]
  silent := by
    refine List.pairwise_append.mpr ⟨spoken.silent, List.pairwise_singleton _ _, ?_⟩
    intro entry member next last stored record sent after' own before same sends
    cases List.mem_singleton.mp last
    dsimp only at before sends
    subst sends
    obtain ⟨current, found, _, _, unissued, unstored⟩ := orderly.message laws allowed
    cases found.symm.trans before
    -- The version the entry left is not later than the one the message is sent for.
    have advances := orderly.consistent.ordered.latest found (spoken.past entry member stored after') same.symm
    refine ⟨fun chained => ?_, fun issued => unissued (Phase.eq_issued (issued ▸ advances.phase))⟩
    by_contra enrolls
    have early := (orderly.consistent.ordered.shaped record (orderly.consistent.ordered.mem found)
      (advances.owner.trans own)).mp (unstored enrolls)
    have shaped := orderly.consistent.ordered.shaped stored (spoken.past entry member stored after') own
    exact chained (shaped.mpr (advances.phase.trans_lt early))

theorem Spoken.start (slot : Option CMPTransaction) : Spoken subject (Cluster.start slot) where
  past := by simp [Cluster.start]
  identified := by simp [Cluster.start]
  kept := by simp [Cluster.start]
  separated := by simp [Cluster.start]
  silent := by simp [Cluster.start]

end

/-- Messages, the records they belong to and the certificates they can lead to, over any run: every
message names a stored transaction, a second transaction starts only after the first was removed, an
issued certificate is never asked for again and an issued transaction is over. -/
theorem sequential_messages {lib : Library} (laws : MessageLaws lib) {subject : Subject}
    {slot : Option CMPTransaction} (unclaimed : Unclaimed subject slot) {pool : Signers}
    (run : SequentialRun lib subject slot pool) :
    (∀ entry ∈ pool.world.log, ∀ sent, entry.event.op = .send sent →
      Stored subject sent.message.header.transactionID entry.before) ∧
    (∀ earlier first between second later sent sent',
      pool.world.log = earlier ++ first :: (between ++ second :: later) →
      first.event.op = .send sent → second.event.op = .send sent' →
      sent.message.header.transactionID ≠ sent'.message.header.transactionID →
      ∃ removal ∈ between, removal.Removes subject sent.message.header.transactionID) ∧
    pool.world.log.Pairwise fun earlier later => ∀ stored record sent,
      earlier.after = some stored → stored.spec.certificateRequestUID = subject.uid →
      later.before = some record → record.uid = stored.uid → later.event.op = .send sent →
      (stored.status.issuedChain ≠ [] → sent.message.body.operation? = none) ∧
        stored.status.phase ≠ .issued := by
  obtain ⟨_, spoken⟩ := Pool.Reach.sequence
    (J := fun cluster sessions => Orderly lib subject cluster sessions ∧ Spoken subject cluster)
    (fun job _ => sign_follows lib job)
    (fun _ _ _ wanted holds => ⟨holds.1.spawn wanted, holds.2⟩)
    (by
      rintro _ sessions session o answer _ ⟨orderly, spoken⟩ allowed ⟨after, served, rfl⟩
      exact ⟨orderly.act allowed served, spoken.act orderly laws allowed served⟩)
    (fun _ _ disturbed => disturbed) ⟨.start unclaimed, .start slot⟩ run
  exact ⟨spoken.identified, spoken.separated, spoken.silent⟩

/-- A call that is told to wait, and a second one that polls and confirms. -/
theorem sequential_messages_polled : ∃ pool, SequentialRun plainLibrary plainJob.subject none pool ∧
    (pool.world.log.filterMap fun entry => entry.event.op.message?).length = 3 ∧
    ∀ entry ∈ pool.world.log, ∀ sent, entry.event.op = .send sent →
      Stored plainJob.subject sent.message.header.transactionID entry.before := by
  let d := plainDeployment none [plainReply 4 [9], plainReply 2 [9], plainReply 3 [9, 9, 9, 9]]
  have run := d.pool_run plainLibrary plainJob 40 2 rfl
  refine ⟨d.pool plainLibrary plainJob 40 2, run, by decide +kernel, ?_⟩
  exact (sequential_messages plainLibrary_message (by rintro _ ⟨⟩) run).1

/-- The nonces of the stored record, over any run: a record in phase Polling has the nonce of the
enrollment message and that of the last response, and a record in phase Confirming has none or that of a
delayed certConf. So a confirmation polls only after its certConf, and no response to a message of an
earlier phase is accepted as the answer to a confirmation. -/
theorem recorded_nonces {lib : Library} (laws : MessageLaws lib) (keeps : KeepsEncoding lib)
    {subject : Subject} {slot : Option CMPTransaction} (unclaimed : Unclaimed subject slot)
    {pool : Signers} (run : SequentialRun lib subject slot pool) :
    (∀ record, pool.world.slot = some record → record.spec.certificateRequestUID = subject.uid →
      (record.status.phase = .polling → Polls lib record (pool.world.chronicle.recorded record.uid)) ∧
      (record.status.phase = .confirming →
        Confirms lib record (pool.world.chronicle.recorded record.uid))) ∧
    (∀ earlier entry later sent record, pool.world.log = earlier ++ entry :: later →
      entry.event.op = .send sent → entry.before = some record → record.status.phase = .confirming →
      sent.message.body.type = .pollReq →
      ∃ conf, SentConfirming earlier conf ∧ Delayed lib record conf) ∧
    ∀ first ∈ pool.world.log, ∀ second ∈ pool.world.log, ∀ sent sent' record record',
      first.event.op = .send sent → second.event.op = .send sent' → first.before = some record →
      second.before = some record' → record.status.phase ≠ .confirming →
      record'.status.phase = .confirming → ∀ call, PhaseAllows lib record' call →
      ∀ t answer response signer, call.accept lib t sent'.message answer = .ok (response, signer) →
      response.header.recipNonce ≠ sent.message.header.senderNonce := by
  obtain ⟨orderly, nonces, remembered⟩ := Pool.Reach.sequence
    (J := fun cluster sessions => Orderly lib subject cluster sessions ∧ Nonces cluster sessions ∧
      Remembered lib subject cluster sessions)
    (fun job _ => sign_follows lib job)
    (fun _ _ job wanted holds => ⟨holds.1.spawn wanted, holds.2.1.spawn job, holds.2.2.spawn job⟩)
    (by
      rintro _ sessions session o answer _ ⟨orderly, nonces, remembered⟩ allowed ⟨after, served, rfl⟩
      exact ⟨orderly.act allowed served, nonces.act laws allowed served,
        remembered.act orderly nonces laws keeps allowed served⟩)
    (fun _ _ disturbed => disturbed) ⟨.start unclaimed, .start slot, .start unclaimed⟩ run
  refine ⟨fun record stored own => ?_, ?_, ?_⟩
  · have recalls := remembered.recalls record stored own
    exact ⟨recalls.polling, recalls.confirming⟩
  · intro earlier entry later sent record split sends before phase polls
    obtain ⟨present, backed⟩ := remembered.backed earlier entry later sent record split sends before phase
    exact backed (present polls)
  · intro first known second known' sent sent' record record' sends sends' before before' phase phase'
      call allowed t answer response signer accepted
    exact remembered.separate nonces known known' sends sends' before before' phase phase' allowed accepted

/-- A delayed enrollment, its certificate and a delayed certConf: the record keeps the certConf's nonce. -/
theorem recorded_nonces_delayed : ∃ pool record,
    SequentialRun plainLibrary plainJob.subject none pool ∧ pool.world.slot = some record ∧
    record.status.phase = .confirming ∧ record.status.requestNonce ≠ [] ∧
    Confirms plainLibrary record (pool.world.chronicle.recorded record.uid) := by
  let d := plainDeployment none [plainReply 4 [9], plainReply 2 [9], plainReply 5 [9, 9, 9, 9]]
  have run := d.pool_run plainLibrary plainJob 40 2 rfl
  have stored : ∃ record, (d.pool plainLibrary plainJob 40 2).world.slot = some record ∧
      record.spec.certificateRequestUID = plainJob.subject.uid ∧ record.status.phase = .confirming ∧
      record.status.requestNonce ≠ [] := by
    refine ⟨(d.pool plainLibrary plainJob 40 2).world.slot.get (by decide +kernel), ?_, ?_, ?_, ?_⟩ <;>
      decide +kernel
  obtain ⟨record, found, own, phase, present⟩ := stored
  refine ⟨_, record, run, found, phase, present, ?_⟩
  exact ((recorded_nonces plainLibrary_message plainLibrary_encoding (by rintro _ ⟨⟩) run).1
    record found own).2 phase

end CmpIssuer
