import CmpIssuer.Cluster.Deployment

/-!
What holds when any number of `Sign` calls for one CertificateRequest share its
record in any interleaving, crash anywhere, and another client deletes and
recreates the record under them.
-/
namespace CmpIssuer
open Effect

section
variable {lib : Library} {subject : Subject} {slot : Option CMPTransaction} {pool : Signers}
  {thread : Thread interface (Fault GoError) Bytes Job}

/-- The session of a call in a pool, and the path the call is on. -/
theorem SharedRun.session (run : SharedRun lib subject slot pool) (member : thread ∈ pool.threads) :
    thread.watched (contract lib) Session.begin ∈ pool.sessions lib ∧
      Path (sign lib thread.job.clusterResourceNamespace thread.job.request thread.job.issuer)
        thread.trace thread.program :=
  ⟨List.mem_map_of_mem member, (Pool.Reach.path run thread member).2⟩

/-- The record a session works on: a stored version of an incarnation that its call has obtained. -/
theorem Consistent.held {cluster : Cluster} {sessions : List Session} {session : Session}
    (consistent : Consistent lib subject cluster sessions) (member : session ∈ sessions) {hold : Hold}
    (stage : session.stage.hold? = some hold) :
    hold.record ∈ cluster.past ∧ hold.record.spec.certificateRequestUID = subject.uid ∧
      Obtained session.trail hold.record.uid := by
  have known := Stage.record_of_hold stage
  have sound := consistent.sound session member
  exact ⟨consistent.stored session member _ (Stage.knows_of_record known),
    (sound.own _ known).trans (congrArg Subject.uid (consistent.subject session member)),
    sound.obtained _ (Stage.knows_of_record known)⟩

theorem Cluster.Ordered.leaf {cluster : Cluster} {uid : String} (ordered : cluster.Ordered lib uid)
    (keeps : KeepsEncoding lib) {a b : CMPTransaction} (first : a ∈ cluster.past)
    (second : b ∈ cluster.past) (same : a.uid = b.uid) (stored : a.status.issuedChain ≠ [])
    (stored' : b.status.issuedChain ≠ []) : a.status.issuedChain.head? = b.status.issuedChain.head? := by
  have agree := ordered.advances.imp (S := fun a b : CMPTransaction => a.uid = b.uid →
    a.status.issuedChain ≠ [] → b.status.issuedChain ≠ [] →
    a.status.issuedChain.head? = b.status.issuedChain.head?)
    fun advances same stored _ => ((advances same).leaf keeps stored).symm
  have : Std.Symm fun a b : CMPTransaction => a.uid = b.uid →
      a.status.issuedChain ≠ [] → b.status.issuedChain ≠ [] →
      a.status.issuedChain.head? = b.status.issuedChain.head? :=
    ⟨fun _ _ agree same stored stored' => (agree same.symm stored' stored).symm⟩
  rcases eq_or_ne a b with rfl | different
  · rfl
  · exact agree.forall first second different same stored stored'

/-- A message that accepts a certificate accepts the leaf of the record its call works on. -/
theorem Sends.accepts {session : Session} {sent : HTTPRequest} {statuses : List CertStatus}
    (sends : Sends lib session sent) (laws : MessageLaws lib) (sound : Sound lib session)
    (body : sent.message.body = .certConf statuses) (accepts : ∃ status ∈ statuses, status.statusInfo = none) :
    ∃ hold leaf certReqID status, session.stage.hold? = some hold ∧ LeafStored lib hold.record leaf ∧
      lib.newCertStatus leaf certReqID = .ok status ∧ statuses = [{ status with statusInfo := none }] := by
  obtain ⟨hold, call, serving, sentFor⟩ := sends.serving
  obtain ⟨before, _, _, _, hands, _⟩ := sound.handed hold call serving
  have speaks := (sentFor.message laws).1
  rw [body] at speaks
  rcases speaks with sends | ⟨_, status, rejection, refusal, _⟩
  · cases call with
    | confirmP10CR confirm =>
        obtain ⟨_, _, _, _, leaf, certificate, stored⟩ := hands.phase
        rcases sends.confirmation with ⟨_, other⟩ | ⟨_, leaf', status, certificate', hashed, certConf⟩
        · cases other
        · cases certificate.symm.trans certificate'
          exact ⟨hold, leaf, confirm.certReqID, status, Stage.hold_of_serving serving, stored, hashed,
            Body.certConf.inj certConf⟩
    | _ => cases sends
  · cases refusal
    obtain ⟨_, member, none⟩ := accepts
    cases List.mem_singleton.mp member
    cases none

end

/-- Replicas that share a record, over any interleaving: every incarnation only moves forward through the
phases and keeps the leaf of the first chain stored in it, only a stored leaf is accepted towards the
server, a bundle that is returned has the leaf of its incarnation, and a call removes only what it has
read or created. -/
theorem replicas_share_record {lib : Library} (laws : MessageLaws lib) (keeps : KeepsEncoding lib)
    {subject : Subject} {slot : Option CMPTransaction} (unclaimed : Unclaimed subject slot)
    {pool : Signers} (run : SharedRun lib subject slot pool) :
    (pool.world.past.Pairwise fun old new => old.uid = new.uid →
      old.status.phase.rank ≤ new.status.phase.rank ∧
      (old.status.issuedChain ≠ [] →
        new.status.issuedChain.head? = old.status.issuedChain.head?)) ∧
    (∀ thread ∈ pool.threads, ∀ sent next statuses, thread.program = .op (.send sent) next →
      sent.message.body = .certConf statuses → (∃ status ∈ statuses, status.statusInfo = none) →
      ∃ record ∈ pool.world.past, record.spec.certificateRequestUID = subject.uid ∧
        Obtained thread.trace record.uid ∧
        ∃ leaf certReqID status, record.status.issuedChain.head? = some leaf.raw ∧
          lib.newCertStatus leaf certReqID = .ok status ∧
          statuses = [{ status with statusInfo := none }]) ∧
    (∀ thread ∈ pool.threads, ∀ bundle, thread.program = .pure bundle →
      ∃ record ∈ pool.world.past, record.spec.certificateRequestUID = subject.uid ∧
        Obtained thread.trace record.uid ∧ ∃ chain leaf, bundle = encodeChainPEM lib chain ∧
          chain.head? = some leaf ∧ ∀ version ∈ pool.world.past, version.uid = record.uid →
            version.status.issuedChain ≠ [] → version.status.issuedChain.head? = some leaf.raw) ∧
    (∀ thread ∈ pool.threads, ∀ key uid next, thread.program = .op (.deleteTransaction key uid) next →
      ∃ u, uid = some u ∧ Obtained thread.trace u) ∧
    ∀ entry ∈ pool.world.log, ∀ record, entry.before = some record → entry.after = none →
      ∃ thread, pool.threads[entry.thread]? = some thread ∧ Obtained thread.trace record.uid := by
  have consistent := run.consistent unclaimed
  refine ⟨?_, ?_, ?_, ?_, ?_⟩
  · exact consistent.ordered.advances.imp fun advances same =>
      ⟨(advances same).phase, (advances same).leaf keeps⟩
  · intro thread member sent next statuses program body accepts
    obtain ⟨session, path⟩ := run.session member
    rw [program] at path
    have sends := (sign_follows lib thread.job).allows path
    obtain ⟨hold, leaf, certReqID, status, stage, stored, hashed, rfl⟩ :=
      Sends.accepts sends laws (consistent.sound _ session) body accepts
    obtain ⟨past, own, obtained⟩ := consistent.held session stage
    refine ⟨hold.record, past, own, ?_, leaf, certReqID, status, stored.head keeps, hashed, rfl⟩
    simpa [Thread.watched] using obtained
  · intro thread member bundle program
    obtain ⟨session, path⟩ := run.session member
    rw [program] at path
    obtain ⟨hold, chain, leaf, stage, _, rfl, head, stored, _⟩ := sign_finish (r := .ok bundle) path
    have held : (thread.watched (contract lib) Session.begin).stage.hold? = some hold :=
      congrArg Stage.hold? stage
    obtain ⟨past, own, obtained⟩ := consistent.held session held
    refine ⟨hold.record, past, own, by simpa [Thread.watched] using obtained, chain, leaf, rfl, head, ?_⟩
    intro version known same chained
    have leafStored := stored.head keeps
    rw [← leafStored]
    refine consistent.ordered.leaf keeps known past same chained ?_
    intro empty
    rw [empty] at leafStored
    cases leafStored
  · intro thread member key uid next program
    obtain ⟨session, path⟩ := run.session member
    rw [program] at path
    obtain ⟨record, deletable, _, rfl⟩ := (sign_follows lib thread.job).allows path
    have knows := Stage.knows_of_deletable deletable
    have identified := consistent.ordered.identified record (consistent.stored _ session record knows)
    refine ⟨record.uid, if_neg identified, ?_⟩
    simpa [Thread.watched] using (consistent.sound _ session).obtained record knows
  · intro entry member record before gone
    obtain ⟨session, acted, obtained⟩ := consistent.deleted entry member record before gone
    rw [Signers.sessions, List.getElem?_map, Option.map_eq_some_iff] at acted
    obtain ⟨thread, found, rfl⟩ := acted
    exact ⟨thread, found, by simpa [Thread.watched] using obtained⟩

/-- Two overlapping calls: the bundle that the second returns has the leaf that the first recorded. -/
theorem replicas_share_record_issued : ∃ pool, SharedRun plainLibrary plainJob.subject none pool ∧
    ∃ first second, pool.threads = [first, second] ∧ first.program.outcome? = none ∧
      second.program = .pure [3, 4] ∧ ∃ record ∈ pool.world.past,
      Obtained second.trace record.uid ∧ ∃ chain leaf, [3, 4] = encodeChainPEM plainLibrary chain ∧
        chain.head? = some leaf ∧ ∀ version ∈ pool.world.past, version.uid = record.uid →
          version.status.issuedChain ≠ [] → version.status.issuedChain.head? = some leaf.raw := by
  obtain ⟨pool, run, first, second, threads, unfinished, ended⟩ := plain_overlap
  obtain ⟨record, past, _, rest⟩ := (replicas_share_record plainLibrary_message plainLibrary_encoding
    (by rintro _ ⟨⟩) run).2.2.1 second (by rw [threads]; exact .tail _ (.head _)) _ ended
  exact ⟨pool, run, first, second, threads, unfinished, ended, record, past, rest⟩

end CmpIssuer
