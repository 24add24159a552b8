import CmpIssuer.Cluster.Deployment
import CmpIssuer.Session.Pending

/-!
The poll budget over whole runs. The counter of a record is shared by the
enrollment and the confirmation, and the limit is checked before every message
of a confirmation, its certConf included. A record reaches phase Confirming
with a poll to spare, so the check stops further polls only.
-/
namespace CmpIssuer
open Effect

/-- Calls for one CertificateRequest and one generation of its issuer, in any interleaving. -/
def IssuerRun (lib : Library) (subject : Subject) (issuer : Issuer) (slot : Option CMPTransaction)
    (pool : Signers) : Prop :=
  Pool.Reach sharedWorld (Job.call lib) (fun job => job.subject = subject ∧ job.issuer = issuer)
    (fun _ _ => True) (Cluster.start slot) pool

theorem IssuerRun.shared {lib : Library} {subject : Subject} {issuer : Issuer} {slot : Option CMPTransaction}
    {pool : Signers} (run : IssuerRun lib subject issuer slot pool) : SharedRun lib subject slot pool :=
  Pool.Reach.more run fun _ wanted => wanted.1

/-- A counter within the budget: nothing is counted before phase Polling, and a certConf that was not
answered has a poll to spare. -/
structure CountedWithin (maximum : Int) (status : CMPTransactionStatus) : Prop where
  natural : 0 ≤ status.polls
  bounded : status.polls ≤ maximum
  unpolled : status.phase.rank < Phase.polling.rank → status.polls = 0
  spare : status.phase = .confirming → status.requestNonce = [] → status.polls < maximum

/-- What one write does to the counter. -/
structure Spends (maximum : Int) (old new : CMPTransactionStatus) : Prop where
  exact_ : new.polls = old.polls ∨ new.polls = old.polls + 1
  confirming : new.phase = .confirming → old.phase ≠ .confirming → new.polls < maximum

theorem Spends.refl (maximum : Int) (status : CMPTransactionStatus) : Spends maximum status status :=
  ⟨.inl rfl, fun phase other => absurd phase other⟩

theorem maximumPolls_pos (spec : TransactionSpec) : 1 ≤ (transactionLimitsWithDefaults spec).maximumPolls := by
  unfold transactionLimitsWithDefaults
  dsimp only
  split
  · decide
  · omega

theorem maximumPolls_counted {spec : TransactionSpec} (sized : spec.maximumPolls < 2 ^ 31) :
    (transactionLimitsWithDefaults spec).maximumPolls < 2 ^ 31 := by
  unfold transactionLimitsWithDefaults
  dsimp only
  split
  · decide
  · exact sized

section
variable {lib : Library} {maximum : Int} {record : CMPTransaction}

theorem CountedWithin.countPoll (sized : maximum < 2 ^ 31) (counted : CountedWithin maximum record.status) (polled : Bool)
    (allowed : polled = true → record.status.polls < maximum) :
    0 ≤ (record.countPoll polled).status.polls ∧ (record.countPoll polled).status.polls ≤ maximum ∧
      ((record.countPoll polled).status.polls = record.status.polls ∨
        (record.countPoll polled).status.polls = record.status.polls + 1) := by
  have natural := counted.natural
  cases polled with
  | false => exact ⟨natural, counted.bounded, .inl rfl⟩
  | true =>
      have below := allowed rfl
      have exact_ : wrap32 (record.status.polls + 1) = record.status.polls + 1 := by
        unfold wrap32
        apply Int.bmod_eq_of_le <;> omega
      change 0 ≤ wrap32 _ ∧ wrap32 _ ≤ maximum ∧ (wrap32 _ = _ ∨ wrap32 _ = _)
      rw [exact_]
      exact ⟨by omega, by omega, .inr rfl⟩

/-- An answer that is recorded keeps the counter within the budget. -/
theorem Records.counted (sized : maximum < 2 ^ 31) (positive : 1 ≤ maximum) {exchange : Exchange}
    {status : CMPTransactionStatus} {trail : Trail} (records : Records lib trail record exchange status)
    (allowed : PhaseAllows lib record exchange.call)
    (budget : exchange.call.enrolls = false → record.status.polls < maximum)
    (counted : CountedWithin maximum record.status) :
    CountedWithin maximum status ∧ Spends maximum record.status status := by
  have late : ¬ Phase.confirming.rank < Phase.polling.rank := by decide
  have ended : ¬ Phase.issued.rank < Phase.polling.rank := by decide
  cases records with
  | pending t understood enrolls waits =>
      have below : (record.status.phase == .polling) = true → record.status.polls < maximum := by
        intro polled
        refine budget (Bool.eq_false_iff.mpr fun first => ?_)
        have early := allowed.unpolled first
        rw [beq_iff_eq.mp polled] at early
        exact lt_irrefl _ early
      obtain ⟨natural, bounded, exact_⟩ := counted.countPoll sized _ below
      exact ⟨⟨natural, bounded, fun early => absurd early (lt_irrefl Phase.polling.rank), by rintro ⟨⟩⟩,
        exact_, by rintro ⟨⟩⟩
  | confirming t understood enrolls issued unconfirmed =>
      have below : record.status.polls < maximum := by
        cases first : exchange.call.enrolls with
        | false => exact budget first
        | true =>
            rw [counted.unpolled (allowed.unpolled first)]
            omega
      exact ⟨⟨counted.natural, counted.bounded, fun early => absurd early late, fun _ _ => below⟩,
        .inl rfl, fun _ _ => below⟩
  | issued t understood enrolls issued confirmed =>
      exact ⟨⟨counted.natural, counted.bounded, fun early => absurd early ended, by rintro ⟨⟩⟩,
        .inl rfl, by rintro ⟨⟩⟩
  | @delayed response signer result confirm leaf rest next t understood confirms head _ waits =>
      have below : record.status.polls < maximum := budget (by rw [confirms]; rfl)
      obtain ⟨natural, bounded, exact_⟩ :=
        counted.countPoll sized (confirm.requestNonce != []) fun _ => below
      have polling : record.status.phase = .confirming := by
        rw [confirms] at allowed
        exact allowed.1
      refine ⟨⟨natural, bounded, fun early => absurd early late, fun _ unanswered => ?_⟩, exact_,
        fun _ other => absurd polling other⟩
      -- A confirmation that polls keeps the nonce it polls for, so this one has sent its certConf.
      have unpolled : confirm.requestNonce = [] := by
        obtain ⟨csr, _, built, _, _, _, _, judged⟩ := understood.judged
        rw [confirms] at judged
        have finished := Finished.ofExcept_eq_result.mp (Except.ok.inj judged)
        have nonce := (finishConfirmation_delayed finished waits).1
        by_contra polled
        rw [confirmationNonce, if_neg polled] at nonce
        exact polled (nonce.symm.trans unanswered)
      rw [unpolled]
      exact below
  | confirmed t understood confirms head _ done =>
      exact ⟨⟨counted.natural, counted.bounded, fun early => absurd early ended, by rintro ⟨⟩⟩,
        .inl rfl, by rintro ⟨⟩⟩

/-- A call that writes a status keeps the counter of its record within the budget. -/
theorem sign_counts {job : Job} {t : Trail} {written old : CMPTransaction}
    {next : Except ApiError String → Go GoError Bytes}
    (path : Path (sign lib job.clusterResourceNamespace job.request job.issuer) t
      (.op (.updateTransactionStatus written) next))
    (sized : job.issuer.spec.transaction.maximumPolls < 2 ^ 31)
    (known : ((contract lib).run (Session.begin job) t).stage.record? = some old)
    (counted : CountedWithin (transactionLimitsWithDefaults job.issuer.spec.transaction).maximumPolls old.status) :
    CountedWithin (transactionLimitsWithDefaults job.issuer.spec.transaction).maximumPolls written.status ∧
      Spends (transactionLimitsWithDefaults job.issuer.spec.transaction).maximumPolls old.status
        written.status := by
  have positive := maximumPolls_pos job.issuer.spec.transaction
  rcases (sign_follows lib job).allows path with ⟨_, _, stage, rfl⟩ | ⟨hold, exchange, status, stage, records, rfl⟩
  · rw [stage] at known
    cases known
    have fresh := (sign_sound path).fresh _ stage
    rw [fresh]
    have bounded : (0 : Int) ≤ (transactionLimitsWithDefaults job.issuer.spec.transaction).maximumPolls := by omega
    exact ⟨⟨le_rfl, bounded, fun _ => rfl, by rintro ⟨⟩⟩, .inl rfl, by rintro ⟨⟩⟩
  · rw [stage] at known
    cases known
    obtain ⟨_, _, _, _, hands, _⟩ := (sign_sound path).handed hold exchange.call (by rw [stage]; rfl)
    obtain ⟨_, _, _, _, _, _, handsOver, _⟩ := sign_records path stage
    refine records.counted (maximumPolls_counted sized) positive hands.phase (fun later => ?_) counted
    generalize exchange.call = call at handsOver later
    cases handsOver with
    | exchange _ budget => exact budget later
    | confirm budget => exact budget

end

/-- The counters of the records of a request, and what every write did to them. -/
structure Budgeted (maximum : Int) (uid : String) (past : List CMPTransaction) (log : List Entry) : Prop where
  counted : ∀ record ∈ past, record.spec.certificateRequestUID = uid → CountedWithin maximum record.status
  spends : ∀ entry ∈ log, ∀ old new, entry.before = some old → entry.after = some new →
    new.spec.certificateRequestUID = uid → Spends maximum old.status new.status

section
variable {maximum : Int} {uid : String} {past : List CMPTransaction} {log : List Entry}

theorem Budgeted.push (budgeted : Budgeted maximum uid past log) {record : CMPTransaction}
    (counted : record.spec.certificateRequestUID = uid → CountedWithin maximum record.status) :
    Budgeted maximum uid (past ++ [record]) log := by
  refine ⟨fun other member => ?_, budgeted.spends⟩
  rcases List.mem_append.mp member with old | new
  · exact budgeted.counted other old
  · obtain rfl := List.mem_singleton.mp new
    exact counted

theorem Budgeted.enter (budgeted : Budgeted maximum uid past log) {entry : Entry}
    (spends : ∀ old new, entry.before = some old → entry.after = some new →
      new.spec.certificateRequestUID = uid → Spends maximum old.status new.status) :
    Budgeted maximum uid past (log ++ [entry]) := by
  refine ⟨budgeted.counted, fun other member => ?_⟩
  rcases List.mem_append.mp member with old | new
  · exact budgeted.spends other old
  · obtain rfl := List.mem_singleton.mp new
    exact spends

theorem counted_created (positive : 1 ≤ maximum) (record : CMPTransaction) (assigned : Assigned) :
    CountedWithin maximum (record.created assigned).status := by
  have bounded : (0 : Int) ≤ maximum := by omega
  exact ⟨le_rfl, bounded, fun _ => rfl, by rintro ⟨⟩⟩

end

section
variable {lib : Library} {subject : Subject} {cluster : Cluster} {sessions : List Session} {job : Job} {t : Trail}

/-- A status that a call writes into the stored record keeps the budget. -/
theorem Budgeted.writes {next : Except ApiError String → Go GoError Bytes} {written stored : CMPTransaction}
    (budgeted : Budgeted (transactionLimitsWithDefaults job.issuer.spec.transaction).maximumPolls subject.uid
      cluster.past cluster.log)
    (consistent : Consistent lib subject cluster sessions)
    (sized : job.issuer.spec.transaction.maximumPolls < 2 ^ 31)
    (path : Path (job.call lib) t (.op (.updateTransactionStatus written) next))
    (member : (contract lib).run (Session.begin job) t ∈ sessions) (found : cluster.slot = some stored)
    (current : written.resourceVersion = stored.resourceVersion) :
    CountedWithin (transactionLimitsWithDefaults job.issuer.spec.transaction).maximumPolls written.status ∧
      Spends (transactionLimitsWithDefaults job.issuer.spec.transaction).maximumPolls stored.status
        written.status := by
  have allowed := (sign_follows lib job).allows path
  have known := (consistent.updated member allowed found current "").1
  have own := (consistent.sound _ member).own stored known
  have same := congrArg Subject.uid (consistent.subject _ member)
  refine sign_counts path sized known (budgeted.counted stored (consistent.ordered.mem found) ?_)
  exact own.trans same

theorem Budgeted.act {o : Op} {next : o.Answer → Go GoError Bytes} {answer : o.Answer}
    {after : Option CMPTransaction} {thread : Nat}
    (budgeted : Budgeted (transactionLimitsWithDefaults job.issuer.spec.transaction).maximumPolls subject.uid
      cluster.past cluster.log)
    (consistent : Consistent lib subject cluster sessions)
    (sized : job.issuer.spec.transaction.maximumPolls < 2 ^ 31)
    (path : Path (job.call lib) t (.op o next))
    (member : (contract lib).run (Session.begin job) t ∈ sessions) (change : cluster.Change o after) :
    Budgeted (transactionLimitsWithDefaults job.issuer.spec.transaction).maximumPolls subject.uid
      (cluster.step thread ⟨o, answer⟩ after).past (cluster.step thread ⟨o, answer⟩ after).log := by
  unfold Cluster.step
  cases change with
  | keep =>
      rw [if_pos rfl]
      refine budgeted.enter fun old new before same _ => ?_
      cases before.symm.trans same
      exact .refl _ _
  | create record assigned free uid version =>
      rw [if_neg (by simp [free])]
      refine Budgeted.enter (budgeted.push fun _ => counted_created (maximumPolls_pos _) record assigned) ?_
      intro old new before
      cases free.symm.trans before
  | update written stored resourceVersion found current version =>
      obtain ⟨counted, spends⟩ := budgeted.writes consistent sized path member found current
      have changed : some (({ stored with status := written.status } : CMPTransaction).updated resourceVersion) ≠
          cluster.slot := by
        rw [found]
        intro unchanged
        exact version stored (consistent.ordered.mem found)
          (congrArg CMPTransaction.resourceVersion (Option.some.inj unchanged)).symm
      rw [if_neg changed]
      refine Budgeted.enter (budgeted.push fun _ => ?_) fun old new before same _ => ?_
      · exact ⟨counted.natural, counted.bounded, counted.unpolled, counted.spare⟩
      · cases found.symm.trans before
        cases same
        exact ⟨spends.exact_, spends.confirming⟩
  | delete key uid stored found incarnation =>
      rw [if_neg (by simp [found]), Option.toList_none, List.append_nil]
      refine budgeted.enter ?_
      rintro old new _ ⟨⟩

end

/-- The budget of every record of the request, in every state that a run reaches. -/
theorem IssuerRun.budgeted {lib : Library} {subject : Subject} {issuer : Issuer} {slot : Option CMPTransaction}
    {pool : Signers} (run : IssuerRun lib subject issuer slot pool) (unclaimed : Unclaimed subject slot)
    (sized : issuer.spec.transaction.maximumPolls < 2 ^ 31) :
    Budgeted (transactionLimitsWithDefaults issuer.spec.transaction).maximumPolls subject.uid pool.world.past
      pool.world.log := by
  refine (Pool.Reach.along (M := contract lib) Session.begin
    (J := fun cluster sessions => Consistent lib subject cluster sessions ∧
      Budgeted (transactionLimitsWithDefaults issuer.spec.transaction).maximumPolls subject.uid cluster.past
        cluster.log) ?_ ?_ ?_ ⟨.start unclaimed, ?_⟩ run).2
  · exact fun _ _ job wanted holds => ⟨holds.1.spawn wanted.1, holds.2⟩
  · rintro cluster sessions i job t o next answer _ ⟨wanted, rfl⟩ path ⟨consistent, budgeted⟩ thread _
      ⟨after, served, rfl⟩
    exact ⟨consistent.act thread ((sign_follows lib job).allows path) served,
      budgeted.act consistent sized path (List.mem_of_getElem? thread) (Cluster.ambiguous.change served)⟩
  · rintro cluster sessions _ ⟨consistent, budgeted⟩ disturbed
    refine ⟨consistent.interfere disturbed, ?_⟩
    cases disturbed with
    | delete => exact budgeted
    | recreate record assigned => exact budgeted.push fun _ => counted_created (maximumPolls_pos _) record assigned
  · refine ⟨fun record member own => ?_, by rintro _ ⟨⟩⟩
    exact absurd own (unclaimed record (Option.mem_toList.mp member)).2

/-- A confirmation in time and with a poll to spare is handed to the client. -/
theorem confirm_sends {lib : Library} {record : CMPTransaction} {limits : TransactionSpec} {t : Time}
    (inTime : t ≤ record.spec.deadline) (spare : record.status.polls < limits.maximumPolls)
    (enrollment : EnrollmentRequest) (leaf : Certificate) (rest : List Certificate) (pending : PendingTransaction) :
    ∃ next, Path (confirm lib record enrollment limits (leaf :: rest) pending) [⟨.now, t⟩]
      (.op (.call (.confirmP10CR ⟨enrollment, some leaf, pending.certReqID, pending.recipNonce,
        pending.responseSigner, pending.requestNonce⟩)) next) := by
  apply Exists.intro
  apply Path.step (S := interface) (o := .now) t
  change Path (if t > record.spec.deadline then _ else if _ then _ else _) [] _
  rw [if_neg (not_lt.mpr inTime), if_neg (not_le.mpr spare)]
  exact .refl _

/-- Over any run with one issuer: the counter of a record stays within the budget and is counted up exactly,
a record enters phase Confirming with a poll to spare, and the limit stops a confirmation only where a
certConf was answered already. -/
theorem poll_budget_kept {lib : Library} {subject : Subject} {issuer : Issuer} {slot : Option CMPTransaction}
    (unclaimed : Unclaimed subject slot) (sized : issuer.spec.transaction.maximumPolls < 2 ^ 31) {pool : Signers}
    (run : IssuerRun lib subject issuer slot pool) :
    let limits := transactionLimitsWithDefaults issuer.spec.transaction
    (∀ record ∈ pool.world.past, record.spec.certificateRequestUID = subject.uid →
      0 ≤ record.status.polls ∧ record.status.polls ≤ limits.maximumPolls) ∧
    (∀ entry ∈ pool.world.log, ∀ old new, entry.before = some old → entry.after = some new →
      new.spec.certificateRequestUID = subject.uid →
      (new.status.polls = old.status.polls ∨ new.status.polls = old.status.polls + 1) ∧
      (new.status.phase = .confirming → old.status.phase ≠ .confirming →
        new.status.polls < limits.maximumPolls)) ∧
    ∀ thread ∈ pool.threads, ∀ hold,
      ((contract lib).run (Session.begin thread.job) thread.trace).stage.hold? = some hold →
      hold.record.status.phase = .confirming →
      (limits.maximumPolls ≤ hold.record.status.polls → hold.record.status.requestNonce ≠ []) ∧
      (hold.record.status.requestNonce = [] → ∀ enrollment leaf rest pending t,
        t ≤ hold.record.spec.deadline → ∃ next,
          Path (confirm lib hold.record enrollment limits (leaf :: rest) pending) [⟨.now, t⟩]
            (.op (.call (.confirmP10CR ⟨enrollment, some leaf, pending.certReqID, pending.recipNonce,
              pending.responseSigner, pending.requestNonce⟩)) next)) := by
  intro limits
  have budgeted := run.budgeted unclaimed sized
  have consistent := run.shared.consistent unclaimed
  refine ⟨fun record member own => ?_, fun entry member old new before after own => ?_, ?_⟩
  · have counted := budgeted.counted record member own
    exact ⟨counted.natural, counted.bounded⟩
  · have spends := budgeted.spends entry member old new before after own
    exact ⟨spends.exact_, spends.confirming⟩
  · intro thread member hold stage phase
    have session : thread.watched (contract lib) Session.begin ∈ pool.sessions lib := List.mem_map_of_mem member
    have known := Stage.record_of_hold stage
    have stored := consistent.stored _ session _ (Stage.knows_of_record known)
    have own := ((consistent.sound _ session).own _ known).trans
      (congrArg Subject.uid (consistent.subject _ session))
    have spare := (budgeted.counted _ stored own).spare phase
    refine ⟨fun used unanswered => absurd (spare unanswered) (not_lt.mpr used), ?_⟩
    intro unanswered enrollment leaf rest pending t inTime
    exact confirm_sends inTime (spare unanswered) enrollment leaf rest pending

/-- A delayed enrollment, its certificate and a delayed certConf. -/
theorem poll_budget_kept_delayed : ∃ pool record, IssuerRun plainLibrary plainJob.subject plainIssuer none pool ∧
    pool.world.slot = some record ∧ record.status.phase = .confirming ∧ record.status.requestNonce ≠ [] ∧
    record.status.polls ≤ (transactionLimitsWithDefaults plainIssuer.spec.transaction).maximumPolls := by
  let d := plainDeployment none [plainReply 4 [9], plainReply 2 [9], plainReply 5 [9, 9, 9, 9]]
  have run : IssuerRun plainLibrary plainJob.subject plainIssuer none (d.pool plainLibrary plainJob 40 2) :=
    Pool.Reach.mono (d.pool_reach plainLibrary plainJob 40 2 ⟨rfl, rfl⟩) (fun _ _ _ _ _ acted => acted)
      (fun _ _ disturbed => disturbed.elim) fun _ _ _ => trivial
  obtain ⟨record, found, past, own, phase, answered⟩ : ∃ record,
      (d.pool plainLibrary plainJob 40 2).world.slot = some record ∧
      record ∈ (d.pool plainLibrary plainJob 40 2).world.past ∧
      record.spec.certificateRequestUID = plainJob.subject.uid ∧ record.status.phase = .confirming ∧
      record.status.requestNonce ≠ [] := by
    refine ⟨(d.pool plainLibrary plainJob 40 2).world.slot.get (by decide +kernel), ?_, ?_, ?_, ?_, ?_⟩ <;>
      decide +kernel
  have kept := poll_budget_kept (by rintro _ ⟨⟩) (by decide) run
  exact ⟨_, record, run, found, phase, answered, (kept.1 record past own).2⟩

end CmpIssuer
