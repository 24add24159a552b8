import CmpIssuer.Guarantee.Replica
import CmpIssuer.Session.Timing

/-!
How long a transaction lives. The deadline is written once, by the call that
creates the record, and every later call for the CertificateRequest observes it:
whatever the interleaving, no call starts on a message once the longest duration
that the issuer allows has passed since the creating call read the clock.
-/
namespace CmpIssuer
open Effect

/-- The monitor that keeps a call and what it has done, and holds the call to its times. -/
def diary : Monitor interface (Job × Trail) where
  allows entry o := (timing entry.1).allows entry.2 o
  next entry o answer := (entry.1, entry.2 ++ [⟨o, answer⟩])

/-- A call of the run has created the record, with a deadline that the issuer of that call allows. -/
def Expires (diaries : List (Job × Trail)) (record : CMPTransaction) : Prop :=
  ∃ entry ∈ diaries, ∃ made answer, (⟨.createTransaction made, answer⟩ : Event interface) ∈ entry.2 ∧
    Bounded entry.1 entry.2 made ∧ record.spec.transactionID = made.spec.transactionID ∧
    record.spec.deadline ≤ made.spec.deadline

/-- Every version of the record expires. -/
structure Limited (subject : Subject) (cluster : Cluster) (diaries : List (Job × Trail)) : Prop where
  current : ∀ record, cluster.slot = some record → record ∈ cluster.past
  expires : ∀ record ∈ cluster.past, record.spec.certificateRequestUID = subject.uid → Expires diaries record

section
variable {lib : Library} {subject : Subject} {cluster : Cluster} {diaries : List (Job × Trail)}
  {entry : Job × Trail} {record : CMPTransaction} {i : Nat} {o : Op} {answer : o.Answer}

theorem sign_diary (lib : Library) (job : Job) : Follows diary (fun _ _ => True) (job, []) (job.call lib) := by
  have related : Follows diary _ (job, []) (job.call lib) :=
    (sign_timed lib job).simulate (R := fun t entry => entry = (job, t)) (by
      rintro t _ o rfl allowed
      exact ⟨allowed, fun _ => rfl⟩) rfl
  exact related.mono fun _ _ _ => trivial

theorem diary_run (job : Job) (t u : Trail) : diary.run (job, t) u = (job, t ++ u) := by
  induction u generalizing t with
  | nil => simp [Monitor.run]
  | cons e u ih =>
      rw [Monitor.run_cons]
      exact (ih _).trans (by rw [List.append_assoc]; rfl)

theorem Bounded.mono {job : Job} {t u : Trail} (h : Bounded job t record) (seen : t ⊆ u) : Bounded job u record := by
  obtain ⟨instant, read, deadline⟩ := h
  exact ⟨instant, seen read, deadline⟩

theorem Expires.act (expires : Expires diaries record) (thread : diaries[i]? = some entry) :
    Expires (diaries.set i (diary.next entry o answer)) record := by
  obtain ⟨other, member, made, report, creates, bounded, terms⟩ := expires
  obtain ⟨j, found⟩ := List.getElem?_of_mem member
  have within : i < diaries.length := (List.getElem?_eq_some_iff.mp thread).1
  by_cases same : i = j
  · subst same
    cases thread.symm.trans found
    have seen : entry.2 ⊆ (diary.next entry o answer).2 := List.subset_append_left _ _
    exact ⟨_, List.mem_set within _, made, report, seen creates, bounded.mono seen, terms⟩
  · refine ⟨other, List.mem_of_getElem? (i := j) ?_, made, report, creates, bounded, terms⟩
    rw [List.getElem?_set_ne same, found]

/-- The version that an operation stores. A new record has the deadline of its call, a new status keeps the
deadline. -/
theorem Limited.stored (limited : Limited subject cluster diaries) (thread : diaries[i]? = some entry)
    (allowed : diary.allows entry o) (change : cluster.Change o (some record))
    (own : record.spec.certificateRequestUID = subject.uid) :
    Expires (diaries.set i (diary.next entry o answer)) record := by
  generalize stored : some record = after at change
  cases change with
  | keep => exact (limited.expires record (limited.current record stored.symm) own).act thread
  | delete => cases stored
  | create made assigned =>
      cases stored
      have within : i < diaries.length := (List.getElem?_eq_some_iff.mp thread).1
      have bounded : Bounded entry.1 entry.2 made := allowed
      exact ⟨_, List.mem_set within _, made, answer, List.mem_append_right _ List.mem_cons_self,
        bounded.mono (List.subset_append_left _ _), rfl, Time.truncate_le _⟩
  | update written old resourceVersion found =>
      cases stored
      obtain ⟨other, member, made, report, creates, bounded, same, deadline⟩ :=
        (limited.expires old (limited.current old found) own).act thread
      exact ⟨other, member, made, report, creates, bounded, same, (Time.truncate_le _).trans deadline⟩

theorem Limited.act (limited : Limited subject cluster diaries) (thread : diaries[i]? = some entry)
    (allowed : diary.allows entry o) {after : Option CMPTransaction} (served : cluster.ambiguous o answer after) :
    Limited subject (cluster.step i ⟨o, answer⟩ after) (diaries.set i (diary.next entry o answer)) where
  current := by
    intro record found
    unfold Cluster.step at found ⊢
    dsimp only at found ⊢
    split
    · rename_i kept
      exact limited.current record (kept ▸ found)
    · exact List.mem_append_right _ (Option.mem_toList.mpr found)
  expires := by
    intro record member own
    rcases Cluster.mem_past_step member with old | rfl
    · exact (limited.expires record old own).act thread
    · exact limited.stored thread allowed (Cluster.ambiguous.change served) own

theorem SoleRun.limited {slot : Option CMPTransaction} {pool : Signers} (run : SoleRun lib subject slot pool)
    (unclaimed : Unclaimed subject slot) :
    Limited subject pool.world (pool.threads.map (Thread.watched diary fun job => (job, []))) := by
  refine Pool.Reach.invariant (J := Limited subject) (fun job _ => sign_diary lib job) ?_ ?_ ?_ ?_ run
  · intro cluster diaries job _ limited
    refine ⟨limited.current, fun record member own => ?_⟩
    obtain ⟨entry, known, rest⟩ := limited.expires record member own
    exact ⟨entry, List.mem_append_left _ known, rest⟩
  · rintro cluster diaries i entry o answer _ limited thread _ allowed ⟨after, served, rfl⟩
    exact limited.act thread allowed served
  · exact fun _ _ _ _ disturbed => disturbed.elim
  · refine ⟨fun record found => Option.mem_toList.mpr found, fun record member own => ?_⟩
    exact absurd own (unclaimed record (Option.mem_toList.mp member)).2

end

/-- Calls for one CertificateRequest in any interleaving: the request that a message is sent for was handed
over no later than the issuer of the call that created the record allows from a clock reading of that call
on. -/
theorem messages_within_lifetime {lib : Library} (laws : MessageLaws lib) {subject : Subject}
    {slot : Option CMPTransaction} (unclaimed : Unclaimed subject slot) {pool : Signers}
    (run : SoleRun lib subject slot pool) {thread : Thread interface (Fault GoError) Bytes Job}
    (member : thread ∈ pool.threads) {sent : HTTPRequest} {next : HTTPAnswer → Go GoError Bytes}
    (sends : thread.program = .op (.send sent) next) :
    ∃ before instant call later record, thread.trace = before ++ ⟨.now, instant⟩ :: ⟨.call call, ()⟩ :: later ∧
      (∀ e ∈ later, callHanded e = none) ∧ SentFor lib thread.trace call.request (call.speaks lib) sent ∧
      record ∈ pool.world.past ∧ record.spec.certificateRequestUID = subject.uid ∧
      (record.spec.transactionID ≠ [] → sent.message.header.transactionID = record.spec.transactionID) ∧
      ∃ creator ∈ pool.threads, ∃ made answer, (⟨.createTransaction made, answer⟩ : Event interface) ∈ creator.trace ∧
        record.spec.transactionID = made.spec.transactionID ∧
        ∃ created : Time, (⟨.now, created⟩ : Event interface) ∈ creator.trace ∧ made.spec.deadline =
          created + (transactionLimitsWithDefaults creator.job.issuer.spec.transaction).maximumDuration ∧
          instant ≤ made.spec.deadline := by
  obtain ⟨session, path⟩ := run.shared.session member
  rw [sends] at path
  obtain ⟨hold, call, serving, sentFor⟩ := Sends.serving ((sign_follows lib thread.job).allows path)
  obtain ⟨past, own, _⟩ := (run.shared.consistent unclaimed).held session (Stage.hold_of_serving serving)
  obtain ⟨before, later, passed, quiet, hands, _⟩ := (sign_sound path).handed hold call serving
  simp only [contract_run_job, contract_run_trail, Session.begin_job, Session.begin_trail,
    List.nil_append] at passed hands sentFor
  obtain ⟨instant, last, inTime⟩ := hands.inTime
  obtain ⟨earlier, rfl⟩ := List.getLast?_eq_some_iff.mp last
  obtain ⟨_, known, made, report, creates, ⟨created, read, limit⟩, same, deadline⟩ :=
    (run.limited unclaimed).expires hold.record past own
  obtain ⟨creator, calls, rfl⟩ := List.mem_map.mp known
  rw [Thread.watched, diary_run] at creates read limit
  have sameID : call.request.transactionID = hold.record.spec.transactionID :=
    call.request_transactionID.trans hands.enrolls.transactionID
  refine ⟨earlier, instant, call, later, hold.record, by simpa using passed, quiet, sentFor, past, own,
    fun identified => ?_, creator, calls, made, report, creates, same, created, read,
    limit, inTime.trans deadline⟩
  exact ((sentFor.message laws).2.1 (sameID ▸ identified)).trans sameID

/-- Two overlapping calls: the second sends a message under the record that the first has created. -/
theorem messages_within_lifetime_overlapping : ∃ pool first second sent next,
    SoleRun plainLibrary plainJob.subject none pool ∧ pool.threads = [first, second] ∧
    first.program.outcome? = none ∧ second.program = .op (.send sent) next ∧
    ∃ instant created : Time, (⟨.now, instant⟩ : Event interface) ∈ second.trace ∧
      (⟨.now, created⟩ : Event interface) ∈ first.trace ∧
      instant ≤ created + (transactionLimitsWithDefaults plainIssuer.spec.transaction).maximumDuration := by
  let d := plainDeployment none [plainReply 2 [9], plainReply 3 [9, 9]]
  let pool := d.overlap plainLibrary plainJob 15 7 1
  have run : SoleRun plainLibrary plainJob.subject none pool := d.overlap_run plainLibrary plainJob 15 7 1 rfl
  obtain ⟨first, second, threads, unfinished, sends, resumes⟩ : ∃ first second, pool.threads = [first, second] ∧
      first.program.outcome? = none ∧ (second.program.next?.bind Op.message?).isSome = true ∧
      second.trace.all (fun e => !e.op.creates) = true :=
    ⟨_, _, rfl, by decide +kernel, by decide +kernel, by decide +kernel⟩
  obtain ⟨sent, named⟩ := Option.isSome_iff_exists.mp sends
  obtain ⟨o, next, message⟩ := Option.bind_eq_some_iff.mp named
  obtain rfl := Op.eq_send message
  obtain ⟨rest, program⟩ := Program.exists_op_of_next next
  have member : second ∈ pool.threads := by rw [threads]; exact .tail _ (.head _)
  obtain ⟨before, instant, call, later, _, passed, _, _, _, _, _, creator, calls, _, _, creates, _, created, read,
    limit, bound⟩ := messages_within_lifetime plainLibrary_message (by rintro _ ⟨⟩) run member program
  rw [threads] at calls
  have clock : (⟨.now, instant⟩ : Event interface) ∈ second.trace :=
    passed ▸ List.mem_append_right _ List.mem_cons_self
  rcases List.mem_pair.mp calls with rfl | rfl
  · have jobs : pool.threads.map (·.job) = [plainJob, plainJob] := rfl
    rw [threads, List.map_cons, List.cons.injEq] at jobs
    rw [jobs.1] at limit
    exact ⟨pool, creator, second, sent, rest, run, threads, unfinished, program, instant, created, clock, read,
      limit ▸ bound⟩
  · -- The second call has created no record.
    have uncreated := List.all_eq_true.mp resumes _ creates
    cases uncreated

end CmpIssuer
