import CmpIssuer.Cluster.Deployment
import CmpIssuer.Cluster.Sequence

/-!
A record is issued once. Whatever calls for one CertificateRequest do in any
interleaving, at most one status update takes an incarnation of its record to
the phase Issued, and no later one takes it elsewhere.
-/
namespace CmpIssuer
open Effect

/-- The incarnation that an operation records as issued: a status update that is answered with success, or
takes effect although its answer is an error. -/
def Entry.issues? (entry : Entry) : Option String :=
  match entry.event with
  | ⟨.updateTransactionStatus written, answer⟩ =>
      if written.status.phase = .issued ∧ (Except.isOk answer = true ∨ entry.after ≠ entry.before) then
        some written.uid
      else none
  | _ => none

/-- The incarnations that were recorded as issued, in the order of the updates. -/
def Cluster.issued (cluster : Cluster) : List String := cluster.log.filterMap Entry.issues?

/-- No incarnation is issued twice, and the one that was has a version that says so. -/
structure IssuedOnce (cluster : Cluster) : Prop where
  once : cluster.issued.Nodup
  stored : ∀ uid ∈ cluster.issued, ∃ record ∈ cluster.past, record.uid = uid ∧ record.status.phase = .issued

section
variable {lib : Library} {subject : Subject} {cluster : Cluster} {sessions : List Session} {session : Session}

theorem Cluster.issued_step (cluster : Cluster) (thread : Nat) (event : Event interface)
    (after : Option CMPTransaction) :
    (cluster.step thread event after).issued =
      cluster.issued ++ (Entry.issues? ⟨thread, event, cluster.slot, after⟩).toList := by
  unfold Cluster.issued Cluster.step
  rw [List.filterMap_append]
  cases issues : Entry.issues? ⟨thread, event, cluster.slot, after⟩ <;> simp [issues]

theorem Writes.unissued {written : CMPTransaction} (sound : Sound lib session)
    (writes : Writes lib session written) (phase : written.status.phase = .issued) :
    ∃ old, session.stage.record? = some old ∧ old.status.phase ≠ .issued := by
  rcases writes with ⟨old, t, _, rfl⟩ | ⟨hold, exchange, status, stage, _, rfl⟩
  · cases phase
  · obtain ⟨_, _, _, _, hands, _⟩ := sound.handed hold exchange.call (by rw [stage]; rfl)
    exact ⟨hold.record, by rw [stage]; rfl, hands.phase.unissued⟩

/-- What the operation found and left that records an incarnation as issued. -/
theorem Consistent.issues (consistent : Consistent lib subject cluster sessions) {i : Nat}
    (thread : sessions[i]? = some session) {o : Op} {answer : o.Answer} {after : Option CMPTransaction}
    (allowed : (contract lib).allows session o) (served : cluster.ambiguous o answer after) {uid : String}
    (issues : Entry.issues? ⟨i, ⟨o, answer⟩, cluster.slot, after⟩ = some uid) :
    ∃ stored record, cluster.slot = some stored ∧ stored.uid = uid ∧ stored.status.phase ≠ .issued ∧
      after = some record ∧ record.uid = uid ∧ record.status.phase = .issued := by
  have member := List.mem_of_getElem? thread
  unfold Entry.issues? at issues
  split at issues
  case h_2 => cases issues
  case h_1 written answer' same =>
      cases same
      split at issues
      case isFalse => cases issues
      case isTrue effective =>
          obtain ⟨phase, effective⟩ := effective
          cases issues
          obtain ⟨old, known, unissued⟩ := Writes.unissued (consistent.sound session member) allowed phase
          obtain ⟨stored, resourceVersion, found, current, rfl⟩ : ∃ stored resourceVersion,
              cluster.slot = some stored ∧ written.resourceVersion = stored.resourceVersion ∧
              after = some (({ stored with status := written.status } : CMPTransaction).updated
                resourceVersion) := by
            cases Cluster.ambiguous.change served with
            | update _ stored resourceVersion found current => exact ⟨stored, resourceVersion, found, current, rfl⟩
            | keep =>
                rcases effective with success | changed
                · cases answer' with
                  | error => cases success
                  | ok resourceVersion =>
                      obtain ⟨stored, found, _, current, _, after⟩ :=
                        Cluster.ambiguous.serves served (by rintro ⟨⟩)
                      exact ⟨stored, resourceVersion, found, current, after⟩
                · exact absurd rfl changed
          obtain ⟨held, same⟩ := consistent.updated member allowed found current resourceVersion
          obtain ⟨old', _, known', forward, _⟩ := consistent.forward member allowed
          cases known.symm.trans held
          cases known'.symm.trans held
          rw [same]
          exact ⟨_, _, found, (congrArg CMPTransaction.uid forward).symm, unissued, rfl, rfl, phase⟩

theorem IssuedOnce.act (holds : IssuedOnce cluster) (consistent : Consistent lib subject cluster sessions)
    {i : Nat} (thread : sessions[i]? = some session) {o : Op} {answer : o.Answer}
    {after : Option CMPTransaction} (allowed : (contract lib).allows session o)
    (served : cluster.ambiguous o answer after) : IssuedOnce (cluster.step i ⟨o, answer⟩ after) := by
  cases issues : Entry.issues? ⟨i, ⟨o, answer⟩, cluster.slot, after⟩ with
  | none =>
      have same : (cluster.step i ⟨o, answer⟩ after).issued = cluster.issued := by
        rw [Cluster.issued_step, issues, Option.toList_none, List.append_nil]
      refine ⟨same ▸ holds.once, fun uid member => ?_⟩
      rw [same] at member
      obtain ⟨record, past, known⟩ := holds.stored uid member
      exact ⟨record, Cluster.past_subset_step past, known⟩
  | some uid =>
      have more : (cluster.step i ⟨o, answer⟩ after).issued = cluster.issued ++ [uid] := by
        rw [Cluster.issued_step, issues, Option.toList_some]
      obtain ⟨stored, record, found, owner, unissued, rfl, same, phase⟩ :=
        consistent.issues thread allowed served issues
      have unseen : uid ∉ cluster.issued := by
        -- The stored version is the last of its incarnation, so no earlier one says Issued.
        intro seen
        obtain ⟨earlier, past, incarnation, issued⟩ := holds.stored uid seen
        have advances := consistent.ordered.latest found past (incarnation.trans owner.symm)
        have late := advances.phase
        rw [issued] at late
        exact unissued (Phase.eq_issued late)
      refine ⟨?_, ?_⟩
      · rw [more]
        exact List.nodup_append.mpr ⟨holds.once, List.nodup_singleton _, by
          rintro other member _ last rfl
          exact unseen (List.mem_singleton.mp last ▸ member)⟩
      · intro other member
        rw [more] at member
        rcases List.mem_append.mp member with before | last
        · obtain ⟨known, past, reads⟩ := holds.stored other before
          exact ⟨known, Cluster.past_subset_step past, reads⟩
        · obtain rfl := List.mem_singleton.mp last
          exact ⟨record, consistent.ordered.mem_step, same, phase⟩

theorem IssuedOnce.interfere (holds : IssuedOnce cluster) {cluster' : Cluster}
    (disturbed : cluster.Interferes cluster') : IssuedOnce cluster' := by
  cases disturbed with
  | delete => exact ⟨holds.once, holds.stored⟩
  | recreate =>
      refine ⟨holds.once, fun uid member => ?_⟩
      obtain ⟨record, past, reads⟩ := holds.stored uid member
      exact ⟨record, List.mem_append_left _ past, reads⟩

theorem SharedRun.issuedOnce {slot : Option CMPTransaction} {pool : Signers}
    (run : SharedRun lib subject slot pool) (unclaimed : Unclaimed subject slot) : IssuedOnce pool.world := by
  refine (Pool.Reach.invariant (J := fun cluster sessions => Consistent lib subject cluster sessions ∧
    IssuedOnce cluster) (fun job _ => sign_follows lib job) ?_ ?_ ?_
    ⟨.start unclaimed, List.nodup_nil, by rintro _ ⟨⟩⟩ run).2
  · exact fun _ _ job wanted holds => ⟨holds.1.spawn wanted, holds.2⟩
  · rintro _ _ i session o answer _ ⟨consistent, once⟩ thread _ allowed ⟨after, served, rfl⟩
    exact ⟨consistent.act thread allowed served, once.act consistent thread allowed served⟩
  · exact fun _ _ _ holds disturbed => ⟨holds.1.interfere disturbed, holds.2.interfere disturbed⟩

/-- What a call has done is in the log under its number. -/
theorem SharedRun.logged {slot : Option CMPTransaction} {pool : Signers} (run : SharedRun lib subject slot pool) :
    ∀ i thread, pool.threads[i]? = some thread → ∀ e ∈ thread.trace,
      ∃ entry ∈ pool.world.log, entry.thread = i ∧ entry.event = e := by
  induction run with
  | init => simp
  | step reached next ih =>
      cases next with
      | @spawn cluster threads job wanted =>
          intro i thread found e member
          rcases lt_or_ge i threads.length with old | new
          · rw [List.getElem?_append_left old] at found
            exact ih i thread found e member
          · rw [List.getElem?_append_right new] at found
            obtain rfl := List.mem_singleton.mp (List.mem_of_getElem? found)
            cases member
      | @act cluster _ threads j job t o next answer acting ready acted =>
          obtain ⟨after, _, rfl⟩ := acted
          intro i thread found e member
          have kept : (∃ entry ∈ cluster.log, entry.thread = i ∧ entry.event = e) →
              ∃ entry ∈ (cluster.step j ⟨o, answer⟩ after).log, entry.thread = i ∧ entry.event = e := by
            rintro ⟨entry, before, same⟩
            exact ⟨entry, List.mem_append_left _ before, same⟩
          by_cases mine : j = i
          · subst mine
            rw [List.getElem?_set_self (List.getElem?_eq_some_iff.mp acting).1] at found
            cases found
            rcases List.mem_append.mp member with before | last
            · exact kept (ih j _ acting e before)
            · obtain rfl := List.mem_singleton.mp last
              exact ⟨_, List.mem_append_right _ List.mem_cons_self, rfl, rfl⟩
          · rw [List.getElem?_set_ne mine] at found
            exact kept (ih i thread found e member)
      | outside disturbed =>
          cases disturbed with
          | delete => exact ih
          | recreate => exact ih

theorem eq_of_nodup_filterMap {α β : Type} {f : α → Option β} {l : List α} (nodup : (l.filterMap f).Nodup)
    {a b : α} {c : β} (first : a ∈ l) (second : b ∈ l) (image : f a = some c) (image' : f b = some c) :
    a = b := by
  induction l with
  | nil => cases first
  | cons x l ih =>
      rw [List.filterMap_cons] at nodup
      have seen : ∀ d, d ∈ l → f d = some c → c ∈ l.filterMap f := fun d member image =>
        List.mem_filterMap.mpr ⟨d, member, image⟩
      rcases List.mem_cons.mp first with rfl | former <;> rcases List.mem_cons.mp second with rfl | latter
      · rfl
      · rw [image] at nodup
        exact absurd (seen b latter image') (List.nodup_cons.mp nodup).1
      · rw [image'] at nodup
        exact absurd (seen a former image) (List.nodup_cons.mp nodup).1
      · refine ih ?_ former latter
        cases same : f x <;> rw [same] at nodup
        · exact nodup
        · exact (List.nodup_cons.mp nodup).2

/-- A call that was told that it recorded an incarnation as issued. -/
def RecordsIssued (t : Trail) (uid : String) : Prop :=
  ∃ (written : CMPTransaction) (resourceVersion : String),
    (⟨.updateTransactionStatus written, .ok resourceVersion⟩ : Event interface) ∈ t ∧
    written.status.phase = .issued ∧ written.uid = uid

theorem RecordsIssued.entry {slot : Option CMPTransaction} {pool : Signers}
    (run : SharedRun lib subject slot pool) {i : Nat} {thread : Thread interface (Fault GoError) Bytes Job}
    (found : pool.threads[i]? = some thread) {uid : String} (records : RecordsIssued thread.trace uid) :
    ∃ entry ∈ pool.world.log, entry.thread = i ∧ entry.issues? = some uid := by
  obtain ⟨written, resourceVersion, member, phase, rfl⟩ := records
  obtain ⟨⟨_, _, before, after⟩, logged, rfl, rfl⟩ := run.logged i thread found _ member
  exact ⟨_, logged, rfl, if_pos ⟨phase, .inl rfl⟩⟩

/-- No two calls record the same incarnation as issued. -/
theorem SharedRun.apart {slot : Option CMPTransaction} {pool : Signers} (run : SharedRun lib subject slot pool)
    (unclaimed : Unclaimed subject slot) :
    pool.threads.Pairwise fun a b => ∀ uid, RecordsIssued a.trace uid → ¬ RecordsIssued b.trace uid := by
  refine List.pairwise_iff_getElem.mpr fun i j bound bound' less uid first second => ?_
  obtain ⟨entry, logged, rfl, issues⟩ := first.entry run (List.getElem?_eq_getElem bound)
  obtain ⟨entry', logged', rfl, issues'⟩ := second.entry run (List.getElem?_eq_getElem bound')
  cases eq_of_nodup_filterMap (run.issuedOnce unclaimed).once logged logged' issues issues'
  exact Nat.lt_irrefl _ less

end

/-- Calls for one CertificateRequest in any interleaving, with writes that take effect although they
report an error: each incarnation of the record is recorded as issued at most once, and where it is still
stored after that it is stored as issued. -/
theorem record_issued_once {lib : Library} {subject : Subject} {slot : Option CMPTransaction}
    (unclaimed : Unclaimed subject slot) {pool : Signers} (run : SharedRun lib subject slot pool) :
    pool.world.issued.Nodup ∧ ∀ stored, pool.world.slot = some stored → stored.uid ∈ pool.world.issued →
      stored.status.phase = .issued := by
  have holds := run.issuedOnce unclaimed
  refine ⟨holds.once, fun stored found member => ?_⟩
  obtain ⟨record, past, incarnation, issued⟩ := holds.stored _ member
  have late := ((run.consistent unclaimed).ordered.latest found past incarnation).phase
  rw [issued] at late
  exact Phase.eq_issued late

/-- Two calls one after the other, the first of which issues. -/
theorem record_issued_once_again : ∃ pool uid, SharedRun plainLibrary plainJob.subject none pool ∧
    pool.threads.length = 2 ∧ pool.world.issued = [uid] ∧ pool.world.issued.Nodup := by
  obtain ⟨d, issued, initial⟩ : ∃ d : Deployment,
      (d.pool plainLibrary plainJob 40 2).world.issued.length = 1 ∧ d.cluster = .start none :=
    ⟨plainDeployment none [plainReply 2 [9], plainReply 3 [9, 9]], by decide +kernel, rfl⟩
  have run := (d.pool_run plainLibrary plainJob 40 2 initial).shared
  obtain ⟨uid, only⟩ := List.length_eq_one_iff.mp issued
  exact ⟨_, uid, run, rfl, only, (record_issued_once (by rintro _ ⟨⟩) run).1⟩

end CmpIssuer
