import CmpIssuer.Guarantee.Replica
import Mathlib.Data.List.DropRight

/-!
Overlapping `Sign` calls and the chain that one of them has stored. A status
update counts only at the version it was made from, but a delete only names the
incarnation. So a call that still works from an earlier version removes what
another one has recorded since, and this file says exactly when that cannot
happen.
-/
namespace CmpIssuer
open Effect

/-- The record as an operation has shown or left it. -/
def recordShown : Event interface → Option CMPTransaction
  | ⟨.getTransaction _, .ok record⟩ => some record
  | ⟨.createTransaction record, .ok assigned⟩ => some (record.created assigned)
  | ⟨.updateTransactionStatus record, .ok resourceVersion⟩ => some (record.updated resourceVersion)
  | _ => none

/-- The record that a call works from: as it was last read, created or written. -/
def workingCopy (t : Trail) : Option CMPTransaction := t.reverse.findSome? recordShown

theorem workingCopy_concat (t : Trail) (e : Event interface) :
    workingCopy (t ++ [e]) = (recordShown e).or (workingCopy t) := by
  cases shown : recordShown e <;> simp [workingCopy, shown]

/-- A session knows the record its call works from. -/
theorem sign_workingCopy {lib : Library} {job : Job} {t : Trail} {p : Go GoError Bytes}
    (path : Path (sign lib job.clusterResourceNamespace job.request job.issuer) t p) {record : CMPTransaction}
    (known : ((contract lib).run (Session.begin job) t).stage.knows = some record) :
    workingCopy t = some record := by
  have kept := (sign_follows lib job).keeps (I := fun session => ∀ record,
    session.stage.knows = some record → workingCopy session.trail = some record) ?_ path (by rintro _ ⟨⟩)
  · simpa using kept record known
  · intro session o answer knows _ record known
    rw [contract_next_trail, workingCopy_concat]
    rcases Stage.next_knows known with ⟨_, event⟩ | ⟨_, _, event, rfl⟩ | ⟨_, _, event, rfl⟩ | ⟨quiet, before⟩
    · rw [event]
      rfl
    · rw [event]
      rfl
    · rw [event]
      rfl
    · rw [knows record before]
      cases o <;> first | rfl | cases quiet

/-- The records of other CertificateRequests have one version each. -/
def Cluster.Untouched (uid : String) (cluster : Cluster) : Prop :=
  ∀ first ∈ cluster.past, ∀ second ∈ cluster.past, first.uid = second.uid →
    first.spec.certificateRequestUID ≠ uid → first = second

section
variable {lib : Library} {subject : Subject} {cluster : Cluster} {sessions : List Session} {uid : String}

theorem Cluster.Untouched.push (untouched : cluster.Untouched uid) {record : CMPTransaction}
    (owned : ∀ old ∈ cluster.past, old.uid = record.uid →
      old.spec.certificateRequestUID = uid ∧ record.spec.certificateRequestUID = uid)
    {slot : Option CMPTransaction} {log : List Entry} :
    Cluster.Untouched uid ⟨slot, cluster.past ++ [record], log⟩ := by
  intro first member second member' same foreign
  rcases List.mem_append.mp member with old | new
  · rcases List.mem_append.mp member' with old' | new'
    · exact untouched first old second old' same foreign
    · obtain rfl := List.mem_singleton.mp new'
      exact absurd (owned first old same).1 foreign
  · obtain rfl := List.mem_singleton.mp new
    rcases List.mem_append.mp member' with old' | new'
    · exact absurd (owned second old' same.symm).2 foreign
    · exact (List.mem_singleton.mp new').symm

theorem Cluster.Untouched.pushCreated (untouched : cluster.Untouched uid) {record : CMPTransaction}
    {assigned : Assigned} (fresh : cluster.freshUID assigned.uid) {slot : Option CMPTransaction}
    {log : List Entry} : Cluster.Untouched uid ⟨slot, cluster.past ++ [record.created assigned], log⟩ :=
  untouched.push fun old member same => absurd same (fresh.2 old member)

theorem Cluster.Untouched.act (untouched : cluster.Untouched subject.uid)
    (consistent : Consistent lib subject cluster sessions) {i : Nat} {session : Session}
    (thread : sessions[i]? = some session) {o : Op} {answer : o.Answer} {after : Option CMPTransaction}
    (allowed : (contract lib).allows session o) (change : cluster.Change o after) :
    (cluster.step i ⟨o, answer⟩ after).Untouched subject.uid := by
  unfold Cluster.step
  split
  · exact untouched
  · rename_i changed
    cases change with
    | keep => exact absurd rfl changed
    | create record assigned _ fresh => exact untouched.pushCreated fresh
    | update written stored resourceVersion found current =>
        have member := List.mem_of_getElem? thread
        obtain ⟨known, _⟩ := consistent.updated member allowed found current resourceVersion
        have own : stored.spec.certificateRequestUID = subject.uid :=
          ((consistent.sound session member).own stored known).trans
            (congrArg Subject.uid (consistent.subject session member))
        refine untouched.push fun old past same => ?_
        exact ⟨(consistent.ordered.latest found past same).owner.symm.trans own, own⟩
    | delete =>
        rw [Option.toList_none, List.append_nil]
        exact untouched

end

section
variable {lib : Library} {subject : Subject} {slot : Option CMPTransaction} {pool : Signers}

/-- Over any run the calls leave the records of other CertificateRequests as they are. -/
theorem SharedRun.untouched (run : SharedRun lib subject slot pool) (unclaimed : Unclaimed subject slot) :
    pool.world.Untouched subject.uid := by
  refine (Pool.Reach.invariant (J := fun cluster sessions => Consistent lib subject cluster sessions ∧
    cluster.Untouched subject.uid) (fun job _ => sign_follows lib job) ?_ ?_ ?_ ⟨.start unclaimed, ?_⟩ run).2
  · exact fun _ _ job wanted holds => ⟨holds.1.spawn wanted, holds.2⟩
  · rintro _ _ i session o answer _ ⟨consistent, untouched⟩ thread _ allowed ⟨after, served, rfl⟩
    exact ⟨consistent.act thread allowed served,
      untouched.act consistent thread allowed (Cluster.ambiguous.change served)⟩
  · rintro _ _ _ ⟨consistent, untouched⟩ disturbed
    refine ⟨consistent.interfere disturbed, ?_⟩
    cases disturbed with
    | delete => exact untouched
    | recreate record assigned free uid version => exact untouched.pushCreated uid
  · cases slot with
    | none => rintro _ ⟨⟩
    | some record =>
        intro first member second member' _ _
        rw [List.mem_singleton.mp member, List.mem_singleton.mp member']

/-- A call that is about to delete has an earlier version of the incarnation that the delete removes. -/
theorem SharedRun.deleting (run : SharedRun lib subject slot pool) (unclaimed : Unclaimed subject slot) {i : Nat}
    {thread : Thread interface (Fault GoError) Bytes Job} (call : pool.threads[i]? = some thread)
    {key : NamespacedName} {uid : Option String} {next : Except ApiError Unit → Go GoError Bytes}
    (deleting : thread.program = .op (.deleteTransaction key uid) next) {stored : CMPTransaction}
    (incarnation : ∀ u, uid = some u → u = stored.uid) :
    ∃ copy, (pool.sessions lib)[i]? = some ((contract lib).run (Session.begin thread.job) thread.trace) ∧
      workingCopy thread.trace = some copy ∧
      ((contract lib).run (Session.begin thread.job) thread.trace).stage.knows = some copy ∧
      copy ∈ pool.world.past ∧ copy.uid = stored.uid := by
  have consistent := run.consistent unclaimed
  obtain ⟨session, path⟩ := run.session (List.mem_of_getElem? call)
  rw [deleting] at path
  obtain ⟨copy, deletable, _, rfl⟩ := (sign_follows lib thread.job).allows path
  have known := Stage.knows_of_deletable deletable
  have past := consistent.stored _ session copy known
  refine ⟨copy, ?_, sign_workingCopy path known, known, past,
    incarnation _ (if_neg (consistent.ordered.identified copy past))⟩
  rw [Signers.sessions, List.getElem?_map, call]
  rfl

end

/-- The call with this number reads or creates the record. -/
def Entry.loads (i : Nat) (entry : Entry) : Bool :=
  entry.thread == i && match entry.event with
    | ⟨.getTransaction _, .ok _⟩ | ⟨.createTransaction _, .ok _⟩ => true
    | _ => false

/-- The operations since the call has last read or created the record. -/
def sinceLoad (i : Nat) (log : List Entry) : List Entry := log.rtakeWhile fun entry => !entry.loads i

/-- The operation stores another version of this incarnation, and that version has a chain. -/
def Entry.storesChain (uid : String) (entry : Entry) : Bool :=
  entry.after != entry.before &&
    entry.after.any fun record => record.uid == uid && record.status.issuedChain != []

/-- Another call has stored a chain in this incarnation since the call loaded the record. -/
def ChainStoredSince (i : Nat) (uid : String) (log : List Entry) : Prop :=
  ∃ entry ∈ sinceLoad i log, entry.thread ≠ i ∧ entry.storesChain uid = true

instance (i : Nat) (uid : String) (log : List Entry) : Decidable (ChainStoredSince i uid log) :=
  inferInstanceAs (Decidable (∃ entry ∈ sinceLoad i log, entry.thread ≠ i ∧ entry.storesChain uid = true))

theorem Entry.stored_chain {uid : String} {entry : Entry} (stores : entry.storesChain uid = true) :
    ∃ record, entry.after = some record ∧ record.uid = uid ∧ record.status.issuedChain ≠ [] := by
  obtain ⟨record, after, left⟩ := (Option.any_eq_true _ _).mp (Bool.and_eq_true_iff.mp stores).2
  exact ⟨record, after, by simpa using left⟩

theorem Cluster.Change.fresh {cluster : Cluster} {o : Op} {after : Option CMPTransaction}
    (change : cluster.Change o after) (changed : after ≠ cluster.slot) {record : CMPTransaction}
    (stored : after = some record) : record ∉ cluster.past := by
  cases change with
  | keep => exact absurd rfl changed
  | create _ _ _ _ version | update _ _ _ _ _ version =>
      cases stored
      exact fun member => version _ member rfl
  | delete => cases stored

/-- What the log says about the record that a call knows: as long as it is the stored one nobody else has
changed it since the call loaded it, and when it is no longer the stored one somebody else has. -/
structure Overtakes (cluster : Cluster) (i : Nat) (session : Session) : Prop where
  alone : ∀ copy, session.stage.knows = some copy → cluster.slot = some copy →
    ∀ entry ∈ sinceLoad i cluster.log, entry.thread ≠ i → entry.after = entry.before
  overtaken : ∀ copy stored, session.stage.knows = some copy → cluster.slot = some stored →
    copy.uid = stored.uid → copy ≠ stored → ∃ entry ∈ sinceLoad i cluster.log,
      entry.thread ≠ i ∧ entry.after = some stored ∧ entry.after ≠ entry.before

section
variable {lib : Library} {subject : Subject} {cluster : Cluster} {sessions : List Session} {i j : Nat}
  {session : Session} {o : Op} {answer : o.Answer} {after : Option CMPTransaction}

theorem sinceLoad_of_loads (loads : Entry.loads i ⟨j, ⟨o, answer⟩, cluster.slot, after⟩ = true) :
    sinceLoad i (cluster.step j ⟨o, answer⟩ after).log = [] := by
  rw [Cluster.step, sinceLoad, List.rtakeWhile_concat, loads]
  rfl

theorem mem_sinceLoad_step (loads : Entry.loads i ⟨j, ⟨o, answer⟩, cluster.slot, after⟩ = false)
    {entry : Entry} : entry ∈ sinceLoad i (cluster.step j ⟨o, answer⟩ after).log ↔
      entry ∈ sinceLoad i cluster.log ∨ entry = ⟨j, ⟨o, answer⟩, cluster.slot, after⟩ := by
  rw [Cluster.step, sinceLoad, List.rtakeWhile_concat, loads]
  simp [sinceLoad]

/-- Another call acts: if it stores a version, this one is not known to anybody yet. -/
theorem Overtakes.other (overtakes : Overtakes cluster i session)
    (stored : ∀ copy, session.stage.knows = some copy → copy ∈ cluster.past) (different : j ≠ i)
    (change : cluster.Change o after) : Overtakes (cluster.step j ⟨o, answer⟩ after) i session := by
  have since := @mem_sinceLoad_step cluster i j o answer after (by simp [Entry.loads, different])
  by_cases same : after = cluster.slot
  · refine ⟨fun copy known slot entry member other => ?_, fun copy record known slot uid differs => ?_⟩
    · rcases since.mp member with old | rfl
      · exact overtakes.alone copy known (same.symm.trans slot) entry old other
      · exact same
    · obtain ⟨entry, member, rest⟩ := overtakes.overtaken copy record known (same.symm.trans slot) uid differs
      exact ⟨entry, since.mpr (.inl member), rest⟩
  · refine ⟨fun copy known slot => ?_, fun copy record known slot uid differs => ?_⟩
    · exact absurd (stored copy known) (change.fresh same slot)
    · exact ⟨_, since.mpr (.inr rfl), different, slot, same⟩

/-- What a call knows after an operation it has just loaded, or just written over what it knew, or it knew
it before and the operation left the record alone. -/
theorem Consistent.knows_cases (consistent : Consistent lib subject cluster sessions)
    (member : session ∈ sessions) (allowed : (contract lib).allows session o)
    (served : cluster.ambiguous o answer after) {copy : CMPTransaction}
    (known : ((contract lib).next session o answer).stage.knows = some copy) :
    Entry.loads i ⟨i, ⟨o, answer⟩, cluster.slot, after⟩ = true ∧ after = some copy ∨
      Entry.loads i ⟨i, ⟨o, answer⟩, cluster.slot, after⟩ = false ∧ ∃ old, session.stage.knows = some old ∧
        (cluster.slot = some old ∧ after = some copy ∨ after = cluster.slot ∧ old = copy) := by
  rcases Stage.next_knows known with ⟨key, event⟩ | ⟨asked, assigned, event, rfl⟩ |
    ⟨written, resourceVersion, event, rfl⟩ | ⟨quiet, before⟩
  · cases event
    obtain ⟨found, _, rfl⟩ := Cluster.ambiguous.serves served (by rintro ⟨⟩)
    exact .inl ⟨by simp [Entry.loads], found⟩
  · cases event
    obtain ⟨_, _, _, rfl⟩ := Cluster.ambiguous.serves served (by rintro ⟨⟩)
    exact .inl ⟨by simp [Entry.loads], rfl⟩
  · cases event
    obtain ⟨old, found, _, current, _, rfl⟩ := Cluster.ambiguous.serves served (by rintro ⟨⟩)
    obtain ⟨record, same⟩ := consistent.updated member allowed found current resourceVersion
    exact .inr ⟨by simp [Entry.loads], old, Stage.knows_of_record record, .inl ⟨found, congrArg some same⟩⟩
  · refine .inr ⟨?_, copy, before, .inr ⟨(Cluster.ambiguous.change served).keeps quiet, rfl⟩⟩
    cases o <;> first | exact Bool.and_false _ | cases quiet

theorem Overtakes.act (overtakes : Overtakes cluster i session)
    (consistent : Consistent lib subject cluster sessions) (member : session ∈ sessions)
    (allowed : (contract lib).allows session o) (served : cluster.ambiguous o answer after) :
    Overtakes (cluster.step i ⟨o, answer⟩ after) i ((contract lib).next session o answer) where
  alone copy known slot entry since other := by
    rcases consistent.knows_cases (i := i) member allowed served known with
      ⟨loads, _⟩ | ⟨loads, old, before, changed⟩
    · rw [sinceLoad_of_loads loads] at since
      cases since
    · rcases (mem_sinceLoad_step loads).mp since with earlier | rfl
      · refine overtakes.alone old before ?_ entry earlier other
        rcases changed with ⟨found, _⟩ | ⟨same, rfl⟩
        · exact found
        · exact same.symm.trans slot
      · exact absurd rfl other
  overtaken copy record known slot uid differs := by
    rcases consistent.knows_cases (i := i) member allowed served known with
      ⟨_, current⟩ | ⟨loads, old, before, ⟨_, current⟩ | ⟨same, rfl⟩⟩
    · exact absurd (Option.some.inj (current.symm.trans slot)) differs
    · exact absurd (Option.some.inj (current.symm.trans slot)) differs
    · obtain ⟨entry, earlier, rest⟩ := overtakes.overtaken old record before (same.symm.trans slot) uid differs
      exact ⟨entry, (mem_sinceLoad_step loads).mpr (.inl earlier), rest⟩

theorem Overtakes.interfere (stored : ∀ copy, session.stage.knows = some copy → copy ∈ cluster.past)
    {cluster' : Cluster} (disturbed : cluster.Interferes cluster') : Overtakes cluster' i session := by
  cases disturbed with
  | delete => exact ⟨by rintro _ _ ⟨⟩, by rintro _ _ _ ⟨⟩⟩
  | recreate record assigned free uid version =>
      constructor
      · rintro copy known ⟨⟩
        exact absurd rfl (version _ (stored _ known))
      · rintro copy _ known ⟨⟩ same
        exact absurd same (uid.2 copy (stored copy known))

end

section
variable {lib : Library} {subject : Subject} {slot : Option CMPTransaction} {pool : Signers}

/-- Over any run: every version that an operation left is remembered, and the log tells whether the record
of a call has been changed by another one. -/
theorem SharedRun.overtakes (run : SharedRun lib subject slot pool) (unclaimed : Unclaimed subject slot) :
    (∀ entry ∈ pool.world.log, ∀ record, entry.after = some record → record ∈ pool.world.past) ∧
      ∀ i session, (pool.sessions lib)[i]? = some session → Overtakes pool.world i session := by
  refine (Pool.Reach.invariant (J := fun cluster sessions => Consistent lib subject cluster sessions ∧
    (∀ entry ∈ cluster.log, ∀ record, entry.after = some record → record ∈ cluster.past) ∧
    ∀ i session, sessions[i]? = some session → Overtakes cluster i session)
    (fun job _ => sign_follows lib job) ?_ ?_ ?_ ⟨.start unclaimed, by rintro _ ⟨⟩, by simp⟩ run).2
  · rintro cluster sessions job wanted ⟨consistent, left, overtakes⟩
    refine ⟨consistent.spawn wanted, left, fun i session found => ?_⟩
    rcases lt_or_ge i sessions.length with old | new
    · rw [List.getElem?_append_left old] at found
      exact overtakes i session found
    · rw [List.getElem?_append_right new] at found
      obtain rfl := List.mem_singleton.mp (List.mem_of_getElem? found)
      exact ⟨by rintro _ ⟨⟩, by rintro _ _ ⟨⟩⟩
  · rintro cluster sessions j session o answer _ ⟨consistent, left, overtakes⟩ thread _ allowed
      ⟨after, served, rfl⟩
    refine ⟨consistent.act thread allowed served, fun entry member record stored => ?_, fun i other found => ?_⟩
    · rcases List.mem_append.mp member with old | new
      · exact Cluster.past_subset_step (left entry old record stored)
      · cases List.mem_singleton.mp new
        cases stored
        exact consistent.ordered.mem_step
    · by_cases mine : j = i
      · subst mine
        rw [List.getElem?_set_self (List.getElem?_eq_some_iff.mp thread).1] at found
        cases found
        exact (overtakes j session thread).act consistent (List.mem_of_getElem? thread) allowed served
      · rw [List.getElem?_set_ne mine] at found
        exact (overtakes i other found).other (consistent.stored other (List.mem_of_getElem? found)) mine
          (Cluster.ambiguous.change served)
  · rintro cluster sessions cluster' ⟨consistent, left, _⟩ disturbed
    refine ⟨consistent.interfere disturbed, ?_, fun i session found =>
      .interfere (consistent.stored session (List.mem_of_getElem? found)) disturbed⟩
    cases disturbed with
    | delete => exact left
    | recreate => exact fun entry member record stored => List.mem_append_left _ (left entry member record stored)

end

/-- Calls for one CertificateRequest in any interleaving: no other call has stored a chain in the record
since the deleting call loaded it, if and only if the record is still at the version that call works from or
has not come to phase Confirming. -/
theorem delete_spares_later_chain_iff {lib : Library} {subject : Subject} {slot : Option CMPTransaction}
    (unclaimed : Unclaimed subject slot) {pool : Signers} (run : SharedRun lib subject slot pool) {i : Nat}
    {thread : Thread interface (Fault GoError) Bytes Job} (call : pool.threads[i]? = some thread)
    {key : NamespacedName} {uid : Option String} {next : Except ApiError Unit → Go GoError Bytes}
    (deleting : thread.program = .op (.deleteTransaction key uid) next) {stored : CMPTransaction}
    (found : pool.world.slot = some stored) (incarnation : ∀ u, uid = some u → u = stored.uid) :
    ∃ copy, workingCopy thread.trace = some copy ∧
      (¬ ChainStoredSince i stored.uid pool.world.log ↔
        copy.resourceVersion = stored.resourceVersion ∨
          stored.status.phase.rank < Phase.confirming.rank) := by
  obtain ⟨copy, session, working, known, past, same⟩ := run.deleting unclaimed call deleting incarnation
  obtain ⟨left, overtakes⟩ := run.overtakes unclaimed
  have ordered := (run.consistent unclaimed).ordered
  have current : copy = stored → ¬ ChainStoredSince i stored.uid pool.world.log := by
    rintro rfl ⟨entry, since, other, stores⟩
    have kept := (overtakes i _ session).alone copy known found entry since other
    rw [Entry.storesChain, kept, bne_self_eq_false, Bool.false_and] at stores
    cases stores
  refine ⟨copy, working, ?_⟩
  by_cases own : stored.spec.certificateRequestUID = subject.uid
  · have late : Shaped stored := ordered.shaped stored (ordered.mem found) own
    constructor
    · intro spared
      by_contra! apart
      obtain ⟨entry, since, other, after, changed⟩ := (overtakes i _ session).overtaken copy stored known found same
        fun equal => apart.1 (congrArg CMPTransaction.resourceVersion equal)
      refine spared ⟨entry, since, other, ?_⟩
      have chained : stored.status.issuedChain ≠ [] := fun empty => absurd (late.mp empty) (not_lt.mpr apart.2)
      rw [Entry.storesChain, Bool.and_eq_true, bne_iff_ne]
      exact ⟨changed, by simp [after, chained]⟩
    · rintro (version | before)
      · exact current (ordered.unique past (ordered.mem found) version)
      · -- A chain in an earlier version would be in the stored one.
        rintro ⟨entry, since, _, stores⟩
        obtain ⟨record, after, incarnation, chained⟩ := Entry.stored_chain stores
        have member := left entry ((List.rtakeWhile_suffix _ _).subset since) record after
        have advances := ordered.latest found member incarnation
        have early : Shaped record := ordered.shaped record member (advances.owner.symm.trans own)
        exact chained (early.mpr (advances.phase.trans_lt before))
  · -- Nobody writes the record of another CertificateRequest.
    obtain rfl := run.untouched unclaimed stored (ordered.mem found) copy past same.symm own
    exact iff_of_true (current rfl) (.inl rfl)

def Op.delete? : Op → Option (NamespacedName × Option String)
  | .deleteTransaction key uid => some (key, uid)
  | _ => none

theorem Op.eq_deleteTransaction {o : Op} {named : NamespacedName × Option String}
    (h : o.delete? = some named) : o = .deleteTransaction named.1 named.2 := by
  cases o <;> cases h
  rfl

/-- A library with one more response: the transaction is in use already. -/
def repeatLibrary : Library :=
  { plainLibrary with
    parsePKIMessage := fun
      | 6 :: nonce => .ok (plainResponse nonce (.error (.ok ⟨.rejection, [], [.transactionIdInUse]⟩)))
      | data => plainLibrary.parsePKIMessage data }

/-- Two overlapping calls. The first has stored a chain when the second loads the record. The server rejects
the confirmation of the second, which discards the chain that was there before it. -/
theorem delete_spares_later_chain_iff_resumed : ∃ pool, SharedRun repeatLibrary plainJob.subject none pool ∧
    pool.threads.length = 2 ∧ ∃ thread, pool.threads[1]? = some thread ∧
      ∃ key uid next, thread.program = .op (.deleteTransaction key uid) next ∧
      ∃ stored, pool.world.slot = some stored ∧ stored.status.issuedChain = [[3], [4]] ∧
        (∃ entry ∈ pool.world.log, entry.thread = 0 ∧ entry.storesChain stored.uid = true) ∧
        ¬ ChainStoredSince 1 stored.uid pool.world.log := by
  obtain ⟨d, initial, stored, thread, copy, found, call, working, deletes, chain, first, version⟩ :
      ∃ d : Deployment, d.cluster = .start none ∧ ∃ stored thread copy,
      (d.overlap repeatLibrary plainJob 15 9 1).world.slot = some stored ∧
      (d.overlap repeatLibrary plainJob 15 9 1).threads[1]? = some thread ∧
      workingCopy thread.trace = some copy ∧
      thread.program.next?.bind Op.delete? = some (stored.key, some stored.uid) ∧
      stored.status.issuedChain = [[3], [4]] ∧
      (∃ entry ∈ (d.overlap repeatLibrary plainJob 15 9 1).world.log,
        entry.thread = 0 ∧ entry.storesChain stored.uid = true) ∧
      copy.resourceVersion = stored.resourceVersion := by
    let d := plainDeployment none [plainReply 2 [9], plainReply 6 [9, 9]]
    let second := (d.runAs 0 repeatLibrary plainJob 15).2.1.runAs 1 repeatLibrary plainJob 9
    refine ⟨d, rfl, (d.overlap repeatLibrary plainJob 15 9 1).world.slot.get (by decide +kernel),
      ⟨plainJob, second.1, second.2.2⟩, (workingCopy second.1).get (by decide +kernel), ?_, rfl, ?_, ?_, ?_, ?_, ?_⟩ <;>
      decide +kernel
  have run := (d.overlap_run repeatLibrary plainJob 15 9 1 initial).shared
  obtain ⟨o, next, seen⟩ := Option.bind_eq_some_iff.mp deletes
  obtain rfl := Op.eq_deleteTransaction seen
  obtain ⟨rest, program⟩ := Program.exists_op_of_next next
  obtain ⟨copy', working', spares⟩ := delete_spares_later_chain_iff (by rintro _ ⟨⟩) run call program found
    (by rintro _ ⟨⟩; rfl)
  cases working.symm.trans working'
  exact ⟨_, run, rfl, thread, call, _, _, rest, program, stored, found, chain, first, spares.mpr (.inl version)⟩

/-- Two overlapping calls. The first has sent its request when the second loads the record, sends it again
and records the certificate it obtains. The answer to the first is that the transaction is in use already,
so it deletes the record, which it knows without a chain. -/
theorem retransmission_discards_chain : ∃ pool, SharedRun repeatLibrary plainJob.subject none pool ∧
    pool.threads.length = 2 ∧ ∃ thread, pool.threads[0]? = some thread ∧ ∃ key uid next,
      thread.program = .op (.deleteTransaction key (some uid)) next ∧
      ∃ stored copy, pool.world.slot = some stored ∧ stored.key = key ∧ stored.uid = uid ∧
        stored.status.phase = .confirming ∧ stored.status.issuedChain = [[3], [4]] ∧
        ChainStoredSince 0 uid pool.world.log ∧ workingCopy thread.trace = some copy ∧
        copy.status.phase = .enrolling ∧ copy.status.issuedChain = [] := by
  obtain ⟨d, initial, stored, copy, found, working, deletes, chain, phase, since, early, unissued⟩ :
      ∃ d : Deployment, d.cluster = .start none ∧ ∃ stored copy,
      (d.overlap repeatLibrary plainJob 11 10 2).world.slot = some stored ∧
      ((d.overlap repeatLibrary plainJob 11 10 2).threads[0]?.bind fun first =>
        workingCopy first.trace) = some copy ∧
      ((d.overlap repeatLibrary plainJob 11 10 2).threads[0]?.bind fun first =>
        first.program.next?.bind Op.delete?) = some (stored.key, some stored.uid) ∧
      stored.status.issuedChain = [[3], [4]] ∧ stored.status.phase = .confirming ∧
      ChainStoredSince 0 stored.uid (d.overlap repeatLibrary plainJob 11 10 2).world.log ∧
      copy.status.phase = .enrolling ∧ copy.status.issuedChain = [] := by
    let d := plainDeployment none [plainReply 2 [9, 9], plainReply 6 [9]]
    refine ⟨d, rfl, (d.overlap repeatLibrary plainJob 11 10 2).world.slot.get (by decide +kernel),
      ((d.overlap repeatLibrary plainJob 11 10 2).threads[0]?.bind fun first =>
        workingCopy first.trace).get (by decide +kernel), ?_, ?_, ?_, ?_, ?_, ?_, ?_, ?_⟩ <;> decide +kernel
  obtain ⟨thread, call, deletes⟩ := Option.bind_eq_some_iff.mp deletes
  rw [call, Option.bind_some] at working
  obtain ⟨o, next, seen⟩ := Option.bind_eq_some_iff.mp deletes
  obtain rfl := Op.eq_deleteTransaction seen
  obtain ⟨rest, program⟩ := Program.exists_op_of_next next
  exact ⟨_, (d.overlap_run repeatLibrary plainJob 11 10 2 initial).shared, rfl, thread, call, _, _, rest,
    program, stored, copy, found, rfl, rfl, phase, chain, since, working, early, unissued⟩

end CmpIssuer
