import CmpIssuer.Cluster.History

/-!
Calls of `Sign` for one CertificateRequest, run against the cluster: in any
interleaving and with another client at work, or one after the other. Every
state such a pool reaches is consistent: the calls know records that were
stored, and they removed only what they had read or created.
-/
namespace CmpIssuer
open Effect

def Job.call (lib : Library) (job : Job) : Go GoError Bytes :=
  sign lib job.clusterResourceNamespace job.request job.issuer

abbrev Signers := Pool interface Cluster (Fault GoError) Bytes Job

/-- Any number of calls for one CertificateRequest, in any interleaving, disturbed by another client. -/
def SharedRun (lib : Library) (subject : Subject) (slot : Option CMPTransaction) (pool : Signers) : Prop :=
  Pool.Reach sharedWorld (Job.call lib) (fun job => job.subject = subject) (fun _ _ => True)
    (Cluster.start slot) pool

/-- Any number of calls for one CertificateRequest, in any interleaving, whose record no other client touches. -/
def SoleRun (lib : Library) (subject : Subject) (slot : Option CMPTransaction) (pool : Signers) : Prop :=
  Pool.Reach signerWorld (Job.call lib) (fun job => job.subject = subject) (fun _ _ => True)
    (Cluster.start slot) pool

/-- Calls for one CertificateRequest one after the other, each of which may end anywhere. -/
def SequentialRun (lib : Library) (subject : Subject) (slot : Option CMPTransaction) (pool : Signers) :
    Prop :=
  Pool.Reach signerWorld (Job.call lib) (fun job => job.subject = subject) (fun n i => i + 1 = n)
    (Cluster.start slot) pool

section
variable {lib : Library} {subject : Subject} {slot : Option CMPTransaction} {pool : Signers}

theorem SoleRun.shared (run : SoleRun lib subject slot pool) : SharedRun lib subject slot pool :=
  Pool.Reach.mono run (fun _ _ _ _ _ acted => acted) (fun _ _ disturbed => disturbed.elim) fun _ _ _ => trivial

theorem SequentialRun.sole (run : SequentialRun lib subject slot pool) : SoleRun lib subject slot pool :=
  Pool.Reach.mono run (fun _ _ _ _ _ acted => acted) (fun _ _ disturbed => disturbed) fun _ _ _ => trivial

theorem SequentialRun.shared (run : SequentialRun lib subject slot pool) : SharedRun lib subject slot pool :=
  run.sole.shared

end

def Signers.sessions (lib : Library) (pool : Signers) : List Session :=
  pool.threads.map (Thread.watched (contract lib) Session.begin)

structure Consistent (lib : Library) (subject : Subject) (cluster : Cluster) (sessions : List Session) :
    Prop where
  ordered : cluster.Ordered lib subject.uid
  sound : ∀ session ∈ sessions, Sound lib session
  subject : ∀ session ∈ sessions, session.job.subject = subject
  stored : ∀ session ∈ sessions, ∀ record, session.stage.knows = some record → record ∈ cluster.past
  deleted : ∀ entry ∈ cluster.log, ∀ record, entry.before = some record → entry.after = none →
    ∃ session, sessions[entry.thread]? = some session ∧ Obtained session.trail record.uid

section
variable {lib : Library} {subject : Subject} {cluster : Cluster} {sessions : List Session}

theorem Cluster.past_subset_step {thread : Nat} {event : Event interface} {after : Option CMPTransaction} :
    cluster.past ⊆ (cluster.step thread event after).past := by
  unfold Cluster.step
  split
  · exact List.Subset.refl _
  · exact List.subset_append_left _ _

theorem Cluster.Ordered.mem_step {uid : String} (ordered : cluster.Ordered lib uid) {thread : Nat}
    {event : Event interface} {record : CMPTransaction} :
    record ∈ (cluster.step thread event (some record)).past := by
  unfold Cluster.step
  dsimp only
  split
  · rename_i same
    exact ordered.mem same.symm
  · simp

/-- The record a session works on is one of its CertificateRequest, so it has the shape of one. -/
theorem Consistent.shaped (consistent : Consistent lib subject cluster sessions) {session : Session}
    (member : session ∈ sessions) {record : CMPTransaction} (known : session.stage.record? = some record) :
    Shaped record := by
  have own := (consistent.sound session member).own record known
  have same : session.job.request.uid = subject.uid :=
    congrArg Subject.uid (consistent.subject session member)
  exact consistent.ordered.shaped record
    (consistent.stored session member record (Stage.knows_of_record known)) (own.trans same)

/-- A status update is made from a version that was stored, and takes it forward. -/
theorem Consistent.forward (consistent : Consistent lib subject cluster sessions) {session : Session}
    (member : session ∈ sessions) {record : CMPTransaction} (writes : Writes lib session record) :
    ∃ old ∈ cluster.past, session.stage.record? = some old ∧
      record = { old with status := record.status } ∧ Advances lib old record ∧ Shaped record := by
  obtain ⟨old, known, same, advances, shaped⟩ := Writes.advances (consistent.sound session member)
    (fun _ known => consistent.shaped member known) writes
  exact ⟨old, consistent.stored session member old (Stage.knows_of_record known), known, same, advances,
    shaped⟩

/-- A status update that the server accepts stores exactly what the session wrote. -/
theorem Consistent.updated (consistent : Consistent lib subject cluster sessions) {session : Session}
    (member : session ∈ sessions) {record stored : CMPTransaction}
    (writes : Writes lib session record) (found : cluster.slot = some stored)
    (current : record.resourceVersion = stored.resourceVersion) (resourceVersion : String) :
    session.stage.record? = some stored ∧
      ({ stored with status := record.status } : CMPTransaction).updated resourceVersion =
        record.updated resourceVersion := by
  obtain ⟨old, past, known, same, _⟩ := consistent.forward member writes
  have version : old.resourceVersion = record.resourceVersion := by rw [same]
  obtain rfl : old = stored :=
    consistent.ordered.unique past (consistent.ordered.mem found) (version.trans current)
  exact ⟨known, by rw [← same]⟩

theorem Consistent.knows_step (consistent : Consistent lib subject cluster sessions) {session : Session}
    (member : session ∈ sessions) {o : Op} {answer : o.Answer} {after : Option CMPTransaction}
    {thread : Nat} (allowed : (contract lib).allows session o)
    (served : cluster.ambiguous o answer after) {record : CMPTransaction}
    (known : ((contract lib).next session o answer).stage.knows = some record) :
    record ∈ (cluster.step thread ⟨o, answer⟩ after).past := by
  rcases Stage.next_knows known with ⟨key, event⟩ | ⟨asked, assigned, event, rfl⟩ |
    ⟨written, resourceVersion, event, rfl⟩ | ⟨_, before⟩
  · cases event
    obtain ⟨found, _, rfl⟩ := Cluster.ambiguous.serves served (by rintro ⟨⟩)
    exact Cluster.past_subset_step (consistent.ordered.mem found)
  · cases event
    obtain ⟨_, _, _, rfl⟩ := Cluster.ambiguous.serves served (by rintro ⟨⟩)
    exact consistent.ordered.mem_step
  · cases event
    obtain ⟨stored, found, _, current, _, rfl⟩ := Cluster.ambiguous.serves served (by rintro ⟨⟩)
    rw [(consistent.updated member allowed found current _).2]
    exact consistent.ordered.mem_step
  · exact Cluster.past_subset_step (consistent.stored session member record before)

theorem Consistent.delete_obtained (consistent : Consistent lib subject cluster sessions)
    {session : Session} (member : session ∈ sessions) {key : NamespacedName} {uid : Option String}
    {stored : CMPTransaction} (allowed : (contract lib).allows session (.deleteTransaction key uid))
    (incarnation : ∀ u, uid = some u → u = stored.uid) : Obtained session.trail stored.uid := by
  obtain ⟨record, deletable, _, rfl⟩ := allowed
  have knows := Stage.knows_of_deletable deletable
  have identified := consistent.ordered.identified record (consistent.stored session member record knows)
  have same : record.uid = stored.uid := incarnation _ (if_neg identified)
  exact same ▸ (consistent.sound session member).obtained record knows

theorem Consistent.act (consistent : Consistent lib subject cluster sessions) {i : Nat}
    {session : Session} (thread : sessions[i]? = some session) {o : Op} {answer : o.Answer}
    {after : Option CMPTransaction} (allowed : (contract lib).allows session o)
    (served : cluster.ambiguous o answer after) :
    Consistent lib subject (cluster.step i ⟨o, answer⟩ after)
      (sessions.set i ((contract lib).next session o answer)) where
  ordered := by
    refine consistent.ordered.step (Cluster.ambiguous.change served) ?_
    rintro record rfl
    obtain ⟨old, past, _, same, advances, shaped⟩ :=
      consistent.forward (List.mem_of_getElem? thread) allowed
    exact ⟨old, past, same, advances, fun _ => shaped⟩
  sound := by
    intro other member
    rcases List.mem_or_eq_of_mem_set member with old | rfl
    · exact consistent.sound other old
    · exact (consistent.sound session (List.mem_of_getElem? thread)).next allowed
  subject := by
    intro other member
    rcases List.mem_or_eq_of_mem_set member with old | rfl
    · exact consistent.subject other old
    · exact consistent.subject session (List.mem_of_getElem? thread)
  stored := by
    intro other member record known
    rcases List.mem_or_eq_of_mem_set member with old | rfl
    · exact Cluster.past_subset_step (consistent.stored other old record known)
    · exact consistent.knows_step (List.mem_of_getElem? thread) allowed served known
  deleted := by
    intro entry member record before gone
    have bound : i < sessions.length := (List.getElem?_eq_some_iff.mp thread).1
    rcases List.mem_append.mp member with old | last
    · obtain ⟨other, acted, obtained⟩ := consistent.deleted entry old record before gone
      by_cases same : i = entry.thread
      · rw [← same, thread] at acted
        cases acted
        rw [← same, List.getElem?_set_self bound]
        exact ⟨_, rfl, obtained.mono (List.subset_append_left _ _)⟩
      · rw [List.getElem?_set_ne same]
        exact ⟨other, acted, obtained⟩
    · obtain rfl := List.mem_singleton.mp last
      rw [List.getElem?_set_self bound]
      refine ⟨_, rfl, Obtained.mono ?_ (List.subset_append_left _ _)⟩
      dsimp only at before gone
      subst gone
      obtain ⟨key, uid, rfl, incarnation⟩ := (Cluster.ambiguous.change served).deleted before
      exact consistent.delete_obtained (List.mem_of_getElem? thread) allowed incarnation

theorem Consistent.spawn (consistent : Consistent lib subject cluster sessions) {job : Job}
    (wanted : job.subject = subject) : Consistent lib subject cluster (sessions ++ [Session.begin job]) where
  ordered := consistent.ordered
  sound := by
    intro session member
    rcases List.mem_append.mp member with old | new
    · exact consistent.sound session old
    · exact List.mem_singleton.mp new ▸ .begin lib job
  subject := by
    intro session member
    rcases List.mem_append.mp member with old | new
    · exact consistent.subject session old
    · exact List.mem_singleton.mp new ▸ wanted
  stored := by
    intro session member record known
    rcases List.mem_append.mp member with old | new
    · exact consistent.stored session old record known
    · cases List.mem_singleton.mp new
      cases known
  deleted := by
    intro entry member record before gone
    obtain ⟨session, acted, obtained⟩ := consistent.deleted entry member record before gone
    exact ⟨session, List.getElem?_append_left (List.getElem?_eq_some_iff.mp acted).1 ▸ acted, obtained⟩

theorem Consistent.interfere (consistent : Consistent lib subject cluster sessions) {cluster' : Cluster}
    (disturbed : cluster.Interferes cluster') : Consistent lib subject cluster' sessions := by
  cases disturbed with
  | delete =>
      exact ⟨consistent.ordered.empty, consistent.sound, consistent.subject, consistent.stored,
        consistent.deleted⟩
  | recreate record assigned free uid version =>
      exact ⟨consistent.ordered.pushCreated record uid version, consistent.sound, consistent.subject,
        fun session member other known =>
          List.mem_append_left _ (consistent.stored session member other known),
        consistent.deleted⟩

theorem Consistent.start {slot : Option CMPTransaction} (unclaimed : Unclaimed subject slot) :
    Consistent lib subject (Cluster.start slot) [] :=
  ⟨.start unclaimed, by simp, by simp, by simp, by simp [Cluster.start]⟩

end

/-- Every state that calls for one CertificateRequest reach is consistent. -/
theorem SharedRun.consistent {lib : Library} {subject : Subject} {slot : Option CMPTransaction}
    {pool : Signers} (run : SharedRun lib subject slot pool) (unclaimed : Unclaimed subject slot) :
    Consistent lib subject pool.world (pool.sessions lib) := by
  refine Pool.Reach.invariant (J := Consistent lib subject) (fun job _ => sign_follows lib job) ?_ ?_ ?_
    (.start unclaimed) run
  · exact fun _ _ job wanted consistent => consistent.spawn wanted
  · rintro _ _ i session o answer _ consistent thread _ allowed ⟨after, served, rfl⟩
    exact consistent.act thread allowed served
  · exact fun _ _ _ consistent disturbed => consistent.interfere disturbed

/-- What a record was created for. A write only cuts the deadline to seconds. -/
def CMPTransaction.terms (record : CMPTransaction) : CMPTransactionSpec := { record.spec with deadline := 0 }

/-- The versions of one incarnation have the same terms. -/
def Cluster.SameTerms (cluster : Cluster) : Prop :=
  ∀ first ∈ cluster.past, ∀ second ∈ cluster.past, first.uid = second.uid → first.terms = second.terms

section
variable {cluster : Cluster} {record : CMPTransaction}

theorem Cluster.SameTerms.push (same : cluster.SameTerms)
    (agrees : ∀ old ∈ cluster.past, old.uid = record.uid → old.terms = record.terms) {slot log} :
    ({ cluster with slot, past := cluster.past ++ [record], log } : Cluster).SameTerms := by
  intro first member second member' uid
  rcases List.mem_append.mp member with old | new
  · rcases List.mem_append.mp member' with old' | new'
    · exact same first old second old' uid
    · obtain rfl := List.mem_singleton.mp new'
      exact agrees first old uid
  · obtain rfl := List.mem_singleton.mp new
    rcases List.mem_append.mp member' with old' | new'
    · exact (agrees second old' uid.symm).symm
    · obtain rfl := List.mem_singleton.mp new'
      rfl

theorem Cluster.freshUID.terms {assigned : Assigned} (fresh : cluster.freshUID assigned.uid) :
    ∀ old ∈ cluster.past, old.uid = (record.created assigned).uid →
      old.terms = (record.created assigned).terms :=
  fun old member uid => absurd uid (fresh.2 old member)

theorem Cluster.SameTerms.step {lib : Library} {uid : String} (same : cluster.SameTerms)
    (ordered : cluster.Ordered lib uid) {o : Op} {after : Option CMPTransaction} {thread : Nat}
    {event : Event interface} (change : cluster.Change o after) :
    (cluster.step thread event after).SameTerms := by
  unfold Cluster.step
  split
  · exact same
  · rename_i changed
    cases change with
    | keep => exact absurd rfl changed
    | create record assigned _ fresh => exact same.push fresh.terms
    | update written stored resourceVersion found =>
        refine same.push fun old member uid => ?_
        exact same old member stored (ordered.mem found) uid
    | delete =>
        simp only [Option.toList_none, List.append_nil]
        exact same

end

/-- Over any run the terms of a record never change. -/
theorem SharedRun.sameTerms {lib : Library} {subject : Subject} {slot : Option CMPTransaction}
    {pool : Signers} (run : SharedRun lib subject slot pool) (unclaimed : Unclaimed subject slot) :
    pool.world.SameTerms := by
  refine (Pool.Reach.invariant (J := fun cluster sessions => Consistent lib subject cluster sessions ∧
    cluster.SameTerms) (fun job _ => sign_follows lib job) ?_ ?_ ?_ ⟨.start unclaimed, ?_⟩ run).2
  · exact fun _ _ job wanted holds => ⟨holds.1.spawn wanted, holds.2⟩
  · rintro _ _ i session o answer _ ⟨consistent, same⟩ thread _ allowed ⟨after, served, rfl⟩
    exact ⟨consistent.act thread allowed served,
      same.step consistent.ordered (Cluster.ambiguous.change served)⟩
  · rintro _ _ _ ⟨consistent, same⟩ disturbed
    refine ⟨consistent.interfere disturbed, ?_⟩
    cases disturbed with
    | delete => exact same
    | recreate record assigned free uid version => exact same.push uid.terms
  · cases slot with
    | none => rintro _ ⟨⟩
    | some record =>
        intro first member second member' _
        rw [List.mem_singleton.mp member, List.mem_singleton.mp member']

/-- A record that a call of a pool has worked on was stored. -/
theorem SharedRun.worked {lib : Library} {subject : Subject} {slot : Option CMPTransaction}
    {pool : Signers} (run : SharedRun lib subject slot pool) (unclaimed : Unclaimed subject slot)
    {thread : Thread interface (Fault GoError) Bytes Job} (member : thread ∈ pool.threads) {t u : Trail}
    (split : thread.trace = t ++ u) {hold : Hold}
    (stage : ((contract lib).run (Session.begin thread.job) t).stage.hold? = some hold) :
    hold.record ∈ pool.world.past := by
  obtain ⟨before, p, reached, known, kept⟩ := Pool.Reach.earlier
    (R := fun earlier later : Cluster => earlier.past ⊆ later.past) (fun _ => List.Subset.refl _)
    (by
      rintro _ _ _ _ _ _ kept ⟨after, _, rfl⟩
      exact List.Subset.trans kept Cluster.past_subset_step)
    (by
      rintro _ _ _ kept disturbed
      cases disturbed with
      | delete => exact kept
      | recreate => exact List.Subset.trans kept (List.subset_append_left _ _))
    run thread member t u split
  have session : (⟨thread.job, t, p⟩ : Thread interface (Fault GoError) Bytes Job).watched (contract lib)
      Session.begin ∈ Signers.sessions lib before := List.mem_map_of_mem known
  have consistent : Consistent lib subject before.world (Signers.sessions lib before) :=
    SharedRun.consistent reached unclaimed
  exact kept (consistent.stored _ session _ (Stage.knows_of_record (Stage.record_of_hold stage)))

end CmpIssuer
