import CmpIssuer.Cluster.Server
import CmpIssuer.Session.Invariant

/-!
The history of the stored record. A write takes the record forward: its phase
never goes back and the leaf of a stored chain stays. A write counts only at
the version it was made from, so this holds for any interleaving of signers,
and for one that is disturbed by another client.
-/
namespace CmpIssuer
open Effect

def Phase.rank : Phase → Nat
  | .enrolling => 1
  | .polling => 2
  | .confirming => 3
  | .issued => 4
  | .unset | .unknown _ => 0

theorem Phase.eq_issued {phase : Phase} (late : Phase.issued.rank ≤ phase.rank) : phase = .issued := by
  cases phase <;> first | rfl | simp [Phase.rank] at late

/-- X.509 parsing keeps the encoding it is given. -/
def KeepsEncoding (lib : Library) : Prop :=
  ∀ encoded certificate, lib.parseCertificate encoded = .ok certificate → certificate.raw = encoded

/-- A chain is stored from phase Confirming on. -/
def Shaped (record : CMPTransaction) : Prop :=
  record.status.issuedChain = [] ↔ record.status.phase.rank < Phase.confirming.rank

/-- What a later version of a record keeps of an earlier one. -/
structure Advances (lib : Library) (old new : CMPTransaction) : Prop where
  owner : new.spec.certificateRequestUID = old.spec.certificateRequestUID
  transactionID : new.spec.transactionID = old.spec.transactionID
  phase : old.status.phase.rank ≤ new.status.phase.rank
  leaf : KeepsEncoding lib → old.status.issuedChain ≠ [] →
    new.status.issuedChain.head? = old.status.issuedChain.head?

section
variable {lib : Library}

theorem Advances.refl (record : CMPTransaction) : Advances lib record record :=
  ⟨rfl, rfl, le_rfl, fun _ _ => rfl⟩

theorem Advances.trans {a b c : CMPTransaction} (first : Advances lib a b) (second : Advances lib b c) :
    Advances lib a c where
  owner := second.owner.trans first.owner
  transactionID := second.transactionID.trans first.transactionID
  phase := first.phase.trans second.phase
  leaf keeps stored := by
    have same := first.leaf keeps stored
    have stored' : b.status.issuedChain ≠ [] := by
      intro empty
      rw [empty] at same
      exact stored (List.head?_eq_none_iff.mp same.symm)
    exact (second.leaf keeps stored').trans same

/-- Requests that obtain a certificate are made before one is stored. -/
theorem PhaseAllows.early {record : CMPTransaction} {call : ClientCall}
    (allowed : PhaseAllows lib record call) (enrolls : call.confirms = false) :
    record.status.phase.rank < Phase.confirming.rank := by
  have outside : record.status.phase ∉ [Phase.polling, .confirming, .issued] →
      record.status.phase.rank < Phase.confirming.rank := by
    intro outside
    cases phase : record.status.phase <;> simp_all [Phase.rank]
  cases call with
  | enrollP10CR | enrollIR | enrollKUR => exact outside allowed.1
  | pollP10CR => rw [allowed.1]; decide
  | confirmP10CR => cases enrolls

theorem PhaseAllows.unpolled {record : CMPTransaction} {call : ClientCall} (allowed : PhaseAllows lib record call)
    (enrolls : call.enrolls = true) : record.status.phase.rank < Phase.polling.rank := by
  have early : record.status.phase ∉ [Phase.polling, .confirming, .issued] := by
    cases call with
    | enrollP10CR | enrollIR | enrollKUR => exact allowed.1
    | pollP10CR | confirmP10CR => cases enrolls
  cases phase : record.status.phase <;> simp_all [Phase.rank]

theorem PhaseAllows.unissued {record : CMPTransaction} {call : ClientCall}
    (allowed : PhaseAllows lib record call) : record.status.phase ≠ .issued := by
  cases call with
  | enrollP10CR | enrollIR | enrollKUR =>
      intro issued
      exact allowed.1 (by simp [issued])
  | pollP10CR | confirmP10CR => rw [allowed.1]; decide

theorem Understood.chain {exchange : Exchange} {response : PKIMessage} {signer : Option Certificate}
    {result : EnrollmentResult}
    (understood : Understood lib exchange response signer (.ok (.result result)))
    (enrolls : exchange.call.confirms = false) (issued : result.pending = none) :
    encodeChain result.chain ≠ [] := by
  obtain ⟨csr, _, built, _, _, _, _, verdict⟩ := understood.judged
  rcases ClientCall.verdict_result enrolls verdict with ⟨pending, rfl, _⟩ | ⟨_, _, leaf, rest, chain, _⟩
  · cases issued
  · rw [chain]
    exact List.cons_ne_nil _ _

theorem countPoll_issuedChain (record : CMPTransaction) (polled : Bool) :
    (record.countPoll polled).status.issuedChain = record.status.issuedChain := by
  cases polled <;> rfl

theorem LeafStored.head {record : CMPTransaction} {leaf : Certificate} (keeps : KeepsEncoding lib)
    (h : LeafStored lib record leaf) : record.status.issuedChain.head? = some leaf.raw := by
  obtain ⟨encoded, head, same | parsed⟩ := h
  · rw [head, same]
  · rw [head, keeps _ _ parsed]

/-- What a record allows a confirmation of its leaf under. -/
theorem PhaseAllows.confirming {record : CMPTransaction} {call : ClientCall} {confirm : ConfirmRequest}
    {leaf : Certificate} (allowed : PhaseAllows lib record call) (confirms : call = .confirmP10CR confirm)
    (head : confirm.certificate = some leaf) :
    record.status.phase = .confirming ∧ confirm.requestNonce = record.status.requestNonce ∧
      LeafStored lib record leaf := by
  rw [confirms] at allowed
  obtain ⟨phase, _, _, nonce, leaf', certificate, stored⟩ := allowed
  cases certificate.symm.trans head
  exact ⟨phase, nonce, stored⟩

theorem Records.advances {trail : Trail} {record : CMPTransaction} {exchange : Exchange}
    {status : CMPTransactionStatus} (records : Records lib trail record exchange status)
    (allowed : PhaseAllows lib record exchange.call)
    (shaped : Shaped record) :
    Advances lib record { record with status } ∧ Shaped { record with status } := by
  have unstored : exchange.call.confirms = false → record.status.issuedChain = [] := fun enrolls =>
    shaped.mpr (allowed.early enrolls)
  have early : exchange.call.confirms = false → record.status.phase.rank ≤ Phase.polling.rank :=
    fun enrolls => Nat.le_of_lt_succ (allowed.early enrolls)
  have toConfirming : Phase.polling.rank ≤ Phase.confirming.rank := by decide
  have toIssued : Phase.confirming.rank ≤ Phase.issued.rank := by decide
  cases records with
  | pending t understood enrolls waits =>
      have empty := (countPoll_issuedChain record (record.status.phase == .polling)).trans (unstored enrolls)
      exact ⟨⟨rfl, rfl, early enrolls, fun _ stored => absurd (unstored enrolls) stored⟩,
        iff_of_true empty (Nat.lt_succ_self Phase.polling.rank)⟩
  | confirming t understood enrolls issued unconfirmed =>
      exact ⟨⟨rfl, rfl, (early enrolls).trans toConfirming,
        fun _ stored => absurd (unstored enrolls) stored⟩,
        iff_of_false (understood.chain enrolls issued) (lt_irrefl Phase.confirming.rank)⟩
  | issued t understood enrolls issued confirmed =>
      exact ⟨⟨rfl, rfl, ((early enrolls).trans toConfirming).trans toIssued,
        fun _ stored => absurd (unstored enrolls) stored⟩,
        iff_of_false (understood.chain enrolls issued) (not_lt_of_ge toIssued)⟩
  | delayed t understood confirms head _ waits =>
      obtain ⟨phase, _, stored⟩ := allowed.confirming confirms head
      exact ⟨⟨rfl, rfl, by rw [phase]; rfl, fun keeps _ => (stored.head keeps).symm⟩,
        iff_of_false (List.cons_ne_nil _ _) (lt_irrefl Phase.confirming.rank)⟩
  | confirmed t understood confirms head _ done =>
      obtain ⟨phase, _, stored⟩ := allowed.confirming confirms head
      exact ⟨⟨rfl, rfl, by rw [phase]; exact toIssued, fun keeps _ => (stored.head keeps).symm⟩,
        iff_of_false (List.cons_ne_nil _ _) (not_lt_of_ge toIssued)⟩

theorem Writes.advances {session : Session} {record : CMPTransaction} (sound : Sound lib session)
    (shaped : ∀ old, session.stage.record? = some old → Shaped old)
    (writes : Writes lib session record) :
    ∃ old, session.stage.record? = some old ∧ record = { old with status := record.status } ∧
      Advances lib old record ∧ Shaped record := by
  rcases writes with ⟨old, t, stage, rfl⟩ | ⟨hold, exchange, status, stage, records, rfl⟩
  · have empty := sound.fresh old stage
    refine ⟨old, by rw [stage]; rfl, rfl, ⟨rfl, rfl, ?_, ?_⟩, ?_⟩
    · rw [empty]
      exact Nat.zero_le _
    · intro _ stored
      exact absurd (by rw [empty]) stored
    · exact iff_of_true (by simp [CMPTransactionStatus.enrolling, empty])
        (by decide : Phase.enrolling.rank < Phase.confirming.rank)
  · obtain ⟨_, _, _, _, hands, _⟩ := sound.handed hold exchange.call (by rw [stage]; rfl)
    have known : session.stage.record? = some hold.record := by rw [stage]; rfl
    exact ⟨hold.record, known, rfl, records.advances hands.phase (shaped _ known)⟩

end

/-- What an operation can do to the stored object. -/
inductive Cluster.Change (cluster : Cluster) : Op → Option CMPTransaction → Prop
  | keep (o : Op) : Change cluster o cluster.slot
  | create (record : CMPTransaction) (assigned : Assigned) (free : cluster.slot = none)
      (uid : cluster.freshUID assigned.uid) (version : cluster.freshVersion assigned.resourceVersion) :
      Change cluster (.createTransaction record) (some (record.created assigned))
  | update (record stored : CMPTransaction) (resourceVersion : String)
      (found : cluster.slot = some stored) (current : record.resourceVersion = stored.resourceVersion)
      (version : cluster.freshVersion resourceVersion) :
      Change cluster (.updateTransactionStatus record)
        (some (({ stored with status := record.status } : CMPTransaction).updated resourceVersion))
  | delete (key : NamespacedName) (uid : Option String) (stored : CMPTransaction)
      (found : cluster.slot = some stored) (incarnation : ∀ u, uid = some u → u = stored.uid) :
      Change cluster (.deleteTransaction key uid) none

theorem Cluster.serves.change {cluster : Cluster} {o : Op} {answer : o.Answer}
    {after : Option CMPTransaction} (h : cluster.serves o answer after) : cluster.Change o after := by
  cases o with
  | now | getSecret | getCertificate | call | send => cases h; exact .keep _
  | entropy => obtain ⟨_, rfl⟩ := h; exact .keep _
  | random =>
      cases answer with
      | ok => obtain ⟨_, rfl⟩ := h; exact .keep _
      | error => cases h; exact .keep _
  | getTransaction =>
      cases answer with
      | ok => obtain ⟨_, _, rfl⟩ := h; exact .keep _
      | error => cases h
  | createTransaction record =>
      cases answer with
      | ok assigned => obtain ⟨free, uid, version, rfl⟩ := h; exact .create record assigned free uid version
      | error => cases h
  | updateTransactionStatus record =>
      cases answer with
      | ok resourceVersion =>
          obtain ⟨stored, found, _, current, version, rfl⟩ := h
          exact .update record stored resourceVersion found current version
      | error => cases h
  | deleteTransaction key uid =>
      cases answer with
      | ok =>
          obtain ⟨stored, found, _, incarnation, rfl⟩ := h
          exact .delete key uid stored found incarnation
      | error => cases h

theorem Cluster.ambiguous.change {cluster : Cluster} {o : Op} {answer : o.Answer}
    {after : Option CMPTransaction} (h : cluster.ambiguous o answer after) : cluster.Change o after := by
  rcases h with (served | ⟨_, rfl⟩) | ⟨_, _, served⟩
  · exact Cluster.serves.change served
  · exact .keep _
  · exact Cluster.serves.change served

theorem Cluster.Change.keeps {cluster : Cluster} {o : Op} {after : Option CMPTransaction}
    (change : cluster.Change o after) (quiet : o.stores = false) : after = cluster.slot := by
  cases change with
  | keep => rfl
  | create | update | delete => cases quiet

theorem Cluster.Change.deleted {cluster : Cluster} {o : Op} {stored : CMPTransaction}
    (change : cluster.Change o none) (found : cluster.slot = some stored) :
    ∃ key uid, o = .deleteTransaction key uid ∧ ∀ u, uid = some u → u = stored.uid := by
  generalize gone : none = after at change
  cases change with
  | keep => cases gone.trans found
  | create | update => cases gone
  | delete key uid other found' incarnation =>
      cases found'.symm.trans found
      exact ⟨key, uid, rfl, incarnation⟩

theorem Cluster.ambiguous.serves {cluster : Cluster} {o : Op} {answer : o.Answer}
    {after : Option CMPTransaction} (h : cluster.ambiguous o answer after) (success : ¬ o.failed answer) :
    cluster.serves o answer after := by
  rcases h with (served | ⟨failed, _⟩) | ⟨failed, _⟩
  · exact served
  · exact absurd failed success
  · exact absurd failed success

/-- The CertificateRequest that calls are made for. -/
structure Subject where
  key : NamespacedName
  uid : String

def Job.subject (job : Job) : Subject := ⟨job.request.key, job.request.uid⟩

/-- Before the first call the name is free, or a record of another CertificateRequest is left under it. -/
def Unclaimed (subject : Subject) (slot : Option CMPTransaction) : Prop :=
  ∀ record, slot = some record → record.uid ≠ "" ∧ record.spec.certificateRequestUID ≠ subject.uid

/-- The versions of the stored object, in the order in which they were stored. -/
structure Cluster.Ordered (lib : Library) (uid : String) (cluster : Cluster) : Prop where
  current : ∀ record, cluster.slot = some record → cluster.past.getLast? = some record
  identified : ∀ record ∈ cluster.past, record.uid ≠ ""
  versions : (cluster.past.map CMPTransaction.resourceVersion).Nodup
  advances : cluster.past.Pairwise fun old new => old.uid = new.uid → Advances lib old new
  shaped : ∀ record ∈ cluster.past, record.spec.certificateRequestUID = uid → Shaped record

namespace Cluster.Ordered

variable {lib : Library} {uid : String} {cluster : Cluster}

theorem start {subject : Subject} {slot : Option CMPTransaction} (unclaimed : Unclaimed subject slot) :
    (Cluster.start slot).Ordered lib subject.uid := by
  cases slot with
  | none =>
      exact ⟨by rintro _ ⟨⟩, by simp [Cluster.start], by simp [Cluster.start], by simp [Cluster.start],
        by simp [Cluster.start]⟩
  | some record =>
      obtain ⟨identified, foreign⟩ := unclaimed record rfl
      exact ⟨by simp [Cluster.start], by simpa [Cluster.start] using identified,
        by simp [Cluster.start], by simp [Cluster.start], by simp [Cluster.start, foreign]⟩

theorem mem (ordered : cluster.Ordered lib uid) {record : CMPTransaction}
    (stored : cluster.slot = some record) : record ∈ cluster.past :=
  List.mem_of_getLast? (ordered.current record stored)

theorem unique (ordered : cluster.Ordered lib uid) {a b : CMPTransaction} (first : a ∈ cluster.past)
    (second : b ∈ cluster.past) (same : a.resourceVersion = b.resourceVersion) : a = b :=
  List.inj_on_of_nodup_map ordered.versions first second same

theorem latest (ordered : cluster.Ordered lib uid) {stored record : CMPTransaction}
    (found : cluster.slot = some stored) (member : record ∈ cluster.past)
    (same : record.uid = stored.uid) : Advances lib record stored := by
  obtain ⟨before, split⟩ := List.getLast?_eq_some_iff.mp (ordered.current stored found)
  have advances := ordered.advances
  rw [split, List.pairwise_append] at advances
  rw [split] at member
  rcases List.mem_append.mp member with earlier | last
  · exact advances.2.2 record earlier stored List.mem_cons_self same
  · obtain rfl := List.mem_singleton.mp last
    exact .refl _

theorem push (ordered : cluster.Ordered lib uid) {record : CMPTransaction} {log : List Entry}
    (identified : record.uid ≠ "") (version : cluster.freshVersion record.resourceVersion)
    (advances : ∀ old ∈ cluster.past, old.uid = record.uid → Advances lib old record)
    (shaped : record.spec.certificateRequestUID = uid → Shaped record) :
    Cluster.Ordered lib uid ⟨some record, cluster.past ++ [record], log⟩ where
  current := by
    rintro _ ⟨⟩
    exact List.getLast?_concat
  identified := by
    intro other member
    rcases List.mem_append.mp member with before | last
    · exact ordered.identified other before
    · exact List.mem_singleton.mp last ▸ identified
  versions := by
    rw [List.map_append, List.nodup_append]
    refine ⟨ordered.versions, List.nodup_singleton _, ?_⟩
    rintro _ before _ last rfl
    obtain ⟨other, member, same⟩ := List.mem_map.mp before
    exact version other member (same.trans (List.mem_singleton.mp last))
  advances := by
    refine List.pairwise_append.mpr ⟨ordered.advances, List.pairwise_singleton _ _, ?_⟩
    intro old member new last
    obtain rfl := List.mem_singleton.mp last
    exact advances old member
  shaped := by
    intro other member
    rcases List.mem_append.mp member with before | last
    · exact ordered.shaped other before
    · exact List.mem_singleton.mp last ▸ shaped

theorem pushCreated (ordered : cluster.Ordered lib uid) (record : CMPTransaction) {assigned : Assigned}
    {log : List Entry} (fresh : cluster.freshUID assigned.uid)
    (version : cluster.freshVersion assigned.resourceVersion) :
    Cluster.Ordered lib uid
      ⟨some (record.created assigned), cluster.past ++ [record.created assigned], log⟩ :=
  ordered.push fresh.1 version (fun old member same => absurd same (fresh.2 old member))
    fun _ => iff_of_true rfl (by decide : Phase.unset.rank < Phase.confirming.rank)

theorem empty (ordered : cluster.Ordered lib uid) {log : List Entry} :
    Cluster.Ordered lib uid ⟨none, cluster.past, log⟩ :=
  ⟨by rintro _ ⟨⟩, ordered.identified, ordered.versions, ordered.advances, ordered.shaped⟩

/-- An operation keeps the order when a status update takes the version it was made from forward. -/
theorem step (ordered : cluster.Ordered lib uid) {o : Op} {answer : o.Answer} {thread : Nat}
    {after : Option CMPTransaction} (change : cluster.Change o after)
    (forward : ∀ record, o = .updateTransactionStatus record → ∃ old ∈ cluster.past,
      record = { old with status := record.status } ∧ Advances lib old record ∧
      (record.spec.certificateRequestUID = uid → Shaped record)) :
    (cluster.step thread ⟨o, answer⟩ after).Ordered lib uid := by
  unfold Cluster.step
  cases change with
  | keep =>
      rw [if_pos rfl]
      exact ⟨ordered.current, ordered.identified, ordered.versions, ordered.advances, ordered.shaped⟩
  | create record assigned free fresh version =>
      rw [if_neg (by simp [free])]
      exact ordered.pushCreated record fresh version
  | update record stored resourceVersion found current version =>
      obtain ⟨old, member, same, advances, shaped⟩ := forward record rfl
      obtain rfl : old = stored := ordered.unique member (ordered.mem found)
        ((congrArg CMPTransaction.resourceVersion same).symm.trans current)
      have written : ({ old with status := record.status } : CMPTransaction) = record := same.symm
      have changed : some (record.updated resourceVersion) ≠ cluster.slot := by
        rw [found]
        intro unchanged
        exact version old member (congrArg CMPTransaction.resourceVersion (Option.some.inj unchanged)).symm
      rw [written, if_neg changed]
      have uids : record.uid = old.uid := by rw [same]
      refine ordered.push (uids ▸ ordered.identified old member) version ?_ shaped
      intro earlier before sameUID
      have passed := (ordered.latest found before (sameUID.trans uids)).trans advances
      exact ⟨passed.owner, passed.transactionID, passed.phase, passed.leaf⟩
  | delete key named stored found incarnation =>
      rw [if_neg (by simp [found]), Option.toList_none, List.append_nil]
      exact ordered.empty

end Cluster.Ordered

end CmpIssuer
