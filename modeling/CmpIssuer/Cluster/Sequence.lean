import CmpIssuer.Cluster.Signers

/-!
Calls one after the other, without another writer. The record that the running
call works on is then the stored one, every record of the request was created
with a transaction ID, and each message belongs to the record that is stored
while it is sent.
-/
namespace CmpIssuer
open Effect

structure Orderly (lib : Library) (subject : Subject) (cluster : Cluster) (sessions : List Session) :
    Prop where
  consistent : Consistent lib subject cluster sessions
  /-- The running call knows the record that is stored. -/
  exclusive : ∀ session, sessions.getLast? = some session → ∀ record,
    session.stage.knows = some record → cluster.slot = some record
  drawn : ∀ session ∈ sessions, ∀ length bytes,
    (⟨.random length, .ok bytes⟩ : Event interface) ∈ session.trail → bytes.length = length
  named : ∀ record ∈ cluster.past, record.spec.certificateRequestUID = subject.uid →
    record.spec.transactionID ≠ []

theorem eq_or_earlier_of_concat {α : Type} {l a b : List α} {x e : α} (h : l ++ [x] = a ++ e :: b) :
    (b = [] ∧ l = a ∧ x = e) ∨ ∃ b', b = b' ++ [x] ∧ l = a ++ e :: b' := by
  rcases List.eq_nil_or_concat b with rfl | ⟨b', y, rfl⟩
  · obtain ⟨rfl, same⟩ := List.append_inj' h rfl
    cases same
    exact .inl ⟨rfl, rfl, rfl⟩
  · rw [List.concat_eq_append, ← List.cons_append, ← List.append_assoc] at h
    obtain ⟨rfl, same⟩ := List.append_inj' h rfl
    cases same
    exact .inr ⟨b', List.concat_eq_append, rfl⟩

section
variable {lib : Library} {subject : Subject} {cluster : Cluster} {sessions : List Session}
  {session : Session}

theorem Cluster.mem_past_step {thread : Nat} {event : Event interface} {after : Option CMPTransaction}
    {record : CMPTransaction} (member : record ∈ (cluster.step thread event after).past) :
    record ∈ cluster.past ∨ after = some record := by
  unfold Cluster.step at member
  dsimp only at member
  split at member
  · exact .inl member
  · rcases List.mem_append.mp member with old | new
    · exact .inl old
    · exact .inr (Option.mem_toList.mp new)

/-- What the running call knows after an operation is what is stored then. -/
theorem Orderly.exclusive_step (orderly : Orderly lib subject cluster (sessions ++ [session])) {o : Op}
    {answer : o.Answer} {after : Option CMPTransaction} (allowed : (contract lib).allows session o)
    (served : cluster.ambiguous o answer after) {record : CMPTransaction}
    (known : ((contract lib).next session o answer).stage.knows = some record) : after = some record := by
  have member : session ∈ sessions ++ [session] := List.mem_append_right _ List.mem_cons_self
  rcases Stage.next_knows known with ⟨key, event⟩ | ⟨asked, assigned, event, rfl⟩ |
    ⟨written, resourceVersion, event, rfl⟩ | ⟨quiet, before⟩
  · cases event
    obtain ⟨found, _, rfl⟩ := Cluster.ambiguous.serves served (by rintro ⟨⟩)
    exact found
  · cases event
    obtain ⟨_, _, _, rfl⟩ := Cluster.ambiguous.serves served (by rintro ⟨⟩)
    rfl
  · cases event
    obtain ⟨stored, found, _, current, _, rfl⟩ := Cluster.ambiguous.serves served (by rintro ⟨⟩)
    rw [(orderly.consistent.updated member allowed found current _).2]
  · rw [(Cluster.ambiguous.change served).keeps quiet]
    exact orderly.exclusive session List.getLast?_concat record before

/-- A record of the request gets its transaction ID when it is created and keeps it. -/
theorem Orderly.named_step (orderly : Orderly lib subject cluster (sessions ++ [session])) {o : Op}
    {answer : o.Answer} {record : CMPTransaction} (allowed : (contract lib).allows session o)
    (served : cluster.ambiguous o answer (some record))
    (own : record.spec.certificateRequestUID = subject.uid) : record.spec.transactionID ≠ [] := by
  have member : session ∈ sessions ++ [session] := List.mem_append_right _ List.mem_cons_self
  have change := Cluster.ambiguous.change served
  generalize stored : some record = after at change
  cases change with
  | keep => exact orderly.named record (orderly.consistent.ordered.mem stored.symm) own
  | create asked assigned =>
      cases stored
      obtain ⟨transactionID, deadline, detail, csrDER, rfl, random, _⟩ := allowed.2.fields
      have length := orderly.drawn session member _ _ random
      intro empty
      have empty : transactionID = [] := empty
      rw [empty] at length
      cases length
  | update written old resourceVersion found current =>
      rw [(orderly.consistent.updated member allowed found current _).2] at stored
      cases stored
      obtain ⟨before, past, _, same, advances, _⟩ := orderly.consistent.forward member allowed
      have owner : before.spec.certificateRequestUID = subject.uid := advances.owner.symm.trans own
      have kept : (written.updated resourceVersion).spec.transactionID = before.spec.transactionID :=
        advances.transactionID
      rw [kept]
      exact orderly.named before past owner
  | delete => cases stored

theorem Orderly.act (orderly : Orderly lib subject cluster (sessions ++ [session])) {o : Op}
    {answer : o.Answer} {after : Option CMPTransaction} (allowed : (contract lib).allows session o)
    (served : cluster.ambiguous o answer after) :
    Orderly lib subject (cluster.step sessions.length ⟨o, answer⟩ after)
      (sessions ++ [(contract lib).next session o answer]) where
  consistent := by
    have stepped := orderly.consistent.act (i := sessions.length) (by simp) allowed served
    rwa [List.set_append_right _ _ (Nat.le_refl _), Nat.sub_self, List.set_cons_zero] at stepped
  exclusive := by
    intro running last record known
    rw [List.getLast?_concat] at last
    cases last
    exact orderly.exclusive_step allowed served known
  drawn := by
    intro other member length bytes random
    rcases List.mem_append.mp member with old | new
    · exact orderly.drawn other (List.mem_append_left _ old) length bytes random
    · cases List.mem_singleton.mp new
      rcases List.mem_append.mp random with before | last
      · exact orderly.drawn session (List.mem_append_right _ List.mem_cons_self) length bytes before
      · cases List.mem_singleton.mp last
        exact (Cluster.ambiguous.serves served (by rintro ⟨⟩)).1
  named := by
    intro record member own
    rcases Cluster.mem_past_step member with old | rfl
    · exact orderly.named record old own
    · exact orderly.named_step allowed served own

theorem Orderly.spawn (orderly : Orderly lib subject cluster sessions) {job : Job}
    (wanted : job.subject = subject) : Orderly lib subject cluster (sessions ++ [Session.begin job]) where
  consistent := orderly.consistent.spawn wanted
  exclusive := by
    intro running last record known
    rw [List.getLast?_concat] at last
    cases last
    cases known
  drawn := by
    intro session member
    rcases List.mem_append.mp member with old | new
    · exact orderly.drawn session old
    · cases List.mem_singleton.mp new
      rintro _ _ ⟨⟩
  named := orderly.named

theorem Orderly.start {slot : Option CMPTransaction} (unclaimed : Unclaimed subject slot) :
    Orderly lib subject (Cluster.start slot) [] where
  consistent := .start unclaimed
  exclusive := by rintro _ ⟨⟩
  drawn := by simp
  named := by
    intro record member own
    exact absurd own (unclaimed record (Option.mem_toList.mp member)).2

/-- The running call works on the stored record, which is one of its request. -/
theorem Orderly.held (orderly : Orderly lib subject cluster (sessions ++ [session])) {hold : Hold}
    (stage : session.stage.hold? = some hold) :
    cluster.slot = some hold.record ∧ hold.record.spec.certificateRequestUID = subject.uid ∧
      hold.record.spec.transactionID ≠ [] := by
  have member : session ∈ sessions ++ [session] := List.mem_append_right _ List.mem_cons_self
  have known := Stage.record_of_hold stage
  have stored := orderly.exclusive session List.getLast?_concat _ (Stage.knows_of_record known)
  have own : hold.record.spec.certificateRequestUID = subject.uid :=
    ((orderly.consistent.sound session member).own _ known).trans
      (congrArg Subject.uid (orderly.consistent.subject session member))
  exact ⟨stored, own, orderly.named _ (orderly.consistent.ordered.mem stored) own⟩

theorem Orderly.sends (orderly : Orderly lib subject cluster (sessions ++ [session]))
    (laws : MessageLaws lib) {sent : HTTPRequest} (sends : Sends lib session sent) :
    ∃ hold call, session.stage.serving = some (hold, call) ∧ cluster.slot = some hold.record ∧
      hold.record.spec.certificateRequestUID = subject.uid ∧ PhaseAllows lib hold.record call ∧
      call.speaks lib sent.message.body ∧
      sent.message.header.transactionID = hold.record.spec.transactionID ∧
      ∃ drawn : Entropy, session.trail.getLast? = some ⟨.entropy, drawn⟩ ∧
        sent.message.header.senderNonce = drawn.senderNonce := by
  have member : session ∈ sessions ++ [session] := List.mem_append_right _ List.mem_cons_self
  obtain ⟨hold, call, serving, sentFor⟩ := sends.serving
  obtain ⟨before, _, _, _, hands, _⟩ := (orderly.consistent.sound session member).handed hold call serving
  obtain ⟨stored, own, named⟩ := orderly.held (Stage.hold_of_serving serving)
  have sameID := call.request_transactionID.trans hands.enrolls.transactionID
  obtain ⟨speaks, identified, nonce⟩ := sentFor.message laws
  exact ⟨hold, call, serving, stored, own, hands.phase, speaks,
    (identified (sameID ▸ named)).trans sameID, nonce⟩

/-- A delete of the running call that takes effect removes the record it names. -/
theorem Orderly.deletes (orderly : Orderly lib subject cluster (sessions ++ [session])) {o : Op}
    {stored : CMPTransaction} (allowed : (contract lib).allows session o)
    (change : cluster.Change o none) (found : cluster.slot = some stored) :
    o = .deleteTransaction stored.key (some stored.uid) := by
  have member : session ∈ sessions ++ [session] := List.mem_append_right _ List.mem_cons_self
  obtain ⟨key, uid, rfl, _⟩ := change.deleted found
  obtain ⟨record, deletable, rfl, rfl⟩ := allowed
  have knows := Stage.knows_of_deletable deletable
  cases found.symm.trans (orderly.exclusive session List.getLast?_concat record knows)
  rw [deletePreconditions, if_neg (orderly.consistent.ordered.identified _ (orderly.consistent.ordered.mem found))]

end

end CmpIssuer
