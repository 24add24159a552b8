import CmpIssuer.Cluster.Chronicle
import CmpIssuer.Cluster.Deployment
import CmpIssuer.Session.Execution

/-!
What failures do to the stored record, for one `Sign` call whose store reports
faithfully. An answer that is not accepted leaves the record alone, and a call
that fails for good removes it, except where it returns past `failTransaction`.
-/
namespace CmpIssuer
open Effect

section
variable {lib : Library} {session : Session} {o : Op} {answer : o.Answer}

/-- A stage in which nothing more is recorded: the answer at hand is not accepted, or it is the answer to
a refusal, or the work has ended. The events are those that follow. -/
def Stage.Idle (lib : Library) (later : Trail) : Stage → Prop
  | .answered _ call request answer => ∀ t, examinedAt later = some t → ∀ response signer,
      call.accept lib t request.message answer ≠ .ok (response, signer)
  | .examined _ exchange => ∀ response signer,
      exchange.call.accept lib exchange.instant exchange.request.message exchange.answer ≠
        .ok (response, signer)
  | .refusing _ _ | .removed _ | .stopped => True
  | _ => False

/-- In such a stage a call only looks around or removes the record it works on. -/
theorem Stage.Idle.silent_or_delete {later : Trail} (idle : session.stage.Idle lib later)
    (allowed : (contract lib).allows session o) :
    o.silent = true ∨ ∃ key uid, o = .deleteTransaction key uid ∧ session.stage.working.isSome := by
  obtain ⟨job, trail, stage⟩ := session
  cases o with
  | now | random | entropy | getSecret | getCertificate => exact .inl rfl
  | getTransaction =>
      obtain ⟨rfl, _⟩ := allowed
      exact idle.elim
  | createTransaction =>
      obtain ⟨rfl, _⟩ := allowed
      exact idle.elim
  | updateTransactionStatus =>
      rcases allowed with ⟨_, _, rfl, _⟩ | ⟨_, _, _, rfl, records, _⟩
      · exact idle.elim
      · obtain ⟨_, _, accepted⟩ := records.accepted
        exact (idle _ _ accepted).elim
  | deleteTransaction key uid =>
      obtain ⟨record, deletable, _⟩ := allowed
      refine .inr ⟨key, uid, rfl, ?_⟩
      cases stage <;> first | exact idle.elim | rfl | cases deletable
  | call =>
      obtain ⟨_, rfl, _⟩ := allowed
      exact idle.elim
  | send =>
      rcases allowed with ⟨_, _, rfl, _⟩ | ⟨_, _, rfl, _, _, _, _, _, _, understood⟩
      · exact idle.elim
      · exact (idle _ _ understood.accepted).elim

theorem Stage.Idle.next {stage : Stage} {later : Trail} (idle : stage.Idle lib (⟨o, answer⟩ :: later)) (job : Job)
    (allowed : o.silent = true ∨ ∃ key uid, o = .deleteTransaction key uid ∧ stage.working.isSome) :
    (stage.next job o answer).Idle lib later := by
  rcases allowed with silent | ⟨key, uid, rfl, working⟩
  · cases o with
    | now =>
        cases stage with
        | answered => exact idle answer rfl
        | _ => exact idle
    | random | entropy | getSecret | getCertificate => cases stage <;> exact idle
    | _ => cases silent
  · obtain ⟨hold, working⟩ := Option.isSome_iff_exists.mp working
    cases answer <;> cases stage <;> cases working <;> simp only [Stage.next, afterDelete] <;>
      first | trivial | (split <;> trivial)

/-- One operation in such a stage keeps the stored record or removes it, and a call knows it when it
removed the record. -/
theorem Stage.Idle.slot {cluster : Cluster} {later : Trail} {after : Option CMPTransaction}
    (idle : session.stage.Idle lib later) (allowed : (contract lib).allows session o)
    (served : cluster.honest o answer after) :
    after = cluster.slot ∨
      after = none ∧ ∃ record, ((contract lib).next session o answer).stage = .removed record := by
  rcases idle.silent_or_delete allowed with silent | ⟨key, uid, rfl, working⟩
  · refine .inl ((Cluster.ambiguous.change (.inl served)).keeps ?_)
    cases o <;> first | rfl | cases silent
  · rcases served with serves | ⟨_, same⟩
    · cases answer with
      | ok =>
          obtain ⟨hold, working⟩ := Option.isSome_iff_exists.mp working
          obtain ⟨_, _, _, _, rfl⟩ := serves
          refine .inr ⟨rfl, hold.record, ?_⟩
          obtain ⟨_, _, stage⟩ := session
          cases stage <;> cases working <;> rfl
      | error => exact serves.elim
    · exact .inl same

theorem Follows.removed {Q : Session → Except (Fault GoError) Bytes → Prop} {p q : Go GoError Bytes}
    {t : Trail} {record : CMPTransaction} (follows : Follows (contract lib) Q session p)
    (path : Path p t q) (stage : session.stage = .removed record) :
    ((contract lib).run session t).stage = .removed record := by
  refine follows.keeps (I := fun session => session.stage = .removed record) ?_ path stage
  intro session o answer removed allowed
  have idle : session.stage.Idle lib [] := by rw [removed]; trivial
  rcases idle.silent_or_delete allowed with silent | ⟨_, _, _, working⟩
  · exact (Stage.next_silent silent (by rw [removed]; trivial)).trans removed
  · rw [removed] at working
    cases working

theorem Follows.idle {Q : Session → Except (Fault GoError) Bytes → Prop} {p q : Go GoError Bytes}
    {t : Trail} {cluster final : Cluster} {i : Nat} (follows : Follows (contract lib) Q session p)
    (path : Path p t q) (trace : honestWorld.Trace i cluster t final)
    (idle : session.stage.Idle lib t) :
    final.slot = cluster.slot ∨
      final.slot = none ∧ ∃ record, ((contract lib).run session t).stage = .removed record := by
  induction path generalizing session cluster with
  | refl => cases trace; exact .inl rfl
  | step answer rest ih =>
      cases trace with
      | cons first later =>
          obtain ⟨after, served, rfl⟩ := first
          have stays := idle.next session.job (idle.silent_or_delete follows.1)
          rcases ih (follows.2 answer) later stays with kept | removed
          · rcases idle.slot follows.1 served with same | ⟨gone, record, stage⟩
            · exact .inl (kept.trans same)
            · have ended := Follows.removed (follows.2 answer) rest stage
              exact .inr ⟨kept.trans gone, record, ended⟩
          · exact .inr removed

/-- The stage after a message whose answer will not be accepted, or after a refusal. -/
theorem Sends.idle {sent : HTTPRequest} {answer : HTTPAnswer} {later : Trail} (sends : Sends lib session sent)
    (unaccepted : ∀ hold call, session.stage = .calling hold call → ∀ t, examinedAt later = some t →
      ∀ response signer, call.accept lib t sent.message answer ≠ .ok (response, signer)) :
    ((contract lib).next session (.send sent) answer).stage.Idle lib later := by
  obtain ⟨job, trail, stage⟩ := session
  rcases sends with ⟨hold, call, rfl, _⟩ | ⟨hold, exchange, rfl, _⟩
  · exact unaccepted hold call rfl
  · trivial

theorem Stage.next_calling {job : Job} {stage : Stage} {hold : Hold} {call : ClientCall}
    (h : stage.next job o answer = .calling hold call) :
    (stage = .held hold ∧ (⟨o, answer⟩ : Event interface) = ⟨.call call, ()⟩) ∨
      (stage = .calling hold call ∧ o.message? = none) := by
  cases o with
  | now | send => cases stage <;> first | exact .inr ⟨h, rfl⟩ | cases h
  | random | entropy | getSecret | getCertificate => exact .inr ⟨h, rfl⟩
  | call => cases stage <;> first | exact .inr ⟨h, rfl⟩ | (cases h; exact .inl ⟨rfl, rfl⟩)
  | createTransaction | updateTransactionStatus => cases answer <;> cases h
  | getTransaction => cases answer <;> simp only [Stage.next] at h <;> split at h <;> cases h
  | deleteTransaction =>
      cases answer <;> cases stage <;> simp only [Stage.next, afterDelete] at h <;>
        first | cases h | (split at h <;> cases h)

/-- Nothing was handed over or sent since the request that waits for its message was handed over. -/
theorem sign_calling {job : Job} {t : Trail} {p : Go GoError Bytes}
    (path : Path (sign lib job.clusterResourceNamespace job.request job.issuer) t p) {hold : Hold}
    {call : ClientCall} (stage : ((contract lib).run (Session.begin job) t).stage = .calling hold call) :
    ∃ u v, t = u ++ ⟨.call call, ()⟩ :: v ∧ ∀ e ∈ v, callHanded e = none ∧ e.op.message? = none := by
  have kept : ∀ hold call, ((contract lib).run (Session.begin job) t).stage = .calling hold call →
      ∃ u v, ((contract lib).run (Session.begin job) t).trail = u ++ ⟨.call call, ()⟩ :: v ∧
        ∀ e ∈ v, callHanded e = none ∧ e.op.message? = none := by
    refine (sign_follows lib job).keeps (I := fun session => ∀ hold call, session.stage = .calling hold call →
      ∃ u v, session.trail = u ++ ⟨.call call, ()⟩ :: v ∧
        ∀ e ∈ v, callHanded e = none ∧ e.op.message? = none) ?_ path (by rintro _ _ ⟨⟩)
    intro session o answer known allowed hold call stage
    rcases Stage.next_calling stage with ⟨_, event⟩ | ⟨before, unsent⟩
    · cases event
      exact ⟨session.trail, [], rfl, by rintro _ ⟨⟩⟩
    · obtain ⟨u, v, same, quiet⟩ := known hold call before
      refine ⟨u, v ++ [⟨o, answer⟩], by simp [contract, same], List.forall_mem_append.mpr ⟨quiet, ?_⟩⟩
      refine List.forall_mem_singleton.mpr ⟨?_, unsent⟩
      cases o with
      | call other =>
          obtain ⟨held, other, _⟩ := allowed
          cases before.symm.trans other
      | _ => rfl
  simpa using kept hold call stage

theorem Finish.permanent {r : Except (Fault GoError) Bytes} {record : CMPTransaction}
    (finish : Finish lib session r) (stage : session.stage = .removed record) :
    ∃ err, r = .error (.error err) ∧ err.isPermanent = true := by
  rcases r with (err | reason) | bundle
  · simp only [Finish, Fails, stage] at finish
    exact ⟨err, rfl, finish⟩
  · obtain ⟨_, _, _, _, examined, _⟩ := finish
    cases stage.symm.trans examined
  · obtain ⟨_, _, _, held, _⟩ := finish
    cases stage.symm.trans held

theorem sent_of_asked {job : Job} {t : Trail} {p : Go GoError Bytes}
    (path : Path (sign lib job.clusterResourceNamespace job.request job.issuer) t p) {hold : Hold}
    {call : ClientCall} {recording : Recording}
    (asked : ((contract lib).run (Session.begin job) t).stage.asked = some (hold, call, recording)) :
    (⟨.send recording.request, recording.answer⟩ : Event interface) ∈ t := by
  have kept : ∀ hold call recording,
      ((contract lib).run (Session.begin job) t).stage.asked = some (hold, call, recording) →
      (⟨.send recording.request, recording.answer⟩ : Event interface) ∈
        ((contract lib).run (Session.begin job) t).trail := by
    refine (sign_follows lib job).keeps (I := fun session => ∀ hold call recording,
      session.stage.asked = some (hold, call, recording) →
      (⟨.send recording.request, recording.answer⟩ : Event interface) ∈ session.trail) ?_ path
      (by rintro _ _ _ ⟨⟩)
    intro session o answer known allowed hold call recording asked
    rcases Stage.next_asked (Sends.calm allowed) asked with ⟨_, event⟩ | ⟨before, _⟩
    · exact List.mem_append_right _ (List.mem_singleton.mpr event.symm)
    · exact List.mem_append_left _ (known hold call recording before)
  simpa using kept hold call recording asked

end

/-- A `Sign` call and the answers it gets. An answer that is not accepted changes nothing in the store:
after the call the record is as it was when the message was sent, or it was removed and the call has
failed for good. The answer to a second message, the certConf that refuses a certificate, changes nothing
either, accepted or not. So every status but the first is what an accepted answer leads to. -/
theorem record_follows_accepted {lib : Library} {job : Job} :
    (∀ before sent answer after r middle final,
      Path (sign lib job.clusterResourceNamespace job.request job.issuer)
        (before ++ ⟨.send sent, answer⟩ :: after) (.ofExcept r) →
      honestWorld.Trace 0 middle (⟨.send sent, answer⟩ :: after) final →
      (∀ u call v, before = u ++ ⟨.call call, ()⟩ :: v →
        (∀ e ∈ v, callHanded e = none ∧ e.op.message? = none) → ∀ t, examinedAt after = some t →
        ∀ response signer, call.accept lib t sent.message answer ≠ .ok (response, signer)) →
      final.slot = middle.slot ∨
        final.slot = none ∧ ∃ err, r = .error (.error err) ∧ err.isPermanent = true) ∧
    ∀ t written next, Path (sign lib job.clusterResourceNamespace job.request job.issuer) t
        (.op (.updateTransactionStatus written) next) →
      (∃ (old : CMPTransaction) (instant : Time),
        written = { old with status := old.status.enrolling instant }) ∨
      ∃ (old : CMPTransaction) (exchange : Exchange) (response : PKIMessage) (signer : Option Certificate),
        written = { old with status := written.status } ∧
        (⟨.send exchange.request, exchange.answer⟩ : Event interface) ∈ t ∧
        exchange.call.accept lib exchange.instant exchange.request.message exchange.answer =
          .ok (response, signer) ∧ Records lib t old exchange written.status := by
  refine ⟨?_, ?_⟩
  · intro before sent answer after r middle final path trace unaccepted
    obtain ⟨p, first, rest⟩ := path.append_inv
    cases rest with
    | step _ rest =>
        have follows := (sign_follows lib job).path first
        cases trace with
        | cons acted later =>
            obtain ⟨slot, served, rfl⟩ := acted
            have same : slot = middle.slot := (Cluster.ambiguous.change (.inl served)).keeps rfl
            have idle : ((contract lib).next _ (.send sent) answer).stage.Idle lib after :=
              Sends.idle follows.1 fun hold call stage => by
                obtain ⟨u, v, split, quiet⟩ := sign_calling first stage
                exact unaccepted u call v split quiet
            rcases Follows.idle (follows.2 answer) rest later idle with kept | ⟨gone, record, stage⟩
            · exact .inl (kept.trans same)
            · have finish := follows_ofExcept.mp ((follows.2 answer).path rest)
              exact .inr ⟨gone, Finish.permanent finish stage⟩
  · intro t written next path
    rcases (sign_follows lib job).allows path with ⟨old, instant, _, same⟩ |
      ⟨hold, exchange, status, stage, records, rfl⟩
    · exact .inl ⟨old, instant, same⟩
    · obtain ⟨response, signer, accepted⟩ := records.accepted
      have asked := sent_of_asked path (by rw [stage]; rfl)
      rw [contract_run_trail] at records
      exact .inr ⟨hold.record, exchange, response, signer, rfl, asked, accepted, records⟩

/-- A poll that gets no answer. -/
theorem record_follows_accepted_unanswered : ∃ before sent err after r middle final,
    Path (sign plainLibrary plainJob.clusterResourceNamespace plainJob.request plainJob.issuer)
      (before ++ ⟨.send sent, .failed err⟩ :: after) (.ofExcept r) ∧
    honestWorld.Trace 0 middle (⟨.send sent, .failed err⟩ :: after) final ∧
    (final.slot = middle.slot ∨
      final.slot = none ∧ ∃ err, r = .error (.error err) ∧ err.isPermanent = true) := by
  obtain ⟨d, ended, failed⟩ : ∃ d : Deployment,
      (d.run plainLibrary plainJob 40).2.2.outcome?.isSome = true ∧
      (d.run plainLibrary plainJob 40).1.any unanswered = true :=
    ⟨(plainDeployment none [plainReply 4 [9], .failed "reset"]).after plainLibrary plainJob 40,
      by decide +kernel, by decide +kernel⟩
  obtain ⟨r, ended⟩ := Option.isSome_iff_exists.mp ended
  obtain ⟨_, member, failed⟩ := List.any_eq_true.mp failed
  obtain ⟨sent, err, rfl⟩ := exists_send_of_unanswered failed
  obtain ⟨before, after, split⟩ := List.append_of_mem member
  have path := d.run_outcome plainLibrary plainJob 40 ended
  have trace := d.run_trace plainLibrary plainJob 40
  rw [split] at path trace
  obtain ⟨middle, _, trace⟩ := trace.append_inv
  refine ⟨before, sent, err, after, r, middle, _, path, trace, ?_⟩
  exact record_follows_accepted.1 before sent _ after r middle _ path trace (by rintro _ _ _ _ _ _ _ _ _ ⟨⟩)

/-- A call in a cluster whose store operations succeed: it knows what is stored, and nothing has stopped it. -/
structure Settled (cluster : Cluster) (session : Session) : Prop where
  known : ∀ record, session.stage.knows = some record → cluster.slot = some record
  removed : ∀ record, session.stage = .removed record → cluster.slot = none
  runs : session.stage ≠ .stopped
  uncreated : session.stage.early = true → ∀ record assigned,
    (⟨.createTransaction record, .ok assigned⟩ : Event interface) ∉ session.trail

section
variable {lib : Library} {cluster : Cluster} {session : Session} {o : Op} {answer : o.Answer}
  {after : Option CMPTransaction}

theorem Settled.known_step (settled : Settled cluster session) (allowed : (contract lib).allows session o)
    (served : cluster.reliable o answer after) {record : CMPTransaction}
    (known : ((contract lib).next session o answer).stage.knows = some record) : after = some record := by
  rcases Stage.next_knows known with ⟨key, event⟩ | ⟨asked, assigned, event, rfl⟩ |
    ⟨written, resourceVersion, event, rfl⟩ | ⟨quiet, before⟩
  · cases event
    obtain ⟨found, _, rfl⟩ := served
    exact found
  · cases event
    obtain ⟨_, _, _, rfl⟩ := served
    rfl
  · cases event
    obtain ⟨stored, found, _, _, _, rfl⟩ := served
    obtain ⟨old, stage, same⟩ := Writes.record allowed
    cases found.symm.trans (settled.known old (Stage.knows_of_record stage))
    rw [← same]
  · rw [(Cluster.ambiguous.change (.inl served.honest)).keeps quiet]
    exact settled.known record before

theorem Settled.removed_step (settled : Settled cluster session) (lib : Library)
    (served : cluster.reliable o answer after) {record : CMPTransaction}
    (removed : ((contract lib).next session o answer).stage = .removed record) : after = none := by
  rcases Stage.next_removed removed with ⟨key, uid, rfl⟩ | ⟨quiet, before⟩
  · cases answer with
    | ok =>
        obtain ⟨_, _, _, _, rfl⟩ := served
        rfl
    | error => exact served.elim
  · rw [(Cluster.ambiguous.change (.inl served.honest)).keeps quiet]
    exact settled.removed record before

theorem Settled.runs_step (settled : Settled cluster session) (allowed : (contract lib).allows session o)
    (served : cluster.reliable o answer after) :
    ((contract lib).next session o answer).stage ≠ .stopped := by
  have runs := settled.runs
  obtain ⟨job, trail, stage⟩ := session
  cases o with
  | now | call | send => cases stage <;> first | exact runs | (rintro ⟨⟩)
  | random | entropy | getSecret | getCertificate => exact runs
  | getTransaction =>
      cases answer with
      | ok =>
          simp only [contract, Stage.next]
          split <;> rintro ⟨⟩
      | error =>
          simp only [contract, Stage.next, if_pos served.1]
          rintro ⟨⟩
  | createTransaction | updateTransactionStatus =>
      cases answer with
      | ok => rintro ⟨⟩
      | error => exact served.elim
  | deleteTransaction =>
      cases answer with
      | ok =>
          obtain ⟨_, deletable, _⟩ := allowed
          cases stage <;> cases deletable <;> rintro ⟨⟩
      | error => exact served.elim

theorem Settled.act (settled : Settled cluster session) (allowed : (contract lib).allows session o)
    (served : cluster.reliable o answer after) (i : Nat) :
    Settled (cluster.step i ⟨o, answer⟩ after) ((contract lib).next session o answer) where
  known _ known := settled.known_step allowed served known
  removed _ removed := settled.removed_step lib served removed
  runs := settled.runs_step allowed served
  uncreated early record assigned member := by
    obtain ⟨before, other⟩ := Stage.next_early early (by rintro key rfl; exact allowed.1)
    rcases List.mem_append.mp member with old | last
    · exact settled.uncreated before record assigned old
    · cases List.mem_singleton.mp last
      exact other record rfl

theorem Settled.begin (cluster : Cluster) (job : Job) : Settled cluster (Session.begin job) where
  known := by rintro _ ⟨⟩
  removed := by rintro _ ⟨⟩
  runs := by rintro ⟨⟩
  uncreated := by rintro _ _ _ ⟨⟩

/-- Every point of a call in such a cluster. -/
theorem sign_settled {job : Job} {t : Trail} {p : Go GoError Bytes} {final : Cluster} {i : Nat}
    (path : Path (sign lib job.clusterResourceNamespace job.request job.issuer) t p)
    (trace : reliableWorld.Trace i cluster t final) :
    Settled final ((contract lib).run (Session.begin job) t) := by
  refine Follows.invariant (J := Settled) ?_ (sign_follows lib job) path trace (.begin cluster job)
  rintro s session o answer _ settled allowed ⟨after, served, rfl⟩
  exact settled.act allowed served i

end

def FailsForGood (r : Except (Fault GoError) Bytes) : Prop :=
  ∃ err, r = .error (.error err) ∧ err.isPermanent = true

instance : DecidablePred FailsForGood
  | .error (.error err) => decidable_of_iff (err.isPermanent = true)
      ⟨fun permanent => ⟨err, rfl, permanent⟩, by rintro ⟨_, ⟨⟩, permanent⟩; exact permanent⟩
  | .error (.panic _) => .isFalse (by rintro ⟨_, ⟨⟩, _⟩)
  | .ok _ => .isFalse (by rintro ⟨_, ⟨⟩, _⟩)

/-- The call has come to a record of its request: it has read or created one. -/
def Begins (job : Job) (t : Trail) : Prop :=
  (∃ key record, (⟨.getTransaction key, .ok record⟩ : Event interface) ∈ t ∧
    record.spec.certificateRequestUID = job.request.uid) ∨
  ∃ record assigned, (⟨.createTransaction record, .ok assigned⟩ : Event interface) ∈ t

section
variable {lib : Library} {job : Job} {t : Trail} {r : Except (Fault GoError) Bytes} {cluster final : Cluster}

/-- A call that has come to a record is past the stages without one. -/
theorem Begins.late {p : Go GoError Bytes} (begins : Begins job t)
    (path : Path (sign lib job.clusterResourceNamespace job.request job.issuer) t p)
    (settled : Settled final ((contract lib).run (Session.begin job) t)) :
    ((contract lib).run (Session.begin job) t).stage.early = false := by
  rw [Bool.eq_false_iff]
  intro early
  rcases begins with ⟨key, record, read, own⟩ | ⟨record, assigned, created⟩
  · have loaded := (sign_sound path).loaded
    simp only [contract_run_trail, contract_run_job, Session.begin_trail, Session.begin_job,
      List.nil_append] at loaded
    cases stage : ((contract lib).run (Session.begin job) t).stage with
    | start | stale | absent =>
        rw [stage] at loaded
        cases loaded trivial key record read own
    | _ =>
        rw [stage] at early
        cases early
  · exact settled.uncreated early record assigned (by simpa using created)

/-- How a call that has come to a record leaves it. -/
theorem sign_leaves (path : Path (sign lib job.clusterResourceNamespace job.request job.issuer) t (.ofExcept r))
    (trace : reliableWorld.Trace 0 cluster t final) (begins : Begins job t) :
    (FailsForGood r ∧ final.slot = none) ∨
    (∃ record, final.slot = some record ∧ record.spec.certificateRequestUID = job.request.uid ∧
      Obtained t record.uid) ∧
      ∀ err, r = .error (.error err) → err.isPermanent = true → ∃ record, Bypasses lib job record err t := by
  have settled := sign_settled path trace
  have late := begins.late path settled
  have finish := sign_finish path
  have sound := sign_sound path
  have held : ∀ record, ((contract lib).run (Session.begin job) t).stage.record? = some record →
      ∃ record, final.slot = some record ∧ record.spec.certificateRequestUID = job.request.uid ∧
        Obtained t record.uid := by
    intro record known
    have knows := Stage.knows_of_record known
    refine ⟨record, settled.known record knows, ?_, ?_⟩
    · simpa using sound.own record known
    · simpa using sound.obtained record knows
  rcases r with (err | reason) | bundle
  · simp only [Finish, Fails] at finish
    cases stage : ((contract lib).run (Session.begin job) t).stage with
    | start | stale | absent =>
        rw [stage] at late
        cases late
    | created | answered =>
        rw [stage] at finish
        exact finish.elim
    | stopped => exact absurd stage settled.runs
    | removed record =>
        rw [stage] at finish
        exact .inl ⟨⟨err, rfl, finish⟩, settled.removed record stage⟩
    | held hold =>
        rw [stage] at finish
        refine .inr ⟨held hold.record (by rw [stage]; rfl), ?_⟩
        rintro _ ⟨⟩ permanent
        exact ⟨hold.record, by simpa using finish permanent⟩
    | examined hold =>
        rw [stage] at finish
        refine .inr ⟨held hold.record (by rw [stage]; rfl), ?_⟩
        rintro _ ⟨⟩ permanent
        cases finish.1.symm.trans permanent
    | calling hold | refusing hold =>
        rw [stage] at finish
        refine .inr ⟨held hold.record (by rw [stage]; rfl), ?_⟩
        rintro _ ⟨⟩ permanent
        cases finish.symm.trans permanent
  · obtain ⟨hold, _, _, _, stage, _⟩ := finish
    exact .inr ⟨held hold.record (by rw [stage]; rfl), by rintro _ ⟨⟩⟩
  · obtain ⟨hold, _, _, stage, _⟩ := finish
    exact .inr ⟨held hold.record (by rw [stage]; rfl), by rintro _ ⟨⟩⟩

end

/-- A call that has come to a record, in a cluster whose store operations succeed. It removes the record
exactly when it returns a permanent error, unless it has resumed the record and the failure is one that
bypasses `failTransaction`. -/
theorem permanent_failure_removes_iff {lib : Library} {job : Job} {t : Trail}
    {r : Except (Fault GoError) Bytes} {cluster final : Cluster}
    (path : Path (sign lib job.clusterResourceNamespace job.request job.issuer) t (.ofExcept r))
    (trace : reliableWorld.Trace 0 cluster t final) (begins : Begins job t) :
    ((FailsForGood r → final.slot = none) ∧
      (¬ FailsForGood r → ∃ record, final.slot = some record ∧
        record.spec.certificateRequestUID = job.request.uid ∧ Obtained t record.uid)) ↔
    ¬ ∃ record err, Bypasses lib job record err t ∧ err.isPermanent = true := by
  constructor
  · rintro ⟨removes, _⟩ ⟨record, err, bypasses, permanent⟩
    have ended := Path.deterministic path bypasses.path
    have returned : r = .error (.error err) := by
      rcases r with fault | bundle
      · cases ended
        rfl
      · cases ended
    have stored := (sign_settled path trace).known record (by rw [bypasses.held]; rfl)
    cases stored.symm.trans (removes ⟨err, returned, permanent⟩)
  · intro regular
    rcases sign_leaves path trace begins with ⟨failed, gone⟩ | ⟨stored, bypasses⟩
    · exact ⟨fun _ => gone, fun other => absurd failed other⟩
    · refine ⟨?_, fun _ => stored⟩
      rintro ⟨err, returned, permanent⟩
      obtain ⟨record, bypass⟩ := bypasses err returned permanent
      exact absurd ⟨record, err, bypass, permanent⟩ regular

/-- A resumed transaction whose poll gets no answer. -/
theorem permanent_failure_removes_iff_polling : ∃ t r cluster final,
    Path (sign plainLibrary plainJob.clusterResourceNamespace plainJob.request plainJob.issuer) t
      (.ofExcept r) ∧ reliableWorld.Trace 0 cluster t final ∧ Begins plainJob t ∧
    (((FailsForGood r → final.slot = none) ∧
      (¬ FailsForGood r → ∃ record, final.slot = some record ∧
        record.spec.certificateRequestUID = plainJob.request.uid ∧ Obtained t record.uid)) ↔
      ¬ ∃ record err, Bypasses plainLibrary plainJob record err t ∧ err.isPermanent = true) := by
  obtain ⟨d, ended, succeed, loaded⟩ : ∃ d : Deployment,
      (d.run plainLibrary plainJob 40).2.2.outcome?.isSome = true ∧
      (∀ e ∈ (d.run plainLibrary plainJob 40).1, ¬ e.op.failed e.answer) ∧
      ∃ record ∈ (d.run plainLibrary plainJob 40).1.filterMap recordRead,
        record.spec.certificateRequestUID = plainJob.request.uid :=
    ⟨(plainDeployment none [plainReply 4 [9], .failed "reset"]).after plainLibrary plainJob 40,
      by decide +kernel, by decide +kernel, by decide +kernel⟩
  obtain ⟨r, ended⟩ := Option.isSome_iff_exists.mp ended
  obtain ⟨record, member, own⟩ := loaded
  obtain ⟨key, read⟩ := exists_read_of_mem member
  have path := d.run_outcome plainLibrary plainJob 40 ended
  have trace := d.run_reliable plainLibrary plainJob 40 succeed
  have begins : Begins plainJob _ := .inl ⟨key, record, read, own⟩
  exact ⟨_, r, _, _, path, trace, begins, permanent_failure_removes_iff path trace begins⟩

/-- The Certificate of a recorded IR is gone when the transaction is resumed: the call returns a permanent
error and the record stays. -/
theorem workload_failure_keeps_record : ∃ t r cluster final record,
    Path (sign plainLibrary irJob.clusterResourceNamespace irJob.request irJob.issuer) t (.ofExcept r) ∧
    reliableWorld.Trace 0 cluster t final ∧ Begins irJob t ∧ FailsForGood r ∧
    final.slot = some record := by
  obtain ⟨d, ended, succeed, loaded, stored⟩ : ∃ d : Deployment,
      (∃ r ∈ (d.run plainLibrary irJob 40).2.2.outcome?, FailsForGood r) ∧
      (∀ e ∈ (d.run plainLibrary irJob 40).1, ¬ e.op.failed e.answer) ∧
      (∃ record ∈ (d.run plainLibrary irJob 40).1.filterMap recordRead,
        record.spec.certificateRequestUID = irJob.request.uid) ∧
      (d.after plainLibrary irJob 40).cluster.slot.isSome = true :=
    ⟨plainDeployment (some (plainRecord irJob .ir)) [], by decide +kernel, by decide +kernel,
      by decide +kernel, by decide +kernel⟩
  obtain ⟨r, ended, permanent⟩ := ended
  obtain ⟨record, member, own⟩ := loaded
  obtain ⟨key, read⟩ := exists_read_of_mem member
  obtain ⟨stored, slot⟩ := Option.isSome_iff_exists.mp stored
  exact ⟨_, r, _, _, stored, d.run_outcome plainLibrary irJob 40 ended,
    d.run_reliable plainLibrary irJob 40 succeed, .inl ⟨key, record, read, own⟩, permanent, slot⟩

end CmpIssuer
