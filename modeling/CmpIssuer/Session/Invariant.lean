import CmpIssuer.Session.Signer

/-!
What a session that keeps to the contract knows in each stage. One lemma for
each part of the stage says how an operation can change it, and the invariants
are read off those lemmas.
-/
namespace CmpIssuer
open Effect

def Stage.hold? : Stage → Option Hold
  | .held hold | .calling hold _ | .answered hold _ _ _ | .examined hold _ | .refusing hold _ => some hold
  | _ => none

/-- The record of the request that a stage has in hand. -/
def Stage.record? : Stage → Option CMPTransaction
  | .created record => some record
  | stage => stage.hold?.map Hold.record

/-- The record a stage knows, also that of another request. -/
def Stage.knows : Stage → Option CMPTransaction
  | .stale record => some record
  | stage => stage.record?

def Stage.serving : Stage → Option (Hold × ClientCall)
  | .calling hold call | .answered hold call _ _ => some (hold, call)
  | .examined hold exchange | .refusing hold exchange => some (hold, exchange.call)
  | _ => none

def Op.stores : Op → Bool
  | .getTransaction _ | .createTransaction _ | .updateTransactionStatus _ | .deleteTransaction _ _ => true
  | _ => false

/-- Neither a failed store operation nor the removal of the record ended the work. -/
def Stage.live : Stage → Prop
  | .removed _ | .stopped => False
  | _ => True

theorem Stage.record_of_hold {stage : Stage} {hold : Hold} (h : stage.hold? = some hold) :
    stage.record? = some hold.record := by
  cases stage <;> cases h <;> rfl

theorem Stage.record_cases {stage : Stage} {record : CMPTransaction} (h : stage.record? = some record) :
    stage = .created record ∨ ∃ hold, stage.hold? = some hold ∧ hold.record = record := by
  cases stage <;> cases h <;> first | exact .inl rfl | exact .inr ⟨_, rfl, rfl⟩

theorem Stage.knows_cases {stage : Stage} {record : CMPTransaction} (h : stage.knows = some record) :
    stage = .stale record ∨ stage.record? = some record := by
  cases stage <;> first | exact .inr h | (cases h; exact .inl rfl)

theorem Stage.knows_of_record {stage : Stage} {record : CMPTransaction} (h : stage.record? = some record) :
    stage.knows = some record := by
  cases stage <;> cases h <;> rfl

theorem Stage.knows_of_deletable {stage : Stage} {record : CMPTransaction}
    (h : stage.deletable = some record) : stage.knows = some record := by
  cases stage <;> cases h <;> rfl

theorem Stage.hold_of_serving {stage : Stage} {hold : Hold} {call : ClientCall}
    (h : stage.serving = some (hold, call)) : stage.hold? = some hold := by
  cases stage <;> cases h <;> rfl

theorem Stage.origin_of_hold {stage : Stage} {hold : Hold} (h : stage.hold? = some hold) :
    stage.live ∧ stage.origin = hold.origin := by
  cases stage <;> cases h <;> exact ⟨trivial, rfl⟩

section
variable {job : Job} {stage : Stage} {o : Op} {answer : o.Answer}

theorem Stage.next_hold {hold : Hold} (h : (stage.next job o answer).hold? = some hold) :
    (∃ key record, (⟨o, answer⟩ : Event interface) = ⟨.getTransaction key, .ok record⟩ ∧
      record.spec.certificateRequestUID = job.request.uid ∧ hold = ⟨record, .loaded record⟩) ∨
    (∃ record resourceVersion,
      (⟨o, answer⟩ : Event interface) = ⟨.updateTransactionStatus record, .ok resourceVersion⟩ ∧
      hold = ⟨record.updated resourceVersion, stage.origin⟩) ∨
    (o.stores = false ∧ stage.hold? = some hold) := by
  cases o with
  | now | call | send => cases stage <;> exact .inr (.inr ⟨rfl, h⟩)
  | random | entropy | getSecret | getCertificate => exact .inr (.inr ⟨rfl, h⟩)
  | createTransaction => cases answer <;> cases h
  | updateTransactionStatus record =>
      cases answer with
      | ok resourceVersion => cases h; exact .inr (.inl ⟨record, resourceVersion, rfl, rfl⟩)
      | error => cases h
  | getTransaction key =>
      cases answer with
      | ok record =>
          simp only [Stage.next] at h
          split at h
          · rename_i own
            cases h
            exact .inl ⟨key, record, rfl, own, rfl⟩
          · cases h
      | error err => simp only [Stage.next] at h; split at h <;> cases h
  | deleteTransaction =>
      cases answer <;> cases stage <;> simp only [Stage.next, afterDelete] at h <;>
        first | cases h | (split at h <;> cases h)

theorem Stage.next_created {record : CMPTransaction} (h : stage.next job o answer = .created record) :
    (∃ asked assigned, (⟨o, answer⟩ : Event interface) = ⟨.createTransaction asked, .ok assigned⟩ ∧
      record = asked.created assigned) ∨ (o.stores = false ∧ stage = .created record) := by
  cases o with
  | now | call | send => cases stage <;> first | exact .inr ⟨rfl, h⟩ | cases h
  | random | entropy | getSecret | getCertificate => exact .inr ⟨rfl, h⟩
  | createTransaction asked =>
      cases answer <;> cases h
      exact .inl ⟨asked, _, rfl, rfl⟩
  | updateTransactionStatus => cases answer <;> cases h
  | getTransaction => cases answer <;> simp only [Stage.next] at h <;> split at h <;> cases h
  | deleteTransaction =>
      cases answer <;> cases stage <;> simp only [Stage.next, afterDelete] at h <;>
        first | cases h | (split at h <;> cases h)

/-- A call has a record of its request in hand because it read, created or wrote it. -/
theorem Stage.next_record {record : CMPTransaction}
    (h : (stage.next job o answer).record? = some record) :
    (∃ key, (⟨o, answer⟩ : Event interface) = ⟨.getTransaction key, .ok record⟩ ∧
      record.spec.certificateRequestUID = job.request.uid) ∨
    (∃ asked assigned, (⟨o, answer⟩ : Event interface) = ⟨.createTransaction asked, .ok assigned⟩ ∧
      record = asked.created assigned) ∨
    (∃ written resourceVersion,
      (⟨o, answer⟩ : Event interface) = ⟨.updateTransactionStatus written, .ok resourceVersion⟩ ∧
      record = written.updated resourceVersion) ∨
    (o.stores = false ∧ stage.record? = some record) := by
  rcases Stage.record_cases h with created | ⟨hold, held, rfl⟩
  · rcases Stage.next_created created with event | ⟨quiet, same⟩
    · exact .inr (.inl event)
    · exact .inr (.inr (.inr ⟨quiet, by rw [same]; rfl⟩))
  · rcases Stage.next_hold held with ⟨key, record, event, own, rfl⟩ | ⟨written, version, event, rfl⟩ |
      ⟨quiet, same⟩
    · exact .inl ⟨key, event, own⟩
    · exact .inr (.inr (.inl ⟨written, version, event, rfl⟩))
    · exact .inr (.inr (.inr ⟨quiet, Stage.record_of_hold same⟩))

theorem Stage.next_stale {record : CMPTransaction} (h : stage.next job o answer = .stale record) :
    (∃ key, (⟨o, answer⟩ : Event interface) = ⟨.getTransaction key, .ok record⟩) ∨
      (o.stores = false ∧ stage = .stale record) := by
  cases o with
  | now | call | send => cases stage <;> first | exact .inr ⟨rfl, h⟩ | cases h
  | random | entropy | getSecret | getCertificate => exact .inr ⟨rfl, h⟩
  | createTransaction | updateTransactionStatus => cases answer <;> cases h
  | getTransaction key =>
      cases answer <;> simp only [Stage.next] at h <;> split at h <;> cases h
      exact .inl ⟨key, rfl⟩
  | deleteTransaction =>
      cases answer <;> cases stage <;> simp only [Stage.next, afterDelete] at h <;>
        first | cases h | (split at h <;> cases h)

theorem Stage.next_knows {record : CMPTransaction}
    (h : (stage.next job o answer).knows = some record) :
    (∃ key, (⟨o, answer⟩ : Event interface) = ⟨.getTransaction key, .ok record⟩) ∨
    (∃ asked assigned, (⟨o, answer⟩ : Event interface) = ⟨.createTransaction asked, .ok assigned⟩ ∧
      record = asked.created assigned) ∨
    (∃ written resourceVersion,
      (⟨o, answer⟩ : Event interface) = ⟨.updateTransactionStatus written, .ok resourceVersion⟩ ∧
      record = written.updated resourceVersion) ∨
    (o.stores = false ∧ stage.knows = some record) := by
  rcases Stage.knows_cases h with stale | known
  · rcases Stage.next_stale stale with read | ⟨quiet, same⟩
    · exact .inl read
    · exact .inr (.inr (.inr ⟨quiet, by rw [same]; rfl⟩))
  · rcases Stage.next_record known with ⟨key, read, _⟩ | created | written | ⟨quiet, same⟩
    · exact .inl ⟨key, read⟩
    · exact .inr (.inl created)
    · exact .inr (.inr (.inl written))
    · exact .inr (.inr (.inr ⟨quiet, Stage.knows_of_record same⟩))

theorem Stage.next_origin (live : (stage.next job o answer).live)
    (other : ∀ key, o ≠ .getTransaction key)
    (creates : ∀ record, o = .createTransaction record → stage = .absent)
    (updates : ∀ record, o = .updateTransactionStatus record → stage.live) :
    stage.live ∧ (stage.next job o answer).origin = stage.origin := by
  cases o with
  | now | call | send => cases stage <;> first | exact ⟨trivial, rfl⟩ | exact live.elim
  | random | entropy | getSecret | getCertificate => exact ⟨live, rfl⟩
  | getTransaction key => exact absurd rfl (other key)
  | createTransaction record =>
      obtain rfl := creates record rfl
      cases answer with
      | ok => exact ⟨trivial, rfl⟩
      | error => exact live.elim
  | updateTransactionStatus record =>
      cases answer with
      | ok => exact ⟨updates record rfl, rfl⟩
      | error => exact live.elim
  | deleteTransaction =>
      -- A delete leaves a live stage only behind a stale record.
      cases answer <;> cases stage <;> simp only [Stage.next, afterDelete] at live ⊢ <;>
        first
          | exact live.elim
          | exact ⟨trivial, rfl⟩
          | (split at live <;> exact live.elim)
          | (split <;> exact ⟨trivial, rfl⟩)

theorem Stage.next_start (h : stage.next job o answer = .start) :
    stage = .start ∧ ∀ key, o ≠ .getTransaction key := by
  cases o with
  | now | call | send => cases stage <;> first | exact ⟨rfl, nofun⟩ | cases h
  | random | entropy | getSecret | getCertificate => exact ⟨h, nofun⟩
  | createTransaction | updateTransactionStatus => cases answer <;> cases h
  | getTransaction => cases answer <;> simp only [Stage.next] at h <;> split at h <;> cases h
  | deleteTransaction =>
      cases answer <;> cases stage <;> simp only [Stage.next, afterDelete] at h <;>
        first | cases h | (split at h <;> cases h)

theorem Stage.next_removed {record : CMPTransaction} (h : stage.next job o answer = .removed record) :
    (∃ key uid, o = .deleteTransaction key uid) ∨ (o.stores = false ∧ stage = .removed record) := by
  cases o with
  | now | call | send => cases stage <;> first | exact .inr ⟨rfl, h⟩ | cases h
  | random | entropy | getSecret | getCertificate => exact .inr ⟨rfl, h⟩
  | createTransaction | updateTransactionStatus => cases answer <;> cases h
  | getTransaction => cases answer <;> simp only [Stage.next] at h <;> split at h <;> cases h
  | deleteTransaction key uid => exact .inl ⟨key, uid, rfl⟩

/-- The stages before a call has a record of its request. -/
def Stage.early : Stage → Bool
  | .start | .stale _ | .absent => true
  | _ => false

/-- A call has no record of its request yet because it had none before. -/
theorem Stage.next_early (h : (stage.next job o answer).early = true)
    (reads : ∀ key, o = .getTransaction key → stage = .start) :
    stage.early = true ∧ ∀ record, o ≠ .createTransaction record := by
  cases o with
  | now | call | send =>
      cases stage <;> first | exact ⟨rfl, by rintro _ ⟨⟩⟩ | cases h
  | random | entropy | getSecret | getCertificate => exact ⟨h, by rintro _ ⟨⟩⟩
  | createTransaction | updateTransactionStatus => cases answer <;> cases h
  | getTransaction key =>
      rw [reads key rfl]
      exact ⟨rfl, by rintro _ ⟨⟩⟩
  | deleteTransaction =>
      cases answer <;> cases stage <;> simp only [Stage.next, afterDelete] at h <;>
        first | exact ⟨rfl, by rintro _ ⟨⟩⟩ | cases h | (split at h <;> cases h)

theorem Stage.next_serving {served : Hold × ClientCall}
    (h : (stage.next job o answer).serving = some served) :
    (stage = .held served.1 ∧ (⟨o, answer⟩ : Event interface) = ⟨.call served.2, ()⟩) ∨
      stage.serving = some served := by
  cases o with
  | now | send => cases stage <;> exact .inr h
  | random | entropy | getSecret | getCertificate => exact .inr h
  | call => cases stage <;> first | exact .inr h | (cases h; exact .inl ⟨rfl, rfl⟩)
  | createTransaction | updateTransactionStatus => cases answer <;> cases h
  | getTransaction => cases answer <;> simp only [Stage.next] at h <;> split at h <;> cases h
  | deleteTransaction =>
      cases answer <;> cases stage <;> simp only [Stage.next, afterDelete] at h <;>
        first | cases h | (split at h <;> cases h)

end

/-- A call has read or created the incarnation of the record with this UID. -/
def Obtained (trail : Trail) (uid : String) : Prop :=
  (∃ key record, (⟨.getTransaction key, .ok record⟩ : Event interface) ∈ trail ∧ record.uid = uid) ∨
  ∃ record assigned, (⟨.createTransaction record, .ok assigned⟩ : Event interface) ∈ trail ∧
    assigned.uid = uid

theorem Obtained.mono {trail later : Trail} {uid : String} (h : Obtained trail uid)
    (seen : trail ⊆ later) : Obtained later uid := by
  rcases h with ⟨key, record, read, same⟩ | ⟨record, assigned, created, same⟩
  · exact .inl ⟨key, record, seen read, same⟩
  · exact .inr ⟨record, assigned, seen created, same⟩

/-- The request that is handed over to the client. -/
def callHanded : Event interface → Option ClientCall
  | ⟨.call call, _⟩ => some call
  | _ => none

/-- What holds in every session that keeps to the contract. -/
structure Sound (lib : Library) (session : Session) : Prop where
  /-- The request being served was handed over last, under the contract, and no Secret was read since. -/
  handed : ∀ hold call, session.stage.serving = some (hold, call) → ∃ before later,
    session.trail = before ++ ⟨.call call, ()⟩ :: later ∧ (∀ e ∈ later, callHanded e = none) ∧
    Hands lib session.job before hold call ∧ secretsRead session.trail = secretsRead before
  own : ∀ record, session.stage.record? = some record →
    record.spec.certificateRequestUID = session.job.request.uid
  /-- A record that was just created has no status yet. -/
  fresh : ∀ record, session.stage = .created record → record.status = {}
  obtained : ∀ record, session.stage.knows = some record → Obtained session.trail record.uid
  unread : session.stage = .start → ∀ key answer,
    (⟨.getTransaction key, answer⟩ : Event interface) ∉ session.trail
  /-- A record of the request that was read is the one the call works on. -/
  loaded : session.stage.live → ∀ key record,
    (⟨.getTransaction key, .ok record⟩ : Event interface) ∈ session.trail →
    record.spec.certificateRequestUID = session.job.request.uid →
    session.stage.origin = .loaded record

theorem Sound.begin (lib : Library) (job : Job) : Sound lib (Session.begin job) where
  handed := by rintro _ _ ⟨⟩
  own := by rintro _ ⟨⟩
  fresh := by rintro _ ⟨⟩
  obtained := by rintro _ ⟨⟩
  unread := by rintro _ _ _ ⟨⟩
  loaded := by rintro _ _ _ ⟨⟩

/-- A status update keeps everything but the status of the record at hand. -/
theorem Writes.record {lib : Library} {session : Session} {record : CMPTransaction}
    (h : Writes lib session record) :
    ∃ old, session.stage.record? = some old ∧ record = { old with status := record.status } := by
  rcases h with ⟨old, t, stage, rfl⟩ | ⟨hold, exchange, status, stage, _, rfl⟩
  · exact ⟨old, by rw [stage]; rfl, rfl⟩
  · exact ⟨hold.record, by rw [stage]; rfl, rfl⟩

theorem Writes.live {lib : Library} {session : Session} {record : CMPTransaction}
    (h : Writes lib session record) : session.stage.live := by
  rcases h with ⟨old, t, stage, _⟩ | ⟨hold, exchange, status, stage, _⟩ <;> rw [stage] <;> trivial

section
variable {lib : Library} {session : Session} {o : Op} {answer : o.Answer}

theorem Sound.next (sound : Sound lib session) (allowed : (contract lib).allows session o) :
    Sound lib ((contract lib).next session o answer) where
  handed := by
    intro hold call serving
    rcases Stage.next_serving serving with ⟨stage, event⟩ | before
    · cases event
      obtain ⟨held, same, hands⟩ := allowed
      cases stage.symm.trans same
      exact ⟨session.trail, [], rfl, by rintro _ ⟨⟩, hands, by simp [contract, secretRead]⟩
    · obtain ⟨earlier, later, passed, quiet, hands, unread⟩ := sound.handed hold call before
      have late : HandedOver session.trail := ⟨call, passed ▸ List.mem_append_right _ List.mem_cons_self⟩
      have silent : secretRead ⟨o, answer⟩ = none := by
        cases o with
        | getSecret => exact (allowed late).elim
        | _ => rfl
      have unhanded : callHanded ⟨o, answer⟩ = none := by
        cases o with
        | call other =>
            obtain ⟨held, stage, _⟩ := allowed
            rw [stage] at before
            cases before
        | _ => rfl
      refine ⟨earlier, later ++ [⟨o, answer⟩], by simp [contract, passed], ?_, hands,
        by simp [contract, silent, unread]⟩
      intro e member
      rcases List.mem_append.mp member with known | last
      · exact quiet e known
      · rw [List.mem_singleton.mp last, unhanded]
  own := by
    intro record reached
    rcases Stage.next_record reached with ⟨key, event, own⟩ | ⟨asked, assigned, event, rfl⟩ |
      ⟨written, resourceVersion, event, rfl⟩ | ⟨_, before⟩
    · exact own
    · cases event
      obtain ⟨_, _, _, _, rfl, _⟩ := allowed.2.fields
      rfl
    · cases event
      obtain ⟨old, stage, same⟩ := Writes.record allowed
      rw [same]
      exact sound.own old stage
    · exact sound.own record before
  fresh := by
    intro record reached
    rcases Stage.next_created reached with ⟨asked, assigned, _, rfl⟩ | ⟨_, before⟩
    · rfl
    · exact sound.fresh record before
  obtained := by
    intro record reached
    have last : (⟨o, answer⟩ : Event interface) ∈ ((contract lib).next session o answer).trail :=
      List.mem_append_right _ List.mem_cons_self
    rcases Stage.next_knows reached with ⟨key, event⟩ | ⟨asked, assigned, event, rfl⟩ |
      ⟨written, resourceVersion, event, rfl⟩ | ⟨_, before⟩
    · exact .inl ⟨key, record, event ▸ last, rfl⟩
    · exact .inr ⟨asked, assigned, event ▸ last, rfl⟩
    · cases event
      obtain ⟨old, stage, same⟩ := Writes.record allowed
      rw [same]
      exact (sound.obtained old (Stage.knows_of_record stage)).mono (List.subset_append_left _ _)
    · exact (sound.obtained record before).mono (List.subset_append_left _ _)
  unread := by
    intro reached key read member
    obtain ⟨start, other⟩ := Stage.next_start reached
    rcases List.mem_append.mp member with before | last
    · exact sound.unread start key read before
    · cases List.mem_singleton.mp last
      exact other key rfl
  loaded := by
    intro live key record member own
    by_cases reads : ∃ asked, o = .getTransaction asked
    · -- The record is read once, so the event is the last one.
      obtain ⟨asked, rfl⟩ := reads
      rcases List.mem_append.mp member with before | last
      · exact absurd before (sound.unread allowed.1 _ _)
      · cases List.mem_singleton.mp last
        have own : record.spec.certificateRequestUID = session.job.request.uid := own
        simp only [contract, Stage.next, if_pos own, Stage.origin]
    · have other : ∀ asked, o ≠ .getTransaction asked := fun asked same => reads ⟨asked, same⟩
      have before : (⟨.getTransaction key, .ok record⟩ : Event interface) ∈ session.trail := by
        rcases List.mem_append.mp member with before | last
        · exact before
        · cases List.mem_singleton.mp last
          exact absurd rfl (other key)
      obtain ⟨live, same⟩ := Stage.next_origin live other
        (by rintro asked rfl; exact allowed.1) (by rintro written rfl; exact Writes.live allowed)
      exact same.trans (sound.loaded live key record before own)

end

/-- Every point of a `Sign` call is sound. -/
theorem sign_sound {lib : Library} {job : Job} {t : Trail} {p : Go GoError Bytes}
    (path : Path (sign lib job.clusterResourceNamespace job.request job.issuer) t p) :
    Sound lib ((contract lib).run (Session.begin job) t) :=
  (sign_follows lib job).keeps (fun _ _ _ sound allowed => sound.next allowed) path (.begin lib job)

/-- What `Sign` hands to the client has passed the checks of the contract. -/
theorem sign_hands {lib : Library} {job : Job} {t : Trail} {call : ClientCall}
    {next : Unit → Go GoError Bytes}
    (path : Path (sign lib job.clusterResourceNamespace job.request job.issuer) t
      (.op (.call call) next)) :
    ∃ hold, ((contract lib).run (Session.begin job) t).stage = .held hold ∧
      Hands lib job t hold call := by
  obtain ⟨hold, stage, hands⟩ := (sign_follows lib job).allows path
  rw [contract_run_job, contract_run_trail] at hands
  exact ⟨hold, stage, hands⟩

/-- The request the client is serving: the one handed over last. -/
def servedCall (t : Trail) : Option ClientCall := t.reverse.findSome? callHanded

def clockRead : Event interface → Option Time
  | ⟨.now, t⟩ => some t
  | _ => none

/-- The instant at which an answer is examined, given what happens after it arrived. -/
def examinedAt (t : Trail) : Option Time := t.findSome? clockRead

theorem servedCall_concat (t : Trail) (e : Event interface) :
    servedCall (t ++ [e]) = (callHanded e).or (servedCall t) := by
  cases handed : callHanded e <;> simp [servedCall, handed]

theorem examinedAt_append (t u : Trail) : examinedAt (t ++ u) = (examinedAt t).or (examinedAt u) :=
  List.findSome?_append ..

section
variable {lib : Library} {session : Session} {o : Op} {answer : o.Answer}

/-- One operation keeps it that the client serves the request handed over last. -/
theorem servedCall_step {t : Trail} (allowed : (contract lib).allows session o)
    (served : ∀ hold call, session.stage.serving = some (hold, call) → servedCall t = some call) {hold : Hold}
    {call : ClientCall}
    (serving : ((contract lib).next session o answer).stage.serving = some (hold, call)) :
    servedCall (t ++ [⟨o, answer⟩]) = some call := by
  rw [servedCall_concat]
  rcases Stage.next_serving serving with ⟨_, event⟩ | before
  · cases event
    rfl
  · rw [served hold call before]
    cases o with
    | call other =>
        obtain ⟨held, stage, _⟩ := allowed
        rw [stage] at before
        cases before
    | _ => rfl

theorem servedCall_of_serving {job : Job} {t : Trail} {p : Go GoError Bytes}
    (path : Path (sign lib job.clusterResourceNamespace job.request job.issuer) t p) {hold : Hold}
    {call : ClientCall}
    (serving : ((contract lib).run (Session.begin job) t).stage.serving = some (hold, call)) :
    servedCall t = some call := by
  have kept : ∀ hold call, ((contract lib).run (Session.begin job) t).stage.serving = some (hold, call) →
      servedCall ((contract lib).run (Session.begin job) t).trail = some call := by
    refine (sign_follows lib job).keeps (I := fun session => ∀ hold call,
      session.stage.serving = some (hold, call) → servedCall session.trail = some call) ?_ path
      (by rintro _ _ ⟨⟩)
    exact fun session o answer served allowed hold call => servedCall_step allowed served
  simpa using kept hold call serving

end

/-- The operation an enrollment message performs. -/
def Body.operation? : Body → Option Operation
  | .p10cr _ => some .p10cr
  | .ir _ => some .ir
  | .kur _ => some .kur
  | _ => none

/-- The message of a call, or the certConf that refuses the certificate it obtained. -/
def ClientCall.speaks (lib : Library) (call : ClientCall) (body : Body) : Prop :=
  call.sends lib body ∨ call.confirms = false ∧ RefusesIn body

theorem ClientCall.speaks.confirms {lib : Library} {call : ClientCall} {body : Body}
    (speaks : call.speaks lib body) (enrolls : body.operation? ≠ none) : call.confirms = false := by
  rcases speaks with sends | ⟨confirms, _⟩
  · cases call with
    | confirmP10CR => cases body <;> first | exact absurd rfl enrolls | cases sends
    | _ => rfl
  · exact confirms

theorem SentFor.mono {lib : Library} {trail : Trail} {request : EnrollmentRequest}
    {bodies bodies' : Body → Prop} {sent : HTTPRequest} (h : SentFor lib trail request bodies sent)
    (wider : ∀ body, bodies body → bodies' body) : SentFor lib trail request bodies' sent := by
  obtain ⟨drawn, built, credentials, last, ⟨body, options, allowed, rest⟩, sealed_⟩ := h.built
  exact ⟨h.endpoint, drawn, built, credentials, last, ⟨body, options, wider _ allowed, rest⟩, sealed_⟩

theorem SentFor.message {lib : Library} {trail : Trail} {request : EnrollmentRequest}
    {bodies : Body → Prop} {sent : HTTPRequest} (laws : MessageLaws lib)
    (h : SentFor lib trail request bodies sent) :
    bodies sent.message.body ∧
      (request.transactionID ≠ [] → sent.message.header.transactionID = request.transactionID) ∧
      ∃ drawn : Entropy, trail.getLast? = some ⟨.entropy, drawn⟩ ∧
        sent.message.header.senderNonce = drawn.senderNonce := by
  obtain ⟨drawn, built, credentials, last, from_, sealed_⟩ := h.built
  obtain ⟨allowed, nonce, _, identified⟩ := from_.protected_ laws sealed_
  exact ⟨allowed, identified, drawn, last, nonce⟩

theorem Sends.serving {lib : Library} {session : Session} {sent : HTTPRequest}
    (h : Sends lib session sent) :
    ∃ hold call, session.stage.serving = some (hold, call) ∧
      SentFor lib session.trail call.request (call.speaks lib) sent := by
  rcases h with ⟨hold, call, stage, sent⟩ | ⟨hold, exchange, stage, sent, enrolls, _⟩
  · exact ⟨hold, call, by rw [stage]; rfl, sent.mono fun _ => .inl⟩
  · exact ⟨hold, exchange.call, by rw [stage]; rfl, sent.mono fun _ refuses => .inr ⟨enrolls, refuses⟩⟩

/-- An enrollment message performs the operation of the record, which is in no later phase. -/
theorem PhaseAllows.operation {lib : Library} {record : CMPTransaction} {call : ClientCall} {body : Body}
    {operation : Operation} (allowed : PhaseAllows lib record call) (speaks : call.speaks lib body)
    (performs : body.operation? = some operation)
    (known : record.spec.operation ∈ [Operation.p10cr, .ir, .kur]) :
    operation = record.spec.operation ∧ record.status.phase ∉ [Phase.polling, .confirming, .issued] := by
  rcases speaks with sends | ⟨_, status, rejection, rfl, _⟩
  · cases call <;> cases body <;> cases performs <;> first | cases sends | skip
    · exact ⟨by simp_all [PhaseAllows], allowed.1⟩
    · exact ⟨allowed.2.symm, allowed.1⟩
    · exact ⟨allowed.2.symm, allowed.1⟩
  · cases performs

end CmpIssuer
