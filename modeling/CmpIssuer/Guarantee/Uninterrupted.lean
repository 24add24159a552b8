import CmpIssuer.Guarantee.Failure
import CmpIssuer.Session.Pending

/-!
Runs of `Sign` calls in a cluster whose store operations succeed, where each
call ends before the next one begins. The log of such a run tells for every
message which request it was sent for and when its answer was examined, and a
call that has an answer in hand has that of the last message of the log.
-/
namespace CmpIssuer
open Effect

/-- Calls for one CertificateRequest one after the other, without store failures and without crashes. -/
structure UninterruptedRun (lib : Library) (subject : Subject) (slot : Option CMPTransaction)
    (pool : Signers) : Prop where
  reached : Pool.Reach reliableWorld (Job.call lib) (fun job => job.subject = subject)
    (fun n i => i + 1 = n) (Cluster.start slot) pool
  ended : ∀ thread ∈ pool.threads.dropLast, thread.program.outcome?.isSome

/-- The answer to a message of a log was accepted as this response: by the request that the client was
serving, at the instant at which the clock was read next. -/
structure Heard (lib : Library) (earlier : List Entry) (entry : Entry) (later : List Entry)
    (call : ClientCall) (response : PKIMessage) : Prop where
  served : servedCall (earlier.map Entry.event) = some call
  accepted : ∃ recording instant signer, entry.exchange? = some recording ∧
    examinedAt (later.map Entry.event) = some instant ∧
    call.accept lib instant recording.request.message recording.answer = .ok (response, signer)

/-- The request and the response, where an answer was accepted. -/
def heard? (lib : Library) (earlier : List Entry) (entry : Entry) (later : List Entry) :
    Option (ClientCall × PKIMessage) :=
  match servedCall (earlier.map Entry.event), entry.exchange?, examinedAt (later.map Entry.event) with
  | some call, some recording, some instant =>
      match call.accept lib instant recording.request.message recording.answer with
      | .ok (response, _) => some (call, response)
      | .error _ => none
  | _, _, _ => none

theorem heard_iff {lib : Library} {earlier later : List Entry} {entry : Entry} {call : ClientCall}
    {response : PKIMessage} :
    Heard lib earlier entry later call response ↔ heard? lib earlier entry later = some (call, response) := by
  unfold heard?
  constructor
  · rintro ⟨served, recording, instant, signer, sent, examined, accepted⟩
    rw [served, sent, examined]
    dsimp only
    rw [accepted]
  · intro found
    split at found
    · rename_i served sent examined
      split at found <;> cases found
      rename_i accepted
      exact ⟨served, _, _, _, sent, examined, accepted⟩
    · cases found

/-- The answer to a message of a log was accepted, and it tells the call to wait. -/
def Waited (lib : Library) (earlier : List Entry) (entry : Entry) (later : List Entry) : Prop :=
  ∃ call response, Heard lib earlier entry later call response ∧ call.waits lib response = true

instance (lib : Library) (earlier : List Entry) (entry : Entry) (later : List Entry) :
    Decidable (Waited lib earlier entry later) :=
  decidable_of_iff
    ((heard? lib earlier entry later).any (fun heard => heard.1.waits lib heard.2) = true)
    (by simp [Waited, heard_iff, Option.any_eq_true])

/-- The answer to every message but a certConf was examined. -/
def Examined (log : List Entry) : Prop := ∀ earlier entry later recording,
  log = earlier ++ entry :: later → entry.exchange? = some recording → recording.confirms = false →
  examinedAt (later.map Entry.event) ≠ none

theorem append_cons_cases {α : Type} {a b c d : List α} {x y : α} (h : a ++ x :: b = c ++ y :: d) :
    (∃ m, a = c ++ y :: m ∧ d = m ++ x :: b) ∨ (a = c ∧ x = y ∧ b = d) ∨
      ∃ m, c = a ++ x :: m ∧ b = m ++ y :: d := by
  rcases List.append_eq_append_iff.mp h with ⟨m, rfl, same⟩ | ⟨m, rfl, same⟩
  · cases m with
    | nil =>
        cases same
        exact .inr (.inl ⟨(List.append_nil a).symm, rfl, rfl⟩)
    | cons z m =>
        cases same
        exact .inr (.inr ⟨m, rfl, rfl⟩)
  · cases m with
    | nil =>
        cases same
        exact .inr (.inl ⟨List.append_nil c, rfl, rfl⟩)
    | cons z m =>
        cases same
        exact .inl ⟨m, rfl, rfl⟩

/-- A property of every place in a list, given what comes before the place. -/
def everyPlace {α : Type} (P : List α → α → List α → Bool) : List α → List α → Bool
  | _, [] => true
  | before, x :: after => P before x after && everyPlace P (before ++ [x]) after

theorem everyPlace_spec {α : Type} {P : List α → α → List α → Bool} {before list : List α}
    (every : everyPlace P before list = true) {a b : List α} {x : α} (split : list = a ++ x :: b) :
    P (before ++ a) x b = true := by
  induction a generalizing before list with
  | nil =>
      subst split
      rw [List.append_nil]
      exact (Bool.and_eq_true_iff.mp every).1
  | cons y a ih =>
      subst split
      have rest := ih (Bool.and_eq_true_iff.mp every).2 rfl
      rwa [List.append_assoc] at rest

/-- A property of some place in a list, given what comes before the place. -/
def somePlace {α : Type} (P : List α → α → List α → Bool) : List α → List α → Bool
  | _, [] => false
  | before, x :: after => P before x after || somePlace P (before ++ [x]) after

theorem somePlace_spec {α : Type} {P : List α → α → List α → Bool} {before list : List α}
    (found : somePlace P before list = true) : ∃ a x b, list = a ++ x :: b ∧ P (before ++ a) x b = true := by
  induction list generalizing before with
  | nil => cases found
  | cons x after ih =>
      rcases Bool.or_eq_true_iff.mp found with here | there
      · exact ⟨[], x, after, rfl, by rwa [List.append_nil]⟩
      · obtain ⟨a, y, b, rfl, holds⟩ := ih there
        refine ⟨x :: a, y, b, rfl, ?_⟩
        rwa [List.append_assoc] at holds

section
variable {lib : Library} {log earlier later : List Entry} {entry : Entry}

theorem examinedAt_grows (more : List Entry) (seen : examinedAt (later.map Entry.event) ≠ none) :
    examinedAt ((later ++ more).map Entry.event) = examinedAt (later.map Entry.event) := by
  obtain ⟨instant, seen⟩ := Option.ne_none_iff_exists'.mp seen
  rw [List.map_append, examinedAt_append, seen, Option.some_or]

/-- What a log says of an answer does not change once the answer was examined. -/
theorem Heard.grows_iff {call : ClientCall} {response : PKIMessage} (more : List Entry)
    (seen : examinedAt (later.map Entry.event) ≠ none) :
    Heard lib earlier entry (later ++ more) call response ↔ Heard lib earlier entry later call response := by
  have same := examinedAt_grows more seen
  constructor
  · rintro ⟨served, recording, instant, signer, sent, examined, accepted⟩
    exact ⟨served, recording, instant, signer, sent, same.symm.trans examined, accepted⟩
  · rintro ⟨served, recording, instant, signer, sent, examined, accepted⟩
    exact ⟨served, recording, instant, signer, sent, same.trans examined, accepted⟩

theorem Waited.grows_iff (more : List Entry) (seen : examinedAt (later.map Entry.event) ≠ none) :
    Waited lib earlier entry (later ++ more) ↔ Waited lib earlier entry later := by
  simp only [Waited, Heard.grows_iff more seen]

theorem Heard.examined {call : ClientCall} {response : PKIMessage}
    (heard : Heard lib earlier entry later call response) : examinedAt (later.map Entry.event) ≠ none := by
  obtain ⟨_, _, _, _, examined, _⟩ := heard.accepted
  rw [examined]
  exact Option.some_ne_none _

theorem Examined.concat (examined : Examined log)
    (other : ∀ recording, entry.exchange? = some recording → recording.confirms = true) :
    Examined (log ++ [entry]) := by
  intro earlier message later recording split sent plain
  rcases eq_or_earlier_of_concat split with ⟨_, _, rfl⟩ | ⟨before, rfl, prior⟩
  · rw [other recording sent] at plain
    cases plain
  · have seen := examined earlier message before recording prior sent plain
    rw [examinedAt_grows _ seen]
    exact seen

theorem Examined.answered (examined : Examined earlier) (quiet : ∀ e ∈ later, e.exchange? = none)
    (seen : examinedAt (later.map Entry.event) ≠ none) : Examined (earlier ++ entry :: later) := by
  intro before message after recording split sent plain
  rcases append_cons_cases split with ⟨between, rfl, rfl⟩ | ⟨rfl, rfl, rfl⟩ | ⟨between, rfl, rfl⟩
  · have seen := examined before message between recording rfl sent plain
    rw [examinedAt_grows _ seen]
    exact seen
  · exact seen
  · have silent := quiet message (List.mem_append_right _ List.mem_cons_self)
    rw [silent] at sent
    cases sent

end

/-- The instant of the answer a stage has in hand. -/
def Stage.instant? : Stage → Option Time
  | .examined _ exchange => some exchange.instant
  | _ => none

/-- The last message of a log, whose answer a call has in hand. -/
structure Awaits (log : List Entry) (stage : Stage) (earlier : List Entry) (entry : Entry)
    (later : List Entry) : Prop where
  split : log = earlier ++ entry :: later
  quiet : ∀ e ∈ later, e.exchange? = none
  asked : ∃ hold call recording, stage.asked = some (hold, call, recording) ∧
    entry.exchange? = some recording ∧ entry.before = some hold.record ∧
    servedCall (earlier.map Entry.event) = some call
  instant : examinedAt (later.map Entry.event) = stage.instant?

/-- What the log of a cluster says about the running call. -/
structure Attends (cluster : Cluster) (stage : Stage) : Prop where
  served : ∀ hold call, stage.serving = some (hold, call) →
    servedCall (cluster.log.map Entry.event) = some call
  awaits : stage.asked.isSome → ∃ earlier entry later, Awaits cluster.log stage earlier entry later
  /-- A message is sent when the answers to all before it were examined. -/
  before : ∀ earlier entry later, cluster.log = earlier ++ entry :: later → entry.exchange?.isSome →
    Examined earlier
  examined : stage.calm → Examined cluster.log
  known : ∀ entry ∈ cluster.log, ∀ record, entry.before = some record → record ∈ cluster.past

section
variable {lib : Library} {subject : Subject} {cluster : Cluster} {sessions : List Session}
  {session : Session} {o : Op} {answer : o.Answer} {after : Option CMPTransaction}

theorem Stage.next_instant {job : Job} {stage : Stage} (asked : stage.asked.isSome)
    (stays : (stage.next job o answer).asked.isSome) (unsent : ∀ sent, o ≠ .send sent) :
    (stage.next job o answer).instant? = stage.instant?.or (clockRead ⟨o, answer⟩) := by
  cases stage <;> cases asked <;> cases o <;>
    first
      | rfl
      | exact absurd rfl (unsent _)
      | (cases answer <;> simp only [Stage.next, afterDelete] at stays <;>
          first | cases stays | (split at stays <;> cases stays))

/-- An answer that arrived is examined before anything else happens to the record. -/
theorem silent_of_answered (allowed : (contract lib).allows session o) (waiting : ¬ session.stage.calm) :
    o.silent = true := by
  obtain ⟨job, trail, stage⟩ := session
  cases stage with
  | answered =>
      cases o with
      | now | random | entropy | getSecret | getCertificate => rfl
      | getTransaction => cases allowed.1
      | createTransaction => cases allowed.1
      | updateTransactionStatus =>
          rcases allowed with ⟨_, _, stage, _⟩ | ⟨_, _, _, stage, _⟩ <;> cases stage
      | deleteTransaction =>
          obtain ⟨_, deletable, _⟩ := allowed
          cases deletable
      | call =>
          obtain ⟨_, stage, _⟩ := allowed
          cases stage
      | send =>
          rcases allowed with ⟨_, _, stage, _⟩ | ⟨_, _, stage, _⟩ <;> cases stage
  | _ => exact absurd trivial waiting

/-- A call that has an answer in hand keeps it until it stores something or sends a refusal. -/
theorem Awaits.next {log earlier later : List Entry} {entry new : Entry}
    (awaits : Awaits log session.stage earlier entry later) (lib : Library) (event : new.event = ⟨o, answer⟩)
    (unsent : ∀ sent, o ≠ .send sent)
    (stays : ((contract lib).next session o answer).stage.asked.isSome) :
    Awaits (log ++ [new]) ((contract lib).next session o answer).stage earlier entry (later ++ [new]) := by
  obtain ⟨hold, call, recording, asked, sent, stored, served⟩ := awaits.asked
  obtain ⟨⟨hold', call', recording'⟩, asked'⟩ := Option.isSome_iff_exists.mp stays
  have same : session.stage.asked = some (hold', call', recording') := by
    rcases Stage.next_asked (by rintro sent rfl; exact absurd rfl (unsent sent)) asked' with
      ⟨_, message⟩ | ⟨before, _⟩
    · cases message
      exact absurd rfl (unsent _)
    · exact before
  cases asked.symm.trans same
  refine ⟨by rw [awaits.split, List.append_assoc, List.cons_append], ?_,
    ⟨hold, call, recording, asked', sent, stored, served⟩, ?_⟩
  · intro e member
    rcases List.mem_append.mp member with old | last
    · exact awaits.quiet e old
    · obtain rfl := List.mem_singleton.mp last
      unfold Entry.exchange?
      rw [event]
      cases o <;> first | rfl | exact absurd rfl (unsent _)
  · rw [List.map_append, examinedAt_append, awaits.instant, List.map_singleton, event]
    have read : examinedAt [⟨o, answer⟩] = clockRead ⟨o, answer⟩ := by
      cases clock : clockRead ⟨o, answer⟩ <;> simp [examinedAt, clock]
    rw [read]
    exact (Stage.next_instant (by rw [asked]; rfl) stays unsent).symm

theorem Attends.act (attends : Attends cluster session.stage)
    (orderly : Orderly lib subject cluster (sessions ++ [session])) (laws : MessageLaws lib)
    (allowed : (contract lib).allows session o) :
    Attends (cluster.step sessions.length ⟨o, answer⟩ after) ((contract lib).next session o answer).stage where
  served hold call serving := by
    have step := servedCall_step allowed attends.served serving
    simpa [Cluster.step] using step
  awaits := by
    intro stays
    obtain ⟨⟨hold, call, recording⟩, asked⟩ := Option.isSome_iff_exists.mp stays
    rcases Stage.next_asked (Sends.calm allowed) asked with ⟨stage, event⟩ | ⟨before, _, unsent⟩
    · cases event
      have stored := (orderly.held (by rw [stage]; rfl : session.stage.hold? = some hold)).1
      refine ⟨cluster.log, _, [], rfl, by rintro _ ⟨⟩, ⟨hold, call, recording, asked, rfl, stored, ?_⟩, ?_⟩
      · exact attends.served hold call (by rw [stage]; rfl)
      · obtain ⟨job, trail, _⟩ := session
        cases stage
        rfl
    · obtain ⟨earlier, entry, later, awaits⟩ := attends.awaits (by rw [before]; rfl)
      exact ⟨earlier, entry, _, awaits.next lib rfl unsent stays⟩
  before := by
    intro earlier entry later split sent
    rcases eq_or_earlier_of_concat split with ⟨_, rfl, rfl⟩ | ⟨before, rfl, prior⟩
    · refine attends.examined ?_
      cases o with
      | send sent' => exact Sends.calm allowed sent' rfl
      | _ => cases sent
    · exact attends.before earlier entry before prior sent
  examined := by
    intro calm
    by_cases still : session.stage.calm
    · refine (attends.examined still).concat ?_
      intro recording sent
      cases o with
      | send sent' =>
          cases sent
          rcases allowed with ⟨hold, call, stage, _⟩ | ⟨hold, exchange, stage, sentFor, _⟩
          · obtain ⟨job, trail, _⟩ := session
            cases stage
            exact calm.elim
          · obtain ⟨status, rejection, body, _⟩ := (sentFor.message laws).1
            simp [Recording.confirms, body, Body.type]
      | _ => cases sent
    · -- The answer that was waiting is examined now.
      obtain ⟨job, trail, stage⟩ := session
      have silent := silent_of_answered allowed still
      cases stage with
      | answered hold call request reply =>
          obtain ⟨earlier, entry, later, awaits⟩ := attends.awaits rfl
          obtain ⟨_, _, _, _, sent, _⟩ := awaits.asked
          have before := attends.before earlier entry later awaits.split (by rw [sent]; rfl)
          have stays : Awaits (cluster.step sessions.length ⟨o, answer⟩ after).log _ earlier entry _ :=
            awaits.next lib rfl (by rintro _ rfl; cases silent) ?_
          · rw [stays.split]
            refine before.answered stays.quiet ?_
            rw [stays.instant]
            cases o with
            | now => exact Option.some_ne_none _
            | random | entropy | getSecret | getCertificate => exact calm.elim
            | _ => cases silent
          · cases o with
            | now | random | entropy | getSecret | getCertificate => rfl
            | _ => cases silent
      | _ => exact absurd trivial still
  known := by
    intro entry member record stored
    rcases List.mem_append.mp member with old | last
    · exact Cluster.past_subset_step (attends.known entry old record stored)
    · cases List.mem_singleton.mp last
      exact Cluster.past_subset_step (orderly.consistent.ordered.mem stored)

/-- The answer that a call has examined is the one the log says it has heard. -/
theorem Awaits.heard {log earlier later : List Entry} {entry : Entry} {hold : Hold} {exchange : Exchange}
    {call : ClientCall} {response : PKIMessage}
    (awaits : Awaits log (.examined hold exchange) earlier entry later)
    (heard : Heard lib earlier entry later call response) :
    call = exchange.call ∧ ∃ signer,
      exchange.call.accept lib exchange.instant exchange.request.message exchange.answer =
        .ok (response, signer) := by
  obtain ⟨_, _, _, ⟨⟩, sent, _, served⟩ := awaits.asked
  obtain ⟨recording, instant, signer, sent', examined, accepted⟩ := heard.accepted
  cases sent.symm.trans sent'
  cases awaits.instant.symm.trans examined
  cases served.symm.trans heard.served
  exact ⟨rfl, signer, accepted⟩

theorem Awaits.waited {log earlier later : List Entry} {entry : Entry} {hold : Hold} {exchange : Exchange}
    (awaits : Awaits log (.examined hold exchange) earlier entry later)
    (waited : Waited lib earlier entry later) : ¬ exchange.Unwaited lib := by
  intro unwaited
  obtain ⟨call, response, heard, waits⟩ := waited
  obtain ⟨rfl, signer, accepted⟩ := awaits.heard heard
  rw [unwaited response signer accepted] at waits
  cases waits

theorem Awaits.unique {log earlier later before after : List Entry} {entry message : Entry} {stage : Stage}
    (awaits : Awaits log stage earlier entry later) (split : log = before ++ message :: after)
    (sent : message.exchange?.isSome) (quiet : ∀ e ∈ after, e.exchange? = none) :
    before = earlier ∧ message = entry ∧ after = later := by
  obtain ⟨_, _, recording, _, known, _⟩ := awaits.asked
  rcases append_cons_cases (split.symm.trans awaits.split) with ⟨m, rfl, rfl⟩ | same | ⟨m, rfl, rfl⟩
  · rw [awaits.quiet message (List.mem_append_right _ List.mem_cons_self)] at sent
    cases sent
  · exact same
  · rw [quiet entry (List.mem_append_right _ List.mem_cons_self)] at known
    cases known

theorem Attends.unexamined {stage : Stage} (attends : Attends cluster stage) {earlier later : List Entry}
    {entry : Entry} {recording : Recording} (split : cluster.log = earlier ++ entry :: later)
    (sent : entry.exchange? = some recording) (plain : recording.confirms = false)
    (unseen : examinedAt (later.map Entry.event) = none) :
    ¬ stage.calm ∧ Awaits cluster.log stage earlier entry later := by
  have waiting : ¬ stage.calm := fun calm =>
    attends.examined calm earlier entry later recording split sent plain unseen
  refine ⟨waiting, ?_⟩
  have asked : stage.asked.isSome := by
    cases stage with
    | answered => rfl
    | _ => exact absurd trivial waiting
  obtain ⟨earlier', entry', later', awaits⟩ := attends.awaits asked
  obtain ⟨_, _, recording', _, known, _⟩ := awaits.asked
  rcases append_cons_cases (awaits.split.symm.trans split) with ⟨m, rfl, rfl⟩ | ⟨rfl, rfl, rfl⟩ | ⟨m, rfl, rfl⟩
  · have seen := attends.before _ entry' later' awaits.split (by rw [known]; rfl) earlier entry m recording rfl
      sent plain
    rw [examinedAt_grows _ seen] at unseen
    exact absurd unseen seen
  · exact awaits
  · rw [awaits.quiet entry (List.mem_append_right _ List.mem_cons_self)] at sent
    cases sent

end

/-- What the log of a cluster says between two calls. -/
structure Attended (cluster : Cluster) : Prop where
  before : ∀ earlier entry later, cluster.log = earlier ++ entry :: later → entry.exchange?.isSome →
    Examined earlier
  examined : Examined cluster.log
  known : ∀ entry ∈ cluster.log, ∀ record, entry.before = some record → record ∈ cluster.past

theorem Attended.start (slot : Option CMPTransaction) : Attended (Cluster.start slot) where
  before := by simp [Cluster.start]
  examined := by
    intro earlier entry later recording split
    simp [Cluster.start] at split
  known := by simp [Cluster.start]

theorem Attended.begin {cluster : Cluster} (attended : Attended cluster) : Attends cluster .start :=
  ⟨by rintro _ _ ⟨⟩, by rintro ⟨⟩, attended.before, fun _ => attended.examined, attended.known⟩

theorem Finish.calm {lib : Library} {session : Session} {r : Except (Fault GoError) Bytes}
    (finish : Finish lib session r) : session.stage.calm := by
  rcases r with (err | reason) | bundle
  · simp only [Finish, Fails] at finish
    split at finish <;> first | exact finish.elim | (rename_i stage; rw [stage]; trivial)
  · obtain ⟨_, _, _, _, stage, _⟩ := finish
    rw [stage]
    trivial
  · obtain ⟨_, _, _, stage, _⟩ := finish
    rw [stage]
    trivial

theorem Attends.ended {lib : Library} {cluster : Cluster} {session : Session}
    {r : Except (Fault GoError) Bytes} (attends : Attends cluster session.stage)
    (finish : Finish lib session r) : Attended cluster :=
  ⟨attends.before, attends.examined finish.calm, attends.known⟩

/-- A call at work in such a run: it performs `t` after the calls of `sessions` have ended. -/
structure Working (lib : Library) (subject : Subject) (cluster : Cluster) (sessions : List Session) (job : Job)
    (t : Trail) (p : Go GoError Bytes) : Prop where
  path : Path (sign lib job.clusterResourceNamespace job.request job.issuer) t p
  orderly : Orderly lib subject cluster (sessions ++ [(contract lib).run (Session.begin job) t])
  attends : Attends cluster ((contract lib).run (Session.begin job) t).stage

/-- The invariant rule for uninterrupted runs. `I` holds between the calls and `J` during a call. -/
theorem UninterruptedRun.invariant {lib : Library} {subject : Subject} {slot : Option CMPTransaction}
    {pool : Signers} (run : UninterruptedRun lib subject slot pool) (laws : MessageLaws lib)
    (unclaimed : Unclaimed subject slot) {I : Cluster → List Session → Prop}
    {J : Cluster → List Session → Session → Prop} (init : I (Cluster.start slot) [])
    (spawn : ∀ cluster sessions job, Orderly lib subject cluster sessions → I cluster sessions →
      J cluster sessions (Session.begin job))
    (act : ∀ cluster sessions job t o next answer after,
      Working lib subject cluster sessions job t (.op o next) → cluster.reliable o answer after →
      (contract lib).allows ((contract lib).run (Session.begin job) t) o →
      J cluster sessions ((contract lib).run (Session.begin job) t) →
      J (cluster.step sessions.length ⟨o, answer⟩ after) sessions
        ((contract lib).next ((contract lib).run (Session.begin job) t) o answer))
    (finish : ∀ cluster sessions job t r, Working lib subject cluster sessions job t (.ofExcept r) →
      Finish lib ((contract lib).run (Session.begin job) t) r →
      J cluster sessions ((contract lib).run (Session.begin job) t) →
      I cluster (sessions ++ [(contract lib).run (Session.begin job) t])) :
    (pool.threads = [] ∧ Attended pool.world ∧ I pool.world []) ∨ ∃ front thread, pool.threads = front ++ [thread] ∧
      Working lib subject pool.world (front.map (Thread.watched (contract lib) Session.begin)) thread.job
        thread.trace thread.program ∧
      J pool.world (front.map (Thread.watched (contract lib) Session.begin))
        (thread.watched (contract lib) Session.begin) := by
  have holds := Pool.Reach.uninterrupted (M := contract lib)
    (I := fun cluster sessions => Orderly lib subject cluster sessions ∧ Attended cluster ∧
      I cluster sessions)
    (J := fun cluster sessions => Orderly lib subject cluster sessions ∧
      ∀ front session, sessions = front ++ [session] → Attends cluster session.stage ∧ J cluster front session)
    Session.begin ?_ ?_ ?_ (fun _ _ disturbed => disturbed) ⟨.start unclaimed, .start slot, init⟩ run.reached run.ended
  · rcases holds with ⟨empty, _, attended, between⟩ | ⟨some_, orderly, running⟩
    · exact .inl ⟨empty, attended, between⟩
    · obtain ⟨front, thread, split⟩ := (List.eq_nil_or_concat' pool.threads).resolve_left some_
      obtain ⟨_, path⟩ := run.reached.path thread (by rw [split]; simp)
      rw [split, List.map_append] at orderly running
      obtain ⟨attends, during⟩ := running _ _ rfl
      exact .inr ⟨front, thread, split, ⟨path, orderly, attends⟩, during⟩
  · rintro cluster sessions job wanted ⟨orderly, attended, holds⟩
    refine ⟨orderly.spawn wanted, fun front session split => ?_⟩
    obtain ⟨rfl, same⟩ := List.append_inj' split rfl
    cases same
    exact ⟨attended.begin, spawn cluster sessions job orderly holds⟩
  · rintro cluster sessions job t o next answer _ _ path ⟨orderly, running⟩ ⟨after, served, rfl⟩
    obtain ⟨attends, holds⟩ := running _ _ rfl
    have allowed := (sign_follows lib job).allows path
    refine ⟨orderly.act allowed (.inl served.honest), fun front session split => ?_⟩
    obtain ⟨rfl, same⟩ := List.append_inj' split rfl
    cases same
    refine ⟨attends.act orderly laws allowed, ?_⟩
    exact act cluster sessions job t o next answer after ⟨path, orderly, attends⟩ served allowed holds
  · rintro cluster sessions job t r _ path ⟨orderly, running⟩
    obtain ⟨attends, holds⟩ := running _ _ rfl
    have ended := sign_finish path
    exact ⟨orderly, attends.ended ended, finish cluster sessions job t r ⟨path, orderly, attends⟩ ended holds⟩

def Op.rejected : (o : Op) → o.Answer → Bool
  | .createTransaction _, .error _ | .updateTransactionStatus _, .error _
  | .deleteTransaction _ _, .error _ => true
  | _, _ => false

namespace Deployment

theorem respond_reliable (d : Deployment) (o : Op) (accepted : o.rejected (d.respond o).1 = false) :
    d.cluster.reliable o (d.respond o).1 (d.respond o).2 := by
  have honest := d.respond_honest o
  cases o with
  | now | random | entropy | getSecret | getCertificate | call | send =>
      exact honest.resolve_right fun failed => failed.1
  | getTransaction key =>
      simp only [respond]
      split
      · rename_i record stored
        split
        · rename_i same
          exact ⟨stored, same, stored.symm⟩
        · rename_i other
          refine ⟨rfl, fun found held => ?_, stored.symm⟩
          cases stored.symm.trans held
          exact other
      · rename_i empty
        refine ⟨rfl, fun found held => ?_, empty.symm⟩
        cases empty.symm.trans held
  | createTransaction | updateTransactionStatus | deleteTransaction =>
      rcases honest with served | ⟨failed, _⟩
      · exact served
      · revert accepted failed
        generalize (d.respond _).1 = answer
        cases answer with
        | ok => exact fun _ failed => failed.elim
        | error =>
            intro accepted
            cases accepted

theorem pool_uninterrupted (d : Deployment) (lib : Library) (job : Job) (n k : Nat)
    {slot : Option CMPTransaction} (initial : d.cluster = .start slot)
    (ended : ∀ thread ∈ (d.pool lib job n k).threads, thread.program.outcome?.isSome = true)
    (accepted : ∀ thread ∈ (d.pool lib job n k).threads, ∀ e ∈ thread.trace,
      e.op.rejected e.answer = false) :
    UninterruptedRun lib job.subject slot (d.pool lib job n k) := by
  refine ⟨?_, fun thread member => ended thread ((List.dropLast_sublist _).subset member)⟩
  clear ended
  induction k with
  | zero =>
      unfold pool calls
      rw [initial]
      exact .init
  | succ k ih =>
      have earlier := ih fun thread member => accepted thread (List.mem_append_left _ member)
      refine Pool.Reach.advance (W := reliableWorld) (P := fun e => e.op.rejected e.answer = false)
        Deployment.cluster ?_ rfl n (d.calls lib job n k).1 [] _ ?_ (.step earlier (.spawn job rfl))
      · exact fun s o answered => ⟨_, s.respond_reliable o answered, rfl⟩
      · exact accepted _ (List.mem_append_right _ List.mem_cons_self)

end Deployment

end CmpIssuer
