import CmpIssuer.Cluster.Sequence

/-!
The nonces of a record and where they come from. The chronicle of a cluster
lists, for every incarnation of the record, the exchanges whose answers were
recorded in it. What the status keeps of them is an invariant of single
writes, and it carries over to runs because a write is made from the stored
record.
-/
namespace CmpIssuer
open Effect

/-- A message and the answer to it. -/
structure Recording where
  request : HTTPRequest
  answer : HTTPAnswer

def Recording.nonce (recording : Recording) : Bytes := recording.request.message.header.senderNonce

def Recording.confirms (recording : Recording) : Bool :=
  recording.request.message.body.type == .certConf

section
variable (lib : Library)

/-- The answer to an enrollment message or a poll was accepted as a response that announces a wait. -/
def Recording.Waits (recording : Recording) (response : PKIMessage) : Prop :=
  ∃ call t signer result, call.confirms = false ∧
    Understood lib ⟨call, recording.request, recording.answer, t⟩ response signer
      (.ok (.result result)) ∧ result.pending.isSome

/-- The nonces of a record in phase Polling: that of the enrollment message whose answer was recorded
first, and that of the response recorded last. -/
structure Polls (record : CMPTransaction) (recorded : List Recording) : Prop where
  first : ∃ first rest response, recorded = first :: rest ∧
    first.request.message.body.operation?.isSome ∧ first.Waits lib response ∧
    record.status.requestNonce = first.nonce
  last : ∃ last response, recorded.getLast? = some last ∧ last.Waits lib response ∧
    record.status.recipNonce = response.header.senderNonce

/-- A certConf for the recorded leaf whose answer delays the confirmation, and its nonce. -/
structure Delayed (record : CMPTransaction) (recording : Recording) : Prop where
  leaf : ∃ leaf certReqID status, LeafStored lib record leaf ∧
    lib.newCertStatus leaf certReqID = .ok status ∧
    recording.request.message.body = .certConf [{ status with statusInfo := none }]
  transactionID : recording.request.message.header.transactionID = record.spec.transactionID
  delay : ∃ (call : ClientCall) (t : Time) (response : PKIMessage) (signer : Option Certificate)
    (delay : Duration),
    call.accept lib t recording.request.message recording.answer = .ok (response, signer) ∧
    confirmationDelay lib response = .ok delay
  nonce : record.status.requestNonce = recording.nonce
  present : recording.nonce ≠ []

/-- The nonce of a record in phase Confirming: none before a delayed certConf was recorded, and the
nonce of that one certConf afterwards. -/
def Confirms (record : CMPTransaction) (recorded : List Recording) : Prop :=
  (recorded.filter Recording.confirms = [] ∧ record.status.requestNonce = []) ∨
  ∃ conf, recorded.filter Recording.confirms = [conf] ∧ Delayed lib record conf

/-- What the status of a record keeps of the exchanges recorded in it. -/
structure Recalls (record : CMPTransaction) (recorded : List Recording) : Prop where
  early : record.status.phase.rank < Phase.polling.rank → recorded = []
  plain : record.status.phase.rank < Phase.confirming.rank → recorded.filter Recording.confirms = []
  polling : record.status.phase = .polling → Polls lib record recorded
  confirming : record.status.phase = .confirming → Confirms lib record recorded

end

section
variable {lib : Library} {record : CMPTransaction} {recorded : List Recording}

theorem Recalls.opened (early : record.status.phase.rank < Phase.polling.rank) : Recalls lib record [] where
  early _ := rfl
  plain _ := rfl
  polling phase := by
    rw [phase] at early
    exact absurd early (lt_irrefl _)
  confirming phase := by
    rw [phase] at early
    exact absurd early (by decide)

theorem Records.answers {exchange : Exchange} {status : CMPTransactionStatus}
    {trail : Trail} (records : Records lib trail record exchange status) : status.phase ≠ .enrolling := by
  cases records <;> rintro ⟨⟩

theorem Recalls.updated (recalls : Recalls lib record recorded) (resourceVersion : String) :
    Recalls lib (record.updated resourceVersion) recorded where
  early := recalls.early
  plain := recalls.plain
  polling phase := ⟨(recalls.polling phase).first, (recalls.polling phase).last⟩
  confirming phase := by
    rcases recalls.confirming phase with none | ⟨conf, only, delayed⟩
    · exact .inl none
    · exact .inr ⟨conf, only, delayed.leaf, delayed.transactionID, delayed.delay, delayed.nonce, delayed.present⟩

variable {exchange : Exchange}

/-- The exchange of a message and its answer, as it is recorded. -/
def Exchange.recording (exchange : Exchange) : Recording := ⟨exchange.request, exchange.answer⟩

theorem Exchange.plain (sends : exchange.call.sends lib exchange.request.message.body)
    (enrolls : exchange.call.confirms = false) : exchange.recording.confirms = false := by
  unfold Recording.confirms Exchange.recording
  cases body : exchange.request.message.body <;> first | rfl | skip
  rw [body] at sends
  cases call : exchange.call with
  | confirmP10CR =>
      rw [call] at enrolls
      cases enrolls
  | _ =>
      rw [call] at sends
      cases sends

theorem filter_concat_plain {recording : Recording} (empty : recorded.filter Recording.confirms = [])
    (plain : recording.confirms = false) : (recorded ++ [recording]).filter Recording.confirms = [] := by
  simp [List.filter_append, empty, plain]

theorem countPoll_requestNonce (record : CMPTransaction) (polled : Bool) :
    (record.countPoll polled).status.requestNonce = record.status.requestNonce := by
  cases polled <;> rfl

/-- The nonce under which a wait is recorded: that of the message just sent if it is the enrollment
message, and the one on record otherwise. -/
theorem PhaseAllows.recordedNonce (allowed : PhaseAllows lib record exchange.call)
    (enrolls : exchange.call.confirms = false) :
    (record.status.phase.rank < Phase.polling.rank ∧
      exchange.call.enrollmentNonce exchange.request.message = exchange.recording.nonce ∧
      (exchange.call.sends lib exchange.request.message.body →
        exchange.request.message.body.operation?.isSome)) ∨
    (record.status.phase = .polling ∧
      exchange.call.enrollmentNonce exchange.request.message = record.status.requestNonce) := by
  obtain ⟨call, request, answer, t⟩ := exchange
  have early : record.status.phase ∉ [Phase.polling, .confirming, .issued] →
      record.status.phase.rank < Phase.polling.rank := by
    intro outside
    cases phase : record.status.phase <;> simp_all [Phase.rank]
  cases call with
  | enrollP10CR | enrollIR | enrollKUR =>
      refine .inl ⟨early allowed.1, rfl, fun sends => ?_⟩
      dsimp only at sends ⊢
      cases body : request.message.body <;> rw [body] at sends <;> first | rfl | cases sends
  | pollP10CR poll => exact .inr ⟨allowed.1, allowed.2.2.2.1⟩
  | confirmP10CR => cases enrolls

theorem Recalls.pending {response : PKIMessage} {signer : Option Certificate} {result : EnrollmentResult}
    {pending : PendingTransaction} {t : Time} (recalls : Recalls lib record recorded)
    (understood : Understood lib exchange response signer (.ok (.result result)))
    (enrolls : exchange.call.confirms = false) (waits : result.pending = some pending)
    (allowed : PhaseAllows lib record exchange.call)
    (sends : exchange.call.sends lib exchange.request.message.body)
    (fresh : exchange.recording.nonce ≠ []) :
    Recalls lib { record with status :=
        (record.countPoll (record.status.phase == .polling)).status.pending pending t }
      (recorded ++ [exchange.recording]) where
  early later := absurd later (lt_irrefl Phase.polling.rank)
  plain _ := filter_concat_plain (recalls.plain (allowed.early enrolls)) (Exchange.plain sends enrolls)
  confirming := by rintro ⟨⟩
  polling _ := by
    have answered : exchange.recording.Waits lib response :=
      ⟨exchange.call, exchange.instant, signer, result, enrolls, understood, by rw [waits]; rfl⟩
    obtain ⟨csr, _, built, _, _, _, _, verdict⟩ := understood.judged
    obtain ⟨recip, request⟩ : pending.recipNonce = response.header.senderNonce ∧
        pending.requestNonce = exchange.call.enrollmentNonce exchange.request.message := by
      rcases ClientCall.verdict_result enrolls verdict with ⟨pending', rfl, recip, request, _⟩ | ⟨none, _⟩
      · cases waits
        exact ⟨recip, request⟩
      · rw [none] at waits
        cases waits
    refine ⟨?_, _, response, List.getLast?_concat, answered, recip⟩
    dsimp only [CMPTransactionStatus.pending]
    rw [request, countPoll_requestNonce]
    rcases allowed.recordedNonce enrolls with ⟨early, own, enrollment⟩ | ⟨phase, same⟩
    · rw [recalls.early early, own, if_neg fresh]
      exact ⟨exchange.recording, [], response, rfl, enrollment sends, answered, rfl⟩
    · obtain ⟨first, rest, earlier, rfl, enrollment, waited, nonce⟩ := (recalls.polling phase).first
      rw [same, ite_self]
      exact ⟨first, rest ++ [exchange.recording], earlier, rfl, enrollment, waited, nonce⟩

theorem Recalls.obtained {response : PKIMessage} {signer : Option Certificate} {result : EnrollmentResult}
    {pending : PendingTransaction} {t : Time} (recalls : Recalls lib record recorded)
    (understood : Understood lib exchange response signer (.ok (.result result)))
    (enrolls : exchange.call.confirms = false) (unconfirmed : result.pendingConfirmation = some pending)
    (allowed : PhaseAllows lib record exchange.call)
    (sends : exchange.call.sends lib exchange.request.message.body) :
    Recalls lib { record with status := record.status.confirming result.chain pending t }
      (recorded ++ [exchange.recording]) where
  early later := absurd later (by decide : ¬ Phase.confirming.rank < Phase.polling.rank)
  plain later := absurd later (lt_irrefl Phase.confirming.rank)
  polling := by rintro ⟨⟩
  confirming _ := by
    refine .inl ⟨filter_concat_plain (recalls.plain (allowed.early enrolls)) (Exchange.plain sends enrolls), ?_⟩
    obtain ⟨csr, _, built, _, _, _, _, verdict⟩ := understood.judged
    rcases ClientCall.verdict_result enrolls verdict with ⟨_, rfl, _⟩ | ⟨_, nonces, _⟩
    · cases unconfirmed
    · exact (nonces pending unconfirmed).2.1

/-- A confirmation that is delayed is recorded under the nonce of its certConf. -/
theorem Recalls.delayed (laws : MessageLaws lib) (keeps : KeepsEncoding lib) {response : PKIMessage}
    {signer : Option Certificate} {result : EnrollmentResult} {confirm : ConfirmRequest}
    {leaf : Certificate} {rest : List Certificate} {next : PendingTransaction} {t : Time} {polled : Bool}
    (recalls : Recalls lib record recorded)
    (understood : Understood lib exchange response signer (.ok (.result result)))
    (confirms : exchange.call = .confirmP10CR confirm) (head : confirm.certificate = some leaf)
    (waits : result.pendingConfirmation = some next)
    (allowed : PhaseAllows lib record exchange.call)
    (sends : exchange.call.sends lib exchange.request.message.body)
    (identified : exchange.request.message.header.transactionID = record.spec.transactionID)
    (fresh : exchange.recording.nonce ≠ []) :
    Recalls lib { record with status :=
        (record.countPoll polled).status.confirming (leaf :: rest) next t }
      (recorded ++ [exchange.recording]) where
  early later := absurd later (by decide : ¬ Phase.confirming.rank < Phase.polling.rank)
  plain later := absurd later (lt_irrefl Phase.confirming.rank)
  polling := by rintro ⟨⟩
  confirming _ := by
    obtain ⟨phase, requestNonce, stored⟩ := allowed.confirming confirms head
    rw [confirms] at sends
    obtain ⟨csr, drawn, built, credentials, _, from_, sealed_, verdict⟩ := understood.judged
    rw [confirms] at verdict
    have outcome : finishConfirmation lib confirm (confirmationNonce confirm built) response = .ok result := by
      cases finished : finishConfirmation lib confirm (confirmationNonce confirm built) response with
      | error err => simp [ClientCall.verdict, finished, Finished.ofExcept] at verdict
      | ok obtained => simpa [ClientCall.verdict, finished, Finished.ofExcept] using verdict
    obtain ⟨nonce, delay, delayed⟩ := finishConfirmation_delayed outcome waits
    obtain ⟨_, messageNonce, builtNonce, _⟩ := from_.protected_ laws sealed_
    rcases sends.confirmation with ⟨set, body⟩ | ⟨unset, leaf', status, certificate', hashed, body⟩
    · -- The answer to a poll: the certConf was recorded before.
      rcases recalls.confirming phase with ⟨_, none⟩ | ⟨conf, only, known⟩
      · exact absurd (requestNonce.trans none) set
      · have plain : exchange.recording.confirms = false := by
          simp [Recording.confirms, Exchange.recording, body, Body.type]
        obtain ⟨leaf₀, certReqID, status, stored₀, certified⟩ := known.leaf
        have same : leaf.raw = leaf₀.raw :=
          Option.some.inj ((stored.head keeps).symm.trans (stored₀.head keeps))
        refine .inr ⟨conf, by simp [List.filter_append, only, plain], ?_, known.transactionID, known.delay, ?_,
          known.present⟩
        · exact ⟨leaf₀, certReqID, status, ⟨leaf.raw, rfl, .inl same⟩, certified⟩
        · rw [confirmationNonce, if_neg set] at nonce
          exact nonce.trans (requestNonce.trans known.nonce)
    · -- The answer to the certConf itself.
      cases certificate'.symm.trans head
      rcases recalls.confirming phase with ⟨empty, _⟩ | ⟨conf, _, known⟩
      · have confirmed : exchange.recording.confirms = true := by
          simp [Recording.confirms, Exchange.recording, body, Body.type]
        refine .inr ⟨exchange.recording, by simp [List.filter_append, empty, confirmed], ?_, identified,
          ⟨exchange.call, exchange.instant, response, signer, delay, understood.accepted, delayed⟩, ?_, fresh⟩
        · exact ⟨leaf, confirm.certReqID, status, ⟨leaf.raw, rfl, .inl rfl⟩, hashed, body⟩
        · rw [confirmationNonce, if_pos unset, builtNonce, ← messageNonce] at nonce
          exact nonce
      · exact absurd (known.nonce.symm.trans (requestNonce.symm.trans unset)) known.present

theorem Records.recalls (laws : MessageLaws lib) (keeps : KeepsEncoding lib)
    {status : CMPTransactionStatus} {trail : Trail} (records : Records lib trail record exchange status)
    (allowed : PhaseAllows lib record exchange.call)
    (sends : exchange.call.sends lib exchange.request.message.body)
    (identified : exchange.request.message.header.transactionID = record.spec.transactionID)
    (fresh : exchange.recording.nonce ≠ []) (recalls : Recalls lib record recorded) :
    Recalls lib { record with status } (recorded ++ [exchange.recording]) := by
  cases records with
  | pending t understood enrolls waits =>
      exact recalls.pending understood enrolls waits allowed sends fresh
  | confirming t understood enrolls issued unconfirmed =>
      exact recalls.obtained understood enrolls unconfirmed allowed sends
  | delayed t understood confirms head _ waits =>
      exact recalls.delayed laws keeps understood confirms head waits allowed sends identified fresh
  | issued | confirmed =>
      refine ⟨fun later => ?_, fun later => ?_, by rintro ⟨⟩, by rintro ⟨⟩⟩
      · exact absurd later (by decide : ¬ Phase.issued.rank < Phase.polling.rank)
      · exact absurd later (by decide : ¬ Phase.issued.rank < Phase.confirming.rank)

end

/-- The last exchange of every thread, and for every incarnation of the record the exchanges whose
answers were recorded in it. -/
structure Chronicle where
  latest : Nat → Option Recording
  recorded : String → List Recording

/-- The exchange of an entry that sends a message. -/
def Entry.exchange? (entry : Entry) : Option Recording :=
  match entry.event with
  | ⟨.send request, answer⟩ => some ⟨request, answer⟩
  | _ => none

/-- The record that a status update leaves, if it takes effect and records an answer. The write of phase
Enrolling opens the record and records none. -/
def Entry.recorded? (entry : Entry) : Option CMPTransaction :=
  match entry.event.op, entry.after with
  | .updateTransactionStatus _, some record =>
      if entry.before = some record ∨ record.status.phase = .enrolling then none else some record
  | _, _ => none

/-- An answer is recorded after it was received, by the thread that received it. -/
def Chronicle.step (chronicle : Chronicle) (entry : Entry) : Chronicle where
  latest := match entry.exchange? with
    | some recording => Function.update chronicle.latest entry.thread (some recording)
    | none => chronicle.latest
  recorded := match entry.recorded? with
    | some record => Function.update chronicle.recorded record.uid
        (chronicle.recorded record.uid ++ (chronicle.latest entry.thread).toList)
    | none => chronicle.recorded

theorem Chronicle.recorded_step {chronicle : Chronicle} {entry : Entry} {record : CMPTransaction}
    {recording : Recording} (effect : entry.recorded? = some record)
    (latest : chronicle.latest entry.thread = some recording) :
    (chronicle.step entry).recorded = Function.update chronicle.recorded record.uid
      (chronicle.recorded record.uid ++ [recording]) := by
  simp only [Chronicle.step, effect, latest, Option.toList_some]

def Cluster.chronicle (cluster : Cluster) : Chronicle :=
  cluster.log.foldl Chronicle.step ⟨fun _ => none, fun _ => []⟩

theorem Cluster.chronicle_step (cluster : Cluster) (thread : Nat) (event : Event interface)
    (after : Option CMPTransaction) :
    (cluster.step thread event after).chronicle =
      cluster.chronicle.step ⟨thread, event, cluster.slot, after⟩ := List.foldl_concat ..

/-- The exchange whose answer a stage waits to record. -/
def Stage.asked : Stage → Option (Hold × ClientCall × Recording)
  | .answered hold call request answer => some (hold, call, ⟨request, answer⟩)
  | .examined hold exchange => some (hold, exchange.call, exchange.recording)
  | _ => none

theorem Stage.next_asked {job : Job} {stage : Stage} {o : Op} {answer : o.Answer} {hold : Hold}
    {call : ClientCall} {recording : Recording}
    (calm : ∀ sent, o = .send sent → stage.calm)
    (h : (stage.next job o answer).asked = some (hold, call, recording)) :
    (stage = .calling hold call ∧
      (⟨o, answer⟩ : Event interface) = ⟨.send recording.request, recording.answer⟩) ∨
    (stage.asked = some (hold, call, recording) ∧ o.stores = false ∧ ∀ sent, o ≠ .send sent) := by
  cases o with
  | send sent =>
      cases stage with
      | answered => exact (calm sent rfl).elim
      | calling => cases h; exact .inl ⟨rfl, rfl⟩
      | _ => cases h
  | now | call => cases stage <;> exact .inr ⟨h, rfl, by rintro _ ⟨⟩⟩
  | random | entropy | getSecret | getCertificate => exact .inr ⟨h, rfl, by rintro _ ⟨⟩⟩
  | createTransaction | updateTransactionStatus => cases answer <;> cases h
  | getTransaction => cases answer <;> simp only [Stage.next] at h <;> split at h <;> cases h
  | deleteTransaction =>
      cases answer <;> cases stage <;> simp only [Stage.next, afterDelete] at h <;>
        first | cases h | (split at h <;> cases h)

theorem Entry.exchange_none {o : Op} {answer : o.Answer} {thread : Nat}
    {before after : Option CMPTransaction} (unsent : ∀ sent, o ≠ .send sent) :
    Entry.exchange? ⟨thread, ⟨o, answer⟩, before, after⟩ = none := by
  cases o with
  | send sent => exact absurd rfl (unsent sent)
  | _ => rfl

theorem Entry.recorded_update {written record : CMPTransaction} {answer : Except ApiError String}
    {thread : Nat} {before : Option CMPTransaction} (changed : before ≠ some record)
    (answers : record.status.phase ≠ .enrolling) :
    Entry.recorded? ⟨thread, ⟨.updateTransactionStatus written, answer⟩, before, some record⟩ =
      some record := if_neg (not_or.mpr ⟨changed, answers⟩)

theorem Entry.recorded_some {o : Op} {answer : o.Answer} {thread : Nat}
    {before after : Option CMPTransaction} {record : CMPTransaction}
    (h : Entry.recorded? ⟨thread, ⟨o, answer⟩, before, after⟩ = some record) :
    (∃ written, o = .updateTransactionStatus written) ∧ after = some record ∧ before ≠ some record ∧
      record.status.phase ≠ .enrolling := by
  cases o with
  | updateTransactionStatus written =>
      cases after with
      | none => cases h
      | some stored =>
          simp only [Entry.recorded?] at h
          split at h
          · cases h
          · rename_i effective
            cases h
            push Not at effective
            exact ⟨⟨written, rfl⟩, rfl, effective⟩
  | _ => cases h

theorem Cluster.latest_step {cluster : Cluster} {thread : Nat} {o : Op} {answer : o.Answer}
    {after : Option CMPTransaction} (unsent : ∀ sent, o ≠ .send sent) :
    (cluster.step thread ⟨o, answer⟩ after).chronicle.latest = cluster.chronicle.latest := by
  rw [Cluster.chronicle_step]
  simp only [Chronicle.step, Entry.exchange_none unsent]

end CmpIssuer
