import CmpIssuer.Session.Handover

/-!
What a `Sign` call does with an answer that tells it to wait. The client
returns the wait, the call records it and asks for a requeue, and nothing else
happens to the record.
-/
namespace CmpIssuer
open Effect

/-- What is left of a call that asks for a requeue. -/
def Requeues (p : Go GoError Bytes) : Prop := ∃ report : Time → GoError, p = now >>= fun t => fail (report t)

theorem exists_handover {t : Trail} {call : ClientCall} (served : servedCall t = some call) :
    ∃ before later, t = before ++ ⟨.call call, ()⟩ :: later ∧ ∀ e ∈ later, callHanded e = none := by
  unfold servedCall at served
  induction t with
  | nil => cases served
  | cons e t ih =>
      rw [List.reverse_cons, List.findSome?_append] at served
      cases later : t.reverse.findSome? callHanded with
      | some call' =>
          rw [later] at served
          obtain ⟨before, after, rfl, quiet⟩ := ih (later.trans served)
          exact ⟨e :: before, after, rfl, quiet⟩
      | none =>
          rw [later] at served
          refine ⟨[], t, ?_, fun e' member => List.findSome?_eq_none_iff.mp later e' (List.mem_reverse.mpr member)⟩
          obtain ⟨o, answer⟩ := e
          cases o <;> cases served
          rfl

/-- The stages from which no answer is examined before another request is handed over. -/
def Stage.past : Stage → Prop
  | .calling _ _ | .answered _ _ _ _ | .examined _ _ => False
  | _ => True

theorem Stage.past_next {job : Job} {stage : Stage} {o : Op} {answer : o.Answer} (past : stage.past)
    (unhanded : callHanded ⟨o, answer⟩ = none) : (stage.next job o answer).past := by
  cases o with
  | call => cases unhanded
  | now | send => cases stage <;> first | exact past.elim | trivial
  | random | entropy | getSecret | getCertificate => exact past
  | createTransaction | updateTransactionStatus => cases answer <;> trivial
  | getTransaction => cases answer <;> simp only [Stage.next] <;> split <;> trivial
  | deleteTransaction =>
      cases answer <;> cases stage <;> simp only [Stage.next, afterDelete] <;>
        first | exact past.elim | trivial | (split <;> trivial)

theorem Stage.examined_next {job : Job} {hold : Hold} {exchange : Exchange} {o : Op} {answer : o.Answer}
    (unhanded : callHanded ⟨o, answer⟩ = none) :
    Stage.next job (.examined hold exchange) o answer = .examined hold exchange ∨
      (Stage.next job (.examined hold exchange) o answer).past := by
  cases o with
  | call => cases unhanded
  | now | random | entropy | getSecret | getCertificate => exact .inl rfl
  | send => exact .inr trivial
  | createTransaction | updateTransactionStatus => cases answer <;> exact .inr trivial
  | getTransaction => cases answer <;> simp only [Stage.next] <;> split <;> exact .inr trivial
  | deleteTransaction =>
      cases answer <;> simp only [Stage.next, afterDelete] <;>
        first | exact .inr trivial | (split <;> exact .inr trivial)

/-- A call that has examined an answer examines no other one before it hands over another request. -/
theorem contract_run_examined {lib : Library} {session : Session} {t : Trail} {hold hold' : Hold}
    {exchange exchange' : Exchange} (quiet : ∀ e ∈ t, callHanded e = none)
    (before : session.stage = .examined hold exchange)
    (after : ((contract lib).run session t).stage = .examined hold' exchange') : exchange = exchange' := by
  have kept : ∀ session : Session, session.stage = .examined hold exchange ∨ session.stage.past →
      ((contract lib).run session t).stage = .examined hold exchange ∨
        ((contract lib).run session t).stage.past := by
    clear before after
    induction t with
    | nil => exact fun _ start => start
    | cons e t ih =>
        intro session start
        refine ih (fun e' member => quiet e' (List.mem_cons_of_mem _ member)) _ ?_
        have unhanded := quiet e List.mem_cons_self
        rcases start with examined | past
        · change session.stage.next session.job e.op e.answer = _ ∨
            (session.stage.next session.job e.op e.answer).past
          rw [examined]
          exact Stage.examined_next unhanded
        · exact .inr (Stage.past_next past unhanded)
  rcases kept session (.inl before) with same | past
  · cases same.symm.trans after
    rfl
  · rw [after] at past
    exact past.elim

theorem contract_run_serving {lib : Library} {session : Session} {t : Trail} {served : Hold × ClientCall}
    (quiet : ∀ e ∈ t, callHanded e = none)
    (after : ((contract lib).run session t).stage.serving = some served) :
    session.stage.serving = some served := by
  induction t generalizing session with
  | nil => exact after
  | cons e t ih =>
      have first := ih (fun e' member => quiet e' (List.mem_cons_of_mem _ member)) after
      rcases Stage.next_serving first with ⟨_, event⟩ | before
      · have unhanded := quiet e List.mem_cons_self
        obtain ⟨o, answer⟩ := e
        cases event
        cases unhanded
      · exact before

section
variable {lib : Library} {job : Job} {t : Trail} {o : Op} {next : o.Answer → Go GoError Bytes}

theorem failTransaction_op {α : Type} {o : Op} {next : o.Answer → Go GoError α} {record : CMPTransaction}
    {err : GoError} (path : Path (failTransaction record err) t (.op o next)) :
    t = [] ∧ ∃ key uid, o = .deleteTransaction key uid := by
  unfold failTransaction at path
  dsimp only at path
  split at path
  · rcases path.bind_op with ⟨_, inside⟩ | ⟨_, u, v, _, _, failing⟩
    · change Path (Program.op (S := interface) (Op.deleteTransaction _ _) _) t _ at inside
      cases inside with
      | refl => exact ⟨rfl, _, _, rfl⟩
      | step answer rest =>
          cases answer with
          | ok => cases rest
          | error =>
              change Path (if _ then _ else _) _ _ at rest
              split at rest <;> cases rest
    · cases failing
  · cases path

/-- A call at work on an answer. The client is still at it, or the signer has its outcome. -/
theorem sign_outcome (path : Path (sign lib job.clusterResourceNamespace job.request job.issuer) t (.op o next))
    {hold : Hold} {call : ClientCall}
    (serving : ((contract lib).run (Session.begin job) t).stage.serving = some (hold, call)) :
    o.client = true ∨ ∃ u v r after, t = u ++ v ∧ (∀ e ∈ v, callHanded e = none) ∧
      HandsOver lib (transactionLimitsWithDefaults job.issuer.spec.transaction) hold.record call after ∧
      Concludes lib hold call ((contract lib).run (Session.begin job) u) (r.mapError Fault.error) ∧
      Path (after r) v (.op o next) := by
  obtain ⟨before, later, rfl, quiet⟩ := exists_handover (servedCall_of_serving path serving)
  obtain ⟨p, handing, rest⟩ := path.append_inv
  cases rest with
  | step _ rest =>
      obtain ⟨hold', _, _, held, after, handsOver, same⟩ := sign_handover handing
      obtain ⟨_, _, hands⟩ := sign_hands handing
      rw [Monitor.run_append, Monitor.run_cons] at serving
      generalize begun : (contract lib).run (Session.begin job) before = session at held serving
      obtain ⟨job', trail, _⟩ := session
      subst held
      have start : ((contract lib).next ⟨job', trail, .held hold'⟩ (.call call) ()).stage.serving =
          some (hold, call) := contract_run_serving quiet serving
      cases start
      rw [same] at rest
      rcases path_attempt_op rest with ⟨_, inside, _⟩ | ⟨r, u, v, rfl, serves, recording⟩
      · refine .inl ?_
        have allowed := (serve_speaks lib call).allows inside
        cases o <;> first | rfl | cases allowed
      · have follows : Follows (contract lib) (Concludes lib hold call)
            ⟨job', trail ++ [⟨.call call, ()⟩], .calling hold call⟩ (serve lib call) :=
          serve_follows hands.enrolls.signature
        have concludes := follows.path serves
        refine .inr ⟨before ++ ⟨.call call, ()⟩ :: u, v, r, after, by simp, ?_, handsOver, ?_, recording⟩
        · exact fun e member => quiet e (List.mem_append_right _ member)
        · rw [Monitor.run_append, Monitor.run_cons, begun]
          cases r <;> exact concludes

variable {hold : Hold} {exchange : Exchange}

/-- A call that has examined an answer and acts on the record. The answer is no wait, or the call is about
to record it. -/
theorem sign_examined
    (path : Path (sign lib job.clusterResourceNamespace job.request job.issuer) t (.op o next))
    (stage : ((contract lib).run (Session.begin job) t).stage = .examined hold exchange)
    (acts : o.client = false) :
    exchange.Unwaited lib ∨ ∃ v result pending after,
      HandsOver lib (transactionLimitsWithDefaults job.issuer.spec.transaction) hold.record exchange.call after ∧
      exchange.call.delay result = some pending ∧ Path (after (.ok result)) v (.op o next) := by
  rcases sign_outcome path (by rw [stage]; rfl) with client | ⟨u, v, r, after, rfl, quiet, handsOver, concludes,
    recording⟩
  · rw [acts] at client
    cases client
  cases r with
  | error err =>
      rw [handsOver.failing] at recording
      obtain ⟨rfl, _⟩ := failTransaction_op recording
      rw [List.append_nil] at stage
      exact .inl (concludes.unwaited stage)
  | ok result =>
      obtain ⟨exchange', response, signer, examined, same, understood⟩ := concludes
      rw [Monitor.run_append] at stage
      obtain rfl := contract_run_examined quiet examined stage
      cases delayed : exchange'.call.delay result with
      | none => exact .inl (understood.unwaited_result delayed)
      | some pending => exact .inr ⟨v, result, pending, after, handsOver, delayed, recording⟩

/-- A call that writes a status for an answer has a result of the client for it. -/
theorem sign_records {written : CMPTransaction} {next : Except ApiError String → Go GoError Bytes}
    (path : Path (sign lib job.clusterResourceNamespace job.request job.issuer) t
      (.op (.updateTransactionStatus written) next))
    (stage : ((contract lib).run (Session.begin job) t).stage = .examined hold exchange) :
    ∃ v response signer result after,
      Understood lib exchange response signer (.ok (.result result)) ∧
      HandsOver lib (transactionLimitsWithDefaults job.issuer.spec.transaction) hold.record exchange.call after ∧
      Path (after (.ok result)) v (.op (.updateTransactionStatus written) next) := by
  rcases sign_outcome path (by rw [stage]; rfl) with client | ⟨u, v, r, after, rfl, quiet, handsOver, concludes,
    recording⟩
  · cases client
  cases r with
  | error err =>
      rw [handsOver.failing] at recording
      obtain ⟨_, _, _, removes⟩ := failTransaction_op recording
      cases removes
  | ok result =>
      obtain ⟨exchange', response, signer, examined, same, understood⟩ := concludes
      rw [Monitor.run_append] at stage
      obtain rfl := contract_run_examined quiet examined stage
      exact ⟨v, response, signer, result, after, understood, handsOver, recording⟩

/-- The monitor of programs that read the clock and write the status. -/
abbrev recording : Monitor interface Trail :=
  recorder fun o => o = .now ∨ ∃ written, o = .updateTransactionStatus written

theorem HandsOver.records {limits : TransactionSpec} {record : CMPTransaction} {call : ClientCall}
    {after : Except GoError EnrollmentResult → Go GoError Bytes} {result : EnrollmentResult}
    {pending : PendingTransaction} (handsOver : HandsOver lib limits record call after)
    (delayed : call.delay result = some pending) :
    Follows recording (fun _ _ => True) [] (after (.ok result)) := by
  have writes : ∀ (t : Trail) failure (record : CMPTransaction) status,
      Follows recording (fun _ _ => True) t (writeStatus failure record status) := by
    intro t failure record status
    refine follows_ask_bind.mpr ⟨.inr ⟨_, rfl⟩, fun answer => ?_⟩
    cases answer <;> trivial
  cases handsOver with
  | exchange obtains _ _ waits =>
      rw [waits result pending (by rwa [ClientCall.delay, obtains] at delayed)]
      exact relies_bind (follows_ask_bind.mpr ⟨.inl rfl, fun _ => writes _ _ _ _⟩) fun _ _ =>
        follows_ask_bind.mpr ⟨.inl rfl, fun _ => trivial⟩
  | confirm _ _ waits =>
      obtain ⟨chain, same⟩ := waits result pending delayed
      rw [same]
      exact relies_bind (follows_ask_bind.mpr ⟨.inl rfl, fun _ => writes _ _ _ _⟩) fun _ _ =>
        follows_ask_bind.mpr ⟨.inl rfl, fun _ => trivial⟩

/-- A call does not remove its record over an answer that tells it to wait. -/
theorem sign_removes_unwaited {key : NamespacedName} {uid : Option String}
    {next : Except ApiError Unit → Go GoError Bytes}
    (path : Path (sign lib job.clusterResourceNamespace job.request job.issuer) t
      (.op (.deleteTransaction key uid) next))
    (stage : ((contract lib).run (Session.begin job) t).stage = .examined hold exchange) :
    exchange.Unwaited lib := by
  rcases sign_examined path stage rfl with unwaited | ⟨v, result, pending, after, handsOver, delayed, records⟩
  · exact unwaited
  · rcases (handsOver.records delayed).allows records with clock | ⟨_, writes⟩
    · cases clock
    · cases writes

/-- A program that writes a status and then asks for a requeue goes on with the record as it was stored. -/
theorem writeStatus_rest {failure : String} {record written : CMPTransaction}
    {status : Time → CMPTransactionStatus} {rest : CMPTransaction → Go GoError Bytes}
    {next : Except ApiError String → Go GoError Bytes} (requeues : ∀ record, Requeues (rest record))
    (path : Path ((now >>= fun t => writeStatus failure record (status t)) >>= rest) t
      (.op (.updateTransactionStatus written) next)) (resourceVersion : String) :
    next (.ok resourceVersion) = rest (written.updated resourceVersion) := by
  obtain ⟨instant, u, rfl, writing⟩ := path_ask_op .now path (by rintro ⟨⟩)
  change Path (Program.op (S := interface) (Op.updateTransactionStatus _) _) u _ at writing
  cases writing with
  | refl => rfl
  | step answer after =>
      cases answer with
      | error => cases after
      | ok version =>
          obtain ⟨report, same⟩ := requeues (({ record with status := status instant } : CMPTransaction).updated version)
          change Path (rest _) _ _ at after
          rw [same] at after
          obtain ⟨instant', v, rfl, failing⟩ := path_ask_op .now after (by rintro ⟨⟩)
          cases failing

theorem continuePolling_records {record written : CMPTransaction} {pending : PendingTransaction}
    {limits : TransactionSpec} {polled : Bool} {next : Except ApiError String → Go GoError Bytes}
    (path : Path (continuePolling lib record pending limits polled) t
      (.op (.updateTransactionStatus written) next)) (resourceVersion : String) :
    Requeues (next (.ok resourceVersion)) := by
  rw [writeStatus_rest (fun _ => ⟨_, rfl⟩) path]
  exact ⟨_, rfl⟩

/-- A call that has recorded a wait for its certificate asks for a requeue. -/
theorem sign_records_wait {written : CMPTransaction} {next : Except ApiError String → Go GoError Bytes}
    (path : Path (sign lib job.clusterResourceNamespace job.request job.issuer) t
      (.op (.updateTransactionStatus written) next))
    (stage : ((contract lib).run (Session.begin job) t).stage = .examined hold exchange)
    (obtains : exchange.call.confirms = false) (waits : ¬ exchange.Unwaited lib) (resourceVersion : String) :
    Requeues (next (.ok resourceVersion)) := by
  rcases sign_examined path stage rfl with unwaited | ⟨v, result, pending, after, handsOver, delayed, records⟩
  · exact absurd unwaited waits
  · generalize handed : exchange.call = call at handsOver obtains delayed
    cases handsOver with
    | exchange _ _ _ polls =>
        rw [polls result pending (by rwa [ClientCall.delay, obtains] at delayed)] at records
        exact continuePolling_records records resourceVersion
    | confirm => cases obtains

end

end CmpIssuer
