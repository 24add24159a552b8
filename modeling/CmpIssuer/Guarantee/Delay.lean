import Mathlib.Algebra.Order.Ring.Int
import CmpIssuer.Guarantee.Storage
import CmpIssuer.Session.Pending

/-!
The delay that `Sign` asks for when the server says how long to wait. The
seconds of a pollRep become a `time.Duration` by a 64-bit multiplication, which
wraps around from 9223372037 seconds on. The delay is the wait of the server,
clamped and cut to the deadline, as long as that does no harm.
-/
namespace CmpIssuer
open Effect

section
variable {α : Type} [LinearOrder α] [Zero α] {low high remaining wait : α}

/-- A wait clamped between two bounds, and cut to what remains if anything remains. -/
def clampCut (low high remaining wait : α) : α :=
  let clamped := max low (min high wait)
  if 0 < remaining then min remaining clamped else clamped

theorem clampCut_pos (positive : 0 < low) : 0 < clampCut low high remaining wait := by
  have clamped : 0 < max low (min high wait) := lt_max_of_lt_left positive
  unfold clampCut
  dsimp only
  split
  · exact lt_min ‹_› clamped
  · exact clamped

theorem clampCut_mono {longer : α} (le : wait ≤ longer) :
    clampCut low high remaining wait ≤ clampCut low high remaining longer := by
  have clamped := max_le_max_left low (min_le_min_left high le)
  unfold clampCut
  dsimp only
  split
  · exact min_le_min_left remaining clamped
  · exact clamped

/-- When another wait leads to the same delay as one beyond the upper bound. -/
theorem clampCut_eq_iff {other : α} (ordered : low ≤ high) (beyond : high ≤ wait) :
    clampCut low high remaining other = clampCut low high remaining wait ↔
      low = high ∨ high ≤ other ∨ 0 < remaining ∧ (remaining ≤ low ∨ remaining ≤ other) := by
  have top : max low (min high wait) = high := by rw [min_eq_left beyond, max_eq_right ordered]
  have same : max low (min high other) = high ↔ low = high ∨ high ≤ other := by grind
  unfold clampCut
  dsimp only
  rw [top]
  split
  · grind
  · rename_i passed
    simp [same, passed]

end

/-- The wait of so many seconds, clamped into the polling bounds and cut to the time that remains. -/
def exactDelay (limits : TransactionSpec) (seconds : Int) (remaining : Duration) : Duration :=
  clampCut limits.minimumPollInterval limits.maximumPollInterval remaining (seconds * second)

/-- The seconds can be counted in nanoseconds, or what is left of the count has no effect: there is one
delay only, it is past the upper bound still, or the deadline comes first. -/
def HarmlessWait (limits : TransactionSpec) (seconds : Int) (remaining : Duration) : Prop :=
  let left := (seconds * second).bmod (2 ^ 64)
  seconds * second < 2 ^ 63 ∨ limits.minimumPollInterval = limits.maximumPollInterval ∨
    limits.maximumPollInterval ≤ left ∨
    0 < remaining ∧ (remaining ≤ limits.minimumPollInterval ∨ remaining ≤ left)

instance (limits : TransactionSpec) (seconds : Int) (remaining : Duration) :
    Decidable (HarmlessWait limits seconds remaining) := by
  unfold HarmlessWait
  infer_instance

/-- Polling bounds in order, the upper one in the range of a `time.Duration`. -/
structure PollBounds (limits : TransactionSpec) : Prop where
  positive : 0 < limits.minimumPollInterval
  ordered : limits.minimumPollInterval ≤ limits.maximumPollInterval
  counted : limits.maximumPollInterval < 2 ^ 63

/-- What is validated keeps its order when the defaults are applied. -/
theorem transactionLimits_bounds {spec : TransactionSpec} {modifications : Setting GrantedModifications}
    (valid : validateTransactionAndPolicy spec modifications = .ok ())
    (counted : spec.maximumPollInterval < 2 ^ 63) : PollBounds (transactionLimitsWithDefaults spec) := by
  unfold validateTransactionAndPolicy at valid
  dsimp only at valid
  split at valid
  · cases valid
  · rename_i accepted
    by_cases omitted : spec = ⟨0, 0, 0, 0⟩
    · subst omitted
      constructor <;> decide
    · have bounds := fun bad => accepted ⟨omitted, bad⟩
      simp only [imp_false, not_or, not_le, not_lt] at bounds
      obtain ⟨_, positive, ordered, _⟩ := bounds
      have minimum : (transactionLimitsWithDefaults spec).minimumPollInterval = spec.minimumPollInterval :=
        if_neg (not_le.mpr positive)
      have maximum : (transactionLimitsWithDefaults spec).maximumPollInterval = spec.maximumPollInterval := by
        refine if_neg (not_lt.mpr ?_)
        rwa [if_neg (not_le.mpr positive)]
      constructor
      · rwa [minimum]
      · rwa [minimum, maximum]
      · rwa [maximum]

theorem boundedDelay_eq {limits : TransactionSpec} (bounds : PollBounds limits) (pending : PendingTransaction)
    (deadline t : Time) : boundedDelay pending limits deadline t =
      clampCut limits.minimumPollInterval limits.maximumPollInterval (deadline - t) pending.checkAfter := by
  have ordered := bounds.ordered
  have clamp : pollDelay pending.checkAfter limits =
      max limits.minimumPollInterval (min limits.maximumPollInterval pending.checkAfter) := by
    unfold pollDelay
    grind
  unfold boundedDelay clampCut
  rw [clamp]
  grind

/-- The delay the code computes for so many seconds is the exact one when the conversion is harmless. -/
theorem boundedDelay_exact_iff {limits : TransactionSpec} (bounds : PollBounds limits)
    {pending : PendingTransaction} {item : PollRepItem} (asked : pending.checkAfter = checkAfterDuration item)
    (natural : 0 ≤ item.checkAfter) (deadline t : Time) :
    boundedDelay pending limits deadline t = exactDelay limits item.checkAfter (deadline - t) ↔
      HarmlessWait limits item.checkAfter (deadline - t) := by
  rw [boundedDelay_eq bounds, asked, checkAfterDuration, wrap64, exactDelay, HarmlessWait]
  by_cases fits : item.checkAfter * second < 2 ^ 63
  · have whole : (item.checkAfter * second).bmod (2 ^ 64) = item.checkAfter * second := by
      have positive : 0 ≤ item.checkAfter * second := Int.mul_nonneg natural (by decide)
      apply Int.bmod_eq_of_le <;> omega
    exact ⟨fun _ => .inl fits, fun _ => by rw [whole]⟩
  · have beyond : limits.maximumPollInterval ≤ item.checkAfter * second :=
      bounds.counted.le.trans (not_lt.mp fits)
    exact (clampCut_eq_iff bounds.ordered beyond).trans ⟨.inr, fun h => h.resolve_left fits⟩

section
variable {lib : Library}

theorem pollRepItem_ok {parseOperation validateOperation idOperation mismatch : String} {expected : Int}
    {item item' : PollRepItem}
    (h : pollRepItem parseOperation validateOperation idOperation mismatch expected (.ok [item]) = .ok item') :
    item' = item ∧ 0 ≤ item.checkAfter := by
  unfold pollRepItem at h
  dsimp only at h
  split at h
  · cases h
  · split at h <;> cases h
    exact ⟨rfl, by omega⟩

/-- A call that has a result for a pollRep is to wait as long as the pollRep says. -/
theorem ClientCall.verdict_asked {call : ClientCall} {t : Time} {csr : CertificateRequest}
    {built message response : PKIMessage} {signer : Option Certificate} {result : EnrollmentResult}
    {item : PollRepItem} (h : call.verdict lib t csr built message response signer = .ok (.result result))
    (body : response.body = .pollRep (.ok [item])) :
    0 ≤ item.checkAfter ∧ ∃ pending, call.delay result = some pending ∧
      pending.checkAfter = checkAfterDuration item := by
  have unfinished : ∀ request nonce,
      finishTransaction lib t request response csr signer nonce ≠ .ok (.result result) := by
    intro request nonce finished
    have refused : ∃ err, extractEnrollmentResponse lib response request = .error err := by
      unfold extractEnrollmentResponse
      rw [body]
      refine ⟨_, if_pos ?_⟩
      unfold expectedBody
      split <;> rintro ⟨⟩
    obtain ⟨err, refused⟩ := refused
    rw [finishTransaction, refused] at finished
    cases finished
  cases call with
  | enrollP10CR | enrollIR | enrollKUR => exact absurd h (unfinished _ _)
  | pollP10CR poll =>
      unfold ClientCall.verdict at h
      dsimp only at h
      rw [body] at h
      dsimp only at h
      unfold extractPollRep at h
      split at h
      · cases h
      · rename_i item' read
        cases h
        obtain ⟨rfl, natural⟩ := pollRepItem_ok read
        exact ⟨natural, _, rfl, rfl⟩
  | confirmP10CR confirm =>
      unfold ClientCall.verdict finishConfirmation confirmationDelay at h
      dsimp only at h
      rw [body] at h
      dsimp only at h
      generalize read : pollRepItem _ _ _ _ _ _ = entry at h
      cases entry with
      | error => cases h
      | ok item' =>
          cases h
          obtain ⟨rfl, natural⟩ := pollRepItem_ok read
          exact ⟨natural, _, rfl, rfl⟩

/-- The wait that an accepted answer asks for in a pollRep. -/
def Exchange.asked? (lib : Library) (exchange : Exchange) : Option PollRepItem :=
  match exchange.call.accept lib exchange.instant exchange.request.message exchange.answer with
  | .error _ => none
  | .ok (response, _) =>
      match response.body with
      | .pollRep (.ok [item]) => some item
      | _ => none

theorem Exchange.pollRep_of_asked {exchange : Exchange} {item : PollRepItem} {response : PKIMessage}
    {signer : Option Certificate} (asked : exchange.asked? lib = some item)
    (accepted : exchange.call.accept lib exchange.instant exchange.request.message exchange.answer =
      .ok (response, signer)) : response.body = .pollRep (.ok [item]) := by
  unfold Exchange.asked? at asked
  rw [accepted] at asked
  dsimp only at asked
  split at asked <;> cases asked
  assumption

/-- A call that records the wait of a pollRep asks for a requeue after it. -/
theorem sign_asked {job : Job} {t : Trail} {written : CMPTransaction}
    {next : Except ApiError String → Go GoError Bytes} {hold : Hold} {exchange : Exchange} {item : PollRepItem}
    (path : Path (sign lib job.clusterResourceNamespace job.request job.issuer) t
      (.op (.updateTransactionStatus written) next))
    (stage : ((contract lib).run (Session.begin job) t).stage = .examined hold exchange)
    (asked : exchange.asked? lib = some item) (resourceVersion : String) (instant : Time) : 0 ≤ item.checkAfter ∧
      ∃ (pending : PendingTransaction) (message : GoError), pending.checkAfter = checkAfterDuration item ∧
        Path (sign lib job.clusterResourceNamespace job.request job.issuer)
          (t ++ [⟨.updateTransactionStatus written, .ok resourceVersion⟩, ⟨.now, instant⟩])
          (.throw (.error (.pending message (boundedDelay pending
            (transactionLimitsWithDefaults job.issuer.spec.transaction)
            (written.updated resourceVersion).spec.deadline instant)))) := by
  obtain ⟨v, response, signer, result, after, understood, handsOver, records⟩ := sign_records path stage
  have body := Exchange.pollRep_of_asked asked understood.accepted
  obtain ⟨csr, _, built, _, _, _, _, judged⟩ := understood.judged
  obtain ⟨natural, pending, delayed, waits⟩ := ClientCall.verdict_asked judged body
  suffices rest : ∃ message, Path (next (.ok resourceVersion)) [⟨.now, instant⟩]
      (.throw (.error (.pending message (boundedDelay pending
        (transactionLimitsWithDefaults job.issuer.spec.transaction)
        (written.updated resourceVersion).spec.deadline instant)))) by
    obtain ⟨message, rest⟩ := rest
    exact ⟨natural, pending, message, waits,
      path.trans (Path.step (S := interface) (o := .updateTransactionStatus written) (.ok resourceVersion) rest)⟩
  generalize exchange.call = call at handsOver delayed
  cases handsOver with
  | exchange obtains _ _ polls =>
      rw [polls result pending (by rwa [ClientCall.delay, obtains] at delayed)] at records
      rw [writeStatus_rest (fun _ => ⟨_, rfl⟩) records]
      exact ⟨_, Path.step (S := interface) (o := .now) instant (.refl _)⟩
  | confirm _ _ confirms =>
      obtain ⟨chain, same⟩ := confirms result pending delayed
      rw [same] at records
      rw [writeStatus_rest (fun _ => ⟨_, rfl⟩) records]
      exact ⟨_, Path.step (S := interface) (o := .now) instant (.refl _)⟩

/-- The delay that `Sign` asks for after it has recorded the wait of a pollRep. It is positive, and it is the
wait of the server in exact arithmetic, clamped and cut to the deadline, exactly when the 64-bit conversion
is harmless; a longer wait then asks for no shorter delay. -/
theorem requeue_delay_exact_iff {job : Job} {t : Trail} {written : CMPTransaction}
    {next : Except ApiError String → Go GoError Bytes} {hold : Hold} {exchange : Exchange} {item : PollRepItem}
    (path : Path (sign lib job.clusterResourceNamespace job.request job.issuer) t
      (.op (.updateTransactionStatus written) next))
    (stage : ((contract lib).run (Session.begin job) t).stage = .examined hold exchange)
    (asked : exchange.asked? lib = some item)
    (valid : validateTransactionAndPolicy job.issuer.spec.transaction job.issuer.spec.grantedModifications =
      .ok ())
    (counted : job.issuer.spec.transaction.maximumPollInterval < 2 ^ 63)
    (resourceVersion : String) (instant : Time) :
    let limits := transactionLimitsWithDefaults job.issuer.spec.transaction
    let remaining := (written.updated resourceVersion).spec.deadline - instant
    ∃ message delay,
      Path (sign lib job.clusterResourceNamespace job.request job.issuer)
        (t ++ [⟨.updateTransactionStatus written, .ok resourceVersion⟩, ⟨.now, instant⟩])
        (.throw (.error (.pending message delay))) ∧
      0 < delay ∧
      (delay = exactDelay limits item.checkAfter remaining ↔ HarmlessWait limits item.checkAfter remaining) ∧
      (HarmlessWait limits item.checkAfter remaining → ∀ longer, item.checkAfter ≤ longer →
        delay ≤ exactDelay limits longer remaining) := by
  intro limits remaining
  have bounds : PollBounds limits := transactionLimits_bounds valid counted
  obtain ⟨natural, pending, message, waits, ends⟩ := sign_asked path stage asked resourceVersion instant
  have exact_ := boundedDelay_exact_iff bounds waits natural (written.updated resourceVersion).spec.deadline instant
  refine ⟨message, _, ends, ?_, exact_, ?_⟩
  · rw [boundedDelay_eq bounds]
    exact clampCut_pos bounds.positive
  · intro harmless longer le
    rw [exact_.mpr harmless]
    exact clampCut_mono (Int.mul_le_mul_of_nonneg_right le (by decide))

end

/-- A server that puts a poll off for so many seconds. -/
def pollingLibrary (seconds : Int) : Library :=
  { plainLibrary with
    parsePKIMessage := fun data => match data with
      | 6 :: nonce => .ok (plainResponse nonce (.pollRep (.ok [⟨-1, seconds⟩])))
      | data => plainLibrary.parsePKIMessage data }

/-- A deployment in which the first call was told to wait. -/
def pollingDeployment (seconds : Int) : Deployment :=
  (plainDeployment none [plainReply 4 [9], plainReply 6 [9, 9]]).after (pollingLibrary seconds) plainJob 30

theorem polling_run {seconds : Int} {deadline : Time}
    (reached : (((pollingDeployment seconds).run (pollingLibrary seconds) plainJob 9).2.2.next?.bind
      Op.update?).map (fun written => (written.updated "3").spec.deadline) = some deadline)
    (examined : (((contract (pollingLibrary seconds)).run (Session.begin plainJob)
      ((pollingDeployment seconds).run (pollingLibrary seconds) plainJob 9).1).stage.exchange?.bind
        fun held => held.2.asked? (pollingLibrary seconds)) = some ⟨-1, seconds⟩) :
    ∃ t written next hold exchange,
      Path (sign (pollingLibrary seconds) plainJob.clusterResourceNamespace plainJob.request plainJob.issuer) t
        (.op (.updateTransactionStatus written) next) ∧
      ((contract (pollingLibrary seconds)).run (Session.begin plainJob) t).stage = .examined hold exchange ∧
      exchange.asked? (pollingLibrary seconds) = some ⟨-1, seconds⟩ ∧
      (written.updated "3").spec.deadline = deadline := by
  obtain ⟨written, update, same⟩ := Option.map_eq_some_iff.mp reached
  obtain ⟨⟨hold, exchange⟩, stage, asked⟩ := Option.bind_eq_some_iff.mp examined
  obtain ⟨t, next, path, stage⟩ := written_status _ _ _ _ update stage
  exact ⟨t, written, next, hold, exchange, path, stage, asked, same⟩

/-- A wait of five seconds. -/
theorem requeue_delay_exact_iff_five : ∃ t message, Path (sign (pollingLibrary 5)
    plainJob.clusterResourceNamespace plainJob.request plainJob.issuer) t
    (.throw (.error (.pending message (5 * second)))) := by
  obtain ⟨t, written, next, hold, exchange, path, stage, asked, deadline⟩ :=
    @polling_run 5 (600 * second) (by decide +kernel) (by decide +kernel)
  obtain ⟨message, delay, ends, _, exact_, _⟩ :=
    requeue_delay_exact_iff path stage asked (by decide) (by decide) "3" 10
  rw [deadline] at exact_
  have computed : delay = 5 * second := exact_.mpr (by decide)
  exact ⟨_, message, computed ▸ ends⟩

/-- A server that asks for a wait of 584 years is polled again after the shortest interval. -/
theorem long_wait_polled_at_once : ∃ (t : Trail) (written : CMPTransaction) (hold : Hold) (exchange : Exchange)
    (next : Except ApiError String → Go GoError Bytes) (instant : Time) (message : GoError) (delay : Duration),
    let lib := pollingLibrary 18446744073
    let limits := transactionLimitsWithDefaults plainJob.issuer.spec.transaction
    let remaining := (written.updated "3").spec.deadline - instant
    Path (sign lib plainJob.clusterResourceNamespace plainJob.request plainJob.issuer) t
      (.op (.updateTransactionStatus written) next) ∧
    ((contract lib).run (Session.begin plainJob) t).stage = .examined hold exchange ∧
    exchange.asked? lib = some ⟨-1, 18446744073⟩ ∧
    validateTransactionAndPolicy plainJob.issuer.spec.transaction plainJob.issuer.spec.grantedModifications =
      .ok () ∧
    Path (sign lib plainJob.clusterResourceNamespace plainJob.request plainJob.issuer)
      (t ++ [⟨.updateTransactionStatus written, .ok "3"⟩, ⟨.now, instant⟩])
      (.throw (.error (.pending message delay))) ∧
    delay = second ∧ exactDelay limits 18446744073 remaining = 300 * second ∧
    exactDelay limits 5 remaining = 5 * second := by
  obtain ⟨t, written, next, hold, exchange, path, stage, asked, deadline⟩ :=
    @polling_run 18446744073 (600 * second) (by decide +kernel) (by decide +kernel)
  obtain ⟨_, pending, message, waits, ends⟩ := sign_asked path stage asked "3" 10
  refine ⟨t, written, hold, exchange, next, 10, message, _, path, stage, asked, by decide, ends, ?_, ?_, ?_⟩
  · rw [boundedDelay, waits, deadline]
    decide
  · rw [deadline]
    decide
  · rw [deadline]
    decide

end CmpIssuer
