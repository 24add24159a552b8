import CmpIssuer.Guarantee.Accounting
import CmpIssuer.Guarantee.Once

/-!
The published counters over whole runs. Every counter lies between the number
of ended calls that it is to count and that number with the calls still
running, in every interleaving and in every world.
-/
namespace CmpIssuer
open Effect

/-- The counters of the registry. -/
inductive Series where
  | outcomes (result : String)
  | durations (result : String)
  | failures (failure classification : String)
  | polls
  | confirmations (confirmation : String)

def Registry.value (registry : Registry) (labels : Labels) : Series → Nat
  | .outcomes result => registry.enrollmentTotal (labels.values ++ [result])
  | .durations result => registry.enrollmentDuration (labels.values ++ [result])
  | .failures failure classification =>
      registry.enrollmentFailures (labels.values ++ [failure, classification])
  | .polls => registry.enrollmentPolls labels.values
  | .confirmations confirmation => registry.enrollmentConfirmations (labels.values ++ [confirmation])

def Registry.published (reports : List Report) : Registry := reports.foldl Registry.record {}

def Report.counts (labels : Labels) : Series → Report → Bool
  | .outcomes result, .outcome labels' result' _ | .durations result, .outcome labels' result' _ =>
      labels' == labels && result' == result
  | .failures name classification, .failure labels' name' classification' =>
      labels' == labels && name' == name && classification' == classification
  | .polls, .poll labels' => labels' == labels
  | .confirmations kind, .confirmation labels' kind' => labels' == labels && kind' == kind
  | _, _ => false

section
variable {labels labels' : Labels} {series : Series}

theorem Counters.inc_apply (counters : Counters) (values other : List String) :
    counters.inc values other = counters other + if values = other then 1 else 0 := by
  by_cases same : values = other
  · subst same
    rw [if_pos rfl]
    exact Function.update_self ..
  · rw [if_neg same]
    exact Function.update_of_ne (Ne.symm same) ..

theorem Labels.values_inj : labels'.values = labels.values ↔ labels' = labels := by
  cases labels
  cases labels'
  simp [Labels.values]

theorem Labels.values_append_inj {rest rest' : List String} :
    labels'.values ++ rest' = labels.values ++ rest ↔ labels' = labels ∧ rest' = rest := by
  cases labels
  cases labels'
  simp [Labels.values, and_assoc]

theorem Registry.record_value (complete : labels.complete = true) (registry : Registry) (report : Report) :
    (registry.record report).value labels series =
      registry.value labels series + if report.counts labels series then 1 else 0 := by
  have other : ∀ {labels' : Labels}, labels'.complete = false → labels' ≠ labels := by
    rintro labels' incomplete rfl
    cases complete.symm.trans incomplete
  cases report with
  | outcome labels' result started =>
      cases complete' : labels'.complete <;> cases series <;>
        simp [Registry.record, Registry.recordOutcome, Registry.value, Report.counts, complete', other,
          Counters.inc_apply, Labels.values_inj]
  | failure labels' name classification =>
      cases complete' : labels'.complete <;> cases series <;>
        simp [Registry.record, Registry.recordFailure, Registry.value, Report.counts, complete', other,
          Counters.inc_apply, Labels.values_append_inj, and_assoc]
  | poll labels' =>
      cases complete' : labels'.complete <;> cases series <;>
        simp [Registry.record, Registry.recordPoll, Registry.value, Report.counts, complete', other,
          Counters.inc_apply, Labels.values_inj]
  | confirmation labels' confirmation =>
      cases complete' : labels'.complete <;> cases series <;>
        simp [Registry.record, Registry.recordConfirmation, Registry.value, Report.counts, complete', other,
          Counters.inc_apply, Labels.values_inj]
  | enrollmentFailed err values | renewalFallback operation reason =>
      cases series <;> rfl

theorem Registry.published_value (complete : labels.complete = true) (reports : List Report) :
    (Registry.published reports).value labels series = reports.countP (Report.counts labels series) := by
  have counted : ∀ registry : Registry, (reports.foldl Registry.record registry).value labels series =
      registry.value labels series + reports.countP (Report.counts labels series) := by
    induction reports with
    | nil => exact fun _ => rfl
    | cons report reports ih =>
        intro registry
        rw [List.foldl_cons, ih, Registry.record_value complete, List.countP_cons]
        omega
  rw [Registry.published, counted, Nat.add_eq_right]
  cases series <;> rfl

/-- Whether a call with this brief and outcome is to be counted. -/
def Brief.counts (brief : Brief) : Series → Except (Fault GoError) Bytes → Bool
  | .outcomes result, .ok _ | .durations result, .ok _ => brief.issued.isSome && resultIssued == result
  | .outcomes result, .error (.error err) | .durations result, .error (.error err) =>
      !err.isPending && resultFailed == result
  | .failures name classification, .error (.error err) =>
      !err.isPending && failureLabels err == (name, classification)
  | .polls, .error (.error err) => err.waits
  | .confirmations kind, .ok _ => brief.issued.isSome && brief.confirmation == kind
  | _, _ => false

theorem GoError.waits_pending {err : GoError} (waits : err.waits = true) : err.isPending = true := by
  unfold GoError.waits at waits
  split at waits
  · rfl
  · cases waits

theorem Brief.opening_uncounted (brief : Brief) : brief.opening.countP (Report.counts labels series) = 0 := by
  rw [List.countP_eq_zero]
  intro report member
  unfold Brief.opening fallbackReports at member
  split at member
  · cases member
  · split at member
    · obtain rfl := List.mem_singleton.mp member
      cases series <;> simp [Report.counts]
    · cases member

theorem failureLabels_eq (err : GoError) : failureLabels err = match err.blames with
    | some (_, failure, classification) => (failure, classification)
    | none => ("unclassified", "Unknown") := by
  unfold failureLabels GoError.blames
  rcases err.asProtocol with _ | ⟨kind, operation, failure, _, _⟩
  · rcases err.asConfiguration with _ | ⟨_ | _, operation⟩ <;> rfl
  · rfl

theorem Brief.reports_count (brief : Brief) (started : Time) (r : Except (Fault GoError) Bytes) :
    (brief.reports labels' started r).countP (Report.counts labels series) =
      if labels' = labels ∧ brief.counts series r = true then 1 else 0 := by
  unfold Brief.reports
  rw [List.countP_append, List.countP_append, Brief.opening_uncounted, Nat.zero_add]
  rcases r with (err | reason) | bundle
  · -- A wait is pending, so nothing is deferred where it is reported.
    cases waits : err.waits with
    | true =>
        have pending := GoError.waits_pending waits
        cases series <;> simp [Brief.direct, failureReports, Brief.counts, Report.counts, waits, pending]
    | false =>
        cases pending : err.isPending with
        | true => cases series <;> simp [Brief.direct, failureReports, Brief.counts, waits, pending]
        | false =>
            rcases blamed : err.blames with _ | ⟨operation, failure, classification⟩ <;> cases series <;>
              simp [Brief.direct, failureReports, Brief.counts, Report.counts, waits, pending, failureLabels_eq,
                blamed, List.countP_cons, and_assoc, resultFailed]
  · cases series <;> simp [Brief.direct, failureReports, Brief.counts]
  · cases issued : brief.issued <;> cases series <;>
      simp [Brief.direct, failureReports, Brief.counts, Report.counts, issued, List.countP_cons]

end

def Job.reportedCall (lib : Library) (job : Job) : Reporting Bytes :=
  Reported.sign lib job.clusterResourceNamespace job.request job.issuer

def Job.labels (lib : Library) (job : Job) : Labels := enrollmentMetricLabels lib job.issuer job.request

abbrev ReportedThread := Thread (interface.noting Report) (Fault GoError) Bytes Job

namespace ReportedThread

def brief (thread : ReportedThread) : Brief := Trail.brief (plainEvents thread.trace)

/-- A call that has ended and is to be counted. -/
def counts (lib : Library) (labels : Labels) (series : Series) (thread : ReportedThread) : Bool :=
  match thread.program.outcome? with
  | some r => thread.job.labels lib == labels && thread.brief.counts series r
  | none => false

/-- A call that runs or has crashed. -/
def unfinished (thread : ReportedThread) : Bool := thread.program.outcome?.isNone

end ReportedThread

theorem countP_le_flatMap {α β : Type} {l : List α} {f : α → List β} {p : β → Bool} {counts : α → Bool}
    (each : ∀ a ∈ l, (if counts a then 1 else 0) ≤ (f a).countP p) :
    l.countP counts ≤ (l.flatMap f).countP p := by
  induction l with
  | nil => exact Nat.le_refl _
  | cons a l ih =>
      have first := each a List.mem_cons_self
      have rest := ih fun b member => each b (List.mem_cons_of_mem _ member)
      rw [List.flatMap_cons, List.countP_append, List.countP_cons]
      omega

theorem countP_flatMap_le {α β : Type} {l : List α} {f : α → List β} {p : β → Bool} {counts more : α → Bool}
    (each : ∀ a ∈ l, (f a).countP p ≤ (if counts a then 1 else 0) + if more a then 1 else 0) :
    (l.flatMap f).countP p ≤ l.countP counts + l.countP more := by
  induction l with
  | nil => exact Nat.le_refl _
  | cons a l ih =>
      have first := each a List.mem_cons_self
      have rest := ih fun b member => each b (List.mem_cons_of_mem _ member)
      rw [List.flatMap_cons, List.countP_append, List.countP_cons, List.countP_cons]
      omega

theorem countP_le_of_apart {α β : Type} [DecidableEq β] {R : α → β → Prop} {l : List α} {p : α → Bool}
    {images : List β} (apart : l.Pairwise fun a b => ∀ x, R a x → ¬ R b x)
    (has : ∀ a ∈ l, p a = true → ∃ x ∈ images, R a x) : l.countP p ≤ images.length := by
  induction l generalizing images with
  | nil => exact Nat.zero_le _
  | cons a l ih =>
      obtain ⟨first, apart⟩ := List.pairwise_cons.mp apart
      cases counted : p a with
      | false =>
          rw [List.countP_cons_of_neg (by simp [counted])]
          exact ih apart fun b member => has b (List.mem_cons_of_mem _ member)
      | true =>
          obtain ⟨x, known, image⟩ := has a List.mem_cons_self counted
          have rest : l.countP p ≤ (images.erase x).length := ih apart fun b member counted => by
            obtain ⟨y, seen, other⟩ := has b (List.mem_cons_of_mem _ member) counted
            have different : y ≠ x := by
              rintro rfl
              exact first b member y image other
            exact ⟨y, (List.mem_erase_of_ne different).mpr seen, other⟩
          rw [List.length_erase_of_mem known] at rest
          have some_ := List.length_pos_of_mem known
          rw [List.countP_cons_of_pos counted]
          omega

theorem interface_answers (o : (interface.noting Report).Op) :
    Nonempty ((interface.noting Report).Answer o) := by
  rcases o with o | report
  · cases o with
    | now => exact ⟨(0 : Time)⟩
    | random => exact ⟨.error ""⟩
    | entropy => exact ⟨⟨[], [], [], []⟩⟩
    | getTransaction | createTransaction | updateTransactionStatus | deleteTransaction | getSecret
    | getCertificate => exact ⟨.error ⟨.notFound, ""⟩⟩
    | call => exact ⟨()⟩
    | send => exact ⟨.failed ""⟩
  · exact ⟨()⟩

section
variable {lib : Library} {labels : Labels} {series : Series}

/-- The reports that a counter has of one call: one of a call that has ended and is to be counted, at most
one of a call that runs. -/
theorem ReportedThread.notes_count {thread : ReportedThread}
    (path : Path (thread.job.reportedCall lib) thread.trace thread.program) :
    (if thread.counts lib labels series then 1 else 0) ≤
        (notesTaken thread.trace).countP (Report.counts labels series) ∧
      (notesTaken thread.trace).countP (Report.counts labels series) ≤
        (if thread.counts lib labels series then 1 else 0) + if thread.unfinished then 1 else 0 := by
  cases outcome : thread.program.outcome? with
  | some r =>
      rw [Program.eq_ofExcept_of_outcome outcome] at path
      obtain ⟨_, _, started, _, _, reported⟩ := reported_at_end path
      have counts : thread.counts lib labels series =
          (thread.job.labels lib == labels && thread.brief.counts series r) := by
        rw [ReportedThread.counts, outcome]
      rw [reported, Brief.reports_count, counts]
      simp only [Bool.and_eq_true, beq_iff_eq]
      exact ⟨Nat.le_refl _, Nat.le_add_right _ _⟩
  | none =>
      -- The reports so far are the first of the reports of a call that goes on from here.
      obtain ⟨u, r, completed⟩ := path.completed interface_answers
      obtain ⟨_, _, started, _, _, reported⟩ := reported_at_end completed
      have whole : (notesTaken (thread.trace ++ u)).countP (Report.counts labels series) ≤ 1 := by
        rw [reported, Brief.reports_count]
        split <;> decide
      rw [notesTaken_append, List.countP_append] at whole
      have running : thread.counts lib labels series = false ∧ thread.unfinished = true := by
        simp [ReportedThread.counts, ReportedThread.unfinished, outcome]
      rw [running.1, running.2, if_neg (by decide), if_pos rfl]
      omega

end

section
variable {σ : Type} {W : World interface σ} {lib : Library} {jobs : Job → Prop} {turn : Nat → Nat → Prop} {w : σ}
  {pool : Pool (interface.noting Report) (σ × List Report) (Fault GoError) Bytes Job} {labels : Labels}

theorem value_ge (reached : Pool.Reach (W.noting Report) (Job.reportedCall lib) jobs turn (w, []) pool)
    (complete : labels.complete = true) (series : Series) :
    pool.threads.countP (ReportedThread.counts lib labels series) ≤
      (Registry.published pool.world.2).value labels series := by
  rw [Registry.published_value complete, reached.notes.countP_eq]
  exact countP_le_flatMap fun thread member => (ReportedThread.notes_count (reached.path thread member).2).1

theorem value_le (reached : Pool.Reach (W.noting Report) (Job.reportedCall lib) jobs turn (w, []) pool)
    (complete : labels.complete = true) (series : Series) :
    (Registry.published pool.world.2).value labels series ≤
      pool.threads.countP (ReportedThread.counts lib labels series) +
        pool.threads.countP ReportedThread.unfinished := by
  rw [Registry.published_value complete, reached.notes.countP_eq]
  exact countP_flatMap_le fun thread member => (ReportedThread.notes_count (reached.path thread member).2).2

end

abbrev Reporters := Pool (interface.noting Report) (Cluster × List Report) (Fault GoError) Bytes Job

/-- Any number of reporting calls for one CertificateRequest, in any interleaving, disturbed by another
client. -/
def ReportedRun (lib : Library) (subject : Subject) (slot : Option CMPTransaction) (pool : Reporters) : Prop :=
  Pool.Reach (sharedWorld.noting Report) (Job.reportedCall lib) (fun job => job.subject = subject)
    (fun _ _ => True) (Cluster.start slot, []) pool

namespace Deployment

def answerNoting (thread : Nat) : Deployment × List Report → (o : (interface.noting Report).Op) →
    (interface.noting Report).Answer o × (Deployment × List Report)
  | (d, notes), .inl o => ((d.answer thread o).1, (d.answer thread o).2, notes)
  | (d, notes), .inr report => ((), d, notes ++ [report])

theorem answerNoting_act (thread : Nat) (s : Deployment × List Report) (o : (interface.noting Report).Op) :
    (sharedWorld.noting Report).act thread (s.1.cluster, s.2) o (answerNoting thread s o).1
      ((answerNoting thread s o).2.1.cluster, (answerNoting thread s o).2.2) := by
  obtain ⟨d, notes⟩ := s
  cases o with
  | inl o =>
      obtain ⟨after, honest, same⟩ := d.answer_act thread o
      exact ⟨⟨after, .inl honest, same⟩, rfl⟩
  | inr report => exact ⟨rfl, rfl⟩

theorem reporter_advance {lib : Library} {subject : Subject} {slot : Option CMPTransaction} {job : Job}
    {threads later : List ReportedThread} (n : Nat) (s : Deployment × List Report)
    (t : List (Event (interface.noting Report))) (p : Reporting Bytes)
    (run : ReportedRun lib subject slot ⟨(s.1.cluster, s.2), threads ++ ⟨job, t, p⟩ :: later⟩) :
    let rest := p.advance (answerNoting threads.length) n s
    ReportedRun lib subject slot ⟨(rest.2.1.1.cluster, rest.2.1.2), threads ++ ⟨job, t ++ rest.1, rest.2.2⟩ :: later⟩ :=
  Pool.Reach.advance (P := fun _ => True) (fun s : Deployment × List Report => (s.1.cluster, s.2))
    (fun s o _ => answerNoting_act threads.length s o) trivial n s t p (fun _ _ => trivial) run

/-- Two reporting calls for a job: the first up to some operation, then the second, then the first again. -/
def reporters (d : Deployment) (lib : Library) (job : Job) (early second late : Nat) : Reporters :=
  let first := (job.reportedCall lib).advance (answerNoting 0) early (d, [])
  let other := (job.reportedCall lib).advance (answerNoting 1) second first.2.1
  let rest := first.2.2.advance (answerNoting 0) late other.2.1
  ⟨(rest.2.1.1.cluster, rest.2.1.2), [⟨job, first.1 ++ rest.1, rest.2.2⟩, ⟨job, other.1, other.2.2⟩]⟩

theorem reporters_run (d : Deployment) (lib : Library) (job : Job) (early second late : Nat)
    {slot : Option CMPTransaction} (initial : d.cluster = .start slot) :
    ReportedRun lib job.subject slot (d.reporters lib job early second late) := by
  have begun : ReportedRun lib job.subject slot ⟨(d.cluster, []), [] ++ [⟨job, [], job.reportedCall lib⟩]⟩ := by
    rw [initial]
    exact .step .init (.spawn job rfl)
  have first := reporter_advance early (d, []) [] (job.reportedCall lib) begun
  have other := reporter_advance second _ [] (job.reportedCall lib) (.step first (.spawn job rfl))
  exact @reporter_advance lib job.subject slot job [] _ late _ _ _ other

end Deployment

/-- Calls of `Sign` in any interleaving and in any world: every counter of an issuer holds the number of
ended calls that it is to count, up to the calls that have not ended. -/
theorem counters_count_calls {σ : Type} {W : World interface σ} {lib : Library} {jobs : Job → Prop}
    {turn : Nat → Nat → Prop} {w : σ}
    {pool : Pool (interface.noting Report) (σ × List Report) (Fault GoError) Bytes Job}
    (reached : Pool.Reach (W.noting Report) (Job.reportedCall lib) jobs turn (w, []) pool) {labels : Labels}
    (complete : labels.complete = true) (series : Series) :
    pool.threads.countP (ReportedThread.counts lib labels series) ≤
        (Registry.published pool.world.2).value labels series ∧
      (Registry.published pool.world.2).value labels series ≤
        pool.threads.countP (ReportedThread.counts lib labels series) +
          pool.threads.countP ReportedThread.unfinished :=
  ⟨value_ge reached complete series, value_le reached complete series⟩

/-- Two overlapping calls, of which the second confirms the certificate that the first has recorded. The
first finds no server any more. -/
theorem counters_count_calls_overlapping : ∃ pool, ReportedRun plainLibrary plainJob.subject none pool ∧
    pool.threads.length = 2 ∧ ∀ series ∈ [.confirmations "Explicit", .outcomes "issued"],
      (Registry.published pool.world.2).value ⟨"CMPIssuer", "default/issuer", "enrollment"⟩ series = 1 := by
  let d := plainDeployment none [plainReply 2 [9], plainReply 3 [9, 9]]
  have complete : Labels.complete ⟨"CMPIssuer", "default/issuer", "enrollment"⟩ = true := by decide
  have run := d.reporters_run plainLibrary plainJob 15 60 60 rfl
  have ended : (d.reporters plainLibrary plainJob 15 60 60).threads.countP ReportedThread.unfinished = 0 := by
    decide +kernel
  have counted : ∀ series ∈ [.confirmations "Explicit", .outcomes "issued"],
      (d.reporters plainLibrary plainJob 15 60 60).threads.countP (ReportedThread.counts plainLibrary
        ⟨"CMPIssuer", "default/issuer", "enrollment"⟩ series) = 1 := by
    simp only [List.forall_mem_cons]
    exact ⟨by decide +kernel, by decide +kernel, by rintro _ ⟨⟩⟩
  refine ⟨_, run, rfl, fun series member => ?_⟩
  have between := counters_count_calls run complete series
  rw [counted series member, ended] at between
  exact Nat.le_antisymm between.2 between.1

/-- The failures and classifications that are counted. -/
def failureSeries (lib : Library) : List (String × String) :=
  (failureNames lib).flatMap (fun name =>
    [(name, "Permanent"), (name, "Retryable"), (name, "Security"), (name, "Pending")]) ++
  [("issuerConfiguration", "Permanent"), ("issuerConfiguration", "Retryable"), ("unclassified", "Unknown")]

section
variable {lib : Library}

theorem Reply.failureLabels_mem {err : GoError} (reply : Reply lib err) : failureLabels err ∈ failureSeries lib := by
  unfold failureLabels
  split
  · rename_i kind operation failure requeueAfter cause classified
    refine List.mem_append_left _ (List.mem_flatMap.mpr ?_)
    cases reply.bounded _ _ _ _ _ classified with
    | intro classified named =>
        refine ⟨failure, named, ?_⟩
        cases classified <;> simp [ErrorKind.text]
  · refine List.mem_append_right _ ?_
    split
    · rename_i lasting _ _
      cases lasting <;> decide
    · decide

/-- A failure is reported with the labels of the error that a call returns. -/
theorem Brief.reports_failure {brief : Brief} {labels labels' : Labels} {started : Time}
    {r : Except (Fault GoError) Bytes} {name classification : String}
    (member : Report.failure labels' name classification ∈ brief.reports labels started r) :
    ∃ err, r = .error (.error err) ∧ failureLabels err = (name, classification) := by
  -- It would be counted, and only the failures of an error are.
  have counted : 0 < (brief.reports labels started r).countP
      (Report.counts labels' (.failures name classification)) :=
    List.countP_pos_iff.mpr ⟨_, member, by simp [Report.counts]⟩
  rw [Brief.reports_count] at counted
  split at counted
  · rename_i counts
    rcases r with (err | reason) | bundle
    · have known : (!err.isPending && failureLabels err == (name, classification)) = true := counts.2
      rw [Bool.and_eq_true, beq_iff_eq] at known
      exact ⟨err, rfl, known.2⟩
    · cases counts.2
    · cases counts.2
  · cases counted

theorem reported_failure_mem {job : Job} {t : List (Event (interface.noting Report))} {p : Reporting Bytes}
    (path : Path (job.reportedCall lib) t p) {labels : Labels} {name classification : String}
    (member : Report.failure labels name classification ∈ notesTaken t) :
    (name, classification) ∈ failureSeries lib := by
  obtain ⟨u, r, completed⟩ := path.completed interface_answers
  obtain ⟨_, _, started, _, _, reported⟩ := reported_at_end completed
  have erased := completed.erase
  rw [Job.reportedCall, erase_sign] at erased
  have among : Report.failure labels name classification ∈ notesTaken (t ++ u) := by
    rw [notesTaken_append]
    exact List.mem_append_left _ member
  rw [reported] at among
  obtain ⟨err, rfl, same⟩ := Brief.reports_failure among
  rw [← same]
  exact ((sign_replies ..).of erased).failureLabels_mem

end

/-- Calls of `Sign` in any interleaving and in any world: whatever the servers answer, the failures of an
issuer are counted under the names and classifications of a fixed list. -/
theorem failure_series_known {σ : Type} {W : World interface σ} {lib : Library} {jobs : Job → Prop}
    {turn : Nat → Nat → Prop} {w : σ}
    {pool : Pool (interface.noting Report) (σ × List Report) (Fault GoError) Bytes Job}
    (reached : Pool.Reach (W.noting Report) (Job.reportedCall lib) jobs turn (w, []) pool) {labels : Labels}
    (complete : labels.complete = true) {name classification : String}
    (counted : (Registry.published pool.world.2).value labels (.failures name classification) ≠ 0) :
    (name, classification) ∈ failureSeries lib := by
  rw [Registry.published_value complete, reached.notes.countP_eq, ← Nat.pos_iff_ne_zero] at counted
  obtain ⟨report, member, counts⟩ := List.countP_pos_iff.mp counted
  obtain ⟨thread, known, noted⟩ := List.mem_flatMap.mp member
  cases report with
  | failure labels' name' classification' =>
      simp only [Report.counts, Bool.and_eq_true, beq_iff_eq] at counts
      obtain ⟨⟨rfl, rfl⟩, rfl⟩ := counts
      exact reported_failure_mem (reached.path thread known).2 noted
  | outcome | poll | confirmation | enrollmentFailed | renewalFallback => cases counts

/-- A server that answers with something else than a message. -/
theorem failure_series_known_malformed : ∃ pool, ReportedRun plainLibrary plainJob.subject none pool ∧
    (Registry.published pool.world.2).value ⟨"CMPIssuer", "default/issuer", "enrollment"⟩
      (.failures "badDataFormat" "Permanent") ≠ 0 ∧
    ("badDataFormat", "Permanent") ∈ failureSeries plainLibrary := by
  obtain ⟨d, counted, initial⟩ : ∃ d : Deployment,
      (Registry.published (d.reporters plainLibrary plainJob 60 0 0).world.2).value
        ⟨"CMPIssuer", "default/issuer", "enrollment"⟩ (.failures "badDataFormat" "Permanent") ≠ 0 ∧
      d.cluster = .start none :=
    ⟨plainDeployment none [.response 200 "text/html" [] none], by decide +kernel, rfl⟩
  have run := d.reporters_run plainLibrary plainJob 60 0 0 initial
  have complete : Labels.complete ⟨"CMPIssuer", "default/issuer", "enrollment"⟩ = true := by decide
  exact ⟨_, run, counted, failure_series_known run complete counted⟩

section
variable {lib : Library} {subject : Subject} {slot : Option CMPTransaction} {pool : Reporters}
  {labels : Labels}

/-- Without their reports, the calls run as before. -/
theorem ReportedRun.shared (run : ReportedRun lib subject slot pool) : SharedRun lib subject slot pool.erase := by
  have erased := Pool.Reach.erase run
  have same : (fun job => (Job.reportedCall lib job).erase) = Job.call lib := funext fun job => erase_sign ..
  rwa [same] at erased

theorem Brief.next_issued {b : Brief} {e : Event interface} {written : CMPTransaction}
    (issued : (b.next e.op e.answer).issued = some written) :
    b.issued = some written ∨ RecordsIssued [e] written.uid := by
  obtain ⟨o, answer⟩ := e
  cases o with
  | updateTransactionStatus stored =>
      cases answer with
      | error err => exact .inl issued
      | ok resourceVersion =>
          change (b.stored stored).issued = some written at issued
          unfold Brief.stored at issued
          split at issued
          · exact .inl issued
          · split at issued
            · rename_i phase
              cases issued
              exact .inr ⟨written, resourceVersion, List.mem_cons_self, phase, rfl⟩
            · exact .inl issued
  | getTransaction => cases answer <;> exact .inl issued
  | call call => cases call <;> exact .inl issued
  | _ => exact .inl issued

theorem RecordsIssued.mono {t u : Trail} {uid : String} (records : RecordsIssued t uid) (seen : t ⊆ u) :
    RecordsIssued u uid := by
  obtain ⟨written, resourceVersion, member, known⟩ := records
  exact ⟨written, resourceVersion, seen member, known⟩

theorem Trail.brief_issued {t : Trail} {written : CMPTransaction} (issued : t.brief.issued = some written) :
    RecordsIssued t written.uid := by
  have seen : ∀ b : Brief, (briefing.run b t).issued = some written →
      b.issued = some written ∨ RecordsIssued t written.uid := by
    clear issued
    induction t with
    | nil => exact fun b same => .inl same
    | cons e t ih =>
        intro b issued
        rcases ih _ issued with now | later
        · rcases Brief.next_issued now with before | records
          · exact .inl before
          · exact .inr (records.mono (List.cons_subset_cons e (List.nil_subset t)))
        · exact .inr (later.mono (List.subset_cons_self e t))
  rcases seen {} issued with empty | records
  · cases empty
  · exact records

/-- A call that is counted as issued has recorded an incarnation as issued. -/
theorem ReportedThread.counted_issued {thread : ReportedThread}
    (counted : thread.counts lib labels (.outcomes resultIssued) = true) :
    ∃ uid, RecordsIssued (plainEvents thread.trace) uid := by
  unfold ReportedThread.counts at counted
  split at counted
  case h_2 => cases counted
  case h_1 r _ =>
      rcases r with (err | reason) | bundle
      · simp [Brief.counts, resultFailed, resultIssued] at counted
      · simp [Brief.counts] at counted
      · have issued : thread.brief.issued.isSome = true := by
          simp only [Brief.counts, Bool.and_eq_true] at counted
          exact counted.2.1
        obtain ⟨written, issued⟩ := Option.isSome_iff_exists.mp issued
        exact ⟨written.uid, Trail.brief_issued issued⟩

/-- As many calls are counted as issued as incarnations were recorded as issued, at most. -/
theorem ReportedRun.issued_calls (run : ReportedRun lib subject slot pool) (unclaimed : Unclaimed subject slot) :
    pool.threads.countP (ReportedThread.counts lib labels (.outcomes resultIssued)) ≤
      pool.world.1.issued.length := by
  refine countP_le_of_apart (R := fun (thread : ReportedThread) uid => RecordsIssued (plainEvents thread.trace) uid)
    (List.pairwise_map.mp (run.shared.apart unclaimed)) fun thread member counted => ?_
  obtain ⟨uid, records⟩ := ReportedThread.counted_issued counted
  obtain ⟨i, found⟩ := List.getElem?_of_mem member
  have erased : pool.erase.threads[i]? = some thread.erase := by
    rw [Pool.erase, List.getElem?_map, found]
    rfl
  obtain ⟨entry, logged, _, issues⟩ := RecordsIssued.entry run.shared erased records
  exact ⟨uid, List.mem_filterMap.mpr ⟨entry, logged, issues⟩, records⟩

end

/-- Reporting calls for one CertificateRequest in any interleaving: no incarnation of its record is counted
twice as issued. The counter of issued certificates exceeds the number of incarnations that were recorded
as issued by no more than the calls that have not ended. -/
theorem issued_counted_once {lib : Library} {subject : Subject} {slot : Option CMPTransaction}
    (unclaimed : Unclaimed subject slot) {pool : Reporters} (run : ReportedRun lib subject slot pool)
    {labels : Labels} (complete : labels.complete = true) :
    pool.world.1.issued.Nodup ∧
      (Registry.published pool.world.2).value labels (.outcomes resultIssued) ≤
        pool.world.1.issued.length + pool.threads.countP ReportedThread.unfinished :=
  ⟨(run.shared.issuedOnce unclaimed).once,
    (value_le run complete _).trans (Nat.add_le_add_right (run.issued_calls unclaimed) _)⟩

/-- Two overlapping calls, of which the second records the incarnation as issued and is counted. -/
theorem issued_counted_once_overlapping : ∃ pool, ReportedRun plainLibrary plainJob.subject none pool ∧
    pool.threads.length = 2 ∧ pool.world.1.issued.length = 1 ∧
    (Registry.published pool.world.2).value ⟨"CMPIssuer", "default/issuer", "enrollment"⟩
      (.outcomes "issued") ≤ 1 := by
  obtain ⟨d, issued, ended, initial⟩ : ∃ d : Deployment,
      (d.reporters plainLibrary plainJob 15 60 60).world.1.issued.length = 1 ∧
      (d.reporters plainLibrary plainJob 15 60 60).threads.countP ReportedThread.unfinished = 0 ∧
      d.cluster = .start none :=
    ⟨plainDeployment none [plainReply 2 [9], plainReply 3 [9, 9]], by decide +kernel, by decide +kernel, rfl⟩
  have run := d.reporters_run plainLibrary plainJob 15 60 60 initial
  have complete : Labels.complete ⟨"CMPIssuer", "default/issuer", "enrollment"⟩ = true := by decide
  have bound := (issued_counted_once (by rintro _ ⟨⟩) run complete).2
  rw [issued, ended] at bound
  exact ⟨_, run, rfl, issued, bound⟩

end CmpIssuer
