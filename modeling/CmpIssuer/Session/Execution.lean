import CmpIssuer.Session.Signer

/-!
`Sign` forwards: the path a call takes when its reads succeed and the checks on
the record pass. The contract says what every path keeps to. These lemmas say
that the paths exist, one for each part of the call, and how a path up to an
operation is taken apart.
-/
namespace CmpIssuer
open Effect

section
variable {ε α β : Type} {q : Go ε β} {t : Trail}

theorem path_ask {o : Op} {f : o.Answer → Go ε β} (answer : o.Answer) (rest : Path (f answer) t q) :
    Path (ask o >>= f) (⟨o, answer⟩ :: t) q := by
  have asked : Path (ask o : Go ε o.Answer) [⟨o, answer⟩] (.pure answer) :=
    Path.step (S := interface) answer (.refl _)
  exact asked.bind_pure rest

theorem path_outcome {r : Except ε α} {f : α → Go ε β} {a : α} (value : r = .ok a)
    (rest : Path (f a) t q) : Path (ofExcept r >>= f) t q := by
  subst value
  exact rest

theorem path_failure {r : Except ε α} {f : α → Go ε β} {err : ε} (failed : r = .error err) :
    Path (ofExcept r >>= f) [] (.throw (.error err)) := by
  subst failed
  exact .refl _

end

section
variable {ε α β : Type} {t : Trail} {o : Op} {next : o.Answer → Go ε β}

theorem path_ask_op (o' : Op) {f : o'.Answer → Go ε β} (path : Path (ask o' >>= f) t (.op o next))
    (other : o' ≠ o) : ∃ answer u, t = ⟨o', answer⟩ :: u ∧ Path (f answer) u (.op o next) := by
  change Path (Program.op o' fun answer => f answer) t (.op o next) at path
  cases path with
  | refl => exact absurd rfl other
  | step answer rest => exact ⟨answer, _, rfl, rest⟩

theorem path_ask_pure (o : Op) {f : o.Answer → Go ε β} {b : β} (path : Path (ask o >>= f) t (.pure b)) :
    ∃ answer u, t = ⟨o, answer⟩ :: u ∧ Path (f answer) u (.pure b) := by
  change Path (Program.op o fun answer => f answer) t (.pure b) at path
  cases path with
  | step answer rest => exact ⟨answer, _, rfl, rest⟩

theorem path_outcome_op {r : Except ε α} {f : α → Go ε β} (path : Path (ofExcept r >>= f) t (.op o next)) :
    ∃ a, r = .ok a ∧ Path (f a) t (.op o next) := by
  cases r with
  | error err => cases path
  | ok a => exact ⟨a, rfl, path⟩

/-- A program that only looks around is over before any other operation. -/
theorem path_reading_op {Q : Trail → Except (Fault ε) α → Prop} {p : Go ε α} {f : α → Go ε β}
    (silent : Follows reading Q [] p) (path : Path (p >>= f) t (.op o next)) (loud : o.silent = false) :
    ∃ a u v, t = u ++ v ∧ Path p u (.pure a) ∧ Path (f a) v (.op o next) := by
  rcases path.bind_op with ⟨_, inside⟩ | later
  · have quiet : o.silent = true := silent.allows inside
    rw [loud] at quiet
    cases quiet
  · exact later

end

section
variable {lib : Library} {job : Job} {record : CMPTransaction} {csrDER : Bytes} {started : Time}

theorem loadRecord_path {request : CertificateRequestObject}
    (own : record.spec.certificateRequestUID = request.uid) :
    Path (loadRecord request) [⟨.getTransaction request.key, .ok record⟩] (.pure (some record)) := by
  refine path_ask (o := .getTransaction request.key) (.ok record) ?_
  dsimp only
  rw [if_pos own]
  exact .refl _

/-- A call that finds a record of its request resumes it. -/
theorem sign_loads {selected : Operation} (csr : requestedCSR lib job.request = .ok csrDER)
    (selection : selectedTransactionOperation lib job.issuer job.request = .ok selected)
    (own : record.spec.certificateRequestUID = job.request.uid) :
    Path (sign lib job.clusterResourceNamespace job.request job.issuer)
      [⟨.now, started⟩, ⟨.getTransaction job.request.key, .ok record⟩]
      (signResumed lib job.clusterResourceNamespace job.request job.issuer started csrDER selected
        record) := by
  refine path_ask (o := .now) started (path_outcome csr ?_)
  refine path_outcome (mapError_eq_ok.mpr selection) ?_
  exact (loadRecord_path own).bind_pure (.refl _)

/-- A record that is resumed gets as far as the preparation of its request. -/
theorem Resumes.prepares (resumes : Resumes lib job record csrDER) {configuration : RuntimeConfiguration}
    {reads work : Trail} {outcome : Go GoError Prepared}
    (loading : Path (loadRuntimeConfiguration lib job.clusterResourceNamespace job.issuer) reads
      (.pure configuration))
    (preparing : Path (prepareEnrollment lib job.request job.issuer record.spec.operation
      record.spec.renewalFallback csrDER configuration) work outcome) :
    Path (sign lib job.clusterResourceNamespace job.request job.issuer)
      ([⟨.now, started⟩, ⟨.getTransaction job.request.key, .ok record⟩] ++ reads ++ work)
      (outcome >>= fun prepared =>
        if record.spec.configurationDigest ≠ prepared.configuration.configurationDigest then
          failTransaction record
            (.permanent (.text "issuer credentials changed during the recorded CMP transaction"))
        else continueTransaction lib job.request record.spec.operation csrDER
          (transactionStartTime record started) prepared record) := by
  obtain ⟨selected, selection, valid⟩ := resumes.valid
  rw [List.append_assoc]
  refine (sign_loads resumes.csr selection resumes.own).trans ?_
  unfold signResumed Reported.signResumed
  dsimp only [quiet_run, quiet_deferring]
  rw [valid]
  simp only [if_neg resumes.unissued, resumes.issuer, ne_eq, not_true_eq_false, if_false]
  exact (loading.mapError _).bind_pure (preparing.bind _)

theorem preparation_silent {configuration : RuntimeConfiguration} {reads work : Trail}
    {operation : Operation} {reason : Setting FallbackReason} {outcome : Go GoError Prepared}
    (loading : Path (loadRuntimeConfiguration lib job.clusterResourceNamespace job.issuer) reads
      (.pure configuration))
    (preparing : Path (prepareEnrollment lib job.request job.issuer operation reason csrDER configuration)
      work outcome) : ∀ e ∈ reads ++ work, e.op.silent = true := by
  have configured : Configured lib job.clusterResourceNamespace job.issuer reads configuration :=
    loadRuntimeConfiguration_loads.outcome (r := .ok configuration) loading
  intro e member
  rcases List.mem_append.mp member with read | worked
  · exact loadRuntimeConfiguration_loads.quiet loading e read
  · exact (prepareEnrollment_loads configured.digest).quiet preparing e worked

/-- A call that bypasses `failTransaction` still works on the record it has read. -/
theorem Bypasses.held {err : GoError} {t : Trail} (bypasses : Bypasses lib job record err t) :
    ((contract lib).run (Session.begin job) t).stage = .held ⟨record, .loaded record⟩ := by
  have started : ∀ (started : Time) (later : Trail), record.spec.certificateRequestUID = job.request.uid →
      (∀ e ∈ later, e.op.silent = true) → ((contract lib).run (Session.begin job)
        ([⟨.now, started⟩, ⟨.getTransaction job.request.key, .ok record⟩] ++ later)).stage =
          .held ⟨record, .loaded record⟩ := by
    intro started later own silent
    rw [Monitor.run_append]
    have stage : ((contract lib).run (Session.begin job)
        [⟨.now, started⟩, ⟨.getTransaction job.request.key, .ok record⟩]).stage =
          .held ⟨record, .loaded record⟩ := if_pos own
    rw [contract_run_silent silent (by rw [stage]; trivial), stage]
  cases bypasses with
  | workload resumes loading preparing =>
      rw [List.append_assoc]
      exact started _ _ resumes.own (preparation_silent loading preparing)
  | signer resumes loading preparing =>
      rw [List.append_assoc, List.append_assoc, ← List.append_assoc _ _ [_]]
      refine started _ _ resumes.own fun e member => ?_
      rcases List.mem_append.mp member with before | last
      · exact preparation_silent loading preparing e before
      · cases List.mem_singleton.mp last
        rfl

theorem Bypasses.path {err : GoError} {t : Trail} (bypasses : Bypasses lib job record err t) :
    Path (sign lib job.clusterResourceNamespace job.request job.issuer) t (.throw (.error err)) := by
  cases bypasses with
  | workload resumes loading preparing => exact resumes.prepares loading preparing
  | signer resumes loading preparing digest phase recorded verified present unparsed =>
      refine (resumes.prepares loading preparing).trans ?_
      show Path (if _ then _ else _) _ _
      rw [if_neg (not_not.mpr digest)]
      unfold continueTransaction Reported.continueTransaction
      dsimp only [quiet_run, quiet_issued]
      rw [if_pos phase]
      unfold Reported.resumeConfirmation
      dsimp only [quiet_run]
      rw [recorded]
      refine path_ask (o := .now) _ ?_
      rw [verified]
      dsimp only
      rw [present]
      exact path_failure unparsed

end

end CmpIssuer
