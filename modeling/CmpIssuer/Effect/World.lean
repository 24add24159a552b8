import CmpIssuer.Effect.Monitor

/-!
Worlds that answer programs. A world says which answers an operation can get in
which state and what they change. Several programs can run in one world, each
with its own operations interleaved with those of the others. An invariant of
world and monitor states that every allowed operation keeps holds in every
state such a pool of threads reaches.
-/
namespace Effect

variable {S : Signature} {σ ε α C κ : Type}

/-- The operations of the thread with the given number, and changes that no thread makes. -/
structure World (S : Signature) (σ : Type) where
  act : Nat → σ → (o : S.Op) → S.Answer o → σ → Prop
  outside : σ → σ → Prop

namespace World

/-- A thread performs these events in the world and nothing else happens meanwhile. -/
inductive Trace (W : World S σ) (i : Nat) : σ → List (Event S) → σ → Prop
  | nil (s : σ) : Trace W i s [] s
  | cons {s u v : σ} {e : Event S} {t : List (Event S)} (first : W.act i s e.op e.answer u)
      (rest : Trace W i u t v) : Trace W i s (e :: t) v

theorem Trace.append_inv {W : World S σ} {i : Nat} {s v : σ} {t u : List (Event S)}
    (trace : W.Trace i s (t ++ u) v) : ∃ w, W.Trace i s t w ∧ W.Trace i w u v := by
  induction t generalizing s with
  | nil => exact ⟨s, .nil s, trace⟩
  | cons e t ih =>
      cases trace with
      | cons first rest =>
          obtain ⟨w, before, after⟩ := ih rest
          exact ⟨w, .cons first before, after⟩

end World

/-- At most `n` operations of a program, answered one after the other. -/
def Program.advance (answer : σ → (o : S.Op) → S.Answer o × σ) :
    Nat → σ → Program S ε α → List (Event S) × σ × Program S ε α
  | n + 1, s, .op o next =>
      let rest := Program.advance answer n (answer s o).2 (next (answer s o).1)
      (⟨o, (answer s o).1⟩ :: rest.1, rest.2)
  | _, s, p => ([], s, p)

theorem Program.advance_path (answer : σ → (o : S.Op) → S.Answer o × σ) (n : Nat) (s : σ)
    (p : Program S ε α) : Path p (p.advance answer n s).1 (p.advance answer n s).2.2 := by
  induction n generalizing s p with
  | zero => cases p <;> exact .refl _
  | succ n ih =>
      cases p with
      | pure a => exact .refl _
      | throw e => exact .refl _
      | op o next => exact .step _ (ih _ _)

theorem Program.advance_trace {W : World S σ} {i : Nat} {ρ : Type} (view : ρ → σ)
    {answer : ρ → (o : S.Op) → S.Answer o × ρ}
    (acts : ∀ s o, W.act i (view s) o (answer s o).1 (view (answer s o).2)) (n : Nat) (s : ρ)
    (p : Program S ε α) :
    W.Trace i (view s) (p.advance answer n s).1 (view (p.advance answer n s).2.1) := by
  induction n generalizing s p with
  | zero => cases p <;> exact .nil _
  | succ n ih =>
      cases p with
      | pure a => exact .nil _
      | throw e => exact .nil _
      | op o next => exact .cons (acts s o) (ih _ _)

theorem Program.advance_forall {ρ : Type} {answer : ρ → (o : S.Op) → S.Answer o × ρ} {I : ρ → Prop}
    {P : Event S → Prop} (step : ∀ s o, I s → P ⟨o, (answer s o).1⟩ ∧ I (answer s o).2) (n : Nat) (s : ρ)
    (p : Program S ε α) (start : I s) :
    (∀ e ∈ (p.advance answer n s).1, P e) ∧ I (p.advance answer n s).2.1 := by
  induction n generalizing s p with
  | zero => cases p <;> exact ⟨by rintro _ ⟨⟩, start⟩
  | succ n ih =>
      cases p with
      | pure a => exact ⟨by rintro _ ⟨⟩, start⟩
      | throw e => exact ⟨by rintro _ ⟨⟩, start⟩
      | op o next =>
          obtain ⟨first, kept⟩ := step s o start
          obtain ⟨later, final⟩ := ih _ (next (answer s o).1) kept
          refine ⟨fun e member => ?_, final⟩
          rcases List.mem_cons.mp member with rfl | rest
          · exact first
          · exact later e rest

/-- What every allowed operation keeps holds at the end of an undisturbed run. -/
theorem Follows.invariant {M : Monitor S C} {Q : C → Except ε α → Prop} {W : World S σ} {i : Nat}
    {J : σ → C → Prop}
    (step : ∀ s c o answer s', J s c → M.allows c o → W.act i s o answer s' →
      J s' (M.next c o answer))
    {p q : Program S ε α} {t : List (Event S)} {c : C} {s s' : σ} (h : Follows M Q c p)
    (path : Path p t q) (trace : W.Trace i s t s') (start : J s c) : J s' (M.run c t) := by
  induction path generalizing c s with
  | refl p => cases trace; exact start
  | step answer rest ih =>
      cases trace with
      | cons first later => exact ih (h.2 answer) later (step _ _ _ _ _ start h.1 first)

/-- A running program: what it was started for, what it has done and what is left of it. -/
structure Thread (S : Signature) (ε α κ : Type) where
  job : κ
  trace : List (Event S)
  program : Program S ε α

structure Pool (S : Signature) (σ ε α κ : Type) where
  world : σ
  threads : List (Thread S ε α κ)

namespace Pool

variable (W : World S σ) (body : κ → Program S ε α) (jobs : κ → Prop) (turn : Nat → Nat → Prop)

/-- One step of a pool. `turn n i` says that thread `i` of `n` may act. A thread that never acts again
has crashed. -/
inductive Step : Pool S σ ε α κ → Pool S σ ε α κ → Prop
  | spawn {w : σ} {threads : List (Thread S ε α κ)} (job : κ) (wanted : jobs job) :
      Step ⟨w, threads⟩ ⟨w, threads ++ [⟨job, [], body job⟩]⟩
  | act {w w' : σ} {threads : List (Thread S ε α κ)} {i : Nat} {job : κ} {t : List (Event S)}
      {o : S.Op} {next : S.Answer o → Program S ε α} (answer : S.Answer o)
      (thread : threads[i]? = some ⟨job, t, .op o next⟩) (ready : turn threads.length i)
      (acted : W.act i w o answer w') :
      Step ⟨w, threads⟩ ⟨w', threads.set i ⟨job, t ++ [⟨o, answer⟩], next answer⟩⟩
  | outside {w w' : σ} {threads : List (Thread S ε α κ)} (changed : W.outside w w') :
      Step ⟨w, threads⟩ ⟨w', threads⟩

/-- The pools reached from one world without threads. -/
inductive Reach (w : σ) : Pool S σ ε α κ → Prop
  | init : Reach w ⟨w, []⟩
  | step {pool pool' : Pool S σ ε α κ} (reached : Reach w pool)
      (next : Step W body jobs turn pool pool') : Reach w pool'

end Pool

/-- Where a monitor stands that watched a thread from its start. -/
def Thread.watched (M : Monitor S C) (start : κ → C) (thread : Thread S ε α κ) : C :=
  M.run (start thread.job) thread.trace

theorem Thread.watched_step (M : Monitor S C) (start : κ → C) {job : κ} {t : List (Event S)} {o : S.Op}
    {answer : S.Answer o} {p q : Program S ε α} :
    Thread.watched M start ⟨job, t ++ [⟨o, answer⟩], q⟩ =
      M.next (Thread.watched M start ⟨job, t, p⟩) o answer := M.run_append _ _ _

theorem Pool.Reach.path {W : World S σ} {body : κ → Program S ε α} {jobs : κ → Prop}
    {turn : Nat → Nat → Prop} {w : σ} {pool : Pool S σ ε α κ}
    (reached : Pool.Reach W body jobs turn w pool) :
    ∀ thread ∈ pool.threads, jobs thread.job ∧ Path (body thread.job) thread.trace thread.program := by
  induction reached with
  | init => simp
  | step reached next ih =>
      cases next with
      | spawn job wanted =>
          intro thread member
          rcases List.mem_append.mp member with old | new
          · exact ih thread old
          · obtain rfl := List.mem_singleton.mp new
            exact ⟨wanted, .refl _⟩
      | act answer thread ready acted =>
          intro changed member
          rcases List.mem_or_eq_of_mem_set member with old | rfl
          · exact ih changed old
          · obtain ⟨wanted, path⟩ := ih _ (List.mem_of_getElem? thread)
            exact ⟨wanted, path.answered answer⟩
      | outside changed => exact ih

/-- What a thread did before, it did in a state that the pool was in. `R` relates such a state to the one
the pool is in now. -/
theorem Pool.Reach.earlier {W : World S σ} {body : κ → Program S ε α} {jobs : κ → Prop}
    {turn : Nat → Nat → Prop} {w : σ} {pool : Pool S σ ε α κ} {R : σ → σ → Prop} (refl : ∀ s, R s s)
    (act : ∀ s i u o answer v, R s u → W.act i u o answer v → R s v)
    (outside : ∀ s u v, R s u → W.outside u v → R s v) (reached : Pool.Reach W body jobs turn w pool) :
    ∀ thread ∈ pool.threads, ∀ t u, thread.trace = t ++ u → ∃ before p,
      Pool.Reach W body jobs turn w before ∧ ⟨thread.job, t, p⟩ ∈ before.threads ∧
      R before.world pool.world := by
  induction reached with
  | init => simp
  | step reached next ih =>
      intro thread member t u split
      cases next with
      | spawn job wanted =>
          rcases List.mem_append.mp member with old | new
          · exact ih thread old t u split
          · obtain rfl := List.mem_singleton.mp new
            obtain ⟨rfl, rfl⟩ := List.append_eq_nil_iff.mp split.symm
            exact ⟨_, _, .step reached (.spawn job wanted), member, refl _⟩
      | act answer found ready acted =>
          rcases List.mem_or_eq_of_mem_set member with old | rfl
          · obtain ⟨before, p, reached', known, related⟩ := ih thread old t u split
            exact ⟨before, p, reached', known, act _ _ _ _ _ _ related acted⟩
          · rcases List.eq_nil_or_concat u with rfl | ⟨u, e, rfl⟩
            · obtain rfl : t = _ := by simpa using split.symm
              exact ⟨_, _, .step reached (.act answer found ready acted), member, refl _⟩
            · rw [List.concat_eq_append, ← List.append_assoc] at split
              obtain ⟨split, _⟩ := List.append_inj' split rfl
              obtain ⟨before, p, reached', known, related⟩ := ih _ (List.mem_of_getElem? found) t u split
              exact ⟨before, p, reached', known, act _ _ _ _ _ _ related acted⟩
      | outside changed =>
          obtain ⟨before, p, reached', known, related⟩ := ih thread member t u split
          exact ⟨before, p, reached', known, outside _ _ _ related changed⟩

/-- A thread of a pool can go on as long as the world has an answer. -/
theorem Pool.Reach.advance {W : World S σ} {body : κ → Program S ε α} {jobs : κ → Prop}
    {turn : Nat → Nat → Prop} {w : σ} {threads later : List (Thread S ε α κ)} {job : κ} {ρ : Type} (view : ρ → σ)
    {answer : ρ → (o : S.Op) → S.Answer o × ρ} {P : Event S → Prop}
    (acts : ∀ s o, P ⟨o, (answer s o).1⟩ →
      W.act threads.length (view s) o (answer s o).1 (view (answer s o).2))
    (ready : turn (threads.length + (later.length + 1)) threads.length) (n : Nat) (s : ρ) (t : List (Event S))
    (p : Program S ε α) (answered : ∀ e ∈ (p.advance answer n s).1, P e)
    (reached : Pool.Reach W body jobs turn w ⟨view s, threads ++ ⟨job, t, p⟩ :: later⟩) :
    Pool.Reach W body jobs turn w ⟨view (p.advance answer n s).2.1,
      threads ++ ⟨job, t ++ (p.advance answer n s).1, (p.advance answer n s).2.2⟩ :: later⟩ := by
  induction n generalizing s t p with
  | zero => cases p <;> simpa [Program.advance] using reached
  | succ n ih =>
      cases p with
      | pure a => simpa [Program.advance] using reached
      | throw e => simpa [Program.advance] using reached
      | op o next =>
          have thread : (threads ++ ⟨job, t, .op o next⟩ :: later)[threads.length]? =
              some ⟨job, t, .op o next⟩ := by simp
          have acted : Pool.Reach W body jobs turn w _ :=
            .step reached (.act (answer s o).1 thread (by simpa using ready)
              (acts s o (answered _ List.mem_cons_self)))
          rw [List.set_append_right _ _ (Nat.le_refl _), Nat.sub_self, List.set_cons_zero] at acted
          simpa [Program.advance] using ih _ _ _ (fun e member => answered e (List.mem_cons_of_mem _ member)) acted

theorem Pool.Reach.more {W : World S σ} {body : κ → Program S ε α} {jobs jobs' : κ → Prop}
    {turn : Nat → Nat → Prop} {w : σ} {pool : Pool S σ ε α κ}
    (reached : Pool.Reach W body jobs turn w pool) (wider : ∀ job, jobs job → jobs' job) :
    Pool.Reach W body jobs' turn w pool := by
  induction reached with
  | init => exact .init
  | step _ next ih =>
      refine .step ih ?_
      cases next with
      | spawn job wanted => exact .spawn job (wider job wanted)
      | act answer thread ready acted => exact .act answer thread ready acted
      | outside changed => exact .outside changed

theorem Pool.Reach.mono {W W' : World S σ} {body : κ → Program S ε α} {jobs : κ → Prop}
    {turn turn' : Nat → Nat → Prop} {w : σ} {pool : Pool S σ ε α κ}
    (reached : Pool.Reach W body jobs turn w pool)
    (acts : ∀ i s o answer s', W.act i s o answer s' → W'.act i s o answer s')
    (outside : ∀ s s', W.outside s s' → W'.outside s s') (turns : ∀ n i, turn n i → turn' n i) :
    Pool.Reach W' body jobs turn' w pool := by
  induction reached with
  | init => exact .init
  | step _ next ih =>
      refine .step ih ?_
      cases next with
      | spawn job wanted => exact .spawn job wanted
      | act answer thread ready acted => exact .act answer thread (turns _ _ ready) (acts _ _ _ _ _ acted)
      | outside changed => exact .outside (outside _ _ changed)

/-- The invariant rule for pools, with the way that the acting thread has come. -/
theorem Pool.Reach.along {W : World S σ} {body : κ → Program S ε α} {jobs : κ → Prop}
    {turn : Nat → Nat → Prop} {M : Monitor S C} (start : κ → C) {J : σ → List C → Prop}
    (spawn : ∀ s cs job, jobs job → J s cs → J s (cs ++ [start job]))
    (act : ∀ s cs i job t o next answer s', jobs job → Path (body job) t (.op o next) → J s cs →
      cs[i]? = some (M.run (start job) t) → turn cs.length i → W.act i s o answer s' →
      J s' (cs.set i (M.next (M.run (start job) t) o answer)))
    (outside : ∀ s cs s', J s cs → W.outside s s' → J s' cs)
    {w : σ} {pool : Pool S σ ε α κ} (init : J w []) (reached : Pool.Reach W body jobs turn w pool) :
    J pool.world (pool.threads.map (Thread.watched M start)) := by
  induction reached with
  | init => exact init
  | step reached next ih =>
      cases next with
      | spawn job wanted =>
          rw [List.map_append]
          exact spawn _ _ job wanted ih
      | act answer thread ready acted =>
          obtain ⟨wanted, path⟩ := reached.path _ (List.mem_of_getElem? thread)
          rw [List.map_set, Thread.watched_step (p := .op _ _)]
          refine act _ _ _ _ _ _ _ answer _ wanted path ih ?_ ?_ acted
          · rw [List.getElem?_map, thread]; rfl
          · rw [List.length_map]; exact ready
      | outside changed => exact outside _ _ _ ih changed

theorem Pool.Reach.invariant {W : World S σ} {body : κ → Program S ε α} {jobs : κ → Prop}
    {turn : Nat → Nat → Prop} {M : Monitor S C} {start : κ → C} {Q : C → Except ε α → Prop}
    {J : σ → List C → Prop} (follows : ∀ job, jobs job → Follows M Q (start job) (body job))
    (spawn : ∀ s cs job, jobs job → J s cs → J s (cs ++ [start job]))
    (act : ∀ s cs i c o answer s', J s cs → cs[i]? = some c → turn cs.length i → M.allows c o →
      W.act i s o answer s' → J s' (cs.set i (M.next c o answer)))
    (outside : ∀ s cs s', J s cs → W.outside s s' → J s' cs)
    {w : σ} {pool : Pool S σ ε α κ} (init : J w []) (reached : Pool.Reach W body jobs turn w pool) :
    J pool.world (pool.threads.map (Thread.watched M start)) := by
  refine Pool.Reach.along start spawn ?_ outside init reached
  intro s cs i job t o next answer s' wanted path holds thread ready acted
  exact act s cs i _ o answer s' holds thread ready ((follows job wanted).allows path) acted

/-- The invariant rule for threads that run one after the other in a world of their own: only the last
thread acts. -/
theorem Pool.Reach.sequence {W : World S σ} {body : κ → Program S ε α} {jobs : κ → Prop}
    {M : Monitor S C} {start : κ → C} {Q : C → Except ε α → Prop} {J : σ → List C → Prop}
    (follows : ∀ job, jobs job → Follows M Q (start job) (body job))
    (spawn : ∀ s cs job, jobs job → J s cs → J s (cs ++ [start job]))
    (act : ∀ s cs c o answer s', J s (cs ++ [c]) → M.allows c o → W.act cs.length s o answer s' →
      J s' (cs ++ [M.next c o answer]))
    (closed : ∀ s s', ¬ W.outside s s') {w : σ} {pool : Pool S σ ε α κ} (init : J w [])
    (reached : Pool.Reach W body jobs (fun n i => i + 1 = n) w pool) :
    J pool.world (pool.threads.map (Thread.watched M start)) := by
  refine Pool.Reach.invariant (J := J) follows spawn ?_ ?_ init reached
  · intro s cs i c o answer s' holds thread last allowed acted
    obtain ⟨front, rfl⟩ : ∃ front, cs = front ++ [c] := by
      refine List.getLast?_eq_some_iff.mp ?_
      rw [List.getLast?_eq_getElem?, ← last, Nat.add_sub_cancel]
      exact thread
    obtain rfl : i = front.length := by simpa using last
    rw [List.set_append_right _ _ (Nat.le_refl _), Nat.sub_self, List.set_cons_zero]
    exact act s front c o answer s' holds allowed acted
  · exact fun s cs s' _ changed => absurd changed (closed s s')

/-- The invariant rule for threads each of which has ended before the next one starts. `I` holds between
them and `J` while the last one runs. -/
theorem Pool.Reach.uninterrupted {W : World S σ} {body : κ → Program S ε α} {jobs : κ → Prop}
    {M : Monitor S C} {I J : σ → List C → Prop} (start : κ → C)
    (spawn : ∀ s cs job, jobs job → I s cs → J s (cs ++ [start job]))
    (act : ∀ s cs job t o next answer s', jobs job → Path (body job) t (.op o next) →
      J s (cs ++ [M.run (start job) t]) → W.act cs.length s o answer s' →
      J s' (cs ++ [M.next (M.run (start job) t) o answer]))
    (finish : ∀ s cs job t r, jobs job → Path (body job) t (.ofExcept r) →
      J s (cs ++ [M.run (start job) t]) → I s (cs ++ [M.run (start job) t]))
    (closed : ∀ s s', ¬ W.outside s s') {w : σ} {pool : Pool S σ ε α κ} (init : I w [])
    (reached : Pool.Reach W body jobs (fun n i => i + 1 = n) w pool)
    (ended : ∀ thread ∈ pool.threads.dropLast, thread.program.outcome?.isSome) :
    (pool.threads = [] ∧ I pool.world []) ∨
      pool.threads ≠ [] ∧ J pool.world (pool.threads.map (Thread.watched M start)) := by
  induction reached with
  | init => exact .inl ⟨rfl, init⟩
  | @step pool pool' reached next ih =>
      cases next with
      | @spawn w threads job wanted =>
          rw [List.dropLast_concat] at ended
          refine .inr ⟨by simp, ?_⟩
          rw [List.map_append]
          refine spawn _ _ job wanted ?_
          rcases ih fun thread member => ended thread ((List.dropLast_sublist _).subset member) with
            ⟨empty, between⟩ | ⟨some_, running⟩
          · have empty : threads = [] := empty
            subst empty
            exact between
          · obtain ⟨front, last, rfl⟩ := (List.eq_nil_or_concat' threads).resolve_left some_
            obtain ⟨r, outcome⟩ := Option.isSome_iff_exists.mp (ended last (by simp))
            obtain ⟨wanted', path⟩ := reached.path last (by simp)
            rw [Program.eq_ofExcept_of_outcome outcome] at path
            rw [List.map_append] at running ⊢
            exact finish _ _ _ _ r wanted' path running
      | @act w w' threads i job t o next answer thread ready acted =>
          obtain ⟨front, rfl⟩ : ∃ front, threads = front ++ [⟨job, t, .op o next⟩] := by
            refine List.getLast?_eq_some_iff.mp ?_
            rw [List.getLast?_eq_getElem?, ← ready, Nat.add_sub_cancel]
            exact thread
          obtain rfl : i = front.length := by simpa using ready
          rw [List.set_append_right _ _ (Nat.le_refl _), Nat.sub_self, List.set_cons_zero] at ended ⊢
          rw [List.dropLast_concat] at ended
          rcases ih (by rw [List.dropLast_concat]; exact ended) with ⟨empty, _⟩ | ⟨_, running⟩
          · simp at empty
          · obtain ⟨wanted, path⟩ := reached.path _ (List.mem_append_right _ List.mem_cons_self)
            refine .inr ⟨by simp, ?_⟩
            rw [List.map_append] at running ⊢
            rw [List.map_singleton, Thread.watched_step (p := .op o next)]
            exact act _ _ job t o next answer w' wanted path running (by rw [List.length_map]; exact acted)
      | outside changed => exact absurd changed (closed _ _)

end Effect
