import CmpIssuer.Effect.Monitor

/-!
Progress. A program is taken up to its next operation of one kind, or to its end
when it performs none. The rules say how such a way is taken apart, what it
comes to where the world answers alike throughout, and when a program is bound
to come to such an operation.
-/
namespace Effect

variable {S : Signature} {ε ε' α β γ : Type}

/-- The program is over, or an operation of one kind is next. -/
def Program.StopsAt (goal : S.Op → Prop) (p : Program S ε α) : Prop :=
  ∀ o next, p = .op o next → goal o

section
variable {goal quiet : S.Op → Prop} {p : Program S ε α} {f : α → Program S ε β} {t : List (Event S)}
  {q : Program S ε β} {Q : List (Event S) → Except ε α → Prop}

theorem Program.stopsAt_ofExcept (r : Except ε α) : (Program.ofExcept (S := S) r).StopsAt goal := by
  cases r <;> rintro _ _ ⟨⟩

theorem Path.mapError_inv {g : ε → ε'} {q : Program S ε' α} (path : Path (p.mapError g) t q) :
    ∃ p', Path p t p' ∧ q = p'.mapError g := by
  induction p generalizing t with
  | pure a =>
      cases path
      exact ⟨.pure a, .refl _, rfl⟩
  | throw e =>
      cases path
      exact ⟨.throw e, .refl _, rfl⟩
  | op o next ih =>
      cases path with
      | refl => exact ⟨.op o next, .refl _, rfl⟩
      | step answer rest =>
          obtain ⟨p', inside, same⟩ := ih answer rest
          exact ⟨p', .step answer inside, same⟩

theorem Path.perform_stop (o : S.Op) {f : S.Answer o → Program S ε β} (path : Path (Program.perform o >>= f) t q)
    (stops : q.StopsAt goal) (plain : ¬ goal o) :
    ∃ answer u, t = ⟨o, answer⟩ :: u ∧ Path (f answer) u q := by
  change Path (Program.op o fun answer => f answer) t q at path
  cases path with
  | refl => exact absurd (stops o _ rfl) plain
  | step answer rest => exact ⟨answer, _, rfl, rest⟩

theorem Follows.stop (first : Follows (recorder quiet) Q [] p) (plain : ∀ o, quiet o → ¬ goal o)
    (path : Path (p >>= f) t q) (stops : q.StopsAt goal) :
    (∃ e, Path p t (.throw e) ∧ q = .throw e) ∨
      ∃ a u v, t = u ++ v ∧ Path p u (.pure a) ∧ Path (f a) v q := by
  rcases path.bind_inv with ⟨p', inside, rfl⟩ | passed
  · cases p' with
    | pure a => exact .inr ⟨a, t, [], by simp, inside, .refl _⟩
    | throw e => exact .inl ⟨e, inside, rfl⟩
    | op o next => exact absurd (stops o _ rfl) (plain o (first.allows inside))
  · exact .inr passed

variable {answer : (o : S.Op) → S.Answer o}

theorem Path.evaluated {r : Except ε α} (path : Path p t (.ofExcept r))
    (answered : ∀ e ∈ t, e.answer = answer e.op) : p.eval answer = r := by
  generalize ended : (Program.ofExcept r : Program S ε α) = q at path
  induction path with
  | refl p =>
      subst ended
      cases r <;> rfl
  | @step o next found t q rest ih =>
      have known : found = answer o := answered ⟨o, found⟩ List.mem_cons_self
      subst known
      exact ih (fun e member => answered e (List.mem_cons_of_mem _ member)) ended

/-- A first part whose operations have known answers is passed with a known value. -/
theorem Follows.stop_value (first : Follows (recorder quiet) Q [] p) (plain : ∀ o, quiet o → ¬ goal o)
    (path : Path (p >>= f) t q) (stops : q.StopsAt goal)
    (answered : ∀ e ∈ t, quiet e.op → e.answer = answer e.op) {a : α} (value : p.eval answer = .ok a) :
    ∃ u v, t = u ++ v ∧ (∀ e ∈ u, quiet e.op) ∧ Path p u (.pure a) ∧ Path (f a) v q := by
  have known : ∀ {u r}, (∀ e ∈ u, e ∈ t) → Path p u (.ofExcept r) → r = .ok a := by
    intro u r within path
    rw [← value]
    exact (path.evaluated fun e member => answered e (within e member) (first.quiet path e member)).symm
  rcases first.stop plain path stops with ⟨e, failed, _⟩ | ⟨b, u, v, rfl, passed, rest⟩
  · cases known (r := .error e) (fun _ member => member) failed
  · cases known (r := .ok b) (fun _ member => List.mem_append_left _ member) passed
    exact ⟨u, v, rfl, first.quiet passed, passed, rest⟩

end

/-- The monitor of programs that come to a good operation of one kind before they end, as long as the
answers are the usual ones. Its state says that nothing is left to be shown. -/
def toward (goal good : S.Op → Prop) (usual : Event S → Prop) : Monitor S Prop where
  allows settled o := settled ∨ (goal o → good o)
  next settled o answer := settled ∨ goal o ∨ ¬ usual ⟨o, answer⟩

def Reaches (goal good : S.Op → Prop) (usual : Event S → Prop) (p : Program S ε α) : Prop :=
  Follows (toward goal good usual) (fun settled _ => settled) False p

section
variable {goal good : S.Op → Prop} {usual : Event S → Prop} {p : Program S ε α}

theorem toward_settled (p : Program S ε α) {settled : Prop} (holds : settled) :
    Follows (toward goal good usual) (fun settled _ => settled) settled p := by
  induction p generalizing settled with
  | pure a => exact holds
  | throw e => exact holds
  | op o next ih => exact ⟨.inl holds, fun answer => ih answer (.inl holds)⟩

theorem reaches_goal {o : S.Op} {next : S.Answer o → Program S ε α} (kind : goal o) (fine : good o) :
    Reaches goal good usual (.op o next) :=
  ⟨.inr fun _ => fine, fun _ => toward_settled _ (.inr (.inl kind))⟩

theorem reaches_pass {o : S.Op} {next : S.Answer o → Program S ε α} (plain : ¬ goal o)
    (rest : ∀ answer, usual ⟨o, answer⟩ → Reaches goal good usual (next answer)) :
    Reaches goal good usual (.op o next) := by
  refine ⟨.inr fun kind => absurd kind plain, fun answer => ?_⟩
  by_cases ordinary : usual ⟨o, answer⟩
  · have unsettled : (toward goal good usual).next False o answer = False :=
      eq_false (by simp [toward, plain, ordinary])
    rw [unsettled]
    exact rest answer ordinary
  · exact toward_settled _ (.inr (.inr ordinary))

theorem Reaches.bind (first : Reaches goal good usual p) (f : α → Program S ε β) :
    Reaches goal good usual (p >>= f) :=
  Follows.bind first (fun _ a holds => toward_settled (f a) holds) fun _ _ holds => holds

theorem Reaches.attempt (first : Reaches goal good usual p) (caught : ε → Except ε' γ) :
    Reaches goal good usual (p.attempt caught) := by
  refine follows_attempt.mpr (Follows.mono first ?_)
  rintro settled (e | a) holds
  · dsimp only
    split <;> exact holds
  · exact holds

/-- Where a program that is bound to come to a good operation stops, it stands before one. -/
theorem Reaches.stop (reaches : Reaches goal good usual p) {t : List (Event S)} {q : Program S ε α}
    (path : Path p t q) (stops : q.StopsAt goal) (before : ∀ e ∈ t, ¬ goal e.op)
    (ordinary : ∀ e ∈ t, usual e) : ∃ o next, q = .op o next ∧ goal o ∧ good o := by
  have open_ : ∀ (t : List (Event S)), (∀ e ∈ t, ¬ goal e.op) → (∀ e ∈ t, usual e) →
      (toward goal good usual).run False t = False := by
    intro t
    induction t with
    | nil => exact fun _ _ => rfl
    | cons e t ih =>
        intro plain ordinary
        have unsettled : (toward goal good usual).next False e.op e.answer = False :=
          eq_false (by simp [toward, plain e List.mem_cons_self, ordinary e List.mem_cons_self])
        rw [Monitor.run_cons, unsettled]
        exact ih (fun e member => plain e (List.mem_cons_of_mem _ member))
          fun e member => ordinary e (List.mem_cons_of_mem _ member)
  have rest := Follows.path reaches path
  rw [open_ t before ordinary] at rest
  cases q with
  | pure a => exact rest.elim
  | throw e => exact rest.elim
  | op o next =>
      rcases rest.1 with absurd_ | fine
      · exact absurd_.elim
      · exact ⟨o, next, rfl, stops o next rfl, fine (stops o next rfl)⟩

end

end Effect
