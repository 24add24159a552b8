import CmpIssuer.Effect.Program

/-!
Monitors. A monitor watches the operations of a program and keeps a state of
its own. A program follows a monitor when each of its operations is allowed in
the state reached, whatever the answers were. The rules follow the way programs
are put together, so one lemma for each function suffices.
-/
namespace Effect

variable {S : Signature} {ε ε' α β γ C : Type}

structure Monitor (S : Signature) (C : Type) where
  allows : C → S.Op → Prop
  next : C → (o : S.Op) → S.Answer o → C

def Monitor.run (M : Monitor S C) : C → List (Event S) → C
  | c, [] => c
  | c, e :: t => M.run (M.next c e.op e.answer) t

@[simp] theorem Monitor.run_nil (M : Monitor S C) (c : C) : M.run c [] = c := rfl

@[simp] theorem Monitor.run_cons (M : Monitor S C) (c : C) (e : Event S) (t : List (Event S)) :
    M.run c (e :: t) = M.run (M.next c e.op e.answer) t := rfl

theorem Monitor.run_append (M : Monitor S C) (c : C) (t u : List (Event S)) :
    M.run c (t ++ u) = M.run (M.run c t) u := by
  induction t generalizing c with
  | nil => rfl
  | cons e t ih => exact ih _

/-- Every operation is allowed where it happens and the outcome satisfies `Q`. -/
def Follows (M : Monitor S C) (Q : C → Except ε α → Prop) : C → Program S ε α → Prop
  | c, .pure a => Q c (.ok a)
  | c, .throw e => Q c (.error e)
  | c, .op o next => M.allows c o ∧ ∀ answer, Follows M Q (M.next c o answer) (next answer)

/-- The outcome demanded of the first part of a sequence: a value starts the rest. -/
def Then (M : Monitor S C) (Q : C → Except ε β → Prop) (f : α → Program S ε β) :
    C → Except ε α → Prop
  | c, .ok a => Follows M Q c (f a)
  | c, .error e => Q c (.error e)

variable {M : Monitor S C} {Q Q' : C → Except ε α → Prop} {c : C}

@[simp] theorem follows_pure {a : α} : Follows M Q c (.pure a) ↔ Q c (.ok a) := Iff.rfl

@[simp] theorem follows_pure' {a : α} : Follows M Q c (Pure.pure a) ↔ Q c (.ok a) := Iff.rfl

@[simp] theorem follows_throw {e : ε} : Follows M Q c (.throw e) ↔ Q c (.error e) := Iff.rfl

@[simp] theorem then_ok {Q : C → Except ε β → Prop} {f : α → Program S ε β} {a : α} :
    Then M Q f c (.ok a) ↔ Follows M Q c (f a) := Iff.rfl

@[simp] theorem then_error {Q : C → Except ε β → Prop} {f : α → Program S ε β} {e : ε} :
    Then M Q f c (.error e) ↔ Q c (.error e) := Iff.rfl

theorem follows_bind {Q : C → Except ε β → Prop} {p : Program S ε α} {f : α → Program S ε β} :
    Follows M Q c (p >>= f) ↔ Follows M (Then M Q f) c p := by
  induction p generalizing c with
  | pure a => rfl
  | throw e => rfl
  | op o next ih => exact and_congr_right fun _ => forall_congr' fun answer => ih answer

theorem Follows.mono {p : Program S ε α} (h : Follows M Q c p)
    (weaker : ∀ c r, Q c r → Q' c r) : Follows M Q' c p := by
  induction p generalizing c with
  | pure a => exact weaker _ _ h
  | throw e => exact weaker _ _ h
  | op o next ih => exact ⟨h.1, fun answer => ih answer (h.2 answer)⟩

theorem Follows.bind {R : C → Except ε β → Prop} {p : Program S ε α} {f : α → Program S ε β}
    (first : Follows M Q c p) (value : ∀ c a, Q c (.ok a) → Follows M R c (f a))
    (failure : ∀ c e, Q c (.error e) → R c (.error e)) : Follows M R c (p >>= f) := by
  refine follows_bind.mpr (first.mono ?_)
  rintro c (e | a) h
  · exact failure c e h
  · exact value c a h

theorem follows_attempt {caught : ε → Except ε' γ} {Q : C → Except ε' (Except γ α) → Prop}
    {p : Program S ε α} :
    Follows M Q c (p.attempt caught) ↔
      Follows M (fun c r => match r with
        | .ok a => Q c (.ok (.ok a))
        | .error e => match caught e with
          | .ok value => Q c (.ok (.error value))
          | .error e' => Q c (.error e')) c p := by
  induction p generalizing c with
  | pure a => rfl
  | throw e =>
      simp only [Program.attempt, follows_throw]
      cases caught e <;> rfl
  | op o next ih => exact and_congr_right fun _ => forall_congr' fun answer => ih answer

theorem follows_mapError {f : ε → ε'} {Q : C → Except ε' α → Prop} {p : Program S ε α} :
    Follows M Q c (p.mapError f) ↔ Follows M (fun c r => Q c (r.mapError f)) c p := by
  induction p generalizing c with
  | pure a => rfl
  | throw e => rfl
  | op o next ih => exact and_congr_right fun _ => forall_congr' fun answer => ih answer

@[simp] theorem follows_ofExcept {r : Except ε α} :
    Follows M Q c (Program.ofExcept r) ↔ Q c r := by
  cases r <;> rfl

/-- What remains of a program after some events follows from the state reached. -/
theorem Follows.path {p q : Program S ε α} {t : List (Event S)} (h : Follows M Q c p)
    (path : Path p t q) : Follows M Q (M.run c t) q := by
  induction path generalizing c with
  | refl p => exact h
  | step answer rest ih => exact ih (h.2 answer)

/-- A property of the monitor state that every allowed operation keeps holds at the end of a path. -/
theorem Follows.keeps {I : C → Prop} {p q : Program S ε α} {t : List (Event S)}
    (step : ∀ c o answer, I c → M.allows c o → I (M.next c o answer)) (h : Follows M Q c p)
    (path : Path p t q) (start : I c) : I (M.run c t) := by
  induction path generalizing c with
  | refl p => exact start
  | step answer rest ih => exact ih (h.2 answer) (step _ _ answer start h.1)

theorem Follows.stable {I : C → Prop} {p : Program S ε α}
    (step : ∀ c o answer, I c → M.allows c o → I (M.next c o answer)) (h : Follows M Q c p)
    (start : I c) : Follows M (fun c r => Q c r ∧ I c) c p := by
  induction p generalizing c with
  | pure a => exact ⟨h, start⟩
  | throw e => exact ⟨h, start⟩
  | op o next ih => exact ⟨h.1, fun answer => ih answer (h.2 answer) (step _ _ answer start h.1)⟩

/-- A program that follows one monitor follows every monitor that simulates it. -/
theorem Follows.simulate {C' : Type} {M' : Monitor S C'} {R : C → C' → Prop} {c' : C'}
    {p : Program S ε α}
    (step : ∀ c c' o, R c c' → M.allows c o →
      M'.allows c' o ∧ ∀ answer, R (M.next c o answer) (M'.next c' o answer))
    (h : Follows M Q c p) (related : R c c') :
    Follows M' (fun c' r => ∃ c, R c c' ∧ Q c r) c' p := by
  induction p generalizing c c' with
  | pure a => exact ⟨c, related, h⟩
  | throw e => exact ⟨c, related, h⟩
  | op o next ih =>
      obtain ⟨allowed, keeps⟩ := step c c' o related h.1
      exact ⟨allowed, fun answer => ih answer (h.2 answer) (keeps answer)⟩

/-- The monitor that allows the operations of one kind and only keeps their record. -/
def recorder (quiet : S.Op → Prop) : Monitor S (List (Event S)) where
  allows _ o := quiet o
  next t o answer := t ++ [⟨o, answer⟩]

theorem Follows.recorded {quiet : S.Op → Prop} {Q : List (Event S) → Except ε α → Prop}
    {t : List (Event S)} {p : Program S ε α} (h : Follows (recorder quiet) Q t p) :
    Follows (recorder quiet)
      (fun u r => Q u r ∧ ∃ v, u = t ++ v ∧ Path p v (Program.ofExcept r)) t p := by
  induction p generalizing t with
  | pure a => exact ⟨h, [], by simp, .refl _⟩
  | throw e => exact ⟨h, [], by simp, .refl _⟩
  | op o next ih =>
      refine ⟨h.1, fun answer => (ih answer (h.2 answer)).mono ?_⟩
      rintro u r ⟨holds, v, rfl, path⟩
      exact ⟨holds, ⟨o, answer⟩ :: v, by simp [recorder], .step answer path⟩

/-- A program that follows the recorder of one kind of operations performs no others. -/
theorem Follows.quiet {quiet : S.Op → Prop} {Q : List (Event S) → Except ε α → Prop}
    {u t : List (Event S)} {p q : Program S ε α} (h : Follows (recorder quiet) Q u p)
    (path : Path p t q) : ∀ e ∈ t, quiet e.op := by
  induction path generalizing u with
  | refl p => rintro _ ⟨⟩
  | step answer rest ih =>
      intro e member
      rcases List.mem_cons.mp member with rfl | later
      · exact h.1
      · exact ih (h.2 answer) e later

theorem follows_grows (t : List (Event S)) (p : Program S ε α) :
    Follows (recorder fun _ => True) (fun u _ => t <+: u) t p := by
  have grows : ∀ (p : Program S ε α) (u : List (Event S)), t <+: u →
      Follows (recorder fun _ => True) (fun u _ => t <+: u) u p := by
    intro p
    induction p with
    | pure a => exact fun u kept => kept
    | throw e => exact fun u kept => kept
    | op o next ih => exact fun u kept => ⟨trivial, fun answer => ih answer _ (kept.trans (List.prefix_append ..))⟩
  exact grows p t List.prefix_rfl

/-- What is assumed of the whole record can be assumed of the record so far. -/
theorem follows_assuming {P : List (Event S) → Prop} {Q : List (Event S) → Except ε α → Prop}
    {t : List (Event S)} {p : Program S ε α} (closed : ∀ t u, t <+: u → P u → P t)
    (h : P t → Follows (recorder fun _ => True) (fun u r => P u → Q u r) t p) :
    Follows (recorder fun _ => True) (fun u r => P u → Q u r) t p := by
  by_cases holds : P t
  · exact h holds
  · exact (follows_grows t p).mono fun u r kept all => absurd (closed t u kept all) holds

/-- A program that asks only for what is known to have one answer has one outcome. -/
theorem Follows.determined {quiet : S.Op → Prop} {known : (o : S.Op) → S.Answer o → Prop}
    {Q : List (Event S) → Except ε α → Prop} {u t : List (Event S)} {p : Program S ε α} {r : Except ε α}
    (unique : ∀ o a b, quiet o → known o a → known o b → a = b) (h : Follows (recorder quiet) Q u p)
    (path : Path p t (.ofExcept r)) (answered : ∀ e ∈ t, known e.op e.answer) :
    Follows (recorder quiet) (fun v r' => (∀ e ∈ v, known e.op e.answer) → r' = r) u p := by
  generalize ended : (Program.ofExcept r : Program S ε α) = q at path
  induction path generalizing u with
  | refl p =>
      subst ended
      exact follows_ofExcept.mpr fun _ => rfl
  | @step o next answer t q rest ih =>
      refine ⟨h.1, fun other => ?_⟩
      by_cases same : known o other
      · cases unique o other answer h.1 same (answered ⟨o, answer⟩ List.mem_cons_self)
        exact ih (h.2 answer) (fun e member => answered e (List.mem_cons_of_mem _ member)) ended
      · -- An answer of another kind stays on record.
        have seen := (h.2 other).stable (I := fun v => (⟨o, other⟩ : Event S) ∈ v)
          (fun _ _ _ member _ => List.mem_append_left _ member)
          (List.mem_append_right _ List.mem_cons_self)
        exact seen.mono fun v r' holds all => absurd (all _ holds.2) same

theorem Follows.after {quiet quiet' : S.Op → Prop} {Q : List (Event S) → Except ε α → Prop}
    {p : Program S ε α} (h : Follows (recorder quiet) Q [] p) (weaker : ∀ o, quiet o → quiet' o)
    (t : List (Event S)) :
    Follows (recorder quiet') (fun v r => ∃ u, v = t ++ u ∧ Q u r ∧ ∀ e ∈ u, quiet e.op) t p := by
  have related : Follows (recorder quiet') _ t p := h.simulate
    (R := fun u v => v = t ++ u ∧ ∀ e ∈ u, quiet e.op)
    (by
      rintro u _ o ⟨rfl, quiets⟩ allowed
      refine ⟨weaker o allowed, fun answer => ⟨List.append_assoc .., fun e member => ?_⟩⟩
      rcases List.mem_append.mp member with before | last
      · exact quiets e before
      · cases List.mem_singleton.mp last
        exact allowed)
    ⟨(List.append_nil t).symm, by rintro _ ⟨⟩⟩
  refine related.mono ?_
  rintro v r ⟨u, ⟨rfl, quiets⟩, holds⟩
  exact ⟨u, rfl, holds, quiets⟩

theorem Monitor.run_record {M : Monitor S (List (Event S))}
    (appends : ∀ t o answer, M.next t o answer = t ++ [⟨o, answer⟩]) (u t : List (Event S)) :
    M.run u t = u ++ t := by
  induction t generalizing u with
  | nil => simp
  | cons e t ih => rw [Monitor.run_cons, appends, ih, List.append_assoc, List.singleton_append]

theorem recorder_run (quiet : S.Op → Prop) (u t : List (Event S)) : (recorder quiet).run u t = u ++ t :=
  Monitor.run_record (fun _ _ _ => rfl) u t

/-- The outcome of a program that follows a recorder, by what it recorded. -/
theorem Follows.outcome {quiet : S.Op → Prop} {Q : List (Event S) → Except ε α → Prop}
    {t : List (Event S)} {p : Program S ε α} {r : Except ε α} (h : Follows (recorder quiet) Q [] p)
    (path : Path p t (.ofExcept r)) : Q t r := by
  have ended := follows_ofExcept.mp (h.path path)
  rwa [recorder_run, List.nil_append] at ended

theorem Follows.allows {p : Program S ε α} {o : S.Op} {next : S.Answer o → Program S ε α}
    {t : List (Event S)} (h : Follows M Q c p) (path : Path p t (.op o next)) :
    M.allows (M.run c t) o := (h.path path).1

end Effect
