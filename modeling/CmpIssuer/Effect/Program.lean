import Mathlib.Logic.Basic
import Mathlib.Data.List.Basic

/-!
Programs that interact with an outside world. A program either returns, fails
or performs one operation and continues with the answer. The operations and
their answers are a parameter, and no meaning is attached to them here: a path
records what was asked and answered, and a monitor says which operations a
program may perform after which answers.
-/
namespace Effect

/-- The operations of an interface and the type of the answer to each. -/
structure Signature where
  Op : Type
  Answer : Op → Type

variable {S : Signature} {ε ε' α β γ : Type}

inductive Program (S : Signature) (ε α : Type) where
  | pure (a : α)
  | throw (e : ε)
  | op (o : S.Op) (next : S.Answer o → Program S ε α)

namespace Program

def bind (p : Program S ε α) (f : α → Program S ε β) : Program S ε β :=
  match p with
  | .pure a => f a
  | .throw e => .throw e
  | .op o next => .op o fun answer => (next answer).bind f

instance : Monad (Program S ε) where
  pure := .pure
  bind := bind

/-- A single operation whose answer is the result. -/
def perform (o : S.Op) : Program S ε (S.Answer o) := .op o .pure

/-- Turns the failures that `caught` returns as values into results. The others stay failures. -/
def attempt (caught : ε → Except ε' γ) : Program S ε α → Program S ε' (Except γ α)
  | .pure a => .pure (.ok a)
  | .throw e =>
      match caught e with
      | .ok value => .pure (.error value)
      | .error e' => .throw e'
  | .op o next => .op o fun answer => (next answer).attempt caught

def mapError (f : ε → ε') : Program S ε α → Program S ε' α
  | .pure a => .pure a
  | .throw e => .throw (f e)
  | .op o next => .op o fun answer => (next answer).mapError f

/-- A computation without operations as a program. -/
def ofExcept : Except ε α → Program S ε α
  | .ok a => .pure a
  | .error e => .throw e

/-- How a program has ended, unless an operation is left. -/
def outcome? : Program S ε α → Option (Except ε α)
  | .pure a => some (.ok a)
  | .throw e => some (.error e)
  | .op _ _ => none

theorem eq_ofExcept_of_outcome {p : Program S ε α} {r : Except ε α} (h : p.outcome? = some r) :
    p = .ofExcept r := by
  cases p <;> cases h <;> rfl

def next? : Program S ε α → Option S.Op
  | .op o _ => some o
  | _ => none

theorem exists_op_of_next {p : Program S ε α} {o : S.Op} (h : p.next? = some o) :
    ∃ next, p = .op o next := by
  cases p <;> cases h
  exact ⟨_, rfl⟩

/-- The result of a program in a world that answers each operation alike at all times. -/
def eval (answer : (o : S.Op) → S.Answer o) : Program S ε α → Except ε α
  | .pure a => .ok a
  | .throw e => .error e
  | .op o next => (next (answer o)).eval answer

@[simp] theorem pure_bind (a : α) (f : α → Program S ε β) :
    (Pure.pure a : Program S ε α) >>= f = f a := rfl

@[simp] theorem throw_bind (e : ε) (f : α → Program S ε β) :
    (Program.throw e : Program S ε α) >>= f = .throw e := rfl

@[simp] theorem op_bind (o : S.Op) (next : S.Answer o → Program S ε α) (f : α → Program S ε β) :
    (Program.op o next) >>= f = .op o fun answer => next answer >>= f := rfl

theorem eval_bind (answer : (o : S.Op) → S.Answer o) (p : Program S ε α) (f : α → Program S ε β) :
    (p >>= f).eval answer = (p.eval answer).bind fun a => (f a).eval answer := by
  induction p with
  | pure a => rfl
  | throw e => rfl
  | op o next ih => exact ih (answer o)

theorem eval_mapError (answer : (o : S.Op) → S.Answer o) (f : ε → ε') (p : Program S ε α) :
    (p.mapError f).eval answer = (p.eval answer).mapError f := by
  induction p with
  | pure a => rfl
  | throw e => rfl
  | op o next ih => exact ih (answer o)

end Program

/-- An operation together with the answer it received. -/
structure Event (S : Signature) where
  op : S.Op
  answer : S.Answer op

/-- `Path p t q`: asking and answering `t` takes the program `p` to `q`. -/
inductive Path : Program S ε α → List (Event S) → Program S ε α → Prop
  | refl (p : Program S ε α) : Path p [] p
  | step {o : S.Op} {next : S.Answer o → Program S ε α} (answer : S.Answer o)
      {t : List (Event S)} {q : Program S ε α} (rest : Path (next answer) t q) :
      Path (.op o next) (⟨o, answer⟩ :: t) q

namespace Path

theorem trans {p q r : Program S ε α} {t u : List (Event S)} (first : Path p t q)
    (second : Path q u r) : Path p (t ++ u) r := by
  induction first with
  | refl p => exact second
  | step answer rest ih => exact .step answer (ih second)

theorem append_inv {p r : Program S ε α} {t u : List (Event S)} (path : Path p (t ++ u) r) :
    ∃ q, Path p t q ∧ Path q u r := by
  induction t generalizing p with
  | nil => exact ⟨p, .refl p, path⟩
  | cons e t ih =>
      cases path with
      | step answer rest =>
          obtain ⟨q, first, second⟩ := ih rest
          exact ⟨q, .step answer first, second⟩

theorem reached {p q : Program S ε α} {t u : List (Event S)} {e : Event S} (path : Path p t q)
    (passed : u ++ [e] <+: t) : ∃ next, Path p u (.op e.op next) := by
  obtain ⟨later, rfl⟩ := passed
  rw [List.append_assoc] at path
  obtain ⟨r, first, rest⟩ := path.append_inv
  cases rest with
  | step answer rest => exact ⟨_, first⟩

theorem bind {p q : Program S ε α} {t : List (Event S)} (path : Path p t q)
    (f : α → Program S ε β) : Path (p >>= f) t (q >>= f) := by
  induction path with
  | refl p => exact .refl _
  | step answer rest ih => exact .step answer ih

theorem bind_pure {p : Program S ε α} {q : Program S ε β} {f : α → Program S ε β} {a : α}
    {t u : List (Event S)} (first : Path p t (.pure a)) (rest : Path (f a) u q) :
    Path (p >>= f) (t ++ u) q := (first.bind f).trans rest

theorem mapError {p q : Program S ε α} {t : List (Event S)} (path : Path p t q) (f : ε → ε') :
    Path (p.mapError f) t (q.mapError f) := by
  induction path with
  | refl p => exact .refl _
  | step answer rest ih => exact .step answer ih

theorem attempt {p q : Program S ε α} {t : List (Event S)} (path : Path p t q)
    (caught : ε → Except ε' γ) : Path (p.attempt caught) t (q.attempt caught) := by
  induction path with
  | refl p => exact .refl _
  | step answer rest ih => exact .step answer ih

/-- A way through a sequence stays in the first part or passes through its value. -/
theorem bind_inv {p : Program S ε α} {f : α → Program S ε β} {t : List (Event S)} {q : Program S ε β}
    (path : Path (p >>= f) t q) : (∃ p', Path p t p' ∧ q = p' >>= f) ∨
      ∃ a u v, t = u ++ v ∧ Path p u (.pure a) ∧ Path (f a) v q := by
  induction p generalizing t with
  | pure a => exact .inr ⟨a, [], t, rfl, .refl _, path⟩
  | throw e =>
      cases path
      exact .inl ⟨.throw e, .refl _, rfl⟩
  | op o next ih =>
      cases path with
      | refl => exact .inl ⟨.op o next, .refl _, rfl⟩
      | step answer rest =>
          rcases ih answer rest with ⟨p', first, same⟩ | ⟨a, u, v, rfl, first, second⟩
          · exact .inl ⟨p', .step answer first, same⟩
          · exact .inr ⟨a, _ :: u, v, rfl, .step answer first, second⟩

theorem bind_op {p : Program S ε α} {f : α → Program S ε β} {t : List (Event S)} {o : S.Op}
    {next : S.Answer o → Program S ε β} (path : Path (p >>= f) t (.op o next)) :
    (∃ next', Path p t (.op o next')) ∨
      ∃ a u v, t = u ++ v ∧ Path p u (.pure a) ∧ Path (f a) v (.op o next) := by
  rcases path.bind_inv with ⟨p', first, same⟩ | later
  · cases p' with
    | pure a => exact .inr ⟨a, t, [], (List.append_nil t).symm, first, same ▸ .refl _⟩
    | throw e => cases same
    | op o' next' =>
        cases same
        exact .inl ⟨next', first⟩
  · exact .inr later

theorem mapError_pure {p : Program S ε α} {f : ε → ε'} {t : List (Event S)} {a : α}
    (path : Path (p.mapError f) t (.pure a)) : Path p t (.pure a) := by
  induction p generalizing t with
  | pure b =>
      cases path
      exact .refl _
  | throw e => cases path
  | op o next ih =>
      cases path with
      | step answer rest => exact .step answer (ih answer rest)

theorem attempt_inv {p : Program S ε α} {caught : ε → Except ε' γ} {t : List (Event S)}
    {q : Program S ε' (Except γ α)} (path : Path (p.attempt caught) t q) :
    ∃ p', Path p t p' ∧ q = p'.attempt caught := by
  induction p generalizing t with
  | pure a =>
      cases path
      exact ⟨.pure a, .refl _, rfl⟩
  | throw e =>
      refine ⟨.throw e, ?_⟩
      unfold Program.attempt at path ⊢
      split at path <;> cases path
      · exact ⟨.refl _, by simp [*]⟩
      · exact ⟨.refl _, by simp [*]⟩
  | op o next ih =>
      cases path with
      | refl => exact ⟨.op o next, .refl _, rfl⟩
      | step answer rest =>
          obtain ⟨p', inside, same⟩ := ih answer rest
          exact ⟨p', .step answer inside, same⟩

theorem deterministic {p q r : Program S ε α} {t : List (Event S)} (first : Path p t q)
    (second : Path p t r) : q = r := by
  induction first with
  | refl p => cases second; rfl
  | step answer rest ih =>
      cases second with
      | step _ rest' => exact ih rest'

theorem answered {p : Program S ε α} {t : List (Event S)} {o : S.Op} {next : S.Answer o → Program S ε α}
    (path : Path p t (.op o next)) (answer : S.Answer o) : Path p (t ++ [⟨o, answer⟩]) (next answer) :=
  path.trans (.step answer (.refl _))

theorem answered_eq {p q : Program S ε α} {t : List (Event S)} {o : S.Op} {next : S.Answer o → Program S ε α}
    {answer : S.Answer o} (path : Path p t (.op o next)) (rest : Path p (t ++ [⟨o, answer⟩]) q) :
    q = next answer :=
  rest.deterministic (path.answered answer)

end Path

end Effect
