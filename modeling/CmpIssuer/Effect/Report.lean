import CmpIssuer.Effect.World

/-!
Programs that take notes. A note is an operation without an answer, so a
program cannot act on it. Erasing the notes of a program leaves a program that
asks and answers the same, and every way through the one is a way through the
other. A notebook keeps what was asked and what was noted apart, and its rules
are those of monitors.
-/
namespace Effect

variable {S : Signature} {N σ ε α β κ C : Type}

@[reducible] def Signature.noting (S : Signature) (N : Type) : Signature where
  Op := S.Op ⊕ N
  Answer := Sum.elim S.Answer fun _ => Unit

namespace Program

def lift : Program S ε α → Program (S.noting N) ε α
  | .pure a => .pure a
  | .throw e => .throw e
  | .op o next => .op (.inl o) fun answer => (next answer).lift

def note (n : N) : Program (S.noting N) ε Unit := .op (.inr n) .pure

def noteAll (notes : List N) (p : Program (S.noting N) ε α) : Program (S.noting N) ε α :=
  match notes with
  | [] => p
  | n :: rest => .op (.inr n) fun _ => noteAll rest p

def onFailure (notes : ε → List N) : Program (S.noting N) ε α → Program (S.noting N) ε α
  | .pure a => .pure a
  | .throw e => noteAll (notes e) (.throw e)
  | .op o next => .op o fun answer => (next answer).onFailure notes

def erase : Program (S.noting N) ε α → Program S ε α
  | .pure a => .pure a
  | .throw e => .throw e
  | .op (.inl o) next => .op o fun answer => (next answer).erase
  | .op (.inr _) next => (next ()).erase

@[simp] theorem erase_pure (a : α) : (.pure a : Program (S.noting N) ε α).erase = .pure a := rfl

@[simp] theorem erase_throw (e : ε) : (.throw e : Program (S.noting N) ε α).erase = .throw e := rfl

@[simp] theorem erase_note_bind (n : N) (f : Unit → Program (S.noting N) ε α) :
    (note n >>= f).erase = (f ()).erase := rfl

@[simp] theorem erase_lift (p : Program S ε α) : (p.lift : Program (S.noting N) ε α).erase = p := by
  induction p with
  | pure a => rfl
  | throw e => rfl
  | op o next ih => exact congrArg (Program.op o) (funext ih)

@[simp] theorem erase_bind (p : Program (S.noting N) ε α) (f : α → Program (S.noting N) ε β) :
    (p >>= f).erase = p.erase >>= fun a => (f a).erase := by
  induction p with
  | pure a => rfl
  | throw e => rfl
  | op o next ih =>
      cases o with
      | inl o => exact congrArg (Program.op o) (funext ih)
      | inr n => exact ih ()

theorem erase_lift_bind {p : Program S ε α} {f : α → Program (S.noting N) ε β} {g : α → Program S ε β}
    (rest : ∀ a, (f a).erase = g a) : (p.lift >>= f).erase = p >>= g := by
  rw [erase_bind, erase_lift, funext rest]

theorem erase_noteAll (notes : List N) (p : Program (S.noting N) ε α) : (noteAll notes p).erase = p.erase := by
  induction notes with
  | nil => rfl
  | cons n rest ih => exact ih

@[simp] theorem erase_onFailure (notes : ε → List N) (p : Program (S.noting N) ε α) :
    (p.onFailure notes).erase = p.erase := by
  induction p with
  | pure a => rfl
  | throw e => exact erase_noteAll _ _
  | op o next ih =>
      cases o with
      | inl o => exact congrArg (Program.op o) (funext ih)
      | inr n => exact ih ()

end Program

def Event.plain? : Event (S.noting N) → Option (Event S)
  | ⟨.inl o, answer⟩ => some ⟨o, answer⟩
  | ⟨.inr _, _⟩ => none

def Event.note? : Event (S.noting N) → Option N
  | ⟨.inl _, _⟩ => none
  | ⟨.inr n, _⟩ => some n

def plainEvents (t : List (Event (S.noting N))) : List (Event S) := t.filterMap Event.plain?

def notesTaken (t : List (Event (S.noting N))) : List N := t.filterMap Event.note?

theorem plainEvents_append (t u : List (Event (S.noting N))) :
    plainEvents (t ++ u) = plainEvents t ++ plainEvents u := List.filterMap_append

theorem notesTaken_append (t u : List (Event (S.noting N))) :
    notesTaken (t ++ u) = notesTaken t ++ notesTaken u := List.filterMap_append

/-- A way through a program is a way through the program without notes. -/
theorem Path.erase {p q : Program (S.noting N) ε α} {t : List (Event (S.noting N))} (path : Path p t q) :
    Path p.erase (plainEvents t) q.erase := by
  induction path with
  | refl p => exact .refl _
  | @step o next answer t q rest ih =>
      cases o with
      | inl o => exact @Path.step S ε α o (fun answer => (next answer).erase) answer _ _ ih
      | inr n => exact ih

/-- Every way through a program without notes is one through the program, with the notes it takes. -/
theorem Path.annotated {p : Program (S.noting N) ε α} {t : List (Event S)} {r : Except ε α}
    (path : Path p.erase t (.ofExcept r)) : ∃ u, Path p u (.ofExcept r) ∧ plainEvents u = t := by
  induction p generalizing t with
  | pure a =>
      cases r with
      | ok b => cases path; exact ⟨[], .refl _, rfl⟩
      | error e => cases path
  | throw e =>
      cases r with
      | ok b => cases path
      | error e => cases path; exact ⟨[], .refl _, rfl⟩
  | op o next ih =>
      cases o with
      | inr n =>
          obtain ⟨u, rest, same⟩ := ih () path
          exact ⟨⟨.inr n, ()⟩ :: u, @Path.step (S.noting N) ε α (.inr n) next () _ _ rest, same⟩
      | inl o =>
          change Path (Program.op o fun answer => (next answer).erase) t (.ofExcept r) at path
          generalize ended : (Program.ofExcept r : Program S ε α) = q at path
          cases path with
          | refl => cases r <;> cases ended
          | step answer rest =>
              subst ended
              obtain ⟨u, noted, rfl⟩ := ih answer rest
              exact ⟨⟨.inl o, answer⟩ :: u, @Path.step (S.noting N) ε α (.inl o) next answer _ _ noted, rfl⟩

def Monitor.noting (M : Monitor S C) (N : Type) : Monitor (S.noting N) (C × List N) where
  allows
    | (c, _), .inl o => M.allows c o
    | _, .inr _ => True
  next
    | (c, notes), .inl o, answer => (M.next c o answer, notes)
    | (c, notes), .inr n, _ => (c, notes ++ [n])

theorem Monitor.noting_run (M : Monitor S C) (c : C) (notes : List N) (t : List (Event (S.noting N))) :
    (M.noting N).run (c, notes) t = (M.run c (plainEvents t), notes ++ notesTaken t) := by
  induction t generalizing c notes with
  | nil => simp [plainEvents, notesTaken]
  | cons e t ih =>
      obtain ⟨o | n, answer⟩ := e
      · exact ih (M.next c o answer) notes
      · have rest := ih c (notes ++ [n])
        rw [List.append_assoc] at rest
        exact rest

section
variable {M : Monitor S C} {Q : C × List N → Except ε α → Prop} {c : C} {notes : List N}

theorem follows_lift {p : Program S ε α} :
    Follows (M.noting N) Q (c, notes) p.lift ↔ Follows M (fun c r => Q (c, notes) r) c p := by
  induction p generalizing c with
  | pure a => rfl
  | throw e => rfl
  | op o next ih => exact and_congr_right fun _ => forall_congr' fun answer => ih answer

theorem Follows.lift_bind {R : C → Except ε β → Prop} {p : Program S ε β} {f : β → Program (S.noting N) ε α}
    (first : Follows M R c p) (value : ∀ c b, R c (.ok b) → Follows (M.noting N) Q (c, notes) (f b))
    (failure : ∀ c e, R c (.error e) → Q (c, notes) (.error e)) :
    Follows (M.noting N) Q (c, notes) (p.lift >>= f) := by
  refine follows_bind.mpr (follows_lift.mpr (first.mono ?_))
  rintro c (e | b) holds
  · exact failure c e holds
  · exact value c b holds

theorem follows_note_bind {n : N} {f : Unit → Program (S.noting N) ε α} :
    Follows (M.noting N) Q (c, notes) (Program.note n >>= f) ↔
      Follows (M.noting N) Q (c, notes ++ [n]) (f ()) :=
  ⟨fun h => h.2 (), fun h => ⟨trivial, fun _ => h⟩⟩

theorem follows_noteAll {taken : List N} {p : Program (S.noting N) ε α} :
    Follows (M.noting N) Q (c, notes) (Program.noteAll taken p) ↔
      Follows (M.noting N) Q (c, notes ++ taken) p := by
  induction taken generalizing notes with
  | nil => rw [List.append_nil]; rfl
  | cons n rest ih =>
      rw [List.append_cons]
      exact ⟨fun h => ih.mp (h.2 ()), fun h => ⟨trivial, fun _ => ih.mpr h⟩⟩

theorem Follows.onFailure {taken : ε → List N} {R : C × List N → Except ε α → Prop} {c : C × List N}
    {p : Program (S.noting N) ε α} (h : Follows (M.noting N) R c p)
    (value : ∀ c a, R c (.ok a) → Q c (.ok a))
    (failure : ∀ c e, R c (.error e) → Q (c.1, c.2 ++ taken e) (.error e)) :
    Follows (M.noting N) Q c (p.onFailure taken) := by
  induction p generalizing c with
  | pure a => exact value c a h
  | throw e => exact follows_noteAll.mpr (failure c e h)
  | op o next ih => exact ⟨h.1, fun answer => ih answer (h.2 answer)⟩

theorem Follows.noted {p : Program (S.noting N) ε α} {t : List (Event (S.noting N))} {r : Except ε α}
    (h : Follows (M.noting N) Q (c, []) p) (path : Path p t (.ofExcept r)) :
    Q (M.run c (plainEvents t), notesTaken t) r := by
  have ended := follows_ofExcept.mp (h.path path)
  rwa [Monitor.noting_run, List.nil_append] at ended

end

/-- Where every operation has an answer, every way through a program goes on to an outcome. -/
theorem Path.completed (answers : ∀ o, Nonempty (S.Answer o)) {p q : Program S ε α} {t : List (Event S)}
    (path : Path p t q) : ∃ u r, Path p (t ++ u) (.ofExcept r) := by
  induction path with
  | refl p =>
      induction p with
      | pure a => exact ⟨[], .ok a, .refl _⟩
      | throw e => exact ⟨[], .error e, .refl _⟩
      | op o next ih =>
          obtain ⟨answer⟩ := answers o
          obtain ⟨u, r, rest⟩ := ih answer
          exact ⟨_, r, .step answer rest⟩
  | step answer rest ih =>
      obtain ⟨u, r, rest⟩ := ih
      exact ⟨u, r, .step answer rest⟩

/-- A world with a notebook that all threads share. -/
def World.noting (W : World S σ) (N : Type) : World (S.noting N) (σ × List N) where
  act
    | i, (s, notes), .inl o, answer, (s', notes') => W.act i s o answer s' ∧ notes' = notes
    | _, (s, notes), .inr n, _, (s', notes') => s' = s ∧ notes' = notes ++ [n]
  outside
    | (s, notes), (s', notes') => W.outside s s' ∧ notes' = notes

def Thread.erase (thread : Thread (S.noting N) ε α κ) : Thread S ε α κ :=
  ⟨thread.job, plainEvents thread.trace, thread.program.erase⟩

def Pool.erase (pool : Pool (S.noting N) (σ × List N) ε α κ) : Pool S σ ε α κ :=
  ⟨pool.world.1, pool.threads.map Thread.erase⟩

section
variable {W : World S σ} {body : κ → Program (S.noting N) ε α} {jobs : κ → Prop} {turn : Nat → Nat → Prop}
  {w : σ} {pool : Pool (S.noting N) (σ × List N) ε α κ}

theorem Pool.Reach.erase (reached : Pool.Reach (W.noting N) body jobs turn (w, []) pool) :
    Pool.Reach W (fun job => (body job).erase) jobs turn w pool.erase := by
  induction reached with
  | init => exact .init
  | step reached next ih =>
      cases next with
      | spawn job wanted =>
          have spawned := Pool.Reach.step ih (.spawn job wanted)
          simpa [Pool.erase, Thread.erase, plainEvents] using spawned
      | @act s s' threads i job t o next answer thread ready acted =>
          have found : (threads.map Thread.erase)[i]? = some ⟨job, plainEvents t, (Program.op o next).erase⟩ := by
            rw [List.getElem?_map, thread]
            rfl
          rw [Pool.erase, List.map_set, Thread.erase, plainEvents_append]
          cases o with
          | inl o =>
              have ready : turn (threads.map Thread.erase).length i := by rwa [List.length_map]
              exact .step ih (@Pool.Step.act S σ ε α κ W _ jobs turn _ _ _ i job (plainEvents t) o
                (fun answer => (next answer).erase) answer found ready acted.1)
          | inr n =>
              -- A note is no step of the pool without notes.
              obtain ⟨bound, same⟩ := List.getElem?_eq_some_iff.mp found
              have unmoved : s'.1 = s.1 := acted.1
              have kept : (threads.map Thread.erase).set i ⟨job, plainEvents t, (next answer).erase⟩ =
                  threads.map Thread.erase :=
                (congrArg _ same.symm).trans (List.set_getElem_self bound)
              have unnoted : plainEvents t ++ plainEvents [⟨.inr n, answer⟩] = plainEvents t :=
                List.append_nil _
              rw [unmoved, unnoted, kept]
              exact ih
      | outside changed => exact .step ih (.outside changed.1)

theorem perm_flatMap_set {f : α → List β} {l : List α} {i : Nat} {a b : α} {more : List β}
    (found : l[i]? = some a) (grown : f b = f a ++ more) :
    ((l.set i b).flatMap f).Perm (l.flatMap f ++ more) := by
  induction l generalizing i with
  | nil => simp at found
  | cons x l ih =>
      cases i with
      | zero =>
          obtain rfl : x = a := by simpa using found
          simp only [List.set_cons_zero, List.flatMap_cons, grown, List.append_assoc]
          exact List.perm_append_comm.append_left _
      | succ i =>
          simp only [List.set_cons_succ, List.flatMap_cons, List.append_assoc]
          exact (ih (by simpa using found)).append_left _

theorem Pool.Reach.notes (reached : Pool.Reach (W.noting N) body jobs turn (w, []) pool) :
    pool.world.2.Perm (pool.threads.flatMap fun thread => notesTaken thread.trace) := by
  induction reached with
  | init => exact .refl _
  | step reached next ih =>
      cases next with
      | spawn job wanted => simpa [notesTaken] using ih
      | @act s s' threads i job t o next answer thread ready acted =>
          have grown := perm_flatMap_set (f := fun thread => notesTaken thread.trace)
            (b := ⟨job, t ++ [⟨o, answer⟩], next answer⟩) thread (notesTaken_append t [⟨o, answer⟩])
          refine List.Perm.trans ?_ grown.symm
          cases o with
          | inl o =>
              have kept : s'.2 = s.2 := acted.2
              rw [kept]
              exact ih.trans (List.append_nil _ ▸ .refl _)
          | inr n =>
              have noted : s'.2 = s.2 ++ [n] := acted.2
              rw [noted]
              exact ih.append_right [n]
      | @outside s s' threads changed =>
          have kept : s'.2 = s.2 := changed.2
          rw [kept]
          exact ih

end

end Effect
