import CmpIssuer.Effect.Monitor

/-!
How programs end. A monitor that forbids nothing and remembers nothing leaves
the outcome, so the rules for the values and failures of a program are those of
monitors.
-/
namespace Effect

variable {S : Signature} {ε ε' α β γ : Type}

def idle : Monitor S Unit where
  allows _ _ := True
  next _ _ _ := ()

/-- A value in `V` or a failure in `F`. -/
def Settles (V : α → Prop) (F : ε → Prop) : Except ε α → Prop
  | .ok a => V a
  | .error e => F e

/-- Whatever the answers are, a program ends with a value in `V` or a failure in `F`. -/
def Ends (V : α → Prop) (F : ε → Prop) (p : Program S ε α) : Prop :=
  Follows idle (fun _ => Settles V F) () p

variable {V V' : α → Prop} {W : β → Prop} {F F' : ε → Prop} {p : Program S ε α}

theorem ends_pure {a : α} : Ends V F (.pure a : Program S ε α) ↔ V a := Iff.rfl

theorem ends_throw {e : ε} : Ends V F (.throw e : Program S ε α) ↔ F e := Iff.rfl

theorem ends_perform_bind {o : S.Op} {f : S.Answer o → Program S ε β} :
    Ends W F (Program.perform o >>= f) ↔ ∀ answer, Ends W F (f answer) :=
  ⟨fun h => h.2, fun h => ⟨trivial, h⟩⟩

theorem Ends.mono (h : Ends V F p) (values : ∀ a, V a → V' a) (failures : ∀ e, F e → F' e) :
    Ends V' F' p := by
  refine Follows.mono h ?_
  rintro _ (e | a) settled
  · exact failures e settled
  · exact values a settled

theorem Ends.bind {f : α → Program S ε β} (first : Ends V F p) (rest : ∀ a, V a → Ends W F (f a)) :
    Ends W F (p >>= f) :=
  Follows.bind first (fun _ a value => rest a value) fun _ _ failure => failure

theorem ends_mapError {f : ε → ε'} {F : ε' → Prop} : Ends V F (p.mapError f) ↔ Ends V (F ∘ f) p := by
  unfold Ends
  rw [follows_mapError]
  constructor <;> intro h <;> refine h.mono ?_ <;> rintro _ (e | a) settled <;> exact settled

theorem ends_attempt {caught : ε → Except ε' γ} {V : Except γ α → Prop} {F : ε' → Prop} :
    Ends V F (p.attempt caught) ↔
      Ends (fun a => V (.ok a)) (fun e => Settles (fun value => V (.error value)) F (caught e)) p := by
  unfold Ends
  rw [follows_attempt]
  constructor
  · intro h
    refine h.mono ?_
    rintro _ (e | a) settled
    · show Settles _ _ (caught e)
      dsimp only at settled
      cases same : caught e <;> rw [same] at settled <;> exact settled
    · exact settled
  · intro h
    refine h.mono ?_
    rintro _ (e | a) settled
    · change Settles _ _ (caught e) at settled
      dsimp only
      cases same : caught e <;> rw [same] at settled <;> exact settled
    · exact settled

theorem Ends.and (first : Ends V F p) (second : Ends V' F' p) :
    Ends (fun a => V a ∧ V' a) (fun e => F e ∧ F' e) p := by
  induction p with
  | pure a => exact ⟨first, second⟩
  | throw e => exact ⟨first, second⟩
  | op o next ih => exact ⟨trivial, fun answer => ih answer (first.2 answer) (second.2 answer)⟩

theorem Follows.ends {C : Type} {M : Monitor S C} {Q : C → Except ε α → Prop} {c : C}
    (h : Follows M Q c p) (outcome : ∀ c r, Q c r → Settles V F r) : Ends V F p := by
  have related : Follows idle _ () p := h.simulate (R := fun _ _ => True)
    (fun _ _ _ _ _ => ⟨trivial, fun _ => trivial⟩) trivial
  exact related.mono fun _ r ⟨c, _, holds⟩ => outcome c r holds

/-- What a monitor sees of a program together with how the program ends. -/
theorem Follows.and_ends {C : Type} {M : Monitor S C} {Q : C → Except ε α → Prop} {c : C}
    (h : Follows M Q c p) (ends : Ends V F p) : Follows M (fun c r => Q c r ∧ Settles V F r) c p := by
  induction p generalizing c with
  | pure a => exact ⟨h, ends⟩
  | throw e => exact ⟨h, ends⟩
  | op o next ih => exact ⟨h.1, fun answer => ih answer (h.2 answer) (ends.2 answer)⟩

theorem Ends.path {r : Except ε α} {t : List (Event S)} (h : Ends V F p) (path : Path p t (.ofExcept r)) :
    Settles V F r := by
  have ended : Follows idle (fun _ => Settles V F) _ (.ofExcept r) := Follows.path h path
  cases r <;> exact ended

theorem Ends.eval (h : Ends V F p) (answer : (o : S.Op) → S.Answer o) : Settles V F (p.eval answer) := by
  induction p with
  | pure a => exact h
  | throw e => exact h
  | op o next ih => exact ih (answer o) (h.2 (answer o))

end Effect
