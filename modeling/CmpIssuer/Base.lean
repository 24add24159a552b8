import Mathlib.Algebra.Group.Nat.Defs
import Mathlib.Data.Int.DivMod
import Mathlib.Data.List.AList

/-!
Values shared by the whole model: bytes, instants, wrapping machine integers,
finite maps and the error values of the controller. Errors are data, because
what the signer does next depends on their wrapped causes and not on their text.
-/
namespace CmpIssuer

abbrev Bytes := List UInt8

/-- Nanoseconds since the Unix epoch. An unset instant is `none` where the source uses the zero time. -/
abbrev Time := Int

/-- Nanoseconds in a 64-bit signed integer. -/
abbrev Duration := Int

def second : Duration := 1000000000
def minute : Duration := 60 * second

/-- The result of a 64-bit signed operation. -/
def wrap64 (x : Int) : Int := x.bmod (2 ^ 64)

/-- The result of a 32-bit signed operation. -/
def wrap32 (x : Int) : Int := x.bmod (2 ^ 32)

/-- A `metav1.Time` is written to the API server without its fraction of a second. -/
def Time.truncate (t : Time) : Time := t - t % second

/-- A Go map. The order of the entries carries no meaning. -/
abbrev GoMap (κ ν : Type) := AList fun _ : κ => ν

/-- `maps.Copy(target, source)`. -/
def GoMap.copy {κ ν : Type} [DecidableEq κ] (target source : GoMap κ ν) : GoMap κ ν :=
  source ∪ target

theorem GoMap.lookup_insert {κ ν : Type} [DecidableEq κ] {entries : GoMap κ ν} {k key : κ} {v : ν} :
    (entries.insert k v).lookup key = if key = k then some v else entries.lookup key := by
  split
  · rename_i same
    subst same
    exact AList.lookup_insert _
  · rename_i other
    exact AList.lookup_insert_ne other

theorem GoMap.lookup_copy {κ ν : Type} [DecidableEq κ] {target source : GoMap κ ν} {key : κ} :
    (target.copy source).lookup key = (source.lookup key).or (target.lookup key) := by
  unfold GoMap.copy
  by_cases member : key ∈ source
  · rw [AList.lookup_union_left member]
    obtain ⟨value, found⟩ := Option.isSome_iff_exists.mp (AList.lookup_isSome.mpr member)
    rw [found]
    rfl
  · rw [AList.lookup_union_right member, AList.lookup_eq_none.mpr member]
    rfl

/-- `crypto.Hash`, as far as the issuer selects one. -/
inductive Hash where
  | sha256 | sha384 | sha512
  | other (id : Nat)
  deriving DecidableEq, Repr

/-- `Hash.Size`. A hash outside the supported three never reaches a comparison of sizes. -/
def Hash.size : Hash → Nat
  | .sha256 => 32
  | .sha384 => 48
  | .sha512 => 64
  | .other _ => 0

/-- The answer of the API server to a request it does not serve. -/
inductive ApiReason where
  | notFound | conflict | alreadyExists | other
  deriving DecidableEq, Repr

structure ApiError where
  reason : ApiReason
  message : String
  deriving DecidableEq, Repr

inductive ErrorKind where
  | permanent | retryable | pending | security
  | unknown (text : String)
  deriving DecidableEq, Repr

/-- An error without a classification: a text, an answer of the API server or one of them wrapped. -/
inductive PlainError where
  /-- `fmt.Errorf` without a wrapped error, or an error of a library. -/
  | text (message : String)
  /-- `fmt.Errorf("<before>%w<after>", err)`. -/
  | wrap (before : String) (err : PlainError) (after : String)
  | api (err : ApiError)
  deriving DecidableEq, Repr

/-- Every error value the signer creates or passes on. -/
inductive GoError where
  | text (message : String)
  | wrap (before : String) (err : GoError) (after : String)
  | api (err : ApiError)
  /-- `*protocol.Error`. -/
  | protocol (kind : ErrorKind) (operation failure : String) (requeueAfter : Duration) (err : GoError)
  /-- `issuersigner.PermanentError`. -/
  | permanent (err : GoError)
  /-- `issuersigner.PendingError`. -/
  | pending (err : GoError) (requeueAfter : Duration)
  /-- `issuersigner.IssuerError`. -/
  | issuer (err : GoError)
  /-- `*configurationError`. -/
  | configuration (permanent : Bool) (operation : String) (err : GoError)
  deriving DecidableEq, Repr

def PlainError.goError : PlainError → GoError
  | .text message => .text message
  | .wrap before err after => .wrap before err.goError after
  | .api err => .api err

instance : Coe PlainError GoError := ⟨PlainError.goError⟩

/-- `Error()`. -/
def GoError.message : GoError → String
  | .text message => message
  | .wrap before err after => before ++ err.message ++ after
  | .api err => err.message
  | .protocol _ operation _ _ err => "CMP " ++ operation ++ " failed: " ++ err.message
  | .permanent err => err.message
  | .pending err _ => err.message
  | .issuer err => err.message
  | .configuration _ operation err => operation ++ ": " ++ err.message

/-- `errors.As(err, *issuersigner.PermanentError)`. -/
def GoError.isPermanent : GoError → Bool
  | .permanent _ => true
  | .text _ | .api _ => false
  | .wrap _ err _ | .protocol _ _ _ _ err | .pending err _ | .issuer err
  | .configuration _ _ err => err.isPermanent

/-- `errors.As(err, **protocol.Error)`: the outermost protocol error of the chain. -/
def GoError.asProtocol : GoError → Option (ErrorKind × String × String × Duration × GoError)
  | .protocol kind operation failure requeueAfter err =>
      some (kind, operation, failure, requeueAfter, err)
  | .text _ | .api _ => none
  | .wrap _ err _ | .permanent err | .pending err _ | .issuer err
  | .configuration _ _ err => err.asProtocol

@[simp] theorem PlainError.isPermanent_goError (err : PlainError) : err.goError.isPermanent = false := by
  induction err with
  | text | api => rfl
  | wrap before err after ih => exact ih

/-- How a call ends when it does not return a value: with an error or with a runtime panic. -/
inductive Fault (ε : Type) where
  | error (err : ε)
  | panic (reason : String)
  deriving DecidableEq, Repr

def Fault.map {ε ε' : Type} (f : ε → ε') : Fault ε → Fault ε'
  | .error err => .error (f err)
  | .panic reason => .panic reason

/-- An error is a result of a call. A panic is none. -/
def Fault.caught {ε ε' : Type} : Fault ε → Except (Fault ε') ε
  | .error err => .ok err
  | .panic reason => .error (.panic reason)

/-- What a fallible computation returns, by its outcome. -/
def Outcome {ε α : Type} (value : α → Prop) (failure : ε → Prop) : Except ε α → Prop
  | .ok a => value a
  | .error e => failure e

theorem Outcome.mono {ε α : Type} {value value' : α → Prop} {failure failure' : ε → Prop}
    {r : Except ε α} (h : Outcome value failure r) (values : ∀ a, value a → value' a)
    (failures : ∀ e, failure e → failure' e) : Outcome value' failure' r := by
  cases r with
  | ok a => exact values a h
  | error e => exact failures e h

@[simp] theorem mapError_eq_ok {ε ε' α : Type} {f : ε → ε'} {r : Except ε α} {a : α} :
    r.mapError f = .ok a ↔ r = .ok a := by
  cases r <;> simp [Except.mapError]

theorem mapError_eq_error {ε ε' α : Type} {f : ε → ε'} {r : Except ε α} {e : ε'} :
    r.mapError f = .error e ↔ ∃ err, r = .error err ∧ f err = e := by
  cases r <;> simp [Except.mapError]

end CmpIssuer
