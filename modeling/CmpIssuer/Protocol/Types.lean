import CmpIssuer.Api
import CmpIssuer.Effect.Monitor

/-!
The requests and results of the protocol client, and the operations through
which the signer and the client touch the world: the API server, the clock, the
random source and the CMP server.
-/
namespace CmpIssuer
open Effect

def responseCertReqIDStandard : Int := -1
def responseCertReqIDLegacyZero : Int := 0

structure PasswordProtection where
  reference : Bytes
  secret : Bytes
  iterationCount : Int
  owf : Option Hash
  mac : Option Hash
  deriving DecidableEq, Repr

structure SignatureProtection where
  privateKey : Signer
  certificate : Certificate
  chain : List Certificate
  deriving DecidableEq, Repr

structure Protection where
  password : Option PasswordProtection := none
  signature : Option SignatureProtection := none
  deriving DecidableEq, Repr

structure EnrollmentRequest where
  operation : Operation := .unset
  endpointURL : String
  timeout : Duration
  maxResponseSize : Int
  sender : Option Name := none
  recipient : Name
  implicitConfirm : Bool
  rejectGrantedMods : Bool
  allowSignedMACResponse : Bool
  requireMACIterationFloor : Bool
  responseCertReqID : Option Int
  requireKUPCAPubsAbsent : Bool
  transactionID : Bytes := []
  csrDER : Bytes := []
  requestedPrivateKey : Option Signer := none
  signatureDigest : Option Hash
  requestedNotAfter : Option Time := none
  protection : Protection
  cmpTrust : Option CertPool
  cmpTrustCertificates : List Certificate
  cmpResponseCertificates : List Certificate := []
  tlsRoots : Option CertPool
  deriving DecidableEq, Repr

structure PollRequest where
  enrollment : EnrollmentRequest
  recipNonce : Bytes
  certReqID : Int
  responseSigner : Option Certificate := none
  requestNonce : Bytes
  deriving DecidableEq, Repr

structure ConfirmRequest where
  enrollment : EnrollmentRequest
  certificate : Option Certificate
  certReqID : Int
  recipNonce : Bytes
  responseSigner : Option Certificate
  requestNonce : Bytes
  deriving DecidableEq, Repr

structure PendingTransaction where
  certReqID : Int
  recipNonce : Bytes
  responseSigner : Option Certificate
  checkAfter : Duration := 0
  requestNonce : Bytes := []
  deriving DecidableEq, Repr

structure EnrollmentResult where
  chain : List Certificate := []
  extraCertificateCount : Nat := 0
  explicitConfirmation : Bool := false
  responseCertReqID : Int := 0
  pending : Option PendingTransaction := none
  pendingConfirmation : Option PendingTransaction := none
  deriving DecidableEq, Repr

/-- The calls of the client interface. -/
inductive ClientCall where
  | enrollP10CR (request : EnrollmentRequest)
  | enrollIR (request : EnrollmentRequest)
  | enrollKUR (request : EnrollmentRequest)
  | pollP10CR (poll : PollRequest)
  | confirmP10CR (confirm : ConfirmRequest)
  deriving DecidableEq, Repr

def ClientCall.enrollment : ClientCall → EnrollmentRequest
  | .enrollP10CR request | .enrollIR request | .enrollKUR request => request
  | .pollP10CR poll => poll.enrollment
  | .confirmP10CR confirm => confirm.enrollment

/-- One HTTP POST. The message is kept beside its encoding, so that a run shows what was sent. -/
structure HTTPRequest where
  endpoint : String
  message : PKIMessage
  body : Bytes

inductive HTTPAnswer where
  | failed (err : String)
  /-- `readError` is the error met after `body`, if the body breaks off there. -/
  | response (statusCode : Nat) (contentType : String) (body : Bytes) (readError : Option String)
  deriving DecidableEq, Repr

inductive Op where
  /-- `time.Now`. -/
  | now
  /-- `rand.Read` into a buffer of this length. -/
  | random (length : Nat)
  /-- The randomness of one message built by the CMP library. -/
  | entropy
  | getTransaction (key : NamespacedName)
  | createTransaction (transaction : CMPTransaction)
  | updateTransactionStatus (transaction : CMPTransaction)
  /-- A delete with its UID precondition. -/
  | deleteTransaction (key : NamespacedName) (uid : Option String)
  | getSecret (key : NamespacedName)
  | getCertificate (key : NamespacedName)
  /-- The signer hands a request to the protocol client. -/
  | call (call : ClientCall)
  | send (request : HTTPRequest)

def Op.Answer : Op → Type
  | .now => Time
  | .random _ => Except String Bytes
  | .entropy => Entropy
  | .getTransaction _ => Except ApiError CMPTransaction
  | .createTransaction _ => Except ApiError Assigned
  | .updateTransactionStatus _ => Except ApiError String
  | .deleteTransaction _ _ => Except ApiError Unit
  | .getSecret _ => Except ApiError Secret
  | .getCertificate _ => Except ApiError CertManagerCertificate
  | .call _ => Unit
  | .send _ => HTTPAnswer

abbrev interface : Signature := ⟨Op, Op.Answer⟩

abbrev Go (ε α : Type) := Program interface (Fault ε) α

variable {ε ε' α : Type}

def fail (err : ε) : Go ε α := .throw (.error err)

def ofExcept : Except ε α → Go ε α
  | .ok a => .pure a
  | .error err => fail err

def attempt (call : Go ε α) : Go ε' (Except ε α) := Program.attempt Fault.caught call

def ask (o : Op) : Go ε o.Answer := Program.perform (S := interface) o

def now : Go ε Time := ask .now
def entropy : Go ε Entropy := ask .entropy
def random (length : Nat) : Go ε (Except String Bytes) := ask (.random length)
def getTransaction (key : NamespacedName) : Go ε (Except ApiError CMPTransaction) :=
  ask (.getTransaction key)
def createTransaction (tx : CMPTransaction) : Go ε (Except ApiError Assigned) :=
  ask (.createTransaction tx)
def updateTransactionStatus (tx : CMPTransaction) : Go ε (Except ApiError String) :=
  ask (.updateTransactionStatus tx)
def deleteTransaction (key : NamespacedName) (uid : Option String) : Go ε (Except ApiError Unit) :=
  ask (.deleteTransaction key uid)
def getSecret (key : NamespacedName) : Go ε (Except ApiError Secret) := ask (.getSecret key)
def getCertificate (key : NamespacedName) : Go ε (Except ApiError CertManagerCertificate) :=
  ask (.getCertificate key)
def handOver (call : ClientCall) : Go ε Unit := ask (.call call)
def send (request : HTTPRequest) : Go ε HTTPAnswer := ask (.send request)

section
variable {C : Type} {M : Monitor interface C} {c : C}

@[simp] theorem follows_fail {Q : C → Except (Fault ε) α → Prop} {err : ε} :
    Follows M Q c (fail err) ↔ Q c (.error (.error err)) := Iff.rfl

theorem follows_outcome {Q : C → Except (Fault ε) α → Prop} {r : Except ε α} :
    Follows M Q c (ofExcept r) ↔ Q c (r.mapError .error) := by
  cases r <;> rfl

theorem follows_outcome_bind {β : Type} {Q : C → Except (Fault ε) β → Prop} {r : Except ε α}
    {f : α → Go ε β} (value : ∀ a, r = .ok a → Follows M Q c (f a))
    (failure : ∀ err, r = .error err → Q c (.error (.error err))) :
    Follows M Q c (ofExcept r >>= f) := by
  cases r with
  | ok a => exact value a rfl
  | error err => exact failure err rfl

theorem follows_ask_bind {β : Type} {o : Op} {Q : C → Except (Fault ε) β → Prop}
    {f : o.Answer → Go ε β} :
    Follows M Q c (ask o >>= f) ↔
      M.allows c o ∧ ∀ answer, Follows M Q (M.next c o answer) (f answer) := follows_bind

/-- What is demanded of a call whose error is taken as a value. -/
def Caught (Q : C → Except (Fault ε') (Except ε α) → Prop) (c : C) : Except (Fault ε) α → Prop
  | .ok a => Q c (.ok (.ok a))
  | .error (.error err) => Q c (.ok (.error err))
  | .error (.panic reason) => Q c (.error (.panic reason))

theorem follows_tried {Q : C → Except (Fault ε') (Except ε α) → Prop} {call : Go ε α} :
    Follows M Q c (attempt call) ↔ Follows M (Caught Q) c call := by
  unfold attempt
  rw [follows_attempt]
  constructor <;> intro h <;> refine h.mono ?_ <;> rintro c ((err | reason) | a) h <;> exact h

end

end CmpIssuer
