import CmpIssuer.Effect.World
import CmpIssuer.Session.Signer

/-!
The surroundings of `Sign`: the object that the API server keeps under the name
of one CertificateRequest, the clock, the random source and a CMP server that
answers anything. A cluster remembers every version of the object and every
operation, so that properties of whole runs can be read off it.
-/
namespace CmpIssuer
open Effect

/-- One operation of a thread and the stored object around it. -/
structure Entry where
  thread : Nat
  event : Event interface
  before : Option CMPTransaction
  after : Option CMPTransaction

structure Cluster where
  slot : Option CMPTransaction
  /-- Every version of the object that was ever stored, the latest last. -/
  past : List CMPTransaction
  log : List Entry

/-- The cluster in which nothing has happened to the stored object yet. -/
def Cluster.start (slot : Option CMPTransaction) : Cluster := ⟨slot, slot.toList, []⟩

/-- The nonce the CMP library draws for a message. -/
def Entry.nonce (entry : Entry) : Option Bytes :=
  match entry.event with
  | ⟨.entropy, drawn⟩ => some drawn.senderNonce
  | _ => none

def Cluster.freshUID (cluster : Cluster) (uid : String) : Prop :=
  uid ≠ "" ∧ ∀ record ∈ cluster.past, record.uid ≠ uid

def Cluster.freshVersion (cluster : Cluster) (resourceVersion : String) : Prop :=
  ∀ record ∈ cluster.past, record.resourceVersion ≠ resourceVersion

def Cluster.freshNonce (cluster : Cluster) (nonce : Bytes) : Prop :=
  nonce ≠ [] ∧ ∀ entry ∈ cluster.log, entry.nonce ≠ some nonce

/-- What an operation that succeeds finds and leaves in the store. A create fails when the name is
taken, a status update changes nothing but the status and only at the version that was read, a delete
observes its UID precondition. That a drawn nonce occurs nowhere in the log is an assumption about the
random source, and it is part of every world that is made from this. -/
def Cluster.serves (cluster : Cluster) : (o : Op) → o.Answer → Option CMPTransaction → Prop
  | .getTransaction key, .ok record, after =>
      cluster.slot = some record ∧ record.key = key ∧ after = cluster.slot
  | .createTransaction record, .ok assigned, after =>
      cluster.slot = none ∧ cluster.freshUID assigned.uid ∧
        cluster.freshVersion assigned.resourceVersion ∧ after = some (record.created assigned)
  | .updateTransactionStatus record, .ok resourceVersion, after =>
      ∃ stored, cluster.slot = some stored ∧ record.uid = stored.uid ∧
        record.resourceVersion = stored.resourceVersion ∧ cluster.freshVersion resourceVersion ∧
        after = some (({ stored with status := record.status } : CMPTransaction).updated resourceVersion)
  | .deleteTransaction key uid, .ok (), after =>
      ∃ stored, cluster.slot = some stored ∧ key = stored.key ∧ (∀ u, uid = some u → u = stored.uid) ∧
        after = none
  | .getTransaction _, .error _, _ | .createTransaction _, .error _, _
  | .updateTransactionStatus _, .error _, _ | .deleteTransaction _ _, .error _, _ => False
  | .random length, .ok bytes, after => bytes.length = length ∧ after = cluster.slot
  | .entropy, drawn, after => cluster.freshNonce drawn.senderNonce ∧ after = cluster.slot
  | _, _, after => after = cluster.slot

/-- A store operation that reports an error. -/
def Op.failed : (o : Op) → o.Answer → Prop
  | .getTransaction _, .error _ | .createTransaction _, .error _
  | .updateTransactionStatus _, .error _ | .deleteTransaction _ _, .error _ => True
  | _, _ => False

instance Op.failedDecidable : (o : Op) → (answer : o.Answer) → Decidable (o.failed answer)
  | .getTransaction _, .error _ | .createTransaction _, .error _
  | .updateTransactionStatus _, .error _ | .deleteTransaction _ _, .error _ => .isTrue trivial
  | .getTransaction _, .ok _ | .createTransaction _, .ok _
  | .updateTransactionStatus _, .ok _ | .deleteTransaction _ _, .ok _ => .isFalse id
  | .now, _ | .random _, _ | .entropy, _ | .getSecret _, _ | .getCertificate _, _ | .call _, _
  | .send _, _ => .isFalse id

/-- The store after an operation whose report can be trusted. -/
def Cluster.honest (cluster : Cluster) (o : Op) (answer : o.Answer) (after : Option CMPTransaction) :
    Prop :=
  cluster.serves o answer after ∨ o.failed answer ∧ after = cluster.slot

/-- The store after an operation that may have taken effect although it reports an error. -/
def Cluster.ambiguous (cluster : Cluster) (o : Op) (answer : o.Answer)
    (after : Option CMPTransaction) : Prop :=
  cluster.honest o answer after ∨ o.failed answer ∧ ∃ other, cluster.serves o other after

/-- The store after an operation that succeeds. A read that finds no object succeeds as well. -/
def Cluster.reliable (cluster : Cluster) : (o : Op) → o.Answer → Option CMPTransaction → Prop
  | .getTransaction key, .error err, after =>
      err.reason = .notFound ∧ (∀ record, cluster.slot = some record → record.key ≠ key) ∧
        after = cluster.slot
  | o, answer, after => cluster.serves o answer after

theorem Cluster.reliable.honest {cluster : Cluster} {o : Op} {answer : o.Answer}
    {after : Option CMPTransaction} (h : cluster.reliable o answer after) :
    cluster.honest o answer after := by
  cases o with
  | getTransaction key =>
      cases answer with
      | ok => exact .inl h
      | error => exact .inr ⟨trivial, h.2.2⟩
  | _ => exact .inl h

def Cluster.step (cluster : Cluster) (thread : Nat) (event : Event interface)
    (after : Option CMPTransaction) : Cluster where
  slot := after
  past := if after = cluster.slot then cluster.past else cluster.past ++ after.toList
  log := cluster.log ++ [⟨thread, event, cluster.slot, after⟩]

/-- Another client deletes the object, or creates one of its own under the name. -/
inductive Cluster.Interferes : Cluster → Cluster → Prop
  | delete (cluster : Cluster) : Interferes cluster { cluster with slot := none }
  | recreate (cluster : Cluster) (record : CMPTransaction) (assigned : Assigned)
      (free : cluster.slot = none) (uid : cluster.freshUID assigned.uid)
      (version : cluster.freshVersion assigned.resourceVersion) :
      Interferes cluster
        { cluster with
          slot := some (record.created assigned)
          past := cluster.past ++ [record.created assigned] }

/-- One signer whose store reports faithfully. -/
def honestWorld : World interface Cluster where
  act thread cluster o answer next := ∃ after, cluster.honest o answer after ∧
    next = cluster.step thread ⟨o, answer⟩ after
  outside _ _ := False

/-- One signer whose store operations succeed. -/
def reliableWorld : World interface Cluster where
  act thread cluster o answer next := ∃ after, cluster.reliable o answer after ∧
    next = cluster.step thread ⟨o, answer⟩ after
  outside _ _ := False

/-- Signers whose store operations can fail in any way, without another writer. -/
def signerWorld : World interface Cluster where
  act thread cluster o answer next := ∃ after, cluster.ambiguous o answer after ∧
    next = cluster.step thread ⟨o, answer⟩ after
  outside _ _ := False

/-- The same with another client that deletes and recreates the object. -/
def sharedWorld : World interface Cluster where
  act := signerWorld.act
  outside := Cluster.Interferes

theorem reliable_of_honest {i : Nat} {cluster final : Cluster} {t : List (Event interface)}
    (trace : honestWorld.Trace i cluster t final) (succeed : ∀ e ∈ t, ¬ e.op.failed e.answer) :
    reliableWorld.Trace i cluster t final := by
  induction trace with
  | nil s => exact .nil s
  | @cons s _ _ e _ first rest ih =>
      obtain ⟨after, serves | ⟨failed, _⟩, same⟩ := first
      · refine .cons ⟨after, ?_, same⟩ (ih fun e' member => succeed e' (List.mem_cons_of_mem _ member))
        obtain ⟨o, answer⟩ := e
        cases o with
        | getTransaction => cases answer <;> first | exact serves | exact serves.elim
        | _ => exact serves
      · exact absurd failed (succeed e List.mem_cons_self)

end CmpIssuer
