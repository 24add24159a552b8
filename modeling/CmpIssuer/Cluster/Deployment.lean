import Mathlib.Algebra.Order.BigOperators.Group.List
import Mathlib.Algebra.Order.Ring.Int
import CmpIssuer.Cluster.Sequence
import CmpIssuer.Controller.Secrets
import CmpIssuer.Session.Exchange

/-!
A deployment that can be run: a store that serves every operation at once, a
clock that stands still, a CMP server that plays back a list of answers, and
the plainest library. Its runs are runs in the cluster, so what is proved
about all runs in the cluster can be tried out on it.
-/
namespace CmpIssuer
open Effect

structure Deployment where
  cluster : Cluster
  secrets : NamespacedName → Except ApiError Secret
  certificates : NamespacedName → Except ApiError CertManagerCertificate
  clock : Time
  replies : List HTTPAnswer

def freshText (texts : List String) : String :=
  String.ofList (List.replicate ((texts.map String.length).sum + 1) 'v')

theorem freshText_length (texts : List String) :
    (freshText texts).length = (texts.map String.length).sum + 1 := by
  simp [freshText]

theorem freshText_ne (texts : List String) : freshText texts ≠ "" := by
  intro same
  have length := freshText_length texts
  rw [same] at length
  simp at length

theorem freshText_not_mem (texts : List String) : freshText texts ∉ texts := by
  intro member
  have short : (freshText texts).length ≤ (texts.map String.length).sum :=
    List.le_sum_of_mem (List.mem_map_of_mem member)
  rw [freshText_length] at short
  omega

def freshBytes (used : List Bytes) : Bytes := List.replicate ((used.map List.length).sum + 1) 9

theorem freshBytes_not_mem (used : List Bytes) : freshBytes used ∉ used := by
  intro member
  have short : (freshBytes used).length ≤ (used.map List.length).sum :=
    List.le_sum_of_mem (List.mem_map_of_mem member)
  simp [freshBytes] at short

namespace Deployment

def refusal (reason : ApiReason) : ApiError := ⟨reason, "refused"⟩

def newVersion (d : Deployment) : String :=
  freshText (d.cluster.past.map CMPTransaction.resourceVersion)

def newUID (d : Deployment) : String := freshText (d.cluster.past.map CMPTransaction.uid)

def newNonce (d : Deployment) : Bytes := freshBytes (d.cluster.log.filterMap Entry.nonce)

/-- The answer to an operation and the stored object after it. -/
def respond (d : Deployment) : (o : Op) → o.Answer × Option CMPTransaction
  | .now => (d.clock, d.cluster.slot)
  | .random length => (.ok (List.replicate length 5), d.cluster.slot)
  | .entropy => (⟨d.newNonce, [], [], []⟩, d.cluster.slot)
  | .getTransaction key =>
      match d.cluster.slot with
      | some record =>
          if record.key = key then (.ok record, some record)
          else (.error (refusal .notFound), some record)
      | none => (.error (refusal .notFound), none)
  | .createTransaction record =>
      match d.cluster.slot with
      | some other => (.error (refusal .alreadyExists), some other)
      | none =>
          let assigned : Assigned := ⟨d.newUID, d.newVersion, d.clock⟩
          (.ok assigned, some (record.created assigned))
  | .updateTransactionStatus record =>
      match d.cluster.slot with
      | some stored =>
          if record.uid = stored.uid ∧ record.resourceVersion = stored.resourceVersion then
            (.ok d.newVersion,
              some (({ stored with status := record.status } : CMPTransaction).updated d.newVersion))
          else (.error (refusal .conflict), some stored)
      | none => (.error (refusal .notFound), none)
  | .deleteTransaction key uid =>
      match d.cluster.slot with
      | some stored =>
          if key = stored.key ∧ (uid = none ∨ uid = some stored.uid) then (.ok (), none)
          else (.error (refusal .conflict), some stored)
      | none => (.error (refusal .notFound), none)
  | .getSecret key => (d.secrets key, d.cluster.slot)
  | .getCertificate key => (d.certificates key, d.cluster.slot)
  | .call _ => ((), d.cluster.slot)
  | .send _ => (d.replies.headD (.failed "no answer"), d.cluster.slot)

def answer (thread : Nat) (d : Deployment) (o : Op) : o.Answer × Deployment :=
  ((d.respond o).1,
    { d with
      cluster := d.cluster.step thread ⟨o, (d.respond o).1⟩ (d.respond o).2
      replies := match o with
        | .send _ => d.replies.tail
        | _ => d.replies })

theorem newVersion_fresh (d : Deployment) : d.cluster.freshVersion d.newVersion := by
  intro record member same
  exact freshText_not_mem _ (List.mem_map.mpr ⟨record, member, same⟩)

theorem newUID_fresh (d : Deployment) : d.cluster.freshUID d.newUID := by
  refine ⟨freshText_ne _, ?_⟩
  intro record member same
  exact freshText_not_mem _ (List.mem_map.mpr ⟨record, member, same⟩)

theorem newNonce_fresh (d : Deployment) : d.cluster.freshNonce d.newNonce := by
  refine ⟨by simp [newNonce, freshBytes], ?_⟩
  intro entry member same
  exact freshBytes_not_mem _ (List.mem_filterMap.mpr ⟨entry, member, same⟩)

theorem respond_honest (d : Deployment) (o : Op) :
    d.cluster.honest o (d.respond o).1 (d.respond o).2 := by
  cases o with
  | now | getSecret | getCertificate | call | send => exact .inl rfl
  | random => exact .inl ⟨by simp, rfl⟩
  | entropy => exact .inl ⟨d.newNonce_fresh, rfl⟩
  | getTransaction key =>
      simp only [respond]
      split
      · rename_i record stored
        split
        · rename_i same
          exact .inl ⟨stored, same, stored.symm⟩
        · exact .inr ⟨trivial, stored.symm⟩
      · rename_i empty
        exact .inr ⟨trivial, empty.symm⟩
  | createTransaction record =>
      simp only [respond]
      split
      · rename_i stored
        exact .inr ⟨trivial, stored.symm⟩
      · rename_i empty
        exact .inl ⟨empty, d.newUID_fresh, d.newVersion_fresh, rfl⟩
  | updateTransactionStatus record =>
      simp only [respond]
      split
      · rename_i stored found
        split
        · rename_i current
          exact .inl ⟨stored, found, current.1, current.2, d.newVersion_fresh, rfl⟩
        · exact .inr ⟨trivial, found.symm⟩
      · rename_i empty
        exact .inr ⟨trivial, empty.symm⟩
  | deleteTransaction key uid =>
      simp only [respond]
      split
      · rename_i stored found
        split
        · rename_i named
          refine .inl ⟨stored, found, named.1, ?_, rfl⟩
          rintro u rfl
          rcases named.2 with absent | same
          · cases absent
          · exact Option.some.inj same
        · exact .inr ⟨trivial, found.symm⟩
      · rename_i empty
        exact .inr ⟨trivial, empty.symm⟩

theorem answer_act (thread : Nat) (d : Deployment) (o : Op) :
    honestWorld.act thread d.cluster o (d.answer thread o).1 (d.answer thread o).2.cluster :=
  ⟨_, d.respond_honest o, rfl⟩

/-- Up to `n` operations of a thread that executes a `Sign` call in the deployment. -/
def runAs (thread : Nat) (d : Deployment) (lib : Library) (job : Job) (n : Nat) :
    Trail × Deployment × Go GoError Bytes :=
  (sign lib job.clusterResourceNamespace job.request job.issuer).advance (answer thread) n d

def run (d : Deployment) (lib : Library) (job : Job) (n : Nat) : Trail × Deployment × Go GoError Bytes :=
  d.runAs 0 lib job n

/-- The deployment after up to `n` operations of a `Sign` call. -/
def after (d : Deployment) (lib : Library) (job : Job) (n : Nat) : Deployment := (d.run lib job n).2.1

theorem run_path (d : Deployment) (lib : Library) (job : Job) (n : Nat) :
    Path (sign lib job.clusterResourceNamespace job.request job.issuer) (d.run lib job n).1
      (d.run lib job n).2.2 := Program.advance_path _ _ _ _

theorem run_trace (d : Deployment) (lib : Library) (job : Job) (n : Nat) :
    honestWorld.Trace 0 d.cluster (d.run lib job n).1 (d.after lib job n).cluster :=
  Program.advance_trace Deployment.cluster (answer_act 0) n d _

theorem run_reliable (d : Deployment) (lib : Library) (job : Job) (n : Nat)
    (succeed : ∀ e ∈ (d.run lib job n).1, ¬ e.op.failed e.answer) :
    reliableWorld.Trace 0 d.cluster (d.run lib job n).1 (d.after lib job n).cluster :=
  reliable_of_honest (d.run_trace lib job n) succeed

theorem run_agrees (d : Deployment) (lib : Library) (job : Job) (n : Nat) :
    (∀ e ∈ (d.run lib job n).1, AgreesWith d.secrets e.op e.answer) ∧ (d.after lib job n).secrets = d.secrets := by
  refine Program.advance_forall (I := fun s : Deployment => s.secrets = d.secrets) ?_ n d _ rfl
  intro s o same
  refine ⟨?_, same⟩
  rw [← same]
  cases o <;> trivial

theorem run_outcome (d : Deployment) (lib : Library) (job : Job) (n : Nat)
    {r : Except (Fault GoError) Bytes} (ended : (d.run lib job n).2.2.outcome? = some r) :
    Path (sign lib job.clusterResourceNamespace job.request job.issuer) (d.run lib job n).1
      (.ofExcept r) := by
  rw [← Program.eq_ofExcept_of_outcome ended]
  exact d.run_path lib job n

/-- A call that is about to perform an operation in the deployment. -/
theorem run_next (d : Deployment) (lib : Library) (job : Job) (n : Nat) {o : Op}
    (next : (d.run lib job n).2.2.next? = some o) :
    ∃ rest, Path (sign lib job.clusterResourceNamespace job.request job.issuer) (d.run lib job n).1
      (.op o rest) := by
  obtain ⟨rest, same⟩ := Program.exists_op_of_next next
  exact ⟨rest, same ▸ d.run_path lib job n⟩

theorem run_view (d : Deployment) (lib : Library) (job : Job) (n : Nat) {α : Type} {view : Op → Option α}
    {make : α → Op} (exact_ : ∀ {o a}, view o = some a → o = make a) {a : α}
    (reached : (d.run lib job n).2.2.next?.bind view = some a) :
    ∃ rest, Path (sign lib job.clusterResourceNamespace job.request job.issuer) (d.run lib job n).1
      (.op (make a) rest) := by
  obtain ⟨o, next, seen⟩ := Option.bind_eq_some_iff.mp reached
  obtain rfl := exact_ seen
  exact d.run_next lib job n next

theorem reach_call (d : Deployment) (lib : Library) (job : Job) (n : Nat) {jobs : Job → Prop} (wanted : jobs job)
    {start : Cluster} {threads : List (Thread interface (Fault GoError) Bytes Job)}
    (run : Pool.Reach signerWorld (Job.call lib) jobs (fun n i => i + 1 = n) start ⟨d.cluster, threads⟩) :
    Pool.Reach signerWorld (Job.call lib) jobs (fun n i => i + 1 = n) start
      ⟨(d.runAs threads.length lib job n).2.1.cluster, threads ++
        [⟨job, (d.runAs threads.length lib job n).1, (d.runAs threads.length lib job n).2.2⟩]⟩ := by
  refine Pool.Reach.advance (W := signerWorld) (P := fun _ => True) Deployment.cluster ?_ rfl n d [] _
    (fun _ _ => trivial) (.step run (.spawn job wanted))
  intro d o _
  obtain ⟨after, honest, same⟩ := d.answer_act threads.length o
  exact ⟨after, .inl honest, same⟩

/-- Calls for a job one after the other, each of up to `n` operations. -/
def calls (d : Deployment) (lib : Library) (job : Job) (n : Nat) :
    Nat → Deployment × List (Thread interface (Fault GoError) Bytes Job)
  | 0 => (d, [])
  | k + 1 =>
      let earlier := d.calls lib job n k
      let call := earlier.1.runAs earlier.2.length lib job n
      (call.2.1, earlier.2 ++ [⟨job, call.1, call.2.2⟩])

def pool (d : Deployment) (lib : Library) (job : Job) (n k : Nat) : Signers :=
  ⟨(d.calls lib job n k).1.cluster, (d.calls lib job n k).2⟩

theorem pool_job (d : Deployment) (lib : Library) (job : Job) (n k : Nat) :
    ∀ thread ∈ (d.pool lib job n k).threads, thread.job = job := by
  induction k with
  | zero => rintro _ ⟨⟩
  | succ k ih =>
      intro thread member
      rcases List.mem_append.mp member with old | new
      · exact ih thread old
      · rw [List.mem_singleton.mp new]

theorem pool_reach (d : Deployment) (lib : Library) (job : Job) (n k : Nat) {jobs : Job → Prop}
    (wanted : jobs job) : Pool.Reach signerWorld (Job.call lib) jobs (fun n i => i + 1 = n) d.cluster
      (d.pool lib job n k) := by
  induction k with
  | zero => exact .init
  | succ k ih => exact (d.calls lib job n k).1.reach_call lib job n wanted ih

theorem pool_run (d : Deployment) (lib : Library) (job : Job) (n k : Nat) {slot : Option CMPTransaction}
    (initial : d.cluster = .start slot) : SequentialRun lib job.subject slot (d.pool lib job n k) := by
  have reached := @pool_reach d lib job n k (fun other => other.subject = job.subject) rfl
  rw [initial] at reached
  exact reached

/-- Two calls for a job: the first up to some operation, then the second, then the first again. -/
def overlap (d : Deployment) (lib : Library) (job : Job) (early second late : Nat) : Signers :=
  let first := d.runAs 0 lib job early
  let other := first.2.1.runAs 1 lib job second
  let rest := first.2.2.advance (answer 0) late other.2.1
  ⟨rest.2.1.cluster, [⟨job, first.1 ++ rest.1, rest.2.2⟩, ⟨job, other.1, other.2.2⟩]⟩

theorem overlap_run (d : Deployment) (lib : Library) (job : Job) (early second late : Nat)
    {slot : Option CMPTransaction} (initial : d.cluster = .start slot) :
    SoleRun lib job.subject slot (d.overlap lib job early second late) := by
  have first := @reach_call d lib job early (fun other => other.subject = job.subject) rfl _ [] .init
  have calls := @reach_call (d.runAs 0 lib job early).2.1 lib job second
    (fun other => other.subject = job.subject) rfl _ _ first
  rw [initial] at calls
  have sole : SoleRun lib job.subject slot _ := SequentialRun.sole calls
  change SoleRun lib job.subject slot ⟨_, [] ++ ⟨job, _, _⟩ :: [_]⟩
  refine Pool.Reach.advance (W := signerWorld) (P := fun _ => True) Deployment.cluster ?_ trivial late _ _ _
    (fun _ _ => trivial) sole
  intro d o _
  obtain ⟨after, honest, same⟩ := d.answer_act 0 o
  exact ⟨after, .inl honest, same⟩

end Deployment

def recordRead : Event interface → Option CMPTransaction
  | ⟨.getTransaction _, .ok record⟩ => some record
  | _ => none

theorem exists_read_of_mem {t : Trail} {record : CMPTransaction} (h : record ∈ t.filterMap recordRead) :
    ∃ key, (⟨.getTransaction key, .ok record⟩ : Event interface) ∈ t := by
  obtain ⟨⟨o, answer⟩, member, read⟩ := List.mem_filterMap.mp h
  cases o with
  | getTransaction key =>
      cases answer <;> cases read
      exact ⟨key, member⟩
  | _ => cases read

/-- The request an operation hands to the client. -/
def Op.call? : Op → Option ClientCall
  | .call handed => some handed
  | _ => none

theorem Op.eq_call {o : Op} {call : ClientCall} (h : o.call? = some call) : o = .call call := by
  cases o <;> cases h
  rfl

def Op.secret? : Op → Option NamespacedName
  | .getSecret key => some key
  | _ => none

theorem Op.eq_getSecret {o : Op} {key : NamespacedName} (h : o.secret? = some key) :
    o = .getSecret key := by
  cases o <;> cases h
  rfl

def Op.create? : Op → Option CMPTransaction
  | .createTransaction record => some record
  | _ => none

theorem Op.eq_createTransaction {o : Op} {record : CMPTransaction} (h : o.create? = some record) :
    o = .createTransaction record := by
  cases o <;> cases h
  rfl

/-- Whether an operation sends a message that gets no answer. -/
def unanswered : Event interface → Bool
  | ⟨.send _, .failed _⟩ => true
  | _ => false

theorem exists_send_of_unanswered {e : Event interface} (h : unanswered e = true) :
    ∃ sent err, e = ⟨.send sent, .failed err⟩ := by
  obtain ⟨o, answer⟩ := e
  cases o with
  | send sent => cases answer <;> first | exact ⟨sent, _, rfl⟩ | cases h
  | _ => cases h

def plainCertificate (raw : Bytes) : Certificate :=
  { raw
    rawSubject := raw
    rawIssuer := []
    subject := {}
    publicKey := .other [7]
    keyUsage := {}
    extensions := []
    notBefore := 0
    notAfter := 100 }

def plainTransactionID : Bytes := List.replicate transactionIDLength 5

/-- A response to the message with the given nonce. -/
def plainResponse (nonce : Bytes) (body : Body) : PKIMessage :=
  { header :=
      { pvno := 2
        sender := ⟨[[]], []⟩
        recipient := ⟨[], []⟩
        transactionID := plainTransactionID
        senderNonce := [8]
        recipNonce := nonce
        senderKID := []
        generalInfo := []
        protectionAlg := some [1] }
    body
    protection := [1]
    extraCerts := [] }

/-- The answer to a message, by a code and the nonce it is for. -/
def plainReply (code : UInt8) (nonce : Bytes) : HTTPAnswer :=
  .response 200 "application/pkixcmp" (code :: nonce) none

/-- A library without cryptography: encodings are their own digests, every signature is good and a
certificate verifies up to the first root. -/
def plainLibrary : Library where
  sha256 data := data
  parseCertificate data := if data = [] then .error "no certificate" else .ok (plainCertificate data)
  parseCertificateRequest data :=
    if data = [] then .error "no request" else .ok ⟨data, [], .other [7], []⟩
  checkRequestSignature _ := .ok ()
  parseCMPCertificate certificate := .ok (plainCertificate certificate.raw)
  checkSignatureFrom _ _ := .ok ()
  verify _ leaf roots _ :=
    match roots with
    | some (root :: _) => .ok [[leaf, root]]
    | _ => .error "no root"
  marshalPKIXPublicKey
    | .rsa content | .ecdsa content | .mldsa content | .other content => .ok content
  parsePKCS8PrivateKey data := .ok (.signer ⟨data, .other [7]⟩)
  parsePKCS1PrivateKey _ := .error "no key"
  parseECPrivateKey _ := .error "no key"
  pemDecode _ := none
  pemDecode_consumes := by simp
  isBlank data := data.isEmpty
  unmarshalRDNSequence _ := .ok ([], [])
  unmarshalRawValues _ := .ok ([], [])
  marshalExtensions _ := .ok []
  parseURL _ := .ok ⟨schemeHTTP, "ca", false, ""⟩
  newHTTPRequest _ := .ok ()
  parseMediaType text := .ok text
  atoi text := if text = "1" then some 1 else if text = "2" then some 2 else none
  quote text := text
  durationText _ := "1s"
  pemEncode block := block.bytes
  marshalIdentity identity := .ok (identity.secrets.flatMap fun secret =>
    secret.resourceVersion.toUTF8.toList ++ secret.dataDigest.toUTF8.toList)
  upperCase := toUpper
  upperCase_ascii _ _ := rfl
  isGraphic _ := true
  newDirectoryName _ := ⟨[], []⟩
  newDirectoryNameFromRawDER _ := ⟨[], []⟩
  newMACCredentials credentials := .ok credentials
  newSignatureCredentials credentials := .ok credentials
  withHash credentials _ := .ok credentials
  newPKIMessage body options drawn :=
    { header :=
        { pvno := 2
          sender := options.sender
          recipient := options.recipient
          transactionID := options.transactionID
          senderNonce := drawn.senderNonce
          recipNonce := options.recipNonce
          senderKID := []
          generalInfo := []
          protectionAlg := none }
      body
      protection := []
      extraCerts := [] }
  protect _ _ message := .ok message
  marshalBinary _ := .ok []
  parsePKIMessage data :=
    match data with
    | 1 :: nonce => .ok (plainResponse nonce (.error (.ok ⟨.accepted, [], []⟩)))
    | 2 :: nonce => .ok (plainResponse nonce
        (.cp (.ok ⟨[], [⟨-1, ⟨.accepted, [], []⟩, some (some ⟨[3]⟩)⟩]⟩)))
    | 3 :: nonce => .ok (plainResponse nonce .pkiConf)
    | 4 :: nonce => .ok (plainResponse nonce (.cp (.ok ⟨[], [⟨-1, ⟨.waiting, [], []⟩, none⟩]⟩)))
    | 5 :: nonce => .ok (plainResponse nonce (.error (.ok ⟨.waiting, [], []⟩)))
    | _ => .error "no message"
  verifyMessage _ _ _ := .ok ()
  newCertStatus certificate certReqID := .ok ⟨certificate.raw, certReqID, none, none⟩
  newOldCertIDControl _ := .ok []
  generatePOPWithHash _ _ _ _ := .ok []
  implicitConfirmOID := []
  statusError _ := "status"
  bodyTypeName _ := "CP"
  failureBitName _ := "failure"

theorem plainLibrary_message : MessageLaws plainLibrary where
  body _ _ _ := rfl
  transactionID _ _ _ _ := rfl
  senderNonce _ _ _ := rfl
  protect_body := by rintro _ _ _ _ ⟨⟩; rfl
  protect_transactionID := by rintro _ _ _ _ ⟨⟩; rfl
  protect_senderNonce := by rintro _ _ _ _ ⟨⟩; rfl

theorem plainLibrary_encoding : KeepsEncoding plainLibrary := by
  intro encoded certificate parsed
  simp only [plainLibrary] at parsed
  split at parsed <;> cases parsed
  rfl

/-- An issuer that enrolls with P10CR and confirms explicitly, with all its Secrets in one. -/
def plainSpec : CMPIssuerSpec where
  endpoint := ⟨"http://ca", "", second, 1024⟩
  protocol :=
    { version := 2
      initialEnrollment := .value .p10cr
      renewal := .unset
      requestedValidity := .unset
      renewalFallback := .unset
      validationProfile := .unset
      kurResponseCAPubs := .unset
      p10crResponseCertReqID := none
      macResponseProtection := .unset
      signatureDigest := .unset
      certProfile := ""
      sender := ""
      recipient := "CN=CA"
      confirmation := .value .explicit }
  protection :=
    { type := .value .passwordBasedMac
      passwordBasedMac := some ⟨"cmp", "reference", "secret", ⟨.value .sha256, .value .hmacSHA256, 100⟩⟩
      signature := none }
  cmpTrust := ⟨⟨"cmp", "ca"⟩, none⟩
  transport := ⟨none⟩
  transaction := ⟨0, 0, 0, 0⟩
  grantedModifications := .unset

def plainIssuer : Issuer := ⟨.cmpIssuer, "default", "issuer", "issuer-uid", 1, plainSpec⟩

def plainObject : CertificateRequestObject :=
  { namespace_ := "default"
    name := "request"
    uid := "request-uid"
    annotations := ∅
    ownerReferences := []
    csr := .ok [1]
    duration := none }

def plainJob : Job := ⟨"", plainObject, plainIssuer⟩

def plainSecret : Secret :=
  { uid := "secret-uid"
    resourceVersion := "1"
    labels := ∅
    annotations := ∅
    ownerReferences := []
    data := (((∅ : GoMap String Bytes).insert "ca" [4]).insert "reference" [5]).insert "secret" [6] }

/-- The deployment of the issuer with a stored object and the answers of its CMP server. -/
def plainDeployment (slot : Option CMPTransaction) (replies : List HTTPAnswer) : Deployment where
  cluster := .start slot
  secrets _ := .ok plainSecret
  certificates _ := .error ⟨.notFound, "no certificate"⟩
  clock := 10
  replies := replies

def irIssuer : Issuer :=
  { plainIssuer with spec := { plainSpec with protocol := { plainSpec.protocol with
      initialEnrollment := .value .ir } } }

def irObject : CertificateRequestObject :=
  { plainObject with
    annotations := (∅ : GoMap String String).insert certificateRequestRevisionAnnotationKey "1"
    ownerReferences := [⟨certManagerGroupVersion, certificateKind, "certificate", "certificate-uid",
      some true⟩] }

def irJob : Job := ⟨"", irObject, irIssuer⟩

/-- The record of an enrollment that was started for a request. -/
def plainRecord (job : Job) (operation : Operation) : CMPTransaction :=
  let created := (newTransaction job.request plainTransactionID 1000
    { csrDigest := csrDigestHex plainLibrary [1]
      issuerRef := issuerReference job.issuer
      configurationDigest := "digest"
      operation
      protocolVersion := cmpProtocolVersion
      renewalFallback := .unset }).created ⟨"record-uid", "1", 10⟩
  { created with status := created.status.enrolling 10 }

/-- The reference to the Certificate of a request. -/
def certificateOwner : OwnerReference :=
  ⟨certManagerGroupVersion, certificateKind, "certificate", "certificate-uid", some true⟩

/-- A later request for the Certificate, with the key that is staged for it. -/
def kurObject : CertificateRequestObject :=
  { plainObject with
    annotations := ((∅ : GoMap String String).insert certificateRequestRevisionAnnotationKey "2").insert
      certificateRequestPrivateKeyAnnotationKey "staged"
    ownerReferences := [certificateOwner] }

def kurJob : Job := ⟨"", kurObject, irIssuer⟩

def renewedCertificate : CertManagerCertificate :=
  { name := "certificate"
    uid := "certificate-uid"
    deleted := false
    secretName := "current"
    issuerName := "issuer"
    issuerKind := "CMPIssuer"
    issuerGroup := issuerGroup
    revision := some 1
    nextPrivateKeySecretName := some "staged" }

def stagedSecret : Secret :=
  { uid := "staged-uid"
    resourceVersion := "1"
    labels := (∅ : GoMap String String).insert isNextPrivateKeySecretLabelKey "true"
    annotations := ∅
    ownerReferences := [certificateOwner]
    data := (∅ : GoMap String Bytes).insert tlsPrivateKeyKey [7] }

def currentSecret : Secret :=
  { uid := "current-uid"
    resourceVersion := "1"
    labels := ∅
    annotations := (∅ : GoMap String String).insert certificateNameKey "certificate"
    ownerReferences := []
    data := ((∅ : GoMap String Bytes).insert tlsCertKey [2]).insert tlsPrivateKeyKey [6] }

/-- A deployment with a Certificate to be renewed, its current Secret and its staged key. -/
def renewalDeployment (slot : Option CMPTransaction) (replies : List HTTPAnswer) : Deployment :=
  { plainDeployment slot replies with
    secrets := fun key => .ok (if key.name = "staged" then stagedSecret
      else if key.name = "current" then currentSecret else plainSecret)
    certificates := fun _ => .ok renewedCertificate }

/-- Two overlapping calls: the first has recorded a certificate when the second loads the record, confirms
the certificate and returns it. The first is still at work. -/
theorem plain_overlap : ∃ pool : Signers, SharedRun plainLibrary plainJob.subject none pool ∧
    ∃ first second, pool.threads = [first, second] ∧ first.program.outcome? = none ∧
      second.program = .pure [3, 4] := by
  let d := plainDeployment none [plainReply 2 [9], plainReply 3 [9, 9]]
  refine ⟨_, (d.overlap_run plainLibrary plainJob 15 40 1 rfl).shared, _, _, rfl, by decide +kernel, ?_⟩
  exact Program.eq_ofExcept_of_outcome (r := .ok [3, 4]) (by decide +kernel)

end CmpIssuer
