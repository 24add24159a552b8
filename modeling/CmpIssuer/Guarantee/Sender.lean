import CmpIssuer.Guarantee.Digest
import CmpIssuer.Guarantee.Recipient
import CmpIssuer.Guarantee.Response
import CmpIssuer.Guarantee.Workload

/-!
Who the messages of a key update say they come from. All of them are protected
with one certificate, that of the first message. The KUR names its subject. The
other messages name it as well, unless the issuer configures a sender.
-/
namespace CmpIssuer
open Effect

/-- What `pkicmp` does with the sender of a message. -/
structure SenderLaws (lib : Library) : Prop where
  new : ∀ body options drawn, (lib.newPKIMessage body options drawn).header.sender = options.sender
  protect : ∀ credentials drawn message sealed_, lib.protect credentials drawn message = .ok sealed_ →
    sealed_.header.sender = message.header.sender

/-- The sender of a message of a key update that is protected with this certificate. -/
def Issuer.messageSender (lib : Library) (issuer : Issuer) (certificate : Certificate) (type : BodyType) :
    GeneralName :=
  if type = .kur then certificateSubject lib certificate
  else
    match configuredSender lib issuer.spec.protocol with
    | .ok (some sender) => lib.newDirectoryName sender
    | _ => certificateSubject lib certificate

section
variable {lib : Library}

theorem Speaks.sender (laws : MessageLaws lib) (names : SenderLaws lib) {call : ClientCall}
    {sent : HTTPRequest} {signature : SignatureProtection} {issuer : Issuer} (speaks : Speaks lib call sent)
    (protection : call.request.protection = { password := none, signature := some signature })
    (configured : configuredSender lib issuer.spec.protocol = .ok call.request.sender) :
    sent.message.header.sender = issuer.messageSender lib signature.certificate sent.message.body.type := by
  obtain ⟨credentials, drawn, built, body, options, _, sealed_, content, from_, named⟩ := speaks.built
  rw [names.protect _ _ _ _ sealed_, from_, names.new, laws.protect_body _ _ _ _ sealed_, content, laws.body]
  generalize options.sender = sender at named
  cases named with
  | request other =>
      rw [Issuer.messageSender, if_neg other, configured, requestSender, protection]
      cases call.request.sender <;> rfl
  | update protected_ =>
      cases protection.symm.trans protected_
      rfl

end

/-- The Secrets that the calls of a pool have read. -/
def Signers.secretsRead (pool : Signers) : List (NamespacedName × Secret) :=
  pool.threads.flatMap fun thread => CmpIssuer.secretsRead thread.trace

/-- Nothing that the calls of a pool hash for their configuration digests collides. -/
def Signers.CollisionFree (lib : Library) (pool : Signers) : Prop :=
  ∀ thread ∈ pool.threads, ∀ thread' ∈ pool.threads, ∀ first second,
    Hashed lib thread.job.issuer pool.secretsRead first →
    Hashed lib thread'.job.issuer pool.secretsRead second → lib.sha256 first = lib.sha256 second →
    first = second

/-- An issuer of the same UID and generation is the same issuer. -/
def Signers.GenerationsTell (pool : Signers) : Prop :=
  ∀ thread ∈ pool.threads, ∀ thread' ∈ pool.threads, thread.job.issuer.uid = thread'.job.issuer.uid →
    thread.job.issuer.generation = thread'.job.issuer.generation → thread.job.issuer = thread'.job.issuer

/-- A message that a call of the pool has sent for the key update with this UID. -/
def Signers.KeyUpdates (lib : Library) (pool : Signers) (uid : String)
    (thread : Thread interface (Fault GoError) Bytes Job) (sent : HTTPRequest) : Prop :=
  thread ∈ pool.threads ∧ ∃ t answer rest hold call, thread.trace = t ++ ⟨.send sent, answer⟩ :: rest ∧
    ((contract lib).run (Session.begin thread.job) t).stage.serving = some (hold, call) ∧
    hold.record.uid = uid ∧ hold.record.spec.operation = .kur

section
variable {lib : Library} {subject : Subject} {slot : Option CMPTransaction} {pool : Signers}
  {thread : Thread interface (Fault GoError) Bytes Job}

/-- What stands behind a message of a call in a pool. -/
theorem SharedRun.spoken (run : SharedRun lib subject slot pool) (unclaimed : Unclaimed subject slot)
    (member : thread ∈ pool.threads) {t rest : Trail} {sent : HTTPRequest} {answer : HTTPAnswer} {hold : Hold}
    {call : ClientCall} (split : thread.trace = t ++ ⟨.send sent, answer⟩ :: rest)
    (serving : ((contract lib).run (Session.begin thread.job) t).stage.serving = some (hold, call)) :
    hold.record ∈ pool.world.past ∧ ∃ before, before ⊆ thread.trace ∧
      Hands lib thread.job before hold call ∧ Speaks lib call sent := by
  have path := (Pool.Reach.path run thread member).2
  rw [split] at path
  obtain ⟨p, first, rest⟩ := path.append_inv
  cases rest with
  | step _ rest =>
      obtain ⟨hold', call', before, served, passed, hands, speaks⟩ := sign_speaks first
      cases serving.symm.trans served
      refine ⟨run.worked unclaimed member split (Stage.hold_of_serving serving), before, ?_, hands, speaks⟩
      intro e seen
      rw [split]
      exact List.mem_append_left _ (passed.subset (List.mem_append_left _ seen))

/-- A message of a key update: what protects it, what was prepared for it and whom it names. -/
theorem SharedRun.keyUpdate (laws : MessageLaws lib) (names : SenderLaws lib)
    (run : SharedRun lib subject slot pool) (unclaimed : Unclaimed subject slot) {uid : String}
    {sent : HTTPRequest} (updates : pool.KeyUpdates lib uid thread sent) :
    ∃ record ∈ pool.world.past, ∃ signature first second csrDER configuration prepared,
      record.uid = uid ∧ record.spec.operation = .kur ∧
      Preparation lib thread.job.clusterResourceNamespace thread.job.request thread.job.issuer .kur csrDER
        first second configuration prepared ∧
      CmpIssuer.secretsRead first ⊆ pool.secretsRead ∧ CmpIssuer.secretsRead second ⊆ pool.secretsRead ∧
      record.spec.configurationDigest = prepared.configuration.configurationDigest ∧
      prepared.enrollment.protection = { password := none, signature := some signature } ∧
      SignedWith lib signature sent ∧ sent.message.header.sender =
        thread.job.issuer.messageSender lib signature.certificate sent.message.body.type := by
  obtain ⟨member, t, answer, rest, hold, call, split, serving, identified, update⟩ := updates
  obtain ⟨stored, before, seen, hands, speaks⟩ := run.spoken unclaimed member split serving
  obtain ⟨_, signature, _, protection, _⟩ := hands.enrolls.prepared.authorizes.kur update
  obtain ⟨first, second, configuration, prepared, preparation, readsIn, workIn, _, own, secrets, sender⟩ :=
    hands.enrolls.prepared.preparation
  rw [update] at preparation
  have within : ∀ {u : Trail}, u ⊆ before → CmpIssuer.secretsRead u ⊆ pool.secretsRead := by
    intro u inside entry found
    exact List.mem_flatMap.mpr ⟨thread, member, secretsRead_mono (List.Subset.trans inside seen) found⟩
  have protected_ : call.request.protection = { password := none, signature := some signature } :=
    call.request_protection.trans protection
  have configured : configuredSender lib thread.job.issuer.spec.protocol = .ok call.request.sender := by
    rw [call.request_sender, sender, preparation.made.sender]
    exact preparation.sender
  exact ⟨hold.record, stored, signature, first, second, _, configuration, prepared, identified, update,
    preparation, within readsIn, within workIn, own, secrets.protection.symm.trans protection,
    speaks.signedWith protected_, speaks.sender laws names protected_ configured⟩

end

/-- The messages of one key update, over any run and in any interleaving: one certificate protects them
all, the KUR names its subject, and the others name the sender the issuer configures or else that
subject. -/
theorem key_update_sender {lib : Library} (laws : MessageLaws lib) (names : SenderLaws lib)
    (size : FixedSize lib) (encoding : EncodesIdentity lib) {subject : Subject}
    {slot : Option CMPTransaction} (unclaimed : Unclaimed subject slot) {pool : Signers}
    (run : SharedRun lib subject slot pool) (generations : pool.GenerationsTell)
    (free : pool.CollisionFree lib) {uid : String}
    {thread thread' : Thread interface (Fault GoError) Bytes Job} {sent sent' : HTTPRequest}
    (first : pool.KeyUpdates lib uid thread sent) (second : pool.KeyUpdates lib uid thread' sent') :
    thread.job.issuer = thread'.job.issuer ∧ ∃ signature,
      SignedWith lib signature sent ∧ SignedWith lib signature sent' ∧
      sent.message.header.sender =
        thread.job.issuer.messageSender lib signature.certificate sent.message.body.type ∧
      sent'.message.header.sender =
        thread.job.issuer.messageSender lib signature.certificate sent'.message.body.type := by
  obtain ⟨record, stored, signature, reads, work, _, _, prepared, identified, _, preparation, readsIn,
    workIn, own, protection, signed, named⟩ := run.keyUpdate laws names unclaimed first
  obtain ⟨record', stored', signature', reads', work', _, _, prepared', identified', _, preparation',
    readsIn', workIn', own', protection', signed', named'⟩ := run.keyUpdate laws names unclaimed second
  have terms := run.sameTerms unclaimed record stored record' stored' (identified.trans identified'.symm)
  have digest : prepared'.configuration.configurationDigest = prepared.configuration.configurationDigest := by
    rw [← own, ← own']
    exact (congrArg CMPTransactionSpec.configurationDigest terms).symm
  have identity := identity_of_digest encoding (free thread first.1 thread' second.1)
    (preparation.covers.mono (List.append_subset.mpr ⟨readsIn, workIn⟩))
    (preparation'.covers.mono (List.append_subset.mpr ⟨readsIn', workIn'⟩)) preparation.digest
    (by rw [preparation'.digest, digest])
  have issuer : thread.job.issuer = thread'.job.issuer := generations thread first.1 thread' second.1
    (congrArg ConfigurationIdentity.issuerUID identity)
    (congrArg ConfigurationIdentity.issuerGeneration identity)
  have lookups := secretIdentities_lookup (congrArg ConfigurationIdentity.secrets identity)
  rw [← issuer] at preparation' named'
  have same := (preparation.sameWorkload preparation' lookups size
    (free thread first.1 thread first.1) workIn workIn').2
  have certificate : signature = signature' := by
    rcases same with equal | ⟨other, _⟩
    · rw [protection, protection'] at equal
      cases equal
      rfl
    · exact absurd rfl other
  subst certificate
  exact ⟨issuer, signature, signed, signed', named, named'⟩

/-- A library with directory names, whose server answers a key update with waiting. -/
def renewalLibrary : Library :=
  digestLibrary { namingLibrary with
    newDirectoryNameFromRawDER := fun raw => ⟨[], raw⟩
    parsePKIMessage := fun data =>
      let response := plainResponse (data.drop 1) (.kup (.ok ⟨[], [⟨0, ⟨.waiting, [], []⟩, none⟩]⟩))
      .ok { response with header := { response.header with
        sender := ⟨[[⟨oidCommonName, .string "CA"⟩]], []⟩ } } } renewalIdentities

/-- The request with an issuer that configures a sender. -/
def namedJob (sender : String) : Job :=
  { kurJob with issuer := { irIssuer with spec := { irIssuer.spec with
      protocol := { irIssuer.spec.protocol with sender } } } }

/-- The message of a key update that stands at some place of a call. -/
def keyUpdateAt (lib : Library) (thread : Thread interface (Fault GoError) Bytes Job) (n : Nat) :
    Option (String × HTTPRequest) := do
  let e ← thread.trace[n]?
  let sent ← e.op.message?
  let (hold, _) ← ((contract lib).run (Session.begin thread.job) (thread.trace.take n)).stage.serving
  if hold.record.spec.operation = .kur then some (hold.record.uid, sent) else none

theorem keyUpdates_of_at {lib : Library} {pool : Signers} {thread : Thread interface (Fault GoError) Bytes Job}
    {n : Nat} {uid : String} {sent : HTTPRequest} (member : thread ∈ pool.threads)
    (found : keyUpdateAt lib thread n = some (uid, sent)) : pool.KeyUpdates lib uid thread sent := by
  obtain ⟨⟨o, answer⟩, place, speaks⟩ := Option.bind_eq_some_iff.mp found
  obtain ⟨sent', message, works⟩ := Option.bind_eq_some_iff.mp speaks
  obtain ⟨⟨hold, call⟩, serving, updates⟩ := Option.bind_eq_some_iff.mp works
  obtain rfl := Op.eq_send message
  dsimp only at updates
  split at updates
  · rename_i update
    cases updates
    obtain ⟨inside, same⟩ := List.getElem?_eq_some_iff.mp place
    refine ⟨member, thread.trace.take n, answer, thread.trace.drop (n + 1), hold, call, ?_, serving, rfl, update⟩
    rw [← same, List.cons_getElem_drop_succ, List.take_append_drop]
  · cases updates

theorem renewalLibrary_message : MessageLaws renewalLibrary where
  body _ _ _ := rfl
  transactionID _ _ _ _ := rfl
  senderNonce _ _ _ := rfl
  protect_body := by rintro _ _ _ _ ⟨⟩; rfl
  protect_transactionID := by rintro _ _ _ _ ⟨⟩; rfl
  protect_senderNonce := by rintro _ _ _ _ ⟨⟩; rfl

theorem renewalLibrary_sender : SenderLaws renewalLibrary where
  new _ _ _ := rfl
  protect := by rintro _ _ _ _ ⟨⟩; rfl

/-- Two calls for one key update in a deployment, and the senders of their messages. -/
def sendersIn (d : Deployment) (sender : String) : Option (String × String × GeneralName × GeneralName) := do
  let pool := d.pool renewalLibrary (namedJob sender) 40 2
  let (uid, sent) ← pool.threads[0]?.bind (keyUpdateAt renewalLibrary · 16)
  let (uid', sent') ← pool.threads[1]?.bind (keyUpdateAt renewalLibrary · 10)
  return (uid, uid', sent.message.header.sender, sent'.message.header.sender)

theorem keyUpdates_of_senders {d : Deployment} {sender uid : String} {name name' : GeneralName}
    (initial : d.cluster = .start none) (found : sendersIn d sender = some (uid, uid, name, name')) :
    ∃ thread thread' sent sent',
      SharedRun renewalLibrary kurJob.subject none (d.pool renewalLibrary (namedJob sender) 40 2) ∧
      (d.pool renewalLibrary (namedJob sender) 40 2).KeyUpdates renewalLibrary uid thread sent ∧
      (d.pool renewalLibrary (namedJob sender) 40 2).KeyUpdates renewalLibrary uid thread' sent' ∧
      sent.message.header.sender = name ∧ sent'.message.header.sender = name' := by
  obtain ⟨⟨_, sent⟩, first, later⟩ := Option.bind_eq_some_iff.mp found
  obtain ⟨⟨_, sent'⟩, second, same⟩ := Option.bind_eq_some_iff.mp later
  cases same
  obtain ⟨thread, member, update⟩ := Option.bind_eq_some_iff.mp first
  obtain ⟨thread', member', update'⟩ := Option.bind_eq_some_iff.mp second
  exact ⟨thread, thread', sent, sent', (d.pool_run renewalLibrary (namedJob sender) 40 2 initial).shared,
    keyUpdates_of_at (List.mem_of_getElem? member) update,
    keyUpdates_of_at (List.mem_of_getElem? member') update', rfl, rfl⟩

/-- A key update and its first poll, without a configured sender. -/
theorem key_update_sender_polled : ∃ pool uid thread thread' sent sent' signature,
    SharedRun renewalLibrary kurJob.subject none pool ∧
    pool.KeyUpdates renewalLibrary uid thread sent ∧ pool.KeyUpdates renewalLibrary uid thread' sent' ∧
    SignedWith renewalLibrary signature sent ∧ SignedWith renewalLibrary signature sent' ∧
    sent.message.header.sender = certificateSubject renewalLibrary signature.certificate ∧
    sent'.message.header.sender = certificateSubject renewalLibrary signature.certificate := by
  obtain ⟨d, initial, updates, distinct⟩ : ∃ d : Deployment, d.cluster = .start none ∧
      sendersIn d "" = some ("v", "v", ⟨[], [2]⟩, ⟨[], [2]⟩) ∧
      DistinctInputs renewalIdentities (d.pool renewalLibrary (namedJob "") 40 2).secretsRead :=
    ⟨renewalDeployment none [plainReply 4 [9]], rfl, by decide +kernel, by decide +kernel⟩
  obtain ⟨thread, thread', sent, sent', run, first, second, _⟩ := keyUpdates_of_senders initial updates
  have jobs := d.pool_job renewalLibrary (namedJob "") 40 2
  have generations : (d.pool renewalLibrary (namedJob "") 40 2).GenerationsTell :=
    fun thread member thread' member' _ _ => by rw [jobs thread member, jobs thread' member']
  obtain ⟨_, signature, signed, signed', named, named'⟩ := key_update_sender renewalLibrary_message
    renewalLibrary_sender (digestLibrary_size _ _) (digestLibrary_encodes _ _) (by rintro _ ⟨⟩) run generations
    (fun _ _ _ _ => distinct.free) first second
  have subject : ∀ type, thread.job.issuer.messageSender renewalLibrary signature.certificate type =
      certificateSubject renewalLibrary signature.certificate := by
    intro type
    rw [jobs thread first.1]
    exact ite_self _
  rw [subject] at named named'
  exact ⟨_, _, thread, thread', sent, sent', signature, run, first, second, signed, signed', named, named'⟩

/-- With a configured sender the KUR and the poll that follows it name two senders. -/
theorem configured_sender_differs : ∃ pool uid thread thread' sent sent',
    SharedRun renewalLibrary kurJob.subject none pool ∧
    pool.KeyUpdates renewalLibrary uid thread sent ∧ pool.KeyUpdates renewalLibrary uid thread' sent' ∧
    sent.message.header.sender ≠ sent'.message.header.sender := by
  obtain ⟨d, initial, updates⟩ : ∃ d : Deployment, d.cluster = .start none ∧ sendersIn d "CN=Other" =
      some ("v", "v", ⟨[], [2]⟩, ⟨[[⟨oidCommonName, .string "Other"⟩]], []⟩) :=
    ⟨renewalDeployment none [plainReply 4 [9]], rfl, by decide +kernel⟩
  obtain ⟨thread, thread', sent, sent', run, first, second, name, name'⟩ :=
    keyUpdates_of_senders initial updates
  refine ⟨_, _, thread, thread', sent, sent', run, first, second, ?_⟩
  rw [name, name']
  decide

end CmpIssuer
