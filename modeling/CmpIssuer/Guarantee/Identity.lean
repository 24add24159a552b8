import CmpIssuer.Cluster.Deployment
import CmpIssuer.Controller.Digest
import CmpIssuer.Protocol.Scan
import CmpIssuer.Text.Json

/-!
The identity of a runtime configuration, as it is hashed: the JSON of the issuer
reference and of the fingerprints in the order of their names, with empty fields
left out. It does not depend on the order of the map, and it determines the
reference and the map.
-/
namespace CmpIssuer
open Text (Json Quoting utf8 Token render)

/-- A field with the option `omitempty`. -/
def omitEmpty (key value : String) : List (String × Json) :=
  if value = "" then [] else [(key, .string value)]

/-- `secretIdentity`, as JSON. -/
def secretJson (secret : SecretIdentity) : Json :=
  .object ([("namespace", .string secret.namespace_), ("name", .string secret.name),
    ("uid", .string secret.uid), ("resourceVersion", .string secret.resourceVersion)] ++
    omitEmpty "dataDigest" secret.dataDigest)

/-- `TransactionIssuerReference`, as JSON. -/
def issuerJson (identity : ConfigurationIdentity) : Json :=
  .object ([("name", .string identity.issuerName), ("kind", .string identity.issuerKind)] ++
    omitEmpty "uid" identity.issuerUID ++
    if identity.issuerGeneration = 0 then [] else [("generation", .number identity.issuerGeneration)])

/-- What `runtimeConfigurationDigest` marshals. -/
def identityJson (identity : ConfigurationIdentity) : Json :=
  .object [("issuer", issuerJson identity), ("secrets", .array (identity.secrets.map secretJson))]

/-- `json.Marshal` writes the fields in order, without blanks, and strings by `quote`. -/
def MarshalsJson (lib : Library) (quote : String → List Char) : Prop :=
  ∀ identity, lib.marshalIdentity identity = .ok (utf8 ((identityJson identity).text quote))

def hashedIdentity (quote : String → List Char) (issuerRef : TransactionIssuerReference)
    (secrets : Fingerprints) : Bytes :=
  utf8 ((identityJson (configurationIdentity issuerRef secrets)).text quote)

/-- The same issuer reference. -/
structure SameReference (first second : TransactionIssuerReference) : Prop where
  name : first.name = second.name
  kind : first.kind.text = second.kind.text
  uid : first.uid = second.uid
  generation : first.generation = second.generation

theorem secretJson_injective : Function.Injective secretJson := by
  rintro ⟨_, _, _, _, digest⟩ ⟨_, _, _, _, digest'⟩ same
  simp only [secretJson, omitEmpty, Json.object.injEq, List.cons_append, List.nil_append, List.cons.injEq,
    Prod.mk.injEq, Json.string.injEq, true_and] at same
  obtain ⟨rfl, rfl, rfl, rfl, digests⟩ := same
  have equal : digest = digest' := by
    split at digests <;> split at digests <;> simp_all
  rw [equal]

theorem issuerJson_fields {first second : ConfigurationIdentity} (same : issuerJson first = issuerJson second) :
    first.issuerName = second.issuerName ∧ first.issuerKind = second.issuerKind ∧
      first.issuerUID = second.issuerUID ∧ first.issuerGeneration = second.issuerGeneration := by
  simp only [issuerJson, omitEmpty, Json.object.injEq, List.cons_append, List.nil_append, List.cons.injEq,
    Prod.mk.injEq, Json.string.injEq, true_and] at same
  obtain ⟨name, kind, rest⟩ := same
  refine ⟨name, kind, ?_⟩
  split at rest <;> split at rest <;> split at rest <;> split at rest <;> simp_all

theorem identityJson_injective : Function.Injective identityJson := by
  intro first second same
  simp only [identityJson, Json.object.injEq, List.cons.injEq, Prod.mk.injEq, Json.array.injEq, true_and,
    and_true] at same
  obtain ⟨name, kind, uid, generation⟩ := issuerJson_fields same.1
  have secrets := List.map_injective_iff.mpr secretJson_injective same.2
  obtain ⟨_, _, _, _, _⟩ := first
  obtain ⟨_, _, _, _, _⟩ := second
  cases name
  cases kind
  cases uid
  cases generation
  cases secrets
  rfl

theorem before_total (left right : SecretIdentity) : left.before right ∨ right.before left := by
  unfold SecretIdentity.before
  rcases lt_trichotomy left.namespace_ right.namespace_ with less | same | more
  · exact .inl (.inl less)
  · rcases le_total left.name right.name with less | more
    · exact .inl (.inr ⟨same, less⟩)
    · exact .inr (.inr ⟨same.symm, more⟩)
  · exact .inr (.inl more)

theorem before_trans {first second third : SecretIdentity} (one : first.before second)
    (two : second.before third) : first.before third := by
  unfold SecretIdentity.before at *
  rcases one with less | ⟨same, less⟩ <;> rcases two with less' | ⟨same', less'⟩
  · exact .inl (less.trans less')
  · exact .inl (same' ▸ less)
  · exact .inl (same ▸ less')
  · exact .inr ⟨same.trans same', less.trans less'⟩

instance : Std.Total SecretIdentity.before := ⟨before_total⟩

instance : IsTrans SecretIdentity SecretIdentity.before := ⟨fun _ _ _ => before_trans⟩

/-- One map gives one list of identities, in whatever order its entries are. -/
theorem secretIdentities_order {first second : Fingerprints}
    (same : ∀ key, first.lookup key = second.lookup key) : secretIdentities first = secretIdentities second := by
  have entries : first.entries.Perm second.entries :=
    List.lookup_ext first.nodupKeys second.nodupKeys fun key fingerprint => by
      have found := same key
      unfold AList.lookup at found
      rw [found]
  unfold secretIdentities
  refine List.Perm.eq_of_pairwise ?_ (List.pairwise_insertionSort _ _) (List.pairwise_insertionSort _ _)
    ((List.perm_insertionSort _ _).trans ((entries.map _).trans (List.perm_insertionSort _ _).symm))
  -- Two entries that neither precedes have one key, and a map has one entry for a key.
  intro left right member member' less more
  rw [(List.perm_insertionSort _ _).mem_iff, List.mem_map] at member member'
  obtain ⟨⟨key, fingerprint⟩, found, rfl⟩ := member
  obtain ⟨⟨key', fingerprint'⟩, found', rfl⟩ := member'
  have keys : key = key' := by
    obtain ⟨_, _⟩ := key
    obtain ⟨_, _⟩ := key'
    rcases less with less | ⟨namespaces, less⟩ <;> rcases more with more | ⟨namespaces', more⟩
    · exact absurd (less.trans more) (lt_irrefl _)
    · exact absurd (namespaces' ▸ less) (lt_irrefl _)
    · exact absurd (namespaces ▸ more) (lt_irrefl _)
    · cases namespaces
      cases le_antisymm less more
      rfl
  subst keys
  have values : some fingerprint = some fingerprint' := by
    rw [← AList.mem_lookup_iff.mpr found, ← AList.mem_lookup_iff.mpr found', same]
  cases values
  rfl

section
variable {lib : Library} {quote : String → List Char}

theorem MarshalsJson.encodesIdentity (marshals : MarshalsJson lib quote) (quoting : Quoting quote) :
    EncodesIdentity lib := by
  intro first second encoded one other
  cases (marshals first).symm.trans one
  have same : utf8 ((identityJson second).text quote) = utf8 ((identityJson first).text quote) :=
    Except.ok.inj ((marshals second).symm.trans other)
  exact identityJson_injective (Json.text_injective quoting (Text.utf8_injective same.symm))

/-- The bytes that the digest hashes are equal exactly for equal references and equal maps. -/
theorem digest_input_canonical (quoting : Quoting quote) (marshals : MarshalsJson lib quote) :
    (∀ issuerRef secrets, runtimeConfigurationDigest lib issuerRef secrets =
      .ok (hexEncode (lib.sha256 (hashedIdentity quote issuerRef secrets)))) ∧
    ∀ issuerRef issuerRef' secrets secrets',
      hashedIdentity quote issuerRef secrets = hashedIdentity quote issuerRef' secrets' ↔
        SameReference issuerRef issuerRef' ∧ ∀ key, secrets.lookup key = secrets'.lookup key := by
  refine ⟨fun issuerRef secrets => ?_, fun issuerRef issuerRef' secrets secrets' => ⟨fun same => ?_, ?_⟩⟩
  · have marshalled := marshals (configurationIdentity issuerRef secrets)
    unfold configurationIdentity at marshalled
    rw [runtimeConfigurationDigest, marshalled]
    rfl
  · have identities := marshals.encodesIdentity quoting (configurationIdentity issuerRef secrets)
      (configurationIdentity issuerRef' secrets') _ (marshals _)
      ((marshals _).trans (congrArg Except.ok same.symm))
    refine ⟨⟨?_, ?_, ?_, ?_⟩, secretIdentities_lookup (congrArg ConfigurationIdentity.secrets identities)⟩
    · exact congrArg ConfigurationIdentity.issuerName identities
    · exact congrArg ConfigurationIdentity.issuerKind identities
    · exact congrArg ConfigurationIdentity.issuerUID identities
    · exact congrArg ConfigurationIdentity.issuerGeneration identities
  · rintro ⟨reference, same⟩
    unfold hashedIdentity configurationIdentity
    rw [reference.name, reference.kind, reference.uid, reference.generation, secretIdentities_order same]

end

/-- How a quoting that escapes backslashes and quotation marks writes a character. -/
def quotedToken (c : Char) : Token :=
  if h : c = '\\' ∨ c = '"' then .escaped c else .plain c fun same => h (.inl same)

def plainQuote (value : String) : List Char := '"' :: render (value.toList.map quotedToken) ++ ['"']

theorem plainQuote_quoting : Quoting plainQuote where
  injective := by
    intro first second same
    have bodies : render (first.toList.map quotedToken) = render (second.toList.map quotedToken) := by
      simpa [plainQuote] using same
    have read : ∀ text : List Char, (unescape false (render (text.map quotedToken))).1 = text := by
      intro text
      have scanned := unescape_render (text.map quotedToken) []
      rw [List.append_nil] at scanned
      rw [scanned, List.map_map]
      simp only [unescape, List.append_nil]
      conv_rhs => rw [← List.map_id text]
      refine List.map_congr_left fun c _ => ?_
      simp only [Function.comp_apply, quotedToken]
      split <;> rfl
    exact String.toList_injective (by rw [← read first.toList, bodies, read])
  form value := by
    refine ⟨value.toList.map quotedToken, rfl, fun c bare member => ?_⟩
    obtain ⟨d, _, same⟩ := List.mem_map.mp member
    unfold quotedToken at same
    split at same
    · cases same
    · rename_i plain
      cases same
      exact fun quotation => plain (.inr quotation)

def jsonLibrary : Library :=
  { plainLibrary with
    marshalIdentity := fun identity => .ok (utf8 ((identityJson identity).text plainQuote)) }

/-- Two orders of one map, one of its fingerprints without a version and one without a digest. -/
theorem digest_input_canonical_reordered : ∃ (issuerRef : TransactionIssuerReference)
    (first second : Fingerprints), first.entries ≠ second.entries ∧
      runtimeConfigurationDigest jsonLibrary issuerRef first =
        runtimeConfigurationDigest jsonLibrary issuerRef second := by
  let credential : Sigma fun _ : NamespacedName => SecretFingerprint := ⟨⟨"ns", "cmp"⟩, ⟨"u1", "7", ""⟩⟩
  let staged : Sigma fun _ : NamespacedName => SecretFingerprint := ⟨⟨"ns", "next"⟩, ⟨"u2", "", "aa"⟩⟩
  let first : Fingerprints := ⟨[credential, staged], by unfold List.NodupKeys; decide⟩
  let second : Fingerprints := ⟨[staged, credential], by unfold List.NodupKeys; decide⟩
  let issuerRef : TransactionIssuerReference := ⟨"issuer", .namespaced, "", 1⟩
  obtain ⟨digests, canonical⟩ := digest_input_canonical plainQuote_quoting
    (show MarshalsJson jsonLibrary plainQuote from fun _ => rfl)
  have same : ∀ key, first.lookup key = second.lookup key := by
    intro key
    exact AList.perm_lookup (List.Perm.swap _ _ _)
  refine ⟨issuerRef, first, second, by decide, ?_⟩
  rw [digests, digests, (canonical issuerRef issuerRef first second).mpr ⟨⟨rfl, rfl, rfl, rfl⟩, same⟩]

end CmpIssuer
