import CmpIssuer.Cluster.Deployment
import CmpIssuer.Protocol.Attributes

/-!
What the issuer makes of names. The identity check of a key update compares
multisets: of the attributes of the subjects and of the encoded alternative
names.
-/
namespace CmpIssuer

section
variable (lib : Library)

def decodedSubject (raw : Bytes) : Option RDNSequence :=
  match lib.unmarshalRDNSequence raw with
  | .ok (sequence, []) => some sequence
  | _ => none

/-- The GeneralNames of an extension that decodes completely. -/
def decodedNames (extension : Extension) : Option (List Bytes) :=
  match lib.unmarshalRawValues extension.value with
  | .ok (names, []) => some names
  | _ => none

/-- The subjectAltName extensions of a certificate or a CSR. -/
def alternativeNameExtensions (extensions : List Extension) : List Extension :=
  extensions.filter fun extension => extension.id == oidSubjectAltName

def encodedNames (extensions : List Extension) : Option (List Bytes) :=
  ((alternativeNameExtensions extensions).mapM (decodedNames lib)).map List.flatten

/-- The same identity: complete subjects with the same attributes and complete alternative names, each as
often on one side as on the other. -/
def EqualIdentity (certificate : Certificate) (csr : CertificateRequest) : Prop :=
  ∃ subject requested names requestedNames,
    decodedSubject lib certificate.rawSubject = some subject ∧
    decodedSubject lib csr.rawSubject = some requested ∧
    encodedNames lib certificate.extensions = some names ∧
    encodedNames lib csr.extensions = some requestedNames ∧
    subject.flatten.Perm requested.flatten ∧ names.Perm requestedNames

end

section
variable {lib : Library}

theorem rawAttributeSet_eq (raw : Bytes) : rawAttributeSet lib raw =
    match decodedSubject lib raw with
    | some sequence => .ok (attributeSet sequence)
    | none => .error (.text "parse distinguished name") := by
  unfold rawAttributeSet decodedSubject
  rcases lib.unmarshalRDNSequence raw with _ | ⟨sequence, _ | ⟨_, _⟩⟩ <;> rfl

theorem encodedNames_single {extensions : List Extension}
    (single : (alternativeNameExtensions extensions).length ≤ 1) :
    encodedNames lib extensions =
      match extensions.find? fun extension => extension.id == oidSubjectAltName with
      | none => some []
      | some extension => decodedNames lib extension := by
  unfold encodedNames
  rw [← List.head?_filter]
  unfold alternativeNameExtensions at single ⊢
  generalize extensions.filter (fun extension => extension.id == oidSubjectAltName) = found at single
  match found with
  | [] => rfl
  | [extension] => cases decoded : decodedNames lib extension <;> simp [decoded]
  | _ :: _ :: _ => simp at single

theorem generalNameSet_eq {extensions : List Extension}
    (single : (alternativeNameExtensions extensions).length ≤ 1) : generalNameSet lib extensions =
    match encodedNames lib extensions with
    | some names => .ok ((names.map hexEncode).insertionSort (· ≤ ·))
    | none => .error (.text "parse subject alternative names") := by
  rw [encodedNames_single single]
  unfold generalNameSet
  cases extensions.find? fun extension => extension.id == oidSubjectAltName with
  | none => rfl
  | some extension =>
      dsimp only [decodedNames]
      rcases lib.unmarshalRawValues extension.value with _ | ⟨names, _ | ⟨_, _⟩⟩ <;> rfl

/-- The check of a key update compares what the two sides encode, whatever the order. -/
theorem key_update_identity_iff {certificate : Certificate} {csr : CertificateRequest}
    (strings : ∀ raw ∈ [certificate.rawSubject, csr.rawSubject], ∀ sequence,
      decodedSubject lib raw = some sequence → StringValued sequence.flatten)
    (single : ∀ extensions ∈ [certificate.extensions, csr.extensions],
      (alternativeNameExtensions extensions).length ≤ 1) :
    sameKURIdentity lib certificate csr = true ↔ EqualIdentity lib certificate csr := by
  unfold sameKURIdentity EqualIdentity
  rw [rawAttributeSet_eq, rawAttributeSet_eq, generalNameSet_eq (single _ List.mem_cons_self),
    generalNameSet_eq (single _ (List.mem_cons_of_mem _ List.mem_cons_self))]
  have certificateStrings := strings _ List.mem_cons_self
  have requestStrings := strings _ (List.mem_cons_of_mem _ List.mem_cons_self)
  cases decoded : decodedSubject lib certificate.rawSubject with
  | none => simp
  | some subject =>
      cases decoded' : decodedSubject lib csr.rawSubject with
      | none => simp
      | some requested =>
          have subjects : attributeSet subject = attributeSet requested ↔
              subject.flatten.Perm requested.flatten := by
            rw [attributeSet_eq_iff, pair_perm_iff (certificateStrings _ decoded) (requestStrings _ decoded')]
          dsimp only
          by_cases same : attributeSet subject = attributeSet requested
          · rw [if_neg (not_not.mpr same)]
            cases encodedNames lib certificate.extensions with
            | none => simp
            | some names =>
                cases encodedNames lib csr.extensions with
                | none => simp
                | some requestedNames =>
                    simp [subjects.mp same, insertionSort_eq_iff, List.map_perm_map_iff hexEncode_injective]
          · rw [if_pos same]
            simp [mt subjects.mpr same]

end

/-- A library that reads one attribute, or one name, from each byte. -/
def bytewiseLibrary : Library :=
  { plainLibrary with
    unmarshalRDNSequence := fun raw => .ok ([raw.map fun b => ⟨[b.toNat], .string "x"⟩], [])
    unmarshalRawValues := fun raw => .ok (raw.map fun b => [b], []) }

/-- A certificate and a CSR with the same attributes and names in another order. -/
theorem key_update_identity_iff_reordered : ∃ (certificate : Certificate) (csr : CertificateRequest),
    certificate.rawSubject ≠ csr.rawSubject ∧ certificate.extensions ≠ csr.extensions ∧
    sameKURIdentity bytewiseLibrary certificate csr = true := by
  let certificate : Certificate :=
    { plainCertificate [1] with rawSubject := [1, 2, 2], extensions := [⟨oidSubjectAltName, [5, 6]⟩] }
  let csr : CertificateRequest := ⟨[1], [2, 1, 2], .other [7], [⟨oidSubjectAltName, [6, 5]⟩]⟩
  refine ⟨certificate, csr, by decide, by decide, ?_⟩
  refine (key_update_identity_iff ?_ (by decide)).mpr ?_
  · intro raw _ sequence decoded entry member
    cases decoded
    simp only [List.flatten_cons, List.flatten_nil, List.append_nil, List.mem_map] at member
    obtain ⟨b, _, rfl⟩ := member
    exact ⟨"x", rfl⟩
  · exact ⟨_, _, _, _, rfl, rfl, rfl, rfl, by decide, by decide⟩

end CmpIssuer
