import CmpIssuer.Protocol.Name
import CmpIssuer.Text.Basic
import Mathlib.Data.List.Perm.Basic

/-!
What the comparisons of distinguished names compare. A rendered attribute
determines its type and value, so equal attribute sets are equal multisets of
attributes. A configured name is parsed into a structure with fields for one
value and fields for several, and the attributes that structure holds are those
written in the text unless a field for one value is written twice.
-/
namespace CmpIssuer

def AttributeValue.text : AttributeValue → String
  | .string value => value
  | .other rendered => rendered

/-- An attribute as it is compared: its type and the text of its value. -/
def AttributeTypeAndValue.pair (entry : AttributeTypeAndValue) : OID × String :=
  (entry.type, entry.value.text)

/-- The rendering of `attributeSet`, on such a pair. -/
def renderPair (pair : OID × String) : String := OID.text pair.1 ++ "=" ++ pair.2

theorem AttributeTypeAndValue.text_eq (entry : AttributeTypeAndValue) :
    entry.text = renderPair entry.pair := by
  obtain ⟨type, value⟩ := entry
  cases value <;> rfl

theorem toString_toList (n : Nat) : (toString n).toList = Nat.toDigits 10 n := Nat.toList_repr

theorem isDigit_of_mem_repr {n : Nat} {c : Char} (member : c ∈ (toString n).toList) : c.isDigit = true := by
  rw [toString_toList] at member
  exact Nat.isDigit_of_mem_toDigits (by decide) (by decide) member

theorem OID.text_toList (oid : OID) :
    (OID.text oid).toList = ['.'].intercalate (oid.map fun n => (toString n).toList) := by
  unfold OID.text
  rw [String.toList_intercalate, List.map_map]
  rfl

theorem OID.equals_not_mem (oid : OID) : '=' ∉ (OID.text oid).toList := by
  rw [OID.text_toList]
  intro member
  rcases Text.mem_intercalate member with same | ⟨list, found, inside⟩
  · cases same
  · obtain ⟨n, _, rfl⟩ := List.mem_map.mp found
    exact absurd (isDigit_of_mem_repr inside) (by decide)

theorem OID.text_injective : Function.Injective OID.text := by
  intro first second same
  have lists := congrArg String.toList same
  rw [OID.text_toList, OID.text_toList] at lists
  have digits : ∀ oid : OID, ∀ list ∈ oid.map fun n => (toString n).toList, '.' ∉ list := by
    intro oid list found member
    obtain ⟨n, _, rfl⟩ := List.mem_map.mp found
    exact absurd (isDigit_of_mem_repr member) (by decide)
  have present : ∀ (n : Nat) (rest : List (List Char)),
      ['.'].intercalate ((toString n).toList :: rest) ≠ [] := by
    intro n rest empty
    have first : (toString n).toList ≠ [] := by
      rw [toString_toList]
      exact Nat.toDigits_ne_nil
    cases rest with
    | nil => exact first (by simp [List.intercalate] at empty)
    | cons =>
        rw [List.intercalate_cons_cons] at empty
        exact first (List.append_eq_nil_iff.mp (List.append_eq_nil_iff.mp empty).1).1
  have parts : (first.map fun n => (toString n).toList) = second.map fun n => (toString n).toList := by
    cases first with
    | nil =>
        cases second with
        | nil => rfl
        | cons n rest => exact absurd lists.symm (present n _)
    | cons m others =>
        cases second with
        | nil => exact absurd lists (present m _)
        | cons n rest =>
            rw [← List.splitOn_intercalate '.' (digits (m :: others)) (by simp), lists,
              List.splitOn_intercalate '.' (digits (n :: rest)) (by simp)]
  refine List.map_injective_iff.mpr ?_ parts
  intro m n same
  dsimp only at same
  rw [toString_toList, toString_toList] at same
  simpa using congrArg (fun digits => Nat.ofDigitChars 10 digits 0) same

theorem cutAtEquals_append {key value : List Char} (plain : '=' ∉ key) :
    cutAtEquals (key ++ '=' :: value) = some (key, value) := by
  induction key with
  | nil => simp [cutAtEquals]
  | cons c key ih =>
      rw [List.mem_cons, not_or] at plain
      rw [List.cons_append, cutAtEquals, if_neg (Ne.symm plain.1), ih plain.2]
      rfl

theorem renderPair_injective : Function.Injective renderPair := by
  rintro ⟨type, value⟩ ⟨type', value'⟩ same
  have lists := congrArg String.toList same
  simp only [renderPair, String.toList_append] at lists
  have split : (OID.text type).toList ++ '=' :: value.toList =
      (OID.text type').toList ++ '=' :: value'.toList := by simpa using lists
  have cut := congrArg cutAtEquals split
  rw [cutAtEquals_append (OID.equals_not_mem type), cutAtEquals_append (OID.equals_not_mem type')] at cut
  obtain ⟨types, values⟩ := Prod.mk.inj (Option.some.inj cut)
  rw [OID.text_injective (String.toList_injective types), String.toList_injective values]

theorem insertionSort_eq_iff {first second : List String} :
    first.insertionSort (· ≤ ·) = second.insertionSort (· ≤ ·) ↔ first.Perm second := by
  constructor
  · intro same
    exact (List.perm_insertionSort _ first).symm.trans (same ▸ List.perm_insertionSort _ second)
  · intro perm
    refine List.Perm.eq_of_pairwise' (List.pairwise_insertionSort _ first)
      (List.pairwise_insertionSort _ second) ?_
    exact (List.perm_insertionSort _ first).trans (perm.trans (List.perm_insertionSort _ second).symm)

theorem attributeSet_eq_iff {first second : RDNSequence} :
    attributeSet first = attributeSet second ↔
      (first.flatten.map AttributeTypeAndValue.pair).Perm (second.flatten.map AttributeTypeAndValue.pair) := by
  have rendered : ∀ sequence : RDNSequence, sequence.flatten.map AttributeTypeAndValue.text =
      (sequence.flatten.map AttributeTypeAndValue.pair).map renderPair := by
    intro sequence
    rw [List.map_map]
    exact List.map_congr_left fun entry _ => entry.text_eq
  unfold attributeSet
  rw [insertionSort_eq_iff, rendered, rendered, List.map_perm_map_iff renderPair_injective]

theorem digitChar_injective {m n : Nat} (hm : m < 16) (hn : n < 16)
    (same : Nat.digitChar m = Nat.digitChar n) : m = n := by
  have all : ∀ i < 16, ∀ j < 16, Nat.digitChar i = Nat.digitChar j → i = j := by decide
  exact all m hm n hn same

theorem hexByte_injective : Function.Injective hexByte := by
  intro a b same
  simp only [hexByte, List.cons.injEq, and_true] at same
  have upper := digitChar_injective (by have := a.toNat_lt; omega) (by have := b.toNat_lt; omega) same.1
  have lower := digitChar_injective (Nat.mod_lt _ (by decide)) (Nat.mod_lt _ (by decide)) same.2
  exact UInt8.toNat_inj.mp (by omega)

theorem hexEncode_injective : Function.Injective hexEncode := by
  intro first second same
  have digits : first.flatMap hexByte = second.flatMap hexByte := by
    simpa [hexEncode] using congrArg String.toList same
  clear same
  induction first generalizing second with
  | nil => cases second with
    | nil => rfl
    | cons b second => cases digits
  | cons a first ih => cases second with
    | nil => cases digits
    | cons b second =>
        obtain ⟨heads, tails⟩ := List.append_inj digits rfl
        rw [hexByte_injective heads, ih tails]

/-- The subject alternative names of a list of extensions, as the first extension of that kind has them. -/
def AlternativeNames (lib : Library) (extensions : List Extension) (names : List Bytes) : Prop :=
  match extensions.find? fun extension => extension.id == oidSubjectAltName with
  | none => names = []
  | some extension => lib.unmarshalRawValues extension.value = .ok (names, [])

theorem generalNameSet_ok {lib : Library} {extensions : List Extension} {texts : List String}
    (h : generalNameSet lib extensions = .ok texts) : ∃ names, AlternativeNames lib extensions names ∧
      texts = (names.map hexEncode).insertionSort (· ≤ ·) := by
  unfold generalNameSet at h
  split at h
  · rename_i absent
    cases h
    refine ⟨[], ?_, rfl⟩
    rw [AlternativeNames, absent]
  · rename_i extension found
    split at h
    · rename_i names parsed
      cases h
      refine ⟨names, ?_, rfl⟩
      rw [AlternativeNames, found]
      exact parsed
    · cases h

theorem rawAttributeSet_ok {lib : Library} {raw : Bytes} {texts : List String}
    (h : rawAttributeSet lib raw = .ok texts) : ∃ sequence,
      lib.unmarshalRDNSequence raw = .ok (sequence, []) ∧ texts = attributeSet sequence := by
  unfold rawAttributeSet at h
  split at h
  · rename_i sequence parsed
    cases h
    exact ⟨sequence, parsed, rfl⟩
  · cases h

/-- A certificate and a CSR of one identity: the same subject attributes and the same subject alternative
names, each as often as in the other. -/
structure SameIdentity (lib : Library) (certificate : Certificate) (csr : CertificateRequest) : Prop where
  subject : ∃ subject requested, lib.unmarshalRDNSequence certificate.rawSubject = .ok (subject, []) ∧
    lib.unmarshalRDNSequence csr.rawSubject = .ok (requested, []) ∧
    (subject.flatten.map AttributeTypeAndValue.pair).Perm (requested.flatten.map AttributeTypeAndValue.pair)
  names : ∃ names requested, AlternativeNames lib certificate.extensions names ∧
    AlternativeNames lib csr.extensions requested ∧ names.Perm requested

theorem sameKURIdentity_ok {lib : Library} {certificate : Certificate} {csr : CertificateRequest}
    (h : sameKURIdentity lib certificate csr = true) : SameIdentity lib certificate csr := by
  unfold sameKURIdentity at h
  split at h
  · rename_i subject requested certificateSubject requestSubject
    obtain ⟨first, parsed, rfl⟩ := rawAttributeSet_ok certificateSubject
    obtain ⟨second, parsed', rfl⟩ := rawAttributeSet_ok requestSubject
    split at h
    · cases h
    · rename_i subjects
      split at h
      · rename_i certificateNames requestNames
        obtain ⟨names, listed, rfl⟩ := generalNameSet_ok certificateNames
        obtain ⟨names', listed', rfl⟩ := generalNameSet_ok requestNames
        rw [beq_iff_eq, insertionSort_eq_iff, List.map_perm_map_iff hexEncode_injective] at h
        exact ⟨⟨first, second, parsed, parsed', attributeSet_eq_iff.mp (not_not.mp subjects)⟩,
          names, names', listed, listed', h⟩
      · cases h
  · cases h

def StringValued (entries : List AttributeTypeAndValue) : Prop :=
  ∀ entry ∈ entries, ∃ value, entry.value = .string value

theorem pair_perm_iff {first second : List AttributeTypeAndValue} (strings : StringValued first)
    (strings' : StringValued second) :
    (first.map AttributeTypeAndValue.pair).Perm (second.map AttributeTypeAndValue.pair) ↔
      first.Perm second := by
  have restored : ∀ entries, StringValued entries → (entries.map AttributeTypeAndValue.pair).map
      (fun pair => (⟨pair.1, .string pair.2⟩ : AttributeTypeAndValue)) = entries := by
    intro entries strings
    rw [List.map_map]
    conv_rhs => rw [← List.map_id entries]
    refine List.map_congr_left fun entry member => ?_
    obtain ⟨value, same⟩ := strings entry member
    obtain ⟨type, _⟩ := entry
    cases same
    rfl
  constructor
  · intro perm
    have entries := perm.map fun pair => (⟨pair.1, .string pair.2⟩ : AttributeTypeAndValue)
    rwa [restored first strings, restored second strings'] at entries
  · exact fun perm => perm.map _

def oidCommonName : OID := [2, 5, 4, 3]
def oidSerialNumber : OID := [2, 5, 4, 5]
def oidCountry : OID := [2, 5, 4, 6]
def oidLocality : OID := [2, 5, 4, 7]
def oidProvince : OID := [2, 5, 4, 8]
def oidStreetAddress : OID := [2, 5, 4, 9]
def oidOrganization : OID := [2, 5, 4, 10]
def oidOrganizationalUnit : OID := [2, 5, 4, 11]

/-- The attribute type a keyword of a configured name stands for. -/
def attributeType : String → Option OID
  | "CN" => some oidCommonName
  | "C" => some oidCountry
  | "L" => some oidLocality
  | "ST" => some oidProvince
  | "STREET" => some oidStreetAddress
  | "O" => some oidOrganization
  | "OU" => some oidOrganizationalUnit
  | "SERIALNUMBER" => some oidSerialNumber
  | "DC" => some oidDomainComponent
  | "UID" => some oidUserID
  | "EMAILADDRESS" | "E" => some oidEmailAddress
  | _ => none

theorem attributeType_upper {key : String} (known : (attributeType key).isSome = true) :
    key ≠ "" ∧ ∀ c ∈ key.toList, c.isUpper = true := by
  unfold attributeType at known
  split at known
  case h_13 => cases known
  all_goals exact ⟨by decide, List.all_eq_true.mp (by decide)⟩

theorem isUpper_range {c : Char} (upper : c.isUpper = true) : 65 ≤ c.toNat ∧ c.toNat ≤ 90 := by
  obtain ⟨above, below⟩ : c.val ≥ 65 ∧ c.val ≤ 90 := of_decide_eq_true upper
  exact ⟨UInt32.le_iff_toNat_le.mp above, UInt32.le_iff_toNat_le.mp below⟩

theorem attributeType_upperCase (lib : Library) (key : List Char) :
    attributeType (String.ofList (key.map lib.upperCase)) = attributeType (String.ofList (key.map toUpper)) := by
  have ascii : ∀ c : Char, c.isUpper = true → c.toNat < 0x80 := fun c upper =>
    Nat.lt_of_le_of_lt (isUpper_range upper).2 (by decide)
  have same : ∀ f : Char → Char, (∀ c ∈ key, (f c).toNat < 0x80 → lib.upperCase c = toUpper c) →
      (attributeType (String.ofList (key.map f))).isSome = true → key.map lib.upperCase = key.map toUpper := by
    intro f agrees known
    have upper := (attributeType_upper known).2
    rw [String.toList_ofList] at upper
    exact List.map_congr_left fun c member => agrees c member (ascii _ (upper _ (List.mem_map_of_mem member)))
  by_cases equal : key.map lib.upperCase = key.map toUpper
  · rw [equal]
  · have first : attributeType (String.ofList (key.map lib.upperCase)) = none := by
      rw [← Option.not_isSome_iff_eq_none]
      exact fun known => equal (same lib.upperCase (fun c _ small => lib.upperCase_ascii c (.inl small)) known)
    have second : attributeType (String.ofList (key.map toUpper)) = none := by
      rw [← Option.not_isSome_iff_eq_none]
      exact fun known => equal (same toUpper (fun c _ small => lib.upperCase_ascii c (.inr small)) known)
    rw [first, second]

/-- The attribute that the parser reads in one component. -/
def readAttribute (part : List Char) : Option AttributeTypeAndValue :=
  match cutAtEquals part with
  | none => none
  | some (key, raw) => (attributeType (String.ofList ((trimSpace key).map toUpper))).map fun type =>
      ⟨type, .string (String.ofList (unescape false (trimSpace raw)).1)⟩

/-- The attributes that the values of one field stand for. -/
def fieldAttributes (type : OID) (values : List String) : List AttributeTypeAndValue :=
  values.map fun value => ⟨type, .string value⟩

/-- A field for one value that is empty when there is none. -/
def singleValue (value : String) : List String := if value = "" then [] else [value]

/-- The attributes a `pkix.Name` holds. -/
def Name.attributes (name : Name) : List AttributeTypeAndValue :=
  fieldAttributes oidCountry name.country ++ fieldAttributes oidOrganization name.organization ++
  fieldAttributes oidOrganizationalUnit name.organizationalUnit ++
  fieldAttributes oidLocality name.locality ++ fieldAttributes oidProvince name.province ++
  fieldAttributes oidStreetAddress name.streetAddress ++
  fieldAttributes oidCommonName (singleValue name.commonName) ++
  fieldAttributes oidSerialNumber (singleValue name.serialNumber) ++ name.extraNames

def ExtraTypes (name : Name) : Prop :=
  ∀ entry ∈ name.extraNames, entry.type ∈ [oidDomainComponent, oidUserID, oidEmailAddress] ∧
    ∃ value, entry.value = .string value

theorem Name.attributes_strings {name : Name} (extra : ExtraTypes name) : StringValued name.attributes := by
  have field : ∀ type values, StringValued (fieldAttributes type values) := by
    intro type values entry member
    obtain ⟨value, _, rfl⟩ := List.mem_map.mp member
    exact ⟨value, rfl⟩
  intro entry member
  simp only [Name.attributes, List.mem_append] at member
  rcases member with (((((((h | h) | h) | h) | h) | h) | h) | h) | h
  all_goals first | exact field _ _ entry h | exact (extra entry h).2

def typeCount (type : OID) (entries : List AttributeTypeAndValue) : Nat :=
  entries.countP fun entry => entry.type == type

@[simp] theorem typeCount_append (type : OID) (first second : List AttributeTypeAndValue) :
    typeCount type (first ++ second) = typeCount type first + typeCount type second :=
  List.countP_append

@[simp] theorem typeCount_field (type other : OID) (values : List String) :
    typeCount type (fieldAttributes other values) = if other = type then values.length else 0 := by
  unfold typeCount fieldAttributes
  rw [List.countP_map]
  split
  · rename_i same
    exact List.countP_eq_length.mpr fun _ _ => by simp [same]
  · rename_i different
    exact List.countP_eq_zero.mpr fun _ _ => by simpa using different

theorem typeCount_extra {name : Name} (extra : ExtraTypes name) {type : OID}
    (other : type ∉ [oidDomainComponent, oidUserID, oidEmailAddress]) :
    typeCount type name.extraNames = 0 := by
  refine List.countP_eq_zero.mpr fun entry member => ?_
  intro same
  rw [beq_iff_eq] at same
  exact other (same ▸ (extra entry member).1)

theorem Name.typeCount_single {name : Name} (extra : ExtraTypes name) :
    typeCount oidCommonName name.attributes = (singleValue name.commonName).length ∧
    typeCount oidSerialNumber name.attributes = (singleValue name.serialNumber).length := by
  have commonName := @typeCount_extra name extra oidCommonName (by decide)
  have serialNumber := @typeCount_extra name extra oidSerialNumber (by decide)
  constructor
  · simp only [Name.attributes, typeCount_append, typeCount_field, commonName]
    simp [oidCommonName, oidSerialNumber, oidCountry, oidLocality, oidProvince, oidStreetAddress,
      oidOrganization, oidOrganizationalUnit]
  · simp only [Name.attributes, typeCount_append, typeCount_field, serialNumber]
    simp [oidCommonName, oidSerialNumber, oidCountry, oidLocality, oidProvince, oidStreetAddress,
      oidOrganization, oidOrganizationalUnit]

theorem singleValue_length_le (value : String) : (singleValue value).length ≤ 1 := by
  unfold singleValue
  split <;> simp

/-- A field for one value that another value would overwrite. -/
def Name.occupied (name : Name) (type : OID) : Prop :=
  type = oidCommonName ∧ name.commonName ≠ "" ∨ type = oidSerialNumber ∧ name.serialNumber ≠ ""

theorem Name.occupied.count {name : Name} {type : OID} (occupied : name.occupied type)
    (extra : ExtraTypes name) :
    type ∈ [oidCommonName, oidSerialNumber] ∧ typeCount type name.attributes = 1 := by
  obtain ⟨commonName, serialNumber⟩ := Name.typeCount_single extra
  rcases occupied with ⟨rfl, present⟩ | ⟨rfl, present⟩
  · exact ⟨by decide, by rw [commonName, singleValue, if_neg present]; rfl⟩
  · exact ⟨by decide, by rw [serialNumber, singleValue, if_neg present]; rfl⟩

/-- `addNameAttribute` adds one attribute, unless its field holds one already. -/
theorem addNameAttribute_ok {lib : Library} {name name' : Name} {key value : String}
    (added : addNameAttribute lib name key value = .ok name') (present : value ≠ "") :
    ∃ type, attributeType key = some type ∧ (ExtraTypes name → ExtraTypes name') ∧
      name'.attributes ≠ [] ∧
      (¬ name.occupied type → name'.attributes.Perm (⟨type, .string value⟩ :: name.attributes)) := by
  have extended : ∀ type ∈ [oidDomainComponent, oidUserID, oidEmailAddress], ExtraTypes name →
      ExtraTypes { name with extraNames := name.extraNames ++ [⟨type, .string value⟩] } := by
    intro type known extra entry member
    rcases List.mem_append.mp member with old | new
    · exact extra entry old
    · cases List.mem_singleton.mp new
      exact ⟨known, value, rfl⟩
  have unoccupied : ∀ text : String, (text ≠ "" → False) → text = "" := fun text => not_not.mp
  unfold addNameAttribute at added
  unfold attributeType
  split at added
  case h_1 =>
    cases added
    refine ⟨_, rfl, id, by simp [Name.attributes, fieldAttributes, singleValue, present],
      fun free => List.perm_iff_count.mpr fun entry => ?_⟩
    have empty := unoccupied name.commonName fun occupied => free (.inl ⟨rfl, occupied⟩)
    simp only [Name.attributes, empty, singleValue, if_neg present, if_true, fieldAttributes]
    simp [List.count_cons]
    omega
  case h_8 =>
    cases added
    refine ⟨_, rfl, id, by simp [Name.attributes, fieldAttributes, singleValue, present],
      fun free => List.perm_iff_count.mpr fun entry => ?_⟩
    have empty := unoccupied name.serialNumber fun occupied => free (.inr ⟨rfl, occupied⟩)
    simp only [Name.attributes, empty, singleValue, if_neg present, if_true, fieldAttributes]
    simp [List.count_cons]
    omega
  case h_9 | h_10 | h_11 | h_12 =>
    cases added
    refine ⟨_, rfl, extended _ (by decide), by simp [Name.attributes], fun _ => List.perm_iff_count.mpr fun entry => ?_⟩
    simp [Name.attributes, List.count_cons]
    omega
  case h_13 => cases added
  all_goals
    cases added
    refine ⟨_, rfl, id, by simp [Name.attributes, fieldAttributes], fun _ => List.perm_iff_count.mpr fun entry => ?_⟩
    simp [Name.attributes, fieldAttributes, List.count_cons]
    omega

theorem addComponent_ok {lib : Library} {name name' : Name} {part : List Char}
    (added : addComponent lib name part = .ok name') :
    ∃ entry, readAttribute part = some entry ∧ (ExtraTypes name → ExtraTypes name') ∧
      name'.attributes ≠ [] ∧
      (¬ name.occupied entry.type → name'.attributes.Perm (entry :: name.attributes)) := by
  unfold addComponent at added
  split at added
  · cases added
  · rename_i key raw cut
    split at added
    · cases added
    · rename_i decoded unescaped
      split at added
      · cases added
      · rename_i present
        have same : decoded = (unescape false (trimSpace raw)).1 := by
          unfold unescapeDNValue at unescaped
          dsimp only at unescaped
          split at unescaped <;> cases unescaped
          rfl
        obtain ⟨type, known, extra, held, perm⟩ := addNameAttribute_ok added (by simpa using present)
        rw [attributeType_upperCase] at known
        rw [readAttribute, cut]
        dsimp only
        rw [known]
        exact ⟨_, rfl, extra, held, by rw [← same]; exact perm⟩

theorem foldlM_addComponent {lib : Library} {name name' : Name} {parts : List (List Char)}
    (added : parts.foldlM (addComponent lib) name = .ok name') (extra : ExtraTypes name) :
    ExtraTypes name' ∧ (parts ≠ [] → name'.attributes ≠ []) ∧
      ((∀ type ∈ [oidCommonName, oidSerialNumber],
          typeCount type (name.attributes ++ parts.filterMap readAttribute) ≤ 1) →
        name'.attributes.Perm (name.attributes ++ parts.filterMap readAttribute)) := by
  induction parts generalizing name with
  | nil =>
      cases added
      exact ⟨extra, fun other => absurd rfl other, fun _ => by simp⟩
  | cons part parts ih =>
      rw [List.foldlM_cons] at added
      cases first : addComponent lib name part with
      | error err =>
          rw [first] at added
          cases added
      | ok middle =>
          rw [first] at added
          obtain ⟨entry, read, keeps, held, perm⟩ := addComponent_ok first
          obtain ⟨extra', held', collected⟩ := ih added (keeps extra)
          rw [List.filterMap_cons, read]
          dsimp only
          refine ⟨extra', fun _ => ?_, fun once => ?_⟩
          · cases parts with
            | nil =>
                cases added
                exact held
            | cons => exact held' (by simp)
          · have free : ¬ name.occupied entry.type := by
              intro occupied
              obtain ⟨single, held⟩ := occupied.count extra
              have twice := once _ single
              rw [typeCount_append, held] at twice
              simp [typeCount] at twice
            have moved := ((perm free).append_right (parts.filterMap readAttribute)).trans
              List.perm_middle.symm
            refine (collected fun type single => ?_).trans moved
            exact ((moved.countP_eq _).trans_le (once type single))

theorem splitComponents_ne_nil (escaped : Bool) (current text : List Char) :
    (splitComponents escaped current text).1 ≠ [] := by
  induction text generalizing escaped current with
  | nil => simp [splitComponents]
  | cons c rest ih =>
      cases escaped with
      | true => exact ih _ _
      | false =>
          unfold splitComponents
          split
          · exact ih _ _
          · split
            · simp
            · exact ih _ _

theorem splitDN_ne_nil {text : List Char} {parts : List (List Char)} (h : splitDN text = .ok parts) :
    parts ≠ [] := by
  unfold splitDN at h
  dsimp only at h
  split at h
  · cases h
  · split at h
    · cases h
    · split at h
      · cases h
      · cases h
        exact splitComponents_ne_nil _ _ _

/-- A configured name holds attributes with string values, and at least one of them. -/
theorem parseDistinguishedName_ok {lib : Library} {value : String} {name : Name}
    (accepted : parseDistinguishedName lib value = .ok name) : ExtraTypes name ∧ name.attributes ≠ [] := by
  unfold parseDistinguishedName at accepted
  split at accepted
  · cases accepted
  · rename_i parts split_
    obtain ⟨extra, held, _⟩ := foldlM_addComponent accepted (by rintro _ ⟨⟩)
    exact ⟨extra, held (splitDN_ne_nil split_)⟩

end CmpIssuer
