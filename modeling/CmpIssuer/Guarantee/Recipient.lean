import CmpIssuer.Guarantee.Denotation

/-!
The sender of a response and the recipient an issuer configures. The attributes
of the two are compared as multisets. The recipient is written as a name of RFC
4514, so what it says is given by the grammar, and the comparison is with that
exactly when the name is in the subset that the parser supports.
-/
namespace CmpIssuer
open Text (AssertionValue Assertion RelativeName DistinguishedName)

/-- `NewDirectoryName` lists exactly the attributes a configured name holds. -/
def ListsAttributes (lib : Library) : Prop :=
  ∀ name, ExtraTypes name → (lib.newDirectoryName name).directoryName.flatten.Perm name.attributes

/-- The sender of a response is compared with the attributes that the configured name holds. -/
theorem senderMatchesRecipient_iff {lib : Library} (lists : ListsAttributes lib) {name : Name}
    (extra : ExtraTypes name) (held : name.attributes ≠ []) (sender : GeneralName) :
    senderMatchesRecipient lib sender name = true ↔
      (sender.directoryName.flatten.map AttributeTypeAndValue.pair).Perm
        (name.attributes.map AttributeTypeAndValue.pair) := by
  have listed := lists name extra
  have configured : (lib.newDirectoryName name).directoryName ≠ [] := by
    intro empty
    rw [empty] at listed
    exact held (List.nil_perm.mp listed)
  unfold senderMatchesRecipient
  split
  · rename_i absent
    rw [List.isEmpty_iff] at absent
    rw [absent]
    simpa using held
  · dsimp only
    rw [if_neg (by simpa using configured), beq_iff_eq, attributeSet_eq_iff]
    have same := listed.map AttributeTypeAndValue.pair
    exact ⟨fun perm => perm.trans same, fun perm => perm.trans same.symm⟩

section
variable {descriptors : String → Option OID} {dn : DistinguishedName}

/-- The attributes are those that a text writes, in any order: one for each assertion of its derivation. -/
def WritesAttributes (descriptors : String → Option OID) (dn : DistinguishedName)
    (entries : List AttributeTypeAndValue) : Prop :=
  ∃ written, List.Forall₂ (AssertionDenotes descriptors) dn.assertions written ∧ entries.Perm written

theorem denoted_unique {value : AssertionValue} {first second : String} (supported : SupportedValue value)
    (one : ValueDenotes value first) (two : ValueDenotes value second) : first = second := by
  cases value with
  | string pieces lead trail => exact String.toList_inj.mp (Text.utf8_injective (one.trans two.symm))
  | hexString => exact supported.elim

theorem assertion_unique {assertion : Assertion} {first second : AttributeTypeAndValue}
    (supported : SupportedValue assertion.value) (one : AssertionDenotes descriptors assertion first)
    (two : AssertionDenotes descriptors assertion second) : first = second := by
  obtain ⟨type, value⟩ := first
  obtain ⟨type', value'⟩ := second
  obtain ⟨known, text, rfl, means⟩ := one
  obtain ⟨known', text', rfl, means'⟩ := two
  obtain rfl := denoted_unique supported means means'
  cases known.symm.trans known'
  rfl

theorem written_unique {assertions : List Assertion} {first second : List AttributeTypeAndValue}
    (supported : ∀ assertion ∈ assertions, SupportedValue assertion.value)
    (one : List.Forall₂ (AssertionDenotes descriptors) assertions first)
    (two : List.Forall₂ (AssertionDenotes descriptors) assertions second) : first = second := by
  induction one generalizing second with
  | nil =>
      cases two
      rfl
  | cons head _ ih =>
      obtain _ | ⟨head', tail'⟩ := two
      rw [assertion_unique (supported _ List.mem_cons_self) head head',
        ih (fun other member => supported other (List.mem_cons_of_mem _ member)) tail']

theorem SupportedName.reordered (supported : SupportedName descriptors dn) {other : DistinguishedName}
    (perm : other.names.Perm dn.names) : SupportedName descriptors other where
  single name member := supported.single name (perm.subset member)
  values assertion member :=
    supported.values assertion ((perm.flatMap_right RelativeName.assertions).subset member)
  once type member :=
    ((perm.flatMap_right RelativeName.assertions).countP_eq _).trans_le (supported.once type member)

theorem WritesAttributes.reordered {entries : List AttributeTypeAndValue}
    (writes : WritesAttributes descriptors dn entries)
    {other : DistinguishedName} (perm : other.names.Perm dn.names) : WritesAttributes descriptors other entries := by
  obtain ⟨written, related, same⟩ := writes
  obtain ⟨moved, related', shuffled⟩ :=
    List.perm_comp_forall₂ (perm.flatMap_right RelativeName.assertions) related
  exact ⟨moved, related', same.trans shuffled.symm⟩

end

section
variable {lib : Library} (lists : ListsAttributes lib) {descriptors : String → Option OID}
  (agrees : ∀ key type, attributeType key = some type → descriptors key = some type)
  {dn : DistinguishedName} {name : Name}
  (accepted : parseDistinguishedName lib (String.ofList dn.text) = .ok name)
include lists agrees accepted

theorem supported_matches (supported : SupportedName descriptors dn) (sender : GeneralName)
    (strings : StringValued sender.directoryName.flatten) :
    senderMatchesRecipient lib sender name = true ↔ WritesAttributes descriptors dn sender.directoryName.flatten := by
  obtain ⟨extra, held⟩ := parseDistinguishedName_ok accepted
  obtain ⟨written, related, perm⟩ := denotes_of_supported agrees accepted supported
  rw [senderMatchesRecipient_iff lists extra held, pair_perm_iff strings (Name.attributes_strings extra)]
  constructor
  · exact fun same => ⟨written, related, same.trans perm.symm⟩
  · rintro ⟨entries, related', same⟩
    rw [written_unique supported.values related' related] at same
    exact same.trans perm

end

/-- A library whose directory names have one attribute in each relative name. -/
def namingLibrary : Library :=
  { plainLibrary with newDirectoryName := fun name => ⟨name.attributes.map fun entry => [entry], []⟩ }

theorem namingLibrary_lists : ListsAttributes namingLibrary := by
  intro name _
  have same : ((namingLibrary.newDirectoryName name).directoryName).flatten = name.attributes := by
    show (name.attributes.map fun entry => [entry]).flatten = name.attributes
    rw [← List.flatMap_def, List.flatMap_singleton']
  rw [same]

theorem unreserved_alphanum {c : Char} (alphanum : c.isAlphanum = true) :
    c ∉ Text.reserved ∧ c ≠ ' ' ∧ c ≠ '#' := by
  have others : ∀ d ∈ ' ' :: '#' :: Text.reserved, d.isAlphanum = false := List.all_iff_forall_prop.mp (by decide)
  refine ⟨fun member => ?_, ?_, ?_⟩
  · have plain := others c (List.mem_cons_of_mem _ (List.mem_cons_of_mem _ member))
    rw [alphanum] at plain
    cases plain
  · rintro rfl
    cases alphanum
  · rintro rfl
    cases alphanum

def plainValue (text : List Char) (alphanum : ∀ c ∈ text, c.isAlphanum = true) : AssertionValue :=
  have bare : ∀ piece ∈ text.attach.map fun c => Text.Piece.char c.1 (unreserved_alphanum (alphanum c.1 c.2)).1,
      piece.unescaped ≠ some ' ' ∧ piece.unescaped ≠ some '#' := by
    intro piece member
    obtain ⟨c, _, rfl⟩ := List.mem_map.mp member
    have others := (unreserved_alphanum (alphanum c.1 c.2)).2
    exact ⟨fun same => others.1 (Option.some.inj same), fun same => others.2 (Option.some.inj same)⟩
  .string (text.attach.map fun c => .char c.1 (unreserved_alphanum (alphanum c.1 c.2)).1)
    (fun piece first => bare piece (List.mem_of_mem_head? first))
    (fun piece last => (bare piece (List.mem_of_mem_getLast? last)).1)

/-- The component `CN=` with such a value. -/
def commonNameComponent (text : List Char) (alphanum : ∀ c ∈ text, c.isAlphanum = true) : RelativeName :=
  ⟨⟨.descr 'C' ['N'] rfl (by simp), plainValue text alphanum⟩, []⟩

/-- The component `O=a,b`, with its comma escaped. -/
def organizationComponent : RelativeName :=
  ⟨⟨.descr 'O' [] rfl (by simp), .string [.char 'a' (by decide), .pair ',' (by decide), .char 'b' (by decide)]
    (by rintro _ ⟨⟩; decide) (by rintro _ ⟨⟩; decide)⟩, []⟩

end CmpIssuer
