import Mathlib.Data.Bool.AllAny
import Mathlib.Data.List.Induction
import CmpIssuer.Cluster.Deployment
import CmpIssuer.Protocol.Scan
import CmpIssuer.Text.DistinguishedName

/-!
What a configured name is read as. A name written in the supported form, with
backslashes before backslashes and commas only, is read back component by
component. A name of RFC 4514 is read as the name it denotes exactly when it
keeps to that form.
-/
namespace CmpIssuer
open Text (Token render trim Trimmed)

theorem isSpace_between {c : Char} (above : 0x21 ≤ c.toNat) (below : c.toNat ≤ 0x84) :
    isSpace c = false := by
  unfold isSpace
  simp only [Bool.or_eq_false_iff, Bool.and_eq_false_iff, decide_eq_false_iff_not, beq_eq_false_iff_ne]
  omega

theorem isLower_range {c : Char} (lower : c.isLower = true) : 97 ≤ c.toNat ∧ c.toNat ≤ 122 := by
  obtain ⟨above, below⟩ := Bool.and_eq_true_iff.mp lower
  exact ⟨UInt32.le_iff_toNat_le.mp (of_decide_eq_true above), UInt32.le_iff_toNat_le.mp (of_decide_eq_true below)⟩

theorem isDigit_range {c : Char} (digit : c.isDigit = true) : 48 ≤ c.toNat ∧ c.toNat ≤ 57 := by
  obtain ⟨above, below⟩ := Bool.and_eq_true_iff.mp digit
  exact ⟨UInt32.le_iff_toNat_le.mp (of_decide_eq_true above), UInt32.le_iff_toNat_le.mp (of_decide_eq_true below)⟩

/-- A letter of an attribute keyword, in any case. -/
def keywordLetter (c : Char) : Bool := (toUpper c).isUpper

theorem keywordLetter_cases {c : Char} (letter : keywordLetter c = true) :
    c.isLower = true ∨ c.isUpper = true ∨ c = 'ı' ∨ c = 'ſ' := by
  unfold keywordLetter toUpper at letter
  split at letter
  · exact .inl ‹_›
  · split at letter
    · exact .inr (.inr (.inl ‹_›))
    · split at letter
      · exact .inr (.inr (.inr ‹_›))
      · exact .inr (.inl letter)

theorem keywordLetter_visible {c : Char} (letter : keywordLetter c = true) :
    isSpace c = false ∧ c ≠ '=' ∧ c ≠ '\\' ∧ c ≠ ',' := by
  refine ⟨?_, ?_, ?_, ?_⟩
  · rcases keywordLetter_cases letter with lower | upper | rfl | rfl
    · have range := isLower_range lower
      exact isSpace_between (by omega) (by omega)
    · have range := isUpper_range upper
      exact isSpace_between (by omega) (by omega)
    · decide
    · decide
  all_goals
    rintro rfl
    exact absurd letter (by decide)

theorem keywordLetter_not_digit {c : Char} (letter : keywordLetter c = true) : c.isDigit = false := by
  rw [Bool.eq_false_iff]
  intro digit
  have range := isDigit_range digit
  rcases keywordLetter_cases letter with lower | upper | rfl | rfl
  · have range' := isLower_range lower
    omega
  · have range' := isUpper_range upper
    omega
  · exact absurd digit (by decide)
  · exact absurd digit (by decide)

theorem attributeType_letters {keyword : List Char}
    (supported : (attributeType (String.ofList (keyword.map toUpper))).isSome = true) :
    keyword ≠ [] ∧ ∀ c ∈ keyword, keywordLetter c = true := by
  obtain ⟨nonempty, letters⟩ := attributeType_upper supported
  rw [String.toList_ofList] at letters
  refine ⟨?_, fun c member => letters _ (List.mem_map_of_mem member)⟩
  rintro rfl
  exact nonempty rfl

/-- A component of a configured name as it is written: a supported keyword in any case, a value with a
character that is not a space, and the space around them. -/
structure Component where
  before : List Char
  keyword : List Char
  value : List Char
  after : List Char
  supported : (attributeType (String.ofList (keyword.map toUpper))).isSome = true
  visible : ∃ c ∈ value, isSpace c = false
  blank : ∀ c ∈ before ++ after, isSpace c = true

/-- A value with a backslash before each backslash and comma. -/
def escapeValue (value : List Char) : List Char :=
  value.flatMap fun c => if c = '\\' ∨ c = ',' then ['\\', c] else [c]

namespace Component

def text (component : Component) : List Char :=
  component.before ++ component.keyword ++ '=' :: escapeValue component.value ++ component.after

def type (component : Component) : OID :=
  (attributeType (String.ofList (component.keyword.map toUpper))).get component.supported

def trimmed (component : Component) : String := String.ofList (trimSpace component.value)

end Component

/-- The configured name of a list of components. -/
def writtenName (components : List Component) : String :=
  String.ofList ([','].intercalate (components.map Component.text))

/-- The values of the components of one type, in order. -/
def valuesOf (type : OID) (components : List Component) : List String :=
  (components.filter fun component => component.type == type).map Component.trimmed

/-- The name the components describe: all values of an attribute with several, and the last value of an
attribute with one. -/
def describedName (components : List Component) : Name where
  commonName := (valuesOf oidCommonName components).getLast?.getD ""
  country := valuesOf oidCountry components
  locality := valuesOf oidLocality components
  province := valuesOf oidProvince components
  streetAddress := valuesOf oidStreetAddress components
  organization := valuesOf oidOrganization components
  organizationalUnit := valuesOf oidOrganizationalUnit components
  serialNumber := (valuesOf oidSerialNumber components).getLast?.getD ""
  extraNames :=
    (components.filter fun component =>
      component.type ∈ [oidDomainComponent, oidUserID, oidEmailAddress]).map fun component =>
        ⟨component.type, .string component.trimmed⟩

def writtenToken (c : Char) : Token :=
  if h : c = '\\' ∨ c = ',' then .escaped c else .plain c fun same => h (.inl same)

theorem render_writtenToken (value : List Char) : render (value.map writtenToken) = escapeValue value := by
  unfold render escapeValue
  rw [List.flatMap_map]
  congr 1
  funext c
  unfold writtenToken
  split <;> rfl

theorem escapeValue_plain {text : List Char} (plain : ∀ c ∈ text, c ≠ '\\' ∧ c ≠ ',') :
    escapeValue text = text := by
  induction text with
  | nil => rfl
  | cons c text ih =>
      have first := plain c List.mem_cons_self
      have later := ih fun d member => plain d (List.mem_cons_of_mem _ member)
      unfold escapeValue at later ⊢
      rw [List.flatMap_cons, later, if_neg (not_or.mpr first)]
      rfl

theorem unseparated_written (value : List Char) : Unseparated (value.map writtenToken) := by
  intro c bare member comma
  obtain ⟨d, _, same⟩ := List.mem_map.mp member
  unfold writtenToken at same
  split at same
  · cases same
  · rename_i neither
    cases same
    exact neither (.inr comma)

@[simp] theorem writtenToken_char (c : Char) : (writtenToken c).char = c := by
  unfold writtenToken
  split <;> rfl

@[simp] theorem writtenToken_blank (c : Char) : (writtenToken c).blank isSpace = isSpace c := by
  unfold writtenToken
  split
  · rename_i either
    rcases either with rfl | rfl <;> decide
  · rfl

theorem trimTokens_written (value : List Char) :
    trimTokens (value.map writtenToken) = (trimSpace value).map writtenToken := by
  have same : Token.blank isSpace ∘ writtenToken = isSpace := by
    funext c
    simp
  rw [trimTokens, trimSpace_eq, trim, trim, List.dropWhile_map, same, List.rdropWhile, List.rdropWhile,
    ← List.map_reverse, List.dropWhile_map, same, List.map_reverse]

theorem unescapeDNValue_escapeValue (value : List Char) :
    unescapeDNValue (trimSpace (escapeValue value)) = .ok (trimSpace value) := by
  have open_ : ¬ EndsEscaped (value.map writtenToken) := by
    rintro ⟨c, last, blank⟩
    rw [trimTokens_written, List.getLast?_map, Option.map_eq_some_iff] at last
    obtain ⟨d, _, same⟩ := last
    have spaces := writtenToken_char d
    rw [same] at spaces
    have plain := writtenToken_blank d
    rw [same, ← spaces, Token.char, blank] at plain
    cases plain
  rw [← render_writtenToken, (unescapeDNValue_render _).1 open_, trimTokens_written, List.map_map]
  congr 1
  conv_rhs => rw [← List.map_id (trimSpace value)]
  exact List.map_congr_left fun c _ => writtenToken_char c

namespace Component

theorem keyword_visible (component : Component) : ∀ c ∈ component.keyword,
    isSpace c = false ∧ c ≠ '=' ∧ c ≠ '\\' ∧ c ≠ ',' :=
  fun c member => keywordLetter_visible ((attributeType_letters component.supported).2 c member)

/-- The tokens of a component: all of it is rendered like its value. -/
def tokens (component : Component) : List Token :=
  (component.before ++ (component.keyword ++ ['=']) ++ component.value ++ component.after).map writtenToken

theorem render_tokens (component : Component) : render component.tokens = component.text := by
  have around : ∀ c ∈ component.before ++ component.after, c ≠ '\\' ∧ c ≠ ',' := by
    intro c member
    have blank := component.blank c member
    constructor <;> rintro rfl <;> exact absurd blank (by decide)
  have before := escapeValue_plain fun c member => around c (List.mem_append_left _ member)
  have after := escapeValue_plain fun c member => around c (List.mem_append_right _ member)
  have keyword : escapeValue (component.keyword ++ ['=']) = component.keyword ++ ['='] := by
    refine escapeValue_plain fun c member => ?_
    rcases List.mem_append.mp member with inside | last
    · exact (component.keyword_visible c inside).2.2
    · cases List.mem_singleton.mp last
      decide
  unfold tokens text
  rw [render_writtenToken]
  unfold escapeValue at *
  simp only [List.flatMap_append, before, after, keyword]
  simp

theorem trimSpace_value_ne_nil (component : Component) : trimSpace component.value ≠ [] := by
  obtain ⟨c, member, seen⟩ := component.visible
  intro empty
  rw [trimSpace_eq_nil_iff.mp empty c member] at seen
  cases seen

end Component

section
variable {lib : Library}

theorem addComponent_text (name : Name) (component : Component) :
    addComponent lib name (trimSpace component.text) =
      addNameAttribute lib name (String.ofList (component.keyword.map lib.upperCase)) component.trimmed := by
  have around : trimSpace component.text =
      trimSpace (component.keyword ++ '=' :: escapeValue component.value) := by
    have blank := component.blank
    rw [List.forall_mem_append] at blank
    have split : component.text =
        component.before ++ (component.keyword ++ '=' :: escapeValue component.value) ++ component.after := by
      simp only [Component.text, List.append_assoc]
    rw [trimSpace_eq, split]
    exact Text.trim_append blank.1 blank.2
  rw [around, addComponent_component (fun c member => (component.keyword_visible c member).1)
      (fun member => (component.keyword_visible _ member).2.1 rfl), addWritten,
    unescapeDNValue_escapeValue]
  exact if_neg component.trimSpace_value_ne_nil

@[simp] theorem valuesOf_concat (type : OID) (components : List Component) (component : Component) :
    valuesOf type (components ++ [component]) =
      valuesOf type components ++ if component.type = type then [component.trimmed] else [] := by
  unfold valuesOf
  rw [List.filter_append, List.map_append]
  by_cases same : component.type = type <;> simp [same]

/-- One more component is one more value, or another value of an attribute that has one. -/
theorem addNameAttribute_described (components : List Component) (component : Component) :
    addNameAttribute lib (describedName components)
        (String.ofList (component.keyword.map lib.upperCase)) component.trimmed =
      .ok (describedName (components ++ [component])) := by
  have known : attributeType (String.ofList (component.keyword.map lib.upperCase)) = some component.type :=
    (attributeType_upperCase lib _).trans (Option.some_get component.supported).symm
  generalize String.ofList (component.keyword.map lib.upperCase) = key at known
  unfold attributeType at known
  split at known
  case h_13 => cases known
  all_goals
    obtain known := Option.some.inj known
    simp [addNameAttribute, describedName, ← known, oidCommonName, oidSerialNumber, oidCountry, oidLocality,
      oidProvince, oidStreetAddress, oidOrganization, oidOrganizationalUnit, oidDomainComponent, oidUserID,
      oidEmailAddress]

theorem foldlM_components (components : List Component) :
    components.foldlM (fun name component => addComponent lib name (trimSpace component.text)) {} =
      .ok (describedName components) := by
  induction components using List.reverseRecOn with
  | nil => rfl
  | append_singleton components component ih =>
      have last : addComponent lib (describedName components) (trimSpace component.text) =
          .ok (describedName (components ++ [component])) := by
        rw [addComponent_text, addNameAttribute_described]
      rw [List.foldlM_append, ih]
      simp [last, bind, Except.bind, pure, Except.pure]

/-- A configured name in the supported form is accepted, and read as the name it describes. -/
theorem written_name_parsed {components : List Component} (present : components ≠ []) :
    parseDistinguishedName lib (writtenName components) = .ok (describedName components) := by
  have parts : components.map Component.text = (components.map Component.tokens).map render := by
    rw [List.map_map]
    exact List.map_congr_left fun component _ => component.render_tokens.symm
  rw [writtenName, parts, parseDistinguishedName_intercalate (by simpa using present)]
  · rw [List.foldlM_map, ← @foldlM_components lib components]
    simp only [Component.render_tokens]
  · intro tokens member
    obtain ⟨component, _, rfl⟩ := List.mem_map.mp member
    exact unseparated_written _
  · intro tokens member
    obtain ⟨component, _, rfl⟩ := List.mem_map.mp member
    rw [component.render_tokens]
    intro empty
    have blank := trimSpace_eq_nil_iff.mp empty '=' (by simp [Component.text])
    exact absurd blank (by decide)

end

/-- A name with a repeated attribute, a value that ends in a backslash and space around a comma. -/
theorem written_name_parsed_escaped : ∃ components : List Component,
    writtenName components = "cn=a,Cn=b\\\\ , \tO= x\\,y " ∧
    parseDistinguishedName plainLibrary (writtenName components) =
      .ok { commonName := "b\\", organization := ["x,y"] } := by
  let first : Component := ⟨[], ['c', 'n'], ['a'], [], by decide, ⟨'a', by decide⟩, by simp⟩
  let second : Component :=
    ⟨[], ['C', 'n'], ['b', '\\'], [' '], by decide, ⟨'b', by decide⟩, List.all_iff_forall_prop.mp (by decide)⟩
  let third : Component :=
    ⟨[' ', '\t'], ['O'], [' ', 'x', ',', 'y', ' '], [], by decide, ⟨'x', by decide⟩, List.all_iff_forall_prop.mp (by decide)⟩
  refine ⟨[first, second, third], by decide, ?_⟩
  rw [written_name_parsed (by simp)]
  decide +kernel

end CmpIssuer
