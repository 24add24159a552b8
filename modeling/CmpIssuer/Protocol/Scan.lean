import CmpIssuer.Protocol.Attributes
import CmpIssuer.Text.Escape

/-!
The scanners of `parse.go` on escaped texts. `splitDN` cuts at the commas that
are written plainly and `unescapeDNValue` reads the characters back, so a text
whose components are known is parsed component by component. Both trim, and a
trimmed escape at the end of a value is refused.
-/
namespace CmpIssuer
open Text (Token render trim Trimmed)

theorem trimSpace_eq (text : List Char) : trimSpace text = trim isSpace text := rfl

theorem trimSpace_eq_nil_iff {text : List Char} : trimSpace text = [] ↔ ∀ c ∈ text, isSpace c = true := by
  rw [trimSpace_eq]
  constructor
  · intro empty
    obtain ⟨lead, trail, same, blank, blank', _⟩ := Text.trim_decompose (p := isSpace) text
    rw [empty, List.append_nil] at same
    intro c member
    rw [same] at member
    exact (List.mem_append.mp member).elim (blank c) (blank' c)
  · intro blank
    have nothing : trim isSpace (text ++ [] ++ []) = [] :=
      Text.trim_eq blank (by simp) ⟨by simp, by simp⟩
    simpa using nothing

/-- A component is trimmed as its key, with what is left of its value. -/
theorem trimSpace_component {key value : List Char} (visible : ∀ c ∈ key, isSpace c = false) :
    ∃ raw, trimSpace (key ++ '=' :: value) = key ++ '=' :: raw ∧ trimSpace raw = trimSpace value := by
  have split : value.rdropWhile isSpace ++ value.rtakeWhile isSpace = value :=
    List.rdropWhile_append_rtakeWhile
  have blank : ∀ c ∈ value.rtakeWhile isSpace, isSpace c = true :=
    fun c member => List.mem_rtakeWhile_imp member
  refine ⟨value.rdropWhile isSpace, ?_, ?_⟩
  · have core : Trimmed isSpace (key ++ '=' :: value.rdropWhile isSpace) := by
      constructor
      · intro c first
        cases key with
        | nil =>
            cases first
            decide
        | cons d key =>
            cases first
            exact visible _ List.mem_cons_self
      · intro c last
        rcases List.eq_nil_or_concat (value.rdropWhile isSpace) with empty | ⟨front, d, same⟩
        · rw [empty] at last
          have : '=' = c := by simpa using last
          subst this
          decide
        · have stops := List.rdropWhile_last_not isSpace value (by rw [same]; simp)
          rw [same, List.concat_eq_append, ← List.cons_append, ← List.append_assoc, List.getLast?_concat] at last
          cases last
          simpa [same] using stops
    have whole : trim isSpace ([] ++ (key ++ '=' :: value.rdropWhile isSpace) ++ value.rtakeWhile isSpace) =
        key ++ '=' :: value.rdropWhile isSpace := Text.trim_eq (by simp) blank core
    rw [trimSpace_eq]
    convert whole using 2
    conv_lhs => rw [← split]
    simp
  · have around : trim isSpace ([] ++ value.rdropWhile isSpace ++ value.rtakeWhile isSpace) =
        trim isSpace (value.rdropWhile isSpace) := Text.trim_append (by simp) blank
    rw [List.nil_append, split] at around
    exact around.symm

def Unseparated (tokens : List Token) : Prop := ∀ c bare, Token.plain c bare ∈ tokens → c ≠ ','

theorem splitComponents_render {tokens : List Token} (unseparated : Unseparated tokens)
    (current rest : List Char) : splitComponents false current (render tokens ++ rest) =
      splitComponents false (current ++ render tokens) rest := by
  induction tokens generalizing current with
  | nil => simp
  | cons token tokens ih =>
      have later := ih fun c bare member => unseparated c bare (List.mem_cons_of_mem _ member)
      cases token with
      | plain c bare =>
          have comma := unseparated c bare List.mem_cons_self
          rw [Text.render_cons, Token.text, List.append_assoc, List.singleton_append, splitComponents,
            if_neg bare, if_neg comma, later, List.append_assoc]
      | escaped c =>
          rw [Text.render_cons, Token.text, List.append_assoc, List.cons_append, splitComponents, if_pos rfl,
            List.singleton_append, splitComponents, later]
          simp only [List.append_assoc, List.cons_append, List.nil_append]

theorem splitComponents_intercalate {parts : List (List Token)} (present : parts ≠ [])
    (unseparated : ∀ tokens ∈ parts, Unseparated tokens) :
    splitComponents false [] ([','].intercalate (parts.map render)) =
      (parts.map fun tokens => trimSpace (render tokens), false) := by
  induction parts with
  | nil => exact absurd rfl present
  | cons tokens parts ih =>
      have first := splitComponents_render (unseparated tokens List.mem_cons_self) []
      cases parts with
      | nil =>
          have alone := first []
          simp only [List.append_nil, List.nil_append] at alone
          simp [List.intercalate, alone, splitComponents]
      | cons next parts =>
          have later := ih (by simp) fun other member => unseparated other (List.mem_cons_of_mem _ member)
          rw [List.map_cons, List.map_cons, List.intercalate_cons_cons, List.append_assoc, first,
            List.singleton_append, splitComponents, if_neg (by decide), if_pos rfl, ← List.map_cons, later]
          rfl

theorem unescape_render (tokens : List Token) (rest : List Char) :
    unescape false (render tokens ++ rest) =
      (tokens.map Token.char ++ (unescape false rest).1, (unescape false rest).2) := by
  induction tokens with
  | nil => rfl
  | cons token tokens ih =>
      cases token with
      | plain c bare =>
          rw [Text.render_cons, Token.text, List.append_assoc, List.singleton_append, unescape, if_neg bare, ih]
          rfl
      | escaped c =>
          rw [Text.render_cons, Token.text, List.append_assoc, List.cons_append, unescape, if_pos rfl,
            List.singleton_append, unescape, ih]
          rfl

/-- What is left of a value when its plain spaces at both ends are gone. -/
def trimTokens (tokens : List Token) : List Token := trim (Token.blank isSpace) tokens

def EndsEscaped (tokens : List Token) : Prop :=
  ∃ c, (trimTokens tokens).getLast? = some (.escaped c) ∧ isSpace c = true

/-- A value is read without its plain spaces, and refused if an escaped one ends it. -/
theorem unescapeDNValue_render (tokens : List Token) :
    (¬ EndsEscaped tokens →
      unescapeDNValue (trimSpace (render tokens)) = .ok ((trimTokens tokens).map Token.char)) ∧
    (EndsEscaped tokens → ∃ err, unescapeDNValue (trimSpace (render tokens)) = .error err) := by
  constructor
  · intro ends
    have trimmed : trimSpace (render tokens) = render (trimTokens tokens) := by
      refine Text.trim_render (by decide) fun c last => ?_
      rw [Bool.eq_false_iff]
      exact fun blank => ends ⟨c, last, blank⟩
    have read := unescape_render (trimTokens tokens) []
    rw [List.append_nil] at read
    rw [trimmed, unescapeDNValue, read]
    simp [unescape]
  · rintro ⟨c, last, blank⟩
    obtain ⟨front, same⟩ := List.getLast?_eq_some_iff.mp last
    have trimmed : trimSpace (render tokens) = render front ++ ['\\'] :=
      Text.trim_render_dangling (by decide) same blank
    refine ⟨.text "distinguished name value ends with an escape", ?_⟩
    rw [trimmed, unescapeDNValue, unescape_render]
    simp [unescape]

section
variable {lib : Library}

/-- What a component adds to a name: the value of its key, trimmed and unescaped. -/
def addWritten (lib : Library) (name : Name) (key value : List Char) : Except PlainError Name :=
  match unescapeDNValue (trimSpace value) with
  | .error err => .error err
  | .ok decoded =>
      if decoded = [] then .error (.text "distinguished name value is empty")
      else addNameAttribute lib name (String.ofList (key.map lib.upperCase)) (String.ofList decoded)

theorem trimSpace_visible {key : List Char} (visible : ∀ c ∈ key, isSpace c = false) :
    trimSpace key = key := by
  refine Text.trim_of_trimmed ⟨fun c first => visible c (List.mem_of_mem_head? first), fun c last => ?_⟩
  exact visible c (List.mem_of_mem_getLast? last)

theorem addComponent_component {name : Name} {key value : List Char}
    (visible : ∀ c ∈ key, isSpace c = false) (unequal : '=' ∉ key) :
    addComponent lib name (trimSpace (key ++ '=' :: value)) = addWritten lib name key value := by
  obtain ⟨raw, component, same⟩ := @trimSpace_component key value visible
  rw [component, addComponent, cutAtEquals_append unequal]
  dsimp only
  rw [same, trimSpace_visible visible]
  rfl

theorem readAttribute_component {key value : List Char} (visible : ∀ c ∈ key, isSpace c = false)
    (unequal : '=' ∉ key) : readAttribute (trimSpace (key ++ '=' :: value)) =
      (attributeType (String.ofList (key.map toUpper))).map fun type =>
        ⟨type, .string (String.ofList (unescape false (trimSpace value)).1)⟩ := by
  obtain ⟨raw, component, same⟩ := @trimSpace_component key value visible
  rw [component, readAttribute, cutAtEquals_append unequal]
  dsimp only
  rw [same, trimSpace_visible visible]

theorem unescapeDNValue_ok {value decoded : List Char} (read : unescapeDNValue value = .ok decoded) :
    decoded = (unescape false value).1 := by
  unfold unescapeDNValue at read
  dsimp only at read
  split at read <;> cases read
  rfl

theorem parseDistinguishedName_intercalate {parts : List (List Token)} (present : parts ≠ [])
    (unseparated : ∀ tokens ∈ parts, Unseparated tokens)
    (visible : ∀ tokens ∈ parts, trimSpace (render tokens) ≠ []) :
    parseDistinguishedName lib (String.ofList ([','].intercalate (parts.map render))) =
      parts.foldlM (fun name tokens => addComponent lib name (trimSpace (render tokens))) {} := by
  have some_visible : trimSpace ([','].intercalate (parts.map render)) ≠ [] := by
    intro empty
    obtain ⟨tokens, others, rfl⟩ := List.exists_cons_of_ne_nil present
    refine visible tokens List.mem_cons_self (trimSpace_eq_nil_iff.mpr fun c member => ?_)
    refine trimSpace_eq_nil_iff.mp empty c ?_
    cases others with
    | nil => simpa [List.intercalate] using member
    | cons =>
        rw [List.map_cons, List.map_cons, List.intercalate_cons_cons]
        exact List.mem_append_left _ (List.mem_append_left _ member)
  have full : [] ∉ parts.map fun tokens => trimSpace (render tokens) := by
    intro member
    obtain ⟨tokens, found, empty⟩ := List.mem_map.mp member
    exact visible tokens found empty
  have cut : splitDN ([','].intercalate (parts.map render)) =
      .ok (parts.map fun tokens => trimSpace (render tokens)) := by
    rw [splitDN, if_neg some_visible, splitComponents_intercalate present unseparated]
    simp [full]
  rw [parseDistinguishedName, String.toList_ofList, cut]
  dsimp only
  rw [List.foldlM_map]

end

end CmpIssuer
