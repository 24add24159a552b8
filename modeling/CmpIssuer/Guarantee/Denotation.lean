import CmpIssuer.Guarantee.Parsing

/-!
Configured names as names of RFC 4514. The parser accepts hexadecimal escapes,
multi-valued components, hexadecimal values and unescaped blanks at the ends of a
value without reading them as the grammar does, and it keeps one common name and
one serial number. A name it accepts is the name of the text exactly when the
text has none of these.
-/
namespace CmpIssuer
open Text (Token render literal utf8 Piece AttributeKey AssertionValue Assertion RelativeName DistinguishedName)

/-- The octets of a number, the most significant first. -/
def bigEndian : (width : Nat) → Nat → List UInt8
  | 0, _ => []
  | width + 1, n => bigEndian width (n / 256) ++ [UInt8.ofNat n]

/-- The contents of a text in the string types of ASN.1: those of UTF-8 and its subsets, of one octet for
each character, of two and of four. -/
inductive StringContents : List UInt8 → List Char → Prop where
  | utf8 (text : List Char) : StringContents (utf8 text) text
  | teletex (text : List Char) (narrow : ∀ c ∈ text, c.toNat < 0x100) :
      StringContents (text.flatMap fun c => bigEndian 1 c.toNat) text
  | bmp (text : List Char) (basic : ∀ c ∈ text, c.toNat < 0x10000) :
      StringContents (text.flatMap fun c => bigEndian 2 c.toNat) text
  | universal (text : List Char) : StringContents (text.flatMap fun c => bigEndian 4 c.toNat) text

/-- The text of an attribute value. A string stands for its octets. A hexadecimal string is the BER
encoding of the value: besides the contents it has an identifier and a length, at least once. -/
def ValueDenotes (value : AssertionValue) (text : String) : Prop :=
  match value with
  | .string pieces _ _ => utf8 text.toList = pieces.flatMap Piece.octets
  | .hexString first rest => ∃ contents : List UInt8, StringContents contents text.toList ∧
      contents.Sublist ((first :: rest).map Text.HexPair.octet) ∧ contents.length + 2 ≤ (first :: rest).length

section
variable (descriptors : String → Option OID)

/-- The type of a key: a number as it is, a descriptor by the registry, in any case. -/
def keyType : AttributeKey → Option OID
  | .descr first rest _ _ => descriptors (String.ofList ((first :: rest).map Char.toUpper))
  | .numericoid first second rest => some (first :: second :: rest)

/-- An attribute is the one an assertion denotes. -/
def AssertionDenotes (assertion : Assertion) (entry : AttributeTypeAndValue) : Prop :=
  keyType descriptors assertion.key = some entry.type ∧
    ∃ text, entry.value = .string text ∧ ValueDenotes assertion.value text

/-- A name has the attributes that RFC 4514 assigns to a text: one for each assertion, and no others. -/
def NameDenotes (dn : DistinguishedName) (name : Name) : Prop :=
  ∃ entries, List.Forall₂ (AssertionDenotes descriptors) dn.assertions entries ∧
    entries.Perm name.attributes

/-- The elements at the two ends of a string value are no unescaped blanks. -/
def ClosedEnds (pieces : List Piece) : Prop :=
  ∀ piece, pieces.head? = some piece ∨ pieces.getLast? = some piece →
    ∀ c, piece.unescaped = some c → isSpace c = false

/-- A value the parser reads as RFC 4514 does: no hexadecimal escapes and no unescaped blank at an end. -/
def SupportedValue : AssertionValue → Prop
  | .string pieces _ _ => (∀ piece ∈ pieces, piece.isOctet = false) ∧ ClosedEnds pieces
  | .hexString _ _ => False

/-- The subset of RFC 4514 the parser supports: components of one assertion, supported values, and a
common name and a serial number at most once. -/
structure SupportedName (dn : DistinguishedName) : Prop where
  single : ∀ name ∈ dn.names, name.others = []
  values : ∀ assertion ∈ dn.assertions, SupportedValue assertion.value
  once : ∀ type ∈ [oidCommonName, oidSerialNumber],
    (dn.assertions.countP fun assertion => keyType descriptors assertion.key == some type) ≤ 1

end

theorem literal_blank {c : Char} (bare : c ≠ '\\') : (literal c).blank isSpace = isSpace c := by
  rw [literal, dif_neg bare]
  rfl

theorem hexDigits_visible {c : Char} (digit : c ∈ Text.hexDigits) :
    isSpace c = false ∧ c ≠ ',' ∧ c.utf8Size = 1 := by
  have all : ∀ c ∈ Text.hexDigits, isSpace c = false ∧ c ≠ ',' ∧ c.utf8Size = 1 :=
    List.all_iff_forall_prop.mp (by decide)
  exact all c digit

/-- The characters of a value: no plain comma, and no escaped blank but the space. -/
structure Separable (tokens : List Token) : Prop where
  comma : Unseparated tokens
  escaped : ∀ c, Token.escaped c ∈ tokens → isSpace c = true → c = ' '

theorem Separable.literal {text : List Char} (bare : '\\' ∉ text) (comma : ',' ∉ text) :
    Separable (text.map literal) where
  comma _ _ member same := comma (same ▸ Text.plain_mem_literal member)
  escaped _ member := absurd (Text.escaped_mem_literal member) bare

theorem Separable.append {first second : List Token} (one : Separable first) (two : Separable second) :
    Separable (first ++ second) where
  comma c bare member := (List.mem_append.mp member).elim (one.comma c bare) (two.comma c bare)
  escaped c member := (List.mem_append.mp member).elim (one.escaped c) (two.escaped c)

theorem Separable.flatMap {α : Type} {list : List α} {tokens : α → List Token}
    (each : ∀ a ∈ list, Separable (tokens a)) : Separable (list.flatMap tokens) where
  comma c bare member := by
    obtain ⟨a, found, inside⟩ := List.mem_flatMap.mp member
    exact (each a found).comma c bare inside
  escaped c member := by
    obtain ⟨a, found, inside⟩ := List.mem_flatMap.mp member
    exact (each a found).escaped c inside

theorem Separable.piece (piece : Piece) : Separable piece.tokens := by
  have alone : ∀ c, (isSpace c = true → c = ' ') → Separable [Token.escaped c] := by
    intro c space
    refine ⟨fun d bare member => ?_, fun d member => ?_⟩
    · cases List.mem_singleton.mp member
    · cases List.mem_singleton.mp member
      exact space
  cases piece with
  | char c allowed =>
      refine @Separable.literal [c] ?_ ?_
      all_goals
        intro member
        cases List.mem_singleton.mp member
        exact allowed (by decide)
  | pair c special =>
      have all : ∀ c ∈ Text.escapable, isSpace c = true → c = ' ' := List.all_iff_forall_prop.mp (by decide)
      exact alone c (all c special)
  | octet digits =>
      have high := hexDigits_visible digits.digits.1
      have low := hexDigits_visible digits.digits.2
      refine (alone digits.high fun blank => ?_).append (@Separable.literal [digits.low] ?_ ?_)
      · rw [high.1] at blank
        cases blank
      · intro member
        exact Text.hexDigits_bare digits.digits.2 (List.mem_singleton.mp member).symm
      · intro member
        exact low.2.1 (List.mem_singleton.mp member).symm

theorem hexString_visible (first : Text.HexPair) (rest : List Text.HexPair) :
    ∀ c ∈ '#' :: (first :: rest).flatMap Text.HexPair.text, isSpace c = false ∧ c ≠ ',' ∧ c ≠ '\\' := by
  intro c member
  rcases List.mem_cons.mp member with rfl | inside
  · decide
  · obtain ⟨pair, _, found⟩ := List.mem_flatMap.mp inside
    have digit : c ∈ Text.hexDigits := by
      rcases List.mem_cons.mp found with rfl | second
      · exact pair.digits.1
      · cases List.mem_singleton.mp second
        exact pair.digits.2
    exact ⟨(hexDigits_visible digit).1, (hexDigits_visible digit).2.1, Text.hexDigits_bare digit⟩

theorem Separable.value (value : AssertionValue) : Separable value.tokens := by
  cases value with
  | string pieces lead trail => exact Separable.flatMap fun piece _ => Separable.piece piece
  | hexString first rest =>
      have visible := hexString_visible first rest
      exact Separable.literal (fun member => (visible _ member).2.2 rfl) fun member =>
        (visible _ member).2.1 rfl

theorem value_read {value : AssertionValue} {decoded : List Char}
    (read : unescapeDNValue (trimSpace value.text) = .ok decoded) :
    decoded = (trimTokens value.tokens).map Token.char := by
  rw [← value.render_tokens] at read
  by_cases ends : EndsEscaped value.tokens
  · obtain ⟨err, refused⟩ := (unescapeDNValue_render value.tokens).2 ends
    rw [refused] at read
    cases read
  · rw [(unescapeDNValue_render value.tokens).1 ends] at read
    cases read
    rfl

theorem value_read_ends {value : AssertionValue} {decoded : List Char}
    (read : unescapeDNValue (trimSpace value.text) = .ok decoded) {c : Char}
    (ends : decoded.head? = some c ∨ decoded.getLast? = some c) (blank : isSpace c = true) : c = ' ' := by
  obtain ⟨lead, trail, same, _, _, trimmed⟩ := Text.trim_decompose (p := Token.blank isSpace) value.tokens
  have found : ∃ token ∈ trimTokens value.tokens, token.char = c ∧ token.blank isSpace = false := by
    rw [value_read read, List.head?_map, List.getLast?_map, Option.map_eq_some_iff,
      Option.map_eq_some_iff] at ends
    rcases ends with ⟨token, first, char⟩ | ⟨token, last, char⟩
    · exact ⟨token, List.mem_of_mem_head? first, char, trimmed.head token first⟩
    · exact ⟨token, List.mem_of_mem_getLast? last, char, trimmed.last token last⟩
  obtain ⟨token, member, char, visible⟩ := found
  cases token with
  | plain d bare =>
      cases char
      exact absurd (blank.symm.trans visible) (by decide)
  | escaped d =>
      cases char
      refine (Separable.value value).escaped d ?_ blank
      rw [same]
      exact List.mem_append_left _ (List.mem_append_right _ member)

theorem piece_head {piece : Piece} (closed : ∀ c, piece.unescaped = some c → isSpace c = false) :
    ∃ token rest, piece.tokens = token :: rest ∧ token.blank isSpace = false := by
  cases piece with
  | char c allowed =>
      refine ⟨literal c, [], rfl, ?_⟩
      rw [literal_blank (Text.reserved_bare allowed)]
      exact closed c rfl
  | pair c special => exact ⟨_, _, rfl, rfl⟩
  | octet digits => exact ⟨_, _, rfl, rfl⟩

theorem piece_last {piece : Piece} (closed : ∀ c, piece.unescaped = some c → isSpace c = false) :
    ∃ front token, piece.tokens = front ++ [token] ∧ token.blank isSpace = false := by
  cases piece with
  | char c allowed =>
      refine ⟨[], literal c, rfl, ?_⟩
      rw [literal_blank (Text.reserved_bare allowed)]
      exact closed c rfl
  | pair c special => exact ⟨[], _, rfl, rfl⟩
  | octet digits =>
      refine ⟨[.escaped digits.high], literal digits.low, rfl, ?_⟩
      rw [literal_blank (Text.hexDigits_bare digits.digits.2)]
      exact (hexDigits_visible digits.digits.2).1

theorem closed_tokens {pieces : List Piece} (closed : ClosedEnds pieces) :
    trimTokens (pieces.flatMap Piece.tokens) = pieces.flatMap Piece.tokens := by
  refine Text.trim_of_trimmed ⟨fun token first => ?_, fun token last => ?_⟩
  · cases pieces with
    | nil => cases first
    | cons piece pieces =>
        obtain ⟨start, rest, same, visible⟩ := piece_head (closed piece (.inl rfl))
        rw [List.flatMap_cons, same] at first
        cases first
        exact visible
  · rcases List.eq_nil_or_concat pieces with rfl | ⟨front, piece, rfl⟩
    · cases last
    · obtain ⟨before, finish, same, visible⟩ := piece_last (closed piece (.inr (by simp)))
      rw [List.concat_eq_append, List.flatMap_append, List.flatMap_singleton, same, ← List.append_assoc,
        List.getLast?_concat] at last
      cases last
      exact visible

/-- The octets the parser reads for an element: those it stands for, or one more for a hexadecimal
escape. -/
theorem piece_octets (piece : Piece) :
    (piece.isOctet = false → utf8 (piece.tokens.map Token.char) = piece.octets) ∧
    (utf8 (piece.tokens.map Token.char)).length = piece.octets.length + if piece.isOctet then 1 else 0 := by
  cases piece with
  | char c allowed => simp [Piece.tokens, Piece.octets, Piece.isOctet]
  | pair c special => simp [Piece.tokens, Piece.octets, Piece.isOctet]
  | octet digits =>
      have high := (hexDigits_visible digits.digits.1).2.2
      have low := (hexDigits_visible digits.digits.2).2.2
      simp [Piece.tokens, Piece.octets, Piece.isOctet, high, low]

theorem pieces_octets (pieces : List Piece) :
    ((∀ piece ∈ pieces, piece.isOctet = false) →
      utf8 ((pieces.flatMap Piece.tokens).map Token.char) = pieces.flatMap Piece.octets) ∧
    (utf8 ((pieces.flatMap Piece.tokens).map Token.char)).length =
      (pieces.flatMap Piece.octets).length + pieces.countP Piece.isOctet := by
  induction pieces with
  | nil => exact ⟨fun _ => rfl, rfl⟩
  | cons piece pieces ih =>
      obtain ⟨same, size⟩ := piece_octets piece
      rw [List.flatMap_cons, List.map_append, Text.utf8_append, List.flatMap_cons]
      refine ⟨fun none => ?_, ?_⟩
      · rw [same (none piece List.mem_cons_self), ih.1 fun other member => none other (List.mem_cons_of_mem _ member)]
      · rw [List.length_append, List.length_append, size, ih.2, List.countP_cons]
        omega

/-- No string type of ASN.1 has more than two octets of UTF-8 for an octet of its contents. -/
theorem StringContents.size {contents : List UInt8} {text : List Char} (encoded : StringContents contents text) :
    (Text.utf8 text).length ≤ 2 * contents.length := by
  have each : ∀ {width : Nat} {text : List Char}, (∀ c ∈ text, c.utf8Size ≤ 2 * width) →
      (Text.utf8 text).length ≤ 2 * (text.flatMap fun c => bigEndian width c.toNat).length := by
    intro width text bounded
    have octets : ∀ width n, (bigEndian width n).length = width := by
      intro width
      induction width with
      | zero => exact fun _ => rfl
      | succ width ih => exact fun n => by rw [bigEndian, List.length_append, ih]; rfl
    induction text with
    | nil => exact Nat.le_refl _
    | cons c text ih =>
        have first := bounded c List.mem_cons_self
        have later := ih fun d member => bounded d (List.mem_cons_of_mem _ member)
        rw [Text.utf8_cons, List.flatMap_cons, List.length_append, List.length_append, octets,
          String.length_utf8EncodeChar]
        omega
  have narrowly : ∀ c : Char, c.toNat < 0x100 → c.utf8Size ≤ 2 := by
    intro c small
    rcases c.utf8Size_eq with size | size | size | size
    · omega
    · omega
    · have large := (Char.utf8Size_eq_three_iff.mp size).1
      exact absurd (Nat.lt_trans (UInt32.lt_iff_toNat_lt.mp large) small) (by decide)
    · have large := Char.utf8Size_eq_four_iff.mp size
      exact absurd (Nat.lt_trans (UInt32.lt_iff_toNat_lt.mp large) small) (by decide)
  cases encoded with
  | utf8 => omega
  | teletex _ narrow => exact each fun c member => narrowly c (narrow c member)
  | bmp => exact each fun c _ => c.utf8Size_le_four
  | universal => exact each fun c _ => Nat.le_trans c.utf8Size_le_four (by decide)

def ClosedValue : AssertionValue → Prop
  | .string pieces _ _ => ClosedEnds pieces
  | .hexString _ _ => True

theorem supported_read {value : AssertionValue} {decoded : List Char} (supported : SupportedValue value)
    (read : unescapeDNValue (trimSpace value.text) = .ok decoded) :
    ValueDenotes value (String.ofList decoded) := by
  cases value with
  | string pieces lead trail =>
      obtain ⟨none, closed⟩ := supported
      have same := value_read read
      simp only [AssertionValue.tokens] at same
      rw [closed_tokens closed] at same
      rw [ValueDenotes, String.toList_ofList, same]
      exact (pieces_octets pieces).1 none
  | hexString first rest => exact supported.elim

/-- A value with closed ends is read with at least the octets of what it denotes, and with more of them
unless it is supported. -/
theorem closed_read {value : AssertionValue} {decoded : List Char} {text : String}
    (closed : ClosedValue value) (read : unescapeDNValue (trimSpace value.text) = .ok decoded)
    (denotes : ValueDenotes value text) :
    (utf8 text.toList).length ≤ (utf8 decoded).length ∧
      ((utf8 text.toList).length = (utf8 decoded).length → SupportedValue value) := by
  have same := value_read read
  cases value with
  | string pieces lead trail =>
      simp only [AssertionValue.tokens] at same
      rw [closed_tokens closed] at same
      have size := (pieces_octets pieces).2
      rw [← same, ← denotes] at size
      refine ⟨by omega, fun equal => ⟨fun piece member => ?_, closed⟩⟩
      have zero : pieces.countP Piece.isOctet = 0 := by omega
      simpa using List.countP_eq_zero.mp zero piece member
  | hexString first rest =>
      have visible := hexString_visible first rest
      have kept : trimTokens (AssertionValue.hexString first rest).tokens =
          (AssertionValue.hexString first rest).tokens := by
        have blank : ∀ token ∈ (AssertionValue.hexString first rest).tokens, token.blank isSpace = false := by
          intro token member
          obtain ⟨c, found, rfl⟩ := List.mem_map.mp member
          rw [literal_blank (visible c found).2.2]
          exact (visible c found).1
        exact Text.trim_of_trimmed ⟨fun token head => blank token (List.mem_of_mem_head? head),
          fun token last => blank token (List.mem_of_mem_getLast? last)⟩
      have digits : decoded = '#' :: (first :: rest).flatMap Text.HexPair.text := by
        rw [same, kept, AssertionValue.tokens, List.map_map]
        conv_rhs => rw [← List.map_id ('#' :: (first :: rest).flatMap Text.HexPair.text)]
        exact List.map_congr_left fun c _ => Text.literal_char c
      have size : ∀ pairs : List Text.HexPair,
          (utf8 (pairs.flatMap Text.HexPair.text)).length = 2 * pairs.length := by
        intro pairs
        induction pairs with
        | nil => rfl
        | cons pair pairs ih =>
            have high := (hexDigits_visible pair.digits.1).2.2
            have low := (hexDigits_visible pair.digits.2).2.2
            rw [List.flatMap_cons, Text.utf8_append, List.length_append, ih]
            simp [Text.HexPair.text, high, low]
            omega
      obtain ⟨contents, encoded, _, shorter⟩ := denotes
      have bound := encoded.size
      have whole : (utf8 decoded).length = 1 + 2 * (first :: rest).length := by
        rw [digits, Text.utf8_cons, List.length_append, size]
        rfl
      exact ⟨by omega, fun equal => by omega⟩

/-- What a value with an unescaped blank at an end denotes has that blank, and it is not the space. -/
theorem open_value {value : AssertionValue} {text : String} (ends : ¬ ClosedValue value)
    (denotes : ValueDenotes value text) : ∃ c, (text.toList.head? = some c ∨ text.toList.getLast? = some c) ∧
      isSpace c = true ∧ c ≠ ' ' := by
  cases value with
  | hexString first rest => exact absurd trivial ends
  | string pieces lead trail =>
      simp only [ClosedValue, ClosedEnds, not_forall] at ends
      obtain ⟨piece, place, c, char, blank⟩ := ends
      rw [Bool.not_eq_false] at blank
      have octets : piece.octets = String.utf8EncodeChar c := by
        cases piece <;> cases char
        rfl
      change utf8 text.toList = pieces.flatMap Piece.octets at denotes
      rcases place with first | last
      · refine ⟨c, .inl ?_, blank, fun space => (lead piece first).1 (space ▸ char)⟩
        obtain ⟨rest, rfl⟩ := List.head?_eq_some_iff.mp first
        rw [List.flatMap_cons, octets] at denotes
        cases start : text.toList with
        | nil =>
            rw [start] at denotes
            exact absurd (List.append_eq_nil_iff.mp denotes.symm).1 String.utf8EncodeChar_ne_nil
        | cons d rest =>
            rw [start, Text.utf8_cons] at denotes
            rw [Text.head_of_utf8 denotes]
            rfl
      · refine ⟨c, .inr ?_, blank, fun space => trail piece last (space ▸ char)⟩
        obtain ⟨front, rfl⟩ := List.getLast?_eq_some_iff.mp last
        rw [List.flatMap_append, List.flatMap_singleton, octets] at denotes
        rcases List.eq_nil_or_concat text.toList with finish | ⟨before, d, finish⟩
        · rw [finish] at denotes
          exact absurd (List.append_eq_nil_iff.mp denotes.symm).2 String.utf8EncodeChar_ne_nil
        · rw [finish, List.concat_eq_append, Text.utf8_append, Text.utf8_cons, Text.utf8_nil,
            List.append_nil] at denotes
          rw [finish, Text.last_of_utf8 denotes]
          simp

theorem isAlphanum_cases {c : Char} (alphanum : c.isAlphanum = true) :
    (c.isLower = true ∨ c.isUpper = true ∨ c.isDigit = true) := by
  rcases Bool.or_eq_true_iff.mp alphanum with alpha | digit
  · rcases Bool.or_eq_true_iff.mp alpha with upper | lower
    · exact .inr (.inl upper)
    · exact .inl lower
  · exact .inr (.inr digit)

theorem key_visible (key : AttributeKey) :
    ∀ c ∈ key.text, isSpace c = false ∧ c ≠ '=' ∧ c ≠ '\\' ∧ c ≠ ',' := by
  intro c member
  rcases key.text_chars c member with alphanum | rfl | rfl
  · refine ⟨?_, ?_, ?_, ?_⟩
    · rcases isAlphanum_cases alphanum with lower | upper | digit
      · have range := isLower_range lower
        exact isSpace_between (by omega) (by omega)
      · have range := isUpper_range upper
        exact isSpace_between (by omega) (by omega)
      · have range := isDigit_range digit
        exact isSpace_between (by omega) (by omega)
    all_goals
      rintro rfl
      exact absurd alphanum (by decide)
  · decide
  · decide

/-- On the letters of a descriptor the parser's upper case is that of ASCII. -/
theorem toUpper_ascii {c : Char} (ascii : c.isAlphanum = true ∨ c = '-') : toUpper c = c.toUpper := by
  unfold toUpper
  split
  · rfl
  · rename_i lower
    have dotless : c ≠ 'ı' := by
      rintro rfl
      exact absurd ascii (by decide)
    have long : c ≠ 'ſ' := by
      rintro rfl
      exact absurd ascii (by decide)
    rw [if_neg dotless, if_neg long]
    refine (dif_neg (e := fun _ => c) fun range => lower ?_).symm
    exact Bool.and_eq_true_iff.mpr ⟨decide_eq_true range.1, decide_eq_true range.2⟩

section
variable {descriptors : String → Option OID}
variable (agrees : ∀ key type, attributeType key = some type → descriptors key = some type)

include agrees in
theorem keyType_known {key : AttributeKey} {type : OID}
    (known : attributeType (String.ofList (key.text.map toUpper)) = some type) :
    keyType descriptors key = some type := by
  cases key with
  | descr first rest letter keyChars =>
      have ascii : (first :: rest).map toUpper = (first :: rest).map Char.toUpper := by
        refine List.map_congr_left fun c member => toUpper_ascii ?_
        rcases List.mem_cons.mp member with rfl | later
        · exact .inl (Bool.or_eq_true_iff.mpr (.inl letter))
        · exact keyChars c later
      rw [keyType, ← ascii]
      exact agrees _ _ known
  | numericoid first second rest =>
      obtain ⟨digit, digits, same⟩ := List.exists_cons_of_ne_nil (Nat.toDigits_ne_nil (n := first) (b := 10))
      have isDigit : digit.isDigit = true :=
        Nat.isDigit_of_mem_toDigits (by decide) (by decide) (same ▸ List.mem_cons_self)
      have member : digit ∈ (AttributeKey.numericoid first second rest).text := by
        rw [AttributeKey.text, List.map_cons, List.map_cons, List.intercalate_cons_cons, same]
        exact List.mem_append_left _ (List.mem_append_left _ List.mem_cons_self)
      have letter := (attributeType_letters (Option.isSome_iff_exists.mpr ⟨type, known⟩)).2 digit member
      rw [keywordLetter_not_digit letter] at isDigit
      cases isDigit

end

/-! The texts of assertions and of relative names. -/

def assertionTokens (assertion : Assertion) : List Token :=
  (assertion.key.text ++ ['=']).map literal ++ assertion.value.tokens

theorem render_assertionTokens (assertion : Assertion) :
    render (assertionTokens assertion) = assertion.text := by
  have bare : '\\' ∉ assertion.key.text ++ ['='] := by
    intro member
    rcases List.mem_append.mp member with inside | last
    · exact (key_visible _ _ inside).2.2.1 rfl
    · exact absurd last (by decide)
  rw [assertionTokens, Text.render_append, Text.render_literal bare, AssertionValue.render_tokens]
  simp [Assertion.text]

theorem Separable.assertion (assertion : Assertion) : Separable (assertionTokens assertion) := by
  refine (Separable.literal ?_ ?_).append (Separable.value _)
  all_goals
    intro member
    rcases List.mem_append.mp member with inside | last
    · have visible := key_visible _ _ inside
      simp at visible
    · exact absurd last (by decide)

def relativeTokens (name : RelativeName) : List Token :=
  [literal '+'].intercalate (name.assertions.map assertionTokens)

theorem render_relativeTokens (name : RelativeName) : render (relativeTokens name) = name.text := by
  rw [relativeTokens, Text.render_intercalate, List.map_map, RelativeName.text]
  congr 1
  exact List.map_congr_left fun assertion _ => render_assertionTokens assertion

theorem unseparated_relative (name : RelativeName) : Unseparated (relativeTokens name) := by
  intro c bare member
  rcases Text.mem_intercalate member with plus | ⟨tokens, found, inside⟩
  · cases plus
    decide
  · obtain ⟨assertion, _, rfl⟩ := List.mem_map.mp found
    exact (Separable.assertion assertion).comma c bare inside

theorem equals_mem_relative (name : RelativeName) : '=' ∈ name.text := by
  have first : '=' ∈ name.first.text := by simp [Assertion.text]
  unfold RelativeName.text RelativeName.assertions
  cases name.others with
  | nil => simpa [List.intercalate] using first
  | cons next others =>
      rw [List.map_cons, List.map_cons, List.intercalate_cons_cons]
      exact List.mem_append_left _ (List.mem_append_left _ first)

section
variable {lib : Library}

theorem parse_relative {dn : DistinguishedName} {name : Name}
    (accepted : parseDistinguishedName lib (String.ofList dn.text) = .ok name) :
    (dn.names.map fun relative => trimSpace relative.text).foldlM (addComponent lib) {} = .ok name := by
  have present : dn.names ≠ [] := by
    intro empty
    rw [DistinguishedName.text, empty] at accepted
    cases accepted
  have texts : dn.text = [','].intercalate ((dn.names.map relativeTokens).map render) := by
    rw [DistinguishedName.text, List.map_map]
    congr 1
    exact List.map_congr_left fun relative _ => (render_relativeTokens relative).symm
  rw [texts, parseDistinguishedName_intercalate (by simpa using present)] at accepted
  · rw [List.foldlM_map] at accepted ⊢
    simpa only [render_relativeTokens] using accepted
  · intro tokens member
    obtain ⟨relative, _, rfl⟩ := List.mem_map.mp member
    exact unseparated_relative relative
  · intro tokens member empty
    obtain ⟨relative, _, rfl⟩ := List.mem_map.mp member
    rw [render_relativeTokens] at empty
    have blank := trimSpace_eq_nil_iff.mp empty '=' (equals_mem_relative relative)
    exact absurd blank (by decide)

theorem addNameAttribute_length {name name' : Name} {key value : String}
    (added : addNameAttribute lib name key value = .ok name') :
    name'.attributes.length ≤ name.attributes.length + 1 := by
  have single := singleValue_length_le value
  unfold addNameAttribute at added
  split at added <;> cases added
  all_goals
    simp only [Name.attributes, List.length_append, fieldAttributes, List.length_map, List.length_singleton]
    omega

theorem foldlM_length {name name' : Name} {parts : List (List Char)}
    (added : parts.foldlM (addComponent lib) name = .ok name') :
    name'.attributes.length ≤ name.attributes.length + parts.length := by
  induction parts generalizing name with
  | nil =>
      cases added
      exact Nat.le_refl _
  | cons part parts ih =>
      rw [List.foldlM_cons] at added
      cases first : addComponent lib name part with
      | error err =>
          rw [first] at added
          cases added
      | ok middle =>
          rw [first] at added
          have later := ih added
          have one : middle.attributes.length ≤ name.attributes.length + 1 := by
            unfold addComponent at first
            split at first
            · cases first
            · split at first
              · cases first
              · split at first
                · cases first
                · exact addNameAttribute_length first
          rw [List.length_cons]
          omega

/-- What the parser reads for an assertion. -/
structure ReadAs (descriptors : String → Option OID) (assertion : Assertion)
    (entry : AttributeTypeAndValue) : Prop where
  type : keyType descriptors assertion.key = some entry.type
  value : ∃ decoded, unescapeDNValue (trimSpace assertion.value.text) = .ok decoded ∧
    entry.value = .string (String.ofList decoded)

theorem addComponent_assertion {descriptors : String → Option OID}
    (agrees : ∀ key type, attributeType key = some type → descriptors key = some type)
    {assertion : Assertion} {name name' : Name}
    (added : addComponent lib name (trimSpace assertion.text) = .ok name') :
    ∃ entry, readAttribute (trimSpace assertion.text) = some entry ∧
      ReadAs descriptors assertion entry := by
  have visible := key_visible assertion.key
  have unequal : '=' ∉ assertion.key.text := fun member => (visible _ member).2.1 rfl
  rw [Assertion.text, addComponent_component (fun c member => (visible c member).1) unequal, addWritten] at added
  rw [Assertion.text, readAttribute_component (fun c member => (visible c member).1) unequal]
  split at added
  · cases added
  · rename_i decoded read
    split at added
    · cases added
    · rename_i present
      obtain ⟨type, known, _⟩ := addNameAttribute_ok added (by simpa using present)
      rw [attributeType_upperCase] at known
      refine ⟨⟨type, .string (String.ofList decoded)⟩, ?_, keyType_known agrees known, decoded, read, rfl⟩
      rw [known, unescapeDNValue_ok read]
      rfl

theorem foldlM_assertions {descriptors : String → Option OID}
    (agrees : ∀ key type, attributeType key = some type → descriptors key = some type)
    {assertions : List Assertion} {name name' : Name}
    (added : (assertions.map fun assertion => trimSpace assertion.text).foldlM (addComponent lib) name =
      .ok name') :
    List.Forall₂ (ReadAs descriptors) assertions
      ((assertions.map fun assertion => trimSpace assertion.text).filterMap readAttribute) := by
  induction assertions generalizing name with
  | nil => exact .nil
  | cons assertion assertions ih =>
      rw [List.map_cons, List.foldlM_cons] at added
      cases first : addComponent lib name (trimSpace assertion.text) with
      | error err =>
          rw [first] at added
          cases added
      | ok middle =>
          rw [first] at added
          obtain ⟨entry, written, read⟩ := addComponent_assertion agrees first
          rw [List.map_cons, List.filterMap_cons, written]
          exact .cons read (ih added)

end

theorem related_left {α β : Type} {relation : α → β → Prop} {list : List α} {entries : List β}
    (related : List.Forall₂ relation list entries) {a : α} (member : a ∈ list) :
    ∃ b ∈ entries, relation a b := by
  induction related with
  | nil => cases member
  | cons head _ ih =>
      rcases List.mem_cons.mp member with rfl | later
      · exact ⟨_, List.mem_cons_self, head⟩
      · obtain ⟨b, found, holds⟩ := ih later
        exact ⟨b, List.mem_cons_of_mem _ found, holds⟩

/-- Entries that are no larger than others one by one, and as large together, are as large one by one. -/
theorem equal_of_sum_eq {α β : Type} {first second : α → β → Prop} {size : β → Nat} {list : List α}
    {entries others : List β} (one : List.Forall₂ first list entries) (two : List.Forall₂ second list others)
    (bounded : ∀ a ∈ list, ∀ b c, first a b → second a c → size b ≤ size c)
    (sums : (entries.map size).sum = (others.map size).sum) :
    ∀ a ∈ list, ∃ b c, first a b ∧ second a c ∧ size b = size c := by
  have below : ∀ {list : List α} {entries others : List β}, List.Forall₂ first list entries →
      List.Forall₂ second list others → (∀ a ∈ list, ∀ b c, first a b → second a c → size b ≤ size c) →
      (entries.map size).sum ≤ (others.map size).sum := by
    intro list entries others one
    induction one generalizing others with
    | nil =>
        rintro ⟨⟩ _
        exact Nat.le_refl _
    | cons head _ ih =>
        rintro (_ | ⟨head', tail'⟩) bounded
        have here := bounded _ List.mem_cons_self _ _ head head'
        have later := ih tail' fun a member => bounded a (List.mem_cons_of_mem _ member)
        simp only [List.map_cons, List.sum_cons]
        omega
  induction one generalizing others with
  | nil => rintro a ⟨⟩
  | cons head tail ih =>
      obtain _ | ⟨head', tail'⟩ := two
      have here := bounded _ List.mem_cons_self _ _ head head'
      have bounded' := fun a member => bounded a (List.mem_cons_of_mem _ member)
      have later := below tail tail' bounded'
      simp only [List.map_cons, List.sum_cons] at sums
      intro a member
      rcases List.mem_cons.mp member with rfl | inside
      · exact ⟨_, _, head, head', by omega⟩
      · exact ih tail' bounded' (by omega) a inside

theorem names_length (names : List RelativeName) :
    names.length ≤ (names.flatMap RelativeName.assertions).length ∧
    ((names.flatMap RelativeName.assertions).length ≤ names.length → ∀ name ∈ names, name.others = []) := by
  induction names with
  | nil => exact ⟨Nat.le_refl _, by rintro _ _ ⟨⟩⟩
  | cons name names ih =>
      simp only [List.flatMap_cons, List.length_append, List.length_cons, RelativeName.assertions]
      refine ⟨by omega, fun small other member => ?_⟩
      rcases List.mem_cons.mp member with rfl | inside
      · exact List.length_eq_zero_iff.mp (by omega)
      · exact ih.2 (by omega) other inside

section
variable {descriptors : String → Option OID}

theorem typeCount_assertions {relation : Assertion → AttributeTypeAndValue → Prop}
    (typed : ∀ assertion entry, relation assertion entry →
      keyType descriptors assertion.key = some entry.type)
    {assertions : List Assertion} {entries : List AttributeTypeAndValue}
    (related : List.Forall₂ relation assertions entries) (type : OID) :
    typeCount type entries =
      assertions.countP fun assertion => keyType descriptors assertion.key == some type := by
  unfold typeCount
  induction related with
  | nil => rfl
  | cons head _ ih => simp [List.countP_cons, typed _ _ head, ih]

/-- A name whose components have one assertion each holds what the parser reads for them. -/
theorem read_attributes {lib : Library}
    (agrees : ∀ key type, attributeType key = some type → descriptors key = some type)
    {dn : DistinguishedName} {name : Name}
    (accepted : parseDistinguishedName lib (String.ofList dn.text) = .ok name)
    (single : ∀ name ∈ dn.names, name.others = [])
    (once : ∀ type ∈ [oidCommonName, oidSerialNumber],
      (dn.assertions.countP fun assertion => keyType descriptors assertion.key == some type) ≤ 1) :
    ∃ entries, List.Forall₂ (ReadAs descriptors) dn.assertions entries ∧ name.attributes.Perm entries := by
  have parsed := parse_relative accepted
  have parts : (dn.names.map fun relative => trimSpace relative.text) =
      dn.assertions.map fun assertion => trimSpace assertion.text := by
    have each : ∀ names : List RelativeName, (∀ name ∈ names, name.others = []) →
        (names.map fun relative => trimSpace relative.text) =
          (names.flatMap RelativeName.assertions).map fun assertion => trimSpace assertion.text := by
      intro names alone
      induction names with
      | nil => rfl
      | cons relative names ih =>
          have none := alone relative List.mem_cons_self
          rw [List.map_cons, ih fun other member => alone other (List.mem_cons_of_mem _ member),
            List.flatMap_cons, List.map_append, RelativeName.text, RelativeName.assertions, none]
          simp [List.intercalate]
    exact each dn.names single
  rw [parts] at parsed
  have read := foldlM_assertions agrees parsed
  obtain ⟨_, _, perm⟩ := foldlM_addComponent parsed (by rintro _ ⟨⟩)
  refine ⟨_, read, perm fun type member => ?_⟩
  change typeCount type (([] : List AttributeTypeAndValue) ++ _) ≤ 1
  rw [List.nil_append, typeCount_assertions (fun _ _ related => related.type) read]
  exact once type member

/-- What a name has to be for its attributes to be those of the text. -/
theorem denotes_single {lib : Library} {dn : DistinguishedName} {name : Name}
    (accepted : parseDistinguishedName lib (String.ofList dn.text) = .ok name)
    (denotes : NameDenotes descriptors dn name) : (∀ name ∈ dn.names, name.others = []) ∧
      ∀ type ∈ [oidCommonName, oidSerialNumber],
        (dn.assertions.countP fun assertion => keyType descriptors assertion.key == some type) ≤ 1 := by
  have parsed := parse_relative accepted
  obtain ⟨entries, related, perm⟩ := denotes
  constructor
  · refine (names_length dn.names).2 ?_
    have bound := foldlM_length parsed
    rw [← perm.length_eq, ← related.length_eq, List.length_map] at bound
    have empty : ({} : Name).attributes = [] := rfl
    rwa [empty, List.length_nil, Nat.zero_add] at bound
  · intro type member
    obtain ⟨extra, _⟩ := foldlM_addComponent parsed (by rintro _ ⟨⟩)
    obtain ⟨commonName, serialNumber⟩ := Name.typeCount_single extra
    rw [← typeCount_assertions (fun _ _ related => related.1) related, typeCount, perm.countP_eq]
    change typeCount type name.attributes ≤ 1
    rcases List.mem_cons.mp member with rfl | other
    · rw [commonName]
      exact singleValue_length_le _
    · cases List.mem_singleton.mp other
      rw [serialNumber]
      exact singleValue_length_le _

def entrySize (entry : AttributeTypeAndValue) : Nat := (utf8 entry.value.text.toList).length

section
variable {lib : Library} {dn : DistinguishedName} {name : Name}
  (agrees : ∀ key type, attributeType key = some type → descriptors key = some type)
  (accepted : parseDistinguishedName lib (String.ofList dn.text) = .ok name)
include agrees accepted

/-- A name is read as what it denotes in the supported subset only. -/
theorem supported_of_denotes (denotes : NameDenotes descriptors dn name) : SupportedName descriptors dn := by
  obtain ⟨single, once⟩ := denotes_single accepted denotes
  obtain ⟨written, read, held⟩ := read_attributes agrees accepted single once
  obtain ⟨entries, related, perm⟩ := denotes
  have perm := perm.trans held
  -- A blank that a value denotes at an end would be read somewhere, and no blank but the space is.
  have closed : ∀ assertion ∈ dn.assertions, ClosedValue assertion.value := by
    intro assertion member
    by_contra ends
    obtain ⟨entry, found, _, text, value, means⟩ := related_left related member
    obtain ⟨c, place, blank, other⟩ := open_value ends means
    obtain ⟨reader, _, reads⟩ := related_left read.flip (perm.subset found)
    obtain ⟨decoded, unescaped, same⟩ := reads.value
    rw [value] at same
    cases same
    rw [String.toList_ofList] at place
    exact other (value_read_ends unescaped place blank)
  -- What is read is no smaller than what is denoted, so it is as large everywhere.
  have sizes : ∀ assertion ∈ dn.assertions, ∀ entry entry', AssertionDenotes descriptors assertion entry →
      ReadAs descriptors assertion entry' → entrySize entry ≤ entrySize entry' ∧
        (entrySize entry = entrySize entry' → SupportedValue assertion.value) := by
    rintro assertion member ⟨_, _⟩ ⟨_, _⟩ ⟨_, text, rfl, means⟩ ⟨_, decoded, unescaped, rfl⟩
    have bound := closed_read (closed assertion member) unescaped means
    simpa [entrySize, AttributeValue.text] using bound
  refine ⟨single, fun assertion member => ?_, once⟩
  obtain ⟨entry, entry', means, reads, equal⟩ := equal_of_sum_eq related read
    (fun a member b c means reads => (sizes a member b c means reads).1) (perm.map entrySize).sum_eq
    assertion member
  exact (sizes assertion member entry entry' means reads).2 equal

theorem denotes_of_supported (supported : SupportedName descriptors dn) : NameDenotes descriptors dn name := by
  obtain ⟨written, read, held⟩ := read_attributes agrees accepted supported.single supported.once
  refine ⟨written, ?_, held.symm⟩
  refine ((List.forall₂_and_left _ _).mpr ⟨supported.values, read⟩).imp ?_
  rintro assertion entry ⟨value, reads⟩
  obtain ⟨decoded, unescaped, same⟩ := reads.value
  exact ⟨reads.type, _, same, supported_read value unescaped⟩

end

/-- A name the parser accepts is the one RFC 4514 assigns to the text exactly when the text is in the
supported subset. -/
theorem parsed_name_denoted_iff {lib : Library}
    (agrees : ∀ key type, attributeType key = some type → descriptors key = some type)
    {dn : DistinguishedName} {name : Name}
    (accepted : parseDistinguishedName lib (String.ofList dn.text) = .ok name) :
    NameDenotes descriptors dn name ↔ SupportedName descriptors dn :=
  ⟨supported_of_denotes agrees accepted, denotes_of_supported agrees accepted⟩

end

/-- A name with an escaped comma is read as the name it denotes. -/
theorem parsed_name_denoted_iff_comma : ∃ (dn : DistinguishedName) (name : Name),
    dn.text = "O=a\\,b".toList ∧ NameDenotes attributeType dn name ∧ name.organization = ["a,b"] := by
  let value : AssertionValue := .string [.char 'a' (by decide), .pair ',' (by decide), .char 'b' (by decide)]
    (by rintro _ ⟨⟩; decide) (by rintro _ ⟨⟩; decide)
  let dn : DistinguishedName := ⟨[⟨⟨.descr 'O' [] rfl (by simp), value⟩, []⟩]⟩
  have accepted : parseDistinguishedName plainLibrary (String.ofList dn.text) =
      .ok { organization := ["a,b"] } := by decide +kernel
  refine ⟨dn, _, by decide, (parsed_name_denoted_iff (fun _ _ known => known) accepted).mpr ?_, rfl⟩
  refine ⟨?_, ?_, ?_⟩
  · rintro name (_ | ⟨_, ⟨⟩⟩)
    rfl
  · rintro assertion (_ | ⟨_, ⟨⟩⟩)
    refine ⟨by rintro piece (_ | ⟨_, _ | ⟨_, _ | ⟨_, ⟨⟩⟩⟩⟩) <;> rfl, ?_⟩
    rintro piece (⟨⟨⟩⟩ | ⟨⟨⟩⟩) c ⟨⟩ <;> decide
  · decide +kernel

/-- A hexadecimal escape is read as its two digits. -/
theorem hexadecimal_escape_misread : ∃ (dn : DistinguishedName) (name : Name),
    dn.text = "CN=\\2C".toList ∧ parseDistinguishedName plainLibrary (String.ofList dn.text) = .ok name ∧
    name.commonName = "2C" ∧ ∀ descriptors, ¬ NameDenotes descriptors dn name := by
  let value : AssertionValue := .string [.octet ⟨'2', 'C', by decide⟩]
    (by rintro _ ⟨⟩; decide) (by rintro _ ⟨⟩; decide)
  let dn : DistinguishedName := ⟨[⟨⟨.descr 'C' ['N'] rfl (List.all_iff_forall_prop.mp (by decide)), value⟩, []⟩]⟩
  refine ⟨dn, { commonName := "2C" }, by decide, by decide +kernel, rfl, ?_⟩
  rintro descriptors ⟨entries, related, perm⟩
  have attributes : ({ commonName := "2C" } : Name).attributes = [⟨oidCommonName, .string "2C"⟩] := by
    decide
  rw [attributes] at perm
  obtain rfl := List.perm_singleton.mp perm
  obtain _ | ⟨⟨_, text, same, means⟩, _⟩ := related
  cases same
  exact absurd means (by simp only [ValueDenotes]; decide)

end CmpIssuer
