import CmpIssuer.Text.Escape

/-!
The string representation of distinguished names of RFC 4514: the derivations of
the grammar of its section 3 as types, the text of a derivation, and the octets
that its section 2.4 gives a string value. Every rule of the grammar is one type
or constructor, whose fields state the rule's character classes.
-/
namespace Text

/-- `HEX`. -/
def hexDigits : List Char :=
  ['0', '1', '2', '3', '4', '5', '6', '7', '8', '9', 'a', 'b', 'c', 'd', 'e', 'f',
    'A', 'B', 'C', 'D', 'E', 'F']

def hexValue (c : Char) : Nat :=
  if c.isDigit then c.toNat - '0'.toNat
  else if c.isLower then c.toNat - 'a'.toNat + 10
  else c.toNat - 'A'.toNat + 10

structure HexPair where
  high : Char
  low : Char
  digits : high ∈ hexDigits ∧ low ∈ hexDigits

namespace HexPair

def text (pair : HexPair) : List Char := [pair.high, pair.low]

def octet (pair : HexPair) : UInt8 := UInt8.ofNat (16 * hexValue pair.high + hexValue pair.low)

end HexPair

/-- The characters that `stringchar` leaves out. -/
def reserved : List Char := ['\x00', '"', '+', ',', ';', '<', '>', '\\']

/-- The characters that `pair` escapes as themselves: `ESC` and `special`. -/
def escapable : List Char := ['\\', '"', '+', ',', ';', '<', '>', ' ', '#', '=']

/-- One element of a string value: `stringchar`, or a `pair` of one of its two forms. -/
inductive Piece where
  | char (c : Char) (allowed : c ∉ reserved)
  | pair (c : Char) (special : c ∈ escapable)
  | octet (digits : HexPair)

namespace Piece

def text : Piece → List Char
  | char c _ => [c]
  | pair c _ => ['\\', c]
  | octet digits => '\\' :: digits.text

def octets : Piece → List UInt8
  | char c _ => String.utf8EncodeChar c
  | pair c _ => String.utf8EncodeChar c
  | octet digits => [digits.octet]

/-- The character of a `stringchar`. -/
def unescaped : Piece → Option Char
  | char c _ => some c
  | _ => none

def isOctet : Piece → Bool
  | octet _ => true
  | _ => false

end Piece

/-- `attributeType`: `descr` or `numericoid`. -/
inductive AttributeKey where
  | descr (first : Char) (rest : List Char) (letter : first.isAlpha = true)
      (keyChars : ∀ c ∈ rest, c.isAlphanum = true ∨ c = '-')
  | numericoid (first second : Nat) (rest : List Nat)

def AttributeKey.text : AttributeKey → List Char
  | descr first rest _ _ => first :: rest
  | numericoid first second rest => ['.'].intercalate ((first :: second :: rest).map (Nat.toDigits 10))

/-- `attributeValue`: `string` or `hexstring`. -/
inductive AssertionValue where
  | string (pieces : List Piece)
      (lead : ∀ piece, pieces.head? = some piece →
        piece.unescaped ≠ some ' ' ∧ piece.unescaped ≠ some '#')
      (trail : ∀ piece, pieces.getLast? = some piece → piece.unescaped ≠ some ' ')
  | hexString (first : HexPair) (rest : List HexPair)

def AssertionValue.text : AssertionValue → List Char
  | string pieces _ _ => pieces.flatMap Piece.text
  | hexString first rest => '#' :: (first :: rest).flatMap HexPair.text

/-- `attributeTypeAndValue`. -/
structure Assertion where
  key : AttributeKey
  value : AssertionValue

def Assertion.text (assertion : Assertion) : List Char :=
  assertion.key.text ++ '=' :: assertion.value.text

/-- `relativeDistinguishedName`. -/
structure RelativeName where
  first : Assertion
  others : List Assertion

namespace RelativeName

def assertions (name : RelativeName) : List Assertion := name.first :: name.others

def text (name : RelativeName) : List Char := ['+'].intercalate (name.assertions.map Assertion.text)

end RelativeName

structure DistinguishedName where
  names : List RelativeName

namespace DistinguishedName

def assertions (name : DistinguishedName) : List Assertion :=
  name.names.flatMap RelativeName.assertions

def text (name : DistinguishedName) : List Char := [','].intercalate (name.names.map RelativeName.text)

end DistinguishedName

/-! The escaped characters of a derivation. -/

theorem hexDigits_bare {c : Char} (digit : c ∈ hexDigits) : c ≠ '\\' := by
  rintro rfl
  exact absurd digit (by decide)

theorem reserved_bare {c : Char} (allowed : c ∉ reserved) : c ≠ '\\' := by
  rintro rfl
  exact allowed (by decide)

namespace HexPair

theorem bare (pair : HexPair) : '\\' ∉ pair.text := by
  intro member
  rcases List.mem_cons.mp member with first | second
  · exact hexDigits_bare pair.digits.1 first.symm
  · exact hexDigits_bare pair.digits.2 (List.mem_singleton.mp second).symm

end HexPair

namespace Piece

def tokens : Piece → List Token
  | char c _ => [literal c]
  | pair c _ => [.escaped c]
  | octet digits => [.escaped digits.high, literal digits.low]

theorem render_tokens (piece : Piece) : render piece.tokens = piece.text := by
  cases piece with
  | char c allowed =>
      simp [tokens, text, literal_text (reserved_bare allowed)]
  | pair c special => rfl
  | octet digits =>
      rw [tokens, render_cons, render_cons, literal_text (hexDigits_bare digits.digits.2)]
      rfl

end Piece

namespace AttributeKey

theorem text_chars (key : AttributeKey) :
    ∀ c ∈ key.text, c.isAlphanum = true ∨ c = '-' ∨ c = '.' := by
  intro c member
  cases key with
  | descr first rest letter keyChars =>
      rcases List.mem_cons.mp member with rfl | later
      · exact .inl (by simp [Char.isAlphanum, letter])
      · exact (keyChars c later).imp_right .inl
  | numericoid first second rest =>
      rcases mem_intercalate member with dot | ⟨digits, found, inside⟩
      · exact .inr (.inr dot)
      · obtain ⟨arc, _, rfl⟩ := List.mem_map.mp found
        have digit := Nat.isDigit_of_mem_toDigits (by decide) (by decide) inside
        exact .inl (by simp [Char.isAlphanum, digit])

end AttributeKey

namespace AssertionValue

def tokens : AssertionValue → List Token
  | string pieces _ _ => pieces.flatMap Piece.tokens
  | hexString first rest => ('#' :: (first :: rest).flatMap HexPair.text).map literal

theorem render_tokens (value : AssertionValue) : render value.tokens = value.text := by
  cases value with
  | string pieces lead trail =>
      rw [tokens, text, render, List.flatMap_assoc]
      exact congrArg pieces.flatMap (funext Piece.render_tokens)
  | hexString first rest =>
      refine render_literal ?_
      intro member
      rcases List.mem_cons.mp member with sharp | inside
      · exact absurd sharp (by decide)
      · obtain ⟨pair, _, found⟩ := List.mem_flatMap.mp inside
        exact pair.bare found

end AssertionValue

end Text
