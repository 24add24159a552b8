import CmpIssuer.Text.Escape
import Mathlib.Data.Nat.Digits.Defs

/-!
JSON texts without blanks, over a quoting of strings that is given. When the
quoting is injective and its results are strings of RFC 8259, a text determines
the value it was made from, also in front of other text.
-/
namespace Text

inductive Json where
  | string (text : String)
  | number (value : Int)
  | array (items : List Json)
  | object (members : List (String × Json))

def decimal (n : Int) : List Char :=
  if n < 0 then '-' :: Nat.toDigits 10 n.natAbs else Nat.toDigits 10 n.natAbs

namespace Json
section
variable (quote : String → List Char)

mutual

def text : Json → List Char
  | string value => quote value
  | number value => decimal value
  | array items => '[' :: itemsText items
  | object members => '{' :: membersText members

/-- The items of an array and the bracket after them. -/
def itemsText : List Json → List Char
  | [] => [']']
  | item :: items => text item ++ laterItemsText items

def laterItemsText : List Json → List Char
  | [] => [']']
  | item :: items => ',' :: text item ++ laterItemsText items

/-- The members of an object and the brace after them. -/
def membersText : List (String × Json) → List Char
  | [] => ['}']
  | member :: members => memberText member ++ laterMembersText members

def laterMembersText : List (String × Json) → List Char
  | [] => ['}']
  | member :: members => ',' :: memberText member ++ laterMembersText members

def memberText : String × Json → List Char
  | (key, value) => quote key ++ ':' :: text value

end

end

end Json

/-- A quoting of strings: injective, and into strings of the JSON grammar, in which a quotation mark only
follows a backslash. -/
structure Quoting (quote : String → List Char) : Prop where
  injective : Function.Injective quote
  form : ∀ value, ∃ body : List Token, quote value = '"' :: render body ++ ['"'] ∧
    ∀ c bare, Token.plain c bare ∈ body → c ≠ '"'

theorem render_quoted {first second : List Token} {rest rest' : List Char}
    (plain : ∀ c bare, Token.plain c bare ∈ first → c ≠ '"')
    (plain' : ∀ c bare, Token.plain c bare ∈ second → c ≠ '"')
    (same : render first ++ '"' :: rest = render second ++ '"' :: rest') :
    render first = render second ∧ rest = rest' := by
  -- A plain quotation mark cannot begin a character of either text.
  have differs : ∀ (token : Token) (tokens : List Token) (others others' : List Char),
      (∀ c bare, Token.plain c bare ∈ token :: tokens → c ≠ '"') →
      '"' :: others ≠ render (token :: tokens) ++ others' := by
    intro token tokens others others' plain same
    cases token with
    | plain c bare => exact plain c bare List.mem_cons_self (List.cons.inj same).1.symm
    | escaped c => exact absurd (List.cons.inj same).1 (by decide)
  induction first generalizing second with
  | nil =>
      cases second with
      | nil => exact ⟨rfl, (List.cons.inj same).2⟩
      | cons token tokens => exact absurd same (differs token tokens _ _ plain')
  | cons token first ih =>
      cases second with
      | nil => exact absurd same.symm (differs token first _ _ plain)
      | cons token' second =>
          have later := @ih second (fun c bare member => plain c bare (List.mem_cons_of_mem _ member))
            fun c bare member => plain' c bare (List.mem_cons_of_mem _ member)
          have texts : token.text = token'.text ∧
              render first ++ '"' :: rest = render second ++ '"' :: rest' := by
            cases token with
            | plain c bare =>
                cases token' with
                | plain d bare' =>
                    obtain ⟨head, tail⟩ := List.cons.inj same
                    exact ⟨congrArg (fun c => [c]) head, tail⟩
                | escaped d => exact absurd (List.cons.inj same).1 bare
            | escaped c =>
                cases token' with
                | plain d bare' => exact absurd (List.cons.inj same).1.symm bare'
                | escaped d =>
                    obtain ⟨head, tail⟩ := List.cons.inj (List.cons.inj same).2
                    exact ⟨congrArg (fun c => ['\\', c]) head, tail⟩
          obtain ⟨bodies, rests⟩ := later texts.2
          exact ⟨by rw [render_cons, render_cons, texts.1, bodies], rests⟩

theorem Quoting.unique {quote : String → List Char} (quoting : Quoting quote) {first second : String}
    {rest rest' : List Char} (same : quote first ++ rest = quote second ++ rest') :
    first = second ∧ rest = rest' := by
  obtain ⟨body, text, plain⟩ := quoting.form first
  obtain ⟨body', text', plain'⟩ := quoting.form second
  rw [text, text'] at same
  simp only [List.cons_append, List.append_assoc, List.nil_append, List.cons.injEq, true_and] at same
  obtain ⟨bodies, rests⟩ := render_quoted plain plain' same
  exact ⟨quoting.injective (by rw [text, text', bodies]), rests⟩

def numeric (c : Char) : Bool := c.isDigit || c == '-'

def Stops (rest : List Char) : Prop := ∀ c, rest.head? = some c → numeric c = false

theorem decimal_numeric {n : Int} : ∀ c ∈ decimal n, numeric c = true := by
  intro c member
  have digit : ∀ c ∈ Nat.toDigits 10 n.natAbs, numeric c = true := by
    intro c member
    simp [numeric, Nat.isDigit_of_mem_toDigits (by decide) (by decide) member]
  unfold decimal at member
  split at member
  · rcases List.mem_cons.mp member with rfl | later
    · decide
    · exact digit c later
  · exact digit c member

theorem decimal_ne_nil (n : Int) : decimal n ≠ [] := by
  unfold decimal
  split
  · simp
  · exact Nat.toDigits_ne_nil

theorem decimal_injective : Function.Injective decimal := by
  have digits : ∀ {m n : Nat}, Nat.toDigits 10 m = Nat.toDigits 10 n → m = n := by
    intro m n same
    simpa using congrArg (fun digits => Nat.ofDigitChars 10 digits 0) same
  have unsigned : ∀ (m : Nat) (rest : List Char), Nat.toDigits 10 m ≠ '-' :: rest := by
    intro m rest same
    have digit : '-'.isDigit = true :=
      Nat.isDigit_of_mem_toDigits (b := 10) (n := m) (by decide) (by decide) (same ▸ List.mem_cons_self)
    cases digit
  intro m n same
  unfold decimal at same
  split at same
  · split at same
    · have := digits (List.cons.inj same).2
      omega
    · exact absurd same.symm (unsigned _ _)
  · split at same
    · exact absurd same (unsigned _ _)
    · have := digits same
      omega

theorem decimal_unique {m n : Int} {rest rest' : List Char} (stops : Stops rest) (stops' : Stops rest')
    (same : decimal m ++ rest = decimal n ++ rest') : m = n ∧ rest = rest' := by
  have number : ∀ (n : Int) (rest : List Char), Stops rest →
      (decimal n ++ rest).takeWhile numeric = decimal n := by
    intro n rest stops
    rw [List.takeWhile_append_of_pos decimal_numeric]
    cases rest with
    | nil => simp
    | cons c rest =>
        rw [List.takeWhile_cons_of_neg (by simp [stops c rfl])]
        simp
  have texts : decimal m = decimal n := by rw [← number m rest stops, same, number n rest' stops']
  rw [texts] at same
  exact ⟨decimal_injective texts, List.append_cancel_left same⟩

namespace Json

/-- What a character begins. -/
inductive Kind where
  | string | number | array | object | other
  deriving DecidableEq

def Kind.ofChar (c : Char) : Kind :=
  if c = '"' then .string
  else if c = '[' then .array
  else if c = '{' then .object
  else if numeric c then .number
  else .other

def kind : Json → Kind
  | string _ => .string
  | number _ => .number
  | array _ => .array
  | object _ => .object

section
variable {quote : String → List Char}

theorem stops_laterItems (items : List Json) (rest : List Char) : Stops (laterItemsText quote items ++ rest) := by
  cases items <;> (intro c head; rw [laterItemsText] at head; cases head; decide)

theorem stops_laterMembers (members : List (String × Json)) (rest : List Char) :
    Stops (laterMembersText quote members ++ rest) := by
  cases members <;> (intro c head; rw [laterMembersText] at head; cases head; decide)

theorem text_kind (quoting : Quoting quote) (value : Json) (rest : List Char) :
    (text quote value ++ rest).head?.map Kind.ofChar = some value.kind := by
  cases value with
  | string content =>
      obtain ⟨body, same, _⟩ := quoting.form content
      rw [text, same]
      rfl
  | number n =>
      obtain ⟨c, digits, same⟩ := List.exists_cons_of_ne_nil (decimal_ne_nil n)
      have digit : numeric c = true := decimal_numeric c (same ▸ List.mem_cons_self)
      have quotation : c ≠ '"' := by rintro rfl; exact absurd digit (by decide)
      have bracket : c ≠ '[' := by rintro rfl; exact absurd digit (by decide)
      have brace : c ≠ '{' := by rintro rfl; exact absurd digit (by decide)
      rw [text, same]
      simp [Kind.ofChar, kind, quotation, bracket, brace, digit]
  | array items =>
      rw [text]
      rfl
  | object members =>
      rw [text]
      rfl

theorem text_ne_closing (quoting : Quoting quote) (value : Json) {c : Char} (closing : Kind.ofChar c = .other)
    (rest rest' : List Char) : c :: rest ≠ text quote value ++ rest' := by
  intro same
  have kinds := text_kind quoting value rest'
  rw [← same] at kinds
  have known : value.kind = .other := (Option.some.inj kinds).symm.trans closing
  cases value <;> cases known

theorem member_ne_closing (quoting : Quoting quote) (member : String × Json) {c : Char}
    (closing : Kind.ofChar c = .other) (rest rest' : List Char) : c :: rest ≠ memberText quote member ++ rest' := by
  obtain ⟨key, value⟩ := member
  have kinds := text_ne_closing quoting (.string key) closing rest (':' :: text quote value ++ rest')
  rw [text] at kinds
  rwa [memberText, List.append_assoc]

mutual

theorem text_unique (quoting : Quoting quote) (value value' : Json) {rest rest' : List Char}
    (stops : Stops rest) (stops' : Stops rest') (same : text quote value ++ rest = text quote value' ++ rest') :
    value = value' ∧ rest = rest' := by
  have kinds := congrArg (fun list : List Char => list.head?.map Kind.ofChar) same
  rw [text_kind quoting value, text_kind quoting value'] at kinds
  match value, value' with
  | string content, string content' =>
      rw [text, text] at same
      obtain ⟨rfl, rests⟩ := quoting.unique same
      exact ⟨rfl, rests⟩
  | number n, number n' =>
      rw [text, text] at same
      obtain ⟨rfl, rests⟩ := decimal_unique stops stops' same
      exact ⟨rfl, rests⟩
  | array items, array items' =>
      rw [text, text] at same
      obtain ⟨rfl, rests⟩ := items_unique quoting items items' (List.cons.inj same).2
      exact ⟨rfl, rests⟩
  | object members, object members' =>
      rw [text, text] at same
      obtain ⟨rfl, rests⟩ := members_unique quoting members members' (List.cons.inj same).2
      exact ⟨rfl, rests⟩

theorem items_unique (quoting : Quoting quote) (items items' : List Json) {rest rest' : List Char}
    (same : itemsText quote items ++ rest = itemsText quote items' ++ rest') : items = items' ∧ rest = rest' := by
  match items, items' with
  | [], [] =>
      rw [itemsText] at same
      exact ⟨rfl, (List.cons.inj same).2⟩
  | [], item :: items' =>
      rw [itemsText, itemsText, List.append_assoc] at same
      exact absurd same (text_ne_closing quoting item (by decide) _ _)
  | item :: items, [] =>
      rw [itemsText, itemsText, List.append_assoc] at same
      exact absurd same.symm (text_ne_closing quoting item (by decide) _ _)
  | item :: items, item' :: items' =>
      rw [itemsText, itemsText, List.append_assoc, List.append_assoc] at same
      obtain ⟨rfl, later⟩ := text_unique quoting item item' (stops_laterItems items rest)
        (stops_laterItems items' rest') same
      obtain ⟨rfl, rests⟩ := laterItems_unique quoting items items' later
      exact ⟨rfl, rests⟩

theorem laterItems_unique (quoting : Quoting quote) (items items' : List Json) {rest rest' : List Char}
    (same : laterItemsText quote items ++ rest = laterItemsText quote items' ++ rest') :
    items = items' ∧ rest = rest' := by
  match items, items' with
  | [], [] =>
      rw [laterItemsText] at same
      exact ⟨rfl, (List.cons.inj same).2⟩
  | [], item :: items' =>
      rw [laterItemsText, laterItemsText] at same
      exact absurd (List.cons.inj same).1 (by decide)
  | item :: items, [] =>
      rw [laterItemsText, laterItemsText] at same
      exact absurd (List.cons.inj same).1 (by decide)
  | item :: items, item' :: items' =>
      rw [laterItemsText, laterItemsText, List.cons_append, List.cons_append, List.append_assoc,
        List.append_assoc] at same
      obtain ⟨rfl, later⟩ := text_unique quoting item item' (stops_laterItems items rest)
        (stops_laterItems items' rest') (List.cons.inj same).2
      obtain ⟨rfl, rests⟩ := laterItems_unique quoting items items' later
      exact ⟨rfl, rests⟩

theorem members_unique (quoting : Quoting quote) (members members' : List (String × Json)) {rest rest' : List Char}
    (same : membersText quote members ++ rest = membersText quote members' ++ rest') :
    members = members' ∧ rest = rest' := by
  match members, members' with
  | [], [] =>
      rw [membersText] at same
      exact ⟨rfl, (List.cons.inj same).2⟩
  | [], member :: members' =>
      rw [membersText, membersText, List.append_assoc] at same
      exact absurd same (member_ne_closing quoting member (by decide) _ _)
  | member :: members, [] =>
      rw [membersText, membersText, List.append_assoc] at same
      exact absurd same.symm (member_ne_closing quoting member (by decide) _ _)
  | member :: members, member' :: members' =>
      rw [membersText, membersText, List.append_assoc, List.append_assoc] at same
      obtain ⟨rfl, later⟩ := member_unique quoting member member' (stops_laterMembers members rest)
        (stops_laterMembers members' rest') same
      obtain ⟨rfl, rests⟩ := laterMembers_unique quoting members members' later
      exact ⟨rfl, rests⟩

theorem laterMembers_unique (quoting : Quoting quote) (members members' : List (String × Json)) {rest rest' : List Char}
    (same : laterMembersText quote members ++ rest = laterMembersText quote members' ++ rest') :
    members = members' ∧ rest = rest' := by
  match members, members' with
  | [], [] =>
      rw [laterMembersText] at same
      exact ⟨rfl, (List.cons.inj same).2⟩
  | [], member :: members' =>
      rw [laterMembersText, laterMembersText] at same
      exact absurd (List.cons.inj same).1 (by decide)
  | member :: members, [] =>
      rw [laterMembersText, laterMembersText] at same
      exact absurd (List.cons.inj same).1 (by decide)
  | member :: members, member' :: members' =>
      rw [laterMembersText, laterMembersText, List.cons_append, List.cons_append, List.append_assoc,
        List.append_assoc] at same
      obtain ⟨rfl, later⟩ := member_unique quoting member member' (stops_laterMembers members rest)
        (stops_laterMembers members' rest') (List.cons.inj same).2
      obtain ⟨rfl, rests⟩ := laterMembers_unique quoting members members' later
      exact ⟨rfl, rests⟩

theorem member_unique (quoting : Quoting quote) (member member' : String × Json) {rest rest' : List Char}
    (stops : Stops rest) (stops' : Stops rest')
    (same : memberText quote member ++ rest = memberText quote member' ++ rest') :
    member = member' ∧ rest = rest' := by
  match member, member' with
  | (key, value), (key', value') =>
      rw [memberText, memberText, List.append_assoc, List.append_assoc] at same
      obtain ⟨rfl, values⟩ := quoting.unique same
      obtain ⟨rfl, rests⟩ := text_unique quoting value value' stops stops' (List.cons.inj values).2
      exact ⟨rfl, rests⟩

end

theorem text_injective (quoting : Quoting quote) : Function.Injective (text quote) := by
  intro value value' same
  have ends : Stops [] := by rintro c ⟨⟩
  exact (text_unique quoting value value' ends ends (by rw [same])).1

end

end Json

end Text
