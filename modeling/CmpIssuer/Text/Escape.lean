import CmpIssuer.Text.Basic

/-!
Texts in which a backslash takes the next character literally, as the sequence
of the characters they write. Trimming such a text trims the characters that are
written plainly, unless the last character left is an escaped blank: trimming
takes the blank and leaves its backslash.
-/
namespace Text

/-- A character of such a text, as it stands or after a backslash. -/
inductive Token where
  | plain (c : Char) (bare : c ≠ '\\')
  | escaped (c : Char)

namespace Token

def char : Token → Char
  | plain c _ => c
  | escaped c => c

@[simp] theorem char_plain (c : Char) (bare : c ≠ '\\') : (plain c bare).char = c := rfl

@[simp] theorem char_escaped (c : Char) : (escaped c).char = c := rfl

def text : Token → List Char
  | plain c _ => [c]
  | escaped c => ['\\', c]

/-- A plain character that satisfies `p`. -/
def blank (p : Char → Bool) : Token → Bool
  | plain c _ => p c
  | escaped _ => false

end Token

def render (tokens : List Token) : List Char := tokens.flatMap Token.text

@[simp] theorem render_nil : render [] = [] := rfl

@[simp] theorem render_cons (token : Token) (tokens : List Token) :
    render (token :: tokens) = token.text ++ render tokens := rfl

@[simp] theorem render_append (first second : List Token) :
    render (first ++ second) = render first ++ render second := List.flatMap_append

def literal (c : Char) : Token := if bare : c = '\\' then .escaped c else .plain c bare

@[simp] theorem literal_char (c : Char) : (literal c).char = c := by
  unfold literal
  split <;> rfl

theorem literal_text {c : Char} (bare : c ≠ '\\') : (literal c).text = [c] := by
  rw [literal, dif_neg bare]
  rfl

theorem plain_mem_literal {text : List Char} {c : Char} {bare : c ≠ '\\'}
    (member : Token.plain c bare ∈ text.map literal) : c ∈ text := by
  obtain ⟨d, found, same⟩ := List.mem_map.mp member
  have char : c = d := by
    have written := literal_char d
    rwa [same] at written
  exact char ▸ found

theorem escaped_mem_literal {text : List Char} {c : Char}
    (member : Token.escaped c ∈ text.map literal) : '\\' ∈ text := by
  obtain ⟨d, found, same⟩ := List.mem_map.mp member
  unfold literal at same
  split at same
  · rename_i backslash
    exact backslash ▸ found
  · cases same

theorem render_literal {text : List Char} (bare : '\\' ∉ text) : render (text.map literal) = text := by
  induction text with
  | nil => rfl
  | cons c text ih =>
      rw [List.mem_cons, not_or] at bare
      rw [List.map_cons, render_cons, ih bare.2, literal_text (Ne.symm bare.1)]
      rfl

theorem render_intercalate (separator : List Token) (parts : List (List Token)) :
    render (separator.intercalate parts) = (render separator).intercalate (parts.map render) := by
  induction parts with
  | nil => rfl
  | cons part parts ih =>
      cases parts with
      | nil => simp [List.intercalate]
      | cons next parts =>
          rw [List.intercalate_cons_cons, render_append, render_append, ih]
          exact List.intercalate_cons_cons.symm

section
variable {p : Char → Bool}

theorem blank_render {tokens : List Token} (all : ∀ token ∈ tokens, token.blank p = true) :
    ∀ c ∈ render tokens, p c = true := by
  intro c member
  obtain ⟨token, found, inside⟩ := List.mem_flatMap.mp member
  have blank := all token found
  cases token with
  | plain d bare =>
      cases List.mem_singleton.mp inside
      exact blank
  | escaped d => cases blank

theorem render_head (backslash : p '\\' = false) {tokens : List Token}
    (head : ∀ token, tokens.head? = some token → token.blank p = false) :
    ∀ c, (render tokens).head? = some c → p c = false := by
  cases tokens with
  | nil => rintro c ⟨⟩
  | cons token rest =>
      intro c first
      have blank := head token rfl
      cases token with
      | plain d bare =>
          cases first
          exact blank
      | escaped d =>
          cases first
          exact backslash

theorem trim_render (backslash : p '\\' = false) {tokens : List Token}
    (last : ∀ c, (trim (Token.blank p) tokens).getLast? = some (.escaped c) → p c = false) :
    trim p (render tokens) = render (trim (Token.blank p) tokens) := by
  obtain ⟨lead, trail, same, leads, trails, trimmed⟩ := trim_decompose (p := Token.blank p) tokens
  generalize trim (Token.blank p) tokens = core at same last trimmed
  rw [same, render_append, render_append]
  refine trim_eq (blank_render leads) (blank_render trails)
    ⟨render_head backslash trimmed.head, ?_⟩
  rcases List.eq_nil_or_concat core with rfl | ⟨front, token, rfl⟩
  · rintro c ⟨⟩
  · intro c found
    have blank := trimmed.last token (by simp)
    cases token with
    | plain d bare =>
        have : d = c := by simpa [Token.text] using found
        exact this ▸ blank
    | escaped d =>
        have : d = c := by simpa [Token.text] using found
        exact this ▸ last d (by simp)

theorem trim_render_dangling (backslash : p '\\' = false) {tokens front : List Token} {c : Char}
    (last : trim (Token.blank p) tokens = front ++ [.escaped c]) (blank : p c = true) :
    trim p (render tokens) = render front ++ ['\\'] := by
  obtain ⟨lead, trail, same, leads, trails, trimmed⟩ := trim_decompose (p := Token.blank p) tokens
  rw [last] at same trimmed
  have text : render tokens = render lead ++ (render front ++ ['\\']) ++ (c :: render trail) := by
    rw [same]
    simp [Token.text]
  rw [text]
  refine trim_eq (blank_render leads) ?_ ⟨?_, ?_⟩
  · intro d member
    rcases List.mem_cons.mp member with rfl | later
    · exact blank
    · exact blank_render trails d later
  · cases front with
    | nil =>
        rintro d ⟨⟩
        exact backslash
    | cons token front =>
        intro d first
        have found : (render (token :: front)).head? = some d := by
          cases token <;> simpa [Token.text] using first
        exact render_head backslash (fun other head => trimmed.head other (by simpa using head)) d found
  · intro d found
    have : '\\' = d := by simpa using found
    exact this ▸ backslash

end

end Text
