import Mathlib.Data.List.DropRight

/-!
Texts as lists. What a separated text holds, what is trimmed from a list at both ends, and the UTF-8 octets
of a text: its first and its last character are known from them.
-/
namespace Text

theorem mem_intercalate {α : Type} {separator : α} {lists : List (List α)} {a : α}
    (member : a ∈ [separator].intercalate lists) : a = separator ∨ ∃ list ∈ lists, a ∈ list := by
  induction lists with
  | nil => cases member
  | cons list rest ih =>
      cases rest with
      | nil => exact .inr ⟨list, List.mem_cons_self, by simpa [List.intercalate] using member⟩
      | cons second others =>
          rw [List.intercalate_cons_cons, List.mem_append, List.mem_append] at member
          rcases member with (first | between) | later
          · exact .inr ⟨list, List.mem_cons_self, first⟩
          · exact .inl (List.mem_singleton.mp between)
          · rcases ih later with same | ⟨other, found, inside⟩
            · exact .inl same
            · exact .inr ⟨other, List.mem_cons_of_mem _ found, inside⟩

section
variable {α : Type} (p : α → Bool)

/-- The list without the elements at both ends that satisfy `p`. -/
def trim (list : List α) : List α := (list.dropWhile p).rdropWhile p

/-- Neither end satisfies `p`. -/
structure Trimmed (list : List α) : Prop where
  head : ∀ a, list.head? = some a → p a = false
  last : ∀ a, list.getLast? = some a → p a = false

variable {p}

theorem dropWhile_append_of_all {front rest : List α} (all : ∀ a ∈ front, p a = true) :
    (front ++ rest).dropWhile p = rest.dropWhile p := by
  induction front with
  | nil => rfl
  | cons a front ih =>
      rw [List.cons_append, List.dropWhile_cons_of_pos (all a List.mem_cons_self)]
      exact ih fun b member => all b (List.mem_cons_of_mem _ member)

theorem dropWhile_eq_of_head {list : List α} (head : ∀ a, list.head? = some a → p a = false) :
    list.dropWhile p = list := by
  cases list with
  | nil => rfl
  | cons a rest => exact List.dropWhile_cons_of_neg (by simp [head a rfl])

theorem trim_eq {lead core trail : List α} (blank : ∀ a ∈ lead, p a = true)
    (blank' : ∀ a ∈ trail, p a = true) (trimmed : Trimmed p core) :
    trim p (lead ++ core ++ trail) = core := by
  unfold trim
  rw [List.append_assoc, dropWhile_append_of_all blank]
  cases core with
  | nil =>
      have nothing : (([] : List α) ++ trail).dropWhile p = [] :=
        List.dropWhile_eq_nil_iff.mpr fun a member => blank' a member
      rw [nothing]
      rfl
  | cons a core =>
      have kept : (a :: core ++ trail).dropWhile p = a :: core ++ trail :=
        dropWhile_eq_of_head fun b first => trimmed.head b first
      rw [kept, List.rdropWhile, List.reverse_append,
        dropWhile_append_of_all fun b member => blank' b (List.mem_reverse.mp member),
        dropWhile_eq_of_head fun b first => trimmed.last b (by rwa [List.head?_reverse] at first),
        List.reverse_reverse]

/-- Every list is what trimming leaves, between elements that satisfy `p`. -/
theorem trim_decompose (list : List α) : ∃ lead trail, list = lead ++ trim p list ++ trail ∧
    (∀ a ∈ lead, p a = true) ∧ (∀ a ∈ trail, p a = true) ∧ Trimmed p (trim p list) := by
  refine ⟨list.takeWhile p, (list.dropWhile p).rtakeWhile p, ?_, ?_, ?_, ?_, ?_⟩
  · rw [List.append_assoc, trim, List.rdropWhile_append_rtakeWhile, List.takeWhile_append_dropWhile]
  · exact fun a member => List.mem_takeWhile_imp member
  · exact fun a member => List.mem_rtakeWhile_imp member
  · intro a first
    have found : (list.dropWhile p).head? = some a := by
      obtain ⟨rest, same⟩ := (List.rdropWhile_prefix p (list.dropWhile p))
      rw [← same, List.head?_append]
      rw [trim] at first
      rw [first]
      rfl
    have := List.head?_dropWhile_not p list
    rw [found] at this
    simpa using this
  · intro a last
    have nonempty : (list.dropWhile p).rdropWhile p ≠ [] := by
      intro empty
      rw [trim, empty] at last
      cases last
    have stops := List.rdropWhile_last_not p (list.dropWhile p) nonempty
    rw [trim, List.getLast?_eq_some_getLast nonempty] at last
    cases last
    simpa using stops

theorem trim_of_trimmed {list : List α} (trimmed : Trimmed p list) : trim p list = list := by
  have alone : trim p ([] ++ list ++ []) = list := trim_eq (by simp) (by simp) trimmed
  simpa using alone

theorem trim_append {lead list trail : List α} (blank : ∀ a ∈ lead, p a = true)
    (blank' : ∀ a ∈ trail, p a = true) : trim p (lead ++ list ++ trail) = trim p list := by
  obtain ⟨front, back, same, around, around', trimmed⟩ := trim_decompose (p := p) list
  have all : lead ++ list ++ trail = (lead ++ front) ++ trim p list ++ (back ++ trail) := by
    conv_lhs => rw [same]
    simp only [List.append_assoc]
  rw [all]
  refine trim_eq ?_ ?_ trimmed
  · intro a member
    exact (List.mem_append.mp member).elim (blank a) (around a)
  · intro a member
    exact (List.mem_append.mp member).elim (around' a) (blank' a)

end

def utf8 (text : List Char) : List UInt8 := text.flatMap String.utf8EncodeChar

@[simp] theorem utf8_nil : utf8 [] = [] := rfl

@[simp] theorem utf8_cons (c : Char) (text : List Char) :
    utf8 (c :: text) = String.utf8EncodeChar c ++ utf8 text := rfl

@[simp] theorem utf8_append (first second : List Char) :
    utf8 (first ++ second) = utf8 first ++ utf8 second := List.flatMap_append

theorem head_of_utf8 {c d : Char} {rest rest' : List UInt8}
    (same : String.utf8EncodeChar c ++ rest = String.utf8EncodeChar d ++ rest') : c = d := by
  have arrays : (String.utf8EncodeChar c).toByteArray ++ rest.toByteArray =
      (String.utf8EncodeChar d).toByteArray ++ rest'.toByteArray := by
    rw [← List.toByteArray_append, ← List.toByteArray_append, same]
  have decoded := congrArg (fun bytes => bytes.utf8DecodeChar? 0) arrays
  simpa [ByteArray.utf8DecodeChar?_utf8EncodeChar_append] using decoded

theorem not_proper_suffix {c d : Char} {middle : List UInt8}
    (suffix : middle ++ String.utf8EncodeChar c = String.utf8EncodeChar d) : middle = [] := by
  by_contra nonempty
  have present : 0 < (String.utf8EncodeChar c).length :=
    List.length_pos_iff.mpr String.utf8EncodeChar_ne_nil
  have position : middle.length < (String.utf8EncodeChar d).length := by
    rw [← suffix, List.length_append]
    omega
  have first : ((String.utf8EncodeChar d)[middle.length]).IsUTF8FirstByte := by
    have start := UInt8.isUTF8FirstByte_getElem_zero_utf8EncodeChar (c := c)
    have place : (String.utf8EncodeChar d)[middle.length] = (String.utf8EncodeChar c)[0] := by
      simp only [← suffix, List.getElem_append_right (Nat.le_refl _), Nat.sub_self]
    rw [place]
    exact start
  rw [UInt8.isUTF8FirstByte_getElem_utf8EncodeChar] at first
  exact nonempty (List.length_eq_zero_iff.mp first)

theorem last_of_utf8 {c d : Char} {front front' : List UInt8}
    (same : front ++ String.utf8EncodeChar c = front' ++ String.utf8EncodeChar d) : c = d := by
  have equal : String.utf8EncodeChar c = String.utf8EncodeChar d := by
    rcases List.append_eq_append_iff.mp same with ⟨middle, _, suffix⟩ | ⟨middle, _, suffix⟩
    · have empty := not_proper_suffix suffix.symm
      simpa [empty] using suffix
    · have empty := not_proper_suffix suffix.symm
      simpa [empty] using suffix.symm
  exact head_of_utf8 (congrArg (· ++ []) equal)

theorem utf8_injective : Function.Injective utf8 := by
  intro first second same
  induction first generalizing second with
  | nil =>
      cases second with
      | nil => rfl
      | cons c second => exact absurd (List.append_eq_nil_iff.mp same.symm).1 String.utf8EncodeChar_ne_nil
  | cons c first ih =>
      cases second with
      | nil => exact absurd (List.append_eq_nil_iff.mp same).1 String.utf8EncodeChar_ne_nil
      | cons d second =>
          rw [utf8_cons, utf8_cons] at same
          obtain rfl := head_of_utf8 same
          rw [ih (List.append_cancel_left same)]

end Text
