import SolarConnect.Misc.Bytes

/-!
# Numeric character references

Text in which the bytes of a set are sent as `&#dd;`, the two digits of their code. When the set
holds `&` and every code in it has at most two digits, replacing the references gives the text
back; when it holds `#` and `;` as well, these three only ever stand in references.
-/

namespace CharRefs

open Bytes

/-- The byte `&`. -/
def ampersand : Byte := 0x26

/-- The byte `#`. -/
def numberSign : Byte := 0x23

/-- The byte `;`. -/
def semicolon : Byte := 0x3B

/-- A decimal digit. -/
def IsDigit (c : Byte) : Prop :=
  0x30 ≤ c ∧ c ≤ 0x39

instance (c : Byte) : Decidable (IsDigit c) :=
  inferInstanceAs (Decidable (_ ∧ _))

/-- The reference to `c`. -/
def reference (c : Byte) : List Byte :=
  [ampersand, numberSign, 0x30 + c / 10, 0x30 + c % 10, semicolon]

/-- What is sent for `c` when the bytes in `escaped` are sent as references. -/
def escapeByte (escaped : Byte → Bool) (c : Byte) : List Byte :=
  if escaped c then reference c else [c]

/-- What is sent for a text. -/
def escape (escaped : Byte → Bool) (text : List Byte) : List Byte :=
  text.flatMap (escapeByte escaped)

/-- Every reference replaced by the byte of its code. -/
def replaceRefs : List Byte → List Byte
  | c :: c' :: tens :: ones :: last :: rest =>
    if c = ampersand ∧ c' = numberSign ∧ IsDigit tens ∧ IsDigit ones ∧ last = semicolon then
      (10 * (tens - 0x30) + (ones - 0x30)) :: replaceRefs rest
    else c :: replaceRefs (c' :: tens :: ones :: last :: rest)
  | c :: rest => c :: replaceRefs rest
  | [] => []

/-- The position is one of a reference in the text. -/
def InReference (text : List Byte) (i : Nat) : Prop :=
  ∃ k tens ones, k ≤ i ∧ i < k + 5 ∧ IsDigit tens ∧ IsDigit ones ∧
    (text.drop k).take 5 = [ampersand, numberSign, tens, ones, semicolon]

variable {escaped : Byte → Bool}

@[simp] theorem escape_cons (c : Byte) (text : List Byte) :
    escape escaped (c :: text) = escapeByte escaped c ++ escape escaped text :=
  List.flatMap_cons

theorem escapeByte_of_escaped {c : Byte} (isEscaped : escaped c = true) :
    escapeByte escaped c = reference c :=
  if_pos isEscaped

theorem escapeByte_of_not {c : Byte} (plain : ¬ escaped c = true) :
    escapeByte escaped c = [c] :=
  if_neg plain

/-- Four bytes more for every byte sent as a reference. -/
theorem escape_length (text : List Byte) :
    (escape escaped text).length = text.length + 4 * text.countP escaped := by
  induction text with
  | nil => rfl
  | cons c text ih =>
    rw [escape_cons, List.length_append, ih, List.length_cons]
    by_cases isEscaped : escaped c = true
    · rw [escapeByte_of_escaped isEscaped, List.countP_cons_of_pos isEscaped, reference]
      simp only [List.length_cons, List.length_nil]
      omega
    · rw [escapeByte_of_not isEscaped, List.countP_cons_of_neg isEscaped, List.length_singleton]
      omega

/-! ## The digits -/

theorem digits_of_lt {c : Byte} (two : c < 100) :
    IsDigit (0x30 + c / 10) ∧ IsDigit (0x30 + c % 10) ∧
      10 * (0x30 + c / 10 - 0x30) + (0x30 + c % 10 - 0x30) = c := by
  have bound : c.toNat < 100 := two
  have tens : (c / 10).toNat = c.toNat / 10 := BitVec.toNat_udiv
  have ones : (c % 10).toNat = c.toNat % 10 := BitVec.toNat_umod
  have sum : 10 * (c / 10).toNat + (c % 10).toNat = c.toNat := by omega
  have few : (c / 10).toNat < 10 ∧ (c % 10).toNat < 10 := by omega
  generalize c / 10 = t at sum few ⊢
  generalize c % 10 = o at sum few ⊢
  refine ⟨⟨?_, ?_⟩, ⟨?_, ?_⟩, ?_⟩
  · bv_omega
  · bv_omega
  · bv_omega
  · bv_omega
  · bv_omega

/-! ## Replacing the references -/

theorem replaceRefs_cons_of_ne {c : Byte} (other : c ≠ ampersand) (rest : List Byte) :
    replaceRefs (c :: rest) = c :: replaceRefs rest := by
  rcases rest with _ | ⟨c', _ | ⟨tens, _ | ⟨ones, _ | ⟨last, rest⟩⟩⟩⟩
  · rfl
  · rfl
  · rfl
  · rfl
  · rw [replaceRefs, if_neg fun all => other all.1]

theorem replaceRefs_reference {c : Byte} (two : c < 100) (rest : List Byte) :
    replaceRefs (reference c ++ rest) = c :: replaceRefs rest := by
  obtain ⟨tens, ones, value⟩ := digits_of_lt two
  show replaceRefs (_ :: _ :: _ :: _ :: _ :: rest) = _
  rw [replaceRefs, if_pos ⟨rfl, rfl, tens, ones, rfl⟩, value]

/-- The round trip. -/
theorem replaceRefs_escape (amp : escaped ampersand = true)
    (two : ∀ c, escaped c = true → c < 100) (text : List Byte) :
    replaceRefs (escape escaped text) = text := by
  induction text with
  | nil => rfl
  | cons c text ih =>
    rw [escape_cons]
    by_cases isEscaped : escaped c = true
    · rw [escapeByte_of_escaped isEscaped, replaceRefs_reference (two c isEscaped), ih]
    · have other : c ≠ ampersand := by
        rintro rfl
        exact isEscaped amp
      rw [escapeByte_of_not isEscaped, List.singleton_append, replaceRefs_cons_of_ne other, ih]

/-! ## What stands in the text -/

/-- What is sent holds bytes of the text outside of the set, and parts of references. -/
theorem mem_escape (two : ∀ c, escaped c = true → c < 100) {b : Byte} {text : List Byte}
    (member : b ∈ escape escaped text) :
    (b ∈ text ∧ ¬ escaped b = true) ∨ b = ampersand ∨ b = numberSign ∨ b = semicolon ∨
      IsDigit b := by
  obtain ⟨c, inText, sent⟩ := List.mem_flatMap.mp member
  by_cases isEscaped : escaped c = true
  · obtain ⟨tens, ones, _⟩ := digits_of_lt (two c isEscaped)
    rw [escapeByte_of_escaped isEscaped, reference] at sent
    simp only [List.mem_cons, List.not_mem_nil, or_false] at sent
    rcases sent with rfl | rfl | rfl | rfl | rfl
    · exact Or.inr (Or.inl rfl)
    · exact Or.inr (Or.inr (Or.inl rfl))
    · exact Or.inr (Or.inr (Or.inr (Or.inr tens)))
    · exact Or.inr (Or.inr (Or.inr (Or.inr ones)))
    · exact Or.inr (Or.inr (Or.inr (Or.inl rfl)))
  · rw [escapeByte_of_not isEscaped, List.mem_singleton] at sent
    obtain rfl := sent
    exact Or.inl ⟨inText, isEscaped⟩

theorem inReference_append {front rest : List Byte} {i : Nat} (inRest : InReference rest i) :
    InReference (front ++ rest) (front.length + i) := by
  obtain ⟨k, tens, ones, after, before, isTens, isOnes, here⟩ := inRest
  refine ⟨front.length + k, tens, ones, by omega, by omega, isTens, isOnes, ?_⟩
  rw [List.drop_length_add_append, here]

/-- Every byte of the syntax is part of a reference, when all of it is in the set. -/
theorem inReference_of_syntax (two : ∀ c, escaped c = true → c < 100)
    (syn : ∀ b, b = ampersand ∨ b = numberSign ∨ b = semicolon → escaped b = true)
    {text : List Byte} {i : Nat} (inside : i < (escape escaped text).length)
    (isSyntax : byteAt (escape escaped text) i = ampersand ∨
      byteAt (escape escaped text) i = numberSign ∨ byteAt (escape escaped text) i = semicolon) :
    InReference (escape escaped text) i := by
  induction text generalizing i with
  | nil => simp [escape] at inside
  | cons c text ih =>
    rw [escape_cons] at inside isSyntax ⊢
    by_cases first : i < (escapeByte escaped c).length
    · rw [byteAt_append_left _ first] at isSyntax
      by_cases isEscaped : escaped c = true
      · rw [escapeByte_of_escaped isEscaped] at first ⊢
        obtain ⟨tens, ones, _⟩ := digits_of_lt (two c isEscaped)
        exact ⟨0, _, _, Nat.zero_le i, by simpa [reference] using first, tens, ones, rfl⟩
      · rw [escapeByte_of_not isEscaped] at first isSyntax
        obtain rfl : i = 0 := by simpa using first
        exact absurd (syn c isSyntax) isEscaped
    · obtain ⟨j, rfl⟩ := Nat.exists_eq_add_of_le (Nat.le_of_not_lt first)
      rw [List.length_append] at inside
      have shifted : byteAt (escapeByte escaped c ++ escape escaped text)
          ((escapeByte escaped c).length + j) = byteAt (escape escaped text) j := by
        rw [← byteAt_drop, List.drop_left]
      rw [shifted] at isSyntax
      exact inReference_append (ih (by omega) isSyntax)

end CharRefs
