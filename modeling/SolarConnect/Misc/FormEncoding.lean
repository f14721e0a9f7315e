import SolarConnect.Misc.Bytes
import Mathlib.Tactic.Common

/-!
# Form-encoded values

`application/x-www-form-urlencoded` leaves its encoder a choice at every byte: a byte may be
sent as it is, a space as `+`, and any byte as `%` and two hexadecimal digits of either case.
So an encoding is a relation between a value and what is sent for it. A decoder meets
encodings whole, in front of other bytes, or cut off after a fixed number of bytes.
-/

namespace FormEncoding

open Bytes

/-- The byte `%`. -/
def percent : Byte := 0x25

/-- The byte `+`. -/
def plus : Byte := 0x2B

/-- The byte `' '`. -/
def space : Byte := 0x20

/-- The value of a hexadecimal digit of either case. -/
def hexDigit? (c : Byte) : Option Byte :=
  if 0x30 ≤ c ∧ c ≤ 0x39 then some (c - 0x30)
  else if 0x41 ≤ c ∧ c ≤ 0x46 then some (c - 0x41 + 10)
  else if 0x61 ≤ c ∧ c ≤ 0x66 then some (c - 0x61 + 10)
  else none

/-- `Encodes value encoded`: an encoder may send `encoded` for `value`. -/
inductive Encodes : List Byte → List Byte → Prop
  | nil : Encodes [] []
  | literal {b : Byte} {value encoded : List Byte} :
      b ≠ percent → b ≠ plus → Encodes value encoded → Encodes (b :: value) (b :: encoded)
  | space {value encoded : List Byte} :
      Encodes value encoded → Encodes (space :: value) (plus :: encoded)
  | escape {high low h l : Byte} {value encoded : List Byte} :
      hexDigit? high = some h → hexDigit? low = some l → Encodes value encoded →
      Encodes ((16 * h + l) :: value) (percent :: high :: low :: encoded)

namespace Encodes

variable {value encoded : List Byte}

/-- An encoding has at most three bytes for each byte of its value. -/
theorem length_le_three_mul (sent : Encodes value encoded) :
    encoded.length ≤ 3 * value.length := by
  induction sent with
  | nil => exact Nat.le_refl _
  | literal _ _ _ ih =>
    simp only [List.length_cons]
    omega
  | space _ ih =>
    simp only [List.length_cons]
    omega
  | escape _ _ _ ih =>
    simp only [List.length_cons]
    omega

/-- Bytes that are neither `%` nor `+` may be sent as they are. -/
theorem literals (noPercent : percent ∉ value) (noPlus : plus ∉ value) :
    Encodes value value := by
  induction value with
  | nil => exact nil
  | cons b value ih =>
    rw [List.mem_cons, not_or] at noPercent noPlus
    exact literal (Ne.symm noPercent.1) (Ne.symm noPlus.1) (ih noPercent.2 noPlus.2)

/-- Encodings of two values, one behind the other, encode the one value behind the other. -/
theorem append {value' encoded' : List Byte} (sent : Encodes value encoded)
    (sent' : Encodes value' encoded') : Encodes (value ++ value') (encoded ++ encoded') := by
  induction sent with
  | nil => exact sent'
  | literal notPercent notPlus _ ih => exact literal notPercent notPlus ih
  | space _ ih => exact space ih
  | escape high low _ ih => exact escape high low ih

/-- Only nothing is sent for the empty value. -/
theorem eq_nil (sent : Encodes [] encoded) : encoded = [] := by
  cases sent
  rfl

/-- The first byte sent is the first byte of the value, or begins an escape. -/
theorem head (sent : Encodes value encoded) {c : Byte} (first : encoded.head? = some c) :
    value.head? = some c ∨ c = plus ∨ c = percent := by
  cases sent with
  | nil => cases first
  | literal _ _ _ => exact Or.inl first
  | space _ => exact Or.inr (Or.inl (Option.some.inj first).symm)
  | escape _ _ _ => exact Or.inr (Or.inr (Option.some.inj first).symm)

/-- An escape that is sent is one byte of the value. -/
theorem of_escape {high low : Byte} {rest : List Byte}
    (sent : Encodes value (percent :: high :: low :: rest)) :
    ∃ h l value', hexDigit? high = some h ∧ hexDigit? low = some l ∧
      value = (16 * h + l) :: value' ∧ Encodes value' rest := by
  cases sent with
  | literal notPercent _ _ => exact absurd rfl notPercent
  | escape highDigit lowDigit sent => exact ⟨_, _, _, highDigit, lowDigit, rfl, sent⟩

/-- An encoding cut off after `n` bytes is the encoding of a part of the value, up to at most
    two bytes of an escape that the cut runs through. -/
theorem cut (sent : Encodes value encoded) (n : Nat) (within : n ≤ encoded.length) :
    ∃ head tail front back, value = head ++ tail ∧ encoded = front ++ back ∧
      Encodes head front ∧ Encodes tail back ∧
      (front.length = n ∨ ∃ high low rest, back = percent :: high :: low :: rest ∧
        (front.length + 1 = n ∨ front.length + 2 = n)) := by
  induction sent generalizing n with
  | nil =>
    have none : n = 0 := Nat.le_zero.mp within
    exact ⟨[], [], [], [], rfl, rfl, nil, nil, Or.inl none.symm⟩
  | @literal b value encoded notPercent notPlus sent ih =>
    cases n with
    | zero => exact ⟨[], _, [], _, rfl, rfl, nil, literal notPercent notPlus sent, Or.inl rfl⟩
    | succ n =>
      obtain ⟨head, tail, front, back, valueSplit, sentSplit, sentHead, sentTail, place⟩ :=
        ih n (Nat.le_of_succ_le_succ within)
      refine ⟨b :: head, tail, b :: front, back, ?_, ?_, literal notPercent notPlus sentHead,
        sentTail, ?_⟩
      · rw [valueSplit, List.cons_append]
      · rw [sentSplit, List.cons_append]
      · simpa only [List.length_cons, Nat.add_right_cancel_iff, Nat.add_right_comm _ 1] using place
  | @space value encoded sent ih =>
    cases n with
    | zero => exact ⟨[], _, [], _, rfl, rfl, nil, space sent, Or.inl rfl⟩
    | succ n =>
      obtain ⟨head, tail, front, back, valueSplit, sentSplit, sentHead, sentTail, place⟩ :=
        ih n (Nat.le_of_succ_le_succ within)
      refine ⟨FormEncoding.space :: head, tail, plus :: front, back, ?_, ?_,
        space sentHead, sentTail, ?_⟩
      · rw [valueSplit, List.cons_append]
      · rw [sentSplit, List.cons_append]
      · simpa only [List.length_cons, Nat.add_right_cancel_iff, Nat.add_right_comm _ 1] using place
  | @escape high low h l value encoded highDigit lowDigit sent ih =>
    match n with
    | 0 => exact ⟨[], _, [], _, rfl, rfl, nil, escape highDigit lowDigit sent, Or.inl rfl⟩
    | 1 =>
      exact ⟨[], _, [], _, rfl, rfl, nil, escape highDigit lowDigit sent,
        Or.inr ⟨high, low, encoded, rfl, Or.inl rfl⟩⟩
    | 2 =>
      exact ⟨[], _, [], _, rfl, rfl, nil, escape highDigit lowDigit sent,
        Or.inr ⟨high, low, encoded, rfl, Or.inr rfl⟩⟩
    | n + 3 =>
      obtain ⟨head, tail, front, back, valueSplit, sentSplit, sentHead, sentTail, place⟩ :=
        ih n (by simp only [List.length_cons] at within; omega)
      refine ⟨(16 * h + l) :: head, tail, percent :: high :: low :: front, back, ?_, ?_,
        escape highDigit lowDigit sentHead, sentTail, ?_⟩
      · rw [valueSplit, List.cons_append]
      · rw [sentSplit]
        rfl
      · rcases place with whole | ⟨high', low', rest, split, place⟩
        · exact Or.inl (by simp only [List.length_cons]; omega)
        · refine Or.inr ⟨high', low', rest, split, ?_⟩
          simp only [List.length_cons]
          omega

end Encodes

/-- The three ranges of digits. -/
theorem hexDigit_cases {c h : Byte} (digit : hexDigit? c = some h) :
    (0x30 ≤ c ∧ c ≤ 0x39 ∧ h = c - 0x30) ∨ (0x41 ≤ c ∧ c ≤ 0x46 ∧ h = c - 0x41 + 10) ∨
      (0x61 ≤ c ∧ c ≤ 0x66 ∧ h = c - 0x61 + 10) := by
  unfold hexDigit? at digit
  split at digit
  · rename_i range
    exact Or.inl ⟨range.1, range.2, (Option.some.inj digit).symm⟩
  split at digit
  · rename_i range
    exact Or.inr (Or.inl ⟨range.1, range.2, (Option.some.inj digit).symm⟩)
  split at digit
  · rename_i range
    exact Or.inr (Or.inr ⟨range.1, range.2, (Option.some.inj digit).symm⟩)
  · cases digit

/-- A digit is below sixteen. -/
theorem hexDigit_lt {c h : Byte} (digit : hexDigit? c = some h) : h < 16 := by
  rcases hexDigit_cases digit with ⟨low, high, rfl⟩ | ⟨low, high, rfl⟩ | ⟨low, high, rfl⟩
  · bv_omega
  · bv_omega
  · bv_omega

/-- The only digit of value two is `2`. -/
theorem hexDigit_two {c h : Byte} (digit : hexDigit? c = some h) (two : h = 2) : c = 0x32 := by
  rcases hexDigit_cases digit with ⟨low, high, rfl⟩ | ⟨low, high, rfl⟩ | ⟨low, high, rfl⟩
  · bv_omega
  · bv_omega
  · bv_omega

/-- The first digit of an escaped `%` is `2`. -/
theorem high_of_percent {high low h l : Byte} (highDigit : hexDigit? high = some h)
    (lowDigit : hexDigit? low = some l) (isPercent : 16 * h + l = percent) : high = 0x32 := by
  have highValue := hexDigit_lt highDigit
  have lowValue := hexDigit_lt lowDigit
  apply hexDigit_two highDigit
  rw [percent] at isPercent
  bv_omega

/-- A hexadecimal digit is not `+`. -/
theorem hexDigit_ne_plus {c h : Byte} (digit : hexDigit? c = some h) : c ≠ plus := by
  rintro rfl
  cases digit

theorem hexDigit_ne_zero {c h : Byte} (digit : hexDigit? c = some h) : c ≠ 0 := by
  rintro rfl
  cases digit

/-- No NUL is sent for a value without one. -/
theorem Encodes.noNul {value encoded : List Byte} (sent : Encodes value encoded)
    (noNul : 0 ∉ value) : 0 ∉ encoded := by
  induction sent with
  | nil => exact noNul
  | literal _ _ _ ih =>
    rw [List.mem_cons, not_or] at noNul ⊢
    exact ⟨noNul.1, ih noNul.2⟩
  | space _ ih =>
    rw [List.mem_cons, not_or] at noNul ⊢
    exact ⟨by decide, ih noNul.2⟩
  | escape high low _ ih =>
    simp only [List.mem_cons, not_or] at noNul ⊢
    exact ⟨by decide, (hexDigit_ne_zero high).symm, (hexDigit_ne_zero low).symm, ih noNul.2⟩

end FormEncoding
