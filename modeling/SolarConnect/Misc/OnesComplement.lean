import Mathlib.Data.Int.ModEq
import Mathlib.Data.List.Induction
import SolarConnect.Misc.Bytes

/-!
# One's complement sums

The sum that Internet checksums are made of: 16-bit words in network byte order, added with
an end-around carry, where a last odd byte counts as the high half of a word. The sum stands
for a residue modulo `0xFFFF`, of which zero has two representations; the one that comes out
tells whether any word was not zero.
-/

namespace OnesComplement

open Bytes

/-- The word that two bytes hold. -/
def word (high low : Byte) : Nat :=
  high.toNat * 256 + low.toNat

/-- The plain sum of the words. -/
def wordSum : List Byte → Nat
  | high :: low :: rest => word high low + wordSum rest
  | [high] => word high 0
  | [] => 0

/-- Addition with an end-around carry. -/
def addCarry (x w : Nat) : Nat :=
  (x + w) % 0x10000 + (x + w) / 0x10000

/-- The words added to `x` one after the other. -/
def sumFrom (x : Nat) : List Byte → Nat
  | high :: low :: rest => sumFrom (addCarry x (word high low)) rest
  | [high] => addCarry x (word high 0)
  | [] => x

/-- The one's complement sum of the words. -/
def onesSum (bytes : List Byte) : Nat :=
  sumFrom 0 bytes

theorem word_le (high low : Byte) : word high low ≤ 0xFFFF := by
  have := high.isLt
  have := low.isLt
  unfold word
  omega

theorem word_eq_zero {high low : Byte} : word high low = 0 ↔ high = 0 ∧ low = 0 := by
  simp only [word, BitVec.toNat_eq, BitVec.ofNat_eq_ofNat, BitVec.toNat_ofNat]
  omega

theorem even_pair (high low : Byte) {rest : List Byte} (even : 2 ∣ rest.length) :
    2 ∣ (high :: low :: rest).length := by
  rw [List.length_cons, List.length_cons]
  omega

/-- Induction over the words of an even number of bytes. -/
@[elab_as_elim]
theorem words_induction {motive : (bytes : List Byte) → 2 ∣ bytes.length → Prop}
    (nil : motive [] (Nat.dvd_zero 2))
    (pair : ∀ high low rest even, motive rest even →
      motive (high :: low :: rest) (even_pair high low even))
    (bytes : List Byte) (even : 2 ∣ bytes.length) : motive bytes even := by
  induction bytes using List.twoStepInduction with
  | nil => exact nil
  | singleton b => exact absurd even (by simp)
  | cons_cons high low rest ih =>
    have shorter : 2 ∣ rest.length := by
      rw [List.length_cons, List.length_cons] at even
      omega
    exact pair high low rest shorter (ih shorter)

/-! ## Plain sums -/

@[simp] theorem wordSum_nil : wordSum [] = 0 :=
  rfl

@[simp] theorem wordSum_pair (high low : Byte) (rest : List Byte) :
    wordSum (high :: low :: rest) = word high low + wordSum rest :=
  rfl

/-- The words of a 16-bit field. -/
theorem wordSum_field {field : List Byte} (two : field.length = 2) :
    wordSum field = readBe16 field 0 := by
  obtain ⟨high, low, rfl⟩ := List.length_eq_two.mp two
  simp [readBe16, byteAt, word]

/-- The words of a 16-bit field within a buffer. -/
theorem wordSum_slice_field (buf : List Byte) (i : Nat) (inside : i + 2 ≤ buf.length) :
    wordSum ((buf.drop i).take 2) = readBe16 buf i := by
  rw [cons_drop (by omega), cons_drop (by omega)]
  simp [readBe16, word]

/-- Words do not straddle the end of an even prefix. -/
theorem wordSum_append (front rest : List Byte) (even : 2 ∣ front.length) :
    wordSum (front ++ rest) = wordSum front + wordSum rest := by
  induction front, even using words_induction with
  | nil => simp
  | pair high low front even ih =>
    simp only [List.cons_append, wordSum_pair]
    rw [ih, Nat.add_assoc]

/-- A write of whole words takes the words it overwrites out of the sum and puts its own in. -/
theorem wordSum_writeAt (buf : List Byte) {i : Nat} (data : List Byte) (evenOffset : 2 ∣ i)
    (evenData : 2 ∣ data.length) (fits : i + data.length ≤ buf.length) :
    wordSum (writeAt buf i data) + wordSum ((buf.drop i).take data.length) =
      wordSum buf + wordSum data := by
  have parts : buf = buf.take i ++ (buf.drop i).take data.length ++ buf.drop (i + data.length) := by
    rw [List.append_assoc, ← List.drop_drop, List.take_append_drop, List.take_append_drop]
  have front : 2 ∣ (buf.take i).length := by rwa [List.length_take_of_le (by omega)]
  have middle : 2 ∣ ((buf.drop i).take data.length).length := by
    rwa [List.length_take_of_le (by rw [List.length_drop]; omega)]
  have before := congrArg wordSum parts
  rw [List.append_assoc, wordSum_append _ _ front, wordSum_append _ _ middle] at before
  rw [writeAt_eq buf i data fits, List.append_assoc, wordSum_append _ _ front,
    wordSum_append _ _ evenData]
  omega

theorem wordSum_eq_zero (bytes : List Byte) : wordSum bytes = 0 ↔ ∀ b ∈ bytes, b = 0 := by
  fun_induction wordSum bytes with
  | case1 high low rest ih =>
    simp only [List.forall_mem_cons, ← ih, ← and_assoc, ← word_eq_zero]
    omega
  | case2 high => simp [word_eq_zero]
  | case3 => simp

/-! ## Sums with end-around carry -/

/-- One addition stays within a word, keeps the residue, and gives zero only for zeros. -/
theorem addCarry_spec {x w : Nat} (left : x ≤ 0xFFFF) (right : w ≤ 0xFFFF) :
    addCarry x w ≤ 0xFFFF ∧ addCarry x w % 0xFFFF = (x + w) % 0xFFFF ∧
      (addCarry x w = 0 ↔ x + w = 0) := by
  unfold addCarry
  omega

theorem sumFrom_spec {x : Nat} (left : x ≤ 0xFFFF) (bytes : List Byte) :
    sumFrom x bytes ≤ 0xFFFF ∧ sumFrom x bytes % 0xFFFF = (x + wordSum bytes) % 0xFFFF ∧
      (sumFrom x bytes = 0 ↔ x + wordSum bytes = 0) := by
  fun_induction sumFrom x bytes with
  | case1 x high low rest ih =>
    have first := addCarry_spec left (word_le high low)
    have others := ih first.1
    rw [wordSum_pair]
    omega
  | case2 x high => exact addCarry_spec left (word_le high 0)
  | case3 x => simp [left]

/-- The sum is all ones exactly where the words are not all zero and their plain sum is a
    multiple of `0xFFFF`. -/
theorem onesSum_eq_ones (bytes : List Byte) :
    onesSum bytes = 0xFFFF ↔ wordSum bytes ≠ 0 ∧ wordSum bytes % 0xFFFF = 0 := by
  have spec := sumFrom_spec (Nat.zero_le 0xFFFF) bytes
  unfold onesSum
  omega

/-- Bytes with the residue of a sum that is all ones sum to all ones again, unless every one
    of them is zero. -/
theorem onesSum_of_residue {before after : List Byte} (ones : onesSum before = 0xFFFF)
    (residue : wordSum after % 0xFFFF = wordSum before % 0xFFFF) :
    onesSum after = 0xFFFF ↔ ∃ b ∈ after, b ≠ 0 := by
  have divides := ((onesSum_eq_ones before).mp ones).2
  rw [onesSum_eq_ones, residue, Ne, wordSum_eq_zero]
  simp [divides]

/-! ## Loops over words -/

/-- A loop over the words, on a running value. -/
def foldWords (round : Int → Nat → Int) (x : Int) : List Byte → Int
  | high :: low :: rest => foldWords round (round x (word high low)) rest
  | _ => x

/-- Where every round keeps an invariant and adds the same multiple of its word, the loop keeps the
    invariant and adds that multiple of the sum. -/
theorem foldWords_spec {round : Int → Nat → Int} {inv : Int → Prop} {factor : Int}
    (spec : ∀ x w, inv x → w ≤ 0xFFFF →
      inv (round x w) ∧ round x w ≡ x + factor * w [ZMOD 0xFFFF])
    {x : Int} (initial : inv x) (bytes : List Byte) (even : 2 ∣ bytes.length) :
    inv (foldWords round x bytes) ∧
      foldWords round x bytes ≡ x + factor * wordSum bytes [ZMOD 0xFFFF] := by
  induction bytes, even using words_induction generalizing x with
  | nil => exact ⟨initial, by simp [foldWords]⟩
  | pair high low rest even ih =>
    obtain ⟨kept, first⟩ := spec x (word high low) initial (word_le high low)
    obtain ⟨last, others⟩ := ih kept
    refine ⟨last, others.trans ?_⟩
    rw [wordSum_pair, Nat.cast_add, mul_add, ← add_assoc]
    exact first.add_right _

/-! ## Packets with a checksum -/

/-- A packet around a checksum field and some data, both at even offsets. What it starts with
    may be a pseudo-header. -/
structure Layout where
  front : List Byte
  between : List Byte
  rear : List Byte
  fieldFirst : Bool
  evenFront : 2 ∣ front.length
  evenBetween : 2 ∣ between.length

namespace Layout

/-- The packet with a given checksum field and data. -/
def packet (layout : Layout) (field data : List Byte) : List Byte :=
  if layout.fieldFirst then layout.front ++ field ++ layout.between ++ data ++ layout.rear
  else layout.front ++ data ++ layout.between ++ field ++ layout.rear

theorem wordSum_packet (layout : Layout) {field data : List Byte} (evenField : 2 ∣ field.length)
    (evenData : 2 ∣ data.length) :
    wordSum (layout.packet field data) = wordSum field + wordSum data +
      (wordSum layout.front + wordSum layout.between + wordSum layout.rear) := by
  have evenFront := layout.evenFront
  have evenBetween := layout.evenBetween
  unfold packet
  split
  all_goals
    simp only [List.append_assoc]
    rw [wordSum_append _ _ evenFront, wordSum_append _ _ (by assumption),
      wordSum_append _ _ evenBetween, wordSum_append _ _ (by assumption)]
    omega

/-- A packet that sums to all ones does so again with another field and other data whose words
    leave the same residue, unless every byte of it is zero. -/
theorem onesSum_packet (layout : Layout) {field field' data data' : List Byte}
    (evenField : 2 ∣ field.length) (evenField' : 2 ∣ field'.length)
    (evenData : 2 ∣ data.length) (evenData' : 2 ∣ data'.length)
    (residue : (wordSum field' + wordSum data') % 0xFFFF =
      (wordSum field + wordSum data) % 0xFFFF)
    (ones : onesSum (layout.packet field data) = 0xFFFF) :
    onesSum (layout.packet field' data') = 0xFFFF ↔
      ∃ b ∈ layout.packet field' data', b ≠ 0 := by
  apply onesSum_of_residue ones
  rw [wordSum_packet layout evenField evenData, wordSum_packet layout evenField' evenData']
  omega

end Layout

end OnesComplement
