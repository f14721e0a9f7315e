import Mathlib.Data.Int.ModEq
import SolarConnect.Misc.OnesComplement
import SolarConnect.Net.LwipHooks

/-!
# Incremental checksums

What `checksum_adjust` makes of a checksum field. It works on the one's complement of the
field, takes the old words out and puts the new words in. Modulo `0xFFFF` that is a
subtraction and an addition, and the running value never leaves the 16-bit words; so a packet
whose words sum to all ones does so again after its data and its checksum are exchanged.
-/

namespace SolarConnect.LwipHooks

open Bytes ClientAcl OnesComplement

/-- `x` is a 16-bit word. -/
def IsWord (x : Int) : Prop :=
  0 ≤ x ∧ x ≤ 0xFFFF

/-- `v` is a value of `int32_t`. -/
def FitsInt32 (v : Int) : Prop :=
  -0x80000000 ≤ v ∧ v ≤ 0x7FFFFFFF

/-- `x` as `checksum_adjust` enters its loops. -/
def startValue (chksum0 chksum1 : Byte) : Int :=
  complement16 (word chksum0 chksum1)

/-- The values that the first loop computes: `before`, the difference, and, where it borrows,
    the decrement and the mask. -/
def subtractValues (x : Int) : List Byte → List Int
  | b0 :: b1 :: rest =>
    let before : Int := b0.toNat * 256 + b1.toNat
    let difference := x - before
    let borrowed :=
      if difference ≤ 0 then [difference - 1, (difference - 1) % 0x10000] else []
    [before, difference] ++ borrowed ++ subtractValues (subtractWords x [b0, b1]) rest
  | _ => []

/-- The values that the second loop computes: `after`, the sum, and, where bit 16 is set, the
    increment and the mask. -/
def addValues (x : Int) : List Byte → List Int
  | b0 :: b1 :: rest =>
    let after : Int := b0.toNat * 256 + b1.toNat
    let sum := x + after
    let carried := if sum / 0x10000 % 2 = 1 then [sum + 1, (sum + 1) % 0x10000] else []
    [after, sum] ++ carried ++ addValues (addWords x [b0, b1]) rest
  | _ => []

/-- Every value that `checksum_adjust` computes in its `int32_t` variables. -/
def adjustValues (chksum0 chksum1 : Byte) (oldData newData : List Byte) : List Int :=
  let field : Int := word chksum0 chksum1
  let x := startValue chksum0 chksum1
  let subtracted := subtractWords x oldData
  let added := addWords subtracted newData
  [field, -field - 1, x] ++ subtractValues x oldData ++ addValues subtracted newData ++
    [-added - 1, complement16 added]

/-! ## Complement -/

theorem complement16_spec (x : Int) (isWord : IsWord x) :
    complement16 x = 0xFFFF - x ∧ IsWord (complement16 x) := by
  unfold complement16 IsWord at *
  omega

theorem isWord_word (high low : Byte) : IsWord (word high low) := by
  have := word_le high low
  unfold IsWord
  omega

theorem startValue_spec (chksum0 chksum1 : Byte) :
    startValue chksum0 chksum1 = 0xFFFF - word chksum0 chksum1 ∧
      IsWord (startValue chksum0 chksum1) :=
  complement16_spec _ (isWord_word chksum0 chksum1)

/-! ## One round -/

theorem word_cast (b0 b1 : Byte) : (word b0 b1 : Int) = b0.toNat * 256 + b1.toNat := by
  simp [word]

/-- A round of the first loop. -/
def subtractRound (x : Int) (before : Nat) : Int :=
  if x - before ≤ 0 then (x - before - 1) % 0x10000 else x - before

/-- A round of the second loop. -/
def addRound (x : Int) (after : Nat) : Int :=
  if (x + after) / 0x10000 % 2 = 1 then (x + after + 1) % 0x10000 else x + after

theorem subtractWords_pair (x : Int) (b0 b1 : Byte) (rest : List Byte) :
    subtractWords x (b0 :: b1 :: rest) = subtractWords (subtractRound x (word b0 b1)) rest := by
  rw [subtractRound, word_cast]
  rfl

theorem addWords_pair (x : Int) (b0 b1 : Byte) (rest : List Byte) :
    addWords x (b0 :: b1 :: rest) = addWords (addRound x (word b0 b1)) rest := by
  rw [addRound, word_cast]
  rfl

theorem subtractWords_round (x : Int) (b0 b1 : Byte) :
    subtractWords x [b0, b1] = subtractRound x (word b0 b1) :=
  subtractWords_pair x b0 b1 []

theorem addWords_round (x : Int) (b0 b1 : Byte) :
    addWords x [b0, b1] = addRound x (word b0 b1) :=
  addWords_pair x b0 b1 []

/-- The end-around borrow: a difference that is not positive comes out `0xFFFF` higher. -/
theorem subtractRound_spec (x : Int) (before : Nat) (isWord : IsWord x) (small : before ≤ 0xFFFF) :
    IsWord (subtractRound x before) ∧
      subtractRound x before ≡ x + (-1) * before [ZMOD 0xFFFF] := by
  unfold subtractRound IsWord Int.ModEq at *
  split <;> omega

/-- The end-around carry: a sum past the word comes out `0xFFFF` lower. -/
theorem addRound_spec (x : Int) (after : Nat) (isWord : IsWord x) (small : after ≤ 0xFFFF) :
    IsWord (addRound x after) ∧ addRound x after ≡ x + 1 * after [ZMOD 0xFFFF] := by
  unfold addRound IsWord Int.ModEq at *
  split <;> omega

/-! ## Both loops -/

theorem subtractWords_eq_fold (x : Int) (oldData : List Byte) :
    subtractWords x oldData = foldWords subtractRound x oldData := by
  induction oldData using List.twoStepInduction generalizing x with
  | nil | singleton => rfl
  | cons_cons b0 b1 rest ih =>
    rw [subtractWords_pair, foldWords]
    exact ih _

theorem addWords_eq_fold (x : Int) (newData : List Byte) :
    addWords x newData = foldWords addRound x newData := by
  induction newData using List.twoStepInduction generalizing x with
  | nil | singleton => rfl
  | cons_cons b0 b1 rest ih =>
    rw [addWords_pair, foldWords]
    exact ih _

theorem subtractWords_spec {x : Int} (isWord : IsWord x) (oldData : List Byte)
    (even : 2 ∣ oldData.length) :
    IsWord (subtractWords x oldData) ∧
      subtractWords x oldData % 0xFFFF = (x - wordSum oldData) % 0xFFFF := by
  rw [subtractWords_eq_fold]
  obtain ⟨kept, residue⟩ := foldWords_spec subtractRound_spec isWord oldData even
  refine ⟨kept, ?_⟩
  unfold Int.ModEq at residue
  omega

theorem addWords_spec {x : Int} (isWord : IsWord x) (newData : List Byte)
    (even : 2 ∣ newData.length) :
    IsWord (addWords x newData) ∧
      addWords x newData % 0xFFFF = (x + wordSum newData) % 0xFFFF := by
  rw [addWords_eq_fold]
  obtain ⟨kept, residue⟩ := foldWords_spec addRound_spec isWord newData even
  refine ⟨kept, ?_⟩
  unfold Int.ModEq at residue
  omega

/-! ## Signed arithmetic -/

theorem subtractValues_fit {x : Int} (isWord : IsWord x) (oldData : List Byte)
    (even : 2 ∣ oldData.length) : ∀ v ∈ subtractValues x oldData, FitsInt32 v := by
  induction oldData, even using words_induction generalizing x with
  | nil => simp [subtractValues]
  | pair b0 b1 rest even ih =>
    have small := word_le b0 b1
    have later := ih (subtractRound_spec x _ isWord small).1
    unfold IsWord at isWord
    intro v mem
    simp only [subtractValues, subtractWords_round, ← word_cast, List.mem_append] at mem
    rcases mem with (computed | borrowed) | mem
    · simp only [List.mem_cons, List.not_mem_nil, or_false] at computed
      unfold FitsInt32
      omega
    · rw [List.mem_ite_nil_right] at borrowed
      simp only [List.mem_cons, List.not_mem_nil, or_false] at borrowed
      unfold FitsInt32
      omega
    · exact later v mem

theorem addValues_fit {x : Int} (isWord : IsWord x) (newData : List Byte)
    (even : 2 ∣ newData.length) : ∀ v ∈ addValues x newData, FitsInt32 v := by
  induction newData, even using words_induction generalizing x with
  | nil => simp [addValues]
  | pair b0 b1 rest even ih =>
    have small := word_le b0 b1
    have later := ih (addRound_spec x _ isWord small).1
    unfold IsWord at isWord
    intro v mem
    simp only [addValues, addWords_round, ← word_cast, List.mem_append] at mem
    rcases mem with (computed | carried) | mem
    · simp only [List.mem_cons, List.not_mem_nil, or_false] at computed
      unfold FitsInt32
      omega
    · rw [List.mem_ite_nil_right] at carried
      simp only [List.mem_cons, List.not_mem_nil, or_false] at carried
      unfold FitsInt32
      omega
    · exact later v mem

theorem adjustValues_fit (chksum0 chksum1 : Byte) {oldData newData : List Byte}
    (evenOld : 2 ∣ oldData.length) (evenNew : 2 ∣ newData.length) :
    ∀ v ∈ adjustValues chksum0 chksum1 oldData newData, FitsInt32 v := by
  have start := startValue_spec chksum0 chksum1
  have subtracted := subtractWords_spec start.2 oldData evenOld
  have added := addWords_spec subtracted.1 newData evenNew
  have last := complement16_spec _ added.1
  have small := word_le chksum0 chksum1
  unfold IsWord at start subtracted added last
  intro v mem
  simp only [adjustValues, List.mem_append] at mem
  rcases mem with ((first | mem) | mem) | final
  · simp only [List.mem_cons, List.not_mem_nil, or_false] at first
    unfold FitsInt32
    omega
  · exact subtractValues_fit start.2 oldData evenOld v mem
  · exact addValues_fit subtracted.1 newData evenNew v mem
  · simp only [List.mem_cons, List.not_mem_nil, or_false] at final
    unfold FitsInt32
    omega

/-! ## The field that is left -/

/-- The running value behind both loops. -/
def adjustedValue (chksum0 chksum1 : Byte) (oldData newData : List Byte) : Int :=
  addWords (subtractWords (startValue chksum0 chksum1) oldData) newData

theorem adjustedValue_spec (chksum0 chksum1 : Byte) {oldData newData : List Byte}
    (evenOld : 2 ∣ oldData.length) (evenNew : 2 ∣ newData.length) :
    IsWord (adjustedValue chksum0 chksum1 oldData newData) ∧
      adjustedValue chksum0 chksum1 oldData newData % 0xFFFF =
        (startValue chksum0 chksum1 - wordSum oldData + wordSum newData) % 0xFFFF := by
  have subtracted := subtractWords_spec (startValue_spec chksum0 chksum1).2 oldData evenOld
  have added := addWords_spec subtracted.1 newData evenNew
  refine ⟨added.1, ?_⟩
  unfold adjustedValue
  omega

/-- The field holds the complement of the running value. -/
theorem checksumAdjust_word (chksum0 chksum1 : Byte) {oldData newData : List Byte}
    (evenOld : 2 ∣ oldData.length) (evenNew : 2 ∣ newData.length) :
    (wordSum (checksumAdjust chksum0 chksum1 oldData newData) : Int) =
      0xFFFF - adjustedValue chksum0 chksum1 oldData newData := by
  have adjusted := adjustedValue_spec chksum0 chksum1 evenOld evenNew
  obtain ⟨value, isWord⟩ := complement16_spec _ adjusted.1
  rw [← value]
  have bytes : checksumAdjust chksum0 chksum1 oldData newData =
      [BitVec.ofInt 8 (complement16 (adjustedValue chksum0 chksum1 oldData newData) / 256),
        BitVec.ofInt 8 (complement16 (adjustedValue chksum0 chksum1 oldData newData) % 256)] :=
    rfl
  rw [bytes]
  generalize complement16 (adjustedValue chksum0 chksum1 oldData newData) = field at isWord
  unfold IsWord at isWord
  simp only [wordSum_pair, wordSum_nil, word, BitVec.toNat_ofInt]
  omega

/-- Modulo `0xFFFF` the old field and the old words weigh what the new ones do. -/
theorem checksumAdjust_residue (chksum0 chksum1 : Byte) {oldData newData : List Byte}
    (evenOld : 2 ∣ oldData.length) (evenNew : 2 ∣ newData.length) :
    (wordSum (checksumAdjust chksum0 chksum1 oldData newData) + wordSum newData) % 0xFFFF =
      (wordSum [chksum0, chksum1] + wordSum oldData) % 0xFFFF := by
  have start := (startValue_spec chksum0 chksum1).1
  have adjusted := (adjustedValue_spec chksum0 chksum1 evenOld evenNew).2
  have field := checksumAdjust_word chksum0 chksum1 evenOld evenNew
  rw [wordSum_pair, wordSum_nil]
  omega

/-- A packet that sums to all ones does so after an adjustment. -/
theorem onesSum_adjusted (layout : Layout) {chksum0 chksum1 : Byte} {oldData newData : List Byte}
    (evenOld : 2 ∣ oldData.length) (evenNew : 2 ∣ newData.length)
    (ones : onesSum (layout.packet [chksum0, chksum1] oldData) = 0xFFFF) :
    onesSum (layout.packet (checksumAdjust chksum0 chksum1 oldData newData) newData) = 0xFFFF ↔
      ∃ b ∈ layout.packet (checksumAdjust chksum0 chksum1 oldData newData) newData, b ≠ 0 := by
  have residue := checksumAdjust_residue chksum0 chksum1 evenOld evenNew
  exact layout.onesSum_packet (by simp) (by simp) evenOld evenNew residue ones

/-! ## Incremental and full computation -/

/-- `checksum_adjust` leaves what adding all words of the changed packet would call for, and
    gets there within 16 bits. The running value behind some rounds of a loop is what the loop
    leaves of that many words. -/
structure Incremental (chksum0 chksum1 : Byte) (oldData newData : List Byte) : Prop where
  fits : ∀ v ∈ adjustValues chksum0 chksum1 oldData newData, FitsInt32 v
  subtracting : ∀ rounds,
    IsWord (subtractWords (startValue chksum0 chksum1) (oldData.take (2 * rounds)))
  adding : ∀ rounds,
    IsWord (addWords (subtractWords (startValue chksum0 chksum1) oldData)
      (newData.take (2 * rounds)))
  residue :
    complement16 (readBe16 (checksumAdjust chksum0 chksum1 oldData newData) 0) ≡
      complement16 (word chksum0 chksum1) - wordSum oldData + wordSum newData [ZMOD 0xFFFF]
  sumsAgain : ∀ layout : Layout,
    onesSum (layout.packet [chksum0, chksum1] oldData) = 0xFFFF →
      (onesSum (layout.packet (checksumAdjust chksum0 chksum1 oldData newData) newData) =
          0xFFFF ↔
        ∃ b ∈ layout.packet (checksumAdjust chksum0 chksum1 oldData newData) newData, b ≠ 0)

theorem even_take_rounds {data : List Byte} (even : 2 ∣ data.length) (rounds : Nat) :
    2 ∣ (data.take (2 * rounds)).length := by
  rw [List.length_take]
  omega

/-- Adjusting a checksum is recomputing it, for every field and all data of even length. -/
theorem checksumAdjust_incremental (chksum0 chksum1 : Byte) (oldData newData : List Byte)
    (evenOld : 2 ∣ oldData.length) (evenNew : 2 ∣ newData.length) :
    Incremental chksum0 chksum1 oldData newData := by
  have start := startValue_spec chksum0 chksum1
  have subtracted := (subtractWords_spec start.2 oldData evenOld).1
  have adjusted := adjustedValue_spec chksum0 chksum1 evenOld evenNew
  have field := checksumAdjust_word chksum0 chksum1 evenOld evenNew
  refine ⟨adjustValues_fit chksum0 chksum1 evenOld evenNew, ?subtracting, ?adding, ?residue,
    fun layout => onesSum_adjusted layout evenOld evenNew⟩
  case subtracting =>
    intro rounds
    exact (subtractWords_spec start.2 _ (even_take_rounds evenOld rounds)).1
  case adding =>
    intro rounds
    exact (addWords_spec subtracted _ (even_take_rounds evenNew rounds)).1
  case residue =>
    rw [wordSum_field (by simp)] at field
    rw [field, Int.ModEq]
    have complement : complement16 (0xFFFF - adjustedValue chksum0 chksum1 oldData newData) =
        adjustedValue chksum0 chksum1 oldData newData := by
      have isWord := adjusted.1
      unfold complement16 IsWord at *
      omega
    rw [complement]
    exact adjusted.2

theorem checksumAdjust_incremental_negativeZero :
    Incremental 0xFF 0xFF [0x12, 0x34] [0x12, 0x34, 0xFF, 0xFF] :=
  checksumAdjust_incremental 0xFF 0xFF [0x12, 0x34] [0x12, 0x34, 0xFF, 0xFF] (by decide)
    (by decide)

end SolarConnect.LwipHooks
