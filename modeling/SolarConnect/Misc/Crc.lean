import Mathlib.Data.BitVec
import Mathlib.Data.List.GetD
import Mathlib.Logic.Function.Iterate

/-!
# Cyclic redundancy checks

The bitwise loop of a reflected CRC: a register of `w` bits that is shifted once for each bit of
the message, the least significant bit of an octet first. The loop is linear over exclusive or,
and a message of at most `w` bits drives the register to zero only by being what it holds. So a
message that leaves zero no longer does after a burst of errors within `w` bits.
-/

namespace Crc

variable {w : Nat} (poly : BitVec w)

/-- One shift of the register: the polynomial goes in when a set bit goes out. -/
def shift (c : BitVec w) : BitVec w :=
  if c.getLsbD 0 then (c >>> 1) ^^^ poly else c >>> 1

/-- One octet: into the low end of the register, then eight shifts. -/
def octet (c : BitVec w) (b : BitVec 8) : BitVec w :=
  (shift poly)^[8] (c ^^^ b.setWidth w)

/-- The register after a message. -/
def register (c : BitVec w) (message : List (BitVec 8)) : BitVec w :=
  message.foldl (octet poly) c

/-- One bit of the message. -/
def feed (c : BitVec w) (bit : Bool) : BitVec w :=
  shift poly (c ^^^ (BitVec.ofBool bit).setWidth w)

/-- The register after the bits of a message. -/
def feedAll (c : BitVec w) (bits : List Bool) : BitVec w :=
  bits.foldl (feed poly) c

/-- The low `n` bits, the least significant first. -/
def lowBits {v : Nat} (n : Nat) (b : BitVec v) : List Bool :=
  (List.range n).map b.getLsbD

/-- The bits of a message in the order the loop takes them. -/
def bitsOf (message : List (BitVec 8)) : List Bool :=
  message.flatMap (lowBits 8)

/-- The octet with these bits. -/
def octetOf (bits : Nat → Bool) : BitVec 8 :=
  (BitVec.ofBoolListLE ((List.range 8).map bits)).setWidth 8

/-- The message with the bits in `errors` flipped, bits numbered in the order the loop takes
    them. -/
def flipBits (errors : Nat → Bool) (message : List (BitVec 8)) : List (BitVec 8) :=
  message.mapIdx fun i b => b ^^^ octetOf fun j => errors (8 * i + j)

@[simp] theorem flipBits_length (errors : Nat → Bool) (message : List (BitVec 8)) :
    (flipBits errors message).length = message.length := by
  simp [flipBits]

@[simp] theorem lowBits_length {v : Nat} (n : Nat) (b : BitVec v) : (lowBits n b).length = n := by
  simp [lowBits]

theorem lowBits_succ {v : Nat} (n : Nat) (b : BitVec v) :
    lowBits (n + 1) b = b.getLsbD 0 :: lowBits n (b >>> 1) := by
  simp only [lowBits, List.range_succ_eq_map, List.map_cons, List.map_map]
  congr 2
  funext i
  simp [Nat.add_comm]

@[simp] theorem bitsOf_length (message : List (BitVec 8)) :
    (bitsOf message).length = 8 * message.length := by
  simp [bitsOf, List.length_flatMap, Nat.mul_comm]

theorem feedAll_append (c : BitVec w) (front rest : List Bool) :
    feedAll poly c (front ++ rest) = feedAll poly (feedAll poly c front) rest :=
  List.foldl_append

/-! ## The loop takes an octet bit by bit -/

variable {poly}

theorem shift_clear {c : BitVec w} (clear : c.getLsbD 0 = false) : shift poly c = c >>> 1 := by
  rw [shift, if_neg (by simp [clear])]

theorem shift_xor (c d : BitVec w) : shift poly (c ^^^ d) = shift poly c ^^^ shift poly d := by
  simp only [shift, BitVec.getLsbD_xor, BitVec.ushiftRight_xor_distrib]
  cases c.getLsbD 0 <;> cases d.getLsbD 0
  · simp
  · simp [BitVec.xor_assoc]
  · simp only [Bool.xor_false, if_true, Bool.false_eq_true, if_false]
    ac_rfl
  · have cancel : (c >>> 1 ^^^ poly) ^^^ (d >>> 1 ^^^ poly) = c >>> 1 ^^^ d >>> 1 := by
      rw [BitVec.xor_assoc, BitVec.xor_comm (d >>> 1), ← BitVec.xor_assoc poly, BitVec.xor_self,
        BitVec.zero_xor]
    simp [cancel]

theorem ofBool_ushiftRight (bit : Bool) : (BitVec.ofBool bit).setWidth w >>> 1 = 0#w := by
  apply BitVec.eq_of_getLsbD_eq
  intro i _
  simp [BitVec.getLsbD_setWidth]

/-- Feeding the lowest bit of `b`, the rest of it then still to be fed, is one shift with all of `b`
    in the register. -/
theorem feed_lowest (c b : BitVec w) :
    feed poly c (b.getLsbD 0) ^^^ (b >>> 1) = shift poly (c ^^^ b) := by
  have split : b = (BitVec.ofBool (b.getLsbD 0)).setWidth w
      ^^^ (b ^^^ (BitVec.ofBool (b.getLsbD 0)).setWidth w) := by
    rw [BitVec.xor_comm b, ← BitVec.xor_assoc, BitVec.xor_self, BitVec.zero_xor]
  have clear : (b ^^^ (BitVec.ofBool (b.getLsbD 0)).setWidth w).getLsbD 0 = false := by
    by_cases h : 0 < w
    · simp [h]
    · exact BitVec.getLsbD_of_ge _ _ (by omega)
  conv => rhs; rw [split, ← BitVec.xor_assoc, shift_xor, shift_clear clear]
  rw [BitVec.ushiftRight_xor_distrib, ofBool_ushiftRight, BitVec.xor_zero]
  rfl

theorem feedAll_lowBits {n : Nat} {c b : BitVec w} (fits : b >>> n = 0) :
    feedAll poly c (lowBits n b) = (shift poly)^[n] (c ^^^ b) := by
  induction n generalizing c b with
  | zero =>
    have zero : b = 0 := by simpa using fits
    simp [lowBits, feedAll, zero]
  | succ n ih =>
    rw [lowBits_succ, Function.iterate_succ_apply, ← feed_lowest]
    refine ih ?_
    rw [← BitVec.shiftRight_add, Nat.add_comm 1 n, fits]

theorem octet_eq_feedAll (wide : 8 ≤ w) (c : BitVec w) (b : BitVec 8) :
    octet poly c b = feedAll poly c (lowBits 8 b) := by
  have fits : b.setWidth w >>> 8 = 0 := by
    apply BitVec.eq_of_getLsbD_eq
    intro i _
    simp [BitVec.getLsbD_setWidth, BitVec.getLsbD_of_ge]
  have same : lowBits 8 b = lowBits 8 (b.setWidth w) := by
    refine List.map_congr_left fun i member => ?_
    have below := List.mem_range.1 member
    rw [BitVec.getLsbD_setWidth]
    simp [show i < w by omega]
  rw [octet, same, feedAll_lowBits fits]

theorem register_eq_feedAll (wide : 8 ≤ w) (c : BitVec w) (message : List (BitVec 8)) :
    register poly c message = feedAll poly c (bitsOf message) := by
  induction message generalizing c with
  | nil => rfl
  | cons b message ih =>
    rw [bitsOf, List.flatMap_cons, feedAll_append, ← octet_eq_feedAll wide]
    exact ih _

/-! ## Linearity -/

theorem feed_xor (c d : BitVec w) (a b : Bool) :
    feed poly (c ^^^ d) (a ^^ b) = feed poly c a ^^^ feed poly d b := by
  have bits : (BitVec.ofBool (a ^^ b)).setWidth w
      = (BitVec.ofBool a).setWidth w ^^^ (BitVec.ofBool b).setWidth w := by
    rw [← BitVec.setWidth_xor, BitVec.ofBool_xor_ofBool]
  rw [feed, feed, feed, ← shift_xor, bits]
  congr 1
  ac_rfl

/-- The loop is linear over exclusive or. -/
theorem feedAll_xor {c d : BitVec w} {bits errors : List Bool}
    (same : bits.length = errors.length) :
    feedAll poly (c ^^^ d) (List.zipWith xor bits errors)
      = feedAll poly c bits ^^^ feedAll poly d errors := by
  induction bits generalizing c d errors with
  | nil =>
    rw [List.eq_nil_of_length_eq_zero same.symm]
    rfl
  | cons a bits ih =>
    cases errors with
    | nil => simp at same
    | cons b errors =>
      simp only [feedAll, List.zipWith_cons_cons, List.foldl_cons, feed_xor] at ih ⊢
      exact ih (Nat.succ.inj same)

theorem lowBits_octetOf (bits : Nat → Bool) :
    lowBits 8 (octetOf bits) = (List.range 8).map bits := by
  refine List.map_congr_left fun i member => ?_
  have below := List.mem_range.1 member
  rw [octetOf, BitVec.getLsbD_setWidth, BitVec.getLsbD_ofBoolListLE]
  simp [below]

theorem lowBits_xor (n : Nat) (a b : BitVec w) :
    lowBits n (a ^^^ b) = List.zipWith xor (lowBits n a) (lowBits n b) := by
  simp [lowBits, List.zipWith_map]

/-- Flipping bits of the message is exclusive or with the errors. -/
theorem bitsOf_flipBits (errors : Nat → Bool) (message : List (BitVec 8)) :
    bitsOf (flipBits errors message)
      = List.zipWith xor (bitsOf message) ((List.range (8 * message.length)).map errors) := by
  induction message generalizing errors with
  | nil => rfl
  | cons b message ih =>
    have rest : flipBits errors (b :: message)
        = (b ^^^ octetOf errors) :: flipBits (fun i => errors (8 + i)) message := by
      simp only [flipBits, List.mapIdx_cons, Nat.mul_zero, Nat.zero_add, Nat.mul_succ]
      congr 3
      funext i b
      simp only [Nat.add_comm (8 * i) 8, Nat.add_assoc]
    have positions : (List.range (8 * (message.length + 1))).map errors
        = (List.range 8).map errors
          ++ (List.range (8 * message.length)).map fun i => errors (8 + i) := by
      rw [Nat.mul_succ, Nat.add_comm, List.range_add, List.map_append, List.map_map]
      rfl
    rw [rest, List.length_cons, positions, bitsOf, bitsOf, List.flatMap_cons, List.flatMap_cons,
      List.zipWith_append (by simp), lowBits_xor, lowBits_octetOf]
    exact congrArg _ (ih _)

/-! ## Bursts -/

/-- The register's own lowest bit only moves the others down. -/
theorem feed_own {c : BitVec w} {bit : Bool} (own : c.getLsbD 0 = bit) :
    feed poly c bit = c >>> 1 := by
  have clear : (c ^^^ (BitVec.ofBool bit).setWidth w).getLsbD 0 = false := by
    by_cases h : 0 < w
    · simp [h, ← own]
    · exact BitVec.getLsbD_of_ge _ _ (by omega)
  rw [feed, shift_clear clear, BitVec.ushiftRight_xor_distrib, ofBool_ushiftRight, BitVec.xor_zero]

/-- Any other bit brings in the polynomial, with its top bit. -/
theorem own_of_msb_clear (top : poly.msb = true) {c : BitVec w} {bit : Bool}
    (clear : (feed poly c bit).msb = false) : c.getLsbD 0 = bit := by
  by_contra other
  have positive : 0 < w := by
    by_contra none
    obtain rfl : w = 0 := by omega
    simp [BitVec.msb, BitVec.getMsbD] at top
  have lowest : (c ^^^ (BitVec.ofBool bit).setWidth w).getLsbD 0 = true := by
    simpa [positive] using other
  have set : (feed poly c bit).msb = true := by
    rw [feed, shift, if_pos lowest, BitVec.msb_xor, top, BitVec.msb_ushiftRight]
    simp
  rw [set] at clear
  exact Bool.noConfusion clear

/-- At most `w` bits drive the register to zero exactly when they are what it holds. -/
theorem feedAll_eq_zero_iff (top : poly.msb = true) {bits : List Bool} (short : bits.length ≤ w)
    {c : BitVec w} :
    feedAll poly c bits = 0#w ↔ ∀ i, c.getLsbD i = bits.getD i false := by
  induction bits generalizing c with
  | nil =>
    show c = 0#w ↔ _
    constructor
    · rintro rfl i
      simp
    · intro clear
      apply BitVec.eq_of_getLsbD_eq
      intro i _
      simpa using clear i
  | cons bit bits ih =>
    rw [List.length_cons] at short
    show feedAll poly (feed poly c bit) bits = 0#w ↔ _
    rw [ih (by omega)]
    constructor
    · intro rest
      have clear : (feed poly c bit).msb = false := by
        rw [BitVec.msb_eq_getLsbD_last, rest, List.getD_eq_default _ _ (by omega)]
      have own := own_of_msb_clear top clear
      rw [feed_own own] at rest
      intro i
      cases i with
      | zero => simpa using own
      | succ i => simpa [Nat.add_comm] using rest i
    · intro all
      have own : c.getLsbD 0 = bit := by simpa using all 0
      rw [feed_own own]
      intro i
      have next := all (i + 1)
      simpa [Nat.add_comm] using next

theorem feedAll_clear (n : Nat) : feedAll poly 0#w (List.replicate n false) = 0#w := by
  induction n with
  | zero => rfl
  | succ n ih =>
    have first : feed poly 0#w false = 0#w := by
      rw [feed_own (by simp)]
      simp
    rw [List.replicate_succ]
    show feedAll poly (feed poly 0#w false) _ = 0#w
    rw [first, ih]

/-- A register that is not zero stays so over clear bits. -/
theorem feedAll_clear_ne (top : poly.msb = true) {c : BitVec w} (nonzero : c ≠ 0#w) (n : Nat) :
    feedAll poly c (List.replicate n false) ≠ 0#w := by
  induction n generalizing c with
  | zero => exact nonzero
  | succ n ih =>
    rw [List.replicate_succ]
    refine ih fun zero => nonzero ?_
    have positive : 0 < w := by
      by_contra none
      obtain rfl : w = 0 := by omega
      exact nonzero (Subsingleton.elim _ _)
    have short : [false].length ≤ w := positive
    have clear := (feedAll_eq_zero_iff top short).1 zero
    apply BitVec.eq_of_getLsbD_eq
    intro i _
    rw [clear i]
    cases i <;> simp

/-- A stretch of a message without a set bit. -/
theorem eq_clear {bits : List Bool} (clear : ∀ i, bits.getD i false = false) :
    bits = List.replicate bits.length false := by
  refine List.eq_replicate_of_mem fun b member => ?_
  obtain ⟨i, inside, rfl⟩ := List.getElem_of_mem member
  simpa [inside] using clear i

/-- Set bits that lie within `w` positions leave something in an empty register. -/
theorem feedAll_burst_ne (top : poly.msb = true) {bits : List Bool} {start : Nat}
    (within : ∀ i, bits.getD i false = true → start ≤ i ∧ i < start + w)
    (some : ∃ i, bits.getD i false = true) : feedAll poly 0#w bits ≠ 0#w := by
  have outside : ∀ i, i < start ∨ start + w ≤ i → bits.getD i false = false := by
    intro i away
    by_contra set
    have inside := within i (by simpa using set)
    omega
  have front : bits.take start = List.replicate (bits.take start).length false := by
    refine eq_clear fun i => ?_
    rw [List.getD_eq_getElem?_getD, List.getElem?_take]
    split
    · next before => simpa using outside i (Or.inl before)
    · rfl
  have rest : bits.drop (start + w) = List.replicate (bits.drop (start + w)).length false := by
    refine eq_clear fun i => ?_
    rw [List.getD_eq_getElem?_getD, List.getElem?_drop]
    simpa using outside (start + w + i) (Or.inr (Nat.le_add_right _ _))
  have parts : bits = bits.take start ++ ((bits.drop start).take w ++ bits.drop (start + w)) := by
    rw [← List.drop_drop, List.take_append_drop, List.take_append_drop]
  rw [parts, feedAll_append, feedAll_append, front, feedAll_clear, rest]
  refine feedAll_clear_ne top (fun zero => ?_) _
  have none := (feedAll_eq_zero_iff top (List.length_take_le _ _)).1 zero
  obtain ⟨i, set⟩ := some
  obtain ⟨after, before⟩ := within i set
  have here := none (i - start)
  rw [List.getD_eq_getElem?_getD, List.getElem?_take_of_lt (by omega), List.getElem?_drop,
    Nat.add_sub_cancel' after, ← List.getD_eq_getElem?_getD, set] at here
  simp at here

/-- A message within the width of the register leaves zero exactly when the register holds its
    bits: what a check of the appended CRC tests. -/
theorem register_eq_zero_iff (top : poly.msb = true) (wide : 8 ≤ w) {rest : List (BitVec 8)}
    (short : 8 * rest.length ≤ w) {c : BitVec w} :
    register poly c rest = 0#w ↔ ∀ i, c.getLsbD i = (bitsOf rest).getD i false := by
  rw [register_eq_feedAll wide, feedAll_eq_zero_iff top (by simpa using short)]

/-- The CRC detects a burst: a message that leaves zero no longer does when the bits in `errors`
    are flipped, if there are any and they lie within `w` positions. -/
theorem register_flipBits_ne (top : poly.msb = true) (wide : 8 ≤ w) {seed : BitVec w}
    {message : List (BitVec 8)} {errors : Nat → Bool} {start : Nat}
    (within : ∀ i < 8 * message.length, errors i = true → start ≤ i ∧ i < start + w)
    (some : ∃ i < 8 * message.length, errors i = true) (zero : register poly seed message = 0#w) :
    register poly seed (flipBits errors message) ≠ 0#w := by
  have bits (i : Nat) : ((List.range (8 * message.length)).map errors).getD i false
      = (decide (i < 8 * message.length) && errors i) := by
    rw [List.getD_eq_getElem?_getD, List.getElem?_map]
    by_cases inside : i < 8 * message.length
    · simp [inside]
    · rw [List.getElem?_eq_none (by simpa using inside)]
      simp [inside]
  have inside (i : Nat) (set : ((List.range (8 * message.length)).map errors).getD i false = true) :
      start ≤ i ∧ i < start + w := by
    rw [bits, Bool.and_eq_true, decide_eq_true_eq] at set
    exact within i set.1 set.2
  have burst : feedAll poly 0#w ((List.range (8 * message.length)).map errors) ≠ 0#w := by
    refine feedAll_burst_ne top inside ?_
    obtain ⟨i, below, set⟩ := some
    exact ⟨i, by simp [below, set]⟩
  have linear : feedAll poly (seed ^^^ 0#w)
      (List.zipWith xor (bitsOf message) ((List.range (8 * message.length)).map errors))
        = feedAll poly seed (bitsOf message)
          ^^^ feedAll poly 0#w ((List.range (8 * message.length)).map errors) :=
    feedAll_xor (by simp)
  rw [register_eq_feedAll wide] at zero
  rw [BitVec.xor_zero, zero, BitVec.zero_xor] at linear
  rw [register_eq_feedAll wide, bitsOf_flipBits, linear]
  exact burst

end Crc
