import SolarConnect.Misc.FlatJson

/-!
# Text in C

Strings without their NUL, and the functions of the C library that search them, print them and read
numbers from them. A pointer into a string is the rest of it from there.
-/

namespace CText

open Bytes FlatJson

/-- `snprintf` into a buffer of `size` bytes. -/
def snprintf (size : Nat) (text : List Byte) : List Byte :=
  text.take (size - 1)

theorem snprintf_of_fits {size : Nat} {text : List Byte} (fits : text.length < size) :
    snprintf size text = text :=
  List.take_of_length_le (Nat.le_sub_one_of_lt fits)

/-- What is cut off is at the end. -/
theorem snprintf_append {size : Nat} {front : List Byte} (fits : front.length ≤ size - 1)
    (rest : List Byte) :
    snprintf size (front ++ rest) = front ++ rest.take (size - 1 - front.length) := by
  rw [snprintf, List.take_append, List.take_of_length_le fits]

/-! ## Searching -/

/-- `strchr`, for a byte that is not NUL. -/
def strchr (c : Byte) : List Byte → Option (List Byte)
  | [] => none
  | b :: text => if b = c then some (b :: text) else strchr c text

/-- `strstr`. -/
def strstr (pattern : List Byte) : List Byte → Option (List Byte)
  | [] => if pattern = [] then some [] else none
  | b :: text => if pattern <+: b :: text then some (b :: text) else strstr pattern text

/-- The pattern starts nowhere in `front`, which is in front of `rest`. -/
def Passes (pattern : List Byte) : List Byte → List Byte → Prop
  | [], _ => True
  | b :: front, rest => ¬ pattern <+: b :: (front ++ rest) ∧ Passes pattern front rest

theorem strstr_of_prefix {pattern text : List Byte} (here : pattern <+: text) :
    strstr pattern text = some text := by
  cases text with
  | nil => exact if_pos (List.prefix_nil.mp here)
  | cons b text => exact if_pos here

theorem Passes.strstr_append {pattern front rest : List Byte} (passes : Passes pattern front rest) :
    strstr pattern (front ++ rest) = strstr pattern rest := by
  induction front with
  | nil => rfl
  | cons b front ih => rw [List.cons_append, strstr, if_neg passes.1, ih passes.2]

theorem passes_append {pattern a b rest : List Byte} :
    Passes pattern (a ++ b) rest ↔ Passes pattern a (b ++ rest) ∧ Passes pattern b rest := by
  induction a with
  | nil => simp [Passes]
  | cons c a ih =>
    rw [List.cons_append, Passes, Passes, ih, List.append_assoc, and_assoc]

/-- The pattern starts with a byte that is not there. -/
theorem passes_of_not_mem {c : Byte} {pattern front : List Byte} (absent : c ∉ front)
    (rest : List Byte) : Passes (c :: pattern) front rest := by
  induction front with
  | nil => trivial
  | cons b front ih =>
    rw [List.mem_cons, not_or] at absent
    refine ⟨?_, ih absent.2⟩
    rw [List.cons_prefix_cons]
    exact fun starts => absent.1 starts.1

/-- Two texts that end at the first `c` are the same, or neither goes on as the other. -/
theorem prefix_iff_of_not_mem {c : Byte} {a b rest : List Byte} (left : c ∉ a) (right : c ∉ b) :
    a ++ [c] <+: b ++ c :: rest ↔ a = b := by
  induction a generalizing b with
  | nil =>
    cases b with
    | nil => simp
    | cons d b =>
      rw [List.mem_cons, not_or] at right
      simp [right.1]
  | cons e a ih =>
    rw [List.mem_cons, not_or] at left
    cases b with
    | nil => simp [Ne.symm left.1]
    | cons d b =>
      rw [List.mem_cons, not_or] at right
      rw [List.cons_append, List.cons_append, List.cons_prefix_cons, ih left.2 right.2,
        List.cons.injEq]

/-! ## Numbers -/

/-- `isspace` in the C locale. -/
def isSpace (b : Byte) : Bool :=
  b = 0x20 ∨ 0x09 ≤ b ∧ b ≤ 0x0D

/-- A number in the range of a 32-bit `long`. -/
def saturate (n : Int) : Int :=
  max (-2 ^ 31) (min (2 ^ 31 - 1) n)

/-- `atoi`, by way of `strtol` with a `long` of 32 bits. -/
def atoi (text : List Byte) : Int :=
  match text.dropWhile isSpace with
  | [] => 0
  | b :: rest =>
    if b = minus then saturate (-(Nat.ofDigits 10 (readDigits rest).1.reverse : Nat))
    else if b = 0x2B then saturate (Nat.ofDigits 10 (readDigits rest).1.reverse : Nat)
    else saturate (Nat.ofDigits 10 (readDigits (b :: rest)).1.reverse : Nat)

end CText
