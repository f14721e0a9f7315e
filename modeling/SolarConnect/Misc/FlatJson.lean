import SolarConnect.Misc.Bytes
import Mathlib.Data.Nat.Digits.Lemmas

/-!
# Flat JSON objects

Objects whose values are strings, integers and booleans, as a program prints them with a format
string: no white space and no escapes. The reader takes exactly such texts, and what it takes is
JSON. It gives back every object that was printed with clean strings.
-/

namespace FlatJson

open Bytes

/-- The bytes of an ASCII string. -/
def ascii (s : String) : List Byte :=
  s.toList.map fun c => BitVec.ofNat 8 c.toNat

theorem ascii_ofList (cs : List Char) :
    ascii (String.ofList cs) = cs.map fun c => BitVec.ofNat 8 c.toNat := by
  rw [ascii, String.toList_ofList]

abbrev quote : Byte := 0x22
abbrev backslash : Byte := 0x5C
abbrev comma : Byte := 0x2C
abbrev colon : Byte := 0x3A
abbrev minus : Byte := 0x2D
abbrev lbrace : Byte := 0x7B
abbrev rbrace : Byte := 0x7D

/-- A value of an object. -/
inductive Value
  | str (text : List Byte)
  | int (n : Int)
  | bool (b : Bool)
  deriving DecidableEq, Repr

/-- A key with its value. -/
abbrev Member := List Byte × Value

/-- The bytes stand for themselves in a string. -/
def Clean (text : List Byte) : Prop :=
  ∀ b ∈ text, 0x20 ≤ b ∧ b ≠ quote ∧ b ≠ backslash

/-- The test of a byte by its number. -/
def plain (b : Byte) : Bool :=
  Nat.ble 0x20 b.toNat && b.toNat != 0x22 && b.toNat != 0x5C

theorem plain_iff (b : Byte) :
    plain b = true ↔ 0x20 ≤ b ∧ b ≠ quote ∧ b ≠ backslash := by
  simp [plain, BitVec.le_def, ← BitVec.toNat_inj, and_assoc]

instance (text : List Byte) : Decidable (Clean text) :=
  decidable_of_iff (text.all plain = true) (by simp [Clean, plain_iff])

def Value.Clean : Value → Prop
  | .str text => FlatJson.Clean text
  | _ => True

theorem clean_append {s t : List Byte} : Clean (s ++ t) ↔ Clean s ∧ Clean t :=
  List.forall_mem_append

/-! ## Numbers -/

/-- `%u`. -/
def decimal (n : Nat) : List Byte :=
  if n = 0 then [0x30] else (Nat.digits 10 n).reverse.map fun d => 0x30 + BitVec.ofNat 8 d

/-- `%d`. -/
def decimalInt : Int → List Byte
  | .ofNat n => decimal n
  | .negSucc n => minus :: decimal (n + 1)

def digit? (b : Byte) : Option Nat :=
  if 0x30 ≤ b ∧ b ≤ 0x39 then some (b.toNat - 0x30) else none

/-- The digits at the front. -/
def readDigits : List Byte → List Nat × List Byte
  | [] => ([], [])
  | b :: rest =>
    match digit? b with
    | some d => (d :: (readDigits rest).1, (readDigits rest).2)
    | none => ([], b :: rest)

/-- A number without a sign, and without a zero in front. -/
def readNat (text : List Byte) : Option (Nat × List Byte) :=
  match readDigits text with
  | ([], _) => none
  | (0 :: _ :: _, _) => none
  | (digits, rest) => some (Nat.ofDigits 10 digits.reverse, rest)

/-- The text does not go on with a digit. -/
def NoDigit (rest : List Byte) : Prop :=
  ∀ b ∈ rest.head?, digit? b = none

theorem digit_digit {d : Nat} (small : d < 10) : digit? (0x30 + BitVec.ofNat 8 d) = some d := by
  have all : ∀ d < 10, digit? (0x30 + BitVec.ofNat 8 d) = some d := by decide
  exact all d small

theorem readDigits_append {digits : List Nat} (small : ∀ d ∈ digits, d < 10) {rest : List Byte}
    (stops : NoDigit rest) :
    readDigits ((digits.map fun d => 0x30 + BitVec.ofNat 8 d) ++ rest) = (digits, rest) := by
  induction digits with
  | nil =>
    cases rest with
    | nil => rfl
    | cons b rest =>
      have other : digit? b = none := stops b rfl
      simp [readDigits, other]
  | cons d digits ih =>
    rw [List.forall_mem_cons] at small
    rw [List.map_cons, List.cons_append, readDigits, digit_digit small.1, ih small.2]

theorem digits_small (n : Nat) : ∀ d ∈ (Nat.digits 10 n).reverse, d < 10 := by
  intro d member
  exact Nat.digits_lt_base (by decide) (List.mem_reverse.mp member)

theorem readNat_decimal (n : Nat) {rest : List Byte} (stops : NoDigit rest) :
    readNat (decimal n ++ rest) = some (n, rest) := by
  unfold readNat decimal
  split_ifs with zero
  · subst zero
    rw [show ([0x30] : List Byte) = [0].map fun d => 0x30 + BitVec.ofNat 8 d from rfl,
      readDigits_append (by simp) stops]
    rfl
  · rw [readDigits_append (digits_small n) stops]
    have value : Nat.ofDigits 10 (Nat.digits 10 n).reverse.reverse = n := by
      rw [List.reverse_reverse, Nat.ofDigits_digits]
    have positive : Nat.digits 10 n ≠ [] := Nat.digits_ne_nil_iff_ne_zero.mpr zero
    have given : (Nat.digits 10 n).reverse ≠ [] := by
      rwa [Ne, List.reverse_eq_nil_iff]
    -- The digit in front is the last of `digits`, which is not zero.
    have front : ∀ ds, (Nat.digits 10 n).reverse ≠ 0 :: ds := by
      intro ds same
      apply Nat.getLast_digit_ne_zero 10 zero
      have last := List.getLast_eq_head_reverse positive
      simp only [same, List.head_cons] at last
      exact last
    generalize (Nat.digits 10 n).reverse = digits at value front given ⊢
    rcases digits with _ | ⟨_ | d, _ | ⟨e, ds⟩⟩
    · exact absurd rfl given
    · exact absurd rfl (front [])
    · exact absurd rfl (front (e :: ds))
    · exact congrArg (fun n => some (n, rest)) value
    · exact congrArg (fun n => some (n, rest)) value

theorem clean_decimal (n : Nat) : Clean (decimal n) := by
  have digit : ∀ d < 10, 0x20 ≤ (0x30 + BitVec.ofNat 8 d : Byte) ∧
      (0x30 + BitVec.ofNat 8 d : Byte) ≠ quote ∧ (0x30 + BitVec.ofNat 8 d : Byte) ≠ backslash := by
    decide
  unfold decimal
  split
  · decide
  · intro b member
    obtain ⟨d, found, rfl⟩ := List.mem_map.mp member
    exact digit d (digits_small n d found)

theorem decimal_length_le {n k : Nat} (some : 0 < k) (small : n < 10 ^ k) :
    (decimal n).length ≤ k := by
  unfold decimal
  split
  · exact some
  · rw [List.length_map, List.length_reverse]
    exact (Nat.digits_length_le_iff (by decide) n).mpr small

/-- A number with a sign or without one. -/
def readInt : List Byte → Option (Int × List Byte)
  | [] => none
  | b :: rest =>
    if b = minus then (readNat rest).map fun r => (-(r.1 : Int), r.2)
    else (readNat (b :: rest)).map fun r => ((r.1 : Int), r.2)

/-- A printed number starts with a digit. -/
theorem decimal_head (n : Nat) (rest : List Byte) :
    ∃ b more, decimal n ++ rest = b :: more ∧ (digit? b).isSome = true := by
  have read : readNat (decimal n ++ []) = some (n, []) := readNat_decimal n (by simp [NoDigit])
  rw [List.append_nil] at read
  cases front : decimal n with
  | nil =>
    rw [front] at read
    cases read
  | cons b more =>
    refine ⟨b, more ++ rest, rfl, ?_⟩
    by_contra other
    rw [Option.not_isSome_iff_eq_none] at other
    rw [front, readNat, readDigits, other] at read
    cases read

theorem readInt_decimalInt (n : Int) {rest : List Byte} (stops : NoDigit rest) :
    readInt (decimalInt n ++ rest) = some (n, rest) := by
  cases n with
  | ofNat n =>
    obtain ⟨b, more, front, digit⟩ := decimal_head n rest
    have read := readNat_decimal n stops
    have unsigned : b ≠ minus := by
      rintro rfl
      exact absurd digit (by decide)
    rw [decimalInt, front] at *
    rw [readInt, if_neg unsigned, read]
    rfl
  | negSucc n =>
    rw [decimalInt, List.cons_append, readInt, if_pos rfl, readNat_decimal (n + 1) stops]
    rfl

/-! ## Strings -/

/-- The rest of a string, up to its closing quote. -/
def readChars : List Byte → Option (List Byte × List Byte)
  | [] => none
  | b :: rest =>
    if b = quote then some ([], rest)
    else if b < 0x20 ∨ b = backslash then none
    else (readChars rest).map fun r => (b :: r.1, r.2)

theorem readChars_append {text : List Byte} (clean : Clean text) (rest : List Byte) :
    readChars (text ++ quote :: rest) = some (text, rest) := by
  induction text with
  | nil => simp [readChars]
  | cons b text ih =>
    rw [Clean, List.forall_mem_cons] at clean
    obtain ⟨⟨printable, unquoted, unescaped⟩, clean⟩ := clean
    have plain : ¬(b < 0x20 ∨ b = backslash) := not_or.mpr ⟨BitVec.not_lt.mpr printable, unescaped⟩
    rw [List.cons_append, readChars, if_neg unquoted, if_neg plain, ih clean]
    rfl

/-! ## Members -/

/-- A value in front of `rest`. -/
def writeValue (v : Value) (rest : List Byte) : List Byte :=
  match v with
  | .str text => quote :: (text ++ quote :: rest)
  | .int n => decimalInt n ++ rest
  | .bool true => ascii "true" ++ rest
  | .bool false => ascii "false" ++ rest

/-- A member in front of `rest`. -/
def writeMember (m : Member) (rest : List Byte) : List Byte :=
  quote :: (m.1 ++ quote :: colon :: writeValue m.2 rest)

/-- The text behind a prefix. -/
def expect : List Byte → List Byte → Option (List Byte)
  | [], text => some text
  | _ :: _, [] => none
  | c :: cs, b :: text => if b = c then expect cs text else none

def readValue : List Byte → Option (Value × List Byte)
  | [] => none
  | b :: rest =>
    if b = quote then (readChars rest).map fun r => (.str r.1, r.2)
    else if b = 0x74 then (expect (ascii "rue") rest).map fun r => (.bool true, r)
    else if b = 0x66 then (expect (ascii "alse") rest).map fun r => (.bool false, r)
    else (readInt (b :: rest)).map fun r => (.int r.1, r.2)

def readMember (text : List Byte) : Option (Member × List Byte) := do
  let rest ← expect [quote] text
  let (key, rest) ← readChars rest
  let rest ← expect [colon] rest
  let (value, rest) ← readValue rest
  return ((key, value), rest)

theorem expect_append (lit rest : List Byte) : expect lit (lit ++ rest) = some rest := by
  induction lit with
  | nil => rfl
  | cons c lit ih => rw [List.cons_append, expect, if_pos rfl, ih]

/-- A printed number is not taken for another value. -/
theorem readValue_int (n : Int) {rest : List Byte} (stops : NoDigit rest) :
    readValue (decimalInt n ++ rest) = some (.int n, rest) := by
  have read := readInt_decimalInt n stops
  have starts : ∃ b more, decimalInt n ++ rest = b :: more ∧ b ≠ quote ∧ b ≠ 0x74 ∧ b ≠ 0x66 := by
    have digits : ∀ b : Byte, (digit? b).isSome = true → b ≠ quote ∧ b ≠ 0x74 ∧ b ≠ 0x66 := by
      intro b digit
      refine ⟨?_, ?_, ?_⟩ <;>
        · rintro rfl
          exact absurd digit (by decide)
    cases n with
    | ofNat n =>
      obtain ⟨b, more, front, digit⟩ := decimal_head n rest
      exact ⟨b, more, front, digits b digit⟩
    | negSucc n => exact ⟨minus, decimal (n + 1) ++ rest, rfl, by decide⟩
  obtain ⟨b, more, front, unquoted, notTrue, notFalse⟩ := starts
  rw [front] at read ⊢
  rw [readValue, if_neg unquoted, if_neg notTrue, if_neg notFalse, read]
  rfl

theorem readValue_writeValue {v : Value} (clean : v.Clean) {rest : List Byte}
    (stops : NoDigit rest) : readValue (writeValue v rest) = some (v, rest) := by
  cases v with
  | str text =>
    rw [writeValue, readValue, if_pos rfl, readChars_append clean]
    rfl
  | int n => exact readValue_int n stops
  | bool b =>
    cases b with
    | true =>
      have read := expect_append (ascii "rue") rest
      change (expect (ascii "rue") (ascii "rue" ++ rest)).map _ = _
      rw [read]
      rfl
    | false =>
      have read := expect_append (ascii "alse") rest
      change (expect (ascii "alse") (ascii "alse" ++ rest)).map _ = _
      rw [read]
      rfl

theorem readMember_writeMember {m : Member} (key : Clean m.1) (value : m.2.Clean)
    {rest : List Byte} (stops : NoDigit rest) :
    readMember (writeMember m rest) = some (m, rest) := by
  have opens : expect [quote] (writeMember m rest) =
      some (m.1 ++ quote :: colon :: writeValue m.2 rest) := expect_append [quote] _
  have separates : expect [colon] (colon :: writeValue m.2 rest) = some (writeValue m.2 rest) :=
    expect_append [colon] _
  rw [readMember, opens, Option.bind_eq_bind, Option.bind_some, readChars_append key]
  change ((expect [colon] (colon :: writeValue m.2 rest)).bind fun rest =>
    (readValue rest).bind fun r => some ((m.1, r.1), r.2)) = some (m, rest)
  rw [separates, Option.bind_some, readValue_writeValue value stops]
  rfl

/-! ## Objects -/

/-- The members behind the opening brace, in front of the closing one. -/
def writeMembers : List Member → List Byte
  | [] => [rbrace]
  | [m] => writeMember m [rbrace]
  | m :: ms => writeMember m (comma :: writeMembers ms)

theorem writeMembers_cons (m next : Member) (members : List Member) :
    writeMembers (m :: next :: members) =
      writeMember m (comma :: writeMembers (next :: members)) :=
  rfl

/-- An object. -/
def writeObject (members : List Member) : List Byte :=
  lbrace :: writeMembers members

/-- Members up to the closing brace, at most `fuel` of them. -/
def readMembers : Nat → List Byte → Option (List Member)
  | 0, _ => none
  | fuel + 1, text =>
    match readMember text with
    | none => none
    | some (m, rest) =>
      if rest = [rbrace] then some [m]
      else
        match expect [comma] rest with
        | none => none
        | some rest => (readMembers fuel rest).map (m :: ·)

/-- A text that is an object, and nothing else. -/
def readObject (text : List Byte) : Option (List Member) :=
  match expect [lbrace] text with
  | none => none
  | some rest => if rest = [rbrace] then some [] else readMembers rest.length rest

/-- Keys and strings are clean. -/
def CleanMembers (members : List Member) : Prop :=
  ∀ m ∈ members, Clean m.1 ∧ m.2.Clean

theorem cleanMembers_nil : CleanMembers [] :=
  List.forall_mem_nil _

theorem cleanMembers_cons {key : List Byte} {v : Value} {members : List Member}
    (clean : Clean key) (given : v.Clean) (rest : CleanMembers members) :
    CleanMembers ((key, v) :: members) :=
  List.forall_mem_cons.mpr ⟨⟨clean, given⟩, rest⟩

theorem readMembers_writeMembers {members : List Member} (clean : CleanMembers members)
    (given : members ≠ []) {fuel : Nat} (enough : members.length ≤ fuel) :
    readMembers fuel (writeMembers members) = some members := by
  induction members generalizing fuel with
  | nil => exact absurd rfl given
  | cons m members ih =>
    obtain ⟨fuel, rfl⟩ := Nat.exists_eq_add_of_le' (Nat.one_le_of_lt enough)
    obtain ⟨⟨key, value⟩, clean⟩ := List.forall_mem_cons.mp clean
    cases members with
    | nil =>
      have closes : NoDigit [rbrace] := by
        intro b front
        cases front
        decide
      rw [writeMembers, readMembers, readMember_writeMember key value closes]
      exact if_pos rfl
    | cons next members =>
      have continues : NoDigit (comma :: writeMembers (next :: members)) := by
        intro b front
        cases front
        decide
      have separates : expect [comma] (comma :: writeMembers (next :: members)) =
          some (writeMembers (next :: members)) := expect_append [comma] _
      have more : comma :: writeMembers (next :: members) ≠ [rbrace] := by
        intro same
        exact absurd (List.cons.inj same).1 (by decide)
      have rest : readMembers fuel (writeMembers (next :: members)) = some (next :: members) :=
        ih clean (by simp) (Nat.le_of_succ_le_succ enough)
      rw [writeMembers_cons, readMembers, readMember_writeMember key value continues]
      dsimp only
      rw [if_neg more, separates]
      dsimp only
      rw [rest, Option.map_some]

/-- The bytes that a value takes. -/
def Value.size : Value → Nat
  | .str text => text.length + 2
  | .int n => (decimalInt n).length
  | .bool true => 4
  | .bool false => 5

/-- The bytes that a member takes, with what follows it. -/
def memberSize (m : Member) : Nat :=
  m.1.length + m.2.size + 4

theorem writeMember_length (m : Member) (rest : List Byte) :
    (writeMember m rest).length + 1 = memberSize m + rest.length := by
  obtain ⟨key, value⟩ := m
  have size : (writeValue value rest).length = value.size + rest.length := by
    cases value with
    | str text =>
      simp only [writeValue, Value.size, List.length_cons, List.length_append]
      omega
    | int n => simp [writeValue, Value.size]
    | bool b =>
      cases b with
      | true =>
        change (ascii "true" ++ rest).length = 4 + rest.length
        rw [List.length_append]
        rfl
      | false =>
        change (ascii "false" ++ rest).length = 5 + rest.length
        rw [List.length_append]
        rfl
  simp only [writeMember, memberSize, List.length_cons, List.length_append, size]
  omega

theorem writeMembers_length {members : List Member} (given : members ≠ []) :
    (writeMembers members).length = (members.map memberSize).sum := by
  induction members with
  | nil => exact absurd rfl given
  | cons m members ih =>
    rw [List.map_cons, List.sum_cons]
    cases members with
    | nil =>
      have length := writeMember_length m [rbrace]
      rw [List.length_singleton] at length
      exact Nat.succ_injective length
    | cons next members =>
      have length := writeMember_length m (comma :: writeMembers (next :: members))
      rw [List.length_cons, ih (by simp)] at length
      rw [writeMembers_cons]
      omega

theorem writeObject_length {members : List Member} (given : members ≠ []) :
    (writeObject members).length = 1 + (members.map memberSize).sum := by
  rw [writeObject, List.length_cons, writeMembers_length given, Nat.add_comm]

/-- What was printed is read back. -/
theorem readObject_writeObject {members : List Member} (clean : CleanMembers members) :
    readObject (writeObject members) = some members := by
  have opens : expect [lbrace] (writeObject members) = some (writeMembers members) :=
    expect_append [lbrace] _
  rw [readObject, opens]
  dsimp only
  cases members with
  | nil => exact if_pos rfl
  | cons m members =>
    have given : writeMembers (m :: members) ≠ [rbrace] := by
      intro same
      cases members with
      | nil => exact absurd (List.cons.inj same).1 (by decide)
      | cons next members => exact absurd (List.cons.inj same).1 (by decide)
    have enough : (m :: members).length ≤ (writeMembers (m :: members)).length := by
      rw [writeMembers_length (by simp)]
      have each : ∀ size ∈ (m :: members).map memberSize, 1 ≤ size := by
        intro size member
        obtain ⟨m, -, rfl⟩ := List.mem_map.mp member
        exact Nat.le_add_left 1 _
      have total := List.length_le_sum_of_one_le _ each
      rwa [List.length_map] at total
    rw [if_neg given]
    exact readMembers_writeMembers clean (by simp) enough

end FlatJson
