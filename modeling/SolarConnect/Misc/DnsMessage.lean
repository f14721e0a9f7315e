import Mathlib.Algebra.Ring.Nat
import SolarConnect.Misc.Bytes

/-!
# DNS messages

The message format of the domain name system: a header with four counts, and as many questions,
answers, authority and additional records as they say, and nothing behind them. A name is a
sequence of labels of 1 to 63 bytes. Its end can be a pointer to a name, or to the rest of one,
that comes before it in the message.
-/

namespace DnsMessage

open Bytes

/-- The length of the header. -/
def headerLength : Nat := 12

/-- The labels of a name. -/
abbrev Name := List (List Byte)

/-- What a name takes without compression. It is limited to 255 octets. -/
def octets (name : Name) : Nat :=
  (name.map fun label => label.length + 1).sum + 1

/-- The labels are of the lengths that a length byte can say. -/
def Spelled (name : Name) : Prop :=
  ∀ label ∈ name, label ≠ [] ∧ label.length < 64

/-- A name without compression. -/
def encodeName : Name → List Byte
  | [] => [0]
  | label :: name => BitVec.ofNat 8 label.length :: (label ++ encodeName name)

/-- The name at `offset`, and the offset behind it. A pointer leads to a place that is neither in
    the header nor at `start` or behind it. -/
def readName (msg : List Byte) (start offset : Nat) : Option (Name × Nat) :=
  if offset < msg.length then
    let len := byteAt msg offset
    if len = 0 then some ([], offset + 1)
    else if len &&& 0xC0 = 0xC0 then
      let target := readBe16 msg offset % 0x4000
      if offset + 1 < msg.length ∧ headerLength ≤ target ∧ target < start then
        (readName msg target target).map fun r => (r.1, offset + 2)
      else none
    else if len &&& 0xC0 ≠ 0 ∨ msg.length < offset + 1 + len.toNat then none
    else
      (readName msg start (offset + 1 + len.toNat)).map fun r =>
        ((msg.drop (offset + 1)).take len.toNat :: r.1, r.2)
  else none
  termination_by (start, msg.length - offset)
  decreasing_by
    · exact Prod.Lex.left _ _ (by omega)
    · exact Prod.Lex.right _ (by omega)

/-- A question. -/
structure Question where
  name : Name
  qtype : Nat
  qclass : Nat
  deriving DecidableEq

/-- A resource record. -/
structure Record where
  owner : Name
  rtype : Nat
  rclass : Nat
  ttl : Nat
  rdata : List Byte
  deriving DecidableEq

/-- The question at an offset, and the offset behind it. -/
def readQuestion (msg : List Byte) (offset : Nat) : Option (Question × Nat) :=
  match readName msg offset offset with
  | none => none
  | some (name, next) =>
    if 255 < octets name ∨ msg.length < next + 4 then none
    else some (⟨name, readBe16 msg next, readBe16 msg (next + 2)⟩, next + 4)

/-- The record at an offset, and the offset behind it. -/
def readRecord (msg : List Byte) (offset : Nat) : Option (Record × Nat) :=
  match readName msg offset offset with
  | none => none
  | some (owner, next) =>
    let rdlength := readBe16 msg (next + 8)
    if 255 < octets owner ∨ msg.length < next + 10 + rdlength then none
    else
      some (⟨owner, readBe16 msg next, readBe16 msg (next + 2),
        readBe16 msg (next + 4) * 0x10000 + readBe16 msg (next + 6),
        (msg.drop (next + 10)).take rdlength⟩, next + 10 + rdlength)

/-- A section of `count` entries, one behind the other. -/
def readSection {α : Type} (read : Nat → Option (α × Nat)) :
    Nat → Nat → Option (List α × Nat)
  | 0, offset => some ([], offset)
  | count + 1, offset =>
    (read offset).bind fun first =>
      (readSection read count first.2).map fun r => (first.1 :: r.1, r.2)

/-- A message. -/
structure Message where
  id : Nat
  flags : Nat
  questions : List Question
  answers : List Record
  authority : List Record
  additional : List Record
  deriving DecidableEq

/-- The QR bit of the flags. -/
def Message.isResponse (m : Message) : Bool :=
  m.flags / 0x8000 % 2 == 1

/-- The question section, and the offset behind it. -/
def readQuestions (msg : List Byte) : Option (List Question × Nat) :=
  readSection (readQuestion msg) (readBe16 msg 4) headerLength

/-- The message that a packet consists of. -/
def readMessage (msg : List Byte) : Option Message :=
  if msg.length < headerLength then none
  else
    (readQuestions msg).bind fun questions =>
      (readSection (readRecord msg) (readBe16 msg 6) questions.2).bind fun answers =>
        (readSection (readRecord msg) (readBe16 msg 8) answers.2).bind fun authority =>
          (readSection (readRecord msg) (readBe16 msg 10) authority.2).bind fun additional =>
            if additional.2 = msg.length then
              some ⟨readBe16 msg 0, readBe16 msg 2, questions.1, answers.1, authority.1,
                additional.1⟩
            else none

/-! ## Names -/

theorem label_length_iff : ∀ len : Byte, len &&& 0xC0 = 0 ↔ len.toNat < 64 := by
  decide

/-- The byte that says the length of a label. -/
theorem length_byte {label : List Byte} (nonempty : label ≠ []) (short : label.length < 64) :
    (BitVec.ofNat 8 label.length).toNat = label.length ∧ BitVec.ofNat 8 label.length ≠ 0 ∧
      BitVec.ofNat 8 label.length &&& 0xC0 = 0 := by
  have positive := List.length_pos_of_ne_nil nonempty
  have value : (BitVec.ofNat 8 label.length).toNat = label.length := by
    rw [BitVec.toNat_ofNat, Nat.mod_eq_of_lt (by omega)]
  refine ⟨value, ?_, (label_length_iff _).mpr (by omega)⟩
  intro zero
  rw [zero] at value
  exact absurd value.symm (by simpa using nonempty)

@[simp] theorem encodeName_length (name : Name) : (encodeName name).length = octets name := by
  induction name with
  | nil => rfl
  | cons label name ih =>
    rw [encodeName, List.length_cons, List.length_append, ih]
    simp only [octets, List.map_cons, List.sum_cons]
    omega

/-- A label that is read has the length that its length byte says. -/
theorem label_read {msg : List Byte} {offset : Nat} {len : Byte} (nonzero : ¬ len = 0)
    (plain : ¬ (len &&& 0xC0 ≠ 0 ∨ msg.length < offset + 1 + len.toNat)) :
    ((msg.drop (offset + 1)).take len.toNat).length = len.toNat ∧ 0 < len.toNat ∧
      len.toNat < 64 := by
  rw [not_or, not_not] at plain
  have short := (label_length_iff len).mp plain.1
  have positive : len.toNat ≠ 0 := fun zero => nonzero (BitVec.eq_of_toNat_eq zero)
  refine ⟨?_, Nat.pos_of_ne_zero positive, short⟩
  rw [List.length_take, List.length_drop]
  omega

/-- A name that is written out is read. -/
theorem readName_encoded {msg post : List Byte} {name : Name} (spelled : Spelled name)
    (start : Nat) {offset : Nat} (here : msg.drop offset = encodeName name ++ post) :
    readName msg start offset = some (name, offset + octets name) := by
  induction name generalizing offset with
  | nil =>
    obtain ⟨inside, zero, -⟩ := drop_cons here
    rw [readName, if_pos inside]
    dsimp only
    rw [if_pos zero]
    rfl
  | cons label name ih =>
    obtain ⟨nonempty, short⟩ := spelled label List.mem_cons_self
    obtain ⟨value, nonzero, plain⟩ := length_byte nonempty short
    rw [encodeName, List.cons_append, List.append_assoc] at here
    obtain ⟨inside, byte, behind⟩ := drop_cons here
    have fits : ¬ msg.length < offset + 1 + label.length := by
      have length := congrArg List.length behind
      rw [List.length_drop, List.length_append] at length
      omega
    have rest : msg.drop (offset + 1 + label.length) = encodeName name ++ post := by
      rw [← List.drop_drop, behind, List.drop_left]
    have later := ih (fun other member => spelled other (List.mem_cons_of_mem _ member)) rest
    rw [readName, if_pos inside, byte]
    dsimp only
    rw [if_neg nonzero, if_neg (by rw [plain]; decide), value,
      if_neg (not_or.mpr ⟨not_not.mpr plain, fits⟩), later, behind, List.take_left]
    simp only [Option.map_some, octets, List.map_cons, List.sum_cons]
    congr 2
    omega

/-- The first name of a message has nothing to point to. -/
theorem encoded_of_readName {msg : List Byte} {start offset next : Nat} {name : Name}
    (first : start ≤ headerLength) (read : readName msg start offset = some (name, next)) :
    Spelled name ∧ ∃ post, msg.drop offset = encodeName name ++ post := by
  fun_induction readName msg start offset generalizing name next with
  | case1 start offset inside len =>
    rename_i zero
    obtain ⟨rfl, rfl⟩ := Prod.mk.inj (Option.some.inj read)
    refine ⟨fun label member => absurd member List.not_mem_nil, msg.drop (offset + 1), ?_⟩
    have byte := cons_drop inside
    rwa [show byteAt msg offset = 0 from zero] at byte
  | case2 start offset inside len nonzero pointer target =>
    rename_i earlier
    omega
  | case5 start offset inside len nonzero unpointed plain =>
    rename_i ih
    obtain ⟨⟨tail, behind⟩, tailRead, same⟩ := Option.map_eq_some_iff.mp read
    obtain ⟨rfl, rfl⟩ := Prod.mk.inj same
    obtain ⟨spelled, post, rest⟩ := ih first tailRead
    obtain ⟨length, positive, short⟩ := label_read nonzero plain
    constructor
    · intro label member
      rcases List.mem_cons.mp member with rfl | later
      · exact ⟨List.ne_nil_of_length_pos (positive.trans_eq length.symm), length.trans_lt short⟩
      · exact spelled label later
    · refine ⟨post, ?_⟩
      have byte : BitVec.ofNat 8 len.toNat = byteAt msg offset := by
        rw [BitVec.ofNat_toNat, BitVec.setWidth_eq]
      have behindLabel : (msg.drop (offset + 1)).drop len.toNat = encodeName tail ++ post := by
        rw [List.drop_drop, rest]
      rw [encodeName, length, byte, cons_drop inside, List.cons_append, List.append_assoc,
        ← behindLabel, List.take_append_drop]
  | case3 | case4 | case6 => cases read

/-- A name that is a pointer to a name that is written out. -/
theorem readName_pointer {msg post post' : List Byte} {name : Name} (spelled : Spelled name)
    (high low : Byte) {target offset : Nat} (pointer : high &&& 0xC0 = 0xC0)
    (leads : (high.toNat * 256 + low.toNat) % 0x4000 = target) (body : headerLength ≤ target)
    (before : target < offset) (named : msg.drop target = encodeName name ++ post)
    (here : msg.drop offset = high :: low :: post') :
    readName msg offset offset = some (name, offset + 2) := by
  obtain ⟨inside, first, rest⟩ := drop_cons here
  obtain ⟨inside', second, -⟩ := drop_cons rest
  have nonzero : ¬ high = 0 := by
    rintro rfl
    exact absurd pointer (by decide)
  rw [readName, if_pos inside]
  dsimp only
  rw [readBe16, first, second, leads, if_neg nonzero, if_pos pointer,
    if_pos ⟨inside', body, before⟩, readName_encoded spelled target named]
  rfl

/-- A label that ends the message closes no name. -/
theorem readName_unclosed {msg : List Byte} (label : List Byte) (nonempty : label ≠ [])
    (short : label.length < 64)
    {start offset : Nat} (here : msg.drop offset = BitVec.ofNat 8 label.length :: label) :
    readName msg start offset = none := by
  obtain ⟨value, nonzero, plain⟩ := length_byte nonempty short
  obtain ⟨inside, byte, behind⟩ := drop_cons here
  have length := congrArg List.length behind
  rw [List.length_drop] at length
  have fits : ¬ msg.length < offset + 1 + label.length := by omega
  have ended : ¬ offset + 1 + label.length < msg.length := by omega
  rw [readName, if_pos inside, byte]
  dsimp only
  rw [if_neg nonzero, if_neg (by rw [plain]; decide), value,
    if_neg (not_or.mpr ⟨not_not.mpr plain, fits⟩), readName, if_neg ended]
  rfl

theorem readName_beyond {msg : List Byte} {offset : Nat} (beyond : msg.length ≤ offset)
    (start : Nat) : readName msg start offset = none := by
  rw [readName, if_neg (not_lt.mpr beyond)]

/-! ## Questions and records -/

theorem readQuestion_of_name {msg : List Byte} {offset next : Nat} {name : Name}
    (named : readName msg offset offset = some (name, next)) (limited : octets name ≤ 255)
    {type rest : List Byte} (here : msg.drop next = type ++ rest) (four : type.length = 4) :
    readQuestion msg offset = some (⟨name, readBe16 type 0, readBe16 type 2⟩, next + 4) := by
  have length := congrArg List.length here
  rw [List.length_drop, List.length_append] at length
  have fields (i : Nat) (within : i + 2 ≤ 4) : readBe16 msg (next + i) = readBe16 type i := by
    rw [← readBe16_drop, here, readBe16, readBe16, byteAt_append_left _ (by omega),
      byteAt_append_left _ (by omega)]
  rw [readQuestion, named]
  dsimp only
  rw [if_neg (by omega), ← fields 0 (by omega), ← fields 2 (by omega)]
  rfl

/-- The first question of a message is for a name that is written out. -/
theorem encoded_of_readQuestion {msg : List Byte} {question : Question} {next : Nat}
    (read : readQuestion msg headerLength = some (question, next)) :
    Spelled question.name ∧ octets question.name ≤ 255 ∧
      ∃ post, msg.drop headerLength = encodeName question.name ++ post := by
  unfold readQuestion at read
  split at read
  · cases read
  · rename_i name behind named
    split at read
    · cases read
    · rename_i fits
      obtain ⟨rfl, rfl⟩ := Prod.mk.inj (Option.some.inj read)
      obtain ⟨spelled, post⟩ := encoded_of_readName le_rfl named
      have limited : octets name ≤ 255 := by omega
      exact ⟨spelled, limited, post⟩

/-- A question is four bytes longer than its name. -/
theorem next_of_readQuestion {msg : List Byte} {offset behind next : Nat} {name : Name}
    {question : Question} (named : readName msg offset offset = some (name, behind))
    (read : readQuestion msg offset = some (question, next)) : next = behind + 4 := by
  rw [readQuestion, named] at read
  obtain ⟨-, same⟩ := Option.ite_none_left_eq_some.mp read
  exact (Prod.mk.inj (Option.some.inj same)).2.symm

theorem readQuestion_unnamed {msg : List Byte} {offset : Nat}
    (unnamed : readName msg offset offset = none) : readQuestion msg offset = none := by
  rw [readQuestion, unnamed]

theorem readRecord_unnamed {msg : List Byte} {offset : Nat}
    (unnamed : readName msg offset offset = none) : readRecord msg offset = none := by
  rw [readRecord, unnamed]

/-- A record behind its owner: ten bytes, and as many as they say. -/
theorem readRecord_of_name {msg : List Byte} {offset next : Nat} {owner : Name}
    (named : readName msg offset offset = some (owner, next)) (limited : octets owner ≤ 255)
    {fields rdata rest : List Byte} (here : msg.drop next = fields ++ (rdata ++ rest))
    (ten : fields.length = 10) (rdlength : readBe16 fields 8 = rdata.length) :
    readRecord msg offset =
      some (⟨owner, readBe16 fields 0, readBe16 fields 2,
        readBe16 fields 4 * 0x10000 + readBe16 fields 6, rdata⟩, next + 10 + rdata.length) := by
  have length := congrArg List.length here
  rw [List.length_drop, List.length_append, List.length_append] at length
  have field (i : Nat) (within : i + 2 ≤ 10) : readBe16 msg (next + i) = readBe16 fields i := by
    rw [← readBe16_drop, here, readBe16, readBe16, byteAt_append_left _ (by omega),
      byteAt_append_left _ (by omega)]
  have first : readBe16 msg next = readBe16 fields 0 := field 0 (by decide)
  have data : (msg.drop (next + 10)).take rdata.length = rdata := by
    rw [← List.drop_drop, here, ← ten, List.drop_left, List.take_left]
  rw [readRecord, named]
  dsimp only
  rw [field 8 (by decide), rdlength, if_neg (by omega), first, field 2 (by decide),
    field 4 (by decide), field 6 (by decide), data]

/-- A record is longer than its owner by ten bytes at least. -/
theorem readRecord_short {msg : List Byte} {offset next : Nat} {name : Name}
    (named : readName msg offset offset = some (name, next)) (short : msg.length < next + 10) :
    readRecord msg offset = none := by
  rw [readRecord, named]
  dsimp only
  rw [if_pos (by omega)]

/-! ## Messages -/

theorem readSection_one {α : Type} (read : Nat → Option (α × Nat)) (offset : Nat) :
    readSection read 1 offset = (read offset).map fun r => ([r.1], r.2) := by
  rw [readSection]
  cases read offset <;> rfl

theorem readSection_succ {α : Type} {read : Nat → Option (α × Nat)} {count offset next : Nat}
    {list : List α} (entries : readSection read (count + 1) offset = some (list, next)) :
    ∃ first behind rest, read offset = some (first, behind) ∧
      readSection read count behind = some (rest, next) ∧ list = first :: rest := by
  obtain ⟨⟨first, behind⟩, one, more⟩ := Option.bind_eq_some_iff.mp entries
  obtain ⟨⟨rest, last⟩, later, same⟩ := Option.map_eq_some_iff.mp more
  obtain ⟨rfl, rfl⟩ := Prod.mk.inj same
  exact ⟨first, behind, rest, one, later, rfl⟩

/-- A message is its sections, one behind the other, and nothing else. -/
theorem readMessage_eq_some {msg : List Byte} {m : Message} :
    readMessage msg = some m ↔ headerLength ≤ msg.length ∧
      m.id = readBe16 msg 0 ∧ m.flags = readBe16 msg 2 ∧ ∃ a b c,
        readQuestions msg = some (m.questions, a) ∧
        readSection (readRecord msg) (readBe16 msg 6) a = some (m.answers, b) ∧
        readSection (readRecord msg) (readBe16 msg 8) b = some (m.authority, c) ∧
        readSection (readRecord msg) (readBe16 msg 10) c = some (m.additional, msg.length) := by
  rw [readMessage]
  constructor
  · intro read
    split at read
    · cases read
    rename_i long
    obtain ⟨⟨questions, a⟩, readQ, read⟩ := Option.bind_eq_some_iff.mp read
    obtain ⟨⟨answers, b⟩, readA, read⟩ := Option.bind_eq_some_iff.mp read
    obtain ⟨⟨authority, c⟩, readB, read⟩ := Option.bind_eq_some_iff.mp read
    obtain ⟨⟨additional, d⟩, readC, read⟩ := Option.bind_eq_some_iff.mp read
    obtain ⟨rfl, read⟩ := Option.ite_none_right_eq_some.mp read
    obtain rfl := Option.some.inj read
    exact ⟨not_lt.mp long, rfl, rfl, a, b, c, readQ, readA, readB, readC⟩
  · rintro ⟨long, id, flags, a, b, c, readQ, readA, readB, readC⟩
    rw [if_neg (not_lt.mpr long), readQ, Option.bind_some, readA, Option.bind_some, readB,
      Option.bind_some, readC, Option.bind_some, if_pos rfl, ← id, ← flags]

end DnsMessage
