import SolarConnect.Dns.Packet
import Mathlib.Data.List.TakeWhile

/-!
# DNS questions

What a question section says, on its own terms: the labels of the name, the type and the
class. `dns_get_question_info` flattens the labels into one dotted string. On questions whose
labels hold neither a `.` nor a NUL and whose dotted form fits the buffer, the string, up to
case, gives the labels back.
-/

namespace SolarConnect.Dns

open Bytes

/-- A question section. -/
structure Question where
  labels : List (List Byte)
  qtype : Nat
  qclass : Nat
  deriving DecidableEq, Repr

/-- The labels of an uncompressed name, and the bytes behind it. -/
def readLabels : List Byte → Option (List (List Byte) × List Byte)
  | [] => none
  | len :: rest =>
    if len = 0 then some ([], rest)
    else if len &&& 0xC0 ≠ 0 ∨ rest.length < len.toNat then none
    else
      (readLabels (rest.drop len.toNat)).map fun parsed =>
        (rest.take len.toNat :: parsed.1, parsed.2)
  termination_by rest => rest.length
  decreasing_by rw [List.length_drop, List.length_cons]; omega

/-- The question section of a message: its first question, right behind the header. -/
def readQuestion (packet : List Byte) : Option Question :=
  match readLabels (packet.drop headerSize) with
  | none => none
  | some (labels, rest) =>
    if rest.length < 4 then none else some ⟨labels, readBe16 rest 0, readBe16 rest 2⟩

/-- The labels of a name, in lower case. -/
def foldCase (labels : List (List Byte)) : List (List Byte) :=
  labels.map fun label => label.map toLower

/-- The same name, compared case-insensitively and label by label, type and class. -/
def SameQuestion (q q' : Question) : Prop :=
  foldCase q.labels = foldCase q'.labels ∧ q.qtype = q'.qtype ∧ q.qclass = q'.qclass

instance (q q' : Question) : Decidable (SameQuestion q q') := by
  unfold SameQuestion
  infer_instance

/-- The dotted form of a name. -/
def dotted (labels : List (List Byte)) : List Byte :=
  [0x2E].intercalate labels

/-- A name that its dotted form, as a C string in `qname`, determines. -/
structure PlainName (labels : List (List Byte)) : Prop where
  separators : ∀ label ∈ labels, 0x2E ∉ label
  terminators : ∀ label ∈ labels, 0 ∉ label
  fits : (dotted labels).length ≤ qnameSize - 1

instance (labels : List (List Byte)) : Decidable (PlainName labels) :=
  decidable_of_iff ((∀ label ∈ labels, 0x2E ∉ label) ∧ (∀ label ∈ labels, 0 ∉ label) ∧
      (dotted labels).length ≤ qnameSize - 1)
    ⟨fun ⟨separators, terminators, fits⟩ => ⟨separators, terminators, fits⟩,
      fun plain => ⟨plain.separators, plain.terminators, plain.fits⟩⟩

/-! ## Dotted names -/

/-- Induction over a name that `readLabels` accepts: its terminator, or a label in front. -/
theorem readLabels_induction {motive : List Byte → List (List Byte) → List Byte → Prop}
    (terminator : ∀ rest, motive (0 :: rest) [] rest)
    (label : ∀ len bytes labels rest, len ≠ 0 →
      ¬ (len &&& 0xC0 ≠ 0 ∨ bytes.length < len.toNat) → motive (bytes.drop len.toNat) labels rest →
        motive (len :: bytes) (bytes.take len.toNat :: labels) rest)
    (packet : List Byte) {labels : List (List Byte)} {rest : List Byte}
    (parsed : readLabels packet = some (labels, rest)) : motive packet labels rest := by
  induction packet using readLabels.induct generalizing labels with
  | case1 => simp [readLabels] at parsed
  | case2 =>
    rw [readLabels, if_pos rfl] at parsed
    obtain ⟨rfl, rfl⟩ := Prod.mk.inj (Option.some.inj parsed)
    exact terminator _
  | case3 len bytes zero malformed =>
    rw [readLabels, if_neg zero, if_pos malformed] at parsed
    simp at parsed
  | case4 len bytes zero wellFormed ih =>
    rw [readLabels, if_neg zero, if_neg wellFormed] at parsed
    obtain ⟨⟨tail, left⟩, tailParsed, same⟩ := Option.map_eq_some_iff.mp parsed
    obtain ⟨rfl, rfl⟩ := Prod.mk.inj same
    exact label len bytes tail left zero wellFormed (ih tailParsed)

theorem readLabels_nonempty (packet : List Byte) {labels : List (List Byte)} {rest : List Byte}
    (parsed : readLabels packet = some (labels, rest)) : ∀ label ∈ labels, label ≠ [] := by
  refine readLabels_induction (motive := fun _ labels _ => ∀ label ∈ labels, label ≠ [])
    (by simp) ?_ packet parsed
  intro len bytes labels rest zero wellFormed ih label member
  rcases List.mem_cons.mp member with rfl | inTail
  · have positive : len.toNat ≠ 0 := fun h => zero (BitVec.eq_of_toNat_eq (by simpa using h))
    rw [not_or, not_lt] at wellFormed
    rw [ne_eq, List.take_eq_nil_iff, not_or]
    exact ⟨positive, List.ne_nil_of_length_pos (by omega)⟩
  · exact ih label inTail

theorem readLabels_length (packet : List Byte) {labels : List (List Byte)} {rest : List Byte}
    (parsed : readLabels packet = some (labels, rest)) : rest.length < packet.length := by
  refine readLabels_induction (motive := fun packet _ rest => rest.length < packet.length)
    (by simp) ?_ packet parsed
  intro len bytes labels rest zero wellFormed ih
  simp only [List.length_drop, List.length_cons] at ih ⊢
  omega

theorem map_dotted (f : Byte → Byte) (dot : f 0x2E = 0x2E) (labels : List (List Byte)) :
    (dotted labels).map f = dotted (labels.map fun label => label.map f) := by
  induction labels with
  | nil => rfl
  | cons label labels ih =>
    cases labels with
    | nil => simp [dotted]
    | cons next labels =>
      simp only [dotted, List.map_cons, List.intercalate_cons_cons, List.map_append, List.map_nil,
        dot] at ih ⊢
      rw [ih]

theorem mem_dotted {c : Byte} {labels : List (List Byte)} (member : c ∈ dotted labels) :
    c = 0x2E ∨ ∃ label ∈ labels, c ∈ label := by
  induction labels with
  | nil => simp [dotted] at member
  | cons label labels ih =>
    cases labels with
    | nil => exact Or.inr ⟨label, by simp, by simpa [dotted] using member⟩
    | cons next labels =>
      rw [dotted, List.intercalate_cons_cons, List.mem_append, List.mem_append] at member
      rcases member with (inLabel | isDot) | inTail
      · exact Or.inr ⟨label, by simp, inLabel⟩
      · exact Or.inl (by simpa using isDot)
      · rcases ih inTail with isDot | ⟨other, inRest, found⟩
        · exact Or.inl isDot
        · exact Or.inr ⟨other, by simp [inRest], found⟩

/-- Nonempty labels without a `.` are determined by their dotted form. -/
theorem dotted_injective {labels labels' : List (List Byte)}
    (separators : ∀ label ∈ labels, 0x2E ∉ label) (nonempty : ∀ label ∈ labels, label ≠ [])
    (separators' : ∀ label ∈ labels', 0x2E ∉ label) (nonempty' : ∀ label ∈ labels', label ≠ [])
    (same : dotted labels = dotted labels') : labels = labels' := by
  have dotted_nil : ∀ ls : List (List Byte), (∀ label ∈ ls, label ≠ []) →
      dotted ls = [] → ls = [] := by
    intro ls positive empty
    rcases ls with _ | ⟨label, _ | ⟨next, tail⟩⟩
    · rfl
    · exact absurd (by simpa [dotted] using empty) (positive label (by simp))
    · simp [dotted] at empty
  rcases eq_or_ne labels [] with rfl | some_label
  · exact (dotted_nil labels' nonempty' same.symm).symm
  rcases eq_or_ne labels' [] with rfl | some_label'
  · exact dotted_nil labels nonempty same
  rw [← List.splitOn_intercalate 0x2E separators some_label,
    ← List.splitOn_intercalate 0x2E separators' some_label']
  exact congrArg (List.splitOn 0x2E) same

/-! ## The flattened name -/

theorem appendLabel_first {room : Nat} {label : List Byte} (fits : label.length ≤ room) :
    appendLabel room [] label = label := by
  simp [appendLabel, List.take_of_length_le fits]

theorem appendLabel_next {room : Nat} {name label : List Byte} (started : name ≠ [])
    (fits : name.length + 1 + label.length ≤ room) (nonempty : label ≠ []) :
    appendLabel room name label = name ++ [0x2E] ++ label := by
  have positive := List.length_pos_of_ne_nil started
  have more := List.length_pos_of_ne_nil nonempty
  rw [appendLabel, if_pos ⟨positive, by omega⟩, List.take_of_length_le]
  simp only [List.length_append, List.length_singleton]
  omega

theorem dotted_cons_cons (name label : List Byte) (labels : List (List Byte)) :
    dotted ((name ++ [0x2E] ++ label) :: labels) = dotted (name :: label :: labels) := by
  cases labels <;> simp [dotted]

theorem le_dotted (name : List Byte) (labels : List (List Byte)) :
    name.length ≤ (dotted (name :: labels)).length := by
  cases labels <;> simp [dotted]

/-- Labels that fit are joined with dots. -/
theorem foldl_appendLabel {room : Nat} {name : List Byte} {labels : List (List Byte)}
    (started : name ≠ []) (nonempty : ∀ label ∈ labels, label ≠ [])
    (fits : (dotted (name :: labels)).length ≤ room) :
    labels.foldl (appendLabel room) name = dotted (name :: labels) := by
  induction labels generalizing name with
  | nil => simp [dotted]
  | cons label labels ih =>
    rw [← dotted_cons_cons] at fits ⊢
    have here := (le_dotted (name ++ [0x2E] ++ label) labels).trans fits
    simp only [List.length_append, List.length_singleton] at here
    rw [List.foldl_cons, appendLabel_next started here (nonempty label (by simp))]
    exact ih (by simp) (fun other member => nonempty other (by simp [member])) fits

/-- The label loop on a well-formed name appends its labels one by one. -/
theorem questionName_readLabels (room : Nat) (packet name : List Byte)
    {labels : List (List Byte)} {rest : List Byte}
    (parsed : readLabels packet = some (labels, rest)) :
    questionName room name packet = (labels.foldl (appendLabel room) name, some rest) := by
  refine readLabels_induction (motive := fun packet labels rest => ∀ name,
    questionName room name packet = (labels.foldl (appendLabel room) name, some rest))
    (fun rest name => by rw [questionName, if_pos rfl, List.foldl_nil]) ?_ packet parsed name
  intro len bytes labels rest zero wellFormed ih name
  rw [questionName, if_neg zero, if_neg wellFormed, List.foldl_cons]
  exact ih _

/-! ## The key of a question -/

theorem toLower_eq_dot : ∀ c : Byte, toLower c = 0x2E ↔ c = 0x2E := by
  decide

theorem readQuestion_cases {packet : List Byte} {question : Question}
    (reads : readQuestion packet = some question) :
    ∃ rest, readLabels (packet.drop headerSize) = some (question.labels, rest) ∧
      4 ≤ rest.length ∧ question.qtype = readBe16 rest 0 ∧ question.qclass = readBe16 rest 2 := by
  unfold readQuestion at reads
  split at reads
  · simp at reads
  · rename_i labels rest parsed
    split at reads
    · simp at reads
    · obtain rfl := Option.some.inj reads
      exact ⟨rest, parsed, by omega, rfl, rfl⟩

/-- On a message with a plain question the key is the dotted name in lower case, and the
    type. -/
theorem dnsGetQuestionInfo_plain {packet : List Byte} {question : Question}
    (reads : readQuestion packet = some question) (plain : PlainName question.labels) :
    dnsCacheNormalizeQname (dnsGetQuestionInfo packet unknownName 0).name =
        dotted (foldCase question.labels) ∧
      (dnsGetQuestionInfo packet unknownName 0).qtype = question.qtype := by
  obtain ⟨rest, parsed, room, type, -⟩ := readQuestion_cases reads
  have long : 16 ≤ packet.length := by
    have shorter := readLabels_length _ parsed
    rw [List.length_drop, headerSize] at shorter
    omega
  have joined : question.labels.foldl (appendLabel (qnameSize - 1)) [] =
      dotted question.labels := by
    have nonempty := readLabels_nonempty _ parsed
    have fits := plain.fits
    cases labels : question.labels with
    | nil => rfl
    | cons label labels' =>
      rw [labels] at nonempty fits
      rw [List.foldl_cons, appendLabel_first ((le_dotted label labels').trans fits)]
      exact foldl_appendLabel (nonempty label (by simp))
        (fun other member => nonempty other (by simp [member])) fits
  have name : (dnsGetQuestionInfo packet unknownName 0).name = dotted question.labels ∧
      (dnsGetQuestionInfo packet unknownName 0).qtype = question.qtype := by
    rw [dnsGetQuestionInfo, if_neg (by omega), questionName_readLabels _ _ _ parsed, joined]
    simp only [if_neg (Nat.not_lt.mpr room), type, and_self]
  have whole : cString (dotted question.labels) = dotted question.labels := by
    refine List.takeWhile_eq_self_iff.mpr fun c member => ?_
    rcases mem_dotted member with rfl | ⟨label, inLabels, inLabel⟩
    · decide
    · have nonzero : c ≠ 0 := fun zero => plain.terminators label inLabels (zero ▸ inLabel)
      simpa using nonzero
  rw [name.1, dnsCacheNormalizeQname, whole, map_dotted toLower (by decide)]
  exact ⟨rfl, name.2⟩

/-- Plain names with the same key are the same up to case. -/
theorem plainName_key_injective {packet packet' : List Byte} {question question' : Question}
    (reads : readQuestion packet = some question) (plain : PlainName question.labels)
    (reads' : readQuestion packet' = some question') (plain' : PlainName question'.labels)
    (same : dotted (foldCase question.labels) = dotted (foldCase question'.labels)) :
    foldCase question.labels = foldCase question'.labels := by
  have facts : ∀ {p : List Byte} {q : Question}, readQuestion p = some q → PlainName q.labels →
      (∀ label ∈ foldCase q.labels, 0x2E ∉ label) ∧ ∀ label ∈ foldCase q.labels, label ≠ [] := by
    intro p q readsQ plainQ
    obtain ⟨rest, parsed, -⟩ := readQuestion_cases readsQ
    constructor
    · intro label member dot
      obtain ⟨original, inLabels, rfl⟩ := List.mem_map.mp member
      obtain ⟨c, inLabel, lowered⟩ := List.mem_map.mp dot
      rw [toLower_eq_dot] at lowered
      exact plainQ.separators original inLabels (lowered ▸ inLabel)
    · intro label member empty
      obtain ⟨original, inLabels, rfl⟩ := List.mem_map.mp member
      exact readLabels_nonempty _ parsed original inLabels (List.map_eq_nil_iff.mp empty)
  have left := facts reads plain
  have right := facts reads' plain'
  exact dotted_injective left.1 left.2 right.1 right.2 same

end SolarConnect.Dns
