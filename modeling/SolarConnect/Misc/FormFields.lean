import SolarConnect.Misc.CText
import SolarConnect.Misc.CharRefs

/-!
# Fields of a form

A page with text fields, each in its own markup, and the `value` attribute of the field of a
given name. A field is found where the text of its tag stands first, so what is in front of it
must not contain that text; a value without quotes cannot. Only the bytes of the attribute are
considered: how they decode to characters, and that an input field drops line ends, is left to
the reader of the page.
-/

namespace FormFields

open Bytes FlatJson CText CharRefs

/-- `'`, which is around attribute values. -/
abbrev apostrophe : Byte := 0x27

/-- A text field: the markup in front of its name, its name, and its value as it is written. -/
structure Field where
  front : List Byte
  name : List Byte
  value : List Byte

/-- What is behind the `name=` of a field's tag, up to its value. -/
def named (name : List Byte) : List Byte :=
  name ++ ascii "' value='"

/-- What is in front of the value in a field's tag. -/
def opening (name : List Byte) : List Byte :=
  ascii "name=" ++ apostrophe :: named name

/-- Fields in front of the rest of a page. -/
def render : List Field → List Byte → List Byte
  | [], rest => rest
  | f :: fields, rest => f.front ++ (opening f.name ++ (f.value ++ render fields rest))

/-- The bytes of the page that are not in values. -/
def markup (fields : List Field) : Nat :=
  (fields.map fun f => f.front.length + (opening f.name).length).sum

/-- The `value` attribute of the field of that name, with its character references replaced. -/
def fieldValue (name page : List Byte) : Option (List Byte) :=
  (strstr (opening name) page).map fun tag =>
    replaceRefs ((tag.drop (opening name).length).takeWhile (· != apostrophe))

/-! ## Texts that cannot be mistaken -/

/-- The pattern is neither in the text nor started at its end. -/
def apart (pattern : List Byte) : List Byte → Bool
  | [] => true
  | b :: front =>
    !pattern.isPrefixOf (b :: front) && !(b :: front).isPrefixOf pattern && apart pattern front

theorem passes_of_apart {pattern front : List Byte} (separate : apart pattern front = true)
    (rest : List Byte) : Passes pattern front rest := by
  induction front with
  | nil => trivial
  | cons b front ih =>
    rw [apart, Bool.and_eq_true, Bool.and_eq_true, Bool.not_eq_true', Bool.not_eq_true'] at separate
    obtain ⟨⟨absent, started⟩, separate⟩ := separate
    refine ⟨fun starts => ?_, ih separate⟩
    have front' : b :: front <+: b :: (front ++ rest) := List.prefix_append (b :: front) rest
    rcases List.prefix_or_prefix_of_prefix starts front' with whole | part
    · rw [← List.isPrefixOf_iff_prefix] at whole
      rw [whole] at absent
      cases absent
    · rw [← List.isPrefixOf_iff_prefix] at part
      rw [part] at started
      cases started

/-- The text goes on with a quote and a byte that no name starts with. -/
def Closes (name rest : List Byte) : Prop :=
  ∃ c more, rest = apostrophe :: c :: more ∧ name.head? ≠ some c

/-- A value without quotes does not run into the tag of the field. -/
theorem passes_value {name value rest : List Byte} (quoted : apostrophe ∉ value)
    (given : name ≠ []) (closes : Closes name rest) : Passes (opening name) value rest := by
  obtain ⟨c, more, rfl, other⟩ := closes
  have keyword : apostrophe ∉ ascii "name=" := by decide
  induction value with
  | nil => trivial
  | cons b value ih =>
    refine ⟨fun starts => ?_, ih fun member => quoted (List.mem_cons_of_mem b member)⟩
    have quote : ascii "name=" ++ [apostrophe] <+: b :: value ++ apostrophe :: c :: more := by
      refine List.IsPrefix.trans ?_ starts
      rw [opening, ← List.singleton_append, ← List.append_assoc]
      exact List.prefix_append _ _
    have same := (prefix_iff_of_not_mem keyword quoted).mp quote
    rw [opening, same, ← List.cons_append, List.prefix_append_right_inj,
      List.cons_prefix_cons] at starts
    cases name with
    | nil => exact given rfl
    | cons d name =>
      rw [named, List.cons_append, List.cons_prefix_cons] at starts
      exact other (congrArg some starts.2.1)

/-! ## Reading a field -/

/-- The field cannot be taken for the one of that name. -/
structure Clear (name : List Byte) (f : Field) : Prop where
  front : apart (opening name) f.front = true
  tag : apart (opening name) (opening f.name) = true
  value : apostrophe ∉ f.value

/-- Every field is followed by the end of its tag. -/
def Closed (name : List Byte) : List Field → List Byte → Prop
  | [], _ => True
  | _ :: fields, rest => Closes name (render fields rest) ∧ Closed name fields rest

theorem render_append (fields more : List Field) (rest : List Byte) :
    render (fields ++ more) rest = render fields (render more rest) := by
  induction fields with
  | nil => rfl
  | cons f fields ih => rw [List.cons_append, render, render, ih]

theorem render_eq (fields : List Field) (rest : List Byte) :
    render fields rest = render fields [] ++ rest := by
  induction fields with
  | nil => rfl
  | cons f fields ih => rw [render, render, ih, List.append_assoc, List.append_assoc,
      List.append_assoc]

theorem markup_append (fields more : List Field) :
    markup (fields ++ more) = markup fields + markup more := by
  simp [markup]

theorem render_length (fields : List Field) (rest : List Byte) :
    (render fields rest).length =
      markup fields + (fields.map fun f => f.value.length).sum + rest.length := by
  induction fields with
  | nil => simp [render, markup]
  | cons f fields ih =>
    simp only [render, markup, List.length_append, ih, List.map_cons, List.sum_cons]
    omega

/-- The tag of a field is found behind fields that are clear of it. -/
theorem strstr_render {name : List Byte} (given : name ≠ []) {before : List Field} {f : Field}
    {after : List Field} {rest : List Byte} (clear : ∀ g ∈ before, Clear name g)
    (closed : Closed name (before ++ f :: after) rest) (own : f.name = name)
    (front : apart (opening name) f.front = true) :
    strstr (opening name) (render (before ++ f :: after) rest) =
      some (opening name ++ (f.value ++ render after rest)) := by
  induction before with
  | nil =>
    rw [List.nil_append, render, (passes_of_apart front _).strstr_append, own]
    exact strstr_of_prefix (List.prefix_append _ _)
  | cons g before ih =>
    obtain ⟨here, clear⟩ := List.forall_mem_cons.mp clear
    rw [List.cons_append] at closed ⊢
    rw [render, (passes_of_apart here.front _).strstr_append,
      (passes_of_apart here.tag _).strstr_append,
      (passes_value here.value given closed.1).strstr_append]
    exact ih clear closed.2

/-- A reader of the page gets the value back, if its references are replaced. -/
theorem fieldValue_render {name : List Byte} (given : name ≠ []) {before : List Field} {f : Field}
    {after : List Field} {rest : List Byte} (clear : ∀ g ∈ before, Clear name g)
    (closed : Closed name (before ++ f :: after) rest) (own : f.name = name)
    (front : apart (opening name) f.front = true) (quoted : apostrophe ∉ f.value) :
    fieldValue name (render (before ++ f :: after) rest) = some (replaceRefs f.value) := by
  have ends : Closes name (render after rest) := by
    induction before with
    | nil => exact closed.1
    | cons g before ih =>
      exact ih (fun h member => clear h (List.mem_cons_of_mem g member)) closed.2
  obtain ⟨c, more, behind, -⟩ := ends
  rw [fieldValue, strstr_render given clear closed own front, Option.map_some, List.drop_left,
    behind, takeWhile_ne_append quoted]

end FormFields
