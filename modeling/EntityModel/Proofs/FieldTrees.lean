import EntityModel.Proofs.AcceptedDocuments
import EntityModel.Proofs.Analysis.CodeTypes
import EntityModel.Proofs.Analysis.Paths
import EntityModel.Proofs.Declaration.Portable
import Mathlib.Data.Set.List

/-!
# Trees of resolved fields

What is resolved from a field is a tree of the shape of its declaration. Each field of the tree
stands where one is declared and has what its kind needs: an enumeration its values, a reference its
target, an array its elements, an object its parts in order. Fields of other kinds have none of
these, whatever is declared with them (`ResolvedField.ofField_wellFormed`).
-/

namespace EntityModel

open Outcome

variable {bound : Value → Prop}

/-! ### Declarations -/

/-- Values that are texts are a list of texts. -/
lemma Value.exists_eq_map_text {values : List Value} (texts : ∀ v ∈ values, v.IsText) :
    ∃ vs : List String, values = vs.map .text := by
  have inRange : values ∈ Set.range (List.map Value.text) := by
    rw [Set.range_list_map]
    intro v mem
    obtain ⟨s, rfl⟩ := texts v mem
    exact ⟨s, rfl⟩
  obtain ⟨vs, same⟩ := inRange
  exact ⟨vs, same.symm⟩

/-- The references in a field that is built have targets. -/
lemma Field.Built.allReferenced {f : Field} (built : f.Built) : f.AllReferenced := by
  induction built with
  | mk own bounds inItems inShape ihItems ihShape =>
    exact .mk ((checked_eq_ok_iff _).1 own).targeted ihItems ihShape

namespace ResolvedField

variable {f g : Field} {out node : ResolvedField} {name : Value}

/-! ### Kinds -/

/-- The field is an enumeration of texts: its type lists them and no others, and its column has room
for the longest of them. -/
structure Enumerates (node : ResolvedField) (vs : List String) : Prop where
  nonempty : vs ≠ []
  values : node.enumValues = some (vs.map .text)
  listed : ∀ ws : List String, node.codeType = ColumnType.literal (ws.map .text) ↔ ws = vs
  sized : ∃ longest, IsGreatest {n | ∃ v ∈ vs, v.length = n} longest ∧
    node.columnType = "VARCHAR(" ++ toString (longest + ColumnType.headroom) ++ ")"

/-- What is resolved where a field is declared is of the kind that the tag names, and a string if it
names none. It has what its kind needs, and nothing that only another kind needs. Its type is made
of its values or of its element where it is an enumeration or an array, and never what the table
gives to these kinds. -/
structure WellFormed (g : Field) (node : ResolvedField) : Prop where
  tag : node.declaredType = g.type
  known : ∀ kind, FieldKind.lookup g.type = some kind → node.kind = kind
  unknown : FieldKind.lookup g.type = none → node.kind = .string
  enumeration : node.kind = .enumeration →
    ∃ vs : List String, g.values = some (vs.map .text) ∧ node.Enumerates vs
  reference : node.kind = .reference → node.refTarget.IsName ∧ node.refTarget = g.target
  array : node.kind = .array → ∃ element, node.items = some element ∧ element.name = "item" ∧
    node.codeType = "list[" ++ element.codeType ++ "]"
  object : node.kind = .object → node.shape.map (·.map fun part => Value.text part.name) =
    (g.shape.filter (!·.isEmpty)).map (·.map (·.name))
  noValues : node.kind ≠ .enumeration → node.enumValues = none
  noTarget : node.kind ≠ .reference → node.refTarget = .null
  noItems : node.kind ≠ .array → node.items = none
  noShape : node.kind ≠ .object → node.shape = none
  tabled : node.kind ≠ .enumeration → node.kind ≠ .array → node.codeType = node.kind.codeType
  valued : node.kind = .enumeration → node.codeType ≠ FieldKind.enumeration.codeType
  itemed : node.codeType ≠ FieldKind.array.codeType

/-- The type of an enumeration is none of those in the table. -/
lemma Enumerates.codeType_ne {vs : List String} (enumerates : node.Enumerates vs)
    (kind : FieldKind) :
    node.codeType ≠ kind.codeType := by
  rw [(enumerates.listed vs).2 rfl]
  exact ColumnType.literal_ne_codeType _ kind

lemma kind_eq_resolvedKind (ok : ofKind g name (resolvedKind g) = .ok node) :
    node.kind = resolvedKind g :=
  ((ofKind_keeps g name _).of_eq_ok ok).kind

/-- An enumeration that is built has values, and they are its type. -/
lemma exists_enumerates (ok : ofKind g name (resolvedKind g) = .ok node) (built : g.Built)
    (typed : g.WellTyped bound) (is : node.kind = .enumeration) :
    ∃ vs : List String, g.values = some (vs.map .text) ∧ node.Enumerates vs := by
  have keeps := (ofKind_keeps g name _).of_eq_ok ok
  have made := ofKind_texts ok
  have isKind : resolvedKind g = .enumeration := keeps.kind.symm.trans is
  have given := built.sound.valued (kind_of_resolvedKind (by simp) isKind)
  cases declared : g.values with
  | none => simp [declared] at given
  | some values =>
    obtain ⟨vs, rfl⟩ := Value.exists_eq_map_text (typed.attributes.values values declared)
    have nonempty : vs ≠ [] := by simpa [declared] using given
    have kept : node.enumValues = some (vs.map .text) := by
      rw [keeps.enumValues, if_pos isKind, declared]
    have code : node.codeType = ColumnType.literal (vs.map .text) := by
      rw [made.code, kept, isKind]
      exact codeTypeOf_enumeration (by simpa using nonempty)
    obtain ⟨longest, greatest, column⟩ :=
      ColumnType.ofField_enumeration (g.constraints.getD {}).max nonempty
    have sized := made.column
    rw [isKind, if_pos rfl, declared, Option.getD_some, column] at sized
    refine ⟨vs, rfl, nonempty, kept, fun ws => ?_, longest, greatest, (Except.ok.inj sized).symm⟩
    rw [code, ColumnType.literal_inj, eq_comm]

/-- An array that is built has an element under the name "item", and it is a list of what the
element is. -/
lemma exists_element (ok : ofKind g name (resolvedKind g) = .ok node) (built : g.Built)
    (is : node.kind = .array) :
    ∃ element, node.items = some element ∧ element.name = "item" ∧ element.codeType ≠ "Any" ∧
      node.codeType = "list[" ++ element.codeType ++ "]" := by
  have isKind : resolvedKind g = .array := (kind_eq_resolvedKind ok).symm.trans is
  have given := built.sound.itemed (kind_of_resolvedKind (by simp) isKind)
  have made := ofKind_texts ok
  rw [isKind] at ok made
  obtain ⟨item, isItem⟩ := Option.ne_none_iff_exists'.1 given
  obtain ⟨element, isElement, resolved⟩ := ofKind_array ok isItem
  have named := ((ofKind_keeps item _ _).of_eq_ok resolved).name
  refine ⟨element, isElement, ?_, ?_, ?_⟩
  · simpa using named.symm
  · rw [(ofKind_texts resolved).code]
    exact codeTypeOf_ne_any
  · rw [made.code, isElement, codeTypeOf_array]

/-- The type of a field of another kind is that in the table. -/
lemma codeType_eq_tabled (ok : ofKind g name (resolvedKind g) = .ok node)
    (enumeration : node.kind ≠ .enumeration)
    (array : node.kind ≠ .array) : node.codeType = node.kind.codeType := by
  have isKind := kind_eq_resolvedKind ok
  rw [(ofKind_texts ok).code, ← isKind]
  exact codeTypeOf_plain enumeration array

/-- What the table gives to arrays is not the type of a field that is built, be it an array or
not. -/
lemma codeType_ne_array (ok : ofKind g name (resolvedKind g) = .ok node) (built : g.Built)
    (typed : g.WellTyped bound) : node.codeType ≠ FieldKind.array.codeType := by
  by_cases enumeration : node.kind = .enumeration
  · obtain ⟨vs, -, enumerates⟩ := exists_enumerates ok built typed enumeration
    exact enumerates.codeType_ne _
  by_cases array : node.kind = .array
  · obtain ⟨element, -, -, other, listed⟩ := exists_element ok built array
    intro same
    have inner : "list[" ++ element.codeType ++ "]" = "list[" ++ "Any" ++ "]" :=
      listed.symm.trans same
    exact other ((String.append_right_inj _).1 ((String.append_left_inj _).1 inner))
  · rw [codeType_eq_tabled ok enumeration array]
    cases kind : node.kind with
    | array => exact absurd kind array
    | _ => decide

/-- An object has its parts in order, under their own names. -/
lemma shape_names (ok : ofKind g name (resolvedKind g) = .ok node) (is : node.kind = .object) :
    node.shape.map (·.map fun part => Value.text part.name) =
      (g.shape.filter (!·.isEmpty)).map (·.map (·.name)) := by
  have isKind : resolvedKind g = .object := (kind_eq_resolvedKind ok).symm.trans is
  rw [isKind] at ok
  have inside := (ofKind_inside ok).2
  rw [if_pos rfl] at inside
  rcases declared : g.shape with _ | _ | ⟨part, rest⟩
  · rw [declared] at inside
    rw [← Except.ok.inj inside]
    rfl
  · rw [declared] at inside
    rw [← Except.ok.inj inside]
    rfl
  · obtain ⟨others, isShape, resolved⟩ := ofKind_object ok declared (List.cons_ne_nil _ _)
    have names : others.map (fun part => Value.text part.name) = (part :: rest).map (·.name) :=
      map_eq_map resolved fun part other own => ((ofKind_keeps part _ _).of_eq_ok own).name.symm
    rw [isShape, Option.map_some, names]
    rfl

/-- What is resolved from a field that is built is well-formed. -/
theorem wellFormed_of_ofKind (ok : ofKind g name (resolvedKind g) = .ok node) (built : g.Built)
    (typed : g.WellTyped bound) : WellFormed g node := by
  have keeps := (ofKind_keeps g name _).of_eq_ok ok
  have inside := ofKind_inside ok
  have isKind := keeps.kind
  rw [← isKind] at keeps inside
  constructor
  case tag => exact keeps.declaredType
  case known =>
    intro kind isTag
    have isNamed : g.kind = some kind := isTag
    rw [isKind, resolvedKind, isNamed, Option.getD_some]
  case unknown =>
    intro isTag
    have isNamed : g.kind = none := isTag
    rw [isKind, resolvedKind, isNamed, Option.getD_none]
  case enumeration => exact exists_enumerates ok built typed
  case reference =>
    intro is
    have given := built.sound.targeted (kind_of_resolvedKind (by simp) (isKind.symm.trans is))
    have kept : node.refTarget = g.target := keeps.refTarget.trans (if_pos is)
    exact ⟨kept ▸ typed.attributes.target.isName given, kept⟩
  case array =>
    intro is
    obtain ⟨element, isElement, named, -, listed⟩ := exists_element ok built is
    exact ⟨element, isElement, named, listed⟩
  case object => exact shape_names ok
  case noValues => exact fun other => keeps.enumValues.trans (if_neg other)
  case noTarget => exact fun other => keeps.refTarget.trans (if_neg other)
  case noItems =>
    intro other
    have none := inside.1
    rw [if_neg other] at none
    exact (Except.ok.inj none).symm
  case noShape =>
    intro other
    have none := inside.2
    rw [if_neg other] at none
    exact (Except.ok.inj none).symm
  case tabled => exact codeType_eq_tabled ok
  case valued =>
    intro is
    obtain ⟨vs, -, enumerates⟩ := exists_enumerates ok built typed is
    exact enumerates.codeType_ne _
  case itemed => exact codeType_ne_array ok built typed

/-! ### Trees -/

/-- A field that is built and of its declared types is resolved under every name, unless a bound is
a number that cannot be read; if all bounds are finite numbers there is a result. Every path that
leads to a field of the result leads to a field of the declaration, and what stands there is what is
resolved from that field, and well-formed. -/
theorem ofField_wellFormed (built : f.Built)
    (typed : f.Everywhere (FieldAttributes.Typed Value.IsNumber))
    (isText : name.IsText) :
    Ensures Value.NumberFault
        (fun out => name = .text out.name ∧ ∀ path node, out.at? path = some node →
          ∃ g, f.at? path = some g ∧ ofField (.text node.name) g = .ok node ∧ WellFormed g node)
        (ofField name f) ∧
      (f.Everywhere (FieldAttributes.Typed Value.IsFinite) → ∃ out, ofField name f = .ok out) := by
  have wellTyped := Field.wellTyped_of_typed typed built.allReferenced
  constructor
  · have resolves := ofKind_ensures (fun _ => Value.IsNumber.readable) wellTyped isText rfl
    cases ok : ofField name f with
    | error fault => exact resolves.of_eq_error ok
    | ok out =>
      refine ⟨(resolves.of_eq_ok ok).name, fun path node isNode => ?_⟩
      obtain ⟨g, isField, place⟩ := exists_at_of_at? ok isNode
      have own := place.ofKind_eq ok
      exact ⟨g, isField, own, wellFormed_of_ofKind own (place.built built)
        (place.wellTyped wellTyped)⟩
  · intro finite
    have wellTyped := Field.wellTyped_of_typed finite built.allReferenced
    have readable (v : Value) (isFinite : v.IsFinite) : v.Readable never := isFinite.readable
    obtain ⟨out, ok, -⟩ := (ofKind_ensures readable wellTyped isText rfl).exists_ok
    exact ⟨out, ok⟩

def label : Field where
  name := "label"
  type := "ENUM"
  values := some ["fragile", "it's live"]

/-- A parcel whose parts are declared by aliases, and one of them by a tag that names no kind, with
a target, values and elements that it has no use for. -/
def parcel : Field where
  name := "parcel"
  type := "json"
  shape := some [
    { name := "labels", type := " List ", items := some label },
    { name := "sender", type := "Reference", target := "customer" },
    { name := "weight", type := "grams", target := "unit", values := some ["g"],
      items := some label }]

/-- The constructor accepts the parcel. -/
lemma parcel_built : parcel.Built := by
  have label : label.Built := .mk rfl nofun nofun nofun
  refine .mk rfl nofun nofun ?_
  rintro _ ⟨⟩
  simp only [List.forall_mem_cons, List.not_mem_nil, false_imp_iff, implies_true, and_true]
  refine ⟨.mk rfl nofun ?_ nofun, .mk rfl nofun nofun nofun, .mk rfl nofun ?_ nofun⟩
  · rintro _ ⟨⟩
    exact label
  · rintro _ ⟨⟩
    exact label

/-- All slots of the parcel have their types. -/
lemma parcel_typed : parcel.Everywhere (FieldAttributes.Typed bound) := by
  have texts (vs : List String) :
      ∀ values, some (vs.map Value.text) = some values → ∀ v ∈ values, v.IsText := by
    rintro _ ⟨⟩ v mem
    obtain ⟨s, -, rfl⟩ := List.mem_map.1 mem
    exact Value.isText_text s
  have label : label.Everywhere (FieldAttributes.Typed bound) :=
    .mk ⟨Value.isText_text _, .inl rfl, texts ["fragile", "it's live"], .inl rfl, .inl rfl,
      .inl rfl⟩ nofun nofun
  refine .mk ⟨Value.isText_text _, .inl rfl, nofun, .inl rfl, .inl rfl, .inl rfl⟩ nofun ?_
  rintro _ ⟨⟩
  simp only [List.forall_mem_cons, List.not_mem_nil, false_imp_iff, implies_true, and_true]
  refine ⟨.mk ⟨Value.isText_text _, .inl rfl, nofun, .inl rfl, .inl rfl, .inl rfl⟩ ?_ nofun,
    .mk ⟨Value.isText_text _, .inr (Value.isText_text _), nofun, .inl rfl, .inl rfl,
      .inl rfl⟩ nofun nofun,
    .mk ⟨Value.isText_text _, .inr (Value.isText_text _), texts ["g"], .inl rfl, .inl rfl,
      .inl rfl⟩ ?_ nofun⟩
  · rintro _ ⟨⟩
    exact label
  · rintro _ ⟨⟩
    exact label

/-- The label of a parcel is listed in its type, and all fields of the parcel are well-formed. -/
theorem ofField_wellFormed_parcel :
    parcel.Built ∧ parcel.Everywhere (FieldAttributes.Typed Value.IsNumber) ∧
    ∃ out node, ofField (.text "box") parcel = .ok out ∧ out.at? [.part 0, .item] = some node ∧
      node.codeType = "Literal['fragile', \"it's live\"]" ∧
        ∀ path node, out.at? path = some node → ∃ g, parcel.at? path = some g ∧
        WellFormed g node := by
  obtain ⟨tree, -⟩ := ofField_wellFormed parcel_built parcel_typed (Value.isText_text "box")
  obtain ⟨out, node, ok, isNode, listed⟩ : ∃ out node, ofField (.text "box") parcel = .ok out ∧
      out.at? [.part 0, .item] = some node ∧ node.codeType = "Literal['fragile', \"it's live\"]" :=
    ⟨_, _, rfl, rfl, by decide +kernel⟩
  refine ⟨parcel_built, parcel_typed, out, node, ok, isNode, listed, fun path other isOther => ?_⟩
  obtain ⟨g, isField, -, wellFormed⟩ := (tree.of_eq_ok ok).2 path other isOther
  exact ⟨g, isField, wellFormed⟩

end ResolvedField

end EntityModel
