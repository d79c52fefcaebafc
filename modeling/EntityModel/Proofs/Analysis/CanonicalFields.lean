import EntityModel.Proofs.Analysis.Conforming
import EntityModel.Proofs.Analysis.Slots

/-!
# Canonical fields

What the canonical text of a resolved field shows of it: everything, but for the order of the
entries in the mappings of its default.
-/

namespace EntityModel

/-! ### Kinds -/

lemma FieldKind.tag_inj {k l : FieldKind} : k.tag = l.tag ↔ k = l := by
  cases k <;> cases l <;> simp [FieldKind.tag]

/-! ### Forms -/

/-- The attributes with the mappings of the default sorted. -/
def ResolvedAttributes.canonical (a : ResolvedAttributes) : ResolvedAttributes :=
  { a with default := a.default.map Value.sorted }

namespace ResolvedField

mutual

/-- The field with the mappings of all defaults in it sorted. -/
def canonical : ResolvedField → ResolvedField
  | ⟨a, items, shape⟩ => {
    a.canonical with
    items := match items with
      | some item => some item.canonical
      | none => none
    shape := match shape with
      | some parts => some (canonicalAll parts)
      | none => none }
termination_by structural f => f

/-- The fields with the mappings of all defaults in them sorted. -/
def canonicalAll : List ResolvedField → List ResolvedField
  | [] => []
  | f :: rest => f.canonical :: canonicalAll rest
termination_by structural fs => fs

end

lemma canonical_mk (a : ResolvedAttributes) (items : Option ResolvedField)
    (shape : Option (List ResolvedField)) : canonical ⟨a, items, shape⟩ =
      ⟨a.canonical, items.map canonical, shape.map (·.map canonical)⟩ := by
  have all (fs : List ResolvedField) : canonicalAll fs = fs.map canonical := by
    induction fs with
    | nil => rfl
    | cons f rest ih => rw [canonicalAll, ih, List.map_cons]
  rw [canonical.eq_def]
  cases items <;> cases shape <;> simp [all]

/-- The slots of the document form of a field, given the forms of those inside it. -/
def slots (a : ResolvedAttributes) (items : Option Value) (shape : Option Value) :
    List (String × Option Value) :=
  [("name", some (.text a.name)), ("safe_name", some (.text a.safeName)),
    ("kind", some (.text a.kind.tag)), ("declared_type", some (.text a.declaredType)),
    ("python_type", some (.text a.codeType)), ("sql_type", some (.text a.columnType)),
    ("generator_hint", some (.text a.sampleHint)), ("nullable", some a.nullable),
    ("unique", some a.unique), ("readonly", some a.readonly), ("default", a.default),
    ("ref_target", a.refTarget.ifGiven), ("enum_values", a.enumValues.map .list), ("items", items),
    ("shape", shape), ("min", a.min.ifPresent), ("max", a.max.ifPresent),
    ("pattern", a.pattern.ifPresent), ("description", a.description.ifGiven)]

/-- A resolved field is written as a record of its filled slots. -/
lemma encode_mk {a : ResolvedAttributes} (own : a.Conforms) (items : Option ResolvedField)
    {shape : Option (List ResolvedField)} (nonempty : shape ≠ some []) :
    encode ⟨a, items, shape⟩ = .record (filled (slots a (items.map encode)
      (shape.map fun parts => .list (parts.map encode)))) := by
  have entry (key : String) (v : Value) :
      Field.entryIfGiven key v = optionalEntry key v.ifGiven := by simp [Field.entryIfGiven]
  have values : Field.entryIfGiven "enum_values" (.list (a.enumValues.getD [])) =
      optionalEntry "enum_values" (a.enumValues.map .list) := by
    cases given : a.enumValues with
    | none => rfl
    | some vs => simp [Field.entryIfGiven, (own.enumValues vs given).1]
  have constraints : ([("min", a.min), ("max", a.max), ("pattern", a.pattern)].filter
        fun e => !e.2.isNull) = optionalEntry "min" a.min.ifPresent ++
      optionalEntry "max" a.max.ifPresent ++ optionalEntry "pattern" a.pattern.ifPresent := by
    cases min : a.min.isNull <;> cases max : a.max.isNull <;>
      cases pattern : a.pattern.isNull <;> simp [min, max, pattern]
  rw [encode.eq_def]
  dsimp only
  rw [values, constraints, entry, entry]
  -- an object with parts has some, so that they are not left out
  rcases shape with _ | _ | ⟨part, rest⟩
  · cases given : a.default <;> cases items <;> simp [slots, given]
  · exact absurd rfl nonempty
  · cases given : a.default <;> cases items <;>
      simp [slots, given, Field.entryIfGiven, encodeAll_eq_map]

/-- Each slot of a resolved field is left out just where it counts as not given. -/
lemma slots_writes {a : ResolvedAttributes} (own : a.Conforms) {items shape : Option Value}
    (inItems : Value.Writes items) (inShape : Value.Writes shape) :
    ∀ slot ∈ slots a items shape, Value.Writes slot.2 := by
  have values : Value.Writes (a.enumValues.map .list) := Value.writes_map fun vs given =>
    Value.isJson_texts (own.enumValues vs given).2
  simp only [slots, List.forall_mem_cons, List.not_mem_nil, false_imp_iff, implies_true,
    Value.writes_text, true_and, and_true]
  exact ⟨own.nullable.isPlain.isJson.writes, own.unique.isPlain.isJson.writes,
    own.readonly.isPlain.isJson.writes, own.default,
    own.refTarget.isTextOrNull.isPlain.isJson.writes_ifGiven, values, inItems, inShape,
    own.min.isJson.writes_ifPresent, own.max.isJson.writes_ifPresent,
    own.pattern.isPlain.isJson.writes_ifPresent, own.description.isPlain.isJson.writes_ifGiven⟩

/-- The document form of a conforming field is a value of JSON. -/
theorem Conforms.isJson {f : ResolvedField} (h : f.Conforms) : f.encode.IsJson := by
  induction h with
  | @mk a items shape own inItems nonempty inShape ihItems ihShape =>
    rw [encode_mk own items nonempty]
    refine Value.isJson_record_filled (slots_writes own (Value.writes_map ihItems) ?_)
    refine Value.writes_map fun parts given => .list (List.forall_mem_map.2 ?_)
    exact ihShape parts given

/-- Conforming fields have the same sorted document form just if they have the same canonical
form. -/
theorem Conforms.sorted_encode_iff {f g : ResolvedField} (hf : f.Conforms) (hg : g.Conforms) :
    f.encode.sorted = g.encode.sorted ↔ f.canonical = g.canonical := by
  induction hf generalizing g with
  | @mk a items shape own inItems nonempty inShape ihItems ihShape =>
    cases hg with
    | @mk b items' shape' own' inItems' nonempty' inShape' =>
    have elements : (items.map encode).map Value.sorted = (items'.map encode).map Value.sorted ↔
        items.map canonical = items'.map canonical := by
      rw [Option.map_map, Option.map_map]
      exact option_map_eq_map_iff_of_forall fun item given item' given' =>
        ihItems item given (inItems' item' given')
    have parts : (shape.map fun parts => .list (parts.map encode)).map Value.sorted =
          (shape'.map fun parts => .list (parts.map encode)).map Value.sorted ↔
        shape.map (·.map canonical) = shape'.map (·.map canonical) := by
      rw [Option.map_map, Option.map_map]
      exact option_map_eq_map_iff_of_forall fun parts given parts' given' =>
        Value.sorted_list_map_eq_iff fun part mem part' mem' =>
          ihShape parts given part mem (inShape' parts' given' part' mem')
    have values : (a.enumValues.map Value.list).map Value.sorted =
        (b.enumValues.map Value.list).map Value.sorted ↔ a.enumValues = b.enumValues := by
      have same :=
        @option_map_eq_map_iff_of_forall _ _ _ (Value.sorted ∘ Value.list) id a.enumValues
        b.enumValues fun vs given ws given' =>
          Value.sorted_texts_eq_iff (own.enumValues vs given).2 (own'.enumValues ws given').2
      simpa using same
    rw [encode_mk own items nonempty, encode_mk own' items' nonempty',
      Value.sorted_record_filled_iff (by simp [slots]) (by simp [slots]),
      canonical_mk, canonical_mk]
    simp only [slots, List.map_cons, List.map_nil, List.cons.injEq, elements, parts, values,
      Option.map_some, Option.some.injEq, Value.sorted_scalar, Value.scalar.injEq,
      Scalar.text.injEq,
      FieldKind.tag_inj, own.nullable.isPlain.sorted_eq_iff own'.nullable.isPlain,
      own.unique.isPlain.sorted_eq_iff own'.unique.isPlain,
      own.readonly.isPlain.sorted_eq_iff own'.readonly.isPlain,
      own.refTarget.ifGiven_eq_iff own'.refTarget, own.min.ifPresent_eq_iff own'.min,
      own.max.ifPresent_eq_iff own'.max,
      own.pattern.isPlain.ifPresent_eq_iff own'.pattern.isPlain,
      own.description.ifGiven_eq_iff own'.description, ResolvedField.mk.injEq,
      ResolvedAttributes.canonical, ResolvedAttributes.mk.injEq]
    tauto

end ResolvedField

end EntityModel
