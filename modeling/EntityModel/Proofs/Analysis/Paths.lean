import EntityModel.Proofs.Analysis.Places

/-!
# Paths into a field

The fields inside a field are numbered by paths, in a declaration and in what is resolved from it. A
path that leads to a field of the result leads to a field of the declaration, and both stand at the
same place (`ResolvedField.exists_at_of_at?`).
-/

namespace EntityModel

/-- A step into a field: to the element of an array, or to the part of an object with a number. -/
inductive FieldStep where
  | item
  | part (i : Nat)
  deriving DecidableEq, Repr

namespace Field

def child? (f : Field) : FieldStep → Option Field
  | .item => f.items
  | .part i => f.shape.bind (·[i]?)

def at? (f : Field) (path : List FieldStep) : Option Field := path.foldlM child? f

@[simp] lemma at?_nil (f : Field) : f.at? [] = some f := rfl

lemma at?_cons (f : Field) (step : FieldStep) (path : List FieldStep) :
    f.at? (step :: path) = (f.child? step).bind (·.at? path) := rfl

end Field

namespace ResolvedField

variable {f : Field} {out node : ResolvedField} {name : Value}

/-- The resolved field that a step leads to, if there is one. -/
def child? (out : ResolvedField) : FieldStep → Option ResolvedField
  | .item => out.items
  | .part i => out.shape.bind (·[i]?)

/-- The resolved field that a path leads to, if there is one. -/
def at? (out : ResolvedField) (path : List FieldStep) : Option ResolvedField :=
  path.foldlM child? out

@[simp] lemma at?_nil (out : ResolvedField) : out.at? [] = some out := rfl

lemma at?_cons (out : ResolvedField) (step : FieldStep) (path : List FieldStep) :
    out.at? (step :: path) = (out.child? step).bind (·.at? path) := rfl

/-- The same path leads to the same place in a declaration and in what is resolved from it. -/
theorem exists_at_of_at? {path : List FieldStep} (ok : ofKind f name (resolvedKind f) = .ok out)
    (isNode : out.at? path = some node) : ∃ g, f.at? path = some g ∧ At f out g node := by
  induction path generalizing f name out with
  | nil =>
    rw [at?_nil] at isNode
    obtain rfl := Option.some.inj isNode
    exact ⟨f, Field.at?_nil f, .here f out⟩
  | cons step path ih =>
    rw [at?_cons] at isNode
    obtain ⟨child, isChild, deeper⟩ := Option.bind_eq_some_iff.1 isNode
    cases step with
    | item =>
      obtain ⟨item, isItem, resolved⟩ := ofKind_item ok isChild
      obtain ⟨g, isField, place⟩ := ih resolved deeper
      have led : f.child? .item = some item := isItem
      refine ⟨g, ?_, .item isItem isChild place⟩
      rw [Field.at?_cons, led, Option.bind_some, isField]
    | part i =>
      obtain ⟨others, isShape', isOther⟩ := Option.bind_eq_some_iff.1 isChild
      obtain ⟨parts, isShape, resolved⟩ := ofKind_parts ok isShape'
      obtain ⟨part, isPart, own⟩ := exists_of_getElem? resolved isOther
      obtain ⟨g, isField, place⟩ := ih own deeper
      have led : f.child? (.part i) = some part := by
        rw [Field.child?, isShape, Option.bind_some, isPart]
      refine ⟨g, ?_, .part isShape isShape' isPart isOther place⟩
      rw [Field.at?_cons, led, Option.bind_some, isField]

end ResolvedField

end EntityModel
