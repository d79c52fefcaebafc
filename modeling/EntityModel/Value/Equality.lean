import EntityModel.Value.Basic

/-!
# Equality of values

Two values are equal when they have the same parts: numbers count by what they amount to, lists
item by item, and mappings key by key in whatever order.
-/

namespace EntityModel.Value

mutual

/-- Whether two values are equal. -/
def same : Value → Value → Bool
  | .scalar a, .scalar b => a.same b
  | .list xs, .list ys => sameItems xs ys
  | .map xs, .map ys => xs.length == ys.length && sameEntries xs ys
  | _, _ => false

/-- Whether two lists are equal item by item. -/
def sameItems : List Value → List Value → Bool
  | [], [] => true
  | x :: xs, y :: ys => same x y && sameItems xs ys
  | _, _ => false

/-- Whether each entry of the first mapping stands in the second. -/
def sameEntries : List (Scalar × Value) → List (Scalar × Value) → Bool
  | [], _ => true
  | (k, v) :: rest, ys =>
    (match Entries.find? k ys with
      | some w => same v w
      | none => false) && sameEntries rest ys

end

end EntityModel.Value
