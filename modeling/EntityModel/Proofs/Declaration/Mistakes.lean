import EntityModel.Declaration.Document
import EntityModel.Proofs.Outcome

/-!
# Mistakes of a declaration

Whatever stands where a declaration is expected, reading it ends in a declaration or in a mistake of
its author: a value of the wrong kind, an entry that is missing, or a value that is refused.
-/

namespace EntityModel

open Outcome

/-- A value of the wrong kind, a missing entry, or a value that is refused. -/
def Fault.IsMistake : Fault → Prop
  | .wrongKind | .missingKey _ | .refused _ => True
  | _ => False

namespace Outcome

variable {α β : Type}

/-- The outcome is a result or a mistake. -/
abbrev OrMistake (x : Outcome α) : Prop := Within Fault.IsMistake x

namespace OrMistake

variable {x : Outcome α} {f : α → Outcome β}

lemma ok (a : α) : OrMistake (.ok a : Outcome α) := trivial

lemma bind (h : OrMistake x) (next : ∀ a, OrMistake (f a)) : OrMistake (x >>= f) :=
  Ensures.bind h fun a _ => next a

lemma map {g : α → β} (h : OrMistake x) : OrMistake (g <$> x) := Ensures.map h fun _ _ => trivial

lemma guard {c : Prop} [Decidable c] {refusal : Refusal} {next : Unit → Outcome β}
    (h : OrMistake (next ())) :
    OrMistake (if c then refuse refusal >>= next else next ()) := by
  split_ifs
  · trivial
  · exact h

/-- An operation with two ways to begin. -/
lemma ite {c : Prop} [Decidable c] {x y : Outcome α} (hx : c → OrMistake x)
    (hy : ¬ c → OrMistake y) (next : ∀ a, OrMistake (f a)) :
    OrMistake (if c then x >>= f else y >>= f) :=
  Ensures.ite_bind hx hy fun a _ => next a

lemma mapM {items : List α} (h : ∀ a, OrMistake (f a)) : OrMistake (items.mapM f) :=
  (Ensures.mapM (R := fun _ _ => True) fun a _ => h a).within

end OrMistake

end Outcome

/-! ### Values put to use -/

namespace Value

lemma asText_orMistake (v : Value) : OrMistake v.asText := by
  unfold asText
  split <;> trivial

lemma asScalar_orMistake (v : Value) : OrMistake v.asScalar := by
  unfold asScalar
  split <;> trivial

lemma asMap_orMistake (v : Value) : OrMistake v.asMap := by
  unfold asMap
  split <;> trivial

lemma elements_orMistake (v : Value) : OrMistake v.elements := by
  unfold elements
  split <;> trivial

lemma entry_orMistake (key : String) (v : Value) : OrMistake (v.entry key) := by
  unfold entry
  split
  · split <;> trivial
  · trivial

lemma entryOr_orMistake (key : String) (v default : Value) : OrMistake (v.entryOr key default) := by
  unfold entryOr
  split <;> trivial

lemma optional_orMistake (key : String) (v : Value) : OrMistake (v.optional key) :=
  entryOr_orMistake key v .null

/-- Two scalars are compared, or their comparison is a mistake of the author. -/
lemma scalarBefore_orMistake (a b : Scalar) : OrMistake (scalarBefore a b) := by
  unfold scalarBefore
  split
  · trivial
  · split <;> trivial
  · dsimp only
    split_ifs <;> trivial

mutual

/-- Two values are compared, or their comparison is a mistake of the author. -/
lemma before_orMistake : (v w : Value) → OrMistake (before v w)
  | .scalar a, .scalar b => by
    rw [before]
    exact scalarBefore_orMistake a b
  | .list xs, .list ys => by
    rw [before]
    exact itemsBefore_orMistake xs ys
  | .scalar _, .list _ | .scalar _, .map _ | .list _, .scalar _ | .list _, .map _
  | .map _, .scalar _ | .map _, .list _ | .map _, .map _ => by
    simp [before, wrongKind, Fault.IsMistake]

lemma itemsBefore_orMistake : (xs ys : List Value) → OrMistake (itemsBefore xs ys)
  | [], _ => by simp [itemsBefore, Ensures]
  | _ :: _, [] => by simp [itemsBefore, Ensures]
  | x :: xs, y :: ys => by
    rw [itemsBefore]
    split_ifs
    · exact itemsBefore_orMistake xs ys
    · exact before_orMistake x y

end

lemma sortedBy_orMistake {α : Type} (key : α → Scalar) (items : List α) :
    OrMistake (sortedBy key items) := by
  unfold sortedBy
  split
  · trivial
  · split_ifs <;> trivial

lemma asPair_orMistake (position : Nat) (v : Value) : OrMistake (v.asPair position) := by
  apply OrMistake.bind v.elements_orMistake
  intro parts
  split
  · exact .bind (asScalar_orMistake _) fun _ => .ok _
  · trivial

lemma asPairs_orMistake (position : Nat) (items : List Value) :
    OrMistake (asPairs position items) := by
  induction items generalizing position with
  | nil => trivial
  | cons v rest ih =>
    apply OrMistake.bind (asPair_orMistake position v)
    intro pair
    exact .bind (ih (position + 1)) fun _ => .ok _

lemma toEntries_orMistake (v : Value) : OrMistake v.toEntries := by
  unfold toEntries
  split
  · trivial
  · exact .bind (elements_orMistake _) fun _ => .bind (asPairs_orMistake _ _) fun _ => .ok _

end Value

/-! ### Fields -/

/-- Constraints are read, or the document has a mistake. -/
lemma Constraints.decode_orMistake (data : Value) : OrMistake (Constraints.decode data) := by
  unfold decode make
  refine .bind (data.optional_orMistake _) fun min => ?_
  refine .bind (data.optional_orMistake _) fun max => ?_
  refine .bind (data.optional_orMistake _) fun _ => .bind (data.optional_orMistake _) fun _ => ?_
  split_ifs
  · exact .bind (Value.before_orMistake max min) fun _ => by
      dsimp only
      split_ifs <;> trivial
  · trivial

namespace Field

attribute [local irreducible] FieldKind.lookup

lemma checked_orMistake (f : Field) : OrMistake f.checked := by
  unfold checked
  dsimp only
  refine .guard (.guard (.guard (.guard ?_)))
  refine .bind (.mapM fun _ => Value.asScalar_orMistake _) fun _ => ?_
  exact .guard (.ok _)

lemma decodeValues_orMistake (data : Value) : OrMistake (decodeValues data) := by
  refine .bind (data.optional_orMistake _) fun written => ?_
  split_ifs
  · exact .map written.elements_orMistake
  · trivial

lemma decodeConstraints_orMistake (data : Value) : OrMistake (decodeConstraints data) := by
  refine .bind (data.optional_orMistake _) fun own => ?_
  dsimp only
  split_ifs <;> first | exact .map (Constraints.decode_orMistake _) | trivial

/-- A field is assembled, or the document has a mistake. -/
lemma assemble_orMistake (name data : Value) (shape : Option (List Field))
    {items : Outcome (Option Field)} (inItems : OrMistake items) :
    OrMistake (assemble name data shape items) := by
  have slot (key : String) (default : Value) := data.entryOr_orMistake key default
  unfold assemble
  dsimp only
  refine .ite (fun _ => .ok _) (fun _ => data.entry_orMistake _) fun _ => ?_
  refine .bind (slot _ _) fun type => .bind (slot _ _) fun _ => .bind (slot _ _) fun _ => ?_
  refine .bind (slot _ _) fun _ => .bind (slot _ _) fun _ => ?_
  refine .bind (decodeValues_orMistake data) fun _ => .bind inItems fun _ => ?_
  refine .bind (decodeConstraints_orMistake data) fun _ => ?_
  refine .bind (slot _ _) fun _ => .bind (slot _ _) fun _ => .guard ?_
  exact .bind type.asText_orMistake fun _ => checked_orMistake _

-- by recursion on the document, which is that of the reading itself
mutual

/-- Reading a field ends in a field or in a mistake. -/
theorem decode_orMistake (name : Value) : (data : Value) → OrMistake (decode name data)
  | .map entries => by
    rw [decode]
    refine .bind (decodeShape_orMistake entries) fun shape => ?_
    exact assemble_orMistake name _ shape (decodeItems_orMistake entries)
  | .scalar _ | .list _ => trivial
termination_by structural data => data

/-- The elements of an array are read, or the document has a mistake. -/
theorem decodeItems_orMistake : (entries : List (Scalar × Value)) →
    OrMistake (decodeItems entries)
  | [] => trivial
  | (key, v) :: rest => by
    have inside := decode_orMistake (.text "item") v
    have others := decodeItems_orMistake rest
    rw [decodeItems]
    split_ifs
    · exact .map inside
    · trivial
    · exact others
termination_by structural entries => entries

/-- The parts of an object are read, or the document has a mistake. -/
theorem decodeShape_orMistake : (entries : List (Scalar × Value)) →
    OrMistake (decodeShape entries)
  | [] => trivial
  | (key, v) :: rest => by
    have others := decodeShape_orMistake rest
    rw [decodeShape.eq_def]
    dsimp only
    split_ifs
    · cases v with
      | map parts => exact .map (decodeNamed_orMistake parts)
      | list parts =>
        cases parts with
        | nil => trivial
        | cons part parts =>
          refine .bind (decode_orMistake .null part) fun _ => ?_
          exact .bind (decodeAll_orMistake parts) fun _ => .ok _
      | scalar s =>
        dsimp only
        split_ifs <;> trivial
    · exact others
termination_by structural entries => entries

/-- The fields of a list are read, or the document has a mistake. -/
theorem decodeAll_orMistake : (items : List Value) → OrMistake (decodeAll items)
  | [] => trivial
  | v :: rest => by
    rw [decodeAll]
    refine .bind (decode_orMistake .null v) fun _ => ?_
    exact .bind (decodeAll_orMistake rest) fun _ => .ok _
termination_by structural items => items

/-- The fields under names are read, or the document has a mistake. -/
theorem decodeNamed_orMistake : (entries : List (Scalar × Value)) →
    OrMistake (decodeNamed entries)
  | [] => trivial
  | (key, v) :: rest => by
    rw [decodeNamed]
    refine .bind (decode_orMistake (.scalar key) v) fun _ => ?_
    exact .bind (decodeNamed_orMistake rest) fun _ => .ok _
termination_by structural entries => entries

end

end Field

/-! ### Relations, indexes and computed properties -/

namespace Relation

/-- The directions of an order are accepted, or one of them is a mistake. -/
lemma checkDirections_orMistake (keys : List (Scalar × Value)) :
    OrMistake (SortOrder.checkDirections keys) := by
  induction keys with
  | nil => trivial
  | cons entry rest ih =>
    obtain ⟨column, direction⟩ := entry
    apply OrMistake.bind direction.asText_orMistake
    intro written
    dsimp only
    split_ifs
    · exact ih
    · trivial

/-- A relation passes its checks, or the document has a mistake. -/
lemma checked_orMistake (r : Relation) : OrMistake r.checked := by
  have limit : OrMistake (do
      if !r.limit.isNull then
        if ← Value.before r.limit (.int 0) then refuse (.negativeLimit r.limit)
      return r) := by
    dsimp only
    split_ifs
    · exact .bind (Value.before_orMistake _ _) fun _ => by split_ifs <;> trivial
    · trivial
  unfold checked
  dsimp only at limit ⊢
  refine .guard (.guard ?_)
  split
  · exact .bind (checkDirections_orMistake _) fun _ => limit
  · exact limit

lemma decode_orMistake (name data : Value) : OrMistake (decode name data) := by
  have kind : OrMistake (decodeKind data) := by
    refine .bind (data.optional_orMistake _) fun kind => ?_
    dsimp only
    refine .ite (fun _ => .ok _) (fun _ => data.entry_orMistake _) fun written => ?_
    refine .bind written.asText_orMistake fun word => ?_
    unfold RelationKind.parse
    split <;> trivial
  have order (written : Value) : OrMistake (decodeOrder written) := by
    unfold decodeOrder
    split_ifs
    · exact .bind written.asMap_orMistake fun _ => .ok _
    · trivial
  unfold decode
  refine .bind (data.optional_orMistake _) fun written => ?_
  dsimp only
  refine .ite (fun _ => .ok _) (fun _ => data.entry_orMistake _) fun _ => ?_
  refine .bind kind fun _ => .bind (data.entry_orMistake _) fun _ => ?_
  refine .bind (data.optional_orMistake _) fun _ => .bind (data.entryOr_orMistake _ _) fun _ => ?_
  refine .bind (order written) fun _ => .bind (data.optional_orMistake _) fun _ => ?_
  refine .bind (data.optional_orMistake _) fun _ => .bind (data.optional_orMistake _) fun _ => ?_
  exact checked_orMistake _

end Relation

/-- An index is read, or the document has a mistake. -/
lemma Index.decode_orMistake (data : Value) : OrMistake (Index.decode data) := by
  have member (written : Value) : OrMistake (IndexMethod.member written) := by
    unfold IndexMethod.member
    split <;> trivial
  refine .bind (data.entry_orMistake _) fun fields => .bind fields.elements_orMistake fun _ => ?_
  refine .bind (data.optional_orMistake _) fun _ =>
    .bind (data.entryOr_orMistake _ _) fun method => ?_
  refine .bind (member method) fun _ => .bind (data.optional_orMistake _) fun _ => ?_
  refine .bind (data.entryOr_orMistake _ _) fun _ => .bind (data.optional_orMistake _) fun _ => ?_
  refine .bind (data.entryOr_orMistake _ _) fun _ => ?_
  unfold checked
  split_ifs <;> trivial

/-- A computed field is read, or the document has a mistake. -/
lemma Computed.decode_orMistake (data : Value) : OrMistake (Computed.decode data) := by
  unfold decode
  split
  · trivial
  · refine .bind (Value.entry_orMistake _ _) fun _ =>
      .bind (Value.optional_orMistake _ _) fun _ => ?_
    exact .bind (Value.entryOr_orMistake _ _ _) fun _ => .ok _

/-! ### Procedures and policies -/

lemma Argument.decode_orMistake (data : Value) : OrMistake (Argument.decode data) := by
  refine .bind (data.entry_orMistake _) fun _ => .bind (data.entry_orMistake _) fun _ => ?_
  exact .bind (data.optional_orMistake _) fun _ => .ok _

namespace Procedure

lemma make_orMistake (name returns : Value) (args : List Argument)
    (sql language volatility security description : Value) :
    OrMistake (make name returns args sql language volatility security description) := by
  unfold make
  refine .guard (.guard (.bind returns.asText_orMistake fun _ => .guard ?_))
  split
  · split <;> trivial
  · trivial

lemma decode_orMistake (name data : Value) : OrMistake (decode name data) := by
  have entry (e : Scalar × Value) : OrMistake (Argument.decodeEntry e) := by
    unfold Argument.decodeEntry
    split
    · exact Argument.decode_orMistake _
    · trivial
  have args : OrMistake (decodeArgs data) := by
    refine .bind (data.optional_orMistake _) fun written => ?_
    split
    · exact .mapM entry
    · exact .bind (Value.elements_orMistake _) fun _ => .mapM Argument.decode_orMistake
  unfold decode
  refine .bind args fun _ => ?_
  dsimp only
  refine .ite (fun _ => .ok _) (fun _ => data.entry_orMistake _) fun _ => ?_
  have slot (key : String) (default : Value) := data.entryOr_orMistake key default
  refine .bind (data.entry_orMistake _) fun _ => .bind (slot _ _) fun _ =>
    .bind (slot _ _) fun _ => ?_
  refine .bind (slot _ _) fun _ => .bind (slot _ _) fun _ => .bind (slot _ _) fun _ => ?_
  exact make_orMistake _ _ _ _ _ _ _ _

end Procedure

namespace Policy

lemma readFragments_orMistake (sql : Value) : OrMistake (readFragments sql) := by
  refine .bind sql.elements_orMistake fun _ => .bind (.mapM Value.asScalar_orMistake) fun _ => ?_
  dsimp only
  split_ifs
  · exact sql.toEntries_orMistake
  · exact .bind (Value.sortedBy_orMistake _ _) fun _ => trivial

lemma decode_orMistake (data : Value) : OrMistake (decode data) := by
  have scope (v : Value) : OrMistake (Scope.decode v) :=
    .bind (v.entry_orMistake _) fun _ => .bind (v.entry_orMistake _) fun _ => .ok _
  have bypass (v : Value) : OrMistake (Bypass.decode v) :=
    .bind (v.entry_orMistake _) fun _ => .bind (v.entryOr_orMistake _ _) fun values =>
      .bind values.elements_orMistake fun _ => .ok _
  have written (key : String) : OrMistake (Predicate.written <$> data.optional key) :=
    .map (data.optional_orMistake _)
  refine .bind (data.entryOr_orMistake _ _) fun rules => .bind rules.elements_orMistake fun _ => ?_
  refine .bind (.mapM scope) fun _ => .bind (data.entryOr_orMistake _ _) fun conditions => ?_
  refine .bind conditions.elements_orMistake fun _ => .bind (.mapM bypass) fun _ => ?_
  dsimp only
  refine .bind (written _) fun _ => .bind (written _) fun _ => .bind (written _) fun _ => ?_
  refine .bind (written _) fun _ => .bind (data.optional_orMistake _) fun _ => ?_
  exact .bind (readFragments_orMistake _) fun _ => .ok _

end Policy

/-! ### Entities -/

namespace Entity

variable {α : Type}

/-- The names of parts are distinct, or the document has a mistake. -/
lemma checkNames_orMistake (part : NamedPart) (entity : Value) (seen : List Scalar)
    (names : List Value) : OrMistake (checkNames part entity seen names) := by
  induction names generalizing seen with
  | nil => trivial
  | cons name rest ih =>
    apply OrMistake.bind name.asScalar_orMistake
    intro key
    split_ifs
    · trivial
    · exact ih _

lemma checked_orMistake (e : Entity) : OrMistake e.checked := by
  unfold checked
  dsimp only
  refine .guard (.bind (checkNames_orMistake _ _ _ _) fun _ => ?_)
  refine .bind (checkNames_orMistake _ _ _ _) fun _ => ?_
  exact .bind (checkNames_orMistake _ _ _ _) fun _ => .ok _

lemma decodeNamed_orMistake {decode : Value → Value → Outcome α}
    (h : ∀ name data, OrMistake (decode name data)) (key shorthand : String) (data : Value) :
    OrMistake (decodeNamed key shorthand decode data) := by
  refine .bind (data.optional_orMistake _) fun written => ?_
  dsimp only
  split
  · exact .mapM fun _ => h _ _
  · exact .bind (Value.elements_orMistake _) fun _ => .mapM (h .null)

lemma decodeListed_orMistake {decode : Value → Outcome α} (h : ∀ data, OrMistake (decode data))
    (key : String) (data : Value) : OrMistake (decodeListed key decode data) :=
  .bind (data.entryOr_orMistake _ _) fun items => .bind items.elements_orMistake fun _ => .mapM h

/-- Reading an entity ends in an entity or in a mistake. -/
theorem decode_orMistake (data : Value) : OrMistake (decode data) := by
  have slot (key : String) (default : Value) := data.entryOr_orMistake key default
  refine .bind (data.entry_orMistake _) fun _ => ?_
  refine .bind (decodeNamed_orMistake Field.decode_orMistake _ _ _) fun _ => ?_
  refine .bind (decodeNamed_orMistake Relation.decode_orMistake _ _ _) fun _ => ?_
  refine .bind (decodeListed_orMistake Computed.decode_orMistake _ _) fun _ => ?_
  refine .bind (slot _ _) fun written => ?_
  dsimp only
  refine .ite (fun _ => .map (Policy.decode_orMistake _)) (fun _ => .ok _) fun _ => ?_
  refine .bind (decodeListed_orMistake Index.decode_orMistake _ _) fun _ => ?_
  refine .bind (decodeNamed_orMistake Procedure.decode_orMistake _ _ _) fun _ => ?_
  refine .bind (slot _ _) fun _ => .bind (slot _ _) fun tags => ?_
  refine .bind tags.elements_orMistake fun _ => ?_
  refine .bind (slot _ _) fun _ => .bind (slot _ _) fun _ => .bind (slot _ _) fun _ => ?_
  refine .bind (slot _ _) fun _ => .guard (.bind (Value.toEntries_orMistake _) fun _ => ?_)
  exact checked_orMistake _

end Entity

end EntityModel
