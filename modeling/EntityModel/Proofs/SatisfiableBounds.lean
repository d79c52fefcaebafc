import EntityModel.Proofs.Analysis.CodeTypes
import EntityModel.Proofs.Analysis.SampleRanges
import EntityModel.Proofs.Json.Scalars

/-!
# Bounds that can be met

The column of a bounded string and the ranges that sample data is drawn from come from the declared
bounds of a field. They can be met just if the greatest length of a string leaves room for a
character, and a bound that is declared alone is in order with the number that stands in for the
other one (`ResolvedField.exists_satisfiable_iff`).
-/

namespace EntityModel

open Outcome

/-! ### Columns -/

/-- A column of texts of bounded length has room for a character. -/
def HasRoom (column : String) : Prop := ∀ n : Int, column = "VARCHAR(" ++ toString n ++ ")" → 1 ≤ n

/-- A bounded text has room for something just where its bound is positive. -/
lemma hasRoom_varchar_iff {n : Int} : HasRoom ("VARCHAR(" ++ toString n ++ ")") ↔ 1 ≤ n := by
  constructor
  · exact fun room => room n rfl
  · intro positive m same
    have digits : toString n = toString m :=
      (String.append_right_inj _).1 ((String.append_left_inj _).1 same)
    exact Json.toString_int_injective digits ▸ positive

/-- A column type that does not begin like a bounded text has room, whatever it is. -/
lemma hasRoom_of_head {column : String} (other : column.toList.head? ≠ some 'V') :
    HasRoom column := by
  rintro n rfl
  simp at other

lemma hasRoom_columnType (kind : FieldKind) : HasRoom kind.columnType := by
  have bounded (n : Int) (positive : 1 ≤ n) := hasRoom_varchar_iff.2 positive
  cases kind with
  | string | email => exact bounded 255 (by decide)
  | enumeration => exact bounded 50 (by decide)
  | _ => exact hasRoom_of_head (by decide)

namespace ColumnType

/-- The column of a field has room unless it is a string of a greatest length below one. -/
lemma hasRoom_ofField_iff {kind : FieldKind} {max : Value} {values : List Value} {column : String}
    (finite : max = .null ∨ max.IsFinite) (ok : ofField kind max values = .ok column) :
    HasRoom column ↔ (kind = .string → max.isGiven = true → 1 ≤ max.amount) := by
  unfold ofField at ok
  split_ifs at ok with bounded sized
  · obtain ⟨rfl, given⟩ : kind = .string ∧ max.isGiven = true := by simpa using bounded
    have isFinite : max.IsFinite := finite.resolve_left fun null => by
      simp [null, Value.isGiven, Scalar.isGiven] at given
    obtain ⟨n, whole, positive⟩ := Value.exists_asWhole isFinite
    rw [whole] at ok
    obtain rfl := Except.ok.inj ok
    exact hasRoom_varchar_iff.trans (positive.trans ⟨fun h _ _ => h, fun h => h rfl given⟩)
  · obtain ⟨rfl, -⟩ : kind = .enumeration ∧ (!values.isEmpty) = true := by simpa using sized
    obtain ⟨lengths, -, ok⟩ := bind_eq_ok_iff.1 ok
    obtain rfl := Except.ok.inj ok
    refine iff_of_true (hasRoom_varchar_iff (n := (lengths.foldl Nat.max 0 + headroom : Nat)).2 ?_)
      (by simp)
    have room : 1 ≤ headroom := by decide
    omega
  · obtain rfl := Except.ok.inj ok
    refine iff_of_true (hasRoom_columnType kind) fun isString given => ?_
    simp [isString, given] at bounded

end ColumnType

/-! ### Bounds of a field -/

/-- Bounds that are in order amount to rationals in order. -/
lemma Constraints.Ordered.amount_le {c : Constraints} (ordered : c.Ordered) (low : c.min.IsFinite)
    (high : c.max.IsFinite) (isLow : c.min.isNull = false) (isHigh : c.max.isNull = false) :
    c.min.amount ≤ c.max.amount := by
  refine not_lt.1 fun crossed => ?_
  unfold Constraints.Ordered Constraints.make at ordered
  rw [isLow, isHigh, Value.before_eq high low, decide_eq_true crossed] at ordered
  cases ordered

namespace Field

open SampleHint

variable {f : Field} {name : Value} {kind : FieldKind}

/-- The bounds of a field leave room in its column, and one that is declared alone fits what it
draws from. -/
structure BoundsFit (f : Field) (name : Value) (kind : FieldKind) : Prop where
  room : kind = .string → (f.constraints.getD {}).max.isGiven = true →
    1 ≤ (f.constraints.getD {}).max.amount
  range : ∀ d, draw? f name kind = some d → d.range.Fits

/-- The bounds that are declared for a field that is built are in order. -/
lemma Built.amount_le (built : f.Built) (typed : f.WellTyped Value.IsFinite)
    (low : (f.constraints.getD {}).min.isNull = false)
    (high : (f.constraints.getD {}).max.isNull = false) :
    (f.constraints.getD {}).min.amount ≤ (f.constraints.getD {}).max.amount := by
  have attributes := typed.attributes
  have finite {v : Value} (h : v = .null ∨ v.IsFinite) (given : v.isNull = false) : v.IsFinite :=
    h.resolve_left fun null => by
      rw [null] at given
      cases given
  have isLow := finite attributes.low low
  have isHigh := finite attributes.high high
  cases built with
  | @mk a _ _ own bounds inItems inShape =>
    cases constraints : a.constraints with
    | none =>
      rw [constraints] at low
      cases low
    | some c =>
      rw [constraints] at low high isLow isHigh
      exact (bounds c constraints).amount_le isLow isHigh low high

/-- A draw of a field that is built has its ends in order just if its range fits. -/
lemma Built.ordered_iff (built : f.Built) (typed : f.WellTyped Value.IsFinite) {d : Draw}
    (isDraw : draw? f name kind = some d) : d.range.Ordered ↔ d.range.Fits := by
  obtain ⟨standIns, ends⟩ := draw?_range isDraw
  refine Range.ordered_iff standIns fun low high => ?_
  rcases ends with ⟨isLow, isHigh⟩ | ⟨isLow, -⟩
  · rw [isLow] at low ⊢
    rw [isHigh] at high ⊢
    exact built.amount_le typed low high
  · rw [isLow] at low
    cases low

end Field

namespace ResolvedField

open SampleHint

variable {f g : Field} {out node : ResolvedField} {name : Value} {kind : FieldKind}

/-- The column of a resolved field has room, and all ranges in its hint are in order. -/
structure Satisfiable (g : Field) (node : ResolvedField) : Prop where
  column : HasRoom node.columnType
  ranges : ∀ r ∈ ranges (pieces g (.text node.name) node.kind), r.Ordered

/-- The hint of a resolved field is written out of the pieces for a field, and each range among them
by its ends. -/
structure IsWritten (g : Field) (node : ResolvedField) : Prop where
  hint : render (pieces g (.text node.name) node.kind) = .ok node.sampleHint
  ranges : ∀ r ∈ ranges (pieces g (.text node.name) node.kind), ∃ low high, r.IsWritten low high

/-- A range in a hint is that of a field at some place inside the field of the hint. -/
lemma exists_at_of_mem_ranges {r : Range} (ok : ofKind f name (resolvedKind f) = .ok out)
    (mem : r ∈ ranges (pieces f name (resolvedKind f))) : ∃ g node, At f out g node ∧
      (draw? g (.text node.name) (resolvedKind g)).map Draw.range = some r := by
  induction f using Field.induction_on generalizing name out with
  | mk a items shape inItems inShape =>
    have named : name = .text out.name := ((ofKind_keeps _ name _).of_eq_ok ok).name
    rcases mem_ranges_iff.1 mem with own | ⟨isArray, item, isItem, deeper⟩ |
      ⟨isObject, parts, isShape, part, isPart, deeper⟩
    · exact ⟨_, out, .here _ out, named ▸ own⟩
    · rw [isArray] at ok
      obtain ⟨element, isElement, resolved⟩ := ofKind_array ok isItem
      obtain ⟨g, node, place, drawn⟩ := inItems item isItem resolved deeper
      exact ⟨g, node, .item isItem isElement place, drawn⟩
    · rw [isObject] at ok
      obtain ⟨others, isShape', resolved⟩ := ofKind_object ok isShape (List.ne_nil_of_mem isPart)
      obtain ⟨i, other, isPart', isOther⟩ := exists_getElem?_of_mem_left resolved isPart
      obtain ⟨g, node, place, drawn⟩ :=
        inShape parts isShape part isPart (of_getElem? resolved isPart' isOther) deeper
      exact ⟨g, node, .part isShape isShape' isPart' isOther place, drawn⟩

/-- The hint of what stands at some place is written out of the pieces for the field that is
declared there. -/
lemma At.isWritten (place : At f out g node) (ok : ofKind f name (resolvedKind f) = .ok out)
    (typed : f.WellTyped Value.IsFinite) : IsWritten g node := by
  have resolved := place.ofKind_eq ok
  have kind := place.kind_eq ok
  refine ⟨?_, fun r mem => ?_⟩
  · rw [kind, ← SampleHint.ofField_eq (place.wellTyped typed) (Value.isText_text _)]
    exact (ofKind_texts resolved).hint
  · rw [kind] at mem
    obtain ⟨h, other, deeper, drawn⟩ := exists_at_of_mem_ranges resolved mem
    obtain ⟨d, isDraw, rfl⟩ := Option.map_eq_some_iff.1 drawn
    have attributes := ((place.trans deeper).wellTyped typed).attributes
    rcases (draw?_range isDraw).2 with ⟨low, high⟩ | ⟨low, high⟩
    · exact Range.exists_isWritten (low ▸ attributes.low) (high ▸ attributes.high)
    · exact Range.exists_isWritten (.inl low) (.inl high)

/-- A field at some place of one that is built can be met if the bounds of all fields inside it
fit. -/
lemma At.satisfiable_of (place : At f out g node) (ok : ofKind f name (resolvedKind f) = .ok out)
    (built : f.Built) (typed : f.WellTyped Value.IsFinite)
    (fit : ∀ h other, At g node h other → h.BoundsFit (.text other.name) (resolvedKind h)) :
    Satisfiable g node := by
  have resolved := place.ofKind_eq ok
  have kind := place.kind_eq ok
  refine ⟨?_, fun r mem => ?_⟩
  · exact (ColumnType.hasRoom_ofField_iff (place.wellTyped typed).attributes.high
      (ofKind_texts resolved).column).2 (fit g node (.here g node)).room
  · rw [kind] at mem
    obtain ⟨h, other, deeper, drawn⟩ := exists_at_of_mem_ranges resolved mem
    obtain ⟨d, isDraw, rfl⟩ := Option.map_eq_some_iff.1 drawn
    have inside := place.trans deeper
    exact ((inside.built built).ordered_iff (inside.wellTyped typed) isDraw).2
      ((fit h other deeper).range d isDraw)

/-- The bounds of a field at some place of one that is built fit if they can be met. -/
lemma At.boundsFit_of (place : At f out g node) (ok : ofKind f name (resolvedKind f) = .ok out)
    (built : f.Built) (typed : f.WellTyped Value.IsFinite) (satisfiable : Satisfiable g node) :
    g.BoundsFit (.text node.name) (resolvedKind g) := by
  have resolved := place.ofKind_eq ok
  have kind := place.kind_eq ok
  refine ⟨?_, fun d isDraw => ?_⟩
  · exact (ColumnType.hasRoom_ofField_iff (place.wellTyped typed).attributes.high
      (ofKind_texts resolved).column).1 satisfiable.column
  · refine ((place.built built).ordered_iff (place.wellTyped typed) isDraw).1
      (satisfiable.ranges _ ?_)
    rw [kind, mem_ranges_iff, isDraw]
    exact .inl rfl

/-- A field that is built, with finite bounds, is resolved under every name. Each field of the
result stands at a place of the declaration, and its hint is written out of the pieces for the field
that is declared there. All columns have room and all ranges in hints are in order just if the
bounds fit that are declared at all places. -/
theorem exists_satisfiable_iff (built : f.Built) (typed : f.WellTyped Value.IsFinite)
    (isText : name.IsText) :
    ∃ out, ofField name f = .ok out ∧ (∀ node, Inside out node → ∃ g, At f out g node) ∧
      (∀ g node, At f out g node → IsWritten g node) ∧
      ((∀ g node, At f out g node → Satisfiable g node) ↔
        ∀ g node, At f out g node → g.BoundsFit (.text node.name) node.kind) := by
  have readable (v : Value) (finite : v.IsFinite) : v.Readable never := finite.readable
  obtain ⟨out, ok, -⟩ := (ofKind_ensures readable typed isText rfl).exists_ok
  refine ⟨out, ok, fun node inside => inside.exists_at ok, fun g node place =>
    place.isWritten ok typed, ?_⟩
  constructor
  · intro satisfiable g node place
    rw [place.kind_eq ok]
    exact place.boundsFit_of ok built typed (satisfiable g node place)
  · intro fit g node place
    refine place.satisfiable_of ok built typed fun h other deeper => ?_
    rw [← (place.trans deeper).kind_eq ok]
    exact fit h other (place.trans deeper)

/-- A whole number with a least value and no greatest one. -/
def atLeast (name : String) (least : Int) : Field where
  name := .text name
  type := "int"
  constraints := some { min := .int least }

lemma wellTyped_atLeast (name : String) {least : Int}
    (finite : ∀ negative, Binary64.ofInt least ≠ .infinite negative) :
    (atLeast name least).WellTyped Value.IsFinite := by
  have other : FieldKind.lookup "int" ≠ some .reference := by decide
  refine Field.wellTyped_mk.2 ⟨?_, nofun, nofun⟩
  exact ⟨Value.isText_text _, .inl rfl, fun reference => absurd reference other, nofun, .inr finite,
    .inl rfl, .inl rfl⟩

def age : Field := atLeast "age" 18

/-- The least age is below the number that stands in for a greatest one. -/
theorem exists_satisfiable_age : ∃ out, ofField (.text "age") age = .ok out ∧
    out.sampleHint = "faker.pyint(min_value=18, max_value=1000)" ∧
      ∀ g node, At age out g node → Satisfiable g node := by
  have built : age.Built := by
    refine .mk (by rfl) ?_ nofun nofun
    rintro c ⟨⟩
    rfl
  have typed : age.WellTyped Value.IsFinite := wellTyped_atLeast "age" (by decide)
  obtain ⟨out, ok, -, -, satisfiable_iff⟩ :=
    exists_satisfiable_iff built typed (Value.isText_text "age")
  obtain ⟨_, ok', name, kind, hint⟩ : ∃ out, ofField (.text "age") age = .ok out ∧
      out.name = "age" ∧ out.kind = .integer ∧
      out.sampleHint = "faker.pyint(min_value=18, max_value=1000)" :=
        ⟨_, rfl, rfl, rfl, by decide⟩
  obtain rfl := Except.ok.inj (ok.symm.trans ok')
  refine ⟨out, ok, hint, satisfiable_iff.2 fun g node place => ?_⟩
  cases place with
  | here =>
    rw [name, kind]
    refine ⟨nofun, fun d isDraw => ?_⟩
    have isDrawn : draw? age (.text "age") .integer = drawOfKind? .integer (.int 18) .null := by rfl
    obtain rfl := Option.some.inj (isDraw.symm.trans isDrawn)
    exact ⟨nofun, fun _ _ => by norm_num [Value.amount]⟩
  | item isItem => cases isItem
  | part isShape => cases isShape

def total : Field := atLeast "total" 5000

/-- The least total is above the number that stands in for a greatest one. -/
theorem not_satisfiable_total : total.Built ∧ total.WellTyped Value.IsFinite ∧
    ∃ out, ofField (.text "total") total = .ok out ∧
      out.sampleHint = "faker.pyint(min_value=5000, max_value=1000)" ∧ ¬ Satisfiable total out := by
  have built : total.Built := by
    refine .mk (by rfl) ?_ nofun nofun
    rintro c ⟨⟩
    rfl
  obtain ⟨out, ok, name, kind, hint⟩ : ∃ out, ofField (.text "total") total = .ok out ∧
      out.name = "total" ∧ out.kind = .integer ∧
      out.sampleHint = "faker.pyint(min_value=5000, max_value=1000)" :=
        ⟨_, rfl, rfl, rfl, by decide⟩
  have typed : total.WellTyped Value.IsFinite := wellTyped_atLeast "total" (by decide)
  refine ⟨built, typed, out, ok, hint, fun satisfiable => ?_⟩
  have isDrawn :
      draw? total (.text "total") .integer = drawOfKind? .integer (.int 5000) .null := by rfl
  have ordered := satisfiable.ranges ⟨.value, .int 5000, 1, .null, 1000⟩ (by
    rw [name, kind, mem_ranges_iff, isDrawn]
    exact .inl rfl)
  norm_num [Range.Ordered, endOf, Value.isNull, Value.amount] at ordered

end ResolvedField

end EntityModel
