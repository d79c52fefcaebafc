import EntityModel.Script.Expression
import EntityModel.Proofs.Outcome

/-!
# Literals of declaration scripts

A value can be written in a script as it is: as a literal, with lists and objects for its lists and
mappings. What such an expression stands for is the item of the value, and no other item is taken
for the value where a slot asks for one. In all other expressions the arguments of a call count
only by what they stand for.
-/

namespace EntityModel.Script

open Outcome

/-! ### Items that are values -/

namespace Item

mutual

def ofValue : Value → Item
  | .scalar s => .plain s
  | .list items => .list (ofValues items)
  | .map entries => .map (ofEntries entries)
termination_by structural v => v

def ofValues : List Value → List Item
  | [] => []
  | v :: vs => ofValue v :: ofValues vs
termination_by structural vs => vs

def ofEntries : Entries → List (Scalar × Item)
  | [] => []
  | (key, v) :: rest => (key, ofValue v) :: ofEntries rest
termination_by structural entries => entries

end

mutual

@[simp] lemma value_ofValue (v : Value) : (ofValue v).value = .ok v := by
  match v with
  | .scalar s => rfl
  | .list items => rw [ofValue, value, values_ofValues items]; rfl
  | .map entries => rw [ofValue, value, entryValues_ofEntries entries]; rfl

lemma values_ofValues (vs : List Value) : values (ofValues vs) = .ok vs := by
  match vs with
  | [] => rfl
  | v :: vs => rw [ofValues, values, value_ofValue v, values_ofValues vs]; rfl

lemma entryValues_ofEntries (entries : Entries) :
    entryValues (ofEntries entries) = .ok entries := by
  match entries with
  | [] => rfl
  | (key, v) :: rest =>
    rw [ofEntries, entryValues, value_ofValue v, entryValues_ofEntries rest]
    rfl

end

mutual

/-- An item that has a value is the item that this value is. -/
lemma eq_ofValue {item : Item} {v : Value} (h : item.value = .ok v) : item = ofValue v := by
  match item with
  | .plain s => cases h; rfl
  | .list items =>
    obtain ⟨vs, parts, same⟩ := bind_eq_ok_iff.1 h
    cases same
    rw [ofValue, eq_ofValues parts]
  | .map entries =>
    obtain ⟨vs, parts, same⟩ := bind_eq_ok_iff.1 h
    cases same
    rw [ofValue, eq_ofEntries parts]

/-- Items that have values are the items that these values are. -/
lemma eq_ofValues {items : List Item} {vs : List Value} (h : values items = .ok vs) :
    items = ofValues vs := by
  match items with
  | [] => cases h; rfl
  | item :: rest =>
    obtain ⟨v, first, h⟩ := bind_eq_ok_iff.1 h
    obtain ⟨vs, others, same⟩ := bind_eq_ok_iff.1 h
    cases same
    rw [ofValues, eq_ofValue first, eq_ofValues others]

lemma eq_ofEntries {items : List (Scalar × Item)} {entries : Entries}
    (h : entryValues items = .ok entries) : items = ofEntries entries := by
  match items with
  | [] => cases h; rfl
  | (key, item) :: rest =>
    obtain ⟨v, first, h⟩ := bind_eq_ok_iff.1 h
    obtain ⟨vs, others, same⟩ := bind_eq_ok_iff.1 h
    cases same
    rw [ofEntries, eq_ofValue first, eq_ofEntries others]

end

/-- A slot that asks for a value takes an item for it just if the item is that value. -/
theorem value_eq_ok_iff {item : Item} {v : Value} : item.value = .ok v ↔ item = ofValue v :=
  ⟨eq_ofValue, fun same => same ▸ value_ofValue v⟩

lemma ofValue_injective : Function.Injective ofValue := fun v w same =>
  Except.ok.inj ((value_ofValue v).symm.trans (same ▸ value_ofValue w))

end Item

/-! ### Expressions for values -/

namespace Expression

mutual

def ofValue : Value → Expression
  | .scalar s => plain s
  | .list items => list (ofValues items)
  | .map entries => object (ofEntries entries)
termination_by structural v => v

def ofValues : List Value → List Expression
  | [] => []
  | v :: vs => ofValue v :: ofValues vs
termination_by structural vs => vs

def ofEntries : Entries → List (Scalar × Expression)
  | [] => []
  | (key, v) :: rest => (key, ofValue v) :: ofEntries rest
termination_by structural entries => entries

end

mutual

/-- What the literal of a value stands for is the value. -/
theorem evaluate_ofValue (v : Value) : (ofValue v).evaluate = .ok (Item.ofValue v) := by
  match v with
  | .scalar s => rfl
  | .list items => rw [ofValue, evaluate, evaluateAll_ofValues items]; rfl
  | .map entries => rw [ofValue, evaluate, evaluateEntries_ofEntries entries]; rfl

lemma evaluateAll_ofValues (vs : List Value) :
    evaluateAll (ofValues vs) = .ok (Item.ofValues vs) := by
  match vs with
  | [] => rfl
  | v :: vs => rw [ofValues, evaluateAll, evaluate_ofValue v, evaluateAll_ofValues vs]; rfl

lemma evaluateEntries_ofEntries (entries : Entries) :
    evaluateEntries (ofEntries entries) = .ok (Item.ofEntries entries) := by
  match entries with
  | [] => rfl
  | (key, v) :: rest =>
    rw [ofEntries, evaluateEntries, evaluate_ofValue v, evaluateEntries_ofEntries rest]
    rfl

end

/-- Different values have different literals. -/
theorem ofValue_injective : Function.Injective ofValue := fun v w same =>
  Item.ofValue_injective
    (Except.ok.inj ((evaluate_ofValue v).symm.trans (same ▸ evaluate_ofValue w)))

/-! ### Calls -/

lemma evaluateAll_eq_mapM (es : List Expression) : evaluateAll es = es.mapM evaluate := by
  induction es with
  | nil => rfl
  | cons e rest ih => rw [evaluateAll, ih, List.mapM_cons]

lemma evaluateNamed_eq_mapM (es : List (String × Expression)) :
    evaluateNamed es = es.mapM fun e => (e.1, ·) <$> e.2.evaluate := by
  induction es with
  | nil => rfl
  | cons e rest ih =>
    rw [evaluateNamed, ih, List.mapM_cons]
    cases e.2.evaluate <;> rfl

variable {function : String} {args args' : List Expression}
  {named named' : List (String × Expression)} {item : Item}

/-- A call stands for what the named function makes of what its arguments stand for. -/
theorem evaluate_call_eq_ok_iff : (call function args named).evaluate = .ok item ↔
    ∃ items byName, List.Forall₂ (fun e i => e.evaluate = .ok i) args items ∧
      List.Forall₂ (fun e i => e.1 = i.1 ∧ e.2.evaluate = .ok i.2) named byName ∧
      callNamed function items byName = .ok item := by
  have entry (e : String × Expression) (i : String × Item) :
      ((e.1, ·) <$> e.2.evaluate = .ok i) ↔ e.1 = i.1 ∧ e.2.evaluate = .ok i.2 := by
    rw [map_eq_ok_iff]
    constructor
    · rintro ⟨item, stands, rfl⟩
      exact ⟨rfl, stands⟩
    · rintro ⟨key, stands⟩
      exact ⟨i.2, stands, Prod.ext key rfl⟩
  simp only [evaluate, evaluateAll_eq_mapM, evaluateNamed_eq_mapM, bind_eq_ok_iff, mapM_eq_ok_iff,
    entry, exists_and_left]

/-- Arguments that stand for the same can be put in each other's place. -/
theorem evaluate_call_congr
    (same : List.Forall₂ (fun e e' => e.evaluate = e'.evaluate) args args')
    (sameNamed : List.Forall₂ (fun e e' => e.1 = e'.1 ∧ e.2.evaluate = e'.2.evaluate)
      named named') :
    (call function args named).evaluate = (call function args' named').evaluate := by
  have all : evaluateAll args = evaluateAll args' := by
    induction same with
    | nil => rfl
    | cons first _ ih => rw [evaluateAll, evaluateAll, first, ih]
  have allNamed : evaluateNamed named = evaluateNamed named' := by
    induction sameNamed with
    | nil => rfl
    | cons first _ ih => rw [evaluateNamed, evaluateNamed, first.1, first.2, ih]
  rw [evaluate, evaluate, all, allNamed]

/-! ### Constants -/

/-- Every kind of field is what its constant stands for. -/
theorem evaluate_fieldKind (kind : FieldKind) :
    (fieldKind kind.constant).evaluate = .ok (.fieldKind kind) := by
  cases kind <;> rfl

/-- Every kind of relation is what its constant stands for. -/
theorem evaluate_relationKind (kind : RelationKind) :
    (relationKind kind.constant).evaluate = .ok (.relationKind kind) := by
  cases kind <;> rfl

end Expression

end EntityModel.Script
