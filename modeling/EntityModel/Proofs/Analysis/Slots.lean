import EntityModel.Proofs.Declaration.Portable

/-!
# Records with optional slots

The document forms of the parts of a schema are records with slots of which some may stay empty. Two
records with the same slots are the same once they are sorted just if they have the same in each
slot, once that is sorted (`Value.sorted_record_filled_iff`).
-/

namespace EntityModel

/-! ### Slots -/

def filled (slots : List (String × Option Value)) : List (String × Value) :=
  slots.flatMap fun slot => optionalEntry slot.1 slot.2

@[simp] lemma filled_nil : filled [] = [] := rfl

@[simp] lemma filled_cons (slot : String × Option Value) (slots : List (String × Option Value)) :
    filled (slot :: slots) = optionalEntry slot.1 slot.2 ++ filled slots := rfl

variable {slots others : List (String × Option Value)}

/-- A key that no slot has is not in the record. -/
lemma lookup_filled_of_not_mem {key : String} (absent : key ∉ slots.map (·.1)) :
    (filled slots).lookup key = none := by
  induction slots with
  | nil => rfl
  | cons slot rest ih =>
    obtain ⟨other, absent⟩ := not_or.1 fun mem => absent (List.mem_cons.2 mem)
    rw [filled_cons, List.lookup_append, lookup_optionalEntry, beq_false_of_ne other, ih absent]
    rfl

/-- A slot is read under its key, if keys are distinct. -/
lemma lookup_filled (distinct : (slots.map (·.1)).Nodup) {slot : String × Option Value}
    (mem : slot ∈ slots) : (filled slots).lookup slot.1 = slot.2 := by
  induction slots with
  | nil => exact absurd mem List.not_mem_nil
  | cons first rest ih =>
    obtain ⟨new, others⟩ := List.nodup_cons.1 distinct
    rw [filled_cons, List.lookup_append, lookup_optionalEntry]
    rcases List.mem_cons.1 mem with rfl | mem
    · rw [lookup_filled_of_not_mem new, beq_self_eq_true, Option.or_none]
      rfl
    · have other : slot.1 ≠ first.1 := fun same => new (List.mem_map.2 ⟨slot, mem, same⟩)
      rw [ih others mem, beq_false_of_ne other]
      rfl

namespace Value

/-- Two records with the same slots are the same once they are sorted just if they have the same in
each slot, once that is sorted. -/
theorem sorted_record_filled_iff (keys : slots.map (·.1) = others.map (·.1))
    (distinct : (slots.map (·.1)).Nodup) :
    (record (filled slots)).sorted = (record (filled others)).sorted ↔
      slots.map (fun slot => slot.2.map sorted) = others.map fun slot => slot.2.map sorted := by
  constructor
  · intro same
    -- what is in the slots is what is found under their keys
    have found {slots : List (String × Option Value)} (distinct : (slots.map (·.1)).Nodup) :
        slots.map (fun slot => slot.2.map sorted) =
          (slots.map (·.1)).map fun key => ((filled slots).lookup key).map sorted := by
      rw [List.map_map]
      exact List.map_congr_left fun slot mem => by simp [lookup_filled distinct mem]
    rw [found distinct, found (keys ▸ distinct), keys]
    exact List.map_congr_left fun key _ => lookup_of_sorted same key
  · intro same
    have parts (slots : List (String × Option Value)) :
        (filled slots).map (fun e => (e.1, e.2.sorted)) =
          ((slots.map (·.1)).zip (slots.map fun slot => slot.2.map sorted)).flatMap
            fun slot => optionalEntry slot.1 slot.2 := by
      rw [List.zip_map', filled, List.map_flatMap, List.flatMap_map]
      congr 1
      funext slot
      cases slot.2 <;> rfl
    have forms (slots : List (String × Option Value)) : (record (filled slots)).sorted =
        .map ((((filled slots).map fun e => (e.1, e.2.sorted)).map
          fun e => (Scalar.text e.1, e.2)).mergeSort entryLe) := by
      rw [record, sorted_map, Entries.sorted, List.map_map, List.map_map]
      rfl
    rw [forms, forms, parts, parts, keys, same]

/-! ### What is in a slot -/

def ifGiven (v : Value) : Option Value := if v.isGiven then some v else none

def ifPresent (v : Value) : Option Value := if v.isNull then none else some v

@[simp] lemma optionalEntry_ifGiven (key : String) (v : Value) :
    optionalEntry key v.ifGiven = if v.isGiven then [(key, v)] else [] := by
  unfold ifGiven
  split_ifs <;> rfl

@[simp] lemma optionalEntry_ifPresent (key : String) (v : Value) :
    optionalEntry key v.ifPresent = if v.isNull then [] else [(key, v)] := by
  unfold ifPresent
  split_ifs <;> rfl

/-- What is in the slot, if anything is, is a value of JSON. -/
def Writes (slot : Option Value) : Prop := ∀ v, slot = some v → v.IsJson

lemma IsJson.writes {v : Value} (h : v.IsJson) : Writes (some v) := by
  rintro _ ⟨⟩
  exact h

@[simp] lemma writes_text (s : String) : Writes (some (.text s)) := (isPlain_text s).isJson.writes

@[simp] lemma writes_bool (b : Bool) : Writes (some (.bool b)) := (isPlain_bool b).isJson.writes

lemma writes_list_map {α : Type} {parts : List α} {form : α → Value}
    (json : ∀ a ∈ parts, (form a).IsJson) : Writes (some (.list (parts.map form))) :=
  (IsJson.list (List.forall_mem_map.2 json)).writes

lemma IsJson.writes_ifGiven {v : Value} (h : v.IsJson) : Writes v.ifGiven := by
  intro w given
  unfold ifGiven at given
  split_ifs at given
  exact Option.some.inj given ▸ h

lemma IsJson.writes_ifPresent {v : Value} (h : v.IsJson) : Writes v.ifPresent := by
  intro w given
  unfold ifPresent at given
  split_ifs at given
  exact Option.some.inj given ▸ h

lemma writes_map {α : Type} {x : Option α} {form : α → Value} (h : ∀ a, x = some a →
    (form a).IsJson) :
    Writes (x.map form) := by
  rintro _ given
  obtain ⟨a, isSome, rfl⟩ := Option.map_eq_some_iff.1 given
  exact h a isSome

/-- The record of slots that hold JSON is JSON. -/
lemma isJson_record_filled (json : ∀ slot ∈ slots, Writes slot.2) :
    (record (filled slots)).IsJson := by
  have values : ∀ e ∈ filled slots, e.2.IsJson := by
    intro e mem
    obtain ⟨slot, isSlot, mem⟩ := List.mem_flatMap.1 mem
    cases given : slot.2 with
    | none => simp [given] at mem
    | some v =>
      rw [given, optionalEntry_some, List.mem_singleton] at mem
      exact mem ▸ json slot isSlot v given
  refine .map ?_ ?_
  · exact List.forall_mem_map.2 fun e _ => ⟨e.1, rfl⟩
  · exact List.forall_mem_map.2 values

section Plain

variable {v w : Value}

lemma IsPlain.sorted_eq_iff (hv : v.IsPlain) (hw : w.IsPlain) : v.sorted = w.sorted ↔ v = w := by
  rw [hv.sorted, hw.sorted]

lemma IsPlain.ifPresent_eq_iff (hv : v.IsPlain) (hw : w.IsPlain) :
    v.ifPresent.map Value.sorted = w.ifPresent.map Value.sorted ↔ v = w := by
  obtain ⟨s, -, rfl⟩ := hv
  obtain ⟨t, -, rfl⟩ := hw
  cases s <;> cases t <;> simp [ifPresent, isNull]

/-- What does not count as given is all one: it might as well be a default that does not. -/
lemma IsPlain.ifGiven_eq_iff (hv : v.IsPlain) (hw : w.IsPlain) (default : Value)
    (empty : default.isGiven = false) :
    v.ifGiven.map Value.sorted = w.ifGiven.map Value.sorted ↔
    v.orElse default = w.orElse default := by
  have ne {u : Value} (given : u.isGiven = true) : u ≠ default := by
    rintro rfl
    simp [empty] at given
  unfold ifGiven orElse
  by_cases givenV : v.isGiven = true <;> by_cases givenW : w.isGiven = true
  · simp [givenV, givenW, hv.sorted, hw.sorted]
  · simp [givenV, givenW, ne givenV]
  · simp [givenV, givenW, (ne givenW).symm]
  · simp [givenV, givenW]

lemma IsText.ifGiven_eq_iff (hv : v.IsText) (hw : w.IsText) :
    v.ifGiven.map Value.sorted = w.ifGiven.map Value.sorted ↔ v = w := by
  rw [hv.isPlain.ifGiven_eq_iff hw.isPlain (.text "") rfl, hv.orElse_empty,
    hw.orElse_empty]

lemma IsNameOrNull.ifGiven_eq_iff (hv : v.IsNameOrNull) (hw : w.IsNameOrNull) :
    v.ifGiven.map Value.sorted = w.ifGiven.map Value.sorted ↔ v = w := by
  rw [hv.isTextOrNull.isPlain.ifGiven_eq_iff hw.isTextOrNull.isPlain .null rfl,
    hv.orElse_null, hw.orElse_null]

lemma IsFlag.ifGiven_eq_iff (hv : v.IsFlag) (hw : w.IsFlag) :
    v.ifGiven.map Value.sorted = w.ifGiven.map Value.sorted ↔ v = w := by
  obtain ⟨b, rfl⟩ := hv
  obtain ⟨c, rfl⟩ := hw
  cases b <;> cases c <;> simp [ifGiven]

end Plain

end Value

/-! ### Lists and options of parts -/

section Forms

variable {α β γ : Type} {form : α → γ} {canonical : α → β}

/-- Lists with forms as distinct as their canonical elements are equal alike. -/
lemma map_eq_map_iff_of_forall {xs ys : List α}
    (h : ∀ x ∈ xs, ∀ y ∈ ys, (form x = form y ↔ canonical x = canonical y)) :
    xs.map form = ys.map form ↔ xs.map canonical = ys.map canonical := by
  induction xs generalizing ys with
  | nil => cases ys <;> simp
  | cons x xs ih =>
    cases ys with
    | nil => simp
    | cons y ys =>
      have first := h x List.mem_cons_self y List.mem_cons_self
      have others := ih fun x mem y mem' =>
        h x (List.mem_cons_of_mem _ mem) y (List.mem_cons_of_mem _ mem')
      simp only [List.map_cons, List.cons.injEq, first, others]

lemma option_map_eq_map_iff_of_forall {x y : Option α}
    (h : ∀ a, x = some a → ∀ b, y = some b → (form a = form b ↔ canonical a = canonical b)) :
    x.map form = y.map form ↔ x.map canonical = y.map canonical := by
  cases x <;> cases y <;> simp
  exact h _ rfl _ rfl

end Forms

namespace Value

variable {α β : Type} {form : α → Value} {canonical : α → β}

lemma sorted_list_map_eq_iff {xs ys : List α} (h : ∀ x ∈ xs, ∀ y ∈ ys,
      ((form x).sorted = (form y).sorted ↔ canonical x = canonical y)) :
    (Value.list (xs.map form)).sorted = (Value.list (ys.map form)).sorted ↔
      xs.map canonical = ys.map canonical := by
  rw [sorted_list, sorted_list, list.injEq, List.map_map, List.map_map]
  exact map_eq_map_iff_of_forall h

/-- The same for parts of which nothing is lost. -/
lemma sorted_list_map_eq_iff_eq {xs ys : List α} (h : ∀ x ∈ xs, ∀ y ∈ ys,
      ((form x).sorted = (form y).sorted ↔ x = y)) :
    (Value.list (xs.map form)).sorted = (Value.list (ys.map form)).sorted ↔ xs = ys := by
  have same := @sorted_list_map_eq_iff α α form id xs ys h
  rwa [List.map_id, List.map_id] at same

lemma map_sorted_of_texts {vs : List Value} (h : ∀ v ∈ vs, v.IsText) : vs.map sorted = vs :=
  (List.map_congr_left fun v mem => (h v mem).isPlain.sorted).trans (List.map_id vs)

lemma sorted_texts_eq_iff {vs ws : List Value} (hv : ∀ v ∈ vs, v.IsText) (hw : ∀ w ∈ ws, w.IsText) :
    (Value.list vs).sorted = (Value.list ws).sorted ↔ vs = ws := by
  rw [sorted_list, sorted_list, list.injEq, map_sorted_of_texts hv, map_sorted_of_texts hw]

lemma isJson_texts {vs : List Value} (h : ∀ v ∈ vs, v.IsText) : (Value.list vs).IsJson :=
  .list fun v mem => (h v mem).isPlain.isJson

end Value

end EntityModel
