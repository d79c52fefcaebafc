import EntityModel.Proofs.Analysis.KeptFields

/-!
# Places in a field

What is resolved from a field has fields inside it, and each of them stands where a field stands
inside the declaration. It is what is resolved from that field alone, under its own name
(`ResolvedField.At.ofKind_eq`).
-/

namespace EntityModel

open Outcome

/-! ### Lists that go together -/

section Together

variable {α β : Type} {R : α → β → Prop} {xs : List α} {ys : List β}

/-- Elements at one place of two related lists are related. -/
lemma of_getElem? (h : List.Forall₂ R xs ys) {i : Nat} {a : α} {b : β} (isA : xs[i]? = some a)
    (isB : ys[i]? = some b) : R a b := by
  induction h generalizing i with
  | nil => cases isA
  | cons first _ ih =>
    cases i with
    | zero =>
      cases isA
      cases isB
      exact first
    | succ i => exact ih isA isB

lemma exists_of_getElem? (h : List.Forall₂ R xs ys) {i : Nat} {b : β} (isB : ys[i]? = some b) :
    ∃ a, xs[i]? = some a ∧ R a b := by
  obtain ⟨bound, -⟩ := List.getElem?_eq_some_iff.1 isB
  have isA := List.getElem?_eq_getElem (h.length_eq ▸ bound : i < xs.length)
  exact ⟨_, isA, of_getElem? h isA isB⟩

lemma exists_getElem?_of_mem_right (h : List.Forall₂ R xs ys) {b : β} (mem : b ∈ ys) :
    ∃ (i : Nat) (a : α), xs[i]? = some a ∧ ys[i]? = some b := by
  obtain ⟨i, isB⟩ := List.mem_iff_getElem?.1 mem
  obtain ⟨a, isA, -⟩ := exists_of_getElem? h isB
  exact ⟨i, a, isA, isB⟩

lemma exists_getElem?_of_mem_left (h : List.Forall₂ R xs ys) {a : α} (mem : a ∈ xs) :
    ∃ (i : Nat) (b : β), xs[i]? = some a ∧ ys[i]? = some b := by
  obtain ⟨i, isA⟩ := List.mem_iff_getElem?.1 mem
  obtain ⟨bound, -⟩ := List.getElem?_eq_some_iff.1 isA
  exact ⟨i, _, isA, List.getElem?_eq_getElem (h.length_eq ▸ bound)⟩

end Together

/-! ### Places -/

namespace ResolvedField

variable {f g h : Field} {out node other : ResolvedField} {name : Value} {kind : FieldKind}

/-- A resolved field is another one or stands inside it, at whatever depth. -/
inductive Inside : ResolvedField → ResolvedField → Prop
  | here (out : ResolvedField) : Inside out out
  | item {out item node : ResolvedField} (isItem : out.items = some item)
    (deeper : Inside item node) :
      Inside out node
  | part {out part node : ResolvedField} {parts : List ResolvedField}
    (isShape : out.shape = some parts)
      (mem : part ∈ parts) (deeper : Inside part node) : Inside out node

/-- Where one field stands in a declaration another one stands in what is resolved from it. -/
inductive At : Field → ResolvedField → Field → ResolvedField → Prop
  | here (f : Field) (out : ResolvedField) : At f out f out
  | item {f item g : Field} {out element node : ResolvedField} (isItem : f.items = some item)
      (isElement : out.items = some element) (deeper : At item element g node) : At f out g node
  | part {f part g : Field} {out other node : ResolvedField} {parts : List Field}
      {others : List ResolvedField} {i : Nat} (isShape : f.shape = some parts)
      (isShape' : out.shape = some others) (isPart : parts[i]? = some part)
      (isOther : others[i]? = some other) (deeper : At part other g node) : At f out g node

lemma At.trans (place : At f out g node) (deeper : At g node h other) : At f out h other := by
  induction place with
  | here => exact deeper
  | item isItem isElement _ ih => exact .item isItem isElement (ih deeper)
  | part isShape isShape' isPart isOther _ ih =>
    exact .part isShape isShape' isPart isOther (ih deeper)

/-- The fields inside a field are built and of their declared types as the field itself is. -/
lemma At.built (place : At f out g node) (built : f.Built) : g.Built := by
  induction place with
  | here => exact built
  | item isItem _ _ ih =>
    cases built with
    | mk own bounds inItems inShape => exact ih (inItems _ isItem)
  | part isShape _ isPart _ _ ih =>
    cases built with
    | mk own bounds inItems inShape => exact ih (inShape _ isShape _ (List.mem_of_getElem? isPart))

/-- What stands at a place of a well-typed field is well-typed. -/
lemma At.wellTyped {bound : Value → Prop} (place : At f out g node) (typed : f.WellTyped bound) :
    g.WellTyped bound := by
  induction place with
  | here => exact typed
  | @item f _ _ _ _ _ isItem _ _ ih =>
    obtain ⟨a, items, shape⟩ := f
    exact ih ((Field.wellTyped_mk.1 typed).2.1 _ isItem)
  | @part f _ _ _ _ _ _ _ _ isShape _ isPart _ _ ih =>
    obtain ⟨a, items, shape⟩ := f
    exact ih ((Field.wellTyped_mk.1 typed).2.2 _ isShape _ (List.mem_of_getElem? isPart))

/-- What is resolved is assembled from the elements of an array and the parts of an object. -/
lemma ofKind_assembled (ok : ofKind f name kind = .ok out) : ∃ elements parts,
    (if kind = .array then ofItems f.items else .ok none) = .ok elements ∧
      (if kind = .object then ofShape f.shape else .ok none) = .ok parts ∧
        assemble name f kind elements parts = .ok out := by
  obtain ⟨a, items, shape⟩ := f
  rw [ofKind_mk] at ok
  dsimp only at ok
  rw [ite_bind_eq] at ok
  obtain ⟨elements, isElements, ok⟩ := bind_eq_ok_iff.1 ok
  rw [ite_bind_eq] at ok
  obtain ⟨parts, isParts, ok⟩ := bind_eq_ok_iff.1 ok
  exact ⟨elements, parts, isElements, isParts, ok⟩

/-- What stands inside a resolved field: the elements of an array, and the parts of an object. -/
lemma ofKind_inside (ok : ofKind f name kind = .ok out) :
    (if kind = .array then ofItems f.items else .ok none) = .ok out.items ∧
      (if kind = .object then ofShape f.shape else .ok none) = .ok out.shape := by
  obtain ⟨elements, parts, isElements, isParts, assembled⟩ := ofKind_assembled ok
  obtain ⟨-, rfl, rfl⟩ := (assemble_keeps _ _ _ _ _).of_eq_ok assembled
  exact ⟨isElements, isParts⟩

/-- The element of an array is resolved under the name "item". -/
lemma ofKind_item {element : ResolvedField} (ok : ofKind f name kind = .ok out)
    (isElement : out.items = some element) :
    ∃ item, f.items = some item ∧ ofKind item (.text "item") (resolvedKind item) = .ok element := by
  have inside := (ofKind_inside ok).1
  rw [isElement] at inside
  split_ifs at inside
  · cases isItem : f.items with
    | none =>
      rw [isItem] at inside
      cases inside
    | some item =>
      rw [isItem] at inside
      obtain ⟨_, resolved, same⟩ := map_eq_ok_iff.1 inside
      exact ⟨item, rfl, Option.some.inj same ▸ resolved⟩
  · cases inside

/-- The parts of an object are resolved one by one under their own names. -/
lemma ofKind_parts {others : List ResolvedField} (ok : ofKind f name kind = .ok out)
    (isShape : out.shape = some others) : ∃ parts, f.shape = some parts ∧
      List.Forall₂ (fun part other =>
        ofKind part part.name (resolvedKind part) = .ok other) parts others := by
  have inside := (ofKind_inside ok).2
  rw [isShape] at inside
  split_ifs at inside
  · rcases declared : f.shape with _ | _ | ⟨part, rest⟩
    · rw [declared] at inside
      cases inside
    · rw [declared] at inside
      cases inside
    · rw [declared] at inside
      obtain ⟨_, resolved, same⟩ := map_eq_ok_iff.1 inside
      rw [ofFields_eq_mapM, mapM_eq_ok_iff] at resolved
      exact ⟨_, rfl, Option.some.inj same ▸ resolved⟩
  · cases inside

/-- An array has its element resolved inside it. -/
lemma ofKind_array {item : Field} (ok : ofKind f name .array = .ok out)
    (isItem : f.items = some item) :
    ∃ element, out.items = some element ∧
      ofKind item (.text "item") (resolvedKind item) = .ok element := by
  have inside := (ofKind_inside ok).1
  rw [if_pos rfl, isItem] at inside
  obtain ⟨element, resolved, isElement⟩ := map_eq_ok_iff.1 inside
  exact ⟨element, isElement.symm, resolved⟩

/-- An object has its parts, if there are any, resolved inside it. -/
lemma ofKind_object {parts : List Field} (ok : ofKind f name .object = .ok out)
    (isShape : f.shape = some parts) (nonempty : parts ≠ []) : ∃ others, out.shape = some others ∧
      List.Forall₂ (fun part other =>
        ofKind part part.name (resolvedKind part) = .ok other) parts others := by
  have inside := (ofKind_inside ok).2
  rw [if_pos rfl, isShape] at inside
  cases parts with
  | nil => exact absurd rfl nonempty
  | cons part rest =>
    obtain ⟨others, resolved, isOthers⟩ := map_eq_ok_iff.1 inside
    rw [ofFields_eq_mapM, mapM_eq_ok_iff] at resolved
    exact ⟨others, isOthers.symm, resolved⟩

/-- What stands inside a resolved field is what is resolved from the field at its place, under the
name that it has itself. -/
theorem At.ofKind_eq (place : At f out g node) (ok : ofKind f name (resolvedKind f) = .ok out) :
    ofKind g (.text node.name) (resolvedKind g) = .ok node := by
  induction place generalizing name with
  | here f out =>
    have named : name = .text out.name := ((ofKind_keeps f name _).of_eq_ok ok).name
    exact named ▸ ok
  | item isItem isElement _ ih =>
    obtain ⟨_, isItem', resolved⟩ := ofKind_item ok isElement
    obtain rfl := Option.some.inj (isItem.symm.trans isItem')
    exact ih resolved
  | part isShape isShape' isPart isOther _ ih =>
    obtain ⟨_, isShape'', resolved⟩ := ofKind_parts ok isShape'
    obtain rfl := Option.some.inj (isShape.symm.trans isShape'')
    exact ih (of_getElem? resolved isPart isOther)

/-- What stands at a place has the kind of the field that is declared there. -/
lemma At.kind_eq (place : At f out g node) (ok : ofKind f name (resolvedKind f) = .ok out) :
    node.kind = resolvedKind g :=
  ((ofKind_keeps g _ _).of_eq_ok (place.ofKind_eq ok)).kind

/-- Every field inside a resolved one stands at the place of a declared one. -/
theorem Inside.exists_at (inside : Inside out node)
    (ok : ofKind f name (resolvedKind f) = .ok out) :
    ∃ g, At f out g node := by
  induction inside generalizing f name with
  | here out => exact ⟨f, .here f out⟩
  | item isElement _ ih =>
    obtain ⟨_, isItem, resolved⟩ := ofKind_item ok isElement
    obtain ⟨g, place⟩ := ih resolved
    exact ⟨g, .item isItem isElement place⟩
  | part isShape' mem _ ih =>
    obtain ⟨_, isShape, resolved⟩ := ofKind_parts ok isShape'
    obtain ⟨i, _, isPart, isOther⟩ := exists_getElem?_of_mem_right resolved mem
    obtain ⟨g, place⟩ := ih (of_getElem? resolved isPart isOther)
    exact ⟨g, .part isShape isShape' isPart isOther place⟩

end ResolvedField

end EntityModel
