import EntityModel.Declaration.Document
import EntityModel.Proofs.Outcome
import EntityModel.Proofs.WellTyped
import Mathlib.Data.List.Nodup

/-!
# Accepted documents

What is known of the declarations of a document as soon as it is accepted, although most of its
values are copied unread: entities have names, and reference fields have targets, however deep they
stand. Names that are texts are distinct.
-/

namespace EntityModel

open Outcome Outcome.Ensures

variable {α : Type} {P : α → Prop}

/-- An entry has its value, or the key as its default. -/
lemma Value.entry_ensures (key : String) (v : Value) :
    Ensures anyFault (fun w => w = v.getD key) (v.entry key) := by
  cases v with
  | map entries =>
    unfold entry getD get?
    dsimp only
    cases Entries.find? (.text key) entries with
    | some w => rfl
    | none => trivial
  | scalar | list => trivial

/-! ### Fields -/

def FieldAttributes.Referenced (a : FieldAttributes) : Prop :=
  FieldKind.lookup a.type = some .reference → a.target.isGiven = true

namespace Field

/-- The attributes of a field and of all fields inside it have a property. -/
inductive Everywhere (P : FieldAttributes → Prop) : Field → Prop where
  | mk {a : FieldAttributes} {items : Option Field} {shape : Option (List Field)} (own : P a)
      (inItems : ∀ item, items = some item → Everywhere P item)
      (inShape : ∀ parts, shape = some parts → ∀ part ∈ parts, Everywhere P part) :
      Everywhere P ⟨a, items, shape⟩

/-- Every reference in the field has a target. -/
abbrev AllReferenced (f : Field) : Prop := f.Everywhere FieldAttributes.Referenced

attribute [local irreducible] FieldKind.lookup

/-- A checked field is the field itself, and a reference has its target. -/
lemma checked_ensures (f : Field) :
    Ensures anyFault (fun g => g = f ∧ f.Referenced) (checked f) := by
  unfold checked
  dsimp only
  refine .guard fun _ => .guard fun _ => .guard fun target => .guard fun _ => .step fun _ =>
    .guard fun _ => ?_
  rw [ensures_pure]
  refine ⟨rfl, fun reference => ?_⟩
  simpa [kind, reference] using target

/-- A field is assembled with all its references given, if its parts are. -/
lemma assemble_ensures (name data : Value) {shape : Option (List Field)}
    {items : Outcome (Option Field)}
    (inShape : ∀ parts, shape = some parts → ∀ part ∈ parts, part.AllReferenced)
    (inItems : Ensures anyFault (fun items => ∀ item, items = some item → item.AllReferenced)
      items) :
    Ensures anyFault AllReferenced (assemble name data shape items) := by
  unfold assemble
  dsimp only
  refine .ite_bind (fun _ => within_any _) (fun _ => within_any _) fun name _ => ?_
  refine .step fun _ => .step fun _ => .step fun _ => .step fun _ => .step fun _ =>
    .step fun _ => ?_
  refine inItems.bind fun items inItems => ?_
  refine .step fun _ => .step fun _ => .step fun _ => .guard fun _ => .step fun _ => ?_
  refine (checked_ensures _).mono ?_
  rintro _ ⟨rfl, referenced⟩
  exact .mk referenced inItems inShape

-- by recursion on the document, which is that of the reading itself
mutual

/-- Every reference in a field that is read has a target. -/
theorem decode_ensures (name : Value) :
    (data : Value) → Ensures anyFault AllReferenced (decode name data)
  | .map entries => by
    rw [decode]
    refine (decodeShape_ensures entries).bind fun shape inShape => ?_
    exact assemble_ensures _ _ inShape (decodeItems_ensures entries)
  | .scalar _ | .list _ => trivial
termination_by structural data => data

/-- Elements that can be read have all their references given. -/
theorem decodeItems_ensures : (entries : List (Scalar × Value)) →
    Ensures anyFault (fun items => ∀ item, items = some item → item.AllReferenced)
      (decodeItems entries)
  | [] => by simp [decodeItems, Ensures]
  | (key, v) :: rest => by
    have inside := decode_ensures (.text "item") v
    have others := decodeItems_ensures rest
    rw [decodeItems]
    split_ifs
    · refine inside.map ?_
      rintro item own _ ⟨⟩
      exact own
    · simp [Ensures]
    · exact others
termination_by structural entries => entries

/-- Parts that can be read have all their references given. -/
theorem decodeShape_ensures : (entries : List (Scalar × Value)) →
    Ensures anyFault (fun shape => ∀ parts, shape = some parts → ∀ part ∈ parts,
      part.AllReferenced) (decodeShape entries)
  | [] => by simp [decodeShape, Ensures]
  | (key, v) :: rest => by
    have others := decodeShape_ensures rest
    rw [decodeShape.eq_def]
    dsimp only
    split_ifs
    · cases v with
      | map parts =>
        refine (decodeNamed_ensures parts).map ?_
        rintro parts own _ ⟨⟩
        exact own
      | list parts =>
        cases parts with
        | nil => simp [Ensures]
        | cons part parts =>
          refine (decode_ensures .null part).bind fun first own => ?_
          refine (decodeAll_ensures parts).bind fun others more => ?_
          rintro _ ⟨⟩
          exact List.forall_mem_cons.2 ⟨own, more⟩
      | scalar s =>
        dsimp only
        split_ifs
        · trivial
        · simp [Ensures]
    · exact others
termination_by structural entries => entries

/-- Fields of a list that can be read have all their references given. -/
theorem decodeAll_ensures : (items : List Value) →
    Ensures anyFault (fun fields => ∀ f ∈ fields, f.AllReferenced) (decodeAll items)
  | [] => by simp [decodeAll, Ensures]
  | v :: rest => by
    rw [decodeAll]
    refine (decode_ensures .null v).bind fun first own => ?_
    refine (decodeAll_ensures rest).bind fun others more => ?_
    exact List.forall_mem_cons.2 ⟨own, more⟩
termination_by structural items => items

/-- Fields under names that can be read have all their references given. -/
theorem decodeNamed_ensures : (entries : List (Scalar × Value)) →
    Ensures anyFault (fun fields => ∀ f ∈ fields, f.AllReferenced) (decodeNamed entries)
  | [] => by simp [decodeNamed, Ensures]
  | (key, v) :: rest => by
    rw [decodeNamed]
    refine (decode_ensures (.scalar key) v).bind fun first own => ?_
    refine (decodeNamed_ensures rest).bind fun others more => ?_
    exact List.forall_mem_cons.2 ⟨own, more⟩
termination_by structural entries => entries

end

end Field

/-! ### Entities -/

namespace Entity

/-- What reading guarantees of an entity: a name, and a target for every reference in its fields. -/
structure Accepted (e : Entity) : Prop where
  named : e.name.isGiven = true
  referenced : ∀ f ∈ e.fields, f.AllReferenced

lemma checked_ensures (e : Entity) :
    Ensures anyFault (fun out => out = e ∧ e.name.isGiven = true) (checked e) := by
  unfold checked
  dsimp only
  refine .guard fun named => .step fun _ => .step fun _ => .step fun _ => ?_
  rw [ensures_pure]
  exact ⟨rfl, by simpa using named⟩

/-- What reading guarantees of each declaration it guarantees of all that stand under a key. -/
lemma decodeNamed_ensures {decode : Value → Value → Outcome α}
    (h : ∀ name v, Ensures anyFault P (decode name v)) (key shorthand : String) (data : Value) :
    Ensures anyFault (fun parts => ∀ x ∈ parts, P x) (decodeNamed key shorthand decode data) := by
  unfold decodeNamed
  refine .step fun written => ?_
  split
  · exact forall_mapM fun _ _ => h _ _
  · exact .step fun items => forall_mapM fun _ _ => h _ _

/-- An entity that is read is accepted, under the name that stands in its document. -/
theorem decode_ensures (data : Value) :
    Ensures anyFault (fun e => e.name = data.getD "name" ∧ e.Accepted) (decode data) := by
  unfold decode
  refine (Value.entry_ensures "name" data).bind fun name isName => ?_
  refine (decodeNamed_ensures Field.decode_ensures _ _ _).bind fun fields referenced => ?_
  refine .step fun _ => .step fun _ => .step fun _ => ?_
  dsimp only
  refine .ite_bind (fun _ => within_any _) (fun _ => within_any _) fun policy _ => ?_
  refine .step fun _ => .step fun _ => .step fun _ => .step fun _ => .step fun _ => .step fun _ =>
    .step fun _ => .step fun _ => .step fun _ => .guard fun _ => .step fun _ => ?_
  refine (checked_ensures _).mono ?_
  rintro _ ⟨rfl, named⟩
  exact ⟨isName, named, referenced⟩

end Entity

/-! ### Documents -/

namespace Document

/-- Where the entries have no problems their names are those that are compared. -/
lemma names_of_checkEntries {entries : List Value} {position : Nat}
    (clean : (checkEntries position entries).1 = []) :
    (checkEntries position entries).2 = entries.map (·.getD "name") := by
  induction entries generalizing position with
  | nil => rfl
  | cons entry rest ih =>
    simp only [checkEntries, List.append_eq_nil_iff] at clean ⊢
    have first : (checkEntry position entry).2 = [entry.getD "name"] := by
      have clean := clean.1
      unfold checkEntry at clean ⊢
      split at clean
      · dsimp only at clean ⊢
        split_ifs at clean ⊢
        split at clean
        all_goals rfl
      · simp at clean
    rw [first, ih clean.2]
    rfl

/-- Names that are equal to themselves are distinct where no repetition is found. -/
lemma nodup_of_checkRepeats {seen names : List Scalar} (self : ∀ s ∈ names, s.same s = true)
    (clean : checkRepeats seen names = []) : names.Nodup ∧ ∀ s ∈ names, s ∉ seen := by
  induction names generalizing seen with
  | nil => simp
  | cons name rest ih =>
    obtain ⟨same, others⟩ := List.forall_mem_cons.1 self
    simp only [checkRepeats, List.append_eq_nil_iff, ite_eq_right_iff, List.any_eq_true] at clean
    obtain ⟨new, clean⟩ := clean
    obtain ⟨distinct, apart⟩ := ih others clean
    have notSeen : name ∉ seen := fun mem => by simpa using new ⟨name, mem, same⟩
    refine ⟨List.nodup_cons.2 ⟨fun mem => apart name mem List.mem_cons_self, distinct⟩, ?_⟩
    exact List.forall_mem_cons.2
      ⟨notSeen, fun s mem isSeen => apart s mem (List.mem_cons_of_mem _ isSeen)⟩

lemma readEntity_ensures (data : Value) :
    Ensures anyFault (fun e => e.name = data.getD "name" ∧ e.Accepted) (readEntity data) :=
  .step fun _ => (Entity.decode_ensures data).mapError _

/-- Without problems the names of the entries are scalars of which none repeats another. -/
lemma problems_ensures (data : Value) :
    Ensures anyFault (fun found => found = [] → ∀ entries, data.getD "entities" = .list entries →
        ∃ names, entries.map (·.getD "name") = names.map .scalar ∧ checkRepeats [] names = [])
      (problems data) := by
  unfold problems
  split
  · split
    · simp
    · rename_i entries isList
      have scalars : ∀ v ∈ (checkEntries 0 entries).2,
          Ensures anyFault (fun s => v = .scalar s) v.asScalar := by
        intro v _
        cases v <;> trivial
      refine (Ensures.mapM scalars).bind fun names same => ?_
      rw [ensures_pure]
      intro clean others isOthers
      obtain rfl : entries = others := by simpa [isList] using isOthers
      obtain ⟨clean, distinct⟩ := List.append_eq_nil_iff.1 clean
      rw [names_of_checkEntries clean] at same
      refine ⟨names, ?_, distinct⟩
      have scalar : names.map Value.scalar = (entries.map (·.getD "name")).map id :=
        map_eq_map same fun _ _ h => h.symm
      rw [scalar, List.map_id]
    · simp
  · simp

/-- The entities of an accepted document are accepted, and those of its names that are texts are
distinct. -/
theorem read_ensures (data : Value) :
    Ensures anyFault (fun entities => (∀ e ∈ entities, e.Accepted) ∧
        ((∀ e ∈ entities, e.name.IsText) → (entities.map (·.name)).Nodup)) (read data) := by
  unfold read
  refine (problems_ensures data).bind fun found clean => ?_
  split_ifs with empty
  · trivial
  split
  · rename_i entries isList
    obtain ⟨names, same, distinct⟩ := clean (by simpa using empty) entries isList
    refine (Ensures.mapM fun entry _ => readEntity_ensures entry).mono fun entities all => ?_
    have listed : entities.map (·.name) = names.map .scalar := by
      rw [← same]
      exact map_eq_map all fun _ _ h => h.1
    refine ⟨fun e mem => ?_, fun texts => ?_⟩
    · obtain ⟨_, _, _, accepted⟩ := exists_of_mem_right all mem
      exact accepted
    · -- a value may differ from itself, as what is not a number does; a text never does
      have self : ∀ s ∈ names, s.same s = true := by
        intro s mem
        have isName : Value.scalar s ∈ entities.map (·.name) := by
          rw [listed]
          exact List.mem_map_of_mem mem
        obtain ⟨e, isEntity, name⟩ := List.mem_map.1 isName
        obtain ⟨t, isText⟩ := texts e isEntity
        obtain rfl : s = .text t := by simpa [name] using isText
        simp [Scalar.same]
      rw [listed]
      exact (nodup_of_checkRepeats self distinct).1.map fun s t same => by simpa using same
  · exact ⟨by simp, by simp⟩

end Document

end EntityModel
