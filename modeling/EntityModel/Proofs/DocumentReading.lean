import EntityModel.Proofs.Declaration.Mistakes

/-!
# How the reading of a document ends

A document is read into one entity for each of its entries, in order, or it is refused with a
definition failure. The one exception is an entry whose name is a list or a mapping that is not
empty: names are compared before they are known to be texts, and neither the problems of such a
document nor its entities can be told.
-/

namespace EntityModel

open Outcome

namespace Document

/-- The failure of a declaration or a document that could not be read. -/
def IsDefinition (fault : Fault) : Prop :=
  ∃ text entity path, fault = .failed (.definition text entity path)

/-- The name of some entry is a list or a mapping that is not empty. -/
def CompositeName (data : Value) : Prop :=
  ∃ entries, data.getD "entities" = .list entries ∧
    ∃ entry ∈ entries, (entry.getD "name").isGiven = true ∧ ∀ s, entry.getD "name" ≠ .scalar s

/-! ### Problems -/

/-- The names that are checked are those given in the entries. -/
lemma mem_names_checkEntry {position : Nat} {entry name : Value} :
    name ∈ (checkEntry position entry).2 ↔
      (entry.getD "name").isGiven = true ∧ entry.getD "name" = name := by
  cases entry with
  | scalar | list => simp [checkEntry, Value.getD, Value.get?, Value.isGiven, Scalar.isGiven]
  | map m =>
    unfold checkEntry
    dsimp only
    cases given : ((Value.map m).getD "name").isGiven with
    | false => simp
    | true =>
      rw [if_neg (by simp)]
      split <;> simp [eq_comm]

lemma mem_names_checkEntries {entries : List Value} {position : Nat} {name : Value} :
    name ∈ (checkEntries position entries).2 ↔
      ∃ entry ∈ entries, (entry.getD "name").isGiven = true ∧ entry.getD "name" = name := by
  induction entries generalizing position with
  | nil => simp [checkEntries]
  | cons entry rest ih =>
    rw [checkEntries]
    simp [ih, mem_names_checkEntry]

/-- An entry without a problem is a mapping. -/
lemma isMap_of_checkEntries {entries : List Value} {position : Nat}
    (clean : (checkEntries position entries).1 = []) : ∀ entry ∈ entries, ∃ m, entry = .map m := by
  induction entries generalizing position with
  | nil => simp
  | cons entry rest ih =>
    simp only [checkEntries, List.append_eq_nil_iff] at clean
    refine List.forall_mem_cons.2 ⟨?_, ih clean.2⟩
    have first := clean.1
    cases entry with
    | map m => exact ⟨m, rfl⟩
    | scalar | list => simp [checkEntry] at first

/-- Either all values are scalars, or one of them is of the wrong kind. -/
lemma mapM_asScalar (names : List Value) :
    (∃ scalars, names.mapM Value.asScalar = .ok scalars ∧ names = scalars.map .scalar) ∨
      names.mapM Value.asScalar = .error .wrongKind ∧ ∃ name ∈ names, ∀ s, name ≠ .scalar s := by
  induction names with
  | nil => exact .inl ⟨[], rfl, rfl⟩
  | cons name rest ih =>
    rw [List.mapM_cons]
    cases name with
    | scalar s =>
      rcases ih with ⟨scalars, ok, rfl⟩ | ⟨error, name, mem, composite⟩
      · exact .inl ⟨s :: scalars, by rw [ok]; rfl, rfl⟩
      · exact .inr ⟨by rw [error]; rfl, name, List.mem_cons_of_mem _ mem, composite⟩
    | list items => exact .inr ⟨rfl, _, List.mem_cons_self, nofun⟩
    | map entries => exact .inr ⟨rfl, _, List.mem_cons_self, nofun⟩

lemma not_compositeName_of_not_list {data : Value}
    (other : ∀ entries, data.getD "entities" ≠ .list entries) : ¬ CompositeName data :=
  fun ⟨entries, isList, _⟩ => other entries isList

/-- A document has a composite name if one of the checked names is not a scalar. -/
lemma compositeName_iff {data : Value} {entries : List Value}
    (isList : data.getD "entities" = .list entries) :
    CompositeName data ↔ ∃ name ∈ (checkEntries 0 entries).2, ∀ s, name ≠ .scalar s := by
  constructor
  · rintro ⟨others, isOthers, entry, mem, given, composite⟩
    obtain rfl : entries = others := by simpa [isList] using isOthers
    exact ⟨_, mem_names_checkEntries.2 ⟨entry, mem, given, rfl⟩, composite⟩
  · rintro ⟨name, mem, composite⟩
    obtain ⟨entry, isEntry, given, rfl⟩ := mem_names_checkEntries.1 mem
    exact ⟨entries, isList, entry, isEntry, given, composite⟩

/-- The problems of a document can be told unless a name in it is composite. -/
lemma problems_cases (data : Value) :
    (∃ found, problems data = .ok found) ∧ ¬ CompositeName data ∨
      problems data = .error .wrongKind ∧ CompositeName data := by
  cases data with
  | scalar | list =>
    refine .inl ⟨⟨_, rfl⟩, not_compositeName_of_not_list ?_⟩
    simp [Value.getD, Value.get?]
  | map m =>
    unfold problems
    cases entities : (Value.map m).getD "entities" with
    | scalar s =>
      refine .inl ⟨?_, not_compositeName_of_not_list (by simp [entities])⟩
      cases s <;> exact ⟨_, rfl⟩
    | map entries => exact .inl ⟨⟨_, rfl⟩, not_compositeName_of_not_list (by simp [entities])⟩
    | list entries =>
      rw [compositeName_iff entities]
      dsimp only
      rcases mapM_asScalar (checkEntries 0 entries).2 with ⟨scalars, ok, same⟩ | ⟨error, composite⟩
      · refine .inl ⟨⟨_, by rw [ok]; rfl⟩, ?_⟩
        rintro ⟨name, mem, composite⟩
        rw [same] at mem
        obtain ⟨s, _, rfl⟩ := List.mem_map.1 mem
        exact composite s rfl
      · exact .inr ⟨by rw [error]; rfl, composite⟩

/-! ### Reading -/

lemma isDefinition_definitionFault {name : Value} {fault : Fault} (mistake : fault.IsMistake) :
    IsDefinition (definitionFault name fault) := by
  cases fault with
  | wrongKind | missingKey | refused => exact ⟨_, _, _, rfl⟩
  | _ => exact mistake.elim

/-- A mapping is read as its declaration is, and what is wrong with it is a definition failure. -/
lemma readEntity_ensures_decode (m : Entries) :
    Ensures IsDefinition (fun e => Entity.decode (.map m) = .ok e) (readEntity (.map m)) := by
  have mistake := Entity.decode_orMistake (.map m)
  unfold readEntity
  rw [Value.optional, Value.entryOr, ok_bind]
  cases read : Entity.decode (.map m) with
  | ok e => rfl
  | error fault =>
    rw [read] at mistake
    exact isDefinition_definitionFault mistake

/-- The entities are what the entries declare, one for each and in order. -/
def Declares (data : Value) (es : List Entity) : Prop :=
  ∃ entries, data.getD "entities" = .list entries ∧
    List.Forall₂ (fun entry e => Entity.decode entry = .ok e) entries es

/-- The entries of a document without problems are mappings. -/
lemma isMap_of_problems {data : Value} {entries : List Value}
    (isList : data.getD "entities" = .list entries) (clean : problems data = .ok []) :
    ∀ entry ∈ entries, ∃ m, entry = .map m := by
  cases data with
  | scalar | list => simp [Value.getD, Value.get?] at isList
  | map m =>
    rw [problems, isList] at clean
    dsimp only at clean
    obtain ⟨_, _, all⟩ := bind_eq_ok_iff.1 clean
    exact isMap_of_checkEntries (List.append_eq_nil_iff.1 (Except.ok.inj all)).1

/-- A document without problems lists its entities. -/
lemma isList_of_problems {data : Value} (clean : problems data = .ok []) :
    ∃ entries, data.getD "entities" = .list entries := by
  cases data with
  | scalar | list => simp [problems, pure, Except.pure] at clean
  | map m =>
    unfold problems at clean
    cases entities : (Value.map m).getD "entities" with
    | list entries => exact ⟨entries, rfl⟩
    | map entries => simp [entities, pure, Except.pure] at clean
    | scalar s => cases s <;> simp [entities, pure, Except.pure] at clean

/-- Without problems the entries are read, or one of them is refused. -/
lemma read_ensures_of_problems {data : Value} {found : List String}
    (told : problems data = .ok found) : Ensures IsDefinition (Declares data) (read data) := by
  unfold read
  rw [told, ok_bind]
  split_ifs with clean
  · exact ⟨_, _, _, rfl⟩
  · obtain rfl : found = [] := by simpa using clean
    obtain ⟨entries, isList⟩ := isList_of_problems told
    rw [isList]
    refine (Ensures.mapM fun entry mem => ?_).mono fun es all => ⟨entries, isList, all⟩
    obtain ⟨m, rfl⟩ := isMap_of_problems isList told entry mem
    exact readEntity_ensures_decode m

/-- The problems of a document can be told, and it is read into one entity for each entry or refused
with a definition failure, unless a name in it is composite. -/
theorem read_ends (data : Value) :
    ((∃ found, problems data = .ok found) ↔ ¬ CompositeName data) ∧
      (read data = .error .wrongKind ↔ CompositeName data) ∧
      Ensures (fun fault => IsDefinition fault ∨ fault = .wrongKind) (Declares data)
      (read data) := by
  rcases problems_cases data with ⟨⟨found, told⟩, simple⟩ | ⟨error, composite⟩
  · have ends := read_ensures_of_problems told
    refine ⟨⟨fun _ => simple, fun _ => ⟨found, told⟩⟩,
      ⟨?_, fun composite => absurd composite simple⟩, ?_⟩
    · intro error
      obtain ⟨_, _, _, same⟩ := ends.of_eq_error error
      simp at same
    · cases result : read data with
      | ok es => exact ends.of_eq_ok result
      | error fault => exact .inl (ends.of_eq_error result)
  · have failed : read data = .error .wrongKind := by
      unfold read
      rw [error]
      rfl
    refine ⟨⟨?_, fun simple => absurd composite simple⟩, ⟨fun _ => composite, fun _ => failed⟩, ?_⟩
    · rintro ⟨found, told⟩
      simp [error] at told
    · rw [failed]
      exact .inr rfl

def listName : Value := .record [("entities", .list [.record [("name", .list ["a"])]])]

/-- Neither the problems of the document nor its entities can be told. -/
theorem listName_wrongKind :
    problems listName = .error .wrongKind ∧ read listName = .error .wrongKind :=
  ⟨rfl, rfl⟩

end Document

end EntityModel
