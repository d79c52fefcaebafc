import EntityModel.Proofs.Analysis.Places
import EntityModel.Proofs.Text.Quoted
import Mathlib.Order.Bounds.Basic

/-!
# Types of resolved fields

The type of an enumeration in the generated code lists its values and no others
(`ColumnType.literal_inj`), and its column has room for the longest of them. An array is a list of
what its elements are, and no field is of the type of anything (`ResolvedField.codeTypeOf_ne_any`).
-/

namespace EntityModel

open Outcome

/-! ### Enumerations -/

namespace ColumnType

/-- What follows a value that is listed: the values after it, and the bracket that closes the
list. -/
def followers : List String → List Char
  | [] => [']']
  | v :: vs => [',', ' '] ++ Text.quotedChars v.toList ++ followers vs

lemma head?_followers_ne (vs : List String) :
    ∀ q, Predicate.IsQuote q → (followers vs).head? ≠ some q := by
  rintro _ (rfl | rfl) <;> cases vs <;> simp [followers]

/-- The followers of a value are listed in their characters. -/
lemma followers_inj {vs ws : List String} (same : followers vs = followers ws) : vs = ws := by
  induction vs generalizing ws with
  | nil =>
    cases ws with
    | nil => rfl
    | cons w ws => simp [followers] at same
  | cons v vs ih =>
    cases ws with
    | nil => simp [followers] at same
    | cons w ws =>
      simp only [followers, List.append_assoc] at same
      obtain ⟨first, others⟩ := Predicate.quotedChars_append_inj (head?_followers_ne vs)
        (head?_followers_ne ws) (List.append_cancel_left same)
      rw [String.toList_inj.1 first, ih others]

/-- A literal type lists its quoted values between brackets. -/
lemma toList_literal (vs : List String) : (literal (vs.map .text)).toList = "Literal[".toList ++
    ([',', ' '].intercalate (vs.map fun v => Text.quotedChars v.toList) ++ [']']) := by
  have quoted (v : String) : (Value.quoted (.text v)).toList = Text.quotedChars v.toList := by
    simp [Value.quoted, Scalar.quoted, Text.quoted]
  have comma : ", ".toList = [',', ' '] := rfl
  unfold literal
  rw [String.toList_append, String.toList_append, String.toList_intercalate, List.map_map,
    List.map_map, comma, List.append_assoc]
  simp [Function.comp_def, quoted]

/-- The quoted values and the closing bracket are a first value and what follows it. -/
lemma intercalate_cons (v : String) (vs : List String) :
    [',', ' '].intercalate ((v :: vs).map fun v => Text.quotedChars v.toList) ++ [']'] =
      Text.quotedChars v.toList ++ followers vs := by
  induction vs generalizing v with
  | nil => rw [List.map_singleton, List.intercalate_singleton, followers]
  | cons w ws ih =>
    have others := ih w
    rw [List.map_cons] at others
    rw [List.map_cons, List.map_cons, List.intercalate_cons_cons, List.append_assoc, others]
    simp [followers]

/-- A type of literals lists its texts and no others. -/
theorem literal_inj {vs ws : List String} :
    literal (vs.map .text) = literal (ws.map .text) ↔ vs = ws := by
  refine ⟨fun same => ?_, fun same => same ▸ rfl⟩
  have chars := congrArg String.toList same
  rw [toList_literal, toList_literal] at chars
  replace chars := List.append_cancel_left chars
  -- a bracket that closes an empty list is no quote
  have empty (v : String) (vs : List String) :
      [']'] ≠ Text.quotedChars v.toList ++ followers vs := by
    intro same
    have bracket : ']' = Text.quoteFor v.toList := (List.cons.inj same).1
    rcases Predicate.isQuote_quoteFor v.toList with isQuote | isQuote <;> simp [isQuote] at bracket
  cases vs with
  | nil =>
    cases ws with
    | nil => rfl
    | cons w ws =>
      rw [intercalate_cons] at chars
      exact absurd chars (empty w ws)
  | cons v vs =>
    cases ws with
    | nil =>
      rw [intercalate_cons] at chars
      exact absurd chars.symm (empty v vs)
    | cons w ws =>
      rw [intercalate_cons, intercalate_cons] at chars
      obtain ⟨first, others⟩ := Predicate.quotedChars_append_inj (head?_followers_ne vs)
        (head?_followers_ne ws) chars
      rw [String.toList_inj.1 first, followers_inj others]

/-- A type of literals is none of the types that a table gives to a kind. -/
lemma literal_ne_codeType (values : List Value) (kind : FieldKind) :
    literal values ≠ kind.codeType := by
  have tabled : kind.codeType.toList.head? ≠ some 'L' := by cases kind <;> decide
  intro same
  rw [← same] at tabled
  simp [literal] at tabled

/-- The fold takes the greatest of its numbers. -/
lemma isGreatest_foldl_max (n : Nat) (ns : List Nat) :
    IsGreatest {m | m ∈ n :: ns} (ns.foldl Nat.max n) := by
  induction ns generalizing n with
  | nil => simp
  | cons k ns ih =>
    obtain ⟨isOne, bounds⟩ := ih (Nat.max n k)
    refine ⟨?_, fun m mem => ?_⟩
    · rcases List.mem_cons.1 isOne with isMax | later
      · rw [List.foldl_cons, isMax]
        rcases Nat.le_total n k with le | le
        · simp [Nat.max_eq_right le]
        · simp [Nat.max_eq_left le]
      · exact List.mem_cons_of_mem _ (List.mem_cons_of_mem _ later)
    · have first : Nat.max n k ≤ ns.foldl Nat.max (Nat.max n k) := bounds List.mem_cons_self
      rcases List.mem_cons.1 mem with rfl | mem
      · exact (Nat.le_max_left m k).trans first
      · rcases List.mem_cons.1 mem with rfl | mem
        · exact (Nat.le_max_right n m).trans first
        · exact bounds (List.mem_cons_of_mem _ mem)

/-- The column of an enumeration has room for its longest value and some more. -/
lemma ofField_enumeration (max : Value) {vs : List String} (nonempty : vs ≠ []) :
    ∃ longest, IsGreatest {n | ∃ v ∈ vs, v.length = n} longest ∧
      ofField .enumeration max (vs.map .text) =
        .ok ("VARCHAR(" ++ toString (longest + headroom) ++ ")") := by
  obtain ⟨v, others, rfl⟩ := List.exists_cons_of_ne_nil nonempty
  refine ⟨(others.map String.length).foldl Nat.max v.length, ?_, ?_⟩
  · have greatest := isGreatest_foldl_max v.length (others.map String.length)
    rw [← List.map_cons] at greatest
    simpa only [List.mem_map] using greatest
  · have lengths :
        ((v :: others).map Value.text).mapM Value.length = .ok ((v :: others).map String.length) :=
      mapM_map_eq_ok _ fun _ _ => rfl
    have sized : (FieldKind.enumeration = FieldKind.enumeration &&
        !((v :: others).map Value.text).isEmpty) = true := rfl
    unfold ofField
    rw [if_neg (by simp), if_pos sized, lengths, ok_bind, List.map_cons, List.foldl_cons]
    have start : Nat.max 0 v.length = v.length := Nat.zero_max v.length
    rw [start]
    rfl

end ColumnType

/-! ### Resolved fields -/

namespace ResolvedField

variable {f : Field} {out : ResolvedField} {name : Value} {kind : FieldKind}

/-- The texts that are made for a field that is resolved as one of a kind: the types, and the
hint. -/
structure IsMade (f : Field) (kind : FieldKind) (out : ResolvedField) : Prop where
  code : out.codeType = codeTypeOf kind out.items (out.enumValues.getD [])
  column : ColumnType.ofField kind (f.constraints.getD {}).max
    ((if kind = .enumeration then f.values else none).getD []) = .ok out.columnType
  hint : SampleHint.ofField f (.text out.name) kind = .ok out.sampleHint

/-- The texts of what is resolved are those of the field. -/
lemma ofKind_texts (ok : ofKind f name kind = .ok out) : IsMade f kind out := by
  obtain ⟨elements, parts, -, -, ok⟩ := ofKind_assembled ok
  unfold assemble at ok
  obtain ⟨written, -, ok⟩ := bind_eq_ok_iff.1 ok
  obtain ⟨column, isColumn, ok⟩ := bind_eq_ok_iff.1 ok
  obtain ⟨hint, isHint, ok⟩ := bind_eq_ok_iff.1 ok
  obtain rfl := Except.ok.inj ok
  exact ⟨rfl, isColumn, isHint⟩

variable {items : Option ResolvedField} {values : List Value}

lemma codeTypeOf_enumeration (nonempty : values ≠ []) :
    codeTypeOf .enumeration items values = ColumnType.literal values := by
  cases values with
  | nil => exact absurd rfl nonempty
  | cons v values => rfl

lemma codeTypeOf_array (item : ResolvedField) :
    codeTypeOf .array (some item) values = "list[" ++ item.codeType ++ "]" := rfl

lemma codeTypeOf_plain (enumeration : kind ≠ .enumeration) (array : kind ≠ .array) :
    codeTypeOf kind items values = kind.codeType := by
  cases kind with
  | enumeration => exact absurd rfl enumeration
  | array => exact absurd rfl array
  | _ => rfl

/-- No field is of the type of anything. -/
lemma codeTypeOf_ne_any : codeTypeOf kind items values ≠ "Any" := by
  unfold codeTypeOf
  split_ifs
  · intro same
    have chars := congrArg String.toList same
    simp [ColumnType.literal] at chars
  · split
    · intro same
      have chars := congrArg String.toList same
      simp at chars
    · cases kind <;> decide

end ResolvedField

end EntityModel
