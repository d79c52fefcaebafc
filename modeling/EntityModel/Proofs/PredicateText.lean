import EntityModel.Predicate.Source
import Mathlib.Data.List.Infix

/-!
# Predicates given as text

A text that is a lambda expression as a whole is told by its body, and a text that does not start
like one is told unchanged. Where a text only starts like one, the search for a lambda expression
inside it decides (`Predicate.sourceOfText_isUncut_iff`): if it finds one, the answer is the body of
that one, and the rest of the text is lost.
-/

namespace EntityModel.Predicate

/-! ### The tree of a lambda expression -/

/-- A lambda expression consists of its parameters and its body. -/
lemma exists_of_lambda?_eq_some {n : Nat} {ts : List Token} {reading : Reading}
    (h : lambda? n ts = some reading) : ∃ start stop parameters body,
      reading.node = .node .lambda [] start stop [parameters, body] := by
  cases n with
  | zero => cases h
  | succ n =>
    simp only [lambda?, Option.bind_eq_bind, Option.bind_eq_some_iff, Prod.exists, Option.pure_def,
      Option.some.injEq] at h
    obtain ⟨_, _, _, _, _, _, _, _, _, _, _, rfl⟩ := h
    exact ⟨_, _, _, _, rfl⟩

namespace Node

/-- No code is no lambda expression. -/
@[simp]
lemma ofLambda?_nil : ofLambda? [] = none := by decide +kernel

/-- What is parsed as a lambda expression is a node with parameters and a body. -/
lemma exists_of_ofLambda?_eq_some {code : List Char} {node : Node}
    (h : ofLambda? code = some node) :
    ∃ start stop parameters body, node = .node .lambda [] start stop [parameters, body] := by
  simp only [ofLambda?, Option.bind_eq_bind, Option.bind_eq_some_iff] at h
  obtain ⟨ts, -, reading, read, node_eq⟩ := h
  split at node_eq
  · cases node_eq
    exact exists_of_lambda?_eq_some read
  · cases node_eq

end Node

/-! ### The search for a lambda expression -/

/-- A lambda expression begins where the code begins. -/
def Opens (code : List Char) : Prop :=
  lambdaWord <+: code ∧ ∃ piece, piece <+: code ∧ (Node.ofLambda? piece).isSome = true

namespace FoundLambda

variable {code cs : List Char} {l : FoundLambda} {n : Nat}

/-- The longest beginning of code that is a lambda expression. -/
structure IsLongest (code : List Char) (l : FoundLambda) : Prop where
  starts : l.code <+: code
  isLambda : Node.ofLambda? l.code = some l.node
  longest : ∀ piece, piece <+: code → (Node.ofLambda? piece).isSome = true →
    piece.length ≤ l.code.length

/-- The longest lambda expression at the first place at which one begins. -/
def IsFirst (cs : List Char) (l : FoundLambda) : Prop :=
  ∃ place, place <:+ cs ∧ lambdaWord <+: place ∧ IsLongest place l ∧
    ∀ earlier, earlier <:+ cs → Opens earlier → earlier.length ≤ place.length

/-- No lambda expression is found if no piece of the code is one. -/
lemma longest?_eq_none_iff :
    longest? code n = none ↔ ∀ k ≤ n, Node.ofLambda? (code.take k) = none := by
  induction n with
  | zero => simp [longest?]
  | succ n ih =>
    rw [longest?]
    cases found : Node.ofLambda? (code.take (n + 1)) with
    | none =>
      rw [ih]
      constructor
      · intro none k le
        rcases Nat.le_succ_iff.1 le with le | rfl
        · exact none k le
        · exact found
      · intro none k le
        exact none k (Nat.le_succ_of_le le)
    | some node =>
      have := fun none : ∀ k ≤ n + 1, Node.ofLambda? (code.take k) = none => none (n + 1) le_rfl
      simpa [found] using this

/-- The lambda expression that is found is the longest piece that is one. -/
lemma exists_of_longest?_eq_some (h : longest? code n = some l) :
    ∃ k ≤ n, l.code = code.take k ∧ Node.ofLambda? l.code = some l.node ∧
      ∀ j ≤ n, k < j → Node.ofLambda? (code.take j) = none := by
  induction n with
  | zero => cases h
  | succ n ih =>
    rw [longest?] at h
    cases found : Node.ofLambda? (code.take (n + 1)) with
    | none =>
      rw [found] at h
      obtain ⟨k, le, isTake, isLambda, longest⟩ := ih h
      refine ⟨k, Nat.le_succ_of_le le, isTake, isLambda, fun j le lt => ?_⟩
      rcases Nat.le_succ_iff.1 le with le | rfl
      · exact longest j le lt
      · exact found
    | some node =>
      rw [found] at h
      cases h
      exact ⟨n + 1, le_rfl, rfl, found, fun j le lt => absurd lt (by omega)⟩

/-- A beginning of code is what a number of its characters is. -/
lemma exists_eq_take {piece : List Char} (h : piece <+: code) :
    ∃ k ≤ code.length, piece = code.take k :=
  ⟨piece.length, h.length_le, List.prefix_iff_eq_take.1 h⟩

/-- No lambda expression is found at a place just where none starts there. -/
lemma longest?_length_eq_none_iff : longest? code code.length = none ↔
    ∀ piece, piece <+: code → Node.ofLambda? piece = none := by
  rw [longest?_eq_none_iff]
  constructor
  · intro none piece starts
    obtain ⟨k, le, rfl⟩ := exists_eq_take starts
    exact none k le
  · intro none k _
    exact none _ (List.take_prefix k code)

/-- The lambda expression that is found at a place is the longest there. -/
lemma isLongest_of_longest?_length (h : longest? code code.length = some l) : IsLongest code l := by
  obtain ⟨k, le, isTake, isLambda, longest⟩ := exists_of_longest?_eq_some h
  refine ⟨isTake ▸ List.take_prefix k code, isLambda, fun piece starts some => ?_⟩
  obtain ⟨j, le', rfl⟩ := exists_eq_take starts
  by_contra longer
  rw [isTake, List.length_take_of_le le, List.length_take_of_le le', Nat.not_le] at longer
  rw [longest j le' longer] at some
  cases some

lemma longest?_length_eq_none_iff_not_opens (starts : lambdaWord <+: code) :
    longest? code code.length = none ↔ ¬ Opens code := by
  rw [longest?_length_eq_none_iff, Opens]
  simp [starts]

lemma first?_cons (c : Char) (rest : List Char) : first? (c :: rest) =
    if lambdaWord <+: c :: rest then (longest? (c :: rest) (c :: rest).length).or (first? rest)
    else first? rest := by
  rw [first?]
  simp only [List.isPrefixOf_iff_prefix, List.length_cons]

/-- No lambda expression is found in code just where none opens in it. -/
lemma first?_eq_none_iff : first? cs = none ↔ ∀ place, place <:+ cs → ¬ Opens place := by
  induction cs with
  | nil =>
    have starts : ¬ lambdaWord <+: [] := by decide
    simp [first?, Opens, starts]
  | cons c rest ih =>
    rw [first?_cons]
    simp only [List.suffix_cons_iff, forall_eq_or_imp, ← ih]
    by_cases starts : lambdaWord <+: c :: rest
    · rw [if_pos starts, Option.or_eq_none_iff, longest?_length_eq_none_iff_not_opens starts]
    · have closed : ¬ Opens (c :: rest) := fun opens => starts opens.1
      simp [starts, closed]

/-- The lambda expression that is found is the first one in the code. -/
theorem isFirst_of_first?_eq_some (h : first? cs = some l) : IsFirst cs l := by
  induction cs with
  | nil => cases h
  | cons c rest ih =>
    rw [first?_cons] at h
    -- where the search goes on, no lambda expression begins at the first character
    have later (closed : ¬ Opens (c :: rest)) (found : first? rest = some l) :
        IsFirst (c :: rest) l := by
      obtain ⟨place, isSuffix, starts, isLongest, first⟩ := ih found
      refine ⟨place, isSuffix.trans (List.suffix_cons c rest), starts, isLongest, ?_⟩
      intro earlier isSuffix' opens
      rcases List.suffix_cons_iff.1 isSuffix' with rfl | isSuffix'
      · exact absurd opens closed
      · exact first earlier isSuffix' opens
    by_cases starts : lambdaWord <+: c :: rest
    · rw [if_pos starts] at h
      cases found : longest? (c :: rest) (c :: rest).length with
      | none =>
        rw [found, Option.none_or] at h
        exact later ((longest?_length_eq_none_iff_not_opens starts).1 found) h
      | some here =>
        rw [found, Option.some_or] at h
        cases h
        exact ⟨c :: rest, List.suffix_rfl, starts, isLongest_of_longest?_length found,
          fun earlier isSuffix _ => isSuffix.length_le⟩
    · rw [if_neg starts] at h
      exact later (fun opens => starts opens.1) h

/-- Code that is a lambda expression as a whole is what the search finds in it. -/
lemma first?_eq_some_of_ofLambda? {node : Node} (starts : lambdaWord <+: cs)
    (isLambda : Node.ofLambda? cs = some node) : first? cs = some ⟨cs, node⟩ := by
  cases cs with
  | nil => cases isLambda
  | cons c rest =>
    have whole : longest? (c :: rest) (c :: rest).length = some ⟨c :: rest, node⟩ := by
      rw [List.length_cons, longest?, ← List.length_cons, List.take_length, isLambda]
    rw [first?_cons, if_pos starts, whole, Option.some_or]

lemma IsFirst.exists_opens (h : IsFirst cs l) : ∃ place, place <:+ cs ∧ Opens place := by
  obtain ⟨place, isSuffix, starts, isLongest, -⟩ := h
  refine ⟨place, isSuffix, starts, l.code, isLongest.starts, ?_⟩
  rw [isLongest.isLambda]
  rfl

/-- The statement for a lambda expression does not start like one. -/
lemma statement_ne (l : FoundLambda) (starts : lambdaWord <+: cs) :
    l.statement ≠ String.ofList cs := by
  intro same
  obtain ⟨rest, rfl⟩ := starts
  have first : l.statement.toList.head? = some 'r' := by
    rw [statement, String.toList_append]
    rfl
  rw [same, String.toList_ofList] at first
  exact absurd (Option.some.inj first) (by decide)

end FoundLambda

/-! ### What a text is told by -/

/-- A text that is not cut: it is told unchanged, or it is a lambda expression as a whole and told
by the code of its body. -/
def IsUncut (cs : List Char) (answer : String) : Prop :=
  answer = String.ofList cs ∨ ∃ start stop parameters body,
    Node.ofLambda? cs = some (.node .lambda [] start stop [parameters, body]) ∧
      answer = "return " ++ String.ofList (cs.extract body.start body.stop)

lemma sourceOfText_of_not_starts {text : String} (h : ¬ lambdaWord <+: Text.trim text.toList) :
    sourceOfText text = String.ofList (Text.trim text.toList) := by
  simp only [sourceOfText, List.isPrefixOf_iff_prefix, if_neg h]

lemma sourceOfText_of_starts {text : String} (starts : lambdaWord <+: Text.trim text.toList) :
    sourceOfText text = ((FoundLambda.first? (Text.trim text.toList)).map (·.statement)).getD
      (String.ofList (Text.trim text.toList)) := by
  simp only [sourceOfText, List.isPrefixOf_iff_prefix, if_pos starts]
  cases FoundLambda.first? (Text.trim text.toList) <;> rfl

/-- A text is not cut just if it does not start like a lambda expression, or is one as a whole, or
holds none at all. A text that is cut is told by the first lambda expression in it. -/
theorem sourceOfText_isUncut_iff (text : String) :
    let cs := Text.trim text.toList
    (IsUncut cs (sourceOfText text) ↔ (lambdaWord <+: cs →
      (Node.ofLambda? cs).isSome = true ∨ ∀ place, place <:+ cs → ¬ Opens place)) ∧
    (¬ IsUncut cs (sourceOfText text) →
      ∃ l, FoundLambda.IsFirst cs l ∧ l.code ≠ cs ∧ sourceOfText text = l.statement) := by
  intro cs
  by_cases starts : lambdaWord <+: cs
  · have answer := sourceOfText_of_starts starts
    cases isLambda : Node.ofLambda? cs with
    | some node =>
      have uncut : IsUncut cs (sourceOfText text) := by
        obtain ⟨start, stop, parameters, body, rfl⟩ := Node.exists_of_ofLambda?_eq_some isLambda
        right
        refine ⟨start, stop, parameters, body, isLambda, ?_⟩
        rw [answer, FoundLambda.first?_eq_some_of_ofLambda? starts isLambda]
        rfl
      simp [uncut]
    | none =>
      cases found : FoundLambda.first? cs with
      | none =>
        have uncut : IsUncut cs (sourceOfText text) := by
          left
          rw [answer, found]
          rfl
        exact ⟨iff_of_true uncut fun _ => .inr (FoundLambda.first?_eq_none_iff.1 found),
          absurd uncut⟩
      | some l =>
        rw [found, Option.map_some, Option.getD_some] at answer
        have isFirst := FoundLambda.isFirst_of_first?_eq_some found
        have cut : ¬ IsUncut cs (sourceOfText text) := by
          rintro (unchanged | ⟨_, _, _, _, whole, -⟩)
          · exact l.statement_ne starts (answer ▸ unchanged)
          · rw [isLambda] at whole
            cases whole
        refine ⟨iff_of_false cut fun none => ?_, fun _ => ⟨l, isFirst, ?_, answer⟩⟩
        · obtain ⟨place, isSuffix, opens⟩ := isFirst.exists_opens
          rcases none starts with whole | none
          · cases whole
          · exact none place isSuffix opens
        · obtain ⟨_, _, _, isLongest, -⟩ := isFirst
          intro whole
          have isLambda' := isLongest.isLambda
          rw [whole, isLambda] at isLambda'
          cases isLambda'
  · have uncut : IsUncut cs (sourceOfText text) := .inl (sourceOfText_of_not_starts starts)
    simp [uncut, starts]

/-- A condition in another language loses its second part, since its first part is a lambda
expression. -/
theorem not_isUncut_conjunction :
    sourceOfText "lambda row: row.a && row.b" = "return row.a" ∧
      ¬ IsUncut (Text.trim "lambda row: row.a && row.b".toList)
        (sourceOfText "lambda row: row.a && row.b") := by
  have answer : sourceOfText "lambda row: row.a && row.b" = "return row.a" := by decide +kernel
  refine ⟨answer, ?_⟩
  rintro (unchanged | ⟨_, _, _, _, whole, -⟩)
  · rw [answer] at unchanged
    exact absurd unchanged (by decide +kernel)
  · have none : (Node.ofLambda? (Text.trim "lambda row: row.a && row.b".toList)).isNone = true := by
      decide +kernel
    rw [whole] at none
    cases none

end EntityModel.Predicate
