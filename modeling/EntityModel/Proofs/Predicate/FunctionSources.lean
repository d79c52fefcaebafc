import EntityModel.Predicate.Function
import EntityModel.Proofs.PredicateText

/-!
# Sources of predicates that are functions

The source of a function is taken from the code that made it. The block of the function is a run of
whole lines of the code, and the source of a lambda expression is the body of one that stands in
these lines (`Predicate.exists_of_sourceOf_lambda`). Scopes inside of a body count as the same if
their nodes differ in their places only.
-/

namespace EntityModel.Predicate

/-! ### Lines of code -/

/-- The lines of code together are the code. -/
theorem codeLines_flatten (code : List Char) : (codeLines code).flatten = code := by
  fun_induction codeLines code with
  | case1 => rfl
  | case2 rest ih => simp [ih]
  | case3 c rest _ isBreak ih => simp [ih]
  | case4 c rest _ notBreak none ih =>
    rw [none] at ih
    simp [← ih]
  | case5 c rest _ notBreak line lines some ih =>
    rw [some] at ih
    simp [← ih]

lemma startLine_le (lines : List (List Char)) (n : Nat) : startLine lines n ≤ n := by
  fun_induction startLine lines n with
  | case1 => exact le_rfl
  | case2 => exact le_rfl
  | case3 n _ ih => exact ih.trans n.le_succ

/-- The block of a function is a run of whole lines of the code, and starts no later than the
function. -/
theorem exists_blockAt_eq (code : List Char) (line : Nat) : ∃ first ≤ line, ∃ count,
    blockAt code line = (((codeLines code).drop first).take count).flatten :=
  ⟨_, startLine_le _ _, _, rfl⟩

/-- The block of a function is a piece of the code. -/
lemma blockAt_isInfix (code : List Char) (line : Nat) : blockAt code line <:+: code := by
  obtain ⟨first, -, count, block⟩ := exists_blockAt_eq code line
  have run : ((codeLines code).drop first).take count <:+: codeLines code :=
    (List.take_prefix _ _).isInfix.trans (List.drop_suffix _ _).isInfix
  rw [block]
  conv_rhs => rw [← codeLines_flatten code]
  exact run.flatten

namespace FoundLambda

variable {code cs : List Char} {l l' : FoundLambda}

/-! ### Lambda expressions in code -/

/-- Code begins with one longest lambda expression at most. -/
lemma IsLongest.unique (h : IsLongest code l) (h' : IsLongest code l') : l = l' := by
  have le := h.longest l'.code h'.starts (by rw [h'.isLambda]; rfl)
  have le' := h'.longest l.code h.starts (by rw [h.isLambda]; rfl)
  have same : l.code = l'.code :=
    (List.prefix_of_prefix_length_le h.starts h'.starts le').eq_of_length (by omega)
  obtain ⟨piece, node⟩ := l
  obtain ⟨piece', node'⟩ := l'
  cases same
  cases h.isLambda.symm.trans h'.isLambda
  rfl

/-- A lambda expression is found at a place just where it is the longest there. -/
lemma longest?_length_eq_some_iff : longest? code code.length = some l ↔ IsLongest code l := by
  refine ⟨isLongest_of_longest?_length, fun isLongest => ?_⟩
  cases found : longest? code code.length with
  | none =>
    have isNone := longest?_length_eq_none_iff.1 found l.code isLongest.starts
    rw [isLongest.isLambda] at isNone
    cases isNone
  | some l' => rw [(isLongest_of_longest?_length found).unique isLongest]

/-- The lambda expressions in code are those at its first place and those after it. -/
lemma all_cons (c : Char) (rest : List Char) : all (c :: rest) =
    if lambdaWord <+: c :: rest then
      (longest? (c :: rest) (c :: rest).length).toList ++ all rest
    else all rest := by
  rw [all]
  simp only [List.isPrefixOf_iff_prefix, List.length_cons]

/-- The lambda expressions that are found in code are the longest ones at the places at which one
begins. -/
theorem mem_all_iff : l ∈ all cs ↔
    ∃ place, place <:+ cs ∧ lambdaWord <+: place ∧ IsLongest place l := by
  induction cs with
  | nil =>
    have starts : ¬ lambdaWord <+: [] := by decide
    simp [all, starts]
  | cons c rest ih =>
    rw [all_cons]
    simp only [List.suffix_cons_iff, or_and_right, exists_or, exists_eq_left, ← ih]
    by_cases starts : lambdaWord <+: c :: rest
    · simp only [starts, if_true, true_and, List.mem_append, Option.mem_toList,
        longest?_length_eq_some_iff]
    · simp only [starts, if_false, false_and, false_or]

/-- The search for the first lambda expression finds the first of all. -/
lemma head?_all (cs : List Char) : (all cs).head? = first? cs := by
  induction cs with
  | nil => rfl
  | cons c rest ih =>
    rw [all_cons, first?_cons]
    split_ifs
    · rw [List.head?_append, ih, Option.head?_toList]
    · exact ih

/-- A lambda expression that is found stands in the code. -/
lemma code_isInfix (h : l ∈ all cs) : l.code <:+: cs := by
  obtain ⟨place, isSuffix, -, isLongest⟩ := mem_all_iff.1 h
  exact isLongest.starts.isInfix.trans isSuffix.isInfix

/-- The body of a lambda expression that is found stands in it. -/
lemma body_isInfix (l : FoundLambda) : l.body <:+: l.code := by
  unfold body
  split
  · rw [List.extract_eq_take_drop]
    exact (List.take_prefix _ _).isInfix.trans (List.drop_suffix _ _).isInfix
  · exact List.nil_infix

variable {block : List Char} {a : Side} {n : Node}

/-- The lambda expression that a function is taken to be made by is one of those in its block. -/
lemma mem_of_choose? (h : choose? block a n = some l) : l ∈ all block := by
  simp only [choose?, Option.orElse_eq_orElse, Option.orElse_eq_or, Option.or_eq_some_iff] at h
  rcases h with found | ⟨-, found | ⟨-, first⟩⟩
  · exact List.mem_of_find?_eq_some found
  · exact List.mem_of_find?_eq_some found
  · exact List.mem_of_head? first

/-- One is chosen as soon as there is one. -/
lemma exists_choose? (h : all block ≠ []) : ∃ l, choose? block a n = some l := by
  obtain ⟨first, rest, isCons⟩ := List.exists_cons_of_ne_nil h
  simp only [choose?, Option.orElse_eq_orElse, Option.orElse_eq_or, ← Option.isSome_iff_exists,
    Option.isSome_or, isCons, List.head?_cons, Option.isSome_some, Bool.or_true]

end FoundLambda

/-! ### Nodes in other places -/

mutual

/-- A node without the places at which it and its parts stand. -/
def Node.unplaced : Node → Node
  | .node form word _ _ parts => .node form word 0 0 (unplacedAll parts)
termination_by structural n => n

def unplacedAll : List Node → List Node
  | [] => []
  | n :: ns => n.unplaced :: unplacedAll ns
termination_by structural ns => ns

end

mutual

/-- Nodes are alike just if they differ in their places only. -/
theorem Node.isLike_iff (n m : Node) : n.isLike m = true ↔ n.unplaced = m.unplaced := by
  match n, m with
  | .node form word _ _ parts, .node form' word' _ _ parts' =>
    rw [Node.isLike, Bool.and_eq_true, Bool.and_eq_true, areLike_iff parts parts',
      decide_eq_true_iff, beq_iff_eq, Node.unplaced, Node.unplaced, Node.node.injEq]
    tauto

/-- Lists of nodes are alike just where they differ in nothing but places. -/
lemma areLike_iff (ns ms : List Node) :
    areLike ns ms = true ↔ unplacedAll ns = unplacedAll ms := by
  match ns, ms with
  | [], [] => simp [areLike]
  | [], _ :: _ => simp [areLike, unplacedAll]
  | _ :: _, [] => simp [areLike, unplacedAll]
  | n :: ns, m :: ms =>
    rw [areLike, Bool.and_eq_true, n.isLike_iff m, areLike_iff ns ms, unplacedAll, unplacedAll,
      List.cons.injEq]

end

/-! ### Sources of functions -/

variable {s : Store} {code : List Char} {t : Thing} {source : String}

/-- The source of a function that shows itself as a lambda expression is the statement that returns
the body of one in the code. -/
theorem exists_of_sourceOf_lambda (isLambda : s.shownName? (s.size + 1) t = some "<lambda>")
    (h : s.sourceOf code t = .ok (some source)) : ∃ l : FoundLambda, l.code <:+: code ∧
      Node.ofLambda? l.code = some l.node ∧ source = l.statement := by
  unfold Store.sourceOf at h
  simp only [isLambda, if_true] at h
  cases function : s.unwrapped? (s.size + 1) t with
  | none => simp [function] at h
  | some c =>
    simp only [function] at h
    split_ifs at h
    · cases h
    · cases isOwn : s.ownFunction? t with
      | none => simp [isOwn, wrongKind] at h
      | some own =>
        simp only [isOwn, Except.ok.injEq, Option.map_eq_some_iff] at h
        obtain ⟨l, chosen, rfl⟩ := h
        have found := FoundLambda.mem_of_choose? chosen
        obtain ⟨_, _, _, isLongest⟩ := FoundLambda.mem_all_iff.1 found
        exact ⟨l, (FoundLambda.code_isInfix found).trans (blockAt_isInfix code c.line),
          isLongest.isLambda, rfl⟩

/-- What such a source returns is a piece of the code, character by character. -/
theorem exists_isInfix_of_sourceOf_lambda
    (isLambda : s.shownName? (s.size + 1) t = some "<lambda>")
    (h : s.sourceOf code t = .ok (some source)) :
    ∃ piece, piece <:+: code ∧ source = "return " ++ String.ofList piece := by
  obtain ⟨l, isInfix, -, rfl⟩ := exists_of_sourceOf_lambda isLambda h
  exact ⟨l.body, l.body_isInfix.trans isInfix, rfl⟩

/-- The only fault is that of a lambda expression that is hidden in a wrapper. -/
theorem ownFunction?_of_sourceOf {fault : Fault} (h : s.sourceOf code t = .error fault) :
    fault = .wrongKind ∧ s.shownName? (s.size + 1) t = some "<lambda>" ∧
      s.ownFunction? t = none := by
  unfold Store.sourceOf at h
  cases function : s.unwrapped? (s.size + 1) t with
  | none => simp [function] at h
  | some c =>
    simp only [function] at h
    split_ifs at h with isLambda
    cases isOwn : s.ownFunction? t with
    | none =>
      rw [isOwn] at h
      cases h
      exact ⟨rfl, isLambda, rfl⟩
    | some own =>
      rw [isOwn] at h
      cases h

end EntityModel.Predicate
