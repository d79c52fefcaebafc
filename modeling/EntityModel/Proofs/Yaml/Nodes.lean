import EntityModel.Proofs.Declaration.PartsRoundTrip
import EntityModel.Proofs.Yaml.PlainScalars
import EntityModel.Yaml.Reader

/-!
# Nodes are put together again from their tokens

A node without tags and anchors may be written in blocks or in brackets, and each of its parts as
well. Whichever way it is written, its tokens are read as the node, and the node of a value means
the value. So a text whose tokens are those of a value is read as that value.
-/

namespace EntityModel.Yaml

namespace Node

/-- No part of a node has a tag: a scalar has the type that it looks like, or is a quoted text. -/
inductive IsUntagged : Node → Prop
  | plain (text : String) : IsUntagged (.scalar (.ofPlain text) text)
  | quoted (text : String) : IsUntagged (.scalar .text text)
  | list {items : List Node} (all : ∀ n ∈ items, IsUntagged n) : IsUntagged (.list .list items)
  | map {entries : List (Node × Node)} (keys : ∀ e ∈ entries, IsUntagged e.1)
      (values : ∀ e ∈ entries, IsUntagged e.2) : IsUntagged (.map .map entries)

/-! ### Tokens -/

/-- What stands before a part between brackets. -/
def separators (first : Bool) : List Token := if first then [] else [.separator]

section

variable (inline : Node → Bool)

mutual

/-- The tokens of a node. A collection is written in brackets where it stands between others, where
it is empty and where it is asked for; else in a block. The items of a list under a key are not
indented. -/
def tokens (place : Place) : Node → List Token
  | .scalar type text => [.scalar text (type = .ofPlain text)]
  | .list type items =>
    if place = .inBrackets || inline (.list type items) || items.isEmpty then
      .sequenceStart :: (partTokens true items ++ [.sequenceEnd])
    else if place = .underKey then itemTokens items
    else .blockSequenceStart :: (itemTokens items ++ [.blockEnd])
  | .map type entries =>
    if place = .inBrackets || inline (.map type entries) || entries.isEmpty then
      .mappingStart :: (pairTokens true entries ++ [.mappingEnd])
    else .blockMappingStart :: (entryTokens entries ++ [.blockEnd])

def itemTokens : List Node → List Token
  | [] => []
  | n :: ns => .item :: (tokens .inBlock n ++ itemTokens ns)

def entryTokens : List (Node × Node) → List Token
  | [] => []
  | (k, v) :: rest =>
    .key :: (tokens .underKey k ++ .value :: (tokens .underKey v ++ entryTokens rest))

def partTokens (first : Bool) : List Node → List Token
  | [] => []
  | n :: ns => separators first ++ (tokens .inBrackets n ++ partTokens false ns)

def pairTokens (first : Bool) : List (Node × Node) → List Token
  | [] => []
  | (k, v) :: rest => separators first ++ .key :: (tokens .inBrackets k ++
      .value :: (tokens .inBrackets v ++ pairTokens false rest))

end

/-- A node may begin with a token. -/
def Opens (place : Place) : Token → Prop
  | .scalar .. | .sequenceStart | .mappingStart => True
  | .blockSequenceStart | .blockMappingStart => place ≠ .inBrackets
  | .item => place = .underKey
  | _ => False

/-- The tokens of a node begin with one that may open a node at its place. -/
lemma exists_tokens_eq (place : Place) (n : Node) :
    ∃ t more, tokens inline place n = t :: more ∧ Opens place t := by
  cases n with
  | scalar type text => exact ⟨_, _, rfl, trivial⟩
  | list type items =>
    rw [tokens]
    split_ifs with brackets flush
    · exact ⟨_, _, rfl, trivial⟩
    · cases items with
      | nil => simp at brackets
      | cons n ns => exact ⟨_, _, rfl, flush⟩
    · exact ⟨_, _, rfl, fun same => by simp [same] at brackets⟩
  | map type entries =>
    rw [tokens]
    split_ifs with brackets
    · exact ⟨_, _, rfl, trivial⟩
    · exact ⟨_, _, rfl, fun same => by simp [same] at brackets⟩

lemma length_tokens_pos (place : Place) (n : Node) : 0 < (tokens inline place n).length := by
  obtain ⟨t, more, starts, -⟩ := exists_tokens_eq inline place n
  rw [starts]
  exact Nat.succ_pos _

/-! ### Steps of reading -/

variable {inline} {handles : Handles} {place : Place} {fuel : Nat} {rest : List Token}
  {anchors : Anchors} {n : Node}

lemma read?_scalar (text : String) (plain : Bool) :
    read? handles place (fuel + 1) (.scalar text plain :: rest) anchors =
      some ⟨.scalar (scalarType none text plain) text, rest, anchors⟩ := by
  cases place <;> rfl

lemma read?_sequenceStart :
    read? handles place (fuel + 1) (.sequenceStart :: rest) anchors =
      (readParts? handles true fuel rest anchors).map fun p =>
        ⟨.list .list p.result, p.rest, p.anchors⟩ := by
  cases place <;> rfl

lemma read?_mappingStart :
    read? handles place (fuel + 1) (.mappingStart :: rest) anchors =
      (readPairs? handles true fuel rest anchors).map fun p =>
        ⟨.map .map p.result, p.rest, p.anchors⟩ := by
  cases place <;> rfl

lemma read?_blockSequenceStart (block : place ≠ .inBrackets) :
    read? handles place (fuel + 1) (.blockSequenceStart :: rest) anchors =
      (readItems? handles fuel rest anchors).map fun p =>
        ⟨.list .list p.result, p.rest, p.anchors⟩ := by
  cases place <;> first | rfl | exact (block rfl).elim

lemma read?_blockMappingStart (block : place ≠ .inBrackets) :
    read? handles place (fuel + 1) (.blockMappingStart :: rest) anchors =
      (readEntries? handles fuel rest anchors).map fun p =>
        ⟨.map .map p.result, p.rest, p.anchors⟩ := by
  cases place <;> first | rfl | exact (block rfl).elim

lemma read?_item :
    read? handles .underKey (fuel + 1) (.item :: rest) anchors =
      (readFlushItems? handles fuel (.item :: rest) anchors).map fun p =>
        ⟨.list .list p.result, p.rest, p.anchors⟩ := rfl

lemma readOr?_false {toks : List Token} :
    readOr? handles place false (fuel + 1) toks anchors = read? handles place fuel toks anchors :=
  rfl

lemma readItems?_item :
    readItems? handles (fuel + 1) (.item :: (tokens inline .inBlock n ++ rest)) anchors = do
      let ⟨n, rest, anchors⟩ ←
        readOr? handles .inBlock false fuel (tokens inline .inBlock n ++ rest) anchors
      let ⟨ns, rest, anchors⟩ ← readItems? handles fuel rest anchors
      return ⟨n :: ns, rest, anchors⟩ := by
  obtain ⟨t, more, starts, opens⟩ := exists_tokens_eq inline .inBlock n
  rw [starts]
  cases t <;> first | rfl | cases opens

lemma readFlushItems?_item :
    readFlushItems? handles (fuel + 1) (.item :: (tokens inline .inBlock n ++ rest)) anchors = do
      let ⟨n, rest, anchors⟩ ←
        readOr? handles .inBlock false fuel (tokens inline .inBlock n ++ rest) anchors
      let ⟨ns, rest, anchors⟩ ← readFlushItems? handles fuel rest anchors
      return ⟨n :: ns, rest, anchors⟩ := by
  obtain ⟨t, more, starts, opens⟩ := exists_tokens_eq inline .inBlock n
  rw [starts]
  cases t <;> first | rfl | cases opens

/-- A list that is not indented ends before the first token that opens no item. -/
lemma readFlushItems?_end (ends : rest.head? ≠ some .item) :
    readFlushItems? handles (fuel + 1) rest anchors = some ⟨[], rest, anchors⟩ := by
  cases rest with
  | nil => rfl
  | cons t more => cases t <;> first | rfl | exact (ends rfl).elim

lemma readEntries?_key {toks : List Token} :
    readEntries? handles (fuel + 1) (.key :: toks) anchors = do
      let ⟨k, rest, anchors⟩ ← readOr? handles .underKey (endsEntry toks) fuel toks anchors
      let ⟨v, rest, anchors⟩ ← match rest with
        | .value :: rest => readOr? handles .underKey (endsEntry rest) fuel rest anchors
        | rest => some ⟨empty, rest, anchors⟩
      let ⟨entries, rest, anchors⟩ ← readEntries? handles fuel rest anchors
      return ⟨(k, v) :: entries, rest, anchors⟩ := rfl

/-- Where a node is written, its entry is not empty. -/
lemma endsEntry_tokens : endsEntry (tokens inline place n ++ rest) = false := by
  obtain ⟨t, more, starts, opens⟩ := exists_tokens_eq inline place n
  rw [starts]
  cases t <;> first | rfl | cases opens

lemma readParts?_part {first : Bool} :
    readParts? handles first (fuel + 1)
        (separators first ++ (tokens inline .inBrackets n ++ rest)) anchors = do
      let ⟨n, rest, anchors⟩ ←
        read? handles .inBrackets fuel (tokens inline .inBrackets n ++ rest) anchors
      let ⟨ns, rest, anchors⟩ ← readParts? handles false fuel rest anchors
      return ⟨n :: ns, rest, anchors⟩ := by
  obtain ⟨t, more, starts, opens⟩ := exists_tokens_eq inline .inBrackets n
  rw [starts]
  cases first <;> cases t <;> first | rfl | cases opens

lemma readPairs?_key {first : Bool} {toks : List Token} :
    readPairs? handles first (fuel + 1) (separators first ++ .key :: toks) anchors = do
      let ⟨entry, rest, anchors⟩ ← readPair? handles .mappingEnd fuel toks anchors
      let ⟨entries, rest, anchors⟩ ← readPairs? handles false fuel rest anchors
      return ⟨entry :: entries, rest, anchors⟩ := by
  cases first <;> rfl

/-- Where a node is written between braces, the key is not empty. -/
lemma endsKey_tokens : endsKey .mappingEnd (tokens inline .inBrackets n ++ rest) = false := by
  obtain ⟨t, more, starts, opens⟩ := exists_tokens_eq inline .inBrackets n
  rw [starts]
  cases t <;> first | rfl | cases opens

/-- Where a node is written between braces, the value is not empty. -/
lemma endsValue_tokens : endsValue .mappingEnd (tokens inline .inBrackets n ++ rest) = false := by
  obtain ⟨t, more, starts, opens⟩ := exists_tokens_eq inline .inBrackets n
  rw [starts]
  cases t <;> first | rfl | cases opens

/-! ### Parts of nodes -/

variable (inline) in
/-- The tokens of a node are read as the node, with fuel for each of them and up to what follows. A
list that is not indented ends where no item follows. -/
def IsReadBack (n : Node) : Prop :=
  ∀ (handles : Handles) (place : Place) (fuel : Nat) (rest : List Token) (anchors : Anchors),
    2 * (tokens inline place n).length + (if place = .underKey then 2 else 0) ≤ fuel →
    (place = .underKey → rest.head? ≠ some .item) →
    read? handles place fuel (tokens inline place n ++ rest) anchors = some ⟨n, rest, anchors⟩

variable {items : List Node} {entries : List (Node × Node)}

lemma IsReadBack.readOr? (h : IsReadBack inline n)
    (enough : 2 * (tokens inline place n).length + (if place = .underKey then 2 else 0) < fuel)
    (stops : place = .underKey → rest.head? ≠ some .item) :
    readOr? handles place false fuel (tokens inline place n ++ rest) anchors =
      some ⟨n, rest, anchors⟩ := by
  obtain ⟨fuel, rfl⟩ := Nat.exists_eq_add_one.2 (Nat.zero_lt_of_lt enough)
  rw [readOr?_false]
  exact h handles place fuel rest anchors (Nat.le_of_lt_succ enough) stops

/-- The items of a block list are read up to its end. -/
lemma readItems?_itemTokens (all : ∀ n ∈ items, IsReadBack inline n)
    (enough : 2 * (itemTokens inline items).length < fuel) :
    readItems? handles fuel (itemTokens inline items ++ .blockEnd :: rest) anchors =
      some ⟨items, rest, anchors⟩ := by
  induction items generalizing fuel with
  | nil =>
    obtain ⟨fuel, rfl⟩ := Nat.exists_eq_add_one.2 enough
    rfl
  | cons n ns ih =>
    obtain ⟨fuel, rfl⟩ := Nat.exists_eq_add_one.2 (Nat.zero_lt_of_lt enough)
    obtain ⟨first, others⟩ := List.forall_mem_cons.1 all
    simp only [itemTokens, List.length_cons, List.length_append] at enough
    have here : 2 * (tokens inline .inBlock n).length + 0 < fuel := by omega
    have after : 2 * (itemTokens inline ns).length < fuel := by omega
    rw [itemTokens, List.cons_append, List.append_assoc, readItems?_item, first.readOr? here nofun]
    simp [ih others after]

/-- The items of a list that is not indented are read up to what is none. -/
lemma readFlushItems?_itemTokens (all : ∀ n ∈ items, IsReadBack inline n)
    (enough : 2 * (itemTokens inline items).length < fuel) (ends : rest.head? ≠ some .item) :
    readFlushItems? handles fuel (itemTokens inline items ++ rest) anchors =
      some ⟨items, rest, anchors⟩ := by
  induction items generalizing fuel with
  | nil =>
    obtain ⟨fuel, rfl⟩ := Nat.exists_eq_add_one.2 enough
    exact readFlushItems?_end ends
  | cons n ns ih =>
    obtain ⟨fuel, rfl⟩ := Nat.exists_eq_add_one.2 (Nat.zero_lt_of_lt enough)
    obtain ⟨first, others⟩ := List.forall_mem_cons.1 all
    simp only [itemTokens, List.length_cons, List.length_append] at enough
    have here : 2 * (tokens inline .inBlock n).length + 0 < fuel := by omega
    have after : 2 * (itemTokens inline ns).length < fuel := by omega
    rw [itemTokens, List.cons_append, List.append_assoc, readFlushItems?_item,
      first.readOr? here nofun]
    simp [ih others after]

/-- The entries of a block mapping are read up to its end. -/
lemma readEntries?_entryTokens (keys : ∀ e ∈ entries, IsReadBack inline e.1)
    (values : ∀ e ∈ entries, IsReadBack inline e.2)
    (enough : 2 * (entryTokens inline entries).length < fuel) :
    readEntries? handles fuel (entryTokens inline entries ++ .blockEnd :: rest) anchors =
      some ⟨entries, rest, anchors⟩ := by
  induction entries generalizing fuel with
  | nil =>
    obtain ⟨fuel, rfl⟩ := Nat.exists_eq_add_one.2 enough
    rfl
  | cons e entries ih =>
    obtain ⟨k, v⟩ := e
    obtain ⟨fuel, rfl⟩ := Nat.exists_eq_add_one.2 (Nat.zero_lt_of_lt enough)
    obtain ⟨key, otherKeys⟩ := List.forall_mem_cons.1 keys
    obtain ⟨value, otherValues⟩ := List.forall_mem_cons.1 values
    simp only [entryTokens, List.length_cons, List.length_append] at enough
    have ends : (entryTokens inline entries ++ .blockEnd :: rest).head? ≠ some .item := by
      cases entries <;> nofun
    have inKey : 2 * (tokens inline .underKey k).length + 2 < fuel := by omega
    have inValue : 2 * (tokens inline .underKey v).length + 2 < fuel := by omega
    have after : 2 * (entryTokens inline entries).length < fuel := by omega
    rw [entryTokens, List.cons_append, List.append_assoc, List.cons_append, List.append_assoc,
      readEntries?_key, endsEntry_tokens, key.readOr? inKey fun _ => by simp]
    simp [endsEntry_tokens, value.readOr? inValue fun _ => ends, ih otherKeys otherValues after]

/-- The parts between brackets are read up to the bracket. -/
lemma readParts?_partTokens {first : Bool} (all : ∀ n ∈ items, IsReadBack inline n)
    (enough : 2 * (partTokens inline first items).length < fuel) :
    readParts? handles first fuel (partTokens inline first items ++ .sequenceEnd :: rest) anchors =
      some ⟨items, rest, anchors⟩ := by
  induction items generalizing first fuel with
  | nil =>
    obtain ⟨fuel, rfl⟩ := Nat.exists_eq_add_one.2 enough
    rfl
  | cons n ns ih =>
    obtain ⟨fuel, rfl⟩ := Nat.exists_eq_add_one.2 (Nat.zero_lt_of_lt enough)
    obtain ⟨head, others⟩ := List.forall_mem_cons.1 all
    have some := length_tokens_pos inline .inBrackets n
    simp only [partTokens, List.length_append] at enough
    have here : 2 * (tokens inline .inBrackets n).length + 0 ≤ fuel := by omega
    have after : 2 * (partTokens inline false ns).length < fuel := by omega
    rw [partTokens, List.append_assoc, List.append_assoc, readParts?_part,
      head _ _ _ _ _ here nofun]
    simp [ih others after]

/-- An entry between braces is read up to the end of its value. -/
lemma readPair?_tokens {k v : Node} (key : IsReadBack inline k) (value : IsReadBack inline v)
    (enough : 2 * ((tokens inline .inBrackets k).length +
      (tokens inline .inBrackets v).length) + 2 ≤ fuel) :
    readPair? handles .mappingEnd fuel
        (tokens inline .inBrackets k ++ .value :: (tokens inline .inBrackets v ++ rest)) anchors =
      some ⟨(k, v), rest, anchors⟩ := by
  obtain ⟨fuel, rfl⟩ := Nat.exists_eq_add_one.2 (Nat.zero_lt_of_lt enough)
  have inKey : 2 * (tokens inline .inBrackets k).length + 0 < fuel := by omega
  have inValue : 2 * (tokens inline .inBrackets v).length + 0 < fuel := by omega
  rw [readPair?, endsKey_tokens, key.readOr? inKey nofun]
  simp [endsValue_tokens, value.readOr? inValue nofun]

/-- The entries between braces are read up to the brace. -/
lemma readPairs?_pairTokens {first : Bool} (keys : ∀ e ∈ entries, IsReadBack inline e.1)
    (values : ∀ e ∈ entries, IsReadBack inline e.2)
    (enough : 2 * (pairTokens inline first entries).length < fuel) :
    readPairs? handles first fuel (pairTokens inline first entries ++ .mappingEnd :: rest) anchors =
      some ⟨entries, rest, anchors⟩ := by
  induction entries generalizing first fuel with
  | nil =>
    obtain ⟨fuel, rfl⟩ := Nat.exists_eq_add_one.2 enough
    rfl
  | cons e entries ih =>
    obtain ⟨k, v⟩ := e
    obtain ⟨fuel, rfl⟩ := Nat.exists_eq_add_one.2 (Nat.zero_lt_of_lt enough)
    obtain ⟨key, otherKeys⟩ := List.forall_mem_cons.1 keys
    obtain ⟨value, otherValues⟩ := List.forall_mem_cons.1 values
    simp only [pairTokens, List.length_cons, List.length_append] at enough
    have here : 2 * ((tokens inline .inBrackets k).length +
      (tokens inline .inBrackets v).length) + 2 ≤ fuel := by omega
    have after : 2 * (pairTokens inline false entries).length < fuel := by omega
    rw [pairTokens, List.append_assoc, List.cons_append, List.append_assoc, List.cons_append,
      List.append_assoc, readPairs?_key, readPair?_tokens key value here]
    simp [ih otherKeys otherValues after]

/-! ### Nodes -/

/-- A scalar is one token, and its type is found out again. -/
lemma isReadBack_scalar {type : NodeType} {text : String}
    (same : scalarType none text (type = .ofPlain text) = type) :
    IsReadBack inline (.scalar type text) := by
  intro handles place fuel rest anchors enough _
  rw [tokens, List.length_singleton] at enough
  obtain ⟨fuel, rfl⟩ := Nat.exists_eq_add_one.2 (show 0 < fuel by omega)
  rw [tokens, List.singleton_append, read?_scalar, same]

/-- A list is read back from brackets, from a block and from items that are not indented. -/
lemma isReadBack_list (all : ∀ n ∈ items, IsReadBack inline n) :
    IsReadBack inline (.list .list items) := by
  intro handles place fuel rest anchors enough stops
  rw [tokens] at enough ⊢
  by_cases brackets : place = .inBrackets || inline (.list .list items) || items.isEmpty
  · rw [if_pos brackets] at enough ⊢
    simp only [List.length_cons, List.length_append] at enough
    obtain ⟨fuel, rfl⟩ := Nat.exists_eq_add_one.2 (show 0 < fuel by omega)
    have inside : 2 * (partTokens inline true items).length < fuel := by omega
    rw [List.cons_append, List.append_assoc, List.singleton_append, read?_sequenceStart,
      readParts?_partTokens all inside, Option.map_some]
  rw [if_neg brackets] at enough ⊢
  by_cases flush : place = .underKey
  · subst flush
    rw [if_pos rfl, if_pos rfl] at enough
    obtain ⟨fuel, rfl⟩ := Nat.exists_eq_add_one.2 (show 0 < fuel by omega)
    have inside : 2 * (itemTokens inline items).length < fuel := by omega
    cases items with
    | nil => simp at brackets
    | cons n ns =>
      rw [if_pos rfl, itemTokens, List.cons_append, read?_item, ← List.cons_append, ← itemTokens,
        readFlushItems?_itemTokens all inside (stops rfl), Option.map_some]
  · rw [if_neg flush, if_neg flush] at enough
    simp only [List.length_cons, List.length_append] at enough
    obtain ⟨fuel, rfl⟩ := Nat.exists_eq_add_one.2 (show 0 < fuel by omega)
    have inside : 2 * (itemTokens inline items).length < fuel := by omega
    have block : place ≠ .inBrackets := fun same => brackets (by simp [same])
    rw [if_neg flush, List.cons_append, List.append_assoc, List.singleton_append,
      read?_blockSequenceStart block, readItems?_itemTokens all inside, Option.map_some]

/-- A mapping is read back from braces and from a block. -/
lemma isReadBack_map (keys : ∀ e ∈ entries, IsReadBack inline e.1)
    (values : ∀ e ∈ entries, IsReadBack inline e.2) : IsReadBack inline (.map .map entries) := by
  intro handles place fuel rest anchors enough _
  rw [tokens] at enough ⊢
  by_cases brackets : place = .inBrackets || inline (.map .map entries) || entries.isEmpty
  · rw [if_pos brackets] at enough ⊢
    simp only [List.length_cons, List.length_append] at enough
    obtain ⟨fuel, rfl⟩ := Nat.exists_eq_add_one.2 (show 0 < fuel by omega)
    have inside : 2 * (pairTokens inline true entries).length < fuel := by omega
    rw [List.cons_append, List.append_assoc, List.singleton_append, read?_mappingStart,
      readPairs?_pairTokens keys values inside, Option.map_some]
  · rw [if_neg brackets] at enough ⊢
    simp only [List.length_cons, List.length_append] at enough
    obtain ⟨fuel, rfl⟩ := Nat.exists_eq_add_one.2 (show 0 < fuel by omega)
    have inside : 2 * (entryTokens inline entries).length < fuel := by omega
    have block : place ≠ .inBrackets := fun same => brackets (by simp [same])
    rw [List.cons_append, List.append_assoc, List.singleton_append, read?_blockMappingStart block,
      readEntries?_entryTokens keys values inside, Option.map_some]

/-- A node without tags is read back from its tokens. -/
lemma IsUntagged.isReadBack (h : IsUntagged n) : IsReadBack inline n := by
  induction h with
  | plain text =>
    refine isReadBack_scalar ?_
    rw [scalarType, decide_eq_true rfl, if_pos rfl]
  | quoted text =>
    refine isReadBack_scalar ?_
    rw [scalarType]
    split_ifs with same
    · exact (of_decide_eq_true same).symm
    · rfl
  | list all ih => exact isReadBack_list ih
  | map keys values ihKeys ihValues => exact isReadBack_map ihKeys ihValues

/-- A document without directives and marks is one node, and nothing follows it. -/
lemma ofTokens?_cons {t : Token} {more : List Token} (opens : Opens .inBlock t) :
    ofTokens? (t :: more) =
      (read? Handles.standard .inBlock (2 * (t :: more).length + 2) (t :: more) []).bind fun p =>
        if (p.rest.dropWhile (· = .documentEnd)).isEmpty then some (some p.result) else none := by
  cases t <;> first | rfl | cases opens

variable (inline) in
/-- However a node without tags is written, its tokens are put together to it. -/
theorem ofTokens?_tokens (h : IsUntagged n) :
    ofTokens? (tokens inline .inBlock n) = some (some n) := by
  have read := @IsUntagged.isReadBack inline n h Handles.standard .inBlock
    (2 * (tokens inline .inBlock n).length + 2) [] [] (Nat.le_add_right _ 2) nofun
  obtain ⟨t, more, starts, opens⟩ := exists_tokens_eq inline .inBlock n
  rw [List.append_nil, starts] at read
  rw [starts, ofTokens?_cons opens, read]
  rfl

end

/-! ### Nodes of values -/

/-- The node of a scalar: one that is no text has the type that its text looks like. -/
def ofScalar (s : Scalar) : Node :=
  .scalar (match s with | .text _ => .text | _ => .ofPlain (scalarText s)) (scalarText s)

mutual

/-- The node of a value. -/
def ofValue : Value → Node
  | .scalar s => ofScalar s
  | .list items => .list .list (ofValues items)
  | .map entries => .map .map (ofEntries entries)
termination_by structural v => v

def ofValues : List Value → List Node
  | [] => []
  | v :: vs => ofValue v :: ofValues vs
termination_by structural vs => vs

def ofEntries : Entries → List (Node × Node)
  | [] => []
  | (key, v) :: rest => (ofScalar key, ofValue v) :: ofEntries rest
termination_by structural entries => entries

end

lemma isUntagged_ofScalar (s : Scalar) : IsUntagged (ofScalar s) := by
  cases s <;> first | exact .plain _ | exact .quoted _

mutual

/-- No part of the node of a value has a tag. -/
lemma isUntagged_ofValue (v : Value) : IsUntagged (ofValue v) := by
  match v with
  | .scalar s => exact isUntagged_ofScalar s
  | .list items => exact .list (forall_ofValues items)
  | .map entries =>
    have all := forall_ofEntries entries
    exact .map (fun e mem => (all e mem).1) fun e mem => (all e mem).2

lemma forall_ofValues (vs : List Value) : ∀ n ∈ ofValues vs, IsUntagged n := by
  match vs with
  | [] => exact List.forall_mem_nil _
  | v :: vs => exact List.forall_mem_cons.2 ⟨isUntagged_ofValue v, forall_ofValues vs⟩

lemma forall_ofEntries (entries : Entries) :
    ∀ e ∈ ofEntries entries, IsUntagged e.1 ∧ IsUntagged e.2 := by
  match entries with
  | [] => exact List.forall_mem_nil _
  | (key, v) :: rest =>
    exact List.forall_mem_cons.2 ⟨⟨isUntagged_ofScalar key, isUntagged_ofValue v⟩,
      forall_ofEntries rest⟩

end

/-- A value can be written: the texts of its scalars say all of them, and the keys of its mappings
are distinct. -/
inductive IsWritable : Value → Prop
  | scalar {s : Scalar} (faithful : IsFaithful s) : IsWritable (.scalar s)
  | list {items : List Value} (all : ∀ v ∈ items, IsWritable v) : IsWritable (.list items)
  | map {entries : Entries} (distinct : Entries.Distinct entries)
      (keys : ∀ e ∈ entries, IsFaithful e.1) (values : ∀ e ∈ entries, IsWritable e.2) :
      IsWritable (.map entries)

/-- The type of the node of a scalar reads its text as the scalar. -/
lemma exists_ofScalar_eq {s : Scalar} (faithful : IsFaithful s) :
    ∃ type : NodeType, ofScalar s = .scalar type (scalarText s) ∧
      type.scalar (scalarText s) = .ok s := by
  refine ⟨_, rfl, ?_⟩
  cases s with
  | text s => rfl
  | _ => exact scalar_scalarText faithful nofun

/-- A key that is read as a scalar is the scalar. -/
lemma keyValue_scalar {type : NodeType} {text : String} {s : Scalar}
    (read : type.scalar text = .ok s) : keyValue (.scalar type text) = .ok s := by
  cases type <;> first | exact read | cases read

/-- An entry whose key is read as a scalar is no entry to be merged. -/
lemma pairs_cons {type : NodeType} {text : String} {s : Scalar} (read : type.scalar text = .ok s)
    (n : Node) (rest : List (Node × Node)) :
    pairs ((.scalar type text, n) :: rest) = do
      let key ← keyValue (.scalar type text)
      let v ← value n
      let (merged, own) ← pairs rest
      return (merged, (key, v) :: own) := by
  cases type <;> first | rfl | cases read

lemma values_ofValues {vs : List Value} (all : ∀ v ∈ vs, (ofValue v).value = .ok v) :
    values (ofValues vs) = .ok vs := by
  induction vs with
  | nil => rfl
  | cons v vs ih =>
    obtain ⟨first, others⟩ := List.forall_mem_cons.1 all
    rw [ofValues, values, first, ih others]
    rfl

/-- The entries of a mapping are all its own, and none is merged into it. -/
lemma pairs_ofEntries {entries : Entries} (keys : ∀ e ∈ entries, IsFaithful e.1)
    (values : ∀ e ∈ entries, (ofValue e.2).value = .ok e.2) :
    pairs (ofEntries entries) = .ok ([], entries) := by
  induction entries with
  | nil => rfl
  | cons e entries ih =>
    obtain ⟨key, v⟩ := e
    obtain ⟨faithful, otherKeys⟩ := List.forall_mem_cons.1 keys
    obtain ⟨isValue, otherValues⟩ := List.forall_mem_cons.1 values
    obtain ⟨type, node, read⟩ := exists_ofScalar_eq faithful
    rw [ofEntries, node, pairs_cons read, keyValue_scalar read, isValue, ih otherKeys otherValues]
    rfl

/-- The node of a value means the value. -/
theorem value_ofValue {v : Value} (h : IsWritable v) : (ofValue v).value = .ok v := by
  induction h with
  | scalar faithful =>
    obtain ⟨type, node, read⟩ := exists_ofScalar_eq faithful
    rw [ofValue, node, value, read]
    rfl
  | list all ih =>
    rw [ofValue, value, values_ofValues ih]
    rfl
  | map distinct keys values ih =>
    have own := Entries.ofPairs_of_distinct distinct
    rw [ofValue, value, pairs_ofEntries keys ih]
    exact congrArg (fun entries => Except.ok (Value.map entries)) own

end Node

/-- A text is read as a value if its tokens are those of the value, whatever is written in blocks
and whatever in brackets. -/
theorem read_eq_ok {text : String} {v : Value} (h : Node.IsWritable v) (inline : Node → Bool)
    (toks : Token.ofText text = .ok (Node.tokens inline .inBlock (Node.ofValue v))) :
    read text = .ok v := by
  have node := Node.ofTokens?_tokens inline (Node.isUntagged_ofValue v)
  simp only [read, toks, bind, Except.bind, node]
  exact Node.value_ofValue h

-- The items under the key are not indented, and the last of them stands between braces.
example : (Token.ofText "shelf:\n- 3\n- 'true'\n- \x7ba: null\x7d\n").toOption =
    some (Node.tokens (· matches .map _ [(_, .scalar .null _)]) .inBlock (Node.ofValue
      (.map [(.text "shelf", .list [.int 3, .text "true", .map [(.text "a", .null)]])]))) := by
  decide +kernel

end EntityModel.Yaml
