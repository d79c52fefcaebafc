import EntityModel.Analysis.Result
import EntityModel.Proofs.Outcome
import Mathlib.Data.List.Infix

/-!
# Padding and blocks of a digest

A message is padded to whole blocks, and no two messages are padded alike. The digest goes through
the blocks one by one, and has sixty-four hexadecimal digits whatever the message; so has the
fingerprint of every result that has one.
-/

namespace EntityModel

namespace Digest

/-! ### Padding -/

@[simp] lemma length_bigEndian (width n : Nat) : (bigEndian width n).length = width := by
  induction width generalizing n with
  | zero => rfl
  | succ width ih => rw [bigEndian, List.length_append, ih, List.length_singleton]

/-- A padded message consists of whole blocks of sixty-four bytes. -/
theorem length_pad_mod (message : List UInt8) : (pad message).length % 64 = 0 := by
  rw [pad]
  simp only [List.length_append, List.length_cons, List.length_replicate, length_bigEndian]
  omega

/-- What follows the first one bit behind zeros does not depend on their number. -/
lemma zeros_append_inj {k l : Nat} {xs ys : List UInt8}
    (same : List.replicate k 0 ++ (0x80 : UInt8) :: xs = List.replicate l 0 ++ 0x80 :: ys) :
    xs = ys := by
  induction k generalizing l with
  | zero =>
    cases l with
    | zero => exact (List.cons.inj same).2
    | succ l => exact absurd (List.cons.inj same).1 (by decide)
  | succ k ih =>
    cases l with
    | zero => exact absurd (List.cons.inj same).1 (by decide)
    | succ l => exact ih (List.cons.inj same).2

/-- No two messages are padded alike: the one bit before the zeros shows where a message ends. -/
theorem pad_injective : Function.Injective pad := by
  intro m m' same
  unfold pad at same
  dsimp only at same
  obtain ⟨padded, -⟩ := List.append_inj' same (by simp)
  have backwards := congrArg List.reverse padded
  simp only [List.reverse_append, List.reverse_cons, List.reverse_replicate, List.append_assoc,
    List.singleton_append] at backwards
  exact List.reverse_injective (zeros_append_inj backwards)

/-! ### Blocks -/

/-- Four bytes make a word. -/
lemma length_words (bs : List UInt8) : (words bs).length = bs.length / 4 := by
  fun_induction words bs with
  | case1 a b c d rest ih =>
    simp only [List.length_cons, ih]
    omega
  | case2 bs short =>
    rcases bs with _ | ⟨a, _ | ⟨b, _ | ⟨c, _ | ⟨d, rest⟩⟩⟩⟩
    · simp
    · simp
    · simp
    · simp
    · exact (short a b c d rest rfl).elim

/-- Words that come in sixteens make blocks. -/
lemma exists_blocks (count : Nat) {ws : List UInt32} (length : ws.length = 16 * count) :
    ∃ blocks : List (List UInt32), (∀ b ∈ blocks, b.length = 16) ∧ blocks.flatten = ws := by
  induction count generalizing ws with
  | zero => exact ⟨[], List.forall_mem_nil _, (List.length_eq_zero_iff.1 length).symm⟩
  | succ count ih =>
    have block : (ws.take 16).length = 16 := by rw [List.length_take, length]; omega
    have others : (ws.drop 16).length = 16 * count := by rw [List.length_drop, length]; omega
    obtain ⟨blocks, sixteen, rest⟩ := ih others
    refine ⟨ws.take 16 :: blocks, List.forall_mem_cons.2 ⟨block, sixteen⟩, ?_⟩
    rw [List.flatten_cons, rest, List.take_append_drop]

/-- The state takes the blocks up one by one, as long as there are words enough to count. -/
lemma compressAll_flatten {blocks : List (List UInt32)} (sixteen : ∀ b ∈ blocks, b.length = 16)
    {count : Nat} (enough : blocks.flatten.length ≤ count) (s : State) :
    compressAll count s blocks.flatten = blocks.foldl (fun s b => compress s b.toArray) s := by
  induction blocks generalizing count s with
  | nil => cases count <;> rfl
  | cons block blocks ih =>
    obtain ⟨first, others⟩ := List.forall_mem_cons.1 sixteen
    rw [List.flatten_cons, List.length_append, first] at enough
    obtain ⟨count, rfl⟩ : ∃ k, count = k + 1 := ⟨count - 1, by omega⟩
    have some : (block ++ blocks.flatten).isEmpty = false := by
      rw [List.isEmpty_eq_false_iff, ← List.length_pos_iff, List.length_append]
      omega
    rw [List.flatten_cons, compressAll, some, if_neg Bool.false_ne_true, ← first, List.take_left,
      List.drop_left, ih others (by omega), List.foldl_cons]

/-- The words of a state, in hexadecimal. -/
def State.shown (s : State) : String :=
  String.join ([s.a, s.b, s.c, s.d, s.e, s.f, s.g, s.h].map hexWord)

/-- The digest is the state after all blocks of the padded message. -/
theorem exists_sha256_eq (message : List UInt8) :
    ∃ blocks : List (List UInt32), (∀ b ∈ blocks, b.length = 16) ∧
      blocks.flatten = words (pad message) ∧
      sha256 message = (blocks.foldl (fun s b => compress s b.toArray) initial).shown := by
  have whole := length_pad_mod message
  have length : (words (pad message)).length = 16 * ((pad message).length / 64) := by
    rw [length_words]
    omega
  obtain ⟨blocks, sixteen, all⟩ := exists_blocks _ length
  refine ⟨blocks, sixteen, all, ?_⟩
  rw [← compressAll_flatten sixteen le_rfl, all]
  rfl

/-! ### Hexadecimal digits -/

/-- The digits in hexadecimal. -/
def hexDigits : List Char := "0123456789abcdef".toList

lemma mem_hexDigits_of_mem_toDigits {n : Nat} : ∀ c ∈ Nat.toDigits 16 n, c ∈ hexDigits := by
  have digit : ∀ d < 16, d.digitChar ∈ hexDigits := by decide
  induction n using Nat.strongRecOn with
  | ind n ih =>
    rw [Nat.toDigits_eq_if (by decide)]
    split_ifs with single
    · exact List.forall_mem_singleton.2 (digit n single)
    · exact List.forall_mem_append.2 ⟨ih (n / 16) (by omega),
        List.forall_mem_singleton.2 (digit _ (Nat.mod_lt n (by decide)))⟩

/-- A word is written in eight hexadecimal digits. -/
lemma toList_hexWord (w : UInt32) :
    (hexWord w).toList.length = 8 ∧ ∀ c ∈ (hexWord w).toList, c ∈ hexDigits := by
  have most : (Nat.toDigits 16 w.toNat).length ≤ 8 :=
    (Nat.length_toDigits_le_iff (by decide) (by decide)).2 w.toNat_lt
  rw [hexWord, String.toList_ofList, List.length_append, List.length_replicate]
  refine ⟨by omega, List.forall_mem_append.2 ⟨fun c mem => ?_, mem_hexDigits_of_mem_toDigits⟩⟩
  rw [List.eq_of_mem_replicate mem]
  decide

/-- Every digest has sixty-four hexadecimal digits. -/
theorem toList_sha256 (message : List UInt8) :
    (sha256 message).toList.length = 64 ∧ ∀ c ∈ (sha256 message).toList, c ∈ hexDigits := by
  obtain ⟨blocks, -, -, digest⟩ := exists_sha256_eq message
  generalize blocks.foldl _ initial = s at digest
  rw [digest, State.shown, String.toList_join, List.flatMap_map]
  constructor
  · simp [(toList_hexWord _).1]
  · simp only [List.mem_flatMap]
    rintro c ⟨w, -, mem⟩
    exact (toList_hexWord w).2 c mem

end Digest

/-- A fingerprint names the digest, and then come its digits. -/
theorem AnalysisResult.toList_fingerprint {r : AnalysisResult} {text : String}
    (ok : r.fingerprint = .ok text) : ∃ digits, text.toList = "sha256:".toList ++ digits ∧
      digits.length = 64 ∧ ∀ c ∈ digits, c ∈ Digest.hexDigits := by
  obtain ⟨canonical, -, same⟩ := Outcome.bind_eq_ok_iff.1 ok
  obtain rfl : "sha256:" ++ Digest.sha256 canonical.toUTF8.toList = text := Except.ok.inj same
  exact ⟨_, String.toList_append, Digest.toList_sha256 _⟩

end EntityModel
