import Mathlib.Data.Int.ConditionallyCompleteOrder
import Mathlib.Data.Set.Function
import Mathlib.Order.ConditionallyCompleteLattice.Basic
import SourceCensus.Digest.Fnv
import SourceCensus.Proofs.Outcome

/-! # Hashes of a common tail -/

namespace SourceCensus.Digest

open Function

variable {xs ys : List UInt8}

def primeInverse : UInt64 := 0xCE965057AFF6957B

theorem prime_mul_primeInverse : prime * primeInverse = 1 := by
  decide

def unstir (value byte : UInt64) : UInt64 :=
  (value * primeInverse) ^^^ byte

theorem unstir_stir (value byte : UInt64) : unstir (stir value byte) byte = value := by
  rw [unstir, stir, UInt64.mul_assoc, prime_mul_primeInverse, UInt64.mul_one, UInt64.xor_assoc,
    UInt64.xor_self, UInt64.xor_zero]

theorem stir_unstir (value byte : UInt64) : stir (unstir value byte) byte = value := by
  rw [stir, unstir, UInt64.xor_assoc, UInt64.xor_self, UInt64.xor_zero, UInt64.mul_assoc,
    UInt64.mul_comm primeInverse, prime_mul_primeInverse, UInt64.mul_one]

theorem stir_bijective (byte : UInt64) : Bijective (stir · byte) :=
  bijective_iff_has_inverse.mpr ⟨(unstir · byte), (unstir_stir · byte), (stir_unstir · byte)⟩

theorem stir_comm (value byte : UInt64) : stir value byte = stir byte value := by
  rw [stir, stir, UInt64.xor_comm]

theorem stir_right_injective (value : UInt64) : Injective (stir value) := by
  intro x y h
  rw [stir_comm value x, stir_comm value y] at h
  exact (stir_bijective value).injective h

/-- Steps that can be taken back one by one can be taken back together. -/
theorem foldl_bijective {α β : Type} {step : β → α → β} (h : ∀ a, Bijective (step · a))
    (items : List α) : Bijective fun b => items.foldl step b := by
  induction items with
  | nil => exact bijective_id
  | cons a items ih => exact ih.comp (h a)

theorem hashFrom_bijective (bytes : List UInt8) : Bijective (hashFrom · bytes) := by
  apply foldl_bijective
  intro byte
  exact stir_bijective byte.toUInt64

theorem takeIn_bijective (lineHash : UInt64) : Bijective (takeIn · lineHash) :=
  (stir_bijective separator).comp (hashFrom_bijective (littleEndian lineHash))

theorem combine_append_inj (hashes others tail : List UInt64) :
    combine (hashes ++ tail) = combine (others ++ tail) ↔ combine hashes = combine others := by
  rw [combine_append, combine_append]
  exact (foldl_bijective takeIn_bijective tail).injective.eq_iff

section Integers

theorem exists_word_iff (n : Int) :
    (∃ word : UInt64, (word.toNat : Int) = n) ↔ n ∈ Set.Ico 0 (2 ^ 64) := by
  constructor
  · rintro ⟨word, rfl⟩
    have hlt := word.toNat_lt
    exact ⟨Int.natCast_nonneg _, by omega⟩
  · rintro ⟨hnonneg, hlt⟩
    have hword : n.toNat < 2 ^ 64 := by omega
    refine ⟨UInt64.ofNat n.toNat, ?_⟩
    rw [UInt64.toNat_ofNat_of_lt' hword]
    exact Int.toNat_of_nonneg hnonneg

theorem ofInt_toNat (word : UInt64) : UInt64.ofInt word.toNat = word := by
  have hlt := word.toNat_lt
  rw [UInt64.ofInt, Int.emod_eq_of_lt (by omega) (by omega), Int.toNat_natCast, UInt64.ofNat_toNat]

theorem hashFromInt_toNat (seed : UInt64) (bytes : List UInt8) :
    hashFromInt seed.toNat bytes = (hashFrom seed bytes).toNat := by
  cases bytes with
  | nil => rfl
  | cons byte bytes => rw [hashFromInt, ofInt_toNat, List.isEmpty_cons, if_neg Bool.false_ne_true]

theorem bijOn_hashFromInt (bytes : List UInt8) :
    Set.BijOn (hashFromInt · bytes) (Set.Ico 0 (2 ^ 64)) (Set.Ico 0 (2 ^ 64)) := by
  refine ⟨?_, ?_, ?_⟩
  · intro seed hseed
    obtain ⟨word, rfl⟩ := (exists_word_iff seed).mpr hseed
    exact (exists_word_iff _).mp ⟨_, (hashFromInt_toNat word bytes).symm⟩
  · intro seed hseed other hother heq
    obtain ⟨word, rfl⟩ := (exists_word_iff seed).mpr hseed
    obtain ⟨word', rfl⟩ := (exists_word_iff other).mpr hother
    simp only [hashFromInt_toNat, Int.natCast_inj, UInt64.toNat_inj] at heq
    rw [(hashFrom_bijective bytes).injective heq]
  · intro hash hhash
    obtain ⟨word, rfl⟩ := (exists_word_iff hash).mpr hhash
    obtain ⟨seed, rfl⟩ := (hashFrom_bijective bytes).surjective word
    exact ⟨seed.toNat, (exists_word_iff _).mp ⟨seed, rfl⟩, hashFromInt_toNat seed bytes⟩

theorem word?_toNat (word : UInt64) : word? word.toNat = .ok word := by
  have hlt := word.toNat_lt
  rw [word?, if_neg (by omega), if_pos (by omega), Int.toNat_natCast, UInt64.ofNat_toNat]

theorem combine?_toNat (hashes : List UInt64) :
    combine? (hashes.map fun word => (word.toNat : Int)) = .ok (combine hashes) := by
  have hwords : hashes.mapM (fun word => word? word.toNat) = .ok (hashes.map id) :=
    mapM_eq_ok fun word _ => word?_toNat word
  rw [combine?, List.mapM_map, comp_def, hwords, List.map_id, map_ok]

end Integers

section ChangedByte

/-- Bytes of one length that are different in exactly one place. -/
def DifferOnce (xs ys : List UInt8) : Prop :=
  xs.length = ys.length ∧ ∃! i : Nat, xs[i]? ≠ ys[i]?

theorem DifferOnce.exists_split (h : DifferOnce xs ys) :
    ∃ front x y back, xs = front ++ x :: back ∧ ys = front ++ y :: back ∧ x ≠ y := by
  obtain ⟨hlength, i, hne, hunique⟩ := h
  have hsame : ∀ j, j ≠ i → xs[j]? = ys[j]? := fun j hj => not_imp_comm.mp (hunique j) hj
  have hx : i < xs.length := by
    by_contra hge
    exact hne (by rw [List.getElem?_eq_none (by omega), List.getElem?_eq_none (by omega)])
  have hy : i < ys.length := hlength ▸ hx
  have hfront : ys.take i = xs.take i := by
    apply List.ext_getElem?
    intro j
    rw [List.getElem?_take, List.getElem?_take]
    split_ifs with hj
    · exact (hsame j (by omega)).symm
    · rfl
  have hback : ys.drop (i + 1) = xs.drop (i + 1) := by
    apply List.ext_getElem?
    intro j
    rw [List.getElem?_drop, List.getElem?_drop]
    exact (hsame _ (by omega)).symm
  refine ⟨xs.take i, xs[i], ys[i], xs.drop (i + 1), ?_, ?_, ?_⟩
  · rw [List.getElem_cons_drop, List.take_append_drop]
  · rw [← hfront, ← hback, List.getElem_cons_drop, List.take_append_drop]
  · intro heq
    rw [List.getElem?_eq_getElem hx, List.getElem?_eq_getElem hy, heq] at hne
    exact hne rfl

theorem DifferOnce.hashFrom_ne (h : DifferOnce xs ys) (seed : UInt64) :
    hashFrom seed xs ≠ hashFrom seed ys := by
  obtain ⟨front, x, y, back, rfl, rfl, hne⟩ := h.exists_split
  intro heq
  rw [hashFrom_append, hashFrom_append, hashFrom_cons, hashFrom_cons] at heq
  have hstep := stir_right_injective _ ((hashFrom_bijective back).injective heq)
  exact hne (UInt8.toUInt64_inj.mp hstep)

end ChangedByte

/-- Any bytes map the hashes below `2 ^ 64` one to one onto themselves.  So windows that end alike, whose
line hashes are all below `2 ^ 64`, collide exactly when they do without that end, and lines that are
different in one byte never do. -/
theorem common_tail_keeps_collisions :
    (∀ bytes, Set.BijOn (hashFromInt · bytes) (Set.Ico 0 (2 ^ 64)) (Set.Ico 0 (2 ^ 64))) ∧
    (∀ hashes : List UInt64,
      combine? (hashes.map fun word => (word.toNat : Int)) = .ok (combine hashes)) ∧
    (∀ hashes others tail : List UInt64,
      combine (hashes ++ tail) = combine (others ++ tail) ↔ combine hashes = combine others) ∧
    ∀ line other : List Char, DifferOnce (Text.Utf8.encode line) (Text.Utf8.encode other) →
      hashLine line ≠ hashLine other :=
  ⟨bijOn_hashFromInt, combine?_toNat, combine_append_inj, fun _ _ h => h.hashFrom_ne offsetBasis⟩

/-- A character of two bytes is changed in its second byte. -/
theorem accented_lines_differ :
    DifferOnce (Text.Utf8.encode ['\u00e8', '=', '1']) (Text.Utf8.encode ['\u00e9', '=', '1']) ∧
      hashLine ['\u00e8', '=', '1'] ≠ hashLine ['\u00e9', '=', '1'] := by
  have h : DifferOnce (Text.Utf8.encode ['\u00e8', '=', '1'])
      (Text.Utf8.encode ['\u00e9', '=', '1']) := by
    refine ⟨by decide, 1, by decide, fun i hi => ?_⟩
    match i with
    | 0 => exact absurd rfl hi
    | 1 => rfl
    | 2 => exact absurd rfl hi
    | 3 => exact absurd rfl hi
    | i + 4 => exact absurd rfl hi
  exact ⟨h, common_tail_keeps_collisions.2.2.2 _ _ h⟩

end SourceCensus.Digest
