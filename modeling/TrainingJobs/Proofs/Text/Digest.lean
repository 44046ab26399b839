/-
What a fingerprint says of its hash, and what is hashed of the text.

- `hexDigits_add`: the first digits are those of the number without its last digits;
- `hexDigits_eq_iff`: which numbers have the same digits;
- `utf8_inj`: different texts have different bytes;
- `fingerprint_eq_iff`: a fingerprint shows its hash in full;
- `fnvStep_upperHalf_eq_iff`: half of a hash is enough to tell the byte that came last;
- `fnvStep_undone`: a step is undone by one multiplication, so that no later byte makes different hashes equal again;
- `fnv_ne_of_oneByteApart`: one byte that is changed anywhere changes the hash.
-/
import Mathlib.Tactic
import TrainingJobs.Text.Digest

namespace TrainingJobs.Text

theorem hexDigits_add (high low n : Nat) :
    hexDigits (high + low) n = hexDigits high (n / 16 ^ low) ++ hexDigits low n := by
  induction low generalizing n with
  | zero => simp [hexDigits]
  | succ low ih =>
    rw [← Nat.add_assoc, hexDigits, hexDigits, ih, List.append_assoc, Nat.div_div_eq_div_mul, Nat.pow_succ,
      Nat.mul_comm 16]

theorem hexDigit_injective {a b : Nat} (ha : a < 16) (hb : b < 16) (h : hexDigit a = hexDigit b) : a = b := by
  have hall : ∀ a < 16, ∀ b < 16, hexDigit a = hexDigit b → a = b := by decide
  exact hall a ha b hb h

/-- so many digits tell numbers apart up to a multiple of so many powers of 16 -/
theorem hexDigits_eq_iff (width a b : Nat) :
    hexDigits width a = hexDigits width b ↔ a % 16 ^ width = b % 16 ^ width := by
  induction width generalizing a b with
  | zero => simp [hexDigits, Nat.mod_one]
  | succ width ih =>
    have hmod : ∀ n, n % 16 ^ (width + 1) = n % 16 + 16 * (n / 16 % 16 ^ width) := by
      intro n
      rw [Nat.pow_succ, Nat.mul_comm, Nat.mod_mul]
    have ha := Nat.mod_lt a (show 0 < 16 by decide)
    have hb := Nat.mod_lt b (show 0 < 16 by decide)
    rw [hexDigits, hexDigits, hmod, hmod]
    constructor
    · intro h
      obtain ⟨hfront, hlast⟩ := List.append_inj' h rfl
      rw [(ih _ _).1 hfront, hexDigit_injective ha hb (List.cons.inj hlast).1]
    · intro h
      have hlast : a % 16 = b % 16 := by omega
      have hfront : a / 16 % 16 ^ width = b / 16 % 16 ^ width := by omega
      rw [(ih _ _).2 hfront, hlast]

theorem utf8_append (s t : String) : utf8 (s ++ t) = utf8 s ++ utf8 t := by
  rw [utf8, String.toList_append, List.flatMap_append, utf8, utf8]

theorem utf8_inj (s t : String) : utf8 s = utf8 t ↔ s = t := by
  have hbytes : ∀ s : String, s.toByteArray = (utf8 s).toByteArray := fun s => String.utf8Encode_toList.symm
  rw [← String.toByteArray_inj, hbytes, hbytes, List.toByteArray_inj]

theorem fingerprint_eq_iff (s t : String) : fingerprint s = fingerprint t ↔ fnv (utf8 s) = fnv (utf8 t) := by
  have hlt : ∀ n : UInt64, n.toNat < 16 ^ 16 := UInt64.toNat_lt
  rw [fingerprint, fingerprint, String.ofList_inj, hexDigits_eq_iff, Nat.mod_eq_of_lt (hlt _), Nat.mod_eq_of_lt (hlt _),
    UInt64.toNat_inj]

/-! ## The last byte -/

theorem fnv_concat (bytes : List UInt8) (byte : UInt8) : fnv (bytes ++ [byte]) = fnvStep (fnv bytes) byte := by
  rw [fnv, fnv, List.foldl_append, List.foldl_cons, List.foldl_nil]

/-- a word that is moved by half a word or more, either way round, has another upper half -/
theorem upperHalf_add_ne {n d : ℕ} (hlow : 2 ^ 32 ≤ d) (hhigh : d + 2 ^ 32 ≤ 2 ^ 64) :
    (n + d) % 2 ^ 64 / 2 ^ 32 ≠ n % 2 ^ 64 / 2 ^ 32 := by
  omega

/-- numbers that differ in their last byte only are spread over the upper half by the prime -/
theorem upperHalf_mul_prime_inj {m n : ℕ} (hfront : m / 256 = n / 256)
    (h : m * 1099511628211 % 2 ^ 64 / 2 ^ 32 = n * 1099511628211 % 2 ^ 64 / 2 ^ 32) : m = n := by
  by_contra hne
  wlog hlt : n < m generalizing m n
  · exact this hfront.symm h.symm (Ne.symm hne) (by omega)
  obtain ⟨d, rfl⟩ := Nat.exists_eq_add_of_lt hlt
  have hd : d + 1 ≤ 255 := by omega
  have hlow : 2 ^ 32 ≤ (d + 1) * 1099511628211 := by omega
  have hhigh : (d + 1) * 1099511628211 + 2 ^ 32 ≤ 2 ^ 64 := by omega
  rw [Nat.add_assoc, Nat.add_mul] at h
  exact upperHalf_add_ne hlow hhigh h

/-- whatever the hash was before, its upper half tells which byte has been mixed in -/
theorem fnvStep_upperHalf_eq_iff (hash : UInt64) (x y : UInt8) :
    fnvStep hash x >>> 32 = fnvStep hash y >>> 32 ↔ x = y := by
  refine ⟨fun h => ?_, fun h => by rw [h]⟩
  have hhalf : ∀ b : UInt8, (fnvStep hash b >>> 32).toNat =
      (hash ^^^ b.toUInt64).toNat * 1099511628211 % 2 ^ 64 / 2 ^ 32 := by
    intro b
    rw [UInt64.toNat_shiftRight, fnvStep, UInt64.toNat_mul, Nat.shiftRight_eq_div_pow]
    rfl
  have hfront : ∀ b : UInt8, (hash ^^^ b.toUInt64).toNat / 256 = hash.toNat / 256 := by
    intro b
    rw [UInt64.toNat_xor, UInt8.toNat_toUInt64, show 256 = 2 ^ 8 from rfl, Nat.xor_div_two_pow,
      Nat.div_eq_of_lt b.toNat_lt, Nat.xor_zero]
  have hword := congrArg UInt64.toNat h
  rw [hhalf, hhalf] at hword
  have hstate := UInt64.toNat_inj.1 (upperHalf_mul_prime_inj ((hfront x).trans (hfront y).symm) hword)
  exact UInt8.toUInt64_inj.1 ((UInt64.xor_right_inj hash).1 hstate)

/-! ## One byte anywhere -/

/-- what undoes the spreading by the prime, which is odd -/
def fnvUnspread : UInt64 := 0xce965057aff6957b

theorem fnvStep_undone (hash : UInt64) (byte : UInt8) : fnvStep hash byte * fnvUnspread ^^^ byte.toUInt64 = hash := by
  have hone : fnvPrime * fnvUnspread = 1 := by decide
  rw [fnvStep, UInt64.mul_assoc, hone, UInt64.mul_one, UInt64.xor_assoc, UInt64.xor_self, UInt64.xor_zero]

theorem foldl_fnvStep_injective (bytes : List UInt8) : Function.Injective fun hash => bytes.foldl fnvStep hash := by
  induction bytes with
  | nil => exact Function.injective_id
  | cons byte bytes ih =>
    intro h h' heq
    have hstep : fnvStep h byte = fnvStep h' byte := ih heq
    rw [← fnvStep_undone h byte, hstep, fnvStep_undone]

/-- as many bytes, and the same at all places but one -/
def OneByteApart (a b : List UInt8) : Prop := a.length = b.length ∧ ∃! i : ℕ, a[i]? ≠ b[i]?

theorem oneByteApart_iff {a b : List UInt8} : OneByteApart a b ↔
    ∃ before x y after, a = before ++ x :: after ∧ b = before ++ y :: after ∧ x ≠ y := by
  constructor
  · rintro ⟨hlength, i, hne, hunique⟩
    have hsame : ∀ j, j ≠ i → a[j]? = b[j]? := fun j hj => by_contra fun h => hj (hunique j h)
    have hi : i < a.length := by
      by_contra hlt
      exact hne (by rw [List.getElem?_eq_none (by omega), List.getElem?_eq_none (by omega)])
    have hi' : i < b.length := hlength ▸ hi
    have hbefore : a.take i = b.take i := by
      refine List.ext_getElem? fun j => ?_
      rw [List.getElem?_take, List.getElem?_take]
      split_ifs with hj
      · exact hsame j (by omega)
      · rfl
    have hafter : a.drop (i + 1) = b.drop (i + 1) := by
      refine List.ext_getElem? fun j => ?_
      rw [List.getElem?_drop, List.getElem?_drop]
      exact hsame _ (by omega)
    refine ⟨a.take i, a[i], b[i], a.drop (i + 1), ?_, ?_, ?_⟩
    · rw [List.getElem_cons_drop, List.take_append_drop]
    · rw [hbefore, hafter, List.getElem_cons_drop, List.take_append_drop]
    · simpa [List.getElem?_eq_getElem hi, List.getElem?_eq_getElem hi'] using hne
  · rintro ⟨before, x, y, after, rfl, rfl, hne⟩
    refine ⟨by simp, before.length, by simpa using hne, fun j hj => ?_⟩
    by_contra hother
    rcases Nat.lt_or_gt_of_ne hother with hlt | hgt
    · exact hj (by rw [List.getElem?_append_left hlt, List.getElem?_append_left hlt])
    · obtain ⟨k, rfl⟩ := Nat.exists_eq_add_of_lt hgt
      exact hj (by simp [List.getElem?_append_right, Nat.add_assoc])

/-- **One byte changes the hash,** wherever it stands. -/
theorem fnv_ne_of_oneByteApart {a b : List UInt8} (h : OneByteApart a b) : fnv a ≠ fnv b := by
  obtain ⟨before, x, y, after, rfl, rfl, hne⟩ := oneByteApart_iff.1 h
  rw [fnv, fnv, List.foldl_append, List.foldl_append]
  intro heq
  have hstep : fnvStep (fnv before) x = fnvStep (fnv before) y := foldl_fnvStep_injective after heq
  exact hne ((fnvStep_upperHalf_eq_iff _ x y).1 (by rw [hstep]))

theorem fingerprint_length (s : String) : (fingerprint s).length = 16 := by
  rw [fingerprint, String.length_ofList, hexDigits_length]

end TrainingJobs.Text
