import CcsTrans.Core.Sha256
import CcsTrans.SecureHash

/-!
The hash of a byte string is that of the standard.

The standard pads bits and takes words of them, and numbers its words from the first. The program
pads bytes, puts words together from four of them, and has the latest words at hand.
-/

namespace CcsTrans.Core

open CcsTrans.Text CcsTrans.Json
open CcsTrans.SecureHash (Word number bitsOf number_append length_bitsOf)

/-! ### Bits of bytes -/

/-- The bits of a byte string, the most significant of each byte first. -/
def bits (s : Bytes) : List Bool := s.flatMap fun b => bitsOf 8 b.toNat

lemma bits_cons (b : UInt8) (s : Bytes) : bits (b :: s) = bitsOf 8 b.toNat ++ bits s := rfl

lemma bits_append (s t : Bytes) : bits (s ++ t) = bits s ++ bits t := List.flatMap_append ..

lemma length_bits (s : Bytes) : (bits s).length = 8 * s.length := by
  induction s with
  | nil => rfl
  | cons b s ih =>
    rw [bits_cons, List.length_append, length_bitsOf, ih, List.length_cons]
    ring

lemma bits_take (k : ℕ) (s : Bytes) : (bits s).take (8 * k) = bits (s.take k) := by
  induction k generalizing s with
  | zero => rfl
  | succ k ih =>
    cases s with
    | nil => rfl
    | cons b s =>
      rw [bits_cons, List.take_succ_cons, bits_cons, ← ih, List.take_append, length_bitsOf,
        List.take_of_length_le (by rw [length_bitsOf]; omega)]
      congr 2

lemma bits_drop (k : ℕ) (s : Bytes) : (bits s).drop (8 * k) = bits (s.drop k) := by
  induction k generalizing s with
  | zero => rfl
  | succ k ih =>
    cases s with
    | nil => rfl
    | cons b s =>
      rw [bits_cons, List.drop_succ_cons, ← ih, List.drop_append, length_bitsOf,
        List.drop_eq_nil_of_le (by rw [length_bitsOf]; omega)]
      rfl

lemma number_bitsOf_byte (b : UInt8) : number (bitsOf 8 b.toNat) = b.toNat := by
  have hall : ∀ n < 256, number (bitsOf 8 n) = n := by decide +kernel
  exact hall b.toNat b.toNat_lt

lemma number_bits_cons (b : UInt8) (s : Bytes) :
    number (bits (b :: s)) = b.toNat * 2 ^ (8 * s.length) + number (bits s) := by
  rw [bits_cons, number_append, number_bitsOf_byte, length_bits]

/-! ### Words of a block -/

/-- A word of bits is one of four bytes. -/
lemma word_bits_eq (s : Bytes) (t : ℕ) :
    SecureHash.word (bits s) t = BitVec.ofNat 32 (number (bits ((s.drop (4 * t)).take 4))) := by
  have hdrop : (bits s).drop (32 * t) = bits (s.drop (4 * t)) := by
    rw [← bits_drop, ← Nat.mul_assoc]
  rw [SecureHash.word, hdrop]
  exact congrArg (fun u => BitVec.ofNat 32 (number u)) (bits_take 4 _)

/-- Four bytes as one word. -/
lemma word_bits (p q r u : UInt8) (s : Bytes) : SecureHash.word (bits (p :: q :: r :: u :: s)) 0 =
    ((p.toUInt32 <<< 24) ||| (q.toUInt32 <<< 16) ||| (r.toUInt32 <<< 8) ||| u.toUInt32).toBitVec := by
  have hp := p.toNat_lt
  have hq := q.toNat_lt
  have hr := r.toNat_lt
  have hu := u.toNat_lt
  have hnumber : number (bits [p, q, r, u]) =
      p.toNat * 2 ^ 24 + (q.toNat * 2 ^ 16 + (r.toNat * 2 ^ 8 + u.toNat)) := by
    rw [number_bits_cons, number_bits_cons, number_bits_cons, number_bits_cons]
    simp [bits, number]
  have hword : ((p.toUInt32 <<< 24) ||| (q.toUInt32 <<< 16) ||| (r.toUInt32 <<< 8) ||| u.toUInt32).toNat =
      u.toNat + r.toNat * 2 ^ 8 + q.toNat * 2 ^ 16 + p.toNat * 2 ^ 24 := by
    simp only [UInt32.toNat_or, UInt32.toNat_shiftLeft, UInt8.toNat_toUInt32]
    change p.toNat <<< 24 % 2 ^ 32 ||| q.toNat <<< 16 % 2 ^ 32 ||| r.toNat <<< 8 % 2 ^ 32 ||| u.toNat = _
    rw [shiftLeft_byte (by omega), shiftLeft_byte (by omega), shiftLeft_byte (by omega), Nat.or_comm,
      Nat.or_comm (_ ||| _) (r.toNat <<< 8), Nat.or_comm (p.toNat <<< 24), ← Nat.or_assoc, ← Nat.or_assoc,
      or_shiftLeft hu, @or_shiftLeft (u.toNat + r.toNat * 2 ^ 8) _ 16 (by omega),
      @or_shiftLeft (u.toNat + r.toNat * 2 ^ 8 + q.toNat * 2 ^ 16) _ 24 (by omega)]
  apply BitVec.eq_of_toNat_eq
  rw [word_bits_eq, show ((p :: q :: r :: u :: s).drop (4 * 0)).take 4 = [p, q, r, u] from rfl, hnumber,
    BitVec.toNat_ofNat, UInt32.toNat_toBitVec, hword]
  omega

lemma word_bits_succ (p q r u : UInt8) (s : Bytes) (t : ℕ) :
    SecureHash.word (bits (p :: q :: r :: u :: s)) (t + 1) = SecureHash.word (bits s) t := by
  rw [word_bits_eq, word_bits_eq, Nat.mul_add]
  rfl

/-- The words of a block. -/
lemma blockWords_eq {n : ℕ} {s : Bytes} (h : s.length = 4 * n) :
    blockWords s = (List.range n).map fun t => UInt32.ofBitVec (SecureHash.word (bits s) t) := by
  induction n generalizing s with
  | zero =>
    rw [List.length_eq_zero_iff.mp h]
    rfl
  | succ n ih =>
    match s with
    | p :: q :: r :: u :: s =>
      simp only [List.length_cons] at h
      have htail : (List.range n).map (fun t => UInt32.ofBitVec (SecureHash.word (bits s) t)) =
          (List.range n).map ((fun t => UInt32.ofBitVec
            (SecureHash.word (bits (p :: q :: r :: u :: s)) t)) ∘ Nat.succ) :=
        List.map_congr_left fun t _ => by rw [Function.comp_apply, word_bits_succ]
      rw [blockWords, ih (by omega), List.range_succ_eq_map, List.map_cons, List.map_map, word_bits, htail]

/-! ### The schedule and the steps -/

/-- The word of a step, as the program has it. -/
def scheduledWord (block : List Bool) (t : ℕ) : UInt32 := UInt32.ofBitVec (SecureHash.scheduled block t)

/-- The latest words are at the front. -/
lemma getD_scheduled (block : List Bool) {m i : ℕ} (h : i < m) :
    ((List.range m).map (scheduledWord block)).reverse.getD i 0 = scheduledWord block (m - 1 - i) := by
  rw [List.getD_eq_getElem?_getD, List.getElem?_reverse (by simpa using h)]
  simp only [List.length_map, List.length_range, List.getElem?_map]
  rw [List.getElem?_range (by omega)]
  rfl

lemma nextWord_scheduled (block : List Bool) {m : ℕ} (h : 16 ≤ m) :
    nextWord ((List.range m).map (scheduledWord block)).reverse = scheduledWord block m := by
  have hword : scheduledWord block m = UInt32.ofBitVec (SecureHash.sigma1 (SecureHash.scheduled block (m - 2)) +
      SecureHash.scheduled block (m - 7) + SecureHash.sigma0 (SecureHash.scheduled block (m - 15)) +
      SecureHash.scheduled block (m - 16)) := by
    rw [scheduledWord, SecureHash.scheduled, if_neg (by omega)]
  have hsum (w v u s : Word) : w + SecureHash.sigma0 v + u + SecureHash.sigma1 s =
      SecureHash.sigma1 s + u + SecureHash.sigma0 v + w := by
    ac_rfl
  rw [hword, ← hsum]
  unfold nextWord
  simp only [getD_scheduled block (show 14 < m by omega), getD_scheduled block (show 1 < m by omega),
    getD_scheduled block (show 15 < m by omega), getD_scheduled block (show 6 < m by omega)]
  rw [show m - 1 - 14 = m - 15 by omega, show m - 1 - 1 = m - 2 by omega,
    show m - 1 - 15 = m - 16 by omega, show m - 1 - 6 = m - 7 by omega]
  rfl

/-- The schedule is extended word by word. -/
lemma schedule_eq (block : List Bool) {m : ℕ} (h : 16 ≤ m) (n : ℕ) :
    schedule n ((List.range m).map (scheduledWord block)).reverse =
      ((List.range (m + n)).map (scheduledWord block)).reverse := by
  induction n generalizing m with
  | zero => rfl
  | succ n ih =>
    have hnext : nextWord ((List.range m).map (scheduledWord block)).reverse ::
        ((List.range m).map (scheduledWord block)).reverse =
        ((List.range (m + 1)).map (scheduledWord block)).reverse := by
      rw [nextWord_scheduled block h, List.range_succ, List.map_append, List.reverse_append]
      rfl
    rw [schedule, hnext, ih (by omega), Nat.add_right_comm, Nat.add_assoc]

/-- The words of the state. -/
def Digest.state (d : Digest) : SecureHash.State :=
  ⟨d.a.toBitVec, d.b.toBitVec, d.c.toBitVec, d.d.toBitVec, d.e.toBitVec, d.f.toBitVec, d.g.toBitVec,
    d.h.toBitVec⟩

lemma state_initial : Digest.state {} = SecureHash.initial := by decide +kernel

/-- A prime has no divisor in the range that is searched. -/
lemma primes_filter : SecureHash.primes = (List.range 312).filter fun p =>
    Nat.ble 2 p && (List.range' 2 (p - 2)).all fun d => p % d != 0 := by
  refine List.filter_congr fun p _ => ?_
  rw [Bool.eq_iff_iff, decide_eq_true_iff, Bool.and_eq_true, Nat.ble_eq, List.all_eq_true]
  refine and_congr_right fun hp => ⟨fun h d hd => ?_, fun h d hlt hd => ?_⟩
  · obtain ⟨hle, hlt⟩ := List.mem_range'_1.mp hd
    simpa using h d (by omega) hle
  · simpa using h d (List.mem_range'_1.mpr ⟨hd, by omega⟩)

lemma primes_eq : SecureHash.primes =
    [2, 3, 5, 7, 11, 13, 17, 19, 23, 29, 31, 37, 41, 43, 47, 53, 59, 61, 67, 71, 73, 79, 83, 89, 97, 101,
      103, 107, 109, 113, 127, 131, 137, 139, 149, 151, 157, 163, 167, 173, 179, 181, 191, 193, 197, 199,
      211, 223, 227, 229, 233, 239, 241, 251, 257, 263, 269, 271, 277, 281, 283, 293, 307, 311] := by
  rw [primes_filter]
  decide +kernel

lemma constants_eq : kRoundConstants.map UInt32.toBitVec = SecureHash.constants := by
  rw [SecureHash.constants, primes_eq]
  decide +kernel

/-- The constants of the steps, one for each. -/
lemma roundConstants_eq :
    kRoundConstants = (List.range 64).map fun t => UInt32.ofBitVec (SecureHash.constants.getD t 0) := by
  rw [← constants_eq]
  decide +kernel

/-- The steps of a block. -/
lemma state_steps (block : List Bool) (d : Digest) (n : ℕ) :
    (((List.range n).map fun t => (UInt32.ofBitVec (SecureHash.constants.getD t 0),
      scheduledWord block t)).foldl round d).state = SecureHash.steps d.state block n := by
  induction n with
  | zero => rfl
  | succ n ih =>
    rw [List.range_succ, List.map_append, List.foldl_append, SecureHash.steps, ← ih]
    rfl

/-- **A block is taken in** as the standard takes it. -/
theorem state_transform (d : Digest) {block : Bytes} (h : block.length = 64) :
    (transform d block).state = SecureHash.compress d.state (bits block) := by
  have hwords : blockWords block = (List.range 16).map (scheduledWord (bits block)) := by
    rw [blockWords_eq (n := 16) h]
    refine List.map_congr_left fun t ht => ?_
    rw [scheduledWord, SecureHash.scheduled, if_pos (List.mem_range.mp ht)]
  have hschedule : (schedule 48 (blockWords block).reverse).reverse =
      (List.range 64).map (scheduledWord (bits block)) := by
    rw [hwords, schedule_eq (bits block) (Nat.le_refl 16) 48, List.reverse_reverse]
  have hsteps := state_steps (bits block) d 64
  have hzip : kRoundConstants.zip (schedule 48 (blockWords block).reverse).reverse =
      (List.range 64).map fun t => (UInt32.ofBitVec (SecureHash.constants.getD t 0),
        scheduledWord (bits block) t) := by
    rw [hschedule, roundConstants_eq, List.zip_map']
  unfold transform
  dsimp only
  rw [hzip, SecureHash.compress, ← hsteps]
  simp only [Digest.state, UInt32.toBitVec_add, BitVec.add_comm]

/-! ### Padding -/

lemma bits_zeros (n : ℕ) : bits (List.replicate n 0) = List.replicate (8 * n) false := by
  induction n with
  | zero => rfl
  | succ n ih =>
    rw [List.replicate_succ, bits_cons, ih, Nat.mul_succ, Nat.add_comm, List.replicate_add]
    rfl

/-- The eight bytes of a length are its sixty-four bits. -/
lemma bits_length (n : ℕ) :
    bits ((List.range 8).map fun i => (n / 256 ^ (7 - i)).toUInt8) = bitsOf 64 n := by
  have hbyte : ∀ i ∈ List.range 8, bitsOf 8 (n / 256 ^ (7 - i)).toUInt8.toNat =
      (List.range 8).map fun j => n.testBit (64 - 1 - (8 * i + j)) := by
    intro i hi
    have hi := List.mem_range.mp hi
    refine List.map_congr_left fun j hj => ?_
    have hj := List.mem_range.mp hj
    rw [Nat.toUInt8_eq, UInt8.toNat_ofNat', Nat.testBit_mod_two_pow, decide_eq_true (by omega), Bool.true_and,
      show 256 ^ (7 - i) = 2 ^ (8 * (7 - i)) by rw [Nat.pow_mul], Nat.testBit_div_two_pow]
    congr 1
    omega
  rw [bits, List.flatMap_map, List.flatMap_congr hbyte]
  rfl

lemma length_padding (n : ℕ) : (padding n).length = 9 + (119 - n % 64) % 64 := by
  simp only [padding, List.length_append, List.length_cons, List.length_replicate, List.length_map,
    List.length_range]
  omega

/-- The padding of bytes is that of bits. -/
lemma bits_padding (content : Bytes) :
    bits (content ++ padding content.length) = SecureHash.pad (bits content) := by
  have hzeros : SecureHash.zeros (bits content).length = 7 + 8 * ((119 - content.length % 64) % 64) := by
    rw [SecureHash.zeros_eq, length_bits]
    omega
  rw [SecureHash.pad, hzeros, List.replicate_add, ← bits_zeros, bits_append, padding, bits_append, bits_cons,
    bits_length, length_bits, Nat.mul_comm content.length]
  simp only [List.append_assoc]
  rfl

/-! ### The hash -/

/-- The last of the blocks. -/
lemma blocks_succ (n : ℕ) (s : Bytes) : blocks (n + 1) s = blocks n s ++ [(s.drop (64 * n)).take 64] := by
  induction n generalizing s with
  | zero => rfl
  | succ n ih =>
    rw [blocks, ih, blocks, List.drop_drop, Nat.mul_succ, Nat.add_comm (64 * n)]
    rfl

/-- Blocks are taken in one after the other. -/
lemma state_blocks {s : Bytes} {n : ℕ} (h : 64 * n ≤ s.length) :
    ((blocks n s).foldl transform {}).state = SecureHash.hashed (bits s) n := by
  induction n with
  | zero => exact state_initial
  | succ n ih =>
    have hblock : ((bits s).drop (512 * n)).take 512 = bits ((s.drop (64 * n)).take 64) := by
      have hdrop := bits_drop (64 * n) s
      have htake := bits_take 64 (s.drop (64 * n))
      rw [← Nat.mul_assoc] at hdrop
      rw [← htake, ← hdrop]
    rw [blocks_succ, List.foldl_append, SecureHash.hashed, hblock, ← ih (by omega)]
    exact state_transform _ (by rw [List.length_take, List.length_drop]; omega)

/-- The digits of the hash of a byte string. -/
def hashText (content : Bytes) : Bytes :=
  (SecureHash.hash (bits content)).words.flatMap fun w => hexWord (UInt32.ofBitVec w)

/-- **A digest is the hash of the standard**, in hexadecimal digits. -/
theorem sha256Hex_eq_hashText (content : Bytes) : sha256Hex content = hashText content := by
  have hlength : (content ++ padding content.length).length = 64 *
      ((content ++ padding content.length).length / 64) := by
    rw [List.length_append, length_padding]
    omega
  have hblocks : (SecureHash.pad (bits content)).length / 512 =
      (content ++ padding content.length).length / 64 := by
    rw [← bits_padding, length_bits]
    omega
  have hstate := state_blocks (s := content ++ padding content.length) (Nat.le_of_eq hlength.symm)
  rw [hashText, SecureHash.hash, hblocks, ← bits_padding, ← hstate]
  rfl

end CcsTrans.Core
