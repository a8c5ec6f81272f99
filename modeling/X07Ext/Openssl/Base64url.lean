import Mathlib.Tactic.Ring
import Mathlib.Tactic.Positivity
import Mathlib.Data.List.GetD
import X07Ext.Openssl.Encoding

/-! # `x07_ext_b64url_nopad` computes unpadded base64url

The specification reads RFC 4648 section 5 off the big-endian bit string of the data:
character `k` is the alphabet entry for bits `6k .. 6k+5`, the bits past the end are zero,
and there is no padding. The encoder's loop keeps `i = 3k`, `j = 4k`, has stored the first
`4k` characters and read the first `3k` bytes; the branches after it add the characters of
the last, partial group and the terminating NUL. -/
namespace X07Ext.Openssl

namespace Rfc4648

def beValue : List UInt8 → ℕ
  | [] => 0
  | b :: bs => b.toNat * 2 ^ (8 * bs.length) + beValue bs

/-- Bits `6k .. 6k+5` of the big-endian bit string of `data`, zero past its end. -/
def sextet (data : List UInt8) (k : ℕ) : ℕ :=
  beValue data * 2 ^ (6 * k + 6) / 2 ^ (8 * data.length) % 64

def alphabet (v : ℕ) : UInt8 :=
  if v < 26 then ('A'.toNat + v).toUInt8
  else if v < 52 then ('a'.toNat + (v - 26)).toUInt8
  else if v < 62 then ('0'.toNat + (v - 52)).toUInt8
  else if v = 62 then '-'.toNat.toUInt8 else '_'.toNat.toUInt8

/-- Characters that cover `8n` bits: `4 * floor(n / 3) + [0, 2, 3][n mod 3]`. -/
def encodedLength (n : ℕ) : ℕ := 4 * (n / 3) + [0, 2, 3].getD (n % 3) 0

def encodeNoPad (data : List UInt8) : List UInt8 :=
  (List.range (encodedLength data.length)).map fun k => alphabet (sextet data k)

def groupValue (data : List UInt8) (k : ℕ) : ℕ :=
  (data.getD (3 * k) 0).toNat * 65536 + (data.getD (3 * k + 1) 0).toNat * 256 +
    (data.getD (3 * k + 2) 0).toNat

theorem beValue_append (a b : List UInt8) :
    beValue (a ++ b) = beValue a * 2 ^ (8 * b.length) + beValue b := by
  induction a with
  | nil => simp [beValue]
  | cons x xs ih =>
    rw [List.cons_append, beValue, beValue, ih, List.length_append, mul_add, pow_add]; ring

theorem beValue_lt (a : List UInt8) : beValue a < 2 ^ (8 * a.length) := by
  induction a with
  | nil => simp [beValue]
  | cons x xs ih =>
    have hx : x.toNat < 2 ^ 8 := x.toNat_lt_size
    calc beValue (x :: xs) = x.toNat * 2 ^ (8 * xs.length) + beValue xs := rfl
      _ < (x.toNat + 1) * 2 ^ (8 * xs.length) := by rw [add_one_mul]; omega
      _ ≤ 2 ^ 8 * 2 ^ (8 * xs.length) := Nat.mul_le_mul_right _ hx
      _ = 2 ^ (8 * (x :: xs).length) := by rw [← pow_add, List.length_cons]; ring_nf

theorem sextet_append_zero (data : List UInt8) (k : ℕ) : sextet (data ++ [0]) k = sextet data k := by
  have hv : beValue (data ++ [0]) = beValue data * 2 ^ 8 := by simp [beValue_append, beValue]
  rw [sextet, sextet, hv, List.length_append, List.length_singleton, mul_add, mul_one,
    pow_add 2 (8 * data.length) 8, mul_right_comm, Nat.mul_div_mul_right _ _ (by positivity)]

theorem mul_pow_div_pow (p r s w : ℕ) :
    (p * 2 ^ w + r) * 2 ^ s / 2 ^ w = p * 2 ^ s + r * 2 ^ s / 2 ^ w := by
  rw [show (p * 2 ^ w + r) * 2 ^ s = r * 2 ^ s + 2 ^ w * (p * 2 ^ s) by ring,
    Nat.add_mul_div_left _ _ (by positivity), add_comm]

theorem mul_pow_div_pow_lt {r : ℕ} (s : ℕ) {w : ℕ} (hr : r < 2 ^ w) : r * 2 ^ s / 2 ^ w < 2 ^ s := by
  rw [Nat.div_lt_iff_lt_mul (by positivity), mul_comm (2 ^ s)]
  exact Nat.mul_lt_mul_of_pos_right hr (by positivity)

theorem window (a g y s sh : ℕ) (hy : y < 2 ^ s) (hs : 6 ≤ s) (hsum : s + sh = 24) :
    ((a * 2 ^ 24 + g) * 2 ^ s + y) / 2 ^ 24 % 64 = g / 2 ^ sh % 64 := by
  have h24 : 2 ^ 24 = 2 ^ s * 2 ^ sh := by rw [← pow_add, hsum]
  rw [h24, ← Nat.div_div_eq_div_mul,
    show (a * (2 ^ s * 2 ^ sh) + g) * 2 ^ s + y = y + 2 ^ s * (a * (2 ^ s * 2 ^ sh) + g) by ring,
    Nat.add_mul_div_left _ _ (by positivity), Nat.div_eq_of_lt hy, zero_add,
    show a * (2 ^ s * 2 ^ sh) + g = g + 2 ^ sh * (a * 2 ^ s) by ring,
    Nat.add_mul_div_left _ _ (by positivity)]
  obtain ⟨t, rfl⟩ : ∃ t, s = t + 6 := ⟨s - 6, by omega⟩
  rw [pow_add, show a * (2 ^ t * 2 ^ 6) = 64 * (a * 2 ^ t) by ring, Nat.add_mul_mod_self_left]

theorem sextet_group (data : List UInt8) (k m : ℕ) (hk : 3 * k + 3 ≤ data.length) (hm : m < 4) :
    sextet data (4 * k + m) = groupValue data k / 2 ^ (18 - 6 * m) % 64 := by
  obtain ⟨x, y, z, c, hd⟩ : ∃ x y z c, data.drop (3 * k) = x :: y :: z :: c := by
    match h : data.drop (3 * k) with
    | x :: y :: z :: c => exact ⟨x, y, z, c, rfl⟩
    | [] | [_] | [_, _] => have := congrArg List.length h; simp at this; omega
  have hal : (data.take (3 * k)).length = 3 * k := by simp; omega
  have hdata : data = data.take (3 * k) ++ x :: y :: z :: c := by rw [← hd, List.take_append_drop]
  generalize data.take (3 * k) = A at hdata hal
  subst hdata
  have hg : groupValue (A ++ x :: y :: z :: c) k = x.toNat * 65536 + y.toNat * 256 + z.toNat := by
    rw [groupValue, List.getD_append_right _ _ _ (3 * k) (by omega),
      List.getD_append_right _ _ _ (3 * k + 1) (by omega),
      List.getD_append_right _ _ _ (3 * k + 2) (by omega), hal]
    simp
  have hV : beValue (A ++ x :: y :: z :: c) =
      (beValue A * 2 ^ 24 + (x.toNat * 65536 + y.toNat * 256 + z.toNat)) * 2 ^ (8 * c.length) +
        beValue c := by
    rw [beValue_append]; simp only [beValue, List.length_cons]; ring
  have hn : (A ++ x :: y :: z :: c).length = 3 * k + 3 + c.length := by simp [hal]; ring
  rw [sextet, hV, hn, hg, show 6 * (4 * k + m) + 6 = (6 * m + 6) + 24 * k by ring,
    show 8 * (3 * k + 3 + c.length) = (8 * c.length + 24) + 24 * k by ring, pow_add 2 (6 * m + 6),
    pow_add 2 (8 * c.length + 24), ← mul_assoc, Nat.mul_div_mul_right _ _ (by positivity),
    pow_add 2 (8 * c.length) 24, ← Nat.div_div_eq_div_mul,
    mul_pow_div_pow]
  exact window _ _ _ _ _ (mul_pow_div_pow_lt _ (beValue_lt c)) (by omega) (by omega)

theorem getD_append_zeros (data : List UInt8) (q : ℕ) :
    (data ++ [0, 0]).getD q 0 = data.getD q 0 := by
  by_cases hq : q < data.length
  · exact List.getD_append _ _ _ _ hq
  · rw [List.getD_append_right _ _ _ _ (by omega),
      List.getD_eq_default data 0 (by omega : data.length ≤ q)]
    rcases q - data.length with _ | _ | _ <;> rfl

theorem groupValue_append_zero (data : List UInt8) (k : ℕ) :
    groupValue (data ++ [0, 0]) k = groupValue data k := by
  simp only [groupValue, getD_append_zeros]

theorem sextet_eq_group (data : List UInt8) (k m : ℕ) (hk : 3 * k < data.length) (hm : m < 4) :
    sextet data (4 * k + m) = groupValue data k / 2 ^ (18 - 6 * m) % 64 := by
  rw [← sextet_append_zero data, ← sextet_append_zero (data ++ [0]), List.append_assoc,
    ← groupValue_append_zero data k]
  exact sextet_group _ k m (by simp; omega) hm

theorem encodedLength_eq (n : ℕ) : encodedLength n = (4 * n + 2) / 3 := by
  have h := Nat.mod_lt n (show 3 > 0 by decide)
  unfold encodedLength
  rcases hr : n % 3 with _ | _ | _ | r <;> simp <;> omega

end Rfc4648

open Rfc4648

theorem sizeT_of_lt {n : ℕ} (h : n < 2 ^ 64) : sizeT n = n := Nat.mod_eq_of_lt h

theorem shiftRight_and_63 (v sh : ℕ) : (v >>> sh) &&& 0x3f = v / 2 ^ sh % 64 := by
  rw [Nat.shiftRight_eq_div_pow, show (0x3f : ℕ) = 2 ^ 6 - 1 from rfl,
    Nat.and_pow_two_sub_one_eq_mod]

theorem b64urlTable_eq : b64urlTable = (List.range 64).map alphabet := by decide

theorem b64urlChar_toUInt8 {n : ℕ} (hn : n < 64) : b64urlChar n.toUInt8 = alphabet n := by
  have h : (n.toUInt8 &&& 0x3f).toNat = n := by
    rw [UInt8.and_toNat, show n.toUInt8.toNat = n % 256 from rfl,
      show (0x3f : UInt8).toNat = 2 ^ 6 - 1 from rfl, Nat.and_pow_two_sub_one_eq_mod]
    omega
  simp [b64urlChar, h, b64urlTable_eq, List.getD_eq_getElem?_getD, hn]

theorem b64urlChar_sextet (v sh : ℕ) :
    b64urlChar ((v >>> sh) &&& 0x3f).toUInt8 = alphabet (v / 2 ^ sh % 64) := by
  rw [shiftRight_and_63]; exact b64urlChar_toUInt8 (Nat.mod_lt _ (by decide))

theorem b64urlChar_low (v : ℕ) : b64urlChar (v &&& 0x3f).toUInt8 = alphabet (v % 64) := by
  simpa using b64urlChar_sextet v 0

theorem shiftLeft_or_eq_add {a b k : ℕ} (hb : b < 2 ^ k) : a <<< k ||| b = a * 2 ^ k + b := by
  rw [Nat.shiftLeft_eq, mul_comm, Nat.mul_add_lt_is_or hb]

theorem or_shiftLeft (x y k : ℕ) : (x ||| y) <<< k = x <<< k ||| y <<< k :=
  Nat.eq_of_testBit_eq fun i => by
    simp only [Nat.testBit_shiftLeft, Nat.testBit_or]; cases decide (i ≥ k) <;> simp

theorem group_value (a b c : ℕ) (hb : b < 256) (hc : c < 256) :
    (a <<< 16 ||| b <<< 8 ||| c) = a * 65536 + b * 256 + c := by
  rw [show a <<< 16 = a <<< 8 <<< 8 from Nat.shiftLeft_add a 8 8, ← or_shiftLeft,
    shiftLeft_or_eq_add hb, shiftLeft_or_eq_add hc]
  ring

theorem pair_value (a b : ℕ) (hb : b < 256) : (a <<< 16 ||| b <<< 8) = a * 65536 + b * 256 := by
  rw [show a <<< 16 = a <<< 8 <<< 8 from Nat.shiftLeft_add a 8 8, ← or_shiftLeft,
    shiftLeft_or_eq_add hb, Nat.shiftLeft_eq]
  ring

def textWrites (data : List UInt8) (n : ℕ) : List (ℕ × UInt8) :=
  (List.range n).map fun q => (q, alphabet (sextet data q))

/-- The encoder's variables after `k` passes of its loop. -/
def passState (data : List UInt8) (k : ℕ) : Enc :=
  ⟨3 * k, 4 * k, textWrites data (4 * k), List.range (3 * k)⟩

theorem textWrites_succ (data : List UInt8) {k m : ℕ} (hk : 3 * k < data.length) (hm : m < 4) :
    textWrites data (4 * k + m + 1) = textWrites data (4 * k + m) ++
      [(4 * k + m, alphabet (groupValue data k / 2 ^ (18 - 6 * m) % 64))] := by
  rw [textWrites, List.range_succ, List.map_append, ← sextet_eq_group data k m hk hm]; rfl

theorem group_passState (data : List UInt8) (k : ℕ) (hk : 3 * k + 3 ≤ data.length)
    (hcap : 4 * ((data.length + 2) / 3) + 1 < 2 ^ 64) :
    (passState data k).group data = passState data (k + 1) := by
  have hv : (data.getD (3 * k) 0).toNat <<< 16 ||| (data.getD (3 * k + 1) 0).toNat <<< 8 |||
      (data.getD (3 * k + 2) 0).toNat = groupValue data k :=
    group_value _ _ _ (UInt8.toNat_lt_size _) (UInt8.toNat_lt_size _)
  have hk' : 3 * k < data.length := by omega
  have e0 : textWrites data (4 * k + 1) = textWrites data (4 * k) ++
      [(4 * k, alphabet (groupValue data k / 2 ^ 18 % 64))] :=
    textWrites_succ data hk' (show 0 < 4 by decide)
  have e1 : textWrites data (4 * k + 2) = textWrites data (4 * k + 1) ++
      [(4 * k + 1, alphabet (groupValue data k / 2 ^ 12 % 64))] :=
    textWrites_succ data hk' (show 1 < 4 by decide)
  have e2 : textWrites data (4 * k + 3) = textWrites data (4 * k + 2) ++
      [(4 * k + 2, alphabet (groupValue data k / 2 ^ 6 % 64))] :=
    textWrites_succ data hk' (show 2 < 4 by decide)
  have e3 : textWrites data (4 * k + 4) = textWrites data (4 * k + 3) ++
      [(4 * k + 3, alphabet (groupValue data k % 64))] := by
    simpa using textWrites_succ data hk' (show 3 < 4 by decide)
  have h4 : 4 * k + 4 < 2 ^ 64 := by omega
  simp only [Enc.group, passState, Enc.emit, sizeT_of_lt (show 3 * k + 1 < 2 ^ 64 by omega),
    sizeT_of_lt (show 3 * k + 2 < 2 ^ 64 by omega), sizeT_of_lt (show 3 * k + 3 < 2 ^ 64 by omega),
    sizeT_of_lt (show 4 * k + 1 < 2 ^ 64 by omega), sizeT_of_lt (show 4 * k + 1 + 1 < 2 ^ 64 by omega),
    sizeT_of_lt (show 4 * k + 1 + 1 + 1 < 2 ^ 64 by omega),
    sizeT_of_lt (show 4 * k + 1 + 1 + 1 + 1 < 2 ^ 64 by omega),
    hv, b64urlChar_sextet, Enc.mk.injEq]
  simp only [b64urlChar_low]
  refine ⟨by ring, by ring, ?_, by simp [show 3 * (k + 1) = 3 * k + 2 + 1 by ring, List.range_succ]⟩
  rw [show 4 * (k + 1) = 4 * k + 4 by ring, e3, e2, e1, e0]

section Encoder

variable (data : List UInt8) (hcap : 4 * ((data.length + 2) / 3) + 1 < 2 ^ 64)
include hcap

theorem loop_passState :
    ∀ fuel k, 3 * k ≤ data.length → data.length / 3 ≤ k + fuel →
      Enc.loop data data.length fuel (passState data k) = passState data (data.length / 3)
  | 0, k, hk, hf => by rw [show k = data.length / 3 by omega]; rfl
  | fuel + 1, k, hk, hf => by
    rw [Enc.loop]
    by_cases h : 3 * k + 3 ≤ data.length
    · rw [if_pos (show sizeT ((passState data k).i + 3) ≤ data.length by
          simp only [passState]; rw [sizeT_of_lt (by omega)]; exact h),
        group_passState data k h hcap, loop_passState fuel (k + 1) (by omega) (by omega)]
    · rw [if_neg (show ¬sizeT ((passState data k).i + 3) ≤ data.length by
          simp only [passState]; rw [sizeT_of_lt (by omega)]; exact h),
        show k = data.length / 3 by omega]

theorem tail_passState :
    Enc.tail data data.length (passState data (data.length / 3)) =
      ⟨3 * (data.length / 3), encodedLength data.length,
        textWrites data (encodedLength data.length) ++ [(encodedLength data.length, 0)],
        List.range data.length⟩ := by
  have hd := Nat.div_add_mod data.length 3
  have hr := Nat.mod_lt data.length (show 3 > 0 by decide)
  have hrem : sizeT (data.length + 2 ^ 64 - (passState data (data.length / 3)).i) =
      data.length % 3 := by
    simp only [passState, sizeT]; omega
  generalize hq : data.length / 3 = q at hd hrem ⊢
  have hk : 3 * q ≤ data.length := by omega
  have h1 : 4 * q + 1 < 2 ^ 64 := by omega
  have h2 : 4 * q + 1 + 1 < 2 ^ 64 := by omega
  have h3 : 4 * q + 1 + 1 + 1 < 2 ^ 64 := by omega
  have e0 : 3 * q < data.length → textWrites data (4 * q + 1) = textWrites data (4 * q) ++
      [(4 * q, alphabet (groupValue data q / 2 ^ 18 % 64))] :=
    fun h => textWrites_succ data h (show 0 < 4 by decide)
  have e1 : 3 * q < data.length → textWrites data (4 * q + 2) = textWrites data (4 * q + 1) ++
      [(4 * q + 1, alphabet (groupValue data q / 2 ^ 12 % 64))] :=
    fun h => textWrites_succ data h (show 1 < 4 by decide)
  have e2 : 3 * q < data.length → textWrites data (4 * q + 3) = textWrites data (4 * q + 2) ++
      [(4 * q + 2, alphabet (groupValue data q / 2 ^ 6 % 64))] :=
    fun h => textWrites_succ data h (show 2 < 4 by decide)
  have g1 : 3 * q + 1 ≤ data.length → data.getD (3 * q + 2) 0 = 0 := fun _ =>
    List.getD_eq_default data 0 (by omega)
  rcases hm : data.length % 3 with _ | _ | _ | r
  · simp only [Enc.tail]
    rw [hrem, hm]
    simp [passState, encodedLength, show data.length = 3 * q by omega]
  · have g0 : data.getD (3 * q + 1) 0 = 0 := List.getD_eq_default data 0 (by omega)
    have hv : (data.getD (3 * q) 0).toNat <<< 16 = groupValue data q := by
      rw [groupValue, g0, g1 (by omega), Nat.shiftLeft_eq]; norm_num
    simp only [Enc.tail]
    rw [hrem, hm]
    simp only [passState, Enc.emit, sizeT_of_lt h1, sizeT_of_lt h2, hv, b64urlChar_sextet,
      encodedLength, if_true]
    rw [hq, hm]
    show _ = ⟨3 * q, 4 * q + 2, textWrites data (4 * q + 2) ++ [(4 * q + 2, 0)], List.range data.length⟩
    rw [e1 (by omega), e0 (by omega), show data.length = 3 * q + 1 by omega, List.range_succ]
  · have hv : (data.getD (3 * q) 0).toNat <<< 16 ||| (data.getD (3 * q + 1) 0).toNat <<< 8 =
        groupValue data q := by
      rw [pair_value _ _ (UInt8.toNat_lt_size _), groupValue, g1 (by omega)]
      norm_num
    simp only [Enc.tail]
    rw [hrem, hm]
    simp only [passState, Enc.emit, sizeT_of_lt h1, sizeT_of_lt h2, sizeT_of_lt h3, hv,
      b64urlChar_sextet, encodedLength, if_false, if_true, sizeT_of_lt (show 3 * q + 1 < 2 ^ 64 by omega)]
    rw [hq, hm]
    show _ = ⟨3 * q, 4 * q + 3, textWrites data (4 * q + 3) ++ [(4 * q + 3, 0)], List.range data.length⟩
    rw [e2 (by omega), e1 (by omega), e0 (by omega), show data.length = 3 * q + 1 + 1 by omega,
      List.range_succ, List.range_succ]
    simp
  · omega

theorem encode_eq :
    Enc.tail data data.length (Enc.loop data data.length data.length ⟨0, 0, [], []⟩) =
      ⟨3 * (data.length / 3), encodedLength data.length,
        textWrites data (encodedLength data.length) ++ [(encodedLength data.length, 0)],
        List.range data.length⟩ := by
  rw [show (⟨0, 0, [], []⟩ : Enc) = passState data 0 from rfl,
    loop_passState data hcap data.length 0 (by omega) (by omega), tail_passState data hcap]

end Encoder

theorem enum_map_range (g : ℕ → UInt8) (n : ℕ) :
    ((List.range n).map g).enum = (List.range n).map fun q => (q, g q) := by
  induction n with
  | zero => rfl
  | succ n ih => simp [List.range_succ, List.enum_append, ih]

theorem textWrites_eq_enum (data : List UInt8) :
    textWrites data (encodedLength data.length) ++ [(encodedLength data.length, 0)] =
      (encodeNoPad data ++ [0]).enum := by
  rw [List.enum_append, encodeNoPad, enum_map_range]; simp [textWrites]

theorem b64urlNopad_encodes (data : List UInt8) (hcap : 4 * ((data.length + 2) / 3) + 1 < 2 ^ 64)
    (f : Frame) :
    Sat (b64urlNopad (some data) data.length) f fun r _ =>
      (r = none ∧ f.oracle.ok f.tick = false) ∨
      ∃ out s, r = some (out, 4 * ((data.length + 2) / 3) + 1, s) ∧
        s.writes = (encodeNoPad data ++ [0]).enum ∧ s.j = encodedLength data.length ∧
        (∀ p ∈ s.writes, p.1 ≤ 4 * ((data.length + 2) / 3)) ∧ ∀ k ∈ s.reads, k < data.length := by
  have hcap' : sizeT (sizeT (sizeT (data.length + 2) / 3 * 4) + 1) = 4 * ((data.length + 2) / 3) + 1 := by
    rw [sizeT_of_lt (show data.length + 2 < 2 ^ 64 by omega),
      sizeT_of_lt (show (data.length + 2) / 3 * 4 < 2 ^ 64 by omega),
      sizeT_of_lt (show (data.length + 2) / 3 * 4 + 1 < 2 ^ 64 by omega)]
    ring
  have hlen : encodedLength data.length ≤ 4 * ((data.length + 2) / 3) := by
    rw [encodedLength_eq]; omega
  simp only [b64urlNopad, sat_bind, sat_ite, sat_pure, sat_malloc, sat_obtain, Option.isNone_some,
    Option.getD_some, hcap', encode_eq data hcap]
  refine ⟨by simp, fun _ => ⟨fun h => .inr ⟨_, _, rfl, textWrites_eq_enum data, rfl, ?_, ?_⟩,
    fun h => .inl ⟨trivial, h⟩⟩⟩
  · intro p hp
    rw [textWrites_eq_enum] at hp
    have := (List.mem_enum hp).1
    have hl : (encodeNoPad data).length = encodedLength data.length := by simp [encodeNoPad]
    simp at this; omega
  · simp

theorem b64urlNopad_encodes_abc :
    4 * ((([0x61, 0x62, 0x63] : List UInt8).length + 2) / 3) + 1 < 2 ^ 64 ∧
    Sat (b64urlNopad (some [0x61, 0x62, 0x63]) ([0x61, 0x62, 0x63] : List UInt8).length)
      (Frame.start Oracle.succeed SlotTable.zero) fun r _ =>
      (r = none ∧ Oracle.succeed.ok 0 = false) ∨
      ∃ out s, r = some (out, 4 * ((([0x61, 0x62, 0x63] : List UInt8).length + 2) / 3) + 1, s) ∧
        s.writes = (encodeNoPad [0x61, 0x62, 0x63] ++ [0]).enum ∧
        s.j = encodedLength ([0x61, 0x62, 0x63] : List UInt8).length ∧
        (∀ p ∈ s.writes, p.1 ≤ 4 * ((([0x61, 0x62, 0x63] : List UInt8).length + 2) / 3)) ∧
        ∀ k ∈ s.reads, k < ([0x61, 0x62, 0x63] : List UInt8).length :=
  ⟨by decide, b64urlNopad_encodes [0x61, 0x62, 0x63] (by decide) _⟩

end X07Ext.Openssl
