import Mathlib.Data.Nat.Size
import X07Ext.Openssl.Base64url
import X07Ext.Openssl.Shim

/-! # The components of the private JWK

`x07_ext_bn_b64url` on a `BIGNUM` of at most 8192 bits returns `Base64urlUInt` of its value
(RFC 7518 section 2): `BN_bn2bin` writes the minimal big-endian octets, the encoder writes their
unpadded base64url, and the text that `memcpy` reads back is that encoding. Each call frees
`raw` and hands its text to the caller; `x07_ext_openssl_rsa_rs256_private_jwk_generate_alloc`
frees the eight texts. The object lemmas hold whatever objects the caller already holds. -/
namespace X07Ext.Openssl

open Rfc4648

namespace Rfc7518

def octets (v : ℕ) : List UInt8 :=
  if _h : v = 0 then [] else octets (v / 256) ++ [(v % 256).toUInt8]
termination_by v
decreasing_by omega

/-- The octets `Base64urlUInt` encodes: the minimal ones, or a single zero octet for 0. -/
def uintOctets (v : ℕ) : List UInt8 := if v = 0 then [0] else octets v

/-- The `Base64urlUInt(v)` of RFC 7518. -/
def base64urlUInt (v : ℕ) : List UInt8 := encodeNoPad (uintOctets v)

theorem octets_zero : octets 0 = [] := by rw [octets]; rfl

theorem octets_pos {v : ℕ} (hv : v ≠ 0) : octets v = octets (v / 256) ++ [(v % 256).toUInt8] := by
  rw [octets, dif_neg hv]

theorem beValue_octets (v : ℕ) : beValue (octets v) = v := by
  induction v using octets.induct with
  | case1 => rw [octets_zero]; rfl
  | case2 v hv ih =>
    have hb : (v % 256).toUInt8.toNat = v % 256 := Nat.mod_mod_of_dvd v (dvd_refl 256)
    rw [octets_pos hv, beValue_append, ih]
    simp [beValue, hb]
    omega

theorem octets_head_ne_zero (v : ℕ) : ∀ b ∈ (octets v).head?, b ≠ 0 := by
  induction v using octets.induct with
  | case1 => simp [octets_zero]
  | case2 v hv ih =>
    rw [octets_pos hv]
    by_cases hq : v / 256 = 0
    · rw [hq, octets_zero]
      rintro b ⟨⟩ h
      have h1 : (v % 256).toUInt8.toNat = v % 256 % 256 := rfl
      rw [h, show (0 : UInt8).toNat = 0 from rfl] at h1
      omega
    · have hne : octets (v / 256) ≠ [] := by rw [octets_pos hq]; simp
      rw [List.head?_append_of_ne_nil _ hne]
      exact ih

end Rfc7518

open Rfc7518

theorem size_div_256 {v : ℕ} (hv : 256 ≤ v) : (v / 256).size + 8 = v.size := by
  have hs := Nat.lt_size_self (v / 256)
  have hpos : 0 < (v / 256).size := Nat.size_pos.mpr (by omega)
  refine le_antisymm ?_ (Nat.size_le.mpr ?_)
  · have : 2 ^ ((v / 256).size - 1) ≤ v / 256 := Nat.lt_size.mp (by omega)
    refine Nat.lt_size.mpr ?_
    calc 2 ^ ((v / 256).size + 7) = 2 ^ ((v / 256).size - 1) * 256 := by
          rw [show (v / 256).size + 7 = (v / 256).size - 1 + 8 by omega, pow_add]; rfl
      _ ≤ v / 256 * 256 := Nat.mul_le_mul_right _ this
      _ ≤ v := Nat.div_mul_le_self v 256
  · rw [pow_add]; omega

theorem bnBn2bin_eq_octets (v : ℕ) : Lib.bnBn2bin v = octets v := by
  induction v using octets.induct with
  | case1 => simp [octets_zero, Lib.bnBn2bin]
  | case2 v hv ih =>
    have hm : (v.size + 7) / 8 = ((v / 256).size + 7) / 8 + 1 := by
      by_cases hb : 256 ≤ v
      · have := size_div_256 hb; omega
      · have h1 : 0 < v.size := Nat.size_pos.mpr (Nat.pos_of_ne_zero hv)
        have h2 : v.size ≤ 8 := Nat.size_le.mpr (by omega)
        rw [Nat.div_eq_of_lt (by omega : v < 256), Nat.size_zero]; omega
    rw [octets_pos hv, ← ih, Lib.bnBn2bin, Lib.bnBn2bin, hm, List.range_succ_eq_map,
      List.reverse_cons, List.map_append, ← List.map_reverse, List.map_map]
    congr 1
    · refine List.map_congr_left fun k _ => ?_
      simp only [Function.comp, Nat.succ_eq_add_one, pow_succ', Nat.div_div_eq_div_mul]
    · simp

theorem length_octets (v : ℕ) : (octets v).length = (v.size + 7) / 8 := by
  rw [← bnBn2bin_eq_octets]; simp [Lib.bnBn2bin]

theorem length_uintOctets {v : ℕ} (hv : v.size ≤ 8192) : (uintOctets v).length ≤ 1024 := by
  unfold uintOctets
  split_ifs
  · simp
  · rw [length_octets]; omega

theorem readAt_append_single (w : List (ℕ × UInt8)) (p : ℕ × UInt8) (k : ℕ) :
    readAt (w ++ [p]) k = if p.1 = k then p.2 else readAt w k := by
  simp [readAt, List.foldl_append]

theorem readAt_enum (xs : List UInt8) (k : ℕ) : readAt xs.enum k = xs.getD k 0 := by
  induction xs using List.reverseRecOn with
  | nil => rfl
  | append_singleton xs x ih =>
    rw [List.enum_append, List.enumFrom_singleton, readAt_append_single, ih]
    by_cases hk : k < xs.length
    · simp [hk.ne', List.getElem?_append_left hk]
    · by_cases he : xs.length = k
      · subst he; simp
      · simp [he, List.getElem?_eq_none (show xs.length ≤ k by omega),
          List.getElem?_eq_none (show (xs ++ [x]).length ≤ k by simp; omega)]

theorem encodedText_some {out sz : ℕ} {s : Enc} {xs : List UInt8}
    (hw : s.writes = (xs ++ [0]).enum) (hj : s.j = xs.length) :
    encodedText (some (out, sz, s)) = xs := by
  simp only [encodedText, hw, hj, readAt_enum]
  refine List.ext_getElem (by simp) fun k h1 h2 => ?_
  simp only [List.getElem_map, List.getElem_range]
  rw [readAt_enum, List.getD_append _ _ _ _ h2, List.getD_eq_getElem]

def outBufs (outs : List (Option (ℕ × ℕ × Enc))) : List ℕ := outs.filterMap (Option.map Prod.fst)

theorem outBufs_cons (r : Option (ℕ × ℕ × Enc)) (outs : List (Option (ℕ × ℕ × Enc))) :
    outBufs (r :: outs) = outBufs [r] ++ outBufs outs := by
  cases r <;> rfl

theorem b64urlNopad_spec (data : List UInt8) (hcap : 4 * ((data.length + 2) / 3) + 1 < 2 ^ 64)
    {f : Frame} {held : List ℕ} (hh : f.heap.Holds held) :
    Sat (b64urlNopad (some data) data.length) f fun r f' =>
      f'.table = f.table ∧ f'.oracle = f.oracle ∧ f'.heap.kept = f.heap.kept ∧
      f'.heap.Holds (outBufs [r] ++ held) ∧ ∀ x ∈ r, encodedText (some x) = encodeNoPad data := by
  simp only [b64urlNopad, sat_bind, sat_ite, sat_pure, sat_malloc, sat_obtain, sat_acquire,
    Option.isNone_some, Option.getD_some, encode_eq data hcap]
  refine ⟨fun h => absurd h.1 Bool.false_ne_true, fun _ => ⟨fun _ => ⟨trivial, trivial, rfl,
    hh.push _, ?_⟩, fun _ => ⟨trivial, trivial, trivial, hh, by simp⟩⟩⟩
  rintro x ⟨⟩
  exact encodedText_some (textWrites_eq_enum data) (by simp [encodeNoPad])

/-- With `BN_num_bits` and `BN_bn2bin` exact, `bnB64url` allocates the length of
`uintOctets v`, its check after `BN_bn2bin` passes, and `raw` holds `uintOctets v`. -/
theorem bnB64url_octets (v : ℕ) :
    (if Lib.bnNumBits v ≤ 0 then 1 else Int.tdiv (Lib.bnNumBits v + 7) 8) =
        ((uintOctets v).length : ℤ) ∧
      (if Lib.bnNumBits v ≤ 0 then [0] else Lib.bnBn2bin v) = uintOctets v ∧
      ¬(¬Lib.bnNumBits v ≤ 0 ∧ ((Lib.bnBn2bin v).length : ℤ) ≠ (uintOctets v).length) ∧
      ¬((uintOctets v).length : ℤ) ≤ 0 := by
  by_cases h0 : v = 0
  · subst h0
    simp [Lib.bnNumBits, uintOctets]
  · have hbits : ¬Lib.bnNumBits v ≤ 0 := by simpa [Lib.bnNumBits, Nat.size_eq_zero] using h0
    have hn : Int.tdiv (Lib.bnNumBits v + 7) 8 = ((octets v).length : ℤ) := by
      rw [length_octets, Lib.bnNumBits]; exact (Int.ofNat_tdiv _ _).symm
    simp [hbits, h0, hn, uintOctets, bnBn2bin_eq_octets, octets_pos h0]

theorem bnB64url_spec {v : ℕ} (hv : v.size ≤ 8192) {f : Frame} {held : List ℕ}
    (hh : f.heap.Holds held) :
    Sat (bnB64url (some v)) f fun r f' =>
      f'.table = f.table ∧ f'.oracle = f.oracle ∧ f'.heap.kept = f.heap.kept ∧
      f'.heap.Holds (outBufs [r] ++ held) ∧ ∀ x ∈ r, encodedText (some x) = base64urlUInt v := by
  have hcap : 4 * (((uintOctets v).length + 2) / 3) + 1 < 2 ^ 64 := by
    have := length_uintOctets hv; omega
  obtain ⟨hn, hraw, hchk, hpos⟩ := bnB64url_octets v
  simp only [bnB64url, hn, hraw, hchk, hpos, if_false, Int.toNat_ofNat, sat_bind, sat_malloc,
    sat_obtain, sat_acquire, sat_pure]
  refine ⟨fun _ => Sat.mono (b64urlNopad_spec _ hcap (hh.push _)) ?_,
    fun _ => ⟨trivial, trivial, trivial, hh, by simp⟩⟩
  rintro r f' ⟨ht, ho, hk, hh', henc⟩
  simp only [sat_bind, sat_free, sat_pure, Heap.release_kept]
  exact ⟨ht, ho, hk, hh'.release_mid, henc⟩

theorem encodeAll_spec : ∀ (vs : List ℕ), (∀ v ∈ vs, v.size ≤ 8192) → ∀ {f : Frame} {held : List ℕ},
    f.heap.Holds held →
    Sat (encodeAll (vs.map some)) f fun outs f' =>
      f'.table = f.table ∧ f'.oracle = f.oracle ∧ f'.heap.kept = f.heap.kept ∧
      f'.heap.Holds (outBufs outs ++ held) ∧
      List.Forall₂ (fun v r => ∀ x ∈ r, encodedText (some x) = base64urlUInt v) vs outs
  | [], _, _, _, hh => ⟨rfl, rfl, rfl, hh, .nil⟩
  | v :: vs, hv, _, _, hh => by
    simp only [List.map_cons, encodeAll, sat_bind, sat_pure]
    refine Sat.mono (bnB64url_spec (hv v (List.mem_cons_self _ _)) hh) ?_
    rintro r f₁ ⟨ht₁, ho₁, hk₁, hh₁, he₁⟩
    refine Sat.mono (encodeAll_spec vs (fun w hw => hv w (List.mem_cons_of_mem _ hw)) hh₁) ?_
    rintro outs f₂ ⟨ht₂, ho₂, hk₂, hh₂, he₂⟩
    refine ⟨ht₂.trans ht₁, ho₂.trans ho₁, hk₂.trans hk₁, hh₂.perm ?_, .cons he₁ he₂⟩
    rw [outBufs_cons r outs, ← List.append_assoc]
    exact List.perm_append_comm.append_right _

theorem freeAll_spec : ∀ (outs : List (Option (ℕ × ℕ × Enc))) {f : Frame} {held : List ℕ},
    f.heap.Holds (outBufs outs ++ held) →
    Sat (freeAll outs) f fun _ f' =>
      f'.table = f.table ∧ f'.oracle = f.oracle ∧ f'.heap.kept = f.heap.kept ∧ f'.heap.Holds held
  | [], _, _, hh => ⟨rfl, rfl, rfl, hh⟩
  | none :: outs, _, _, hh => by
    simp only [freeAll, sat_bind, sat_pure]
    exact freeAll_spec outs hh
  | some (p, n, s) :: outs, _, _, hh => by
    simp only [freeAll, sat_bind, sat_free, sat_pure]
    refine Sat.mono (freeAll_spec outs hh.release_head) ?_
    rintro _ f' ⟨ht, ho, hk, hh'⟩
    exact ⟨ht, ho, hk.trans (Heap.release_kept _ _), hh'⟩

end X07Ext.Openssl
