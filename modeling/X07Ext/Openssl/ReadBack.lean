import X07Ext.Openssl.Jwk

/-! # Reading the encodings back

The shim only encodes; a consumer of its texts decodes them. Decoding unpadded base64url maps
each character to its sextet, reads the sextets as one big-endian number of `6n` bits, drops
the `6n mod 8` fill bits the encoder appended, and splits the rest into octets; a length of
`1 mod 4` is not an encoding. The text `x07_ext_b64url_nopad` writes decodes to its input, and
the private JWK reads back to the components of the key it was generated from. -/
namespace X07Ext.Openssl

open SlotTable

namespace Rfc4648

def alphabetIndex (c : UInt8) : Option ℕ :=
  if 0x41 ≤ c ∧ c ≤ 0x5A then some (c.toNat - 0x41)
  else if 0x61 ≤ c ∧ c ≤ 0x7A then some (c.toNat - 0x61 + 26)
  else if 0x30 ≤ c ∧ c ≤ 0x39 then some (c.toNat - 0x30 + 52)
  else if c = 0x2D then some 62
  else if c = 0x5F then some 63
  else none

def digitsValue (ds : List ℕ) : ℕ := ds.foldl (fun a d => 64 * a + d) 0

def toOctets (m v : ℕ) : List UInt8 :=
  (List.range m).map fun k => (v / 256 ^ (m - 1 - k) % 256).toUInt8

/-- Unpadded base64url decoding: `6n` bits for `n` characters, the last `6n mod 8` of them fill. -/
def decodeNoPad (text : List UInt8) : Option (List UInt8) :=
  if text.length % 4 = 1 then none
  else (text.mapM alphabetIndex).map fun ds =>
    toOctets (6 * text.length / 8) (digitsValue ds / 2 ^ (6 * text.length % 8))

theorem alphabetIndex_alphabet : ∀ v < 64, alphabetIndex (alphabet v) = some v := by decide

theorem mapM_alphabetIndex : ∀ ds : List ℕ, (∀ d ∈ ds, d < 64) →
    (ds.map alphabet).mapM alphabetIndex = some ds
  | [], _ => rfl
  | d :: ds, h => by
    rw [List.map_cons, List.mapM_cons, alphabetIndex_alphabet d (h d (List.mem_cons_self _ _)),
      mapM_alphabetIndex ds fun e he => h e (List.mem_cons_of_mem _ he)]
    rfl

theorem digitsValue_append_digit (ds : List ℕ) (d : ℕ) :
    digitsValue (ds ++ [d]) = 64 * digitsValue ds + d := by
  simp [digitsValue, List.foldl_append]

theorem digitsValue_digits : ∀ (n B : ℕ), B < 64 ^ n →
    digitsValue ((List.range n).map fun k => B / 64 ^ (n - 1 - k) % 64) = B
  | 0, B, h => by simp at h; simp [digitsValue, h]
  | n + 1, B, h => by
    have hq : B / 64 < 64 ^ n := by rw [pow_succ] at h; omega
    have hmap : ((List.range n).map fun k => B / 64 ^ (n + 1 - 1 - k) % 64) =
        (List.range n).map fun k => B / 64 / 64 ^ (n - 1 - k) % 64 := by
      refine List.map_congr_left fun k hk => ?_
      have hk : k < n := List.mem_range.mp hk
      rw [Nat.div_div_eq_div_mul, ← pow_succ']
      congr 3
      omega
    rw [List.range_succ, List.map_append, hmap, List.map_singleton, digitsValue_append_digit,
      digitsValue_digits n _ hq, show n + 1 - 1 - n = 0 by omega, pow_zero, Nat.div_one]
    omega

theorem toNat_toUInt8 (n : ℕ) : n.toUInt8.toNat = n % 256 := BitVec.toNat_ofNat _ _

theorem toOctets_beValue : ∀ data : List UInt8, toOctets data.length (beValue data) = data
  | [] => rfl
  | b :: bs => by
    have hr := beValue_lt bs
    have hb : b.toNat < 256 := b.toNat_lt_size
    have hpow : (2 : ℕ) ^ (8 * bs.length) = 256 ^ bs.length := by rw [pow_mul]; rfl
    rw [hpow] at hr
    have hv : beValue (b :: bs) = b.toNat * 256 ^ bs.length + beValue bs := by
      rw [beValue, hpow]
    rw [List.length_cons, toOctets, List.range_succ_eq_map, List.map_cons, List.map_map, hv]
    congr 1
    · rw [show bs.length + 1 - 1 - 0 = bs.length by omega, Nat.add_comm,
        Nat.add_mul_div_right _ _ (by positivity), Nat.div_eq_of_lt hr, zero_add,
        Nat.mod_eq_of_lt hb]
      exact UInt8.toNat.inj (by rw [toNat_toUInt8, Nat.mod_eq_of_lt hb])
    · conv_rhs => rw [← toOctets_beValue bs]
      refine List.map_congr_left fun k hk => ?_
      have hk : k < bs.length := List.mem_range.mp hk
      simp only [Function.comp]
      rw [show bs.length + 1 - 1 - (k + 1) = bs.length - 1 - k by omega]
      have hsplit : b.toNat * 256 ^ bs.length =
          256 ^ (bs.length - 1 - k) * (256 * (b.toNat * 256 ^ k)) := by
        calc b.toNat * 256 ^ bs.length = b.toNat * 256 ^ ((bs.length - 1 - k) + 1 + k) := by
              rw [show (bs.length - 1 - k) + 1 + k = bs.length by omega]
          _ = 256 ^ (bs.length - 1 - k) * (256 * (b.toNat * 256 ^ k)) := by ring
      rw [hsplit, Nat.add_comm, Nat.add_mul_div_left _ _ (by positivity),
        Nat.add_mul_mod_self_left]

theorem encodedLength_bits (n : ℕ) :
    6 * encodedLength n / 8 = n ∧ 6 * encodedLength n % 8 = 6 * encodedLength n - 8 * n ∧
      encodedLength n % 4 ≠ 1 := by
  rw [encodedLength_eq]; omega

theorem sextet_eq_digit (data : List UInt8) {n k : ℕ} (hn : 8 * data.length ≤ 6 * n)
    (hk : k < n) :
    sextet data k = beValue data * 2 ^ (6 * n - 8 * data.length) / 64 ^ (n - 1 - k) % 64 := by
  have h64 : (64 : ℕ) ^ (n - 1 - k) = 2 ^ (6 * (n - 1 - k)) := by rw [pow_mul]; rfl
  rw [sextet, h64]
  congr 1
  calc beValue data * 2 ^ (6 * k + 6) / 2 ^ (8 * data.length)
      = beValue data * 2 ^ (6 * k + 6) * 2 ^ (6 * n - 8 * data.length) /
          (2 ^ (8 * data.length) * 2 ^ (6 * n - 8 * data.length)) :=
        (Nat.mul_div_mul_right _ _ (by positivity)).symm
    _ = beValue data * 2 ^ (6 * n - 8 * data.length) * 2 ^ (6 * k + 6) /
          (2 ^ (6 * (n - 1 - k)) * 2 ^ (6 * k + 6)) := by
        rw [Nat.mul_right_comm (beValue data), ← pow_add, ← pow_add,
          show 8 * data.length + (6 * n - 8 * data.length) = 6 * (n - 1 - k) + (6 * k + 6) by
            omega]
    _ = beValue data * 2 ^ (6 * n - 8 * data.length) / 2 ^ (6 * (n - 1 - k)) :=
        Nat.mul_div_mul_right _ _ (by positivity)

theorem decodeNoPad_encodeNoPad (data : List UInt8) : decodeNoPad (encodeNoPad data) = some data := by
  obtain ⟨hm, hfill, hmod⟩ := encodedLength_bits data.length
  set n := encodedLength data.length
  have henc : encodeNoPad data = ((List.range n).map (sextet data)).map alphabet := by
    rw [encodeNoPad, List.map_map]; rfl
  have hB : beValue data * 2 ^ (6 * n - 8 * data.length) < 64 ^ n := by
    calc beValue data * 2 ^ (6 * n - 8 * data.length)
        < 2 ^ (8 * data.length) * 2 ^ (6 * n - 8 * data.length) :=
          Nat.mul_lt_mul_of_pos_right (beValue_lt data) (by positivity)
      _ = 64 ^ n := by rw [← pow_add, show (64 : ℕ) = 2 ^ 6 from rfl, ← pow_mul]; congr 1; omega
  have hsex : ((List.range n).map fun k => sextet data k) =
      (List.range n).map fun k => beValue data * 2 ^ (6 * n - 8 * data.length) / 64 ^ (n - 1 - k) % 64 :=
    List.map_congr_left fun k hk => sextet_eq_digit data (by omega) (List.mem_range.mp hk)
  have hdig : ∀ d ∈ (List.range n).map (sextet data), d < 64 := by
    simp only [List.mem_map]
    rintro _ ⟨k, -, rfl⟩
    exact Nat.mod_lt _ (by decide)
  rw [decodeNoPad, henc, mapM_alphabetIndex _ hdig]
  simp only [List.length_map, List.length_range, hmod, if_false, Option.map_some', hm, hfill]
  rw [hsex, digitsValue_digits n _ hB, Nat.mul_div_cancel _ (by positivity), toOctets_beValue]

end Rfc4648

open Rfc4648 Rfc7518

theorem beValue_uintOctets (v : ℕ) : beValue (uintOctets v) = v := by
  unfold uintOctets
  split_ifs with h
  · subst h; rfl
  · exact beValue_octets v

theorem decode_base64urlUInt (v : ℕ) : (decodeNoPad (base64urlUInt v)).map beValue = some v := by
  rw [base64urlUInt, decodeNoPad_encodeNoPad, Option.map_some', beValue_uintOctets]

/-- The text `x07_ext_bn_b64url` returns for a component `v` decodes to the octets RFC 7518 asks
`Base64urlUInt` to encode: their value is `v`, and they are the single octet 0 for zero and
otherwise start with a non-zero octet. -/
theorem bnB64url_raw_minimal (v : ℕ) (hv : v.size ≤ 8192) (o : Oracle) (t : SlotTable) :
    ∀ x ∈ (exec (bnB64url (some v)) o t).1, ∃ raw,
      decodeNoPad (encodedText (some x)) = some raw ∧ beValue raw = v ∧
      (v = 0 ∧ raw = [0] ∨ v ≠ 0 ∧ ∀ b ∈ raw.head?, b ≠ 0) := by
  show Sat (bnB64url (some v)) (Frame.start o t) fun r _ => ∀ x ∈ r, ∃ raw,
    decodeNoPad (encodedText (some x)) = some raw ∧ beValue raw = v ∧
      (v = 0 ∧ raw = [0] ∨ v ≠ 0 ∧ ∀ b ∈ raw.head?, b ≠ 0)
  refine Sat.mono (bnB64url_spec hv Heap.holds_empty) fun _ _ h x hx =>
    ⟨uintOctets v, by rw [h.2.2.2.2 x hx, base64urlUInt, decodeNoPad_encodeNoPad],
      beValue_uintOctets v, ?_⟩
  by_cases h0 : v = 0
  · exact .inl ⟨h0, by rw [uintOctets, if_pos h0]⟩
  · exact .inr ⟨h0, by rw [uintOctets, if_neg h0]; exact octets_head_ne_zero v⟩

theorem bnB64url_raw_minimal_one :
    (1 : ℕ).size ≤ 8192 ∧ ∀ x ∈ (exec (bnB64url (some 1)) Oracle.succeed zero).1, ∃ raw,
      decodeNoPad (encodedText (some x)) = some raw ∧ beValue raw = 1 ∧
      ((1 : ℕ) = 0 ∧ raw = [0] ∨ (1 : ℕ) ≠ 0 ∧ ∀ b ∈ raw.head?, b ≠ 0) :=
  have h : (1 : ℕ).size ≤ 8192 := by rw [Nat.size_one]; decide
  ⟨h, bnB64url_raw_minimal 1 h Oracle.succeed zero⟩

/-- Whatever buffer `x07_ext_b64url_nopad` returns, its first `*out_len` bytes decode to the
input. -/
theorem b64urlNopad_text_decodes (data : List UInt8)
    (hcap : 4 * ((data.length + 2) / 3) + 1 < 2 ^ 64) (o : Oracle) (t : SlotTable) :
    ∀ x ∈ (exec (b64urlNopad (some data) data.length) o t).1,
      decodeNoPad (encodedText (some x)) = some data := by
  show Sat (b64urlNopad (some data) data.length) (Frame.start o t) fun r _ =>
    ∀ x ∈ r, decodeNoPad (encodedText (some x)) = some data
  refine Sat.mono (b64urlNopad_spec data hcap Heap.holds_empty) fun _ _ h x hx => ?_
  rw [h.2.2.2.2 x hx, decodeNoPad_encodeNoPad]

theorem b64urlNopad_text_decodes_abc :
    4 * ((([0x61, 0x62, 0x63] : List UInt8).length + 2) / 3) + 1 < 2 ^ 64 ∧
    ∀ x ∈ (exec (b64urlNopad (some [0x61, 0x62, 0x63]) 3) Oracle.succeed zero).1,
      decodeNoPad (encodedText (some x)) = some [0x61, 0x62, 0x63] :=
  ⟨by decide, b64urlNopad_text_decodes [0x61, 0x62, 0x63] (by decide) Oracle.succeed zero⟩

/-- A private JWK the call returns reads back to the key it generated: the text parses as the
members `kty`, `n`, `e`, `d`, `p`, `q`, `dp`, `dq`, `qi` in that order, `kty` is `RSA`, and each
component's value decodes to the octets of that component. -/
theorem rsa_rs256_private_jwk_reads_back (bits : ℤ) (o : Oracle) (t : SlotTable) :
    (exec (rsaRs256PrivateJwkGenerateAlloc bits) o t).1 = 0 ∨
    ∃ (h : Handle) (bs : List UInt8) (ms : List (List UInt8 × List UInt8)),
      (exec (rsaRs256PrivateJwkGenerateAlloc bits) o t).1 = h.toNat ∧
      (exec (rsaRs256PrivateJwkGenerateAlloc bits) o t).2.view h = some bs ∧
      Json.parseObject bs = some ms ∧
      ms.map Prod.fst = cstr "kty" :: jwkNames ∧ ms.head?.map Prod.snd = some (cstr "RSA") ∧
      ms.tail.map (fun m => (decodeNoPad m.2).map beValue) = jwkComps (o.key 3) := by
  have hx := handleRefines_of_keeps
    (Sat.mono (rsaRs256PrivateJwkGenerateAlloc_spec bits o t) fun _ _ h => h.2)
  by_cases h0 : (exec (rsaRs256PrivateJwkGenerateAlloc bits) o t).1 = 0
  · exact .inl h0
  obtain ⟨h, _, hr, hf, vs, hvs, rfl⟩ := hx.success h0
  have hlen : jwkNames.length = (vs.map base64urlUInt).length := by
    simp [(bounded_of_jwkComps hvs).1, jwkNames]
  refine .inr ⟨h, _, jwkMembers (vs.map base64urlUInt), hr, by rw [hf.alloc.next, Function.update_same], by
    rw [flatten_jwkPieces (bounded_of_jwkComps hvs).1]
    exact Json.parseObject_render (plain_jwkMembers vs) (by decide), ?_, rfl, ?_⟩
  · rw [jwkMembers, List.map_cons, List.map_fst_zip _ _ hlen.le]
  · calc ((jwkMembers (vs.map base64urlUInt)).tail.map fun m => (decodeNoPad m.2).map beValue)
        = ((jwkNames.zip (vs.map base64urlUInt)).map Prod.snd).map
            fun s => (decodeNoPad s).map beValue := by rw [List.map_map]; rfl
      _ = vs.map some := by
        rw [List.map_snd_zip _ _ hlen.ge, List.map_map]
        exact List.map_congr_left fun v _ => decode_base64urlUInt v
      _ = jwkComps (o.key 3) := hvs.symm

end X07Ext.Openssl
