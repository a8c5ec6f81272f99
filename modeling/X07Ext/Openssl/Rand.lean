import X07Ext.Alloc
import X07Ext.Openssl.Shim

/-! # The documents of `x07_ext_openssl_rand_bytes_alloc`

The call keeps one document: `[1]` followed by `len` random bytes, or the 9-byte error
document of `x07_ext_make_err_doc` with code 3 (too long) or 1 (`RAND_bytes` failed). Version
0.1.3 of the package has the same text for this function and the two it calls. -/
namespace X07Ext.Openssl

open SlotTable

/-- Models `x07_ext_openssl_rand_bytes_alloc` of version 0.1.3, whose text, like that of
`x07_ext_write_u32_le` and `x07_ext_make_err_doc` there, is the text of version 0.1.9. -/
def V013.randBytesAlloc (len : UInt32) (outHandle : Option UInt32) : Shim (ℤ × Option UInt32) :=
  Openssl.randBytesAlloc len outHandle

def leValue : List UInt8 → ℕ
  | [] => 0
  | b :: bs => b.toNat + 256 * leValue bs

theorem toUInt32_toNat (x : UInt32) : x.toNat.toUInt32 = x :=
  UInt32.toNat.inj (UInt32.toNat_ofNat_of_lt x.toNat_lt_size)

theorem toUInt8_toNat (x : UInt32) : x.toUInt8.toNat = x.toNat % 256 :=
  BitVec.toNat_ofNat _ _

theorem toNat_add (a b : UInt32) : (a + b).toNat = (a.toNat + b.toNat) % 2 ^ 32 :=
  BitVec.toNat_add _ _

theorem toNat_shiftRight (a b : UInt32) : (a >>> b).toNat = a.toNat >>> (b.toNat % 32) := by
  show (a.toBitVec >>> (b.mod 32).toBitVec).toNat = _
  rw [BitVec.ushiftRight_eq', BitVec.toNat_ushiftRight]
  rfl

theorem byte_toNat (v : UInt32) (k : UInt32) (hk : k.toNat < 32) :
    ((v >>> k) &&& 0xff).toUInt8.toNat = v.toNat / 2 ^ k.toNat % 256 := by
  rw [toUInt8_toNat, UInt32.and_toNat, toNat_shiftRight, Nat.mod_eq_of_lt hk,
    Nat.shiftRight_eq_div_pow, show (0xff : UInt32).toNat = 2 ^ 8 - 1 from rfl,
    Nat.and_pow_two_sub_one_eq_mod, Nat.mod_mod_of_dvd _ (by decide)]

theorem leValue_writeU32Le (v : UInt32) :
    (writeU32Le v).length = 4 ∧ leValue (writeU32Le v) = v.toNat := by
  refine ⟨rfl, ?_⟩
  have h0 : (v &&& 0xff).toUInt8.toNat = v.toNat % 256 := by
    rw [toUInt8_toNat, UInt32.and_toNat, show (0xff : UInt32).toNat = 2 ^ 8 - 1 from rfl,
      Nat.and_pow_two_sub_one_eq_mod, Nat.mod_mod_of_dvd _ (by decide)]
  have : v.toNat < 2 ^ 32 := v.toNat_lt_size
  simp only [writeU32Le, leValue, h0, byte_toNat v 8 (by decide), byte_toNat v 16 (by decide),
    byte_toNat v 24 (by decide), show (8 : UInt32).toNat = 8 from rfl,
    show (16 : UInt32).toNat = 16 from rfl, show (24 : UInt32).toNat = 24 from rfl]
  omega

theorem cInt_of_lt {x : UInt32} (h : x.toNat < 2 ^ 31) : Lib.cInt x = x.toNat := by
  unfold Lib.cInt BitVec.toInt
  rw [if_pos (show 2 * x.toBitVec.toNat < 2 ^ 32 by change 2 * x.toNat < 2 ^ 32; omega)]
  rfl

theorem need_and_cInt {len : UInt32} (h : len.toNat ≤ 2 ^ 20) :
    (1 + len).toNat = 1 + len.toNat ∧ Lib.cInt len = len.toNat := by
  refine ⟨?_, cInt_of_lt (by omega)⟩
  rw [toNat_add, show (1 : UInt32).toNat = 1 from rfl, Nat.mod_eq_of_lt (by omega)]

/-- What `randBytesAlloc` hands to the table. Its calls are `malloc` of
`x07_ext_make_err_doc` when `len > 2 ^ 20`; otherwise `malloc`, `RAND_bytes` when `len ≠ 0`,
and `malloc` of `x07_ext_make_err_doc` when `RAND_bytes` fails. -/
def randCodec (len : UInt32) (o : Oracle) : Except ℤ (Option Block × ℕ) :=
  if len > 1024 * 1024 then
    if o.ok 0 = false then .error (-1)
    else .ok (some ⟨9, [0] ++ writeU32Le 3 ++ writeU32Le 0⟩, 9)
  else if o.ok 0 = false then .error (-1)
  else if len ≠ 0 ∧ o.rc 1 ≠ 1 then
    if o.ok 2 = false then .error (-1)
    else .ok (some ⟨9, [0] ++ writeU32Le 1 ++ writeU32Le 0⟩, 9)
  else .ok (some ⟨(1 + len).toNat, [1] ++ if len = 0 then [] else o.fill 1 (Lib.cInt len).toNat⟩,
    (1 + len).toNat)

theorem exec_randBytesAlloc (len : UInt32) (oh : Option UInt32) (o : Oracle) (t : SlotTable) :
    exec (randBytesAlloc len oh) o t = settle t oh (randCodec len o) := by
  rw [exec_eq_iff_sat]
  simp only [randBytesAlloc, makeErrDoc, Lib.randBytes, sat_bind, sat_call, sat_ite, sat_pure,
    sat_malloc, sat_obtain, sat_free, sat_allocSlot, sat_store, sat_acquire, Frame.start]
  have h9 : Nat.toUInt32 9 = 9 := rfl
  by_cases hl : 1048576 < len
  · simp +contextual [hl, randCodec, settle, h9]
  · have hl' : len ≤ 1048576 := Nat.le_of_not_lt hl
    by_cases h0 : len = 0
    · simp +contextual [hl, hl', h0, randCodec, settle, toUInt32_toNat]
    · simp +contextual [hl, hl', h0, randCodec, settle, toUInt32_toNat, h9]

theorem randCodec_cases (len : UInt32) (o : Oracle) :
    randCodec len o = .error (-1) ∨
    2 ^ 20 < len.toNat ∧ randCodec len o = .ok (some ⟨9, [0] ++ writeU32Le 3 ++ writeU32Le 0⟩, 9) ∨
    len.toNat ≤ 2 ^ 20 ∧ ¬(len = 0 ∨ o.rc 1 = 1) ∧
      randCodec len o = .ok (some ⟨9, [0] ++ writeU32Le 1 ++ writeU32Le 0⟩, 9) ∨
    len.toNat ≤ 2 ^ 20 ∧ (len = 0 ∨ o.rc 1 = 1) ∧ ∃ R : List UInt8, R.length = len.toNat ∧
      randCodec len o = .ok (some ⟨1 + len.toNat, [1] ++ R⟩, 1 + len.toNat) := by
  unfold randCodec
  split_ifs with h1 h2 h3 h4 h5 h6
  · exact .inl rfl
  · exact .inr (.inl ⟨h1, rfl⟩)
  · exact .inl rfl
  · exact .inl rfl
  · exact .inr (.inr (.inl ⟨Nat.le_of_not_lt h1, by tauto, rfl⟩))
  all_goals
    obtain ⟨hn, hc⟩ := need_and_cInt (Nat.le_of_not_lt h1)
    refine .inr (.inr (.inr ⟨Nat.le_of_not_lt h1, by tauto, _, ?_, by rw [hn]⟩))
  · simp [h6]
  · simp [hc]

theorem randCodec_ok (len : UInt32) (o : Oracle) : CodecOk (randCodec len o) := by
  rcases randCodec_cases len o with he | ⟨-, he⟩ | ⟨-, -, he⟩ | ⟨h1, -, R, hR, he⟩ <;>
    simp only [he, CodecOk]
  · decide
  · decide
  · decide
  · exact ⟨_, rfl, by simp [hR, Nat.add_comm], le_rfl, by unfold uint32Max; omega⟩

theorem randBytesAlloc_document (len : UInt32) (oh : Option UInt32) (o : Oracle) (t : SlotTable) :
    (exec (randBytesAlloc len oh) o t).1 = (-1, setOut oh 0) ∨
    ∃ h D, (exec (randBytesAlloc len oh) o t).1 = (0, setOut oh h) ∧
      (exec (randBytesAlloc len oh) o t).2.view h = some D ∧
      ((exec (randBytesAlloc len oh) o t).2.bufLen h).toNat = D.length ∧
      if 2 ^ 20 < len.toNat then D = [0] ++ writeU32Le 3 ++ writeU32Le 0
      else (1 + len).toNat = 1 + len.toNat ∧ Lib.cInt len = len.toNat ∧
        if len = 0 ∨ o.rc 1 = 1 then ∃ R, R.length = len.toNat ∧ D = [1] ++ R
        else D = [0] ++ writeU32Le 1 ++ writeU32Le 0 := by
  rw [exec_randBytesAlloc]
  rcases randCodec_cases len o with he | ⟨h1, he⟩ | ⟨h1, h2, he⟩ | ⟨h1, h2, R, hR, he⟩ <;> rw [he]
  · exact .inl rfl
  · exact settle_kept rfl (by decide) (by rw [if_pos h1])
  · exact settle_kept rfl (by decide)
      (by rw [if_neg (Nat.not_lt.mpr h1), if_neg h2]; exact ⟨need_and_cInt h1 |>.1, need_and_cInt h1 |>.2, rfl⟩)
  · exact settle_kept (by simp [hR, Nat.add_comm]) (by unfold uint32Max; omega)
      (by rw [if_neg (Nat.not_lt.mpr h1), if_pos h2]; exact ⟨need_and_cInt h1 |>.1, need_and_cInt h1 |>.2, R, hR, rfl⟩)

theorem randBytesAlloc_refines (len : UInt32) (oh : Option UInt32) (o : Oracle) (t : SlotTable) :
    AllocRefines (randBytesAlloc len oh) oh o t fun bs => bs.length = 9 ∨ bs.length = 1 + len.toNat :=
  allocRefines_of_settle (randCodec_ok len o) (fun b n h => by
    rcases randCodec_cases len o with he | ⟨-, he⟩ | ⟨-, -, he⟩ | ⟨-, -, R, hR, he⟩ <;>
      rw [he] at h <;> cases h
    · exact .inl rfl
    · exact .inl rfl
    · exact .inr (by simp [hR, Nat.add_comm]))
    (exec_randBytesAlloc len oh o) t

theorem randBytesAlloc_code (len : UInt32) (oh : Option UInt32) (o : Oracle) (t : SlotTable) :
    (exec (randBytesAlloc len oh) o t).1.1 = 0 ∨ (exec (randBytesAlloc len oh) o t).1.1 = -1 := by
  rcases randBytesAlloc_document len oh o t with h | ⟨_, _, h, -⟩ <;> rw [h]
  · exact .inr rfl
  · exact .inl rfl

theorem randBytesAlloc_inv (len : UInt32) (oh : Option UInt32) (o : Oracle) {t : SlotTable}
    (ht : t.Inv) : (exec (randBytesAlloc len oh) o t).2.Inv := by
  rw [exec_randBytesAlloc]; exact settle_inv (randCodec_ok len o) ht

/-- In both versions, a call either fails with `-1` and a cleared out-parameter, or keeps the
document for `len` under a fresh handle whose length is the document's; `x07_ext_write_u32_le`
writes the little-endian bytes of its argument. -/
theorem rand_bytes_alloc_documents (len : UInt32) (oh : Option UInt32) (o : Oracle)
    (t : SlotTable) :
    (∀ v, (writeU32Le v).length = 4 ∧ leValue (writeU32Le v) = v.toNat) ∧
    ∀ x ∈ [randBytesAlloc, V013.randBytesAlloc],
      (exec (x len oh) o t).1 = (-1, setOut oh 0) ∨
      ∃ h D, (exec (x len oh) o t).1 = (0, setOut oh h) ∧ (exec (x len oh) o t).2.view h = some D ∧
        ((exec (x len oh) o t).2.bufLen h).toNat = D.length ∧
        if 2 ^ 20 < len.toNat then D = [0] ++ writeU32Le 3 ++ writeU32Le 0
        else (1 + len).toNat = 1 + len.toNat ∧ Lib.cInt len = len.toNat ∧
          if len = 0 ∨ o.rc 1 = 1 then ∃ R, R.length = len.toNat ∧ D = [1] ++ R
          else D = [0] ++ writeU32Le 1 ++ writeU32Le 0 := by
  refine ⟨leValue_writeU32Le, ?_⟩
  simp only [List.mem_cons, List.mem_singleton, List.not_mem_nil, or_false]
  rintro x (rfl | rfl) <;> exact randBytesAlloc_document len oh o t

end X07Ext.Openssl
