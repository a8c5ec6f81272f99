import X07Ext.Openssl.Refinement
import X07Ext.Zlib.Refinement

/-! # The table's capacity and the order of its handles

Both shims keep at most 4095 buffers, in slots `1 .. 4095`. When every one of those slots
holds a buffer, no allocating entry point of either shim can keep its output: each returns a
failure (the zlib calls and `rand_bytes_alloc` a non-zero code with `*out_handle = 0`, the
others 0) and leaves `(g_bufs, g_lens)` as it was, so a live slot is never overwritten.
Every call but `buf_free` either leaves the table or fills its first free slot, so until the
first `buf_free` the live slots are `1 .. m` and handles are issued as `1, 2, 3, …`. -/
namespace X07Ext

open SlotTable

section Full

variable {t : SlotTable} (o : Oracle)

theorem settle_of_full_exec {x : Shim (ℤ × Option UInt32)} {oh : Option UInt32}
    {pre : Except ℤ (Option Block × ℕ)} (hx : exec x o t = settle t oh pre) (hp : CodecOk pre)
    (ha : t.allocSlot = 0) : (exec x o t).1.1 ≠ 0 ∧ (exec x o t).1.2 = setOut oh 0 ∧
      (exec x o t).2 = t := by
  rw [hx]
  exact ⟨(settle_of_full hp ha).1, (settle_failure (settle_of_full hp ha).1).1,
    (settle_of_full hp ha).2⟩

theorem keeps_of_full_exec {x : Shim ℤ} {P : List UInt8 → Prop}
    (hx : Sat x (Frame.start o t) fun r f => Keeps t P r f.table) (ha : t.allocSlot = 0) :
    exec x o t = (0, t) :=
  Prod.ext (Keeps.of_full hx ha).1 (Keeps.of_full hx ha).2

/-- On a table whose slots `1 .. 4095` all hold a buffer, every allocating entry point fails
and leaves the table unchanged. -/
theorem full_table_rejects_allocation (hfull : ∀ j : Fin 4096, j ≠ 0 → t.bufs j ≠ none) :
    (∀ s n oh, (exec (Zlib.compressAlloc s n oh) o t).1.1 ≠ 0 ∧
      (exec (Zlib.compressAlloc s n oh) o t).1.2 = setOut oh 0 ∧
      (exec (Zlib.compressAlloc s n oh) o t).2 = t) ∧
    (∀ s n m oh, (exec (Zlib.uncompressAlloc s n m oh) o t).1.1 ≠ 0 ∧
      (exec (Zlib.uncompressAlloc s n m oh) o t).1.2 = setOut oh 0 ∧
      (exec (Zlib.uncompressAlloc s n m oh) o t).2 = t) ∧
    (∀ s n m oh, (exec (Zlib.gzipDecompressAlloc s n m oh) o t).1.1 ≠ 0 ∧
      (exec (Zlib.gzipDecompressAlloc s n m oh) o t).1.2 = setOut oh 0 ∧
      (exec (Zlib.gzipDecompressAlloc s n m oh) o t).2 = t) ∧
    (∀ s n m oh, (exec (Zlib.inflateRawAlloc s n m oh) o t).1.1 ≠ 0 ∧
      (exec (Zlib.inflateRawAlloc s n m oh) o t).1.2 = setOut oh 0 ∧
      (exec (Zlib.inflateRawAlloc s n m oh) o t).2 = t) ∧
    (∀ len oh, (exec (Openssl.randBytesAlloc len oh) o t).1.1 ≠ 0 ∧
      (exec (Openssl.randBytesAlloc len oh) o t).1.2 = setOut oh 0 ∧
      (exec (Openssl.randBytesAlloc len oh) o t).2 = t) ∧
    (∀ sk kl m ml, exec (Openssl.ed25519SignAlloc sk kl m ml) o t = (0, t)) ∧
    (∀ sk kl, exec (Openssl.ed25519PkFromSeedAlloc sk kl) o t = (0, t)) ∧
    (∀ n nl e el d dl m ml, exec (Openssl.rsaPkcs1Sha256SignAlloc n nl e el d dl m ml) o t = (0, t)) ∧
    ∀ bits, exec (Openssl.rsaRs256PrivateJwkGenerateAlloc bits) o t = (0, t) := by
  have ha : t.allocSlot = 0 := t.allocSlot_eq_zero_iff.mpr hfull
  refine ⟨fun s n oh => settle_of_full_exec o (Zlib.exec_compressAlloc s n oh o t)
      (Zlib.compressCodec_ok o) ha,
    fun s n m oh => settle_of_full_exec o (Zlib.exec_uncompressAlloc s n m oh o t)
      (Zlib.uncompressCodec_ok m o) ha,
    fun s n m oh => settle_of_full_exec o (Zlib.exec_inflateAllocWindowBits s n m _ oh o t)
      (Zlib.inflateCodec_ok m o) ha,
    fun s n m oh => settle_of_full_exec o (Zlib.exec_inflateAllocWindowBits s n m _ oh o t)
      (Zlib.inflateCodec_ok m o) ha,
    fun len oh => settle_of_full_exec o (Openssl.exec_randBytesAlloc len oh o t)
      (Openssl.randCodec_ok len o) ha,
    fun sk kl m ml => keeps_of_full_exec o (Openssl.ed25519SignAlloc_keeps o t sk kl m ml) ha,
    fun sk kl => keeps_of_full_exec o (Openssl.ed25519PkFromSeedAlloc_keeps o t sk kl) ha,
    fun n nl e el d dl m ml =>
      keeps_of_full_exec o (Openssl.rsaPkcs1Sha256SignAlloc_keeps o t n nl e el d dl m ml) ha,
    fun bits => keeps_of_full_exec o
      (Sat.mono (Openssl.rsaRs256PrivateJwkGenerateAlloc_spec bits o t) fun _ _ h => h.2) ha⟩

end Full

/-- The live slots of `t` are exactly `1 .. m`. -/
def SlotTable.LiveUpTo (t : SlotTable) (m : ℕ) : Prop :=
  ∀ j : Fin 4096, j ≠ 0 → (t.bufs j ≠ none ↔ j.val ≤ m)

/-- What a call that frees nothing does to the table: nothing, or its output in the first free
slot. -/
def FillsFirst (t t' : SlotTable) : Prop :=
  t' = t ∨ t.allocSlot ≠ 0 ∧ ∃ b len, t' = t.put t.allocSlot (some b) len

section Order

variable {t t' : SlotTable} {m : ℕ}

theorem liveUpTo_zero : zero.LiveUpTo 0 := fun _ hj =>
  ⟨fun h => absurd rfl h, fun h => absurd (Fin.ext (Nat.le_zero.mp h)) hj⟩

theorem SlotTable.LiveUpTo.allocSlot_val (hl : t.LiveUpTo m) (hm : m < 4095) :
    t.allocSlot.val = m + 1 := by
  have hj : (⟨m + 1, by omega⟩ : Fin 4096) ≠ 0 := fun h => by simp [Fin.ext_iff] at h
  have hfree : t.bufs ⟨m + 1, by omega⟩ = none := by
    by_contra h
    exact absurd ((hl _ hj).mp h) (by simp)
  have ha : t.allocSlot ≠ 0 := fun ha => t.allocSlot_eq_zero_iff.mp ha _ hj hfree
  obtain ⟨hnull, hbelow⟩ := t.allocSlot_first ha
  have h1 : m < t.allocSlot.val := by
    by_contra h
    exact (hl _ ha).mpr (by omega) hnull
  have h2 : t.allocSlot.val ≤ m + 1 := by
    by_contra h
    exact hbelow _ hj (Fin.lt_def.mpr (by simp only; omega)) hfree
  omega

theorem SlotTable.LiveUpTo.allocSlot_full (hl : t.LiveUpTo 4095) : t.allocSlot = 0 :=
  t.allocSlot_eq_zero_iff.mpr fun j hj => (hl j hj).mpr (by omega)

theorem SlotTable.LiveUpTo.fillsFirst (hl : t.LiveUpTo m) (hm : m ≤ 4095)
    (hf : FillsFirst t t') : ∃ m' ≤ 4095, t'.LiveUpTo m' := by
  obtain rfl | ⟨ha, b, len, rfl⟩ := hf
  · exact ⟨m, hm, hl⟩
  · have hlt : m < 4095 := by
      by_contra h
      rw [show m = 4095 by omega] at hl
      exact ha hl.allocSlot_full
    have hv := hl.allocSlot_val hlt
    refine ⟨m + 1, by omega, fun j hj => ?_⟩
    rw [put_bufs]
    by_cases hji : j = t.allocSlot
    · subst hji
      simp [hv]
    · rw [Function.update_noteq hji, hl j hj]
      have : j.val ≠ m + 1 := fun h => hji (Fin.ext (h.trans hv.symm))
      omega

theorem liveUpTo_foldl {α : Type} (step : SlotTable → α → SlotTable) :
    ∀ xs : List α, (∀ t, ∀ x ∈ xs, FillsFirst t (step t x)) → ∀ {t : SlotTable} {m : ℕ},
      m ≤ 4095 → t.LiveUpTo m → ∃ m' ≤ 4095, (xs.foldl step t).LiveUpTo m'
  | [], _, _, m, hm, hl => ⟨m, hm, hl⟩
  | x :: xs, hs, _, _, hm, hl => by
    obtain ⟨m', hm', hl'⟩ := hl.fillsFirst hm (hs _ x (List.mem_cons_self _ _))
    exact liveUpTo_foldl step xs (fun t y hy => hs t y (List.mem_cons_of_mem _ hy)) hm' hl'

theorem SlotTable.LiveUpTo.allocSlot_eq (hl : t.LiveUpTo m) (hm : m ≤ 4095) :
    t.allocSlot.val = if m < 4095 then m + 1 else 0 := by
  split_ifs with h
  · exact hl.allocSlot_val h
  · rw [show m = 4095 by omega] at hl
    rw [hl.allocSlot_full]; rfl

theorem foldl_issued_in_order {α : Type} (step : SlotTable → α → SlotTable) (xs : List α)
    (hs : ∀ t, ∀ x ∈ xs, FillsFirst t (step t x)) :
    ∃ m ≤ 4095, (xs.foldl step zero).LiveUpTo m ∧
      (xs.foldl step zero).allocSlot.val = if m < 4095 then m + 1 else 0 := by
  obtain ⟨m, hm, hl⟩ := liveUpTo_foldl step xs hs (Nat.zero_le _) liveUpTo_zero
  exact ⟨m, hm, hl, hl.allocSlot_eq hm⟩

theorem settle_fillsFirst {oh : Option UInt32} {pre : Except ℤ (Option Block × ℕ)}
    (hp : CodecOk pre) : FillsFirst t (settle t oh pre).2 := by
  by_cases h : (settle t oh pre).1.1 = 0
  · obtain ⟨ha, -, b, -, ht, -⟩ := settle_success hp h
    exact .inr ⟨ha, b, _, ht⟩
  · exact .inl (settle_failure h).2

theorem Keeps.fillsFirst {P : List UInt8 → Prop} {r : ℤ} (hk : Keeps t P r t') :
    FillsFirst t t' := by
  obtain ⟨-, rfl⟩ | ⟨ha, -, b, len, rfl, -⟩ := hk
  · exact .inl rfl
  · exact .inr ⟨ha, b, len, rfl⟩

theorem fillsFirst_of_keeps {o : Oracle} {x : Shim ℤ} {P : List UInt8 → Prop}
    (hx : Sat x (Frame.start o t) fun r f => Keeps t P r f.table) : FillsFirst t (exec x o t).2 :=
  Keeps.fillsFirst hx

end Order

theorem Zlib.Call.run_fillsFirst (c : Zlib.Call) (o : Oracle) (t : SlotTable)
    (hc : ∀ h, c ≠ .bufFree h) : FillsFirst t (c.run o t).2 := by
  cases c with
  | compressAlloc s n oh =>
    show FillsFirst t (exec (Zlib.compressAlloc s n oh) o t).2
    rw [Zlib.exec_compressAlloc]; exact settle_fillsFirst (Zlib.compressCodec_ok o)
  | uncompressAlloc s n m oh =>
    show FillsFirst t (exec (Zlib.uncompressAlloc s n m oh) o t).2
    rw [Zlib.exec_uncompressAlloc]; exact settle_fillsFirst (Zlib.uncompressCodec_ok m o)
  | gzipDecompressAlloc s n m oh =>
    show FillsFirst t (exec (Zlib.inflateAllocWindowBits s n m _ oh) o t).2
    rw [Zlib.exec_inflateAllocWindowBits]; exact settle_fillsFirst (Zlib.inflateCodec_ok m o)
  | inflateRawAlloc s n m oh =>
    show FillsFirst t (exec (Zlib.inflateAllocWindowBits s n m _ oh) o t).2
    rw [Zlib.exec_inflateAllocWindowBits]; exact settle_fillsFirst (Zlib.inflateCodec_ok m o)
  | bufLen | bufPtr => exact .inl rfl
  | bufFree h => exact absurd rfl (hc h)

theorem Openssl.Call.run_fillsFirst (c : Openssl.Call) (o : Oracle) (t : SlotTable)
    (hc : ∀ h, c ≠ .bufFree h) : FillsFirst t (c.run o t).2 := by
  cases c with
  | randBytesAlloc len oh =>
    show FillsFirst t (exec (Openssl.randBytesAlloc len oh) o t).2
    rw [Openssl.exec_randBytesAlloc]; exact settle_fillsFirst (Openssl.randCodec_ok len o)
  | ed25519SignAlloc sk kl m ml =>
    exact fillsFirst_of_keeps (Openssl.ed25519SignAlloc_keeps o t sk kl m ml)
  | ed25519PkFromSeedAlloc sk kl =>
    exact fillsFirst_of_keeps (Openssl.ed25519PkFromSeedAlloc_keeps o t sk kl)
  | rsaPkcs1Sha256SignAlloc n nl e el d dl m ml =>
    exact fillsFirst_of_keeps (Openssl.rsaPkcs1Sha256SignAlloc_keeps o t n nl e el d dl m ml)
  | rsaRs256PrivateJwkGenerateAlloc bits =>
    exact fillsFirst_of_keeps
      (Sat.mono (Openssl.rsaRs256PrivateJwkGenerateAlloc_spec bits o t) fun _ _ h => h.2)
  | bufFree h => exact absurd rfl (hc h)
  | bufLen | bufPtr | sha256 | sha512 | hmac => exact .inl rfl
  | randBytes out len => exact .inl (Openssl.randBytes_spec o t out len).1
  | ed25519Verify pk pl m ml s sl => exact .inl (Openssl.ed25519Verify_spec o t pk pl m ml s sl).2.1
  | ed25519Sign sk kl m ml os ol => exact .inl (Openssl.ed25519Sign_spec o t sk kl m ml os ol).2.1
  | ed25519VerifySk sk kl m ml s sl =>
    exact .inl (Openssl.ed25519VerifySk_spec o t sk kl m ml s sl).2.1
  | rsaPkcs1Sha256Verify n nl e el m ml s sl =>
    exact .inl (Openssl.rsaPkcs1Sha256Verify_spec o t n nl e el m ml s sl).2.1
  | ecdsaP256Sha256VerifyRawsig x xl y yl m ml s sl =>
    exact .inl (Openssl.ecdsaP256Sha256VerifyRawsig_spec o t x xl y yl m ml s sl).2.1

/-- Until the first `buf_free`, with any arguments and any answers from `malloc` and the
libraries, the live slots of either shim are exactly `1 .. m` for some `m`, and the next slot
an allocation finds is `m + 1`, or none once all 4095 are live: handles are issued in the
order `1, 2, 3, …`. -/
theorem handles_issued_in_order :
    (∀ (c : Zlib.Call) o t, (∀ h, c ≠ .bufFree h) → FillsFirst t (c.run o t).2) ∧
    (∀ (c : Openssl.Call) o t, (∀ h, c ≠ .bufFree h) → FillsFirst t (c.run o t).2) ∧
    (∀ calls : List (Zlib.Call × Oracle), (∀ c ∈ calls, ∀ h, c.1 ≠ .bufFree h) →
      ∃ m ≤ 4095, (Zlib.runAll calls).LiveUpTo m ∧
        (Zlib.runAll calls).allocSlot.val = if m < 4095 then m + 1 else 0) ∧
    ∀ calls : List (Openssl.Call × Oracle), (∀ c ∈ calls, ∀ h, c.1 ≠ .bufFree h) →
      ∃ m ≤ 4095, (Openssl.runAll calls).LiveUpTo m ∧
        (Openssl.runAll calls).allocSlot.val = if m < 4095 then m + 1 else 0 :=
  ⟨fun c o t hc => c.run_fillsFirst o t hc, fun c o t hc => c.run_fillsFirst o t hc,
    fun calls hc => foldl_issued_in_order _ calls fun t c h => c.1.run_fillsFirst c.2 t (hc c h),
    fun calls hc => foldl_issued_in_order _ calls fun t c h => c.1.run_fillsFirst c.2 t (hc c h)⟩

theorem handles_issued_after_compress :
    (∀ c ∈ [((.compressAlloc [] 0 none : Zlib.Call), Zlib.zlibOk)], ∀ h, c.1 ≠ .bufFree h) ∧
    ∃ m ≤ 4095, (Zlib.runAll [(.compressAlloc [] 0 none, Zlib.zlibOk)]).LiveUpTo m ∧
      (Zlib.runAll [(.compressAlloc [] 0 none, Zlib.zlibOk)]).allocSlot.val =
        if m < 4095 then m + 1 else 0 :=
  have hc : ∀ c ∈ [((.compressAlloc [] 0 none : Zlib.Call), Zlib.zlibOk)], ∀ h, c.1 ≠ .bufFree h :=
    by simp
  ⟨hc, handles_issued_in_order.2.2.1 _ hc⟩

def filled : SlotTable := ⟨fun _ => some ⟨1, [0]⟩, fun _ => 1⟩

/-- Every allocation succeeds, every call returns 1, and `RSA_generate_key_ex` lends out eight
components of value 1. -/
def keyOnes : Oracle :=
  { Oracle.succeed with
    key := fun _ => ⟨some 1, some 1, some 1, some 1, some 1, some 1, some 1, some 1, by simp⟩ }

theorem full_table_rejects_jwk_on_filled :
    (∀ j : Fin 4096, j ≠ 0 → filled.bufs j ≠ none) ∧
    exec (Openssl.rsaRs256PrivateJwkGenerateAlloc 2048) keyOnes filled = (0, filled) :=
  have hfull : ∀ j : Fin 4096, j ≠ 0 → filled.bufs j ≠ none := fun _ _ => Option.some_ne_none _
  ⟨hfull, (full_table_rejects_allocation keyOnes hfull).2.2.2.2.2.2.2.2 2048⟩

end X07Ext
