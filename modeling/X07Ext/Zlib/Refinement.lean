import X07Ext.Zlib.Shim
import X07Ext.Alloc

/-! # The zlib shim refines a map from handles to byte strings

Every allocating entry point runs its codec without looking at the table and then keeps the
output at the first free slot. `settle` is that last part; the codec part of each entry point
is summarized as an `Except` over the oracle's answers, so an entry point run on any table is
`settle` of one summary. Over the tables reachable from zeroed storage the table stays
well-formed, and every call acts on `view` as an allocation, a removal or a read of the map. -/
namespace X07Ext.Zlib

open SlotTable

/-- The codec part of `compressAlloc`; calls are `compressBound`, `malloc`, `compress`. -/
def compressCodec (o : Oracle) : Except ℤ (Option Block × ℕ) :=
  let n := min (o.size 2) (o.size 0)
  if o.size 0 > uint32Max then .error (-2)
  else if o.ok 1 = false then .error (-1)
  else if o.rc 2 ≠ 0 then .error (o.rc 2)
  else if n > uint32Max then .error (-2)
  else .ok (some ⟨o.size 0, o.fill 2 n⟩, n)

/-- The codec part of `uncompressAlloc`; calls are `malloc`, `uncompress`. -/
def uncompressCodec (maxSize : UInt32) (o : Oracle) : Except ℤ (Option Block × ℕ) :=
  let n := min (o.size 1) maxSize.toNat
  if maxSize.toNat > uint32Max then .error (-2)
  else if o.ok 0 = false then .error (-1)
  else if o.rc 1 ≠ 0 then .error (o.rc 1)
  else if n > uint32Max then .error (-2)
  else .ok (some ⟨maxSize.toNat, o.fill 1 n⟩, n)

/-- The codec part of `inflateAllocWindowBits`; calls are `malloc`, `inflateInit2`,
`inflate`, `inflateEnd`. A NULL output buffer reaches `inflate`, which rejects it. -/
def inflateCodec (maxSize : UInt32) (o : Oracle) : Except ℤ (Option Block × ℕ) :=
  let n := min (o.size 2) maxSize.toNat
  if o.ok 0 = false ∧ maxSize ≠ 0 then .error (-1)
  else if o.rc 1 ≠ zOk then .error (o.rc 1)
  else if o.ok 0 = false then .error zStreamError
  else if finishStatus (o.rc 2) ≠ zStreamEnd then .error (finishStatus (o.rc 2))
  else if o.rc 3 ≠ zOk then .error (o.rc 3)
  else if n > uint32Max then .error (-2)
  else .ok (some ⟨maxSize.toNat, o.fill 2 n⟩, n)

theorem finishStatus_ne_zero (rc : ℤ) : finishStatus rc ≠ 0 := by
  unfold finishStatus zOk zBufError; split_ifs <;> omega

theorem compressCodec_kept {o : Oracle} {b : Block} {n : ℕ}
    (h : compressCodec o = .ok (some b, n)) : b.bytes = o.fill 2 (min (o.size 2) (o.size 0)) := by
  dsimp only [compressCodec] at h
  split_ifs at h
  cases h
  rfl

theorem uncompressCodec_kept {maxSize : UInt32} {o : Oracle} {b : Block} {n : ℕ}
    (h : uncompressCodec maxSize o = .ok (some b, n)) :
    b.bytes = o.fill 1 (min (o.size 1) maxSize.toNat) := by
  dsimp only [uncompressCodec] at h
  split_ifs at h
  cases h
  rfl

theorem inflateCodec_kept {maxSize : UInt32} {o : Oracle} {b : Block} {n : ℕ}
    (h : inflateCodec maxSize o = .ok (some b, n)) :
    b.bytes = o.fill 2 (min (o.size 2) maxSize.toNat) := by
  dsimp only [inflateCodec] at h
  split_ifs at h
  cases h
  rfl

theorem exec_compressAlloc (source : List UInt8) (sourceLen : UInt32) (oh : Option UInt32)
    (o : Oracle) (t : SlotTable) :
    exec (compressAlloc source sourceLen oh) o t = settle t oh (compressCodec o) := by
  rw [exec_eq_iff_sat]
  simp only [compressAlloc, compressBound, compress, sat_bind, sat_call, sat_ite, sat_pure,
    sat_malloc, sat_obtain, sat_free, sat_allocSlot, sat_store, sat_acquire, Frame.start]
  simp +contextual [-not_lt, -Nat.not_lt, -lt_inf_iff, compressCodec, settle]

theorem exec_uncompressAlloc (source : List UInt8) (sourceLen maxSize : UInt32)
    (oh : Option UInt32) (o : Oracle) (t : SlotTable) :
    exec (uncompressAlloc source sourceLen maxSize oh) o t =
      settle t oh (uncompressCodec maxSize o) := by
  rw [exec_eq_iff_sat]
  simp only [uncompressAlloc, uncompress, sat_bind, sat_call, sat_ite, sat_pure,
    sat_malloc, sat_obtain, sat_free, sat_allocSlot, sat_store, sat_acquire, Frame.start]
  simp +contextual [-not_lt, -Nat.not_lt, -lt_inf_iff, uncompressCodec, settle]

theorem exec_inflateAllocWindowBits (source : List UInt8) (sourceLen maxSize : UInt32)
    (windowBits : ℤ) (oh : Option UInt32) (o : Oracle) (t : SlotTable) :
    exec (inflateAllocWindowBits source sourceLen maxSize windowBits oh) o t =
      settle t oh (inflateCodec maxSize o) := by
  rw [exec_eq_iff_sat]
  simp only [inflateAllocWindowBits, inflateInit2, inflate, inflateEnd, sat_bind, sat_call,
    sat_ite, sat_pure, sat_malloc, sat_obtain, sat_free, sat_allocSlot, sat_store, sat_acquire,
    sat_release, Frame.start]
  cases h0 : o.ok 0 <;>
    simp +contextual [-not_lt, -Nat.not_lt, -lt_inf_iff, inflateCodec, settle, h0, zOk,
      zStreamEnd, zStreamError]

theorem compressCodec_ok (o : Oracle) : CodecOk (compressCodec o) := by
  dsimp only [compressCodec]
  split_ifs with h1 h2 h3 h4 <;> simp only [CodecOk]
  all_goals first
    | decide
    | exact h3
    | exact ⟨_, rfl, by simp, min_le_right _ _, not_lt.mp h4⟩

theorem uncompressCodec_ok (maxSize : UInt32) (o : Oracle) : CodecOk (uncompressCodec maxSize o) := by
  dsimp only [uncompressCodec]
  split_ifs with h1 h2 h3 h4 <;> simp only [CodecOk]
  all_goals first
    | decide
    | exact h3
    | exact ⟨_, rfl, by simp, min_le_right _ _, not_lt.mp h4⟩

theorem inflateCodec_ok (maxSize : UInt32) (o : Oracle) : CodecOk (inflateCodec maxSize o) := by
  dsimp only [inflateCodec]
  split_ifs with h1 h2 h3 h4 h5 h6 <;> simp only [CodecOk]
  all_goals first
    | decide
    | exact h2
    | exact finishStatus_ne_zero _
    | exact h5
    | exact ⟨_, rfl, by simp, min_le_right _ _, not_lt.mp h6⟩

theorem compressAlloc_settled (source : List UInt8) (sourceLen : UInt32) (oh : Option UInt32)
    (o : Oracle) (t : SlotTable) : (heapAfter (compressAlloc source sourceLen oh) o t).Settled := by
  rw [settled_iff_sat]
  simp only [compressAlloc, compressBound, compress, sat_bind, sat_call, sat_ite, sat_pure,
    sat_malloc, sat_obtain, sat_free, sat_allocSlot, sat_store, sat_acquire, Frame.start]
  simp +decide [Heap.empty, Heap.release, Heap.drop, Heap.fault]

theorem uncompressAlloc_settled (source : List UInt8) (sourceLen maxSize : UInt32)
    (oh : Option UInt32) (o : Oracle) (t : SlotTable) :
    (heapAfter (uncompressAlloc source sourceLen maxSize oh) o t).Settled := by
  rw [settled_iff_sat]
  simp only [uncompressAlloc, uncompress, sat_bind, sat_call, sat_ite, sat_pure,
    sat_malloc, sat_obtain, sat_free, sat_allocSlot, sat_store, sat_acquire, Frame.start]
  simp +decide [Heap.empty, Heap.release, Heap.drop, Heap.fault]

theorem inflateAllocWindowBits_settled (source : List UInt8) (sourceLen maxSize : UInt32)
    (windowBits : ℤ) (oh : Option UInt32) (o : Oracle) (t : SlotTable) :
    (heapAfter (inflateAllocWindowBits source sourceLen maxSize windowBits oh) o t).Settled := by
  rw [settled_iff_sat]
  simp only [inflateAllocWindowBits, inflateInit2, inflate, inflateEnd, sat_bind, sat_call,
    sat_ite, sat_pure, sat_malloc, sat_obtain, sat_free, sat_allocSlot, sat_store, sat_acquire,
    sat_release, Frame.start]
  cases o.ok 0 <;> simp +decide [Heap.empty, Heap.release, Heap.drop, Heap.fault]

/-- How one call acts on the map of the table `t`. An allocating call keeps exactly the bytes
zlib wrote, as many as it reported, and a failure while a slot is free is its codec's failure;
`buf_len` and `buf_ptr` read the map, `buf_free` removes the handle and is a no-op on one that
is not live. -/
def Call.Refines (o : Oracle) (t : SlotTable) : Call → Prop
  | .compressAlloc s n oh =>
    AllocRefines (Zlib.compressAlloc s n oh) oh o t (· = o.fill 2 (min (o.size 2) (o.size 0))) ∧
      FailsInCodec (Zlib.compressAlloc s n oh) o t (compressCodec o)
  | .uncompressAlloc s n m oh =>
    AllocRefines (Zlib.uncompressAlloc s n m oh) oh o t (· = o.fill 1 (min (o.size 1) m.toNat)) ∧
      FailsInCodec (Zlib.uncompressAlloc s n m oh) o t (uncompressCodec m o)
  | .gzipDecompressAlloc s n m oh =>
    AllocRefines (Zlib.gzipDecompressAlloc s n m oh) oh o t
        (· = o.fill 2 (min (o.size 2) m.toNat)) ∧
      FailsInCodec (Zlib.gzipDecompressAlloc s n m oh) o t (inflateCodec m o)
  | .inflateRawAlloc s n m oh =>
    AllocRefines (Zlib.inflateRawAlloc s n m oh) oh o t (· = o.fill 2 (min (o.size 2) m.toNat)) ∧
      FailsInCodec (Zlib.inflateRawAlloc s n m oh) o t (inflateCodec m o)
  | .bufLen h => (t.bufLen h).toNat = ((t.view h).map List.length).getD 0
  | .bufPtr h => (t.bufPtr h).map Block.bytes = t.view h
  | .bufFree h =>
    (t.bufFree h).view = Function.update t.view h none ∧ (t.view h = none → t.bufFree h = t)

theorem Call.refines (c : Call) (o : Oracle) {t : SlotTable} (ht : t.Inv) : c.Refines o t := by
  cases c with
  | compressAlloc s n oh =>
    exact ⟨allocRefines_of_settle (compressCodec_ok o) (fun _ _ => compressCodec_kept)
      (exec_compressAlloc s n oh o) t, failsInCodec_of_settle (exec_compressAlloc s n oh o) t⟩
  | uncompressAlloc s n m oh =>
    exact ⟨allocRefines_of_settle (uncompressCodec_ok m o) (fun _ _ => uncompressCodec_kept)
      (exec_uncompressAlloc s n m oh o) t, failsInCodec_of_settle (exec_uncompressAlloc s n m oh o) t⟩
  | gzipDecompressAlloc s n m oh =>
    exact ⟨allocRefines_of_settle (inflateCodec_ok m o) (fun _ _ => inflateCodec_kept)
      (exec_inflateAllocWindowBits s n m _ oh o) t,
      failsInCodec_of_settle (exec_inflateAllocWindowBits s n m _ oh o) t⟩
  | inflateRawAlloc s n m oh =>
    exact ⟨allocRefines_of_settle (inflateCodec_ok m o) (fun _ _ => inflateCodec_kept)
      (exec_inflateAllocWindowBits s n m _ oh o) t,
      failsInCodec_of_settle (exec_inflateAllocWindowBits s n m _ oh o) t⟩
  | bufLen h => exact ht.bufLen_eq h
  | bufPtr h => exact ht.bufPtr_eq h
  | bufFree h => exact ⟨view_bufFree t h, ht.bufFree_of_not_live⟩

theorem Call.run_inv (c : Call) (o : Oracle) {t : SlotTable} (ht : t.Inv) : (c.run o t).2.Inv := by
  cases c with
  | compressAlloc s n oh =>
    simpa [Call.run, runAlloc, exec_compressAlloc] using settle_inv (compressCodec_ok o) ht
  | uncompressAlloc s n m oh =>
    simpa [Call.run, runAlloc, exec_uncompressAlloc] using settle_inv (uncompressCodec_ok m o) ht
  | gzipDecompressAlloc s n m oh =>
    simpa [Call.run, runAlloc, Zlib.gzipDecompressAlloc, exec_inflateAllocWindowBits] using
      settle_inv (inflateCodec_ok m o) ht
  | inflateRawAlloc s n m oh =>
    simpa [Call.run, runAlloc, Zlib.inflateRawAlloc, exec_inflateAllocWindowBits] using
      settle_inv (inflateCodec_ok m o) ht
  | bufLen h => exact ht
  | bufPtr h => exact ht
  | bufFree h => exact ht.bufFree h

def runAll (calls : List (Call × Oracle)) : SlotTable :=
  calls.foldl (fun t c => (c.1.run c.2 t).2) zero

theorem foldl_run_inv (calls : List (Call × Oracle)) {t : SlotTable} (ht : t.Inv) :
    (calls.foldl (fun t c => (c.1.run c.2 t).2) t).Inv := by
  induction calls generalizing t with
  | nil => exact ht
  | cons c cs ih => exact ih (c.1.run_inv c.2 ht)

theorem zlib_shim_refines_map (calls : List (Call × Oracle)) (c : Call) (o : Oracle) :
    (runAll calls).Inv ∧ c.Refines o (runAll calls) :=
  have ht := foldl_run_inv calls inv_zero
  ⟨ht, c.refines o ht⟩

theorem Call.view_of_live (c : Call) (o : Oracle) {t : SlotTable} (ht : t.Inv) {h : Handle}
    {bs : List UInt8} (hv : t.view h = some bs) (hc : c ≠ .bufFree h) :
    (c.run o t).2.view h = some bs := by
  have hr := c.refines o ht
  cases c with
  | compressAlloc | uncompressAlloc | gzipDecompressAlloc | inflateRawAlloc =>
    exact AllocRefines.view_of_live hr.1 hv
  | bufLen | bufPtr => exact hv
  | bufFree h' =>
    have hne : h ≠ h' := fun he => hc (he ▸ rfl)
    show (t.bufFree h').view h = some bs
    rw [hr.1, Function.update_noteq hne, hv]

theorem foldl_view_of_live (calls : List (Call × Oracle)) {t : SlotTable} (ht : t.Inv)
    {h : Handle} {bs : List UInt8} (hv : t.view h = some bs)
    (hf : ∀ c ∈ calls, c.1 ≠ .bufFree h) :
    (calls.foldl (fun t c => (c.1.run c.2 t).2) t).view h = some bs := by
  induction calls generalizing t with
  | nil => exact hv
  | cons c calls ih =>
    exact ih (c.1.run_inv c.2 ht) (c.1.view_of_live c.2 ht hv (hf c (List.mem_cons_self _ _)))
      fun c' hc' => hf c' (List.mem_cons_of_mem _ hc')

/-- A handle live after some calls shows the same bytes after any further calls that do not
free it: no call overwrites or reuses a live slot. -/
theorem zlib_handle_persists_until_freed (calls more : List (Call × Oracle)) {h : Handle}
    {bs : List UInt8} (hv : (runAll calls).view h = some bs)
    (hf : ∀ c ∈ more, c.1 ≠ .bufFree h) : (runAll (calls ++ more)).view h = some bs := by
  rw [runAll, List.foldl_append]
  exact foldl_view_of_live more (foldl_run_inv calls inv_zero) hv hf

/-- Every allocation succeeds, every zlib call returns `Z_OK` and reports 3, and the bytes
written are `abc`. -/
def zlibOk : Oracle :=
  { Oracle.succeed with rc := fun _ => 0, size := fun _ => 3, byte := fun _ i => (0x61 + i).toUInt8 }

theorem zlib_handle_persists_compress_then_free :
    (runAll [(.compressAlloc [] 0 none, zlibOk)]).view 1 = some [0x61, 0x62, 0x63] ∧
    (∀ c ∈ [((.bufFree 2 : Call), zlibOk)], c.1 ≠ .bufFree 1) ∧
    (runAll ([(.compressAlloc [] 0 none, zlibOk)] ++ [(.bufFree 2, zlibOk)])).view 1 =
      some [0x61, 0x62, 0x63] :=
  have hv : (runAll [(.compressAlloc [] 0 none, zlibOk)]).view 1 = some [0x61, 0x62, 0x63] := by
    decide
  have hf : ∀ c ∈ [((.bufFree 2 : Call), zlibOk)], c.1 ≠ .bufFree 1 := by simp
  ⟨hv, hf, zlib_handle_persists_until_freed _ _ hv hf⟩

theorem kept_within {o : Oracle} {k m : ℕ} {bs : List UInt8} (h : bs = o.fill k (min (o.size k) m)) :
    bs.length = min (o.size k) m ∧ bs.length ≤ m ∧ bs = o.fill k bs.length := by
  subst h
  simp

/-- The exported decompressing entry points keep the bytes zlib wrote, as many as it reported
and at most `max_size` (`uncompress` is call 1, `inflate` call 2), or fail and change
nothing. -/
theorem decompress_within_max_size (source : List UInt8) (sourceLen maxSize : UInt32)
    (oh : Option UInt32) (o : Oracle) (t : SlotTable) :
    AllocRefines (uncompressAlloc source sourceLen maxSize oh) oh o t (fun bs =>
      bs.length = min (o.size 1) maxSize.toNat ∧ bs.length ≤ maxSize.toNat ∧
        bs = o.fill 1 bs.length) ∧
    AllocRefines (gzipDecompressAlloc source sourceLen maxSize oh) oh o t (fun bs =>
      bs.length = min (o.size 2) maxSize.toNat ∧ bs.length ≤ maxSize.toNat ∧
        bs = o.fill 2 bs.length) ∧
    AllocRefines (inflateRawAlloc source sourceLen maxSize oh) oh o t (fun bs =>
      bs.length = min (o.size 2) maxSize.toNat ∧ bs.length ≤ maxSize.toNat ∧
        bs = o.fill 2 bs.length) :=
  ⟨allocRefines_of_settle (uncompressCodec_ok maxSize o)
      (fun _ _ h => kept_within (uncompressCodec_kept h))
      (exec_uncompressAlloc source sourceLen maxSize oh o) t,
    allocRefines_of_settle (inflateCodec_ok maxSize o)
      (fun _ _ h => kept_within (inflateCodec_kept h))
      (exec_inflateAllocWindowBits source sourceLen maxSize _ oh o) t,
    allocRefines_of_settle (inflateCodec_ok maxSize o)
      (fun _ _ h => kept_within (inflateCodec_kept h))
      (exec_inflateAllocWindowBits source sourceLen maxSize _ oh o) t⟩

end X07Ext.Zlib
