import X07Ext.Shim
import X07Ext.Store

/-! # Keeping an entry point's output in the table

An allocating entry point ends the same way in both shims: a failure code goes back with the
out-parameter cleared, and an output block goes to the first free slot, or is freed with `-1`
when there is none. `settle` is that tail, taken over the entry point's result computed
without the table; over it the entry point allocates a fresh handle of the map or changes
nothing. -/
namespace X07Ext

open SlotTable

/-- The tail of an allocating call: an error code goes back to the caller; a block of `len`
written bytes goes to the first free slot, or is freed with `-1` when there is none. -/
def settle (t : SlotTable) (oh : Option UInt32) :
    Except ℤ (Option Block × ℕ) → (ℤ × Option UInt32) × SlotTable
  | .error rc => ((rc, setOut oh 0), t)
  | .ok (buf, len) =>
    if t.allocSlot = 0 then ((-1, setOut oh 0), t)
    else ((0, setOut oh (handleOf t.allocSlot)), t.put t.allocSlot buf len.toUInt32)

/-- What a codec hands to `settle`: a non-zero code, or a non-NULL block holding the bytes
written, within its size and within `UINT32_MAX`. -/
def CodecOk : Except ℤ (Option Block × ℕ) → Prop
  | .error rc => rc ≠ 0
  | .ok (buf, len) => ∃ b, buf = some b ∧ b.bytes.length = len ∧ len ≤ b.size ∧ len ≤ uint32Max

section Settle

variable {t : SlotTable} {oh : Option UInt32} {pre : Except ℤ (Option Block × ℕ)}

theorem settle_success (hp : CodecOk pre) (h : (settle t oh pre).1.1 = 0) :
    t.allocSlot ≠ 0 ∧ (settle t oh pre).1.2 = setOut oh (handleOf t.allocSlot) ∧
      ∃ b, pre = .ok (some b, b.bytes.length) ∧
        (settle t oh pre).2 = t.put t.allocSlot (some b) b.bytes.length.toUInt32 ∧
        b.bytes.length ≤ b.size ∧ b.bytes.length ≤ uint32Max := by
  cases pre with
  | error rc => exact absurd h hp
  | ok p =>
    obtain ⟨buf, len⟩ := p
    obtain ⟨b, rfl, rfl, hs, hm⟩ := hp
    by_cases ha : t.allocSlot = 0
    · simp [settle, ha] at h
    · rw [show settle t oh (.ok (some b, b.bytes.length)) = ((0, setOut oh (handleOf t.allocSlot)),
          t.put t.allocSlot (some b) b.bytes.length.toUInt32) from if_neg ha]
      exact ⟨ha, rfl, b, rfl, rfl, hs, hm⟩

theorem settle_failure (h : (settle t oh pre).1.1 ≠ 0) :
    (settle t oh pre).1.2 = setOut oh 0 ∧ (settle t oh pre).2 = t := by
  match pre with
  | .error _ => exact ⟨rfl, rfl⟩
  | .ok _ =>
    by_cases ha : t.allocSlot = 0
    · simp [settle, ha]
    · simp [settle, ha] at h

theorem settle_failure_codec (h : (settle t oh pre).1.1 ≠ 0)
    (hfree : ∃ j : Fin 4096, j ≠ 0 ∧ t.bufs j = none) : pre = .error (settle t oh pre).1.1 := by
  match pre with
  | .error _ => rfl
  | .ok _ =>
    obtain ⟨j, hj, hn⟩ := hfree
    have ha : t.allocSlot ≠ 0 := fun ha => (t.allocSlot_eq_zero_iff.mp ha) j hj hn
    simp [settle, ha] at h

theorem settle_failure_of_free (h : (settle t oh pre).1.1 ≠ 0)
    (hfree : ∃ j : Fin 4096, j ≠ 0 ∧ t.bufs j = none) (t₀ : SlotTable) :
    settle t₀ oh pre = ((settle t oh pre).1, t₀) := by
  obtain ⟨rc, rfl⟩ : ∃ rc, pre = .error rc := ⟨_, settle_failure_codec h hfree⟩
  rfl

theorem settle_error (rc : ℤ) : settle t oh (.error rc) = ((rc, setOut oh 0), t) := rfl

theorem settle_of_full (hp : CodecOk pre) (ha : t.allocSlot = 0) :
    (settle t oh pre).1.1 ≠ 0 ∧ (settle t oh pre).2 = t := by
  match pre, hp with
  | .error _, hp => exact ⟨hp, rfl⟩
  | .ok _, _ => simp [settle, ha]

theorem settle_kept {b : Block} {n : ℕ} {P : List UInt8 → Prop} (hb : b.bytes.length = n)
    (hn : n ≤ uint32Max) (hP : P b.bytes) :
    (settle t oh (.ok (some b, n))).1 = (-1, setOut oh 0) ∨
    ∃ h D, (settle t oh (.ok (some b, n))).1 = (0, setOut oh h) ∧
      (settle t oh (.ok (some b, n))).2.view h = some D ∧
      ((settle t oh (.ok (some b, n))).2.bufLen h).toNat = D.length ∧ P D := by
  by_cases ha : t.allocSlot = 0
  · exact .inl (by simp [settle, ha])
  · have hlen : n.toUInt32.toNat = b.bytes.length := by rw [toNat_toUInt32 hn, hb]
    refine .inr ⟨handleOf t.allocSlot, b.bytes, by simp [settle, ha], ?_, ?_, hP⟩
    · simp only [settle, ha, if_false]; exact view_put_self ha b hlen
    · simp only [settle, ha, if_false]; rw [bufLen_put_self ha, hlen]

theorem settle_inv (hp : CodecOk pre) (ht : t.Inv) : (settle t oh pre).2.Inv := by
  by_cases h : (settle t oh pre).1.1 = 0
  · obtain ⟨-, -, b, -, hb, hs, hm⟩ := settle_success hp h
    rw [hb]
    exact ht.put _ (fun blk hblk => by cases hblk; exact ⟨toNat_toUInt32 hm, hs⟩) (nomatch ·)
  · rw [(settle_failure h).2]; exact ht

end Settle

/-- The table `t'` is `t` with the fresh handle `h` allocated to `bs`: its block holds `bs` within
its size, and `buf_len` gives their length. -/
structure Fresh (t t' : SlotTable) (h : Handle) (bs : List UInt8) : Prop where
  alloc : Store.Alloc t.view t'.view h bs
  ptr : ∃ b, t'.bufPtr h = some b ∧ b.bytes = bs ∧ bs.length ≤ b.size
  len : (t'.bufLen h).toNat = bs.length

theorem fresh_put {t : SlotTable} (ha : t.allocSlot ≠ 0) {b : Block} {len : UInt32}
    (hlen : len.toNat = b.bytes.length) (hs : b.bytes.length ≤ b.size) :
    Fresh t (t.put t.allocSlot (some b) len) (handleOf t.allocSlot) b.bytes := by
  have hslot := slotOf?_handleOf ha
  refine ⟨⟨handleOf_range ha, ?_, ?_⟩, ⟨b, by simp [bufPtr, hslot], rfl, hs⟩, ?_⟩
  · rw [view_of_slot hslot, (t.allocSlot_first ha).1]; rfl
  · rw [view_put ha (some b) (fun blk hblk => by cases hblk; exact hlen)]; rfl
  · rw [bufLen_put_self ha, hlen]

/-- What an allocating call `x` with out-parameter `oh` does to the map, run on `t`: a fresh
handle holding bytes that satisfy `P`, or a cleared out-parameter and no change; a failure
while a slot is free does not depend on the table. -/
structure AllocRefines (x : Shim (ℤ × Option UInt32)) (oh : Option UInt32) (o : Oracle)
    (t : SlotTable) (P : List UInt8 → Prop) : Prop where
  success : (exec x o t).1.1 = 0 → ∃ h bs, (exec x o t).1.2 = setOut oh h ∧
    Fresh t (exec x o t).2 h bs ∧ P bs
  failure : (exec x o t).1.1 ≠ 0 → (exec x o t).1.2 = setOut oh 0 ∧ (exec x o t).2 = t
  slotOnly : (exec x o t).1.1 ≠ 0 → (∃ j : Fin 4096, j ≠ 0 ∧ t.bufs j = none) →
    ∀ t₀, exec x o t₀ = ((exec x o t).1, t₀)

/-- A failure of `x` on `t` while a slot is free is the failure `pre` reports. -/
def FailsInCodec (x : Shim (ℤ × Option UInt32)) (o : Oracle) (t : SlotTable)
    (pre : Except ℤ (Option Block × ℕ)) : Prop :=
  (exec x o t).1.1 ≠ 0 → (∃ j : Fin 4096, j ≠ 0 ∧ t.bufs j = none) → pre = .error (exec x o t).1.1

theorem failsInCodec_of_settle {x : Shim (ℤ × Option UInt32)} {oh : Option UInt32} {o : Oracle}
    {pre : Except ℤ (Option Block × ℕ)} (hx : ∀ t, exec x o t = settle t oh pre) (t : SlotTable) :
    FailsInCodec x o t pre := by
  rw [FailsInCodec, hx]
  exact settle_failure_codec

theorem allocRefines_of_settle {x : Shim (ℤ × Option UInt32)} {oh : Option UInt32} {o : Oracle}
    {pre : Except ℤ (Option Block × ℕ)} {P : List UInt8 → Prop} (hp : CodecOk pre)
    (hP : ∀ b n, pre = .ok (some b, n) → P b.bytes) (hx : ∀ t, exec x o t = settle t oh pre)
    (t : SlotTable) : AllocRefines x oh o t P := by
  refine ⟨fun h => ?_, fun h => ?_, fun h hfree t₀ => ?_⟩
  · rw [hx] at h ⊢
    obtain ⟨ha, hr, b, hpre, hb, hs, hm⟩ := settle_success hp h
    rw [hb]
    exact ⟨_, _, hr, fresh_put ha (toNat_toUInt32 hm) hs, hP b _ hpre⟩
  · rw [hx] at h ⊢; exact settle_failure h
  · rw [hx] at h ⊢; rw [hx]; exact settle_failure_of_free h hfree t₀

/-- How a call that returns the handle itself ends on the table `t`: 0 and `t`, or the first
free slot, returned, holding a block of `len` bytes that satisfy `P`. -/
def Keeps (t : SlotTable) (P : List UInt8 → Prop) (r : ℤ) (t' : SlotTable) : Prop :=
  r = 0 ∧ t' = t ∨ t.allocSlot ≠ 0 ∧ r = t.allocSlot.val ∧ ∃ (b : Block) (len : UInt32),
    t' = t.put t.allocSlot (some b) len ∧ len.toNat = b.bytes.length ∧
      b.bytes.length ≤ b.size ∧ P b.bytes

/-- What an allocating call `x` that returns the handle itself does to the map: a fresh
handle holding bytes that satisfy `P`, or 0 and no change. -/
structure HandleRefines (x : Shim ℤ) (o : Oracle) (t : SlotTable) (P : List UInt8 → Prop) :
    Prop where
  success : (exec x o t).1 ≠ 0 → ∃ h bs, (exec x o t).1 = h.toNat ∧
    Fresh t (exec x o t).2 h bs ∧ P bs
  failure : (exec x o t).1 = 0 → (exec x o t).2 = t

section Keeps

variable {t t' : SlotTable} {P : List UInt8 → Prop} {r : ℤ}

theorem Keeps.inv (hk : Keeps t P r t') (ht : t.Inv) : t'.Inv := by
  obtain ⟨-, rfl⟩ | ⟨-, -, b, len, rfl, hlen, hs, -⟩ := hk
  · exact ht
  · exact ht.put _ (fun blk hblk => by cases hblk; exact ⟨hlen, hs⟩) (nomatch ·)

theorem Keeps.mono {Q : List UInt8 → Prop} (hk : Keeps t P r t') (hPQ : ∀ bs, P bs → Q bs) :
    Keeps t Q r t' := by
  obtain hk | ⟨ha, hr, b, len, ht', hlen, hs, hp⟩ := hk
  · exact .inl hk
  · exact .inr ⟨ha, hr, b, len, ht', hlen, hs, hPQ _ hp⟩

@[simp] theorem keeps_zero : Keeps t P 0 t := .inl ⟨rfl, rfl⟩

theorem Keeps.of_full (hk : Keeps t P r t') (ha : t.allocSlot = 0) : r = 0 ∧ t' = t :=
  hk.resolve_right fun h => h.1 ha

@[simp] theorem keeps_put {b : Block} {len : UInt32} (ha : t.allocSlot ≠ 0) :
    Keeps t P t.allocSlot.val (t.put t.allocSlot (some b) len) ↔
      len.toNat = b.bytes.length ∧ b.bytes.length ≤ b.size ∧ P b.bytes := by
  refine ⟨?_, fun ⟨hlen, hs, hp⟩ => .inr ⟨ha, rfl, b, len, rfl, hlen, hs, hp⟩⟩
  rintro (⟨h0, -⟩ | ⟨-, -, b', len', he, hlen, hs, hp⟩)
  · exact absurd (Fin.ext (by exact_mod_cast h0)) ha
  · have hb : some b = some b' := by simpa using congrArg (fun u => u.bufs t.allocSlot) he
    have hl : len = len' := by simpa using congrArg (fun u => u.lens t.allocSlot) he
    cases hb; cases hl
    exact ⟨hlen, hs, hp⟩

theorem keeps_inv_of_sat {x : Shim ℤ} {o : Oracle}
    (hx : Sat x (Frame.start o t) fun r f => Keeps t P r f.table) (ht : t.Inv) :
    (exec x o t).2.Inv :=
  Keeps.inv hx ht

theorem handleRefines_of_keeps {x : Shim ℤ} {o : Oracle}
    (hx : Sat x (Frame.start o t) fun r f => Keeps t P r f.table) : HandleRefines x o t P := by
  obtain ⟨h0, ht'⟩ | ⟨ha, hr, b, len, ht', hlen, hs, hp⟩ := hx
  · exact ⟨fun h => absurd h0 h, fun _ => ht'⟩
  · have hne : (t.allocSlot.val : ℤ) ≠ 0 := by exact_mod_cast Fin.val_ne_of_ne ha
    refine ⟨fun _ => ⟨handleOf t.allocSlot, b.bytes, ?_, ?_, hp⟩, fun h => absurd (hr ▸ h) hne⟩
    · rw [exec, hr, toNat_handleOf]
    · rw [exec, ht']; exact fresh_put ha hlen hs

end Keeps

section Frame

variable {t : SlotTable} {h : Handle} {bs : List UInt8}

theorem Fresh.view_of_live {t' : SlotTable} {h' : Handle} {bs' : List UInt8}
    (hf : Fresh t t' h' bs') (hv : t.view h = some bs) : t'.view h = some bs := by
  have hne : h ≠ h' := fun he => by rw [he, hf.alloc.fresh] at hv; cases hv
  rw [hf.alloc.next, Function.update_noteq hne, hv]

theorem AllocRefines.view_of_live {x : Shim (ℤ × Option UInt32)} {oh : Option UInt32}
    {o : Oracle} {P : List UInt8 → Prop} (hr : AllocRefines x oh o t P)
    (hv : t.view h = some bs) : (exec x o t).2.view h = some bs := by
  by_cases h0 : (exec x o t).1.1 = 0
  · obtain ⟨_, _, -, hf, -⟩ := hr.success h0
    exact hf.view_of_live hv
  · rw [(hr.failure h0).2, hv]

theorem HandleRefines.view_of_live {x : Shim ℤ} {o : Oracle} {P : List UInt8 → Prop}
    (hr : HandleRefines x o t P) (hv : t.view h = some bs) : (exec x o t).2.view h = some bs := by
  by_cases h0 : (exec x o t).1 = 0
  · rw [hr.failure h0, hv]
  · obtain ⟨_, _, -, hf, -⟩ := hr.success h0
    exact hf.view_of_live hv

end Frame

end X07Ext
