import X07Ext.SlotTable

/-! # The table as a map from handles to byte strings

`view t` is what a client reads through `buf_ptr` and `buf_len`: for a live handle, the
first `buf_len` bytes of its block. A well-formed table records in `g_lens` how many bytes
were written to each block and keeps length 0 in NULL slots; over such tables the slot
operations act on the view as allocation and removal in a finite map. -/
namespace X07Ext

abbrev Handle := UInt32

def Store := Handle → Option (List UInt8)

/-- The abstract allocation: a handle in `1 .. 4095` that was not live now holds `bs`. -/
structure Store.Alloc (M M' : Store) (h : Handle) (bs : List UInt8) : Prop where
  range : 1 ≤ h.toNat ∧ h.toNat ≤ 4095
  fresh : M h = none
  next : M' = Function.update M h (some bs)

namespace SlotTable

def handleOf (i : Fin 4096) : Handle := i.val.toUInt32

def view (t : SlotTable) : Store := fun h =>
  (t.bufPtr h).map fun b => b.bytes.take (t.bufLen h).toNat

structure Inv (t : SlotTable) : Prop where
  sized : ∀ i b, t.bufs i = some b → (t.lens i).toNat = b.bytes.length ∧ b.bytes.length ≤ b.size
  nullLen : ∀ i, t.bufs i = none → t.lens i = 0

theorem toNat_handleOf (i : Fin 4096) : (handleOf i).toNat = i.val :=
  UInt32.toNat_ofNat_of_lt (by have := i.isLt; simp only [UInt32.size]; omega)

theorem slotOf?_handleOf {i : Fin 4096} (hi : i ≠ 0) : slotOf? (handleOf i) = some i :=
  slotOf?_eq_some.mpr ⟨toNat_handleOf i, hi⟩

theorem handleOf_range {i : Fin 4096} (hi : i ≠ 0) :
    1 ≤ (handleOf i).toNat ∧ (handleOf i).toNat ≤ 4095 := by
  rw [toNat_handleOf]
  exact ⟨Nat.one_le_iff_ne_zero.mpr (Fin.val_ne_of_ne hi), Nat.lt_succ_iff.mp i.isLt⟩

theorem view_of_slot {t : SlotTable} {h : Handle} {i : Fin 4096} (hs : slotOf? h = some i) :
    t.view h = (t.bufs i).map fun b => b.bytes.take (t.lens i).toNat := by
  simp [view, bufPtr, bufLen, hs]

theorem view_of_invalid {t : SlotTable} {h : Handle} (hs : slotOf? h = none) : t.view h = none := by
  simp [view, bufPtr, hs]

theorem Inv.view_eq {t : SlotTable} (ht : t.Inv) {h : Handle} {i : Fin 4096}
    (hs : slotOf? h = some i) : t.view h = (t.bufs i).map Block.bytes := by
  rw [view_of_slot hs]
  cases hb : t.bufs i with
  | none => rfl
  | some b => simp [(ht.sized i b hb).1]

theorem inv_zero : zero.Inv := ⟨fun _ _ h => (nomatch h), fun _ _ => rfl⟩

theorem Inv.put {t : SlotTable} (ht : t.Inv) (i : Fin 4096) {b : Option Block} {len : UInt32}
    (hb : ∀ blk ∈ b, len.toNat = blk.bytes.length ∧ blk.bytes.length ≤ blk.size)
    (hn : b = none → len = 0) : (t.put i b len).Inv := by
  constructor
  · intro j blk hj
    by_cases hji : j = i
    · subst hji; simp only [put_bufs, Function.update_same] at hj; simpa using hb blk hj
    · simp only [put_bufs, put_lens, Function.update_noteq hji] at hj ⊢; exact ht.sized j blk hj
  · intro j hj
    by_cases hji : j = i
    · subst hji; simp only [put_bufs, Function.update_same] at hj; simpa using hn hj
    · simp only [put_bufs, put_lens, Function.update_noteq hji] at hj ⊢; exact ht.nullLen j hj

theorem Inv.bufFree {t : SlotTable} (ht : t.Inv) (h : Handle) : (t.bufFree h).Inv := by
  unfold SlotTable.bufFree
  split
  · exact ht
  · exact ht.put _ (fun _ hb => nomatch hb) (fun _ => rfl)

theorem view_put {t : SlotTable} {i : Fin 4096} (hi : i ≠ 0) (b : Option Block) {len : UInt32}
    (hlen : ∀ blk ∈ b, len.toNat = blk.bytes.length) :
    (t.put i b len).view = Function.update t.view (handleOf i) (b.map Block.bytes) := by
  funext h
  by_cases hh : h = handleOf i
  · subst hh
    rw [view_of_slot (slotOf?_handleOf hi), Function.update_same]
    cases b <;> simp_all
  · rw [Function.update_noteq hh]
    cases hs : slotOf? h with
    | none => rw [view_of_invalid hs, view_of_invalid hs]
    | some j =>
      have hji : j ≠ i := fun hji => hh (by
        subst hji
        exact UInt32.toNat.inj ((slotOf?_eq_some.mp hs).1.trans (toNat_handleOf j).symm))
      rw [view_of_slot hs, view_of_slot hs]
      simp [Function.update_noteq hji]

theorem bufLen_put_self {t : SlotTable} {i : Fin 4096} (hi : i ≠ 0) (b : Option Block)
    (len : UInt32) : (t.put i b len).bufLen (handleOf i) = len := by
  simp [bufLen, slotOf?_handleOf hi]

theorem view_put_self {t : SlotTable} {i : Fin 4096} (hi : i ≠ 0) (b : Block) {len : UInt32}
    (hlen : len.toNat = b.bytes.length) : (t.put i (some b) len).view (handleOf i) = some b.bytes := by
  rw [view_put hi (some b) (fun blk hblk => by cases hblk; exact hlen), Function.update_same]; rfl

theorem view_bufFree (t : SlotTable) (h : Handle) :
    (t.bufFree h).view = Function.update t.view h none := by
  cases hs : slotOf? h with
  | none =>
    simp only [SlotTable.bufFree, hs]
    funext h'
    by_cases hh : h' = h
    · subst hh; simp [view_of_invalid hs]
    · simp [Function.update_noteq hh]
  | some i =>
    have hi := (slotOf?_eq_some.mp hs).2
    have hh : h = handleOf i := UInt32.toNat.inj ((slotOf?_eq_some.mp hs).1.trans (toNat_handleOf i).symm)
    simp only [SlotTable.bufFree, hs]
    rw [view_put hi none (fun _ hb => nomatch hb), hh]
    rfl

theorem Inv.bufLen_eq {t : SlotTable} (ht : t.Inv) (h : Handle) :
    (t.bufLen h).toNat = ((t.view h).map List.length).getD 0 := by
  cases hs : slotOf? h with
  | none => simp [bufLen, view_of_invalid hs, hs]
  | some i =>
    rw [ht.view_eq hs]
    cases hb : t.bufs i with
    | none => simp [bufLen, hs, ht.nullLen i hb]
    | some b => simp [bufLen, hs, (ht.sized i b hb).1]

theorem Inv.bufPtr_eq {t : SlotTable} (ht : t.Inv) (h : Handle) :
    (t.bufPtr h).map Block.bytes = t.view h := by
  cases hs : slotOf? h with
  | none => simp [bufPtr, view_of_invalid hs, hs]
  | some i => simp [bufPtr, ht.view_eq hs, hs]

theorem Inv.bufFree_of_not_live {t : SlotTable} (ht : t.Inv) {h : Handle} (hn : t.view h = none) :
    t.bufFree h = t := by
  cases hs : slotOf? h with
  | none => simp [SlotTable.bufFree, hs]
  | some i =>
    have hb : t.bufs i = none := by simpa [ht.view_eq hs] using hn
    have hbufs : Function.update t.bufs i none = t.bufs := Function.update_eq_self_iff.mpr hb.symm
    have hlens : Function.update t.lens i 0 = t.lens :=
      Function.update_eq_self_iff.mpr (ht.nullLen i hb).symm
    simp only [SlotTable.bufFree, hs]
    exact congrArg₂ SlotTable.mk hbufs hlens

end SlotTable

end X07Ext
