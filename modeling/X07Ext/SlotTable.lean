import Mathlib.Logic.Function.Basic
import Mathlib.Order.Fin.Basic
import Mathlib.Data.UInt

/-! # The buffer slot table

Both shims keep their output buffers in two static arrays of `MAX_BUFS = 4096` entries,
`g_bufs` and `g_lens`. A handle is an index into them. `alloc_slot` scans slots
`1 .. 4095` for a NULL pointer, so slot 0 is never handed out and handle 0 means
"no buffer". The abstract view of the table is a finite map from handles to byte strings. -/
namespace X07Ext

/-- What a non-NULL `g_bufs` entry points to: a `malloc` block of `size` bytes whose
first bytes were written with `bytes`. -/
structure Block where
  size : ℕ
  bytes : List UInt8
  deriving DecidableEq, Repr

/-- Models `g_bufs` and `g_lens`; a NULL pointer is `none`. -/
structure SlotTable where
  bufs : Fin 4096 → Option Block
  lens : Fin 4096 → UInt32

namespace SlotTable

/-- Static storage starts zeroed. -/
def zero : SlotTable := ⟨fun _ => none, fun _ => 0⟩

def scan (t : SlotTable) : ℕ → ℕ → Fin 4096
  | 0, _ => 0
  | k + 1, i =>
    if h : i < 4096 then
      if (t.bufs ⟨i, h⟩).isNone then ⟨i, h⟩ else t.scan k (i + 1)
    else 0

/-- Models `x07_ext_zlib_alloc_slot` and `x07_ext_openssl_alloc_buf_slot`:
`for (i = 1; i < MAX_BUFS; i++) if (!g_bufs[i]) return i; return 0;` -/
def allocSlot (t : SlotTable) : Fin 4096 := t.scan 4095 1

/-- Models `g_bufs[i] = buf; g_lens[i] = len;` -/
def put (t : SlotTable) (i : Fin 4096) (b : Option Block) (len : UInt32) : SlotTable :=
  ⟨Function.update t.bufs i b, Function.update t.lens i len⟩

/-- The check that `buf_len`, `buf_ptr` and `buf_free` share: `handle == 0 || handle >=
MAX_BUFS` rejects the handle; otherwise it indexes the arrays. -/
def slotOf? (handle : UInt32) : Option (Fin 4096) :=
  if h : handle.toNat = 0 ∨ 4096 ≤ handle.toNat then none else some ⟨handle.toNat, by omega⟩

/-- Models `x07_ext_zlib_buf_len`, `x07_ext_openssl_buf_len`. -/
def bufLen (t : SlotTable) (handle : UInt32) : UInt32 :=
  match slotOf? handle with
  | none => 0
  | some i => t.lens i

/-- Models `x07_ext_zlib_buf_ptr`, `x07_ext_openssl_buf_ptr`. -/
def bufPtr (t : SlotTable) (handle : UInt32) : Option Block :=
  match slotOf? handle with
  | none => none
  | some i => t.bufs i

/-- Models `x07_ext_zlib_buf_free`, `x07_ext_openssl_buf_free`: the block goes back to `free`
and both entries are cleared. -/
def bufFree (t : SlotTable) (handle : UInt32) : SlotTable :=
  match slotOf? handle with
  | none => t
  | some i => t.put i none 0

@[simp] theorem put_bufs (t : SlotTable) (i : Fin 4096) (b : Option Block) (len : UInt32) :
    (t.put i b len).bufs = Function.update t.bufs i b := rfl
@[simp] theorem put_lens (t : SlotTable) (i : Fin 4096) (b : Option Block) (len : UInt32) :
    (t.put i b len).lens = Function.update t.lens i len := rfl

theorem slotOf?_eq_some {handle : UInt32} {i : Fin 4096} :
    slotOf? handle = some i ↔ handle.toNat = i.val ∧ i ≠ 0 := by
  unfold slotOf?
  split_ifs with h
  · simp only [reduceCtorEq, false_iff, not_and]
    intro hi h0
    exact h0 (Fin.ext (by omega))
  · simp only [Option.some.injEq, Fin.ext_iff, Fin.val_zero, ne_eq]
    omega

theorem slotOf?_eq_none {handle : UInt32} :
    slotOf? handle = none ↔ handle.toNat = 0 ∨ 4096 ≤ handle.toNat := by
  unfold slotOf?
  split_ifs with h <;> simp [h]

theorem scan_spec (t : SlotTable) :
    ∀ k i, i + k = 4096 → 0 < i →
      (t.scan k i = 0 ∧ ∀ j : Fin 4096, i ≤ j.val → t.bufs j ≠ none) ∨
      (i ≤ (t.scan k i).val ∧ t.bufs (t.scan k i) = none ∧
        ∀ j : Fin 4096, i ≤ j.val → j < t.scan k i → t.bufs j ≠ none)
  | 0, i, hk, _ => .inl ⟨rfl, fun j hj => absurd j.isLt (by omega)⟩
  | k + 1, i, hk, hi => by
    have hlt : i < 4096 := by omega
    simp only [scan, hlt, dite_true]
    by_cases hn : (t.bufs ⟨i, hlt⟩).isNone
    · simp only [hn, if_true]
      exact .inr ⟨le_rfl, Option.isNone_iff_eq_none.mp hn,
        fun j hj hji => absurd (Fin.lt_def.mp hji) (Nat.not_lt.mpr hj)⟩
    · rw [if_neg hn]
      have hne : t.bufs ⟨i, hlt⟩ ≠ none := fun h => hn (by simp [h])
      have below : ∀ j : Fin 4096, i ≤ j.val → j.val < i + 1 → t.bufs j ≠ none := by
        intro j hj hj'
        rwa [show j = ⟨i, hlt⟩ from Fin.ext (show j.val = i by omega)]
      rcases scan_spec t k (i + 1) (by omega) (by omega) with ⟨h0, hall⟩ | ⟨hle, hnull, hfirst⟩
      · refine .inl ⟨h0, fun j hj => ?_⟩
        by_cases hji : j.val < i + 1
        · exact below j hj hji
        · exact hall j (by omega)
      · refine .inr ⟨by omega, hnull, fun j hj hjs => ?_⟩
        by_cases hji : j.val < i + 1
        · exact below j hj hji
        · exact hfirst j (by omega) hjs

theorem allocSlot_eq_zero_iff (t : SlotTable) :
    t.allocSlot = 0 ↔ ∀ j : Fin 4096, j ≠ 0 → t.bufs j ≠ none := by
  rcases scan_spec t 4095 1 rfl Nat.one_pos with ⟨h0, hall⟩ | ⟨hle, hnull, -⟩
  · exact ⟨fun _ j hj => hall j (Nat.one_le_iff_ne_zero.mpr (Fin.val_ne_of_ne hj)), fun _ => h0⟩
  · have hne : t.allocSlot ≠ 0 := fun h => by
      rw [← allocSlot, h] at hle; exact absurd hle (by decide)
    exact ⟨fun h => absurd h hne, fun hall => absurd hnull (hall _ hne)⟩

theorem allocSlot_first (t : SlotTable) (h : t.allocSlot ≠ 0) :
    t.bufs t.allocSlot = none ∧ ∀ j : Fin 4096, j ≠ 0 → j < t.allocSlot → t.bufs j ≠ none := by
  rcases scan_spec t 4095 1 rfl Nat.one_pos with ⟨h0, -⟩ | ⟨-, hnull, hfirst⟩
  · exact absurd h0 h
  · exact ⟨hnull, fun j hj => hfirst j (Nat.one_le_iff_ne_zero.mpr (Fin.val_ne_of_ne hj))⟩

/-- Here `alloc_slot` hands out the lowest NULL slot of `1 .. 4095`, and 0 exactly when there
is none. -/
theorem allocSlot_lowest_free (t : SlotTable) :
    (t.allocSlot = 0 ∧ ∀ j : Fin 4096, j ≠ 0 → t.bufs j ≠ none) ∨
    (t.allocSlot ≠ 0 ∧ t.bufs t.allocSlot = none ∧
      ∀ j : Fin 4096, j ≠ 0 → j < t.allocSlot → t.bufs j ≠ none) := by
  by_cases h : t.allocSlot = 0
  · exact .inl ⟨h, t.allocSlot_eq_zero_iff.mp h⟩
  · exact .inr ⟨h, t.allocSlot_first h⟩

end SlotTable

end X07Ext
