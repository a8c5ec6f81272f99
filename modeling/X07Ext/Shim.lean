import Mathlib.Data.Nat.Size
import X07Ext.Heap
import X07Ext.SlotTable

/-! # One call of a shim entry point

An entry point runs against a `Frame`: the shim's slot table, the objects obtained during
this call, and an oracle that answers each library call the entry point makes, numbered in
call order. Any answer is allowed, so a theorem over all oracles covers every outcome of
every `malloc` and library call. `Sat x f Q` says that running `x` from `f` ends in a result
and frame satisfying `Q`; its `@[simp]` rules turn a call into a formula over the answers. -/
namespace X07Ext

/-- The key `RSA_generate_key_ex` leaves in an `RSA` object: the eight components that
`RSA_get0_key`, `RSA_get0_factors` and `RSA_get0_crt_params` lend out (NULL is `none`),
each of at most 8192 bits, the largest key the shim asks for. -/
structure RsaKey where
  n : Option ℕ
  e : Option ℕ
  d : Option ℕ
  p : Option ℕ
  q : Option ℕ
  dp : Option ℕ
  dq : Option ℕ
  qi : Option ℕ
  bounded : ∀ c ∈ [n, e, d, p, q, dp, dq, qi], ∀ v ∈ c, v.size ≤ 8192

def RsaKey.empty : RsaKey := ⟨none, none, none, none, none, none, none, none, by simp⟩

/-- Answers to the library calls of one entry-point call, by call number: whether an
allocating call returns non-NULL, an `int` result, a length reported through an
out-parameter, the bytes written, the key generated. -/
structure Oracle where
  ok : ℕ → Bool
  rc : ℕ → ℤ
  size : ℕ → ℕ
  byte : ℕ → ℕ → UInt8
  key : ℕ → RsaKey

/-- Every allocation succeeds and every call returns 1, reports 0 and writes zeros. -/
def Oracle.succeed : Oracle := ⟨fun _ => true, fun _ => 1, fun _ => 0, fun _ _ => 0, fun _ => .empty⟩

def Oracle.fill (o : Oracle) (t n : ℕ) : List UInt8 := (List.range n).map (o.byte t)

@[simp] theorem Oracle.length_fill (o : Oracle) (t n : ℕ) : (o.fill t n).length = n := by
  simp [Oracle.fill]

structure Frame where
  oracle : Oracle
  table : SlotTable
  heap : Heap
  tick : ℕ

/-- Models `UINT32_MAX`. -/
def uint32Max : ℕ := 4294967295

/-- Models `if (out_handle) *out_handle = v;` on the caller's cell, NULL being `none`. -/
def setOut (outHandle : Option UInt32) (v : UInt32) : Option UInt32 := outHandle.map fun _ => v

@[simp] theorem setOut_setOut (oh : Option UInt32) (a b : UInt32) :
    setOut (setOut oh a) b = setOut oh b := by cases oh <;> rfl

theorem toNat_toUInt32 {n : ℕ} (h : n ≤ uint32Max) : n.toUInt32.toNat = n :=
  UInt32.toNat_ofNat_of_lt (by simp only [UInt32.size]; unfold uint32Max at h; omega)

def Frame.start (o : Oracle) (t : SlotTable) : Frame := ⟨o, t, .empty, 0⟩

def Shim (α : Type) : Type := Frame → α × Frame

def exec (x : Shim α) (o : Oracle) (t : SlotTable) : α × SlotTable :=
  ((x (Frame.start o t)).1, (x (Frame.start o t)).2.table)

instance : Monad Shim where
  pure a f := (a, f)
  bind x k f := match x f with
    | (a, f') => k a f'

@[simp] theorem Shim.pure_bind (a : α) (k : α → Shim β) : (pure a >>= k) = k a := rfl

/-- The next library call: its answer, read from the oracle at the call's number. -/
def call (answer : Oracle → ℕ → α) : Shim α :=
  fun f => (answer f.oracle f.tick, { f with tick := f.tick + 1 })

def acquire (k : Kind) : Shim ℕ :=
  fun f => (f.heap.objs.length, { f with heap := f.heap.push k })

def release (i : ℕ) : Shim Unit := fun f => ((), { f with heap := f.heap.release i })

def adopt (p : ℕ) (cs : List ℕ) : Shim Unit := fun f => ((), { f with heap := f.heap.adopt p cs })

def share (p c : ℕ) : Shim Unit := fun f => ((), { f with heap := f.heap.share p c })

def allocSlot : Shim (Fin 4096) := fun f => (f.table.allocSlot, f)

/-- Models `g_bufs[i] = buf; g_lens[i] = len;` where `buf` holds `b`: the table now owns `buf`. -/
def store (i : Fin 4096) (buf : Option ℕ) (b : Block) (len : UInt32) : Shim Unit :=
  fun f => ((), { f with
    table := f.table.put i (buf.map fun _ => b) len
    heap := match buf with
      | none => f.heap
      | some p => f.heap.keep p })

def obtain (k : Kind) : Shim (Option ℕ) := do
  if ← call Oracle.ok then return some (← acquire k) else return none

/-- Models `malloc(size)`: NULL is a possible answer for every size, 0 included. -/
def malloc (_size : ℕ) : Shim (Option ℕ) := obtain .heapBuf

def free (p : ℕ) : Shim Unit := release p

def Sat (x : Shim α) (f : Frame) (Q : α → Frame → Prop) : Prop := Q (x f).1 (x f).2

section Rules

variable {α β : Type} (f : Frame)

@[simp] theorem sat_pure (a : α) (Q : α → Frame → Prop) : Sat (pure a) f Q ↔ Q a f := Iff.rfl

@[simp] theorem sat_bind (x : Shim α) (k : α → Shim β) (Q : β → Frame → Prop) :
    Sat (x >>= k) f Q ↔ Sat x f (fun a f' => Sat (k a) f' Q) := Iff.rfl

@[simp] theorem sat_map (g : α → β) (x : Shim α) (Q : β → Frame → Prop) :
    Sat (g <$> x) f Q ↔ Sat x f (fun a f' => Q (g a) f') := Iff.rfl

theorem exec_map (g : α → β) (x : Shim α) (o : Oracle) (t : SlotTable) :
    exec (g <$> x) o t = (g (exec x o t).1, (exec x o t).2) := rfl

@[simp] theorem sat_ite (c : Prop) [Decidable c] (x y : Shim α) (Q : α → Frame → Prop) :
    Sat (if c then x else y) f Q ↔ (c → Sat x f Q) ∧ (¬c → Sat y f Q) := by
  by_cases h : c <;> simp [h]

@[simp] theorem sat_call (answer : Oracle → ℕ → α) (Q : α → Frame → Prop) :
    Sat (call answer) f Q ↔ Q (answer f.oracle f.tick) { f with tick := f.tick + 1 } := Iff.rfl

@[simp] theorem sat_acquire (k : Kind) (Q : ℕ → Frame → Prop) :
    Sat (acquire k) f Q ↔ Q f.heap.objs.length { f with heap := f.heap.push k } := Iff.rfl

@[simp] theorem sat_release (i : ℕ) (Q : Unit → Frame → Prop) :
    Sat (release i) f Q ↔ Q () { f with heap := f.heap.release i } := Iff.rfl

@[simp] theorem sat_adopt (p : ℕ) (cs : List ℕ) (Q : Unit → Frame → Prop) :
    Sat (adopt p cs) f Q ↔ Q () { f with heap := f.heap.adopt p cs } := Iff.rfl

@[simp] theorem sat_share (p c : ℕ) (Q : Unit → Frame → Prop) :
    Sat (share p c) f Q ↔ Q () { f with heap := f.heap.share p c } := Iff.rfl

@[simp] theorem sat_allocSlot (Q : Fin 4096 → Frame → Prop) :
    Sat allocSlot f Q ↔ Q f.table.allocSlot f := Iff.rfl

@[simp] theorem sat_store (i : Fin 4096) (buf : Option ℕ) (b : Block) (len : UInt32)
    (Q : Unit → Frame → Prop) :
    Sat (store i buf b len) f Q ↔ Q () { f with
      table := f.table.put i (buf.map fun _ => b) len
      heap := match buf with
        | none => f.heap
        | some p => f.heap.keep p } := Iff.rfl

@[simp] theorem sat_obtain (k : Kind) (Q : Option ℕ → Frame → Prop) :
    Sat (obtain k) f Q ↔
      (f.oracle.ok f.tick = true →
        Q (some f.heap.objs.length) { f with tick := f.tick + 1, heap := f.heap.push k }) ∧
      (f.oracle.ok f.tick = false → Q none { f with tick := f.tick + 1 }) := by
  simp [obtain]

@[simp] theorem sat_malloc (size : ℕ) (Q : Option ℕ → Frame → Prop) :
    Sat (malloc size) f Q ↔ Sat (obtain .heapBuf) f Q := Iff.rfl

@[simp] theorem sat_free (p : ℕ) (Q : Unit → Frame → Prop) :
    Sat (free p) f Q ↔ Q () { f with heap := f.heap.release p } := Iff.rfl

def heapAfter (x : Shim α) (o : Oracle) (t : SlotTable) : Heap := (x (Frame.start o t)).2.heap

theorem settled_iff_sat (x : Shim α) (o : Oracle) (t : SlotTable) :
    (heapAfter x o t).Settled ↔ Sat x (Frame.start o t) (fun _ f => f.heap.Settled) := Iff.rfl

theorem exec_eq_iff_sat (x : Shim α) (o : Oracle) (t : SlotTable) (p : α × SlotTable) :
    exec x o t = p ↔ Sat x (Frame.start o t) (fun r f => (r, f.table) = p) := Iff.rfl

theorem exec_table_iff_sat (x : Shim α) (o : Oracle) (t : SlotTable) :
    (exec x o t).2 = t ↔ Sat x (Frame.start o t) (fun _ f => f.table = t) := Iff.rfl

theorem sat_and {x : Shim α} {f : Frame} {Q R : α → Frame → Prop} :
    Sat x f (fun a f' => Q a f' ∧ R a f') ↔ Sat x f Q ∧ Sat x f R := Iff.rfl

theorem Sat.mono {x : Shim α} {f : Frame} {Q R : α → Frame → Prop} (h : Sat x f Q)
    (hQR : ∀ a f', Q a f' → R a f') : Sat x f R := hQR _ _ h

end Rules

end X07Ext
