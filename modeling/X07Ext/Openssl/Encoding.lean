import X07Ext.Openssl.Library

/-! # The byte encoders of the openssl shim

`x07_ext_write_u32_le`, `x07_ext_make_err_doc`, `x07_ext_b64url_char`,
`x07_ext_b64url_nopad` and `x07_ext_bn_b64url`. `size_t` arithmetic is taken modulo
`2 ^ 64`. The encoder's group value `v` stays below `2 ^ 24`, so its `uint32_t` arithmetic
is exact and is done on `ℕ`. The encoder's stores to `out` and reads of `data` are recorded
in order. -/
namespace X07Ext.Openssl

/-- Models `x07_ext_write_u32_le(dst, v)`: the bytes stored at `dst[0] .. dst[3]`. -/
def writeU32Le (v : UInt32) : List UInt8 :=
  [(v &&& 0xff).toUInt8, ((v >>> 8) &&& 0xff).toUInt8, ((v >>> 16) &&& 0xff).toUInt8,
    ((v >>> 24) &&& 0xff).toUInt8]

/-- Models `x07_ext_make_err_doc(code, &out_len)`: a 9-byte block holding `buf[0] = 0`,
`LE32(code)` at `buf + 1` and `LE32(0)` at `buf + 5`, with `*out_len = 9`; NULL when
`malloc` fails. -/
def makeErrDoc (code : UInt32) : Shim (Option (ℕ × List UInt8 × UInt32)) := do
  let some buf ← malloc 9 | return none
  return some (buf, [0] ++ writeU32Le code ++ writeU32Le 0, 9)

/-- A `size_t` result. -/
def sizeT (n : ℕ) : ℕ := n % 2 ^ 64

def cstr (s : String) : List UInt8 := s.toList.map fun c => c.toNat.toUInt8

/-- Models `tbl` of `x07_ext_b64url_char`. -/
def b64urlTable : List UInt8 :=
  cstr "ABCDEFGHIJKLMNOPQRSTUVWXYZabcdefghijklmnopqrstuvwxyz0123456789-_"

/-- Models `x07_ext_b64url_char(v)`: `tbl[v & 0x3f]`. -/
def b64urlChar (v : UInt8) : UInt8 := b64urlTable.getD (v &&& 0x3f).toNat 0

/-- The variables of `x07_ext_b64url_nopad`: `i` into `data`, `j` into `out`, the stores to
`out` so far as (index, byte), and the indices read from `data`. -/
structure Enc where
  i : ℕ
  j : ℕ
  writes : List (ℕ × UInt8)
  reads : List ℕ
  deriving DecidableEq, Repr

namespace Enc

/-- Models `out[j++] = c`. -/
def emit (s : Enc) (c : UInt8) : Enc :=
  { s with j := sizeT (s.j + 1), writes := s.writes ++ [(s.j, c)] }

/-- One pass of the body of `while (i + 3u <= len)`. -/
def group (data : List UInt8) (s : Enc) : Enc :=
  let v := (data.getD s.i 0).toNat <<< 16 ||| (data.getD (sizeT (s.i + 1)) 0).toNat <<< 8 |||
    (data.getD (sizeT (s.i + 2)) 0).toNat
  let s := { s with reads := s.reads ++ [s.i, sizeT (s.i + 1), sizeT (s.i + 2)] }
  let s := (((s.emit (b64urlChar ((v >>> 18) &&& 0x3f).toUInt8)).emit
    (b64urlChar ((v >>> 12) &&& 0x3f).toUInt8)).emit
    (b64urlChar ((v >>> 6) &&& 0x3f).toUInt8)).emit (b64urlChar (v &&& 0x3f).toUInt8)
  { s with i := sizeT (s.i + 3) }

/-- Models `while (i + 3u <= len) { ... }`, making at most `fuel` passes. -/
def loop (data : List UInt8) (len : ℕ) : ℕ → Enc → Enc
  | 0, s => s
  | fuel + 1, s => if sizeT (s.i + 3) ≤ len then loop data len fuel (s.group data) else s

/-- The branches on `rem = len - i` after the loop, then `out[j] = '\0'`. -/
def tail (data : List UInt8) (len : ℕ) (s : Enc) : Enc :=
  let rem := sizeT (len + 2 ^ 64 - s.i)
  let s :=
    if rem = 1 then
      let v := (data.getD s.i 0).toNat <<< 16
      let s := { s with reads := s.reads ++ [s.i] }
      (s.emit (b64urlChar ((v >>> 18) &&& 0x3f).toUInt8)).emit
        (b64urlChar ((v >>> 12) &&& 0x3f).toUInt8)
    else if rem = 2 then
      let v := (data.getD s.i 0).toNat <<< 16 ||| (data.getD (sizeT (s.i + 1)) 0).toNat <<< 8
      let s := { s with reads := s.reads ++ [s.i, sizeT (s.i + 1)] }
      ((s.emit (b64urlChar ((v >>> 18) &&& 0x3f).toUInt8)).emit
        (b64urlChar ((v >>> 12) &&& 0x3f).toUInt8)).emit
        (b64urlChar ((v >>> 6) &&& 0x3f).toUInt8)
    else s
  { s with writes := s.writes ++ [(s.j, 0)] }

end Enc

/-- Models `x07_ext_b64url_nopad(data, len, &out_len)`: NULL, or the block `out`, its size
`cap + 1`, and the encoder's final variables, whose `j` is `*out_len`. The loop makes fewer
than `len` passes when `len > 0`, so `len` is enough fuel. -/
def b64urlNopad (data : Option (List UInt8)) (len : ℕ) : Shim (Option (ℕ × ℕ × Enc)) := do
  if data.isNone ∧ len ≠ 0 then return none
  let cap := sizeT (sizeT (len + 2) / 3 * 4)
  let some out ← malloc (sizeT (cap + 1)) | return none
  let bytes := data.getD []
  return some (out, sizeT (cap + 1), Enc.tail bytes len (Enc.loop bytes len len ⟨0, 0, [], []⟩))

/-- Models `x07_ext_bn_b64url(bn, &out_len)` for a `BIGNUM` of value `v` (NULL is `none`): NULL, or
what `x07_ext_b64url_nopad` returns for the octets in `raw`, which is freed. -/
def bnB64url (bn : Option ℕ) : Shim (Option (ℕ × ℕ × Enc)) := do
  let some v := bn | return none
  let bits := Lib.bnNumBits v
  let n : ℤ := if bits ≤ 0 then 1 else Int.tdiv (bits + 7) 8
  if n ≤ 0 then return none
  let some raw ← malloc n.toNat | return none
  if ¬bits ≤ 0 ∧ ((Lib.bnBn2bin v).length : ℤ) ≠ n then
    free raw
    return none
  let out ← b64urlNopad (some (if bits ≤ 0 then [0] else Lib.bnBn2bin v)) n.toNat
  free raw
  return out

/-- The byte at `k` after the stores `w`: the last one to `k`, and 0 where there is none. -/
def readAt (w : List (ℕ × UInt8)) (k : ℕ) : UInt8 :=
  w.foldl (fun b p => if p.1 = k then p.2 else b) 0

end X07Ext.Openssl
