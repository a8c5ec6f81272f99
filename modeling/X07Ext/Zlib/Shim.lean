import X07Ext.Shim
import X07Ext.Store

/-! # The zlib shim

`zlib_shim.c` of `x07-ext-zlib-c` 0.1.2: four entry points that run a zlib codec into a
fresh `malloc` block and keep it in the slot table, and the table's accessors. zlib is an
outside collaborator: each call's status and output come from the oracle, within the
function's documented bounds (at most `destLen` or `avail_out` bytes written). -/
namespace X07Ext.Zlib

def zOk : ℤ := 0
def zStreamEnd : ℤ := 1
def zStreamError : ℤ := -2
def zBufError : ℤ := -5
def maxWbits : ℤ := 15

/-- Models `compressBound(sourceLen)`. -/
@[simp] def compressBound (_sourceLen : ℕ) : Shim ℕ := call Oracle.size

/-- Models `compress(dest, &destLen, source, sourceLen)`: a status, and the bytes written to
`dest`, at most `destLen` of them. -/
@[simp] def compress (_dest destLen : ℕ) (_source : List UInt8) (_sourceLen : ℕ) :
    Shim (ℤ × List UInt8) :=
  call fun o t => (o.rc t, o.fill t (min (o.size t) destLen))

/-- Models `uncompress(dest, &destLen, source, sourceLen)`, with the same bound as `compress`. -/
@[simp] def uncompress (_dest destLen : ℕ) (_source : List UInt8) (_sourceLen : ℕ) :
    Shim (ℤ × List UInt8) :=
  call fun o t => (o.rc t, o.fill t (min (o.size t) destLen))

/-- Models `inflateInit2(&strm, windowBits)`: on `Z_OK` the stream holds zlib state until
`inflateEnd`. -/
@[simp] def inflateInit2 (_windowBits : ℤ) : Shim (ℤ × Option ℕ) := do
  let rc ← call Oracle.rc
  if rc = zOk then return (rc, some (← acquire .zStream)) else return (rc, none)

/-- Under `Z_FINISH`, zlib reports a stream that does not end in this call as
`Z_BUF_ERROR`, never as `Z_OK`. -/
def finishStatus (rc : ℤ) : ℤ := if rc = zOk then zBufError else rc

/-- Models `inflate(&strm, Z_FINISH)` reading `avail_in` bytes at `next_in` into `avail_out`
bytes at `next_out`: a status and the `total_out` bytes written. zlib answers
`Z_STREAM_ERROR` when `next_out` is `Z_NULL`. -/
@[simp] def inflate (_strm : Option ℕ) (nextOut : Option ℕ) (_nextIn : List UInt8)
    (_availIn availOut : ℕ) : Shim (ℤ × List UInt8) :=
  match nextOut with
  | none => call fun _ _ => (zStreamError, [])
  | some _ => call fun o t => (finishStatus (o.rc t), o.fill t (min (o.size t) availOut))

/-- Models `inflateEnd(&strm)` releases the stream's state. -/
@[simp] def inflateEnd (strm : Option ℕ) : Shim ℤ := do
  if let some s := strm then release s
  call Oracle.rc

/-- Models `x07_ext_zlib_compress_alloc`. -/
def compressAlloc (source : List UInt8) (sourceLen : UInt32) (outHandle : Option UInt32) :
    Shim (ℤ × Option UInt32) := do
  let outHandle := setOut outHandle 0
  let bound ← compressBound sourceLen.toNat
  if bound > uint32Max then return (-2, outHandle)
  let some buf ← malloc bound | return (-1, outHandle)
  let (rc, out) ← compress buf bound source sourceLen.toNat
  if rc ≠ 0 then
    free buf
    return (rc, outHandle)
  if out.length > uint32Max then
    free buf
    return (-2, outHandle)
  let h ← allocSlot
  if h = 0 then
    free buf
    return (-1, outHandle)
  store h (some buf) ⟨bound, out⟩ out.length.toUInt32
  return (0, setOut outHandle (SlotTable.handleOf h))

/-- Models `x07_ext_zlib_uncompress_alloc`. -/
def uncompressAlloc (source : List UInt8) (sourceLen maxSize : UInt32)
    (outHandle : Option UInt32) : Shim (ℤ × Option UInt32) := do
  let outHandle := setOut outHandle 0
  if maxSize.toNat > uint32Max then return (-2, outHandle)
  let some buf ← malloc maxSize.toNat | return (-1, outHandle)
  let (rc, out) ← uncompress buf maxSize.toNat source sourceLen.toNat
  if rc ≠ 0 then
    free buf
    return (rc, outHandle)
  if out.length > uint32Max then
    free buf
    return (-2, outHandle)
  let h ← allocSlot
  if h = 0 then
    free buf
    return (-1, outHandle)
  store h (some buf) ⟨maxSize.toNat, out⟩ out.length.toUInt32
  return (0, setOut outHandle (SlotTable.handleOf h))

/-- Models `x07_ext_zlib_inflate_alloc_window_bits`. A NULL from `malloc(0)` is let through. -/
def inflateAllocWindowBits (source : List UInt8) (sourceLen maxSize : UInt32)
    (windowBits : ℤ) (outHandle : Option UInt32) : Shim (ℤ × Option UInt32) := do
  let outHandle := setOut outHandle 0
  let buf ← malloc maxSize.toNat
  if buf.isNone ∧ maxSize ≠ 0 then return (-1, outHandle)
  let (rc, strm) ← inflateInit2 windowBits
  if rc ≠ zOk then
    if let some b := buf then free b
    return (rc, outHandle)
  let (rc, out) ← inflate strm buf source sourceLen.toNat maxSize.toNat
  if rc ≠ zStreamEnd then
    let _ ← inflateEnd strm
    if let some b := buf then free b
    return (rc, outHandle)
  let rc ← inflateEnd strm
  if rc ≠ zOk then
    if let some b := buf then free b
    return (rc, outHandle)
  if out.length > uint32Max then
    if let some b := buf then free b
    return (-2, outHandle)
  let h ← allocSlot
  if h = 0 then
    if let some b := buf then free b
    return (-1, outHandle)
  store h buf ⟨maxSize.toNat, out⟩ out.length.toUInt32
  return (0, setOut outHandle (SlotTable.handleOf h))

/-- Models `x07_ext_zlib_gzip_decompress_alloc`. -/
def gzipDecompressAlloc (source : List UInt8) (sourceLen maxSize : UInt32)
    (outHandle : Option UInt32) : Shim (ℤ × Option UInt32) :=
  inflateAllocWindowBits source sourceLen maxSize (16 + maxWbits) outHandle

/-- Models `x07_ext_zlib_inflate_raw_alloc`. -/
def inflateRawAlloc (source : List UInt8) (sourceLen maxSize : UInt32)
    (outHandle : Option UInt32) : Shim (ℤ × Option UInt32) :=
  inflateAllocWindowBits source sourceLen maxSize (-maxWbits) outHandle

inductive Call
  | compressAlloc (source : List UInt8) (sourceLen : UInt32) (outHandle : Option UInt32)
  | uncompressAlloc (source : List UInt8) (sourceLen maxSize : UInt32) (outHandle : Option UInt32)
  | gzipDecompressAlloc (source : List UInt8) (sourceLen maxSize : UInt32)
      (outHandle : Option UInt32)
  | inflateRawAlloc (source : List UInt8) (sourceLen maxSize : UInt32) (outHandle : Option UInt32)
  | bufLen (handle : UInt32)
  | bufPtr (handle : UInt32)
  | bufFree (handle : UInt32)

inductive Ret
  | code (rc : ℤ) (outHandle : Option UInt32)
  | len (n : UInt32)
  | ptr (p : Option Block)
  | done

def runAlloc (x : Shim (ℤ × Option UInt32)) (o : Oracle) (t : SlotTable) : Ret × SlotTable :=
  (.code (exec x o t).1.1 (exec x o t).1.2, (exec x o t).2)

def Call.run : Call → Oracle → SlotTable → Ret × SlotTable
  | .compressAlloc s n oh, o, t => runAlloc (Zlib.compressAlloc s n oh) o t
  | .uncompressAlloc s n m oh, o, t => runAlloc (Zlib.uncompressAlloc s n m oh) o t
  | .gzipDecompressAlloc s n m oh, o, t => runAlloc (Zlib.gzipDecompressAlloc s n m oh) o t
  | .inflateRawAlloc s n m oh, o, t => runAlloc (Zlib.inflateRawAlloc s n m oh) o t
  | .bufLen h, _, t => (.len (t.bufLen h), t)
  | .bufPtr h, _, t => (.ptr (t.bufPtr h), t)
  | .bufFree h, _, t => (.done, t.bufFree h)

end X07Ext.Zlib
