import X07Ext.Openssl.Refinement

/-! # Version 0.1.3 of the openssl shim

Package version 0.1.3 exports nine of the entry points of 0.1.9: the two digests, `hmac`,
the two random-byte calls, `ed25519_verify` and the table's accessors, over its own
`(g_bufs, g_lens)`. Each has, with every static function it calls, the text of its 0.1.9
namesake, so a 0.1.3 call runs as that call of 0.1.9, and every sequence of 0.1.3 calls keeps
the table's invariant and refines the map from handles to byte strings. -/
namespace X07Ext.Openssl.V013

open SlotTable

inductive Call
  | sha256 (data : Option (List UInt8)) (len : UInt32) (md : Option ℕ)
  | sha512 (data : Option (List UInt8)) (len : UInt32) (md : Option ℕ)
  | hmac (key : Option (List UInt8)) (keyLen : UInt32) (data : Option (List UInt8))
      (dataLen : UInt32) (md : Option ℕ) (mdLen : Option UInt32)
  | randBytesAlloc (len : UInt32) (outHandle : Option UInt32)
  | randBytes (out : Option ℕ) (len : UInt32)
  | ed25519Verify (pk : Option (List UInt8)) (pkLen : UInt32) (msg : Option (List UInt8))
      (msgLen : UInt32) (sig : Option (List UInt8)) (sigLen : UInt32)
  | bufLen (handle : UInt32)
  | bufPtr (handle : UInt32)
  | bufFree (handle : UInt32)

/-- The entry point of 0.1.9 with the same name and text; for `rand_bytes_alloc` that is
`V013.randBytesAlloc`. -/
def Call.toV019 : Call → Openssl.Call
  | .sha256 d l md => .sha256 d l md
  | .sha512 d l md => .sha512 d l md
  | .hmac k kl d dl md ml => .hmac k kl d dl md ml
  | .randBytesAlloc len oh => .randBytesAlloc len oh
  | .randBytes out len => .randBytes out len
  | .ed25519Verify pk pl m ml s sl => .ed25519Verify pk pl m ml s sl
  | .bufLen h => .bufLen h
  | .bufPtr h => .bufPtr h
  | .bufFree h => .bufFree h

def Call.run (c : Call) (o : Oracle) (t : SlotTable) : Ret × SlotTable := c.toV019.run o t

def runAll (calls : List (Call × Oracle)) : SlotTable :=
  calls.foldl (fun t c => (c.1.run c.2 t).2) zero

theorem runAll_eq (calls : List (Call × Oracle)) :
    runAll calls = Openssl.runAll (calls.map fun c => (c.1.toV019, c.2)) := by
  rw [runAll, Openssl.runAll, List.foldl_map]
  rfl

/-- After any sequence of 0.1.3 calls, with any answers from `malloc` and OpenSSL, the table
keeps its invariant, and the next call refines the map it shows as its 0.1.9 namesake does. -/
theorem v013_shim_refines_map (calls : List (Call × Oracle)) (c : Call) (o : Oracle) :
    (runAll calls).Inv ∧ c.toV019.Refines o (runAll calls) := by
  have ht := foldl_run_inv (calls.map fun c => (c.1.toV019, c.2)) inv_zero
  rw [runAll_eq]
  exact ⟨ht, c.toV019.refines o ht⟩

end X07Ext.Openssl.V013
