import X07Ext.Alloc
import X07Ext.Openssl.Shim

/-! # What each entry point of the openssl shim does

One lemma per entry point, over every argument and every answer of `malloc` and OpenSSL: what
it returns, what it does to `(g_bufs, g_lens)`, and that it returns holding only the buffer it
kept. The four verifiers answer 0 or 1, and 1 only when their pointer and length checks passed,
the lengths being the ones the algorithm fixes (32-byte Ed25519 keys and P-256 coordinates,
64-byte raw signatures, an RSA signature as long as the modulus, every length cast to `int`
within `INT_MAX`), and the final `EVP_DigestVerify` returned 1. The signers that keep their
output in the table keep it only after the same checks, and what they keep is what the library
wrote, at the full length it reported. Library calls are numbered in call order, as the oracle
answers them. -/
namespace X07Ext.Openssl

open Lib

/-- A verifier's answer on the table `t`: 0, or 1 when `G` holds and the library's call number
`k`, the final `EVP_DigestVerify`, returned 1. -/
def FailsClosed (x : Shim ℤ) (o : Oracle) (t : SlotTable) (G : Prop) (k : ℕ) : Prop :=
  (exec x o t).1 = 0 ∨ (exec x o t).1 = 1 ∧ G ∧ o.rc k = 1

section Spec

variable (o : Oracle) (t : SlotTable)

theorem randBytes_spec (out : Option ℕ) (len : UInt32) :
    Sat (randBytes out len) (Frame.start o t) fun _ f => f.table = t ∧ f.heap.Settled := by
  simp only [randBytes, Lib.randBytes, sat_bind, sat_call, sat_ite, sat_pure, Frame.start]
  simp +decide +contextual [Heap.empty]

theorem ed25519Verify_spec (pk : Option (List UInt8)) (pkLen : UInt32)
    (msg : Option (List UInt8)) (msgLen : UInt32) (sig : Option (List UInt8)) (sigLen : UInt32) :
    Sat (ed25519Verify pk pkLen msg msgLen sig sigLen) (Frame.start o t) fun r f =>
      (r = 0 ∨ r = 1 ∧ (pk ≠ none ∧ sig ≠ none ∧ pkLen = 32 ∧ sigLen = 64) ∧ o.rc 4 = 1) ∧
        f.table = t ∧ f.heap.Settled := by
  simp only [ed25519Verify, objTxt2nid, evpPkeyNewRawPublicKey, evpMdCtxNew, evpPkeyFree,
    evpDigestVerifyInit, evpDigestVerify, evpMdCtxFree, sat_bind, sat_call, sat_ite, sat_pure,
    sat_obtain, sat_acquire, sat_release, Frame.start]
  simp +decide +contextual [em', Heap.empty, Heap.release, Heap.drop, Heap.fault]

theorem ed25519Sign_spec (sk : Option (List UInt8)) (skLen : UInt32)
    (msg : Option (List UInt8)) (msgLen : UInt32) (outSig : Option ℕ) (outSigLen : UInt32) :
    Sat (ed25519Sign sk skLen msg msgLen outSig outSigLen) (Frame.start o t) fun r f =>
      (r.1 = 0 ∨ r.1 = 1 ∧ sk ≠ none ∧ outSig ≠ none ∧ skLen = 32 ∧ outSigLen = 64 ∧
        o.rc 4 = 1 ∧ o.size 4 = 64 ∧ r.2 = o.fill 4 64) ∧ f.table = t ∧ f.heap.Settled := by
  simp only [ed25519Sign, objTxt2nid, evpPkeyNewRawPrivateKey, evpMdCtxNew, evpPkeyFree,
    evpDigestSignInit, evpDigestSign, evpMdCtxFree, sat_bind, sat_call, sat_ite, sat_pure,
    sat_obtain, sat_acquire, sat_release, Frame.start]
  by_cases h64 : o.size 4 = 64 <;>
    simp +decide +contextual [h64, UInt32.size, Heap.empty, Heap.release, Heap.drop, Heap.fault]

theorem ed25519SignAlloc_spec (sk : Option (List UInt8)) (skLen : UInt32)
    (msg : Option (List UInt8)) (msgLen : UInt32) :
    Sat (ed25519SignAlloc sk skLen msg msgLen) (Frame.start o t) fun r f =>
      Keeps t (fun bs => sk ≠ none ∧ skLen = 32 ∧ o.rc 5 = 1 ∧ o.size 5 = 64 ∧ bs = o.fill 5 64)
        r f.table ∧ f.heap.Settled := by
  simp only [ed25519SignAlloc, ed25519Sign, objTxt2nid, evpPkeyNewRawPrivateKey, evpMdCtxNew,
    evpPkeyFree, evpDigestSignInit, evpDigestSign, evpMdCtxFree, sat_bind, sat_call, sat_ite,
    sat_pure, sat_malloc, sat_obtain, sat_free, sat_allocSlot, sat_store, sat_acquire, sat_release,
    Frame.start]
  simp +decide +contextual [UInt32.size, Heap.empty, Heap.release, Heap.drop, Heap.fault,
    Heap.keep]

theorem ed25519PkFromSeedAlloc_spec (sk : Option (List UInt8)) (skLen : UInt32) :
    Sat (ed25519PkFromSeedAlloc sk skLen) (Frame.start o t) fun r f =>
      Keeps t (fun bs => sk ≠ none ∧ skLen = 32 ∧ o.rc 2 = 1 ∧ o.size 2 = 32 ∧ bs = o.fill 2 32)
        r f.table ∧ f.heap.Settled := by
  simp only [ed25519PkFromSeedAlloc, objTxt2nid, evpPkeyNewRawPrivateKey, evpPkeyGetRawPublicKey,
    evpPkeyFree, sat_bind, sat_call, sat_ite, sat_pure, sat_malloc, sat_obtain, sat_free,
    sat_allocSlot, sat_store, sat_acquire, sat_release, Frame.start]
  simp +decide +contextual [Heap.empty, Heap.release, Heap.drop, Heap.fault, Heap.keep]

theorem ed25519VerifySk_spec (sk : Option (List UInt8)) (skLen : UInt32)
    (msg : Option (List UInt8)) (msgLen : UInt32) (sig : Option (List UInt8)) (sigLen : UInt32) :
    Sat (ed25519VerifySk sk skLen msg msgLen sig sigLen) (Frame.start o t) fun r f =>
      (r = 0 ∨ r = 1 ∧ (sk ≠ none ∧ sig ≠ none ∧ skLen = 32 ∧ sigLen = 64) ∧ o.rc 6 = 1) ∧
        f.table = t ∧ f.heap.Settled := by
  simp only [ed25519VerifySk, objTxt2nid, evpPkeyNewRawPrivateKey, evpPkeyGetRawPublicKey,
    evpPkeyNewRawPublicKey, evpMdCtxNew, evpPkeyFree, evpDigestVerifyInit, evpDigestVerify,
    evpMdCtxFree, sat_bind, sat_call, sat_ite, sat_pure, sat_obtain, sat_acquire, sat_release,
    Frame.start]
  simp +decide +contextual [em', Heap.empty, Heap.release, Heap.drop, Heap.fault]

theorem rsaPkcs1Sha256Verify_spec (n : Option (List UInt8)) (nLen : UInt32)
    (e : Option (List UInt8)) (eLen : UInt32) (msg : Option (List UInt8)) (msgLen : UInt32)
    (sig : Option (List UInt8)) (sigLen : UInt32) :
    Sat (rsaPkcs1Sha256Verify n nLen e eLen msg msgLen sig sigLen) (Frame.start o t) fun r f =>
      (r = 0 ∨ r = 1 ∧ (n ≠ none ∧ e ≠ none ∧ sig ≠ none ∧ nLen ≠ 0 ∧ eLen ≠ 0 ∧ sigLen = nLen ∧
        nLen ≤ 2147483647 ∧ eLen ≤ 2147483647 ∧ msgLen ≤ 2147483647) ∧ o.rc 8 = 1) ∧
        f.table = t ∧ f.heap.Settled := by
  simp only [rsaPkcs1Sha256Verify, rsaNew, bnBin2bn, rsaSet0Key, bnFree, rsaFree, evpPkeyNew,
    evpPkeySet1Rsa, evpPkeyFree, evpMdCtxNew, evpMdCtxFree, evpDigestVerifyInit, evpDigestVerify,
    sat_bind, sat_call, sat_ite, sat_pure, sat_obtain, sat_acquire, sat_release, sat_adopt,
    sat_share, Frame.start]
  simp +decide +contextual [em', Heap.empty, Heap.release, Heap.drop, Heap.fault, Heap.adopt,
    Heap.share]

theorem rsaPkcs1Sha256SignAlloc_spec (n : Option (List UInt8)) (nLen : UInt32)
    (e : Option (List UInt8)) (eLen : UInt32) (d : Option (List UInt8)) (dLen : UInt32)
    (msg : Option (List UInt8)) (msgLen : UInt32) :
    Sat (rsaPkcs1Sha256SignAlloc n nLen e eLen d dLen msg msgLen) (Frame.start o t) fun r f =>
      Keeps t (fun bs => n ≠ none ∧ e ≠ none ∧ d ≠ none ∧ nLen ≠ 0 ∧ eLen ≠ 0 ∧ dLen ≠ 0 ∧
        nLen ≤ 2147483647 ∧ eLen ≤ 2147483647 ∧ dLen ≤ 2147483647 ∧ msgLen ≤ 2147483647 ∧
        o.rc 10 = 1 ∧ o.size 10 = nLen.toNat ∧ bs = o.fill 10 nLen.toNat) r f.table ∧
        f.heap.Settled := by
  refine sat_and.mpr ⟨?_, ?_⟩ <;>
  simp only [rsaPkcs1Sha256SignAlloc, rsaNew, bnBin2bn, rsaSet0Key, bnFree, rsaFree, evpPkeyNew,
    evpPkeySet1Rsa, evpPkeyFree, evpMdCtxNew, evpMdCtxFree, evpDigestSignInit, evpDigestSign,
    sat_bind, sat_call, sat_ite, sat_pure, sat_malloc, sat_obtain, sat_free, sat_allocSlot,
    sat_store, sat_acquire, sat_release, sat_adopt, sat_share, Frame.start]
  · simp +contextual
  · simp +decide +contextual [Heap.empty, Heap.release, Heap.drop, Heap.fault, Heap.adopt,
      Heap.share, Heap.keep]

theorem ecdsaP256Sha256VerifyRawsig_spec (x : Option (List UInt8)) (xLen : UInt32)
    (y : Option (List UInt8)) (yLen : UInt32) (msg : Option (List UInt8)) (msgLen : UInt32)
    (sig : Option (List UInt8)) (sigLen : UInt32) :
    Sat (ecdsaP256Sha256VerifyRawsig x xLen y yLen msg msgLen sig sigLen) (Frame.start o t)
      fun r f => (r = 0 ∨ r = 1 ∧ (x ≠ none ∧ y ≠ none ∧ sig ≠ none ∧ xLen = 32 ∧ yLen = 32 ∧
        sigLen = 64 ∧ msgLen ≤ 2147483647 ∧ o.rc 5 = 1) ∧ o.rc 17 = 1) ∧
        f.table = t ∧ f.heap.Settled := by
  simp only [ecdsaP256Sha256VerifyRawsig, objTxt2nid, ecKeyNewByCurveName, bnBin2bn,
    ecKeySetPublicKeyAffineCoordinates, bnFree, ecKeyFree, ecKeyCheckKey, evpPkeyNew,
    evpPkeySet1EcKey, evpPkeyFree, ecdsaSigNew, ecdsaSigSet0, ecdsaSigFree, i2dEcdsaSig,
    evpMdCtxNew, evpMdCtxFree, evpDigestVerifyInit, evpDigestVerify, sat_bind, sat_call, sat_ite,
    sat_pure, sat_malloc, sat_obtain, sat_free, sat_acquire, sat_release, sat_adopt, sat_share,
    Frame.start]
  simp +decide +contextual [em', Heap.empty, Heap.release, Heap.drop, Heap.fault, Heap.adopt,
    Heap.share]

/-- No verifier accepts unless its argument checks passed and OpenSSL verified the signature. -/
theorem verifiers_fail_closed :
    (∀ pk pkLen msg msgLen sig sigLen, FailsClosed (ed25519Verify pk pkLen msg msgLen sig sigLen)
      o t (pk ≠ none ∧ sig ≠ none ∧ pkLen = 32 ∧ sigLen = 64) 4) ∧
    (∀ sk skLen msg msgLen sig sigLen, FailsClosed (ed25519VerifySk sk skLen msg msgLen sig sigLen)
      o t (sk ≠ none ∧ sig ≠ none ∧ skLen = 32 ∧ sigLen = 64) 6) ∧
    (∀ n nLen e eLen msg msgLen sig sigLen,
      FailsClosed (rsaPkcs1Sha256Verify n nLen e eLen msg msgLen sig sigLen) o t
        (n ≠ none ∧ e ≠ none ∧ sig ≠ none ∧ nLen ≠ 0 ∧ eLen ≠ 0 ∧ sigLen = nLen ∧
          nLen ≤ 2147483647 ∧ eLen ≤ 2147483647 ∧ msgLen ≤ 2147483647) 8) ∧
    ∀ x xLen y yLen msg msgLen sig sigLen,
      FailsClosed (ecdsaP256Sha256VerifyRawsig x xLen y yLen msg msgLen sig sigLen) o t
        (x ≠ none ∧ y ≠ none ∧ sig ≠ none ∧ xLen = 32 ∧ yLen = 32 ∧ sigLen = 64 ∧
          msgLen ≤ 2147483647 ∧ o.rc 5 = 1) 17 :=
  ⟨fun _ _ _ _ _ _ => Sat.mono (ed25519Verify_spec o t _ _ _ _ _ _) fun _ _ h => h.1,
    fun _ _ _ _ _ _ => Sat.mono (ed25519VerifySk_spec o t _ _ _ _ _ _) fun _ _ h => h.1,
    fun _ _ _ _ _ _ _ _ => Sat.mono (rsaPkcs1Sha256Verify_spec o t _ _ _ _ _ _ _ _) fun _ _ h => h.1,
    fun _ _ _ _ _ _ _ _ =>
      Sat.mono (ecdsaP256Sha256VerifyRawsig_spec o t _ _ _ _ _ _ _ _) fun _ _ h => h.1⟩

/-- Here `x07_ext_openssl_ed25519_sign` answers 0, or 1 after its checks passed and
`EVP_DigestSign`, call number 4, succeeded and reported 64 bytes, which it wrote to
`out_sig`. -/
theorem ed25519_sign_writes_full_signature (sk : Option (List UInt8)) (skLen : UInt32)
    (msg : Option (List UInt8)) (msgLen : UInt32) (outSig : Option ℕ) (outSigLen : UInt32) :
    (exec (ed25519Sign sk skLen msg msgLen outSig outSigLen) o t).1.1 = 0 ∨
    (exec (ed25519Sign sk skLen msg msgLen outSig outSigLen) o t).1.1 = 1 ∧ sk ≠ none ∧
      outSig ≠ none ∧ skLen = 32 ∧ outSigLen = 64 ∧ o.rc 4 = 1 ∧ o.size 4 = 64 ∧
      (exec (ed25519Sign sk skLen msg msgLen outSig outSigLen) o t).1.2 = o.fill 4 64 :=
  Sat.mono (ed25519Sign_spec o t sk skLen msg msgLen outSig outSigLen) fun _ _ h => h.1

/-- A handle from `ed25519_sign_alloc`, `ed25519_pk_from_seed_alloc` or
`rsa_pkcs1_sha256_sign_alloc` is fresh and holds exactly the bytes that `EVP_DigestSign` (call
5, call 10) or `EVP_PKEY_get_raw_public_key` (call 2) wrote, after that call succeeded and
reported the full length and after the argument checks passed; on 0 the table is unchanged. -/
theorem signing_allocators_keep_library_output :
    (∀ sk skLen msg msgLen, HandleRefines (ed25519SignAlloc sk skLen msg msgLen) o t fun bs =>
      sk ≠ none ∧ skLen = 32 ∧ o.rc 5 = 1 ∧ o.size 5 = 64 ∧ bs = o.fill 5 64) ∧
    (∀ sk skLen, HandleRefines (ed25519PkFromSeedAlloc sk skLen) o t fun bs =>
      sk ≠ none ∧ skLen = 32 ∧ o.rc 2 = 1 ∧ o.size 2 = 32 ∧ bs = o.fill 2 32) ∧
    ∀ n nLen e eLen d dLen msg msgLen,
      HandleRefines (rsaPkcs1Sha256SignAlloc n nLen e eLen d dLen msg msgLen) o t fun bs =>
        n ≠ none ∧ e ≠ none ∧ d ≠ none ∧ nLen ≠ 0 ∧ eLen ≠ 0 ∧ dLen ≠ 0 ∧
        nLen ≤ 2147483647 ∧ eLen ≤ 2147483647 ∧ dLen ≤ 2147483647 ∧ msgLen ≤ 2147483647 ∧
        o.rc 10 = 1 ∧ o.size 10 = nLen.toNat ∧ bs = o.fill 10 nLen.toNat :=
  ⟨fun _ _ _ _ => handleRefines_of_keeps (Sat.mono (ed25519SignAlloc_spec o t _ _ _ _)
      fun _ _ h => h.1),
    fun _ _ => handleRefines_of_keeps (Sat.mono (ed25519PkFromSeedAlloc_spec o t _ _)
      fun _ _ h => h.1),
    fun _ _ _ _ _ _ _ _ => handleRefines_of_keeps
      (Sat.mono (rsaPkcs1Sha256SignAlloc_spec o t _ _ _ _ _ _ _ _) fun _ _ h => h.1)⟩

end Spec

end X07Ext.Openssl
