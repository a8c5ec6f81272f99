import Mathlib.Algebra.Order.Ring.Nat
import X07Ext.Store
import X07Ext.Openssl.Encoding

/-! # The openssl shim

`openssl_shim.c` of `x07-ext-openssl-c` 0.1.9: its exported entry points and the slot table
they share. A pointer argument is `none` when NULL; the bytes a pointer refers to are a list.
The hash and HMAC wrappers pass one library call through and hold nothing. -/
namespace X07Ext.Openssl

open SlotTable

/-- Models `x07_ext_openssl_sha256(data, len, md)`: whether `SHA256` returned non-NULL. -/
def sha256 (_data : Option (List UInt8)) (_len : UInt32) (_md : Option ℕ) : Shim Bool :=
  call Oracle.ok

/-- Models `x07_ext_openssl_sha512(data, len, md)`. -/
def sha512 (_data : Option (List UInt8)) (_len : UInt32) (_md : Option ℕ) : Shim Bool :=
  call Oracle.ok

/-- Models `x07_ext_openssl_hmac(...)`: whether `HMAC` returned non-NULL, and `*md_len`. -/
def hmac (_key : Option (List UInt8)) (_keyLen : UInt32) (_data : Option (List UInt8))
    (_dataLen : UInt32) (_md : Option ℕ) (mdLen : Option UInt32) : Shim (Bool × Option UInt32) :=
  call fun o t => (o.ok t, setOut mdLen (o.size t).toUInt32)

/-- Models `x07_ext_openssl_rand_bytes_alloc(len, &out_handle)`: an Ok document `[1] ++ bytes` or an
error document from `x07_ext_make_err_doc`, kept in the table. -/
def randBytesAlloc (len : UInt32) (outHandle : Option UInt32) : Shim (ℤ × Option UInt32) := do
  let outHandle := setOut outHandle 0
  if len > 1024 * 1024 then
    let some (doc, bytes, docLen) ← makeErrDoc 3 | return (-1, outHandle)
    let slot ← allocSlot
    if slot = 0 then
      free doc
      return (-1, outHandle)
    store slot (some doc) ⟨9, bytes⟩ docLen
    return (0, setOut outHandle (handleOf slot))
  let mut need : UInt32 := 1 + len
  let some doc ← malloc need.toNat | return (-1, outHandle)
  let mut doc := doc
  let mut block : Block := ⟨need.toNat, [1]⟩
  if len ≠ 0 then
    let (rc, r) ← Lib.randBytes (Lib.cInt len)
    block := ⟨need.toNat, [1] ++ r⟩
    if rc ≠ 1 then
      free doc
      let some (errDoc, bytes, docLen) ← makeErrDoc 1 | return (-1, outHandle)
      doc := errDoc
      block := ⟨9, bytes⟩
      need := docLen
  let slot ← allocSlot
  if slot = 0 then
    free doc
    return (-1, outHandle)
  store slot (some doc) block need
  return (0, setOut outHandle (handleOf slot))

/-- Models `x07_ext_openssl_rand_bytes(out, len)`. -/
def randBytes (out : Option ℕ) (len : UInt32) : Shim ℤ := do
  if len = 0 then return 1
  if out.isNone then return 0
  if len > 2147483647 then return 0
  let (rc, _) ← Lib.randBytes (Lib.cInt len)
  return if rc = 1 then 1 else 0

/-- Models `static const uint8_t zero = 0; if (!msg && msg_len == 0) msg = &zero;` -/
def msgOrZero (msg : Option (List UInt8)) (msgLen : UInt32) : Option (List UInt8) :=
  if msg.isNone ∧ msgLen = 0 then some [0] else msg

/-- Models `x07_ext_openssl_ed25519_verify`. -/
def ed25519Verify (pk : Option (List UInt8)) (pkLen : UInt32) (msg : Option (List UInt8))
    (msgLen : UInt32) (sig : Option (List UInt8)) (sigLen : UInt32) : Shim ℤ := do
  if pk.isNone ∨ sig.isNone then return 0
  if pkLen ≠ 32 ∨ sigLen ≠ 64 then return 0
  let msg := msgOrZero msg msgLen
  let nid ← Lib.objTxt2nid "ED25519"
  if nid ≤ 0 then return 0
  let some pkey ← Lib.evpPkeyNewRawPublicKey nid (pk.getD []) | return 0
  let some ctx ← Lib.evpMdCtxNew | (do Lib.evpPkeyFree pkey; return 0)
  if (← Lib.evpDigestVerifyInit ctx pkey) ≠ 1 then
    Lib.evpMdCtxFree ctx
    Lib.evpPkeyFree pkey
    return 0
  let ok ← Lib.evpDigestVerify ctx (sig.getD []) msg
  Lib.evpMdCtxFree ctx
  Lib.evpPkeyFree pkey
  return if ok = 1 then 1 else 0

/-- Models `x07_ext_openssl_ed25519_sign(sk, sk_len, msg, msg_len, out_sig, out_sig_len)`: the
result and the bytes written at `out_sig`. -/
def ed25519Sign (sk : Option (List UInt8)) (skLen : UInt32) (msg : Option (List UInt8))
    (msgLen : UInt32) (outSig : Option ℕ) (outSigLen : UInt32) : Shim (ℤ × List UInt8) := do
  if sk.isNone ∨ outSig.isNone then return (0, [])
  if skLen ≠ 32 ∨ outSigLen ≠ 64 then return (0, [])
  let msg := msgOrZero msg msgLen
  let nid ← Lib.objTxt2nid "ED25519"
  if nid ≤ 0 then return (0, [])
  let some pkey ← Lib.evpPkeyNewRawPrivateKey nid (sk.getD []) | return (0, [])
  let some ctx ← Lib.evpMdCtxNew | (do Lib.evpPkeyFree pkey; return (0, []))
  if (← Lib.evpDigestSignInit ctx pkey) ≠ 1 then
    Lib.evpMdCtxFree ctx
    Lib.evpPkeyFree pkey
    return (0, [])
  let (rc, siglen, sig) ← Lib.evpDigestSign ctx outSigLen.toNat msg
  Lib.evpMdCtxFree ctx
  Lib.evpPkeyFree pkey
  if rc ≠ 1 then return (0, sig)
  return (if siglen = 64 then 1 else 0, sig)

/-- Models `x07_ext_openssl_ed25519_sign_alloc`: the handle of a 64-byte signature, or 0. -/
def ed25519SignAlloc (sk : Option (List UInt8)) (skLen : UInt32) (msg : Option (List UInt8))
    (msgLen : UInt32) : Shim ℤ := do
  if sk.isNone then return 0
  if skLen ≠ 32 then return 0
  let some sig ← malloc 64 | return 0
  let (rc, bytes) ← ed25519Sign sk skLen msg msgLen (some sig) 64
  if rc ≠ 1 then
    free sig
    return 0
  let slot ← allocSlot
  if slot = 0 then
    free sig
    return 0
  store slot (some sig) ⟨64, bytes⟩ 64
  return slot.val

/-- Models `x07_ext_openssl_ed25519_pk_from_seed_alloc`: the handle of the 32-byte public key. -/
def ed25519PkFromSeedAlloc (sk : Option (List UInt8)) (skLen : UInt32) : Shim ℤ := do
  if sk.isNone then return 0
  if skLen ≠ 32 then return 0
  let nid ← Lib.objTxt2nid "ED25519"
  if nid ≤ 0 then return 0
  let some skPkey ← Lib.evpPkeyNewRawPrivateKey nid (sk.getD []) | return 0
  let (rc, pkLen, pk) ← Lib.evpPkeyGetRawPublicKey skPkey 32
  if rc ≠ 1 ∨ pkLen ≠ 32 then
    Lib.evpPkeyFree skPkey
    return 0
  Lib.evpPkeyFree skPkey
  let some out ← malloc 32 | return 0
  let slot ← allocSlot
  if slot = 0 then
    free out
    return 0
  store slot (some out) ⟨32, pk⟩ 32
  return slot.val

/-- Models `x07_ext_openssl_ed25519_verify_sk`. -/
def ed25519VerifySk (sk : Option (List UInt8)) (skLen : UInt32) (msg : Option (List UInt8))
    (msgLen : UInt32) (sig : Option (List UInt8)) (sigLen : UInt32) : Shim ℤ := do
  if sk.isNone ∨ sig.isNone then return 0
  if skLen ≠ 32 ∨ sigLen ≠ 64 then return 0
  let msg := msgOrZero msg msgLen
  let nid ← Lib.objTxt2nid "ED25519"
  if nid ≤ 0 then return 0
  let some skPkey ← Lib.evpPkeyNewRawPrivateKey nid (sk.getD []) | return 0
  let (rc, pkLen, pk) ← Lib.evpPkeyGetRawPublicKey skPkey 32
  if rc ≠ 1 ∨ pkLen ≠ 32 then
    Lib.evpPkeyFree skPkey
    return 0
  let pkPkey ← Lib.evpPkeyNewRawPublicKey nid pk
  Lib.evpPkeyFree skPkey
  let some pkPkey := pkPkey | return 0
  let some ctx ← Lib.evpMdCtxNew | (do Lib.evpPkeyFree pkPkey; return 0)
  if (← Lib.evpDigestVerifyInit ctx pkPkey) ≠ 1 then
    Lib.evpMdCtxFree ctx
    Lib.evpPkeyFree pkPkey
    return 0
  let ok ← Lib.evpDigestVerify ctx (sig.getD []) msg
  Lib.evpMdCtxFree ctx
  Lib.evpPkeyFree pkPkey
  return if ok = 1 then 1 else 0

/-- Models `x07_ext_openssl_rsa_pkcs1_sha256_verify`. -/
def rsaPkcs1Sha256Verify (n : Option (List UInt8)) (nLen : UInt32) (e : Option (List UInt8))
    (eLen : UInt32) (msg : Option (List UInt8)) (msgLen : UInt32) (sig : Option (List UInt8))
    (sigLen : UInt32) : Shim ℤ := do
  if n.isNone ∨ e.isNone ∨ sig.isNone then return 0
  if nLen = 0 ∨ eLen = 0 ∨ sigLen = 0 then return 0
  if sigLen ≠ nLen then return 0
  if nLen > 2147483647 ∨ eLen > 2147483647 ∨ msgLen > 2147483647 then return 0
  let msg := msgOrZero msg msgLen
  let some rsa ← Lib.rsaNew | return 0
  let bnN ← Lib.bnBin2bn (n.getD [])
  let bnE ← Lib.bnBin2bn (e.getD [])
  match bnN, bnE with
  | some bnN, some bnE =>
    if (← Lib.rsaSet0Key rsa bnN bnE none) ≠ 1 then
      Lib.bnFree bnN
      Lib.bnFree bnE
      Lib.rsaFree rsa
      return 0
    let some pkey ← Lib.evpPkeyNew | (do Lib.rsaFree rsa; return 0)
    if (← Lib.evpPkeySet1Rsa pkey rsa) ≠ 1 then
      Lib.evpPkeyFree pkey
      Lib.rsaFree rsa
      return 0
    Lib.rsaFree rsa
    let some ctx ← Lib.evpMdCtxNew | (do Lib.evpPkeyFree pkey; return 0)
    if (← Lib.evpDigestVerifyInit ctx pkey) ≠ 1 then
      Lib.evpMdCtxFree ctx
      Lib.evpPkeyFree pkey
      return 0
    let ok ← Lib.evpDigestVerify ctx (sig.getD []) msg
    Lib.evpMdCtxFree ctx
    Lib.evpPkeyFree pkey
    return if ok = 1 then 1 else 0
  | bnN, bnE =>
    if let some b := bnN then Lib.bnFree b
    if let some b := bnE then Lib.bnFree b
    Lib.rsaFree rsa
    return 0

/-- Models `x07_ext_openssl_rsa_pkcs1_sha256_sign_alloc`: the handle of an `n_len`-byte signature,
kept only when `siglen == n_len`. -/
def rsaPkcs1Sha256SignAlloc (n : Option (List UInt8)) (nLen : UInt32) (e : Option (List UInt8))
    (eLen : UInt32) (d : Option (List UInt8)) (dLen : UInt32) (msg : Option (List UInt8))
    (msgLen : UInt32) : Shim ℤ := do
  if n.isNone ∨ e.isNone ∨ d.isNone then return 0
  if nLen = 0 ∨ eLen = 0 ∨ dLen = 0 then return 0
  if nLen > 2147483647 ∨ eLen > 2147483647 ∨ dLen > 2147483647 ∨ msgLen > 2147483647 then
    return 0
  let msg := msgOrZero msg msgLen
  let some rsa ← Lib.rsaNew | return 0
  let bnN ← Lib.bnBin2bn (n.getD [])
  let bnE ← Lib.bnBin2bn (e.getD [])
  let bnD ← Lib.bnBin2bn (d.getD [])
  match bnN, bnE, bnD with
  | some bnN, some bnE, some bnD =>
    if (← Lib.rsaSet0Key rsa bnN bnE (some bnD)) ≠ 1 then
      Lib.bnFree bnN
      Lib.bnFree bnE
      Lib.bnFree bnD
      Lib.rsaFree rsa
      return 0
    let some pkey ← Lib.evpPkeyNew | (do Lib.rsaFree rsa; return 0)
    if (← Lib.evpPkeySet1Rsa pkey rsa) ≠ 1 then
      Lib.evpPkeyFree pkey
      Lib.rsaFree rsa
      return 0
    Lib.rsaFree rsa
    let some ctx ← Lib.evpMdCtxNew | (do Lib.evpPkeyFree pkey; return 0)
    if (← Lib.evpDigestSignInit ctx pkey) ≠ 1 then
      Lib.evpMdCtxFree ctx
      Lib.evpPkeyFree pkey
      return 0
    let some sig ← malloc nLen.toNat | (do Lib.evpMdCtxFree ctx; Lib.evpPkeyFree pkey; return 0)
    let (rc, siglen, bytes) ← Lib.evpDigestSign ctx nLen.toNat msg
    Lib.evpMdCtxFree ctx
    Lib.evpPkeyFree pkey
    if rc ≠ 1 ∨ siglen ≠ nLen.toNat then
      free sig
      return 0
    let slot ← allocSlot
    if slot = 0 then
      free sig
      return 0
    store slot (some sig) ⟨nLen.toNat, bytes⟩ nLen
    return slot.val
  | bnN, bnE, bnD =>
    if let some b := bnN then Lib.bnFree b
    if let some b := bnE then Lib.bnFree b
    if let some b := bnD then Lib.bnFree b
    Lib.rsaFree rsa
    return 0

/-- Models `x07_ext_bn_b64url` on each component in turn: `n`, `e_s`, `d`, `p`, `q`, `dp`, `dq`,
`qi`, every call made whatever the earlier ones returned. -/
def encodeAll : List (Option ℕ) → Shim (List (Option (ℕ × ℕ × Enc)))
  | [] => pure []
  | bn :: bns => do
    let out ← bnB64url bn
    let outs ← encodeAll bns
    return out :: outs

/-- Models `if (x) free(x);` for each encoded component in turn. Where every one is non-NULL this is
the eight plain `free` calls. -/
def freeAll : List (Option (ℕ × ℕ × Enc)) → Shim Unit
  | [] => pure ()
  | out :: outs => do
    if let some (p, _, _) := out then free p
    freeAll outs

/-- Models `a0` .. `a8`. -/
def jwkSeps : List (List UInt8) :=
  [cstr "\x7b\"kty\":\"RSA\",\"n\":\"", cstr "\",\"e\":\"", cstr "\",\"d\":\"",
    cstr "\",\"p\":\"", cstr "\",\"q\":\"", cstr "\",\"dp\":\"", cstr "\",\"dq\":\"",
    cstr "\",\"qi\":\"", cstr "\"\x7d\n"]

/-- The pieces in the order they are copied: `a0, n, a1, e_s, ..., a7, qi, a8`. -/
def interleave : List (List UInt8) → List (List UInt8) → List (List UInt8)
  | s :: ss, t :: ts => s :: t :: interleave ss ts
  | ss, [] => ss
  | [], ts => ts

/-- Models `memcpy(w, piece, len); w += len;` for each piece in turn, on the stores to `out`. -/
def memcpyAll : List (ℕ × UInt8) → ℕ → List (List UInt8) → List (ℕ × UInt8) × ℕ
  | log, w, [] => (log, w)
  | log, w, p :: ps => memcpyAll (log ++ p.enumFrom w) (w + p.length) ps

/-- The `*out_len` bytes of an encoded component, as `memcpy` reads them. -/
def encodedText : Option (ℕ × ℕ × Enc) → List UInt8
  | some (_, _, s) => (List.range s.j).map (readAt s.writes)
  | none => []

/-- Models `x07_ext_openssl_rsa_rs256_private_jwk_generate_alloc(bits)`, returning with the handle
of the private JWK text, or 0, the `(offset, byte)` stores its `memcpy` sequence made to `out`. -/
def rsaRs256PrivateJwkGenerateAllocLog (bits : ℤ) : Shim (ℤ × List (ℕ × UInt8)) := do
  let bits := if bits < 2048 then 2048 else bits
  if bits > 8192 then return (0, [])
  let some rsa ← Lib.rsaNew | return (0, [])
  let some e ← Lib.bnNew | (do Lib.rsaFree rsa; return (0, []))
  if (← Lib.bnSetWord e 65537) ≠ 1 then
    Lib.bnFree e
    Lib.rsaFree rsa
    return (0, [])
  let (rc, key) ← Lib.rsaGenerateKeyEx rsa bits e
  if rc ≠ 1 then
    Lib.bnFree e
    Lib.rsaFree rsa
    return (0, [])
  Lib.bnFree e
  let comps := [key.n, key.e, key.d, key.p, key.q, key.dp, key.dq, key.qi]
  if comps.any Option.isNone then
    Lib.rsaFree rsa
    return (0, [])
  let outs ← encodeAll comps
  if outs.any Option.isNone then
    freeAll outs
    Lib.rsaFree rsa
    return (0, [])
  let pieces := interleave jwkSeps (outs.map encodedText)
  let total := sizeT (pieces.map List.length).sum
  let some out ← malloc total | (do freeAll outs; Lib.rsaFree rsa; return (0, []))
  let (log, _) := memcpyAll [] 0 pieces
  freeAll outs
  Lib.rsaFree rsa
  let slot ← allocSlot
  if slot = 0 then
    free out
    return (0, log)
  store slot (some out) ⟨total, (List.range total).map (readAt log)⟩ total.toUInt32
  return (slot.val, log)

/-- The handle `x07_ext_openssl_rsa_rs256_private_jwk_generate_alloc(bits)` returns. -/
def rsaRs256PrivateJwkGenerateAlloc (bits : ℤ) : Shim ℤ :=
  Prod.fst <$> rsaRs256PrivateJwkGenerateAllocLog bits

/-- Models `x07_ext_openssl_ecdsa_p256_sha256_verify_rawsig`. -/
def ecdsaP256Sha256VerifyRawsig (x : Option (List UInt8)) (xLen : UInt32)
    (y : Option (List UInt8)) (yLen : UInt32) (msg : Option (List UInt8)) (msgLen : UInt32)
    (sig : Option (List UInt8)) (sigLen : UInt32) : Shim ℤ := do
  if x.isNone ∨ y.isNone ∨ sig.isNone then return 0
  if xLen ≠ 32 ∨ yLen ≠ 32 ∨ sigLen ≠ 64 then return 0
  if msgLen > 2147483647 then return 0
  let msg := msgOrZero msg msgLen
  let nid ← Lib.objTxt2nid "prime256v1"
  if nid ≤ 0 then return 0
  let some ec ← Lib.ecKeyNewByCurveName nid | return 0
  let bnX ← Lib.bnBin2bn (x.getD [])
  let bnY ← Lib.bnBin2bn (y.getD [])
  match bnX, bnY with
  | some bnX, some bnY =>
    if (← Lib.ecKeySetPublicKeyAffineCoordinates ec bnX bnY) ≠ 1 then
      Lib.bnFree bnX
      Lib.bnFree bnY
      Lib.ecKeyFree ec
      return 0
    Lib.bnFree bnX
    Lib.bnFree bnY
    if (← Lib.ecKeyCheckKey ec) ≠ 1 then
      Lib.ecKeyFree ec
      return 0
    let some pkey ← Lib.evpPkeyNew | (do Lib.ecKeyFree ec; return 0)
    if (← Lib.evpPkeySet1EcKey pkey ec) ≠ 1 then
      Lib.evpPkeyFree pkey
      Lib.ecKeyFree ec
      return 0
    Lib.ecKeyFree ec
    let some ecdsaSig ← Lib.ecdsaSigNew | (do Lib.evpPkeyFree pkey; return 0)
    let r ← Lib.bnBin2bn ((sig.getD []).take 32)
    let s ← Lib.bnBin2bn ((sig.getD []).drop 32)
    match r, s with
    | some r, some s =>
      if (← Lib.ecdsaSigSet0 ecdsaSig r s) ≠ 1 then
        Lib.bnFree r
        Lib.bnFree s
        Lib.ecdsaSigFree ecdsaSig
        Lib.evpPkeyFree pkey
        return 0
      let derLen ← Lib.i2dEcdsaSig ecdsaSig
      if derLen ≤ 0 then
        Lib.ecdsaSigFree ecdsaSig
        Lib.evpPkeyFree pkey
        return 0
      let some der ← malloc derLen.toNat |
        (do Lib.ecdsaSigFree ecdsaSig; Lib.evpPkeyFree pkey; return 0)
      if (← Lib.i2dEcdsaSig ecdsaSig) ≠ derLen then
        free der
        Lib.ecdsaSigFree ecdsaSig
        Lib.evpPkeyFree pkey
        return 0
      Lib.ecdsaSigFree ecdsaSig
      let some ctx ← Lib.evpMdCtxNew | (do free der; Lib.evpPkeyFree pkey; return 0)
      if (← Lib.evpDigestVerifyInit ctx pkey) ≠ 1 then
        Lib.evpMdCtxFree ctx
        free der
        Lib.evpPkeyFree pkey
        return 0
      let ok ← Lib.evpDigestVerify ctx [] msg
      Lib.evpMdCtxFree ctx
      free der
      Lib.evpPkeyFree pkey
      return if ok = 1 then 1 else 0
    | r, s =>
      if let some b := r then Lib.bnFree b
      if let some b := s then Lib.bnFree b
      Lib.ecdsaSigFree ecdsaSig
      Lib.evpPkeyFree pkey
      return 0
  | bnX, bnY =>
    if let some b := bnX then Lib.bnFree b
    if let some b := bnY then Lib.bnFree b
    Lib.ecKeyFree ec
    return 0

end X07Ext.Openssl
