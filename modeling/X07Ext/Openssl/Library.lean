import Mathlib.Data.Nat.Size
import X07Ext.Shim

/-! # The OpenSSL calls the openssl shim makes

Each call's result comes from the oracle; what the call does to ownership follows its
documented contract. `RSA_set0_key` and `ECDSA_SIG_set0` take over their `BIGNUM`s only on
success; `EVP_PKEY_set1_RSA` and `EVP_PKEY_set1_EC_KEY` take a new reference on success;
`EC_KEY_set_public_key_affine_coordinates`, `RSA_generate_key_ex` and the `RSA_get0_*`
getters take nothing. `BN_num_bits` and `BN_bn2bin` are computed exactly. -/
namespace X07Ext.Openssl.Lib

/-- Models `OBJ_txt2nid(name)`. -/
def objTxt2nid (_name : String) : Shim ℤ := call Oracle.rc

def evpPkeyNewRawPrivateKey (_nid : ℤ) (_key : List UInt8) : Shim (Option ℕ) :=
  obtain .evpPkey

def evpPkeyNewRawPublicKey (_nid : ℤ) (_key : List UInt8) : Shim (Option ℕ) :=
  obtain .evpPkey

/-- Models `EVP_PKEY_get_raw_public_key(pkey, pub, &len)` into `cap` bytes: the status, the length
it reports, and the bytes it writes. -/
def evpPkeyGetRawPublicKey (_pkey cap : ℕ) : Shim (ℤ × ℕ × List UInt8) :=
  call fun o t => (o.rc t, o.size t, o.fill t (min (o.size t) cap))

def evpPkeyNew : Shim (Option ℕ) := obtain .evpPkey

def evpPkeyFree (pkey : ℕ) : Shim Unit := release pkey

def evpPkeySet1Rsa (pkey rsa : ℕ) : Shim ℤ := do
  let rc ← call Oracle.rc
  if rc = 1 then share pkey rsa
  return rc

def evpPkeySet1EcKey (pkey ec : ℕ) : Shim ℤ := do
  let rc ← call Oracle.rc
  if rc = 1 then share pkey ec
  return rc

def evpMdCtxNew : Shim (Option ℕ) := obtain .evpMdCtx

def evpMdCtxFree (ctx : ℕ) : Shim Unit := release ctx

def evpDigestVerifyInit (_ctx _pkey : ℕ) : Shim ℤ := call Oracle.rc

def evpDigestVerify (_ctx : ℕ) (_sig : List UInt8) (_msg : Option (List UInt8)) :
    Shim ℤ :=
  call Oracle.rc

def evpDigestSignInit (_ctx _pkey : ℕ) : Shim ℤ := call Oracle.rc

/-- Models `EVP_DigestSign(ctx, sig, &siglen, msg, msg_len)` with `siglen` bytes at `sig`: the
status, the `siglen` it reports, and the bytes it writes. -/
def evpDigestSign (_ctx : ℕ) (siglen : ℕ) (_msg : Option (List UInt8)) :
    Shim (ℤ × ℕ × List UInt8) :=
  call fun o t => (o.rc t, o.size t, o.fill t (min (o.size t) siglen))

def bnBin2bn (_s : List UInt8) : Shim (Option ℕ) := obtain .bignum

def bnNew : Shim (Option ℕ) := obtain .bignum

def bnSetWord (_a : ℕ) (_w : ℕ) : Shim ℤ := call Oracle.rc

def bnFree (a : ℕ) : Shim Unit := release a

def rsaNew : Shim (Option ℕ) := obtain .rsa

def rsaFree (rsa : ℕ) : Shim Unit := release rsa

/-- Models `RSA_set0_key(r, n, e, d)`, `d` possibly NULL. -/
def rsaSet0Key (r n e : ℕ) (d : Option ℕ) : Shim ℤ := do
  let rc ← call Oracle.rc
  if rc = 1 then adopt r ([n, e] ++ d.toList)
  return rc

/-- Models `RSA_generate_key_ex(rsa, bits, e, NULL)`: the status, and the key the `RSA_get0_*`
getters then lend out. -/
def rsaGenerateKeyEx (_rsa : ℕ) (_bits : ℤ) (_e : ℕ) : Shim (ℤ × RsaKey) :=
  call fun o t => (o.rc t, o.key t)

def ecKeyNewByCurveName (_nid : ℤ) : Shim (Option ℕ) := obtain .ecKey

def ecKeyFree (ec : ℕ) : Shim Unit := release ec

def ecKeySetPublicKeyAffineCoordinates (_ec _x _y : ℕ) : Shim ℤ := call Oracle.rc

def ecKeyCheckKey (_ec : ℕ) : Shim ℤ := call Oracle.rc

def ecdsaSigNew : Shim (Option ℕ) := obtain .ecdsaSig

def ecdsaSigFree (sig : ℕ) : Shim Unit := release sig

def ecdsaSigSet0 (sig r s : ℕ) : Shim ℤ := do
  let rc ← call Oracle.rc
  if rc = 1 then adopt sig [r, s]
  return rc

/-- Models `i2d_ECDSA_SIG(sig, pp)`: the DER length, written to `*pp` when `pp` is given. -/
def i2dEcdsaSig (_sig : ℕ) : Shim ℤ := call Oracle.rc

/-- Models `(int)x` for a `uint32_t`: the two's-complement reading of its bits. -/
def cInt (x : UInt32) : ℤ := x.toBitVec.toInt

/-- Models `RAND_bytes(buf, num)`: the status and the `num` bytes written. -/
def randBytes (num : ℤ) : Shim (ℤ × List UInt8) :=
  call fun o t => (o.rc t, o.fill t num.toNat)

/-- Models `BN_num_bits(a)`. -/
def bnNumBits (v : ℕ) : ℤ := v.size

/-- Models `BN_bn2bin(a, to)`: the `(BN_num_bits(a) + 7) / 8` big-endian octets of `a`, their count
being the result. -/
def bnBn2bin (v : ℕ) : List UInt8 :=
  (List.range ((v.size + 7) / 8)).reverse.map fun k => (v / 256 ^ k % 256).toUInt8

end X07Ext.Openssl.Lib
