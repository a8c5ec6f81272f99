import X07Ext.Openssl.EntryPoints
import X07Ext.Openssl.Rand
import X07Ext.Openssl.Jwk

/-! # The openssl shim refines a map from handles to byte strings

Over any sequence of calls to the shim's entry points, with any answers from `malloc` and
from OpenSSL, the table `(g_bufs, g_lens)` keeps `Inv` and shows a map `Handle → bytes`. The
five allocating entry points either allocate one fresh handle of the map, holding the bytes
the call wrote and with `g_lens` their count, or change nothing; `buf_free` removes a handle
and ignores a handle that is not live; every other entry point leaves the table alone. -/
namespace X07Ext.Openssl

open SlotTable Lib

section Table

variable (o : Oracle) (t : SlotTable)

theorem ed25519SignAlloc_keeps (sk : Option (List UInt8)) (skLen : UInt32)
    (msg : Option (List UInt8)) (msgLen : UInt32) :
    Sat (ed25519SignAlloc sk skLen msg msgLen) (Frame.start o t) fun r f =>
      Keeps t (fun bs => bs.length = 64) r f.table :=
  Sat.mono (ed25519SignAlloc_spec o t sk skLen msg msgLen) fun _ _ h =>
    h.1.mono fun _ ⟨_, _, _, _, hb⟩ => by rw [hb, Oracle.length_fill]

theorem ed25519PkFromSeedAlloc_keeps (sk : Option (List UInt8)) (skLen : UInt32) :
    Sat (ed25519PkFromSeedAlloc sk skLen) (Frame.start o t) fun r f =>
      Keeps t (fun bs => bs.length = 32) r f.table :=
  Sat.mono (ed25519PkFromSeedAlloc_spec o t sk skLen) fun _ _ h =>
    h.1.mono fun _ ⟨_, _, _, _, hb⟩ => by rw [hb, Oracle.length_fill]

theorem rsaPkcs1Sha256SignAlloc_keeps (n : Option (List UInt8)) (nLen : UInt32)
    (e : Option (List UInt8)) (eLen : UInt32) (d : Option (List UInt8)) (dLen : UInt32)
    (msg : Option (List UInt8)) (msgLen : UInt32) :
    Sat (rsaPkcs1Sha256SignAlloc n nLen e eLen d dLen msg msgLen) (Frame.start o t) fun r f =>
      Keeps t (fun bs => bs.length = nLen.toNat) r f.table :=
  Sat.mono (rsaPkcs1Sha256SignAlloc_spec o t n nLen e eLen d dLen msg msgLen) fun _ _ h =>
    h.1.mono fun _ ⟨_, _, _, _, _, _, _, _, _, _, _, _, hb⟩ => by rw [hb, Oracle.length_fill]

end Table

inductive Call
  | sha256 (data : Option (List UInt8)) (len : UInt32) (md : Option ℕ)
  | sha512 (data : Option (List UInt8)) (len : UInt32) (md : Option ℕ)
  | hmac (key : Option (List UInt8)) (keyLen : UInt32) (data : Option (List UInt8))
      (dataLen : UInt32) (md : Option ℕ) (mdLen : Option UInt32)
  | randBytesAlloc (len : UInt32) (outHandle : Option UInt32)
  | randBytes (out : Option ℕ) (len : UInt32)
  | ed25519Verify (pk : Option (List UInt8)) (pkLen : UInt32) (msg : Option (List UInt8))
      (msgLen : UInt32) (sig : Option (List UInt8)) (sigLen : UInt32)
  | ed25519Sign (sk : Option (List UInt8)) (skLen : UInt32) (msg : Option (List UInt8))
      (msgLen : UInt32) (outSig : Option ℕ) (outSigLen : UInt32)
  | ed25519SignAlloc (sk : Option (List UInt8)) (skLen : UInt32) (msg : Option (List UInt8))
      (msgLen : UInt32)
  | ed25519PkFromSeedAlloc (sk : Option (List UInt8)) (skLen : UInt32)
  | ed25519VerifySk (sk : Option (List UInt8)) (skLen : UInt32) (msg : Option (List UInt8))
      (msgLen : UInt32) (sig : Option (List UInt8)) (sigLen : UInt32)
  | rsaPkcs1Sha256Verify (n : Option (List UInt8)) (nLen : UInt32) (e : Option (List UInt8))
      (eLen : UInt32) (msg : Option (List UInt8)) (msgLen : UInt32) (sig : Option (List UInt8))
      (sigLen : UInt32)
  | rsaPkcs1Sha256SignAlloc (n : Option (List UInt8)) (nLen : UInt32) (e : Option (List UInt8))
      (eLen : UInt32) (d : Option (List UInt8)) (dLen : UInt32) (msg : Option (List UInt8))
      (msgLen : UInt32)
  | rsaRs256PrivateJwkGenerateAlloc (bits : ℤ)
  | ecdsaP256Sha256VerifyRawsig (x : Option (List UInt8)) (xLen : UInt32)
      (y : Option (List UInt8)) (yLen : UInt32) (msg : Option (List UInt8)) (msgLen : UInt32)
      (sig : Option (List UInt8)) (sigLen : UInt32)
  | bufLen (handle : UInt32)
  | bufPtr (handle : UInt32)
  | bufFree (handle : UInt32)

/-- What an entry point returns, with what it writes through its out-parameters. -/
inductive Ret
  | digest (ok : Bool)
  | mac (ok : Bool) (mdLen : Option UInt32)
  | code (rc : ℤ) (outHandle : Option UInt32)
  | int (r : ℤ)
  | signed (r : ℤ) (sig : List UInt8)
  | len (n : UInt32)
  | ptr (p : Option Block)
  | done

def Call.shim : Call → Shim Ret
  | .sha256 d l md => Ret.digest <$> Openssl.sha256 d l md
  | .sha512 d l md => Ret.digest <$> Openssl.sha512 d l md
  | .hmac k kl d dl md ml => (fun r => Ret.mac r.1 r.2) <$> Openssl.hmac k kl d dl md ml
  | .randBytesAlloc len oh => (fun r => Ret.code r.1 r.2) <$> Openssl.randBytesAlloc len oh
  | .randBytes out len => Ret.int <$> Openssl.randBytes out len
  | .ed25519Verify pk pl m ml s sl => Ret.int <$> Openssl.ed25519Verify pk pl m ml s sl
  | .ed25519Sign sk kl m ml os ol =>
    (fun r => Ret.signed r.1 r.2) <$> Openssl.ed25519Sign sk kl m ml os ol
  | .ed25519SignAlloc sk kl m ml => Ret.int <$> Openssl.ed25519SignAlloc sk kl m ml
  | .ed25519PkFromSeedAlloc sk kl => Ret.int <$> Openssl.ed25519PkFromSeedAlloc sk kl
  | .ed25519VerifySk sk kl m ml s sl => Ret.int <$> Openssl.ed25519VerifySk sk kl m ml s sl
  | .rsaPkcs1Sha256Verify n nl e el m ml s sl =>
    Ret.int <$> Openssl.rsaPkcs1Sha256Verify n nl e el m ml s sl
  | .rsaPkcs1Sha256SignAlloc n nl e el d dl m ml =>
    Ret.int <$> Openssl.rsaPkcs1Sha256SignAlloc n nl e el d dl m ml
  | .rsaRs256PrivateJwkGenerateAlloc bits => Ret.int <$> Openssl.rsaRs256PrivateJwkGenerateAlloc bits
  | .ecdsaP256Sha256VerifyRawsig x xl y yl m ml s sl =>
    Ret.int <$> Openssl.ecdsaP256Sha256VerifyRawsig x xl y yl m ml s sl
  | .bufLen h => fun f => (.len (f.table.bufLen h), f)
  | .bufPtr h => fun f => (.ptr (f.table.bufPtr h), f)
  | .bufFree h => fun f => (.done, { f with table := f.table.bufFree h })

def Call.run (c : Call) (o : Oracle) (t : SlotTable) : Ret × SlotTable := exec c.shim o t

/-- What a call does to the map the table shows. -/
def Call.Refines (o : Oracle) (t : SlotTable) : Call → Prop
  | .randBytesAlloc len oh =>
    AllocRefines (Openssl.randBytesAlloc len oh) oh o t
      (fun bs => bs.length = 9 ∨ bs.length = 1 + len.toNat) ∧
    ((exec (Openssl.randBytesAlloc len oh) o t).1.1 = 0 ∨
      (exec (Openssl.randBytesAlloc len oh) o t).1.1 = -1)
  | .ed25519SignAlloc sk kl m ml =>
    HandleRefines (Openssl.ed25519SignAlloc sk kl m ml) o t fun bs => bs.length = 64
  | .ed25519PkFromSeedAlloc sk kl =>
    HandleRefines (Openssl.ed25519PkFromSeedAlloc sk kl) o t fun bs => bs.length = 32
  | .rsaPkcs1Sha256SignAlloc n nl e el d dl m ml =>
    HandleRefines (Openssl.rsaPkcs1Sha256SignAlloc n nl e el d dl m ml) o t
      fun bs => bs.length = nl.toNat
  | .rsaRs256PrivateJwkGenerateAlloc bits =>
    HandleRefines (Openssl.rsaRs256PrivateJwkGenerateAlloc bits) o t (JwkDoc (o.key 3))
  | .bufLen h => (t.bufLen h).toNat = ((t.view h).map List.length).getD 0
  | .bufPtr h => (t.bufPtr h).map Block.bytes = t.view h
  | .bufFree h =>
    (t.bufFree h).view = Function.update t.view h none ∧ (t.view h = none → t.bufFree h = t)
  | c => (c.run o t).2 = t

theorem Call.refines (c : Call) (o : Oracle) {t : SlotTable} (ht : t.Inv) : c.Refines o t := by
  cases c with
  | randBytesAlloc len oh => exact ⟨randBytesAlloc_refines len oh o t, randBytesAlloc_code len oh o t⟩
  | ed25519SignAlloc sk kl m ml => exact handleRefines_of_keeps (ed25519SignAlloc_keeps o t sk kl m ml)
  | ed25519PkFromSeedAlloc sk kl => exact handleRefines_of_keeps (ed25519PkFromSeedAlloc_keeps o t sk kl)
  | rsaPkcs1Sha256SignAlloc n nl e el d dl m ml =>
    exact handleRefines_of_keeps (rsaPkcs1Sha256SignAlloc_keeps o t n nl e el d dl m ml)
  | rsaRs256PrivateJwkGenerateAlloc bits =>
    exact handleRefines_of_keeps
      (Sat.mono (rsaRs256PrivateJwkGenerateAlloc_spec bits o t) fun _ _ h => h.2)
  | bufLen h => exact ht.bufLen_eq h
  | bufPtr h => exact ht.bufPtr_eq h
  | bufFree h => exact ⟨view_bufFree t h, ht.bufFree_of_not_live⟩
  | sha256 | sha512 | hmac => rfl
  | randBytes out len => exact (randBytes_spec o t out len).1
  | ed25519Verify pk pl m ml s sl => exact (ed25519Verify_spec o t pk pl m ml s sl).2.1
  | ed25519Sign sk kl m ml os ol => exact (ed25519Sign_spec o t sk kl m ml os ol).2.1
  | ed25519VerifySk sk kl m ml s sl => exact (ed25519VerifySk_spec o t sk kl m ml s sl).2.1
  | rsaPkcs1Sha256Verify n nl e el m ml s sl =>
    exact (rsaPkcs1Sha256Verify_spec o t n nl e el m ml s sl).2.1
  | ecdsaP256Sha256VerifyRawsig x xl y yl m ml s sl =>
    exact (ecdsaP256Sha256VerifyRawsig_spec o t x xl y yl m ml s sl).2.1

theorem Call.run_inv (c : Call) (o : Oracle) {t : SlotTable} (ht : t.Inv) : (c.run o t).2.Inv := by
  have hr := c.refines o ht
  cases c with
  | randBytesAlloc len oh => exact randBytesAlloc_inv len oh o ht
  | ed25519SignAlloc sk kl m ml => exact keeps_inv_of_sat (ed25519SignAlloc_keeps o t sk kl m ml) ht
  | ed25519PkFromSeedAlloc sk kl => exact keeps_inv_of_sat (ed25519PkFromSeedAlloc_keeps o t sk kl) ht
  | rsaPkcs1Sha256SignAlloc n nl e el d dl m ml =>
    exact keeps_inv_of_sat (rsaPkcs1Sha256SignAlloc_keeps o t n nl e el d dl m ml) ht
  | rsaRs256PrivateJwkGenerateAlloc bits =>
    exact keeps_inv_of_sat (Sat.mono (rsaRs256PrivateJwkGenerateAlloc_spec bits o t) fun _ _ h => h.2) ht
  | bufLen h => exact ht
  | bufPtr h => exact ht
  | bufFree h => exact ht.bufFree h
  | sha256 | sha512 | hmac | randBytes | ed25519Verify | ed25519Sign | ed25519VerifySk
    | rsaPkcs1Sha256Verify | ecdsaP256Sha256VerifyRawsig =>
    rw [show (Call.run _ o t).2 = t from hr]; exact ht

def runAll (calls : List (Call × Oracle)) : SlotTable :=
  calls.foldl (fun t c => (c.1.run c.2 t).2) zero

theorem foldl_run_inv (calls : List (Call × Oracle)) {t : SlotTable} (ht : t.Inv) :
    (calls.foldl (fun t c => (c.1.run c.2 t).2) t).Inv := by
  induction calls generalizing t with
  | nil => exact ht
  | cons c calls ih => exact ih (c.1.run_inv c.2 ht)

/-- After any sequence of calls, with any answers from `malloc` and OpenSSL, the table keeps
its invariant, and the next call refines the map it shows. -/
theorem openssl_shim_refines_map (calls : List (Call × Oracle)) (c : Call) (o : Oracle) :
    (runAll calls).Inv ∧ c.Refines o (runAll calls) :=
  ⟨foldl_run_inv calls inv_zero, c.refines o (foldl_run_inv calls inv_zero)⟩

theorem Call.view_of_live (c : Call) (o : Oracle) {t : SlotTable} (ht : t.Inv) {h : Handle}
    {bs : List UInt8} (hv : t.view h = some bs) (hc : c ≠ .bufFree h) :
    (c.run o t).2.view h = some bs := by
  have hr := c.refines o ht
  cases c with
  | randBytesAlloc => exact AllocRefines.view_of_live hr.1 hv
  | ed25519SignAlloc | ed25519PkFromSeedAlloc | rsaPkcs1Sha256SignAlloc
    | rsaRs256PrivateJwkGenerateAlloc =>
    rw [Call.run, Call.shim, exec_map]; exact HandleRefines.view_of_live hr hv
  | bufLen | bufPtr => exact hv
  | bufFree h' =>
    have hne : h ≠ h' := fun he => hc (he ▸ rfl)
    show (t.bufFree h').view h = some bs
    rw [hr.1, Function.update_noteq hne, hv]
  | sha256 | sha512 | hmac | randBytes | ed25519Verify | ed25519Sign | ed25519VerifySk
    | rsaPkcs1Sha256Verify | ecdsaP256Sha256VerifyRawsig =>
    rw [show (Call.run _ o t).2 = t from hr]; exact hv

theorem foldl_view_of_live (calls : List (Call × Oracle)) {t : SlotTable} (ht : t.Inv)
    {h : Handle} {bs : List UInt8} (hv : t.view h = some bs)
    (hf : ∀ c ∈ calls, c.1 ≠ .bufFree h) :
    (calls.foldl (fun t c => (c.1.run c.2 t).2) t).view h = some bs := by
  induction calls generalizing t with
  | nil => exact hv
  | cons c calls ih =>
    exact ih (c.1.run_inv c.2 ht) (c.1.view_of_live c.2 ht hv (hf c (List.mem_cons_self _ _)))
      fun c' hc' => hf c' (List.mem_cons_of_mem _ hc')

/-- A handle live after some calls shows the same bytes after any further calls that do not
free it: no call overwrites or reuses a live slot. -/
theorem openssl_handle_persists_until_freed (calls more : List (Call × Oracle)) {h : Handle}
    {bs : List UInt8} (hv : (runAll calls).view h = some bs)
    (hf : ∀ c ∈ more, c.1 ≠ .bufFree h) : (runAll (calls ++ more)).view h = some bs := by
  rw [runAll, List.foldl_append]
  exact foldl_view_of_live more (foldl_run_inv calls inv_zero) hv hf

theorem openssl_handle_persists_rand_then_free :
    (runAll [(.randBytesAlloc 0 none, Oracle.succeed)]).view 1 = some [1] ∧
    (∀ c ∈ [((.bufFree 2 : Call), Oracle.succeed)], c.1 ≠ .bufFree 1) ∧
    (runAll ([(.randBytesAlloc 0 none, Oracle.succeed)] ++ [(.bufFree 2, Oracle.succeed)])).view 1 =
      some [1] :=
  have hv : (runAll [(.randBytesAlloc 0 none, Oracle.succeed)]).view 1 = some [1] := by decide
  have hf : ∀ c ∈ [((.bufFree 2 : Call), Oracle.succeed)], c.1 ≠ .bufFree 1 := by simp
  ⟨hv, hf, openssl_handle_persists_until_freed _ _ hv hf⟩

end X07Ext.Openssl
