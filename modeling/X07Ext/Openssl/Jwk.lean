import X07Ext.Alloc
import X07Ext.Json
import X07Ext.Openssl.Components

/-! # The private JWK

`x07_ext_openssl_rsa_rs256_private_jwk_generate_alloc` encodes the eight components of the key
it generated, adds the lengths of the 17 pieces `a0, n, a1, e_s, …, a7, qi, a8`, and copies the
pieces one after another into a buffer of that size. The copies write each byte of the buffer
once, in order, so the buffer holds the pieces joined: a JSON object of nine string members
followed by a newline, each component's value its `Base64urlUInt`. Every object the call
obtains is released before it returns, but for the buffer it keeps. -/
namespace X07Ext.Openssl

open SlotTable Rfc4648 Rfc7518

/-- The components the `RSA_get0_*` getters lend out, in the order of the document. -/
def jwkComps (k : RsaKey) : List (Option ℕ) := [k.n, k.e, k.d, k.p, k.q, k.dp, k.dq, k.qi]

/-- The pieces copied for the components `vs`: `a0`, `Base64urlUInt` of the first, `a1`, …,
`a8`. -/
def jwkPieces (vs : List ℕ) : List (List UInt8) := interleave jwkSeps (vs.map base64urlUInt)

def jwkNames : List (List UInt8) :=
  [cstr "n", cstr "e", cstr "d", cstr "p", cstr "q", cstr "dp", cstr "dq", cstr "qi"]

def jwkMembers (texts : List (List UInt8)) : List (List UInt8 × List UInt8) :=
  (cstr "kty", cstr "RSA") :: jwkNames.zip texts

def JwkDoc (k : RsaKey) (bs : List UInt8) : Prop :=
  ∃ vs, jwkComps k = vs.map some ∧ bs = (jwkPieces vs).flatten

theorem memcpyAll_eq : ∀ (ps : List (List UInt8)) (log : List (ℕ × UInt8)) (w : ℕ),
    memcpyAll log w ps = (log ++ ps.flatten.enumFrom w, w + (ps.map List.length).sum)
  | [], log, w => by simp [memcpyAll]
  | p :: ps, log, w => by
    rw [memcpyAll, memcpyAll_eq ps, List.flatten_cons, List.enumFrom_append]
    simp [Nat.add_assoc]

theorem range_map_readAt_enum (xs : List UInt8) : (List.range xs.length).map (readAt xs.enum) = xs :=
  List.ext_getElem (by simp) fun k _ h => by simp [readAt_enum, List.getElem?_eq_getElem h]

theorem length_sum_interleave : ∀ ss ts : List (List UInt8),
    ((interleave ss ts).map List.length).sum = (ss.map List.length).sum + (ts.map List.length).sum
  | s :: ss, t :: ts => by
    simp only [interleave, List.map_cons, List.sum_cons, length_sum_interleave ss ts]; omega
  | ss, [] => by cases ss <;> simp [interleave]
  | [], t :: ts => by simp [interleave]

theorem length_base64urlUInt {v : ℕ} (hv : v.size ≤ 8192) : (base64urlUInt v).length ≤ 1366 := by
  have := length_uintOctets hv
  simp only [base64urlUInt, encodeNoPad, List.length_map, List.length_range, encodedLength_eq]
  omega

theorem length_jwkPieces {vs : List ℕ} (hl : vs.length = 8) (hb : ∀ v ∈ vs, v.size ≤ 8192) :
    (jwkPieces vs).length = 17 ∧ ((jwkPieces vs).map List.length).sum ≤ 73 + 8 * 1366 := by
  have hsum : ((vs.map base64urlUInt).map List.length).sum ≤ 8 * 1366 := by
    have := List.sum_le_card_nsmul ((vs.map base64urlUInt).map List.length) 1366 (by
      simp only [List.map_map, List.mem_map, Function.comp]
      rintro _ ⟨v, hv, rfl⟩
      exact length_base64urlUInt (hb v hv))
    simpa [hl] using this
  match vs, hl with
  | [_, _, _, _, _, _, _, _], _ =>
    refine ⟨by simp [jwkPieces, interleave, jwkSeps], ?_⟩
    rw [jwkPieces, length_sum_interleave, show (jwkSeps.map List.length).sum = 73 by decide]
    omega

theorem isPlain_alphabet : ∀ v < 64, Json.isPlain (alphabet v) := by decide

theorem isPlain_base64urlUInt (v : ℕ) : ∀ b ∈ base64urlUInt v, Json.isPlain b := by
  simp only [base64urlUInt, encodeNoPad, List.mem_map]
  rintro _ ⟨k, -, rfl⟩
  exact isPlain_alphabet _ (Nat.mod_lt _ (by decide))

theorem flatten_jwkPieces {vs : List ℕ} (hl : vs.length = 8) :
    (jwkPieces vs).flatten = Json.render (jwkMembers (vs.map base64urlUInt)) ++ [0x0A] := by
  match vs, hl with
  | [_, _, _, _, _, _, _, _], _ =>
    simp only [jwkPieces, jwkMembers, jwkNames, List.map_cons, List.map_nil, interleave, List.zip_cons_cons,
      List.zip_nil_right, Json.render, Json.renderMember, Json.quote, jwkSeps, List.flatten_cons,
      List.flatten_nil]
    simp [cstr]
    decide

theorem plain_jwkMembers (vs : List ℕ) : Json.Plain (jwkMembers (vs.map base64urlUInt)) := by
  have hn : ∀ n ∈ [cstr "kty"] ++ jwkNames, ∀ b ∈ n, Json.isPlain b := by decide
  rintro ⟨n, x⟩ hm
  simp only [jwkMembers, List.mem_cons] at hm
  rcases hm with h | h
  · cases h; exact ⟨hn _ (by simp), by decide⟩
  · obtain ⟨hn', hx⟩ := List.of_mem_zip h
    obtain ⟨v, -, rfl⟩ := List.mem_map.mp hx
    exact ⟨hn n (List.mem_append_right _ hn'), isPlain_base64urlUInt v⟩

theorem eq_map_some_of_not_any_isNone : ∀ l : List (Option ℕ), ¬l.any Option.isNone = true →
    ∃ vs : List ℕ, l = vs.map some
  | [], _ => ⟨[], rfl⟩
  | none :: l, h => absurd (by simp) h
  | some v :: l, h => by
    obtain ⟨vs, rfl⟩ := eq_map_some_of_not_any_isNone l (by simpa using h)
    exact ⟨v :: vs, rfl⟩

theorem map_encodedText {vs : List ℕ} {outs : List (Option (ℕ × ℕ × Enc))}
    (hf : List.Forall₂ (fun v r => ∀ x ∈ r, encodedText (some x) = base64urlUInt v) vs outs)
    (hn : ¬outs.any Option.isNone = true) : outs.map encodedText = vs.map base64urlUInt := by
  induction hf with
  | nil => rfl
  | @cons v r vs outs hr _ ih =>
    cases r with
    | none => exact absurd (by simp) hn
    | some x => simp only [List.map_cons, hr x rfl, ih (fun h => hn (by simp [h]))]

theorem settled_of_holds {h : Heap} {l : List ℕ} (hh : h.Holds l) (hk : h.kept = l)
    (hl : l.length ≤ 1) : h.Settled := ⟨hk ▸ hh, hk ▸ hl⟩

/-- A run releases every object but the buffer it keeps, and keeps the document for the
generated key, its copies storing each byte of it once, in order; or it returns 0 with the table
unchanged. -/
theorem rsaRs256PrivateJwkGenerateAllocLog_spec (bits : ℤ) (o : Oracle) (t : SlotTable) :
    Sat (rsaRs256PrivateJwkGenerateAllocLog bits) (Frame.start o t) fun r f =>
      f.heap.Settled ∧ Keeps t (fun bs => JwkDoc (o.key 3) bs ∧ r.2 = bs.enum) r.1 f.table := by
  simp only [rsaRs256PrivateJwkGenerateAllocLog, Lib.rsaNew, Lib.bnNew, Lib.bnSetWord,
    Lib.rsaGenerateKeyEx, Lib.bnFree, Lib.rsaFree, sat_bind, sat_call, sat_ite, sat_pure, sat_obtain,
    sat_acquire, sat_release, Frame.start, zero_add, Nat.reduceAdd]
  refine ⟨fun _ => ⟨by decide, keeps_zero⟩, fun _ => ⟨fun _ => ⟨fun _ => ⟨fun _ =>
    ⟨by decide, keeps_zero⟩, fun _ => ⟨fun _ => ⟨by decide, keeps_zero⟩, fun _ =>
    ⟨fun _ => ⟨by decide, keeps_zero⟩, fun hc => ?_⟩⟩⟩, fun _ => ⟨by decide, keeps_zero⟩⟩,
    fun _ => ⟨by decide, keeps_zero⟩⟩⟩
  obtain ⟨vs, hvs⟩ := eq_map_some_of_not_any_isNone _ hc
  have hb : ∀ v ∈ vs, v.size ≤ 8192 := fun v hv =>
    (o.key 3).bounded (some v) (by rw [hvs]; exact List.mem_map_of_mem some hv) v rfl
  have hl : vs.length = 8 := by simpa using (congrArg List.length hvs).symm
  have h₄ : (((Heap.empty.push .rsa).push .bignum).release 1).Holds [0] := by decide
  have h0 : Heap.empty.objs.length = 0 := rfl
  rw [hvs]
  refine Sat.mono (encodeAll_spec vs hb h₄) ?_
  rintro outs f₅ ⟨ht₅, -, hk₅, hh₅, hf₅⟩
  have hk₅' : f₅.heap.kept = [] := hk₅
  -- a failure after the texts frees them and the key
  have fail : ∀ {P : List UInt8 → Prop} (g : Frame), g.heap.Holds (outBufs outs ++ [0]) →
      g.heap.kept = [] → g.table = t → Sat (freeAll outs) g fun _ f' =>
        (f'.heap.release 0).Settled ∧ Keeps t P 0 f'.table := fun g hg hk ht =>
    Sat.mono (freeAll_spec outs hg) fun _ f' ⟨ht', _, hk', hh'⟩ =>
      ⟨settled_of_holds hh'.release_head (by rw [Heap.release_kept, hk', hk]) (by simp),
        by rw [ht', ht]; exact keeps_zero⟩
  simp only [sat_malloc, sat_obtain, sat_acquire, sat_bind, sat_pure, sat_free, sat_release, h0]
  refine ⟨fun _ => fail f₅ hh₅ hk₅' ht₅, fun hn => ⟨fun _ => ?_, fun _ => fail _ hh₅ hk₅' ht₅⟩⟩
  obtain ⟨-, hsum⟩ := length_jwkPieces hl hb
  have htot : sizeT ((jwkPieces vs).map List.length).sum = (jwkPieces vs).flatten.length := by
    rw [sizeT_of_lt (by omega), List.length_flatten]
  have hlog : (memcpyAll [] 0 (jwkPieces vs)).1 = (jwkPieces vs).flatten.enum := by
    rw [memcpyAll_eq, List.nil_append]; rfl
  have hbytes : (List.range (sizeT ((jwkPieces vs).map List.length).sum)).map
      (readAt (memcpyAll [] 0 (jwkPieces vs)).1) = (jwkPieces vs).flatten := by
    rw [htot, hlog]; exact range_map_readAt_enum _
  have hlen : (sizeT ((jwkPieces vs).map List.length).sum).toUInt32.toNat =
      (jwkPieces vs).flatten.length := by
    rw [htot, toNat_toUInt32 (by rw [← htot, sizeT_of_lt (by omega)]; unfold uint32Max; omega)]
  rw [map_encodedText hf₅ hn, show interleave jwkSeps (vs.map base64urlUInt) = jwkPieces vs from rfl]
  refine Sat.mono (freeAll_spec outs ((hh₅.push _).perm List.perm_middle.symm)) ?_
  rintro _ f' ⟨ht', -, hk', hh'⟩
  have hk : f'.heap.kept = [] := hk'.trans hk₅'
  have hr : (f'.heap.release 0).Holds [f₅.heap.objs.length] :=
    (show f'.heap.Holds ([f₅.heap.objs.length] ++ 0 :: []) from hh').release_mid
  simp only [sat_allocSlot, sat_ite, sat_bind, sat_free, sat_pure, sat_store, ht'.trans ht₅,
    Option.map_some']
  refine ⟨fun _ => ⟨settled_of_holds hr.release_head (by simp [hk]) (by simp), keeps_zero⟩,
    fun ha => ⟨settled_of_holds (hr.keep _) (by simp [hk]) (by simp), (keeps_put ha).mpr
      ⟨by rw [hbytes, hlen], by rw [hbytes, htot], ⟨vs, hvs, hbytes⟩, by rw [hbytes, hlog]⟩⟩⟩

theorem rsaRs256PrivateJwkGenerateAlloc_spec (bits : ℤ) (o : Oracle) (t : SlotTable) :
    Sat (rsaRs256PrivateJwkGenerateAlloc bits) (Frame.start o t) fun r f =>
      f.heap.Settled ∧ Keeps t (JwkDoc (o.key 3)) r f.table :=
  (sat_map _ _ _ _).mpr <| Sat.mono (rsaRs256PrivateJwkGenerateAllocLog_spec bits o t)
    fun _ _ h => ⟨h.1, h.2.mono fun _ hb => hb.1⟩

theorem bounded_of_jwkComps {k : RsaKey} {vs : List ℕ} (hvs : jwkComps k = vs.map some) :
    vs.length = 8 ∧ ∀ v ∈ vs, v.size ≤ 8192 :=
  ⟨by simpa using (congrArg List.length hvs).symm, fun v hv => by
    have hm := List.mem_map_of_mem some hv
    rw [← hvs] at hm
    exact k.bounded (some v) hm v rfl⟩

/-- A call that returns a handle keeps, under it, the text of the private JWK of the generated
key: its 17 pieces fit `g_lens`, the `memcpy` sequence of the run stores each offset of
`out[0 .. total)` once, in order, and nothing past it, and the text reads back as a JSON object
of the nine members, the components' values their `Base64urlUInt`. -/
theorem rsa_rs256_private_jwk_document (bits : ℤ) (o : Oracle) (t : SlotTable) :
    (exec (rsaRs256PrivateJwkGenerateAllocLog bits) o t).1.1 = 0 ∨
    ∃ (h : Handle) (vs : List ℕ) (bs : List UInt8),
      (exec (rsaRs256PrivateJwkGenerateAllocLog bits) o t).1.1 = h.toNat ∧
      jwkComps (o.key 3) = vs.map some ∧
      (exec (rsaRs256PrivateJwkGenerateAllocLog bits) o t).2.view h = some bs ∧
      ((exec (rsaRs256PrivateJwkGenerateAllocLog bits) o t).2.bufLen h).toNat = bs.length ∧
      (jwkPieces vs).length = 17 ∧ bs.length = ((jwkPieces vs).map List.length).sum ∧
      bs.length < 2 ^ 32 ∧
      (exec (rsaRs256PrivateJwkGenerateAllocLog bits) o t).1.2.map Prod.fst =
        List.range bs.length ∧
      (exec (rsaRs256PrivateJwkGenerateAllocLog bits) o t).1.2.map Prod.snd = bs ∧
      bs = Json.render (jwkMembers (vs.map base64urlUInt)) ++ [0x0A] ∧
      Json.parseObject bs = some (jwkMembers (vs.map base64urlUInt)) := by
  have hx : Sat (rsaRs256PrivateJwkGenerateAlloc bits) (Frame.start o t) fun r f =>
      Keeps t (fun bs => JwkDoc (o.key 3) bs ∧
        (exec (rsaRs256PrivateJwkGenerateAllocLog bits) o t).1.2 = bs.enum) r f.table :=
    (rsaRs256PrivateJwkGenerateAllocLog_spec bits o t).2
  have he : exec (rsaRs256PrivateJwkGenerateAlloc bits) o t =
      ((exec (rsaRs256PrivateJwkGenerateAllocLog bits) o t).1.1,
        (exec (rsaRs256PrivateJwkGenerateAllocLog bits) o t).2) := rfl
  by_cases h0 : (exec (rsaRs256PrivateJwkGenerateAllocLog bits) o t).1.1 = 0
  · exact .inl h0
  obtain ⟨h, _, hr, hf, ⟨vs, hvs, rfl⟩, hlog⟩ := (handleRefines_of_keeps hx).success (by rwa [he])
  rw [he] at hr hf
  obtain ⟨hl, hb⟩ := bounded_of_jwkComps hvs
  obtain ⟨h17, hsum⟩ := length_jwkPieces hl hb
  have hdoc := flatten_jwkPieces hl
  refine .inr ⟨h, vs, _, hr, hvs, by rw [hf.alloc.next, Function.update_same], hf.len, h17,
    List.length_flatten _, by rw [List.length_flatten]; omega, ?_, ?_, hdoc, ?_⟩
  · rw [hlog]; exact List.enum_map_fst _
  · rw [hlog]; exact List.enum_map_snd _
  · rw [hdoc]
    exact Json.parseObject_render (plain_jwkMembers vs) (by decide)

end X07Ext.Openssl
