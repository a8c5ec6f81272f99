import Mathlib.Data.List.Basic

/-! # Objects an entry point holds while it runs

Each call of a shim entry point starts with no objects of its own. What it obtains from
`malloc` or from the library (keys, digest contexts, big numbers, inflate streams) is
recorded here with a reference count and the objects it owns: dropping the last reference
releases an object and drops what it owns, as `RSA_free` and `EVP_PKEY_free` do. Freeing
an object that is no longer live counts as a fault. -/
namespace X07Ext

inductive Kind
  | heapBuf | evpPkey | evpMdCtx | rsa | bignum | ecKey | ecdsaSig | zStream
  deriving DecidableEq, Repr

structure Obj where
  kind : Kind
  refs : ℕ
  owns : List ℕ
  deriving DecidableEq, Repr

/-- Objects are numbered in acquisition order. `kept` lists those whose reference moved
into the slot table. -/
structure Heap where
  objs : List Obj
  faults : ℕ
  kept : List ℕ
  deriving DecidableEq, Repr

namespace Heap

def empty : Heap := ⟨[], 0, []⟩

def push (h : Heap) (k : Kind) : Heap := { h with objs := h.objs ++ [⟨k, 1, []⟩] }

def fault (h : Heap) : Heap := { h with faults := h.faults + 1 }

/-- Drops one reference to object `i`; `fuel` bounds the cascade through owned objects. -/
def drop : ℕ → ℕ → Heap → Heap
  | 0, _, h => h.fault
  | fuel + 1, i, h =>
    match h.objs[i]? with
    | none => h.fault
    | some o =>
      if o.refs = 0 then h.fault
      else
        let h' := { h with objs := h.objs.set i { o with refs := o.refs - 1 } }
        if o.refs = 1 then o.owns.foldl (fun h c => drop fuel c h) h' else h'

/-- Each step of a cascade releases an object, so the object count bounds it. -/
def release (h : Heap) (i : ℕ) : Heap := h.drop (h.objs.length + 1) i

/-- Models `RSA_set0_key`, `ECDSA_SIG_set0` on success: `p` takes over the references `cs`. -/
def adopt (h : Heap) (p : ℕ) (cs : List ℕ) : Heap :=
  { h with objs := h.objs.modify (fun o => { o with owns := o.owns ++ cs }) p }

/-- Models `EVP_PKEY_set1_RSA`, `EVP_PKEY_set1_EC_KEY` on success: `p` takes a new reference
to `c`. -/
def share (h : Heap) (p c : ℕ) : Heap :=
  let objs := h.objs.modify (fun o => { o with refs := o.refs + 1 }) c
  { h with objs := objs.modify (fun o => { o with owns := o.owns ++ [c] }) p }

def keep (h : Heap) (i : ℕ) : Heap := { h with kept := h.kept ++ [i] }

@[simp] theorem push_objs (h : Heap) (k : Kind) : (h.push k).objs = h.objs ++ [⟨k, 1, []⟩] := rfl
@[simp] theorem push_faults (h : Heap) (k : Kind) : (h.push k).faults = h.faults := rfl
@[simp] theorem push_kept (h : Heap) (k : Kind) : (h.push k).kept = h.kept := rfl
@[simp] theorem keep_objs (h : Heap) (i : ℕ) : (h.keep i).objs = h.objs := rfl
@[simp] theorem keep_faults (h : Heap) (i : ℕ) : (h.keep i).faults = h.faults := rfl
@[simp] theorem keep_kept (h : Heap) (i : ℕ) : (h.keep i).kept = h.kept ++ [i] := rfl

@[simp] theorem drop_kept : ∀ (fuel i : ℕ) (h : Heap), (drop fuel i h).kept = h.kept
  | 0, _, _ => rfl
  | fuel + 1, i, h => by
    have hfold : ∀ (l : List ℕ) (h' : Heap), (l.foldl (fun h c => drop fuel c h) h').kept = h'.kept :=
      fun l => by
        induction l with
        | nil => exact fun _ => rfl
        | cons c l ih => exact fun h' => (ih _).trans (drop_kept fuel c h')
    unfold drop
    split
    · rfl
    · split_ifs <;> simp only [hfold, fault]

@[simp] theorem release_kept (h : Heap) (i : ℕ) : (h.release i).kept = h.kept := drop_kept _ _ _

theorem release_plain {h : Heap} {i : ℕ} {k : Kind} (hi : h.objs[i]? = some ⟨k, 1, []⟩) :
    h.release i = { h with objs := h.objs.set i ⟨k, 0, []⟩ } := by
  simp [release, drop, hi]

/-- The live objects of `h` are exactly those listed in `held`, each plain. -/
structure Holds (h : Heap) (held : List ℕ) : Prop where
  nodup : held.Nodup
  noFault : h.faults = 0
  live : ∀ i ∈ held, ∃ k, h.objs[i]? = some ⟨k, 1, []⟩
  dead : ∀ i o, h.objs[i]? = some o → i ∉ held → o.refs = 0

/-- A call has settled its objects when only those it kept in the table are live, and it
kept at most one. -/
structure Settled (h : Heap) : Prop where
  holds : h.Holds h.kept
  single : h.kept.length ≤ 1

theorem holds_iff (h : Heap) (held : List ℕ) : h.Holds held ↔
    held.Nodup ∧ h.faults = 0 ∧ (∀ i ∈ held, i < h.objs.length) ∧
      ∀ p ∈ h.objs.enum, if p.1 ∈ held then p.2.refs = 1 ∧ p.2.owns = [] else p.2.refs = 0 := by
  simp only [List.mem_enum_iff_getElem?]
  constructor
  · rintro ⟨hn, hf, hl, hd⟩
    refine ⟨hn, hf, fun i hi => ?_, fun ⟨i, o⟩ ho => ?_⟩
    · obtain ⟨k, hk⟩ := hl i hi
      exact (List.getElem?_eq_some_iff.mp hk).1
    · split_ifs with hi
      · obtain ⟨k, hk⟩ := hl i hi
        rw [hk] at ho; cases ho; exact ⟨rfl, rfl⟩
      · exact hd i o ho hi
  · rintro ⟨hn, hf, hb, he⟩
    refine ⟨hn, hf, fun i hi => ?_, fun i o ho hi => by simpa [hi] using he (i, o) ho⟩
    have hbi := hb i hi
    have hs : h.objs[i]? = some h.objs[i] := List.getElem?_eq_getElem hbi
    have hp := he (i, _) hs
    simp only [hi, if_true] at hp
    have heta : h.objs[i] = ⟨h.objs[i].kind, 1, []⟩ := by rw [← hp.1, ← hp.2]
    exact ⟨_, hs.trans (congrArg some heta)⟩

instance (h : Heap) (held : List ℕ) : Decidable (h.Holds held) :=
  decidable_of_iff _ (holds_iff h held).symm

instance (h : Heap) : Decidable h.Settled :=
  decidable_of_iff (h.Holds h.kept ∧ h.kept.length ≤ 1) ⟨fun ⟨a, b⟩ => ⟨a, b⟩, fun ⟨a, b⟩ => ⟨a, b⟩⟩

theorem holds_empty : empty.Holds [] :=
  ⟨List.nodup_nil, rfl, by simp, by simp [empty]⟩

theorem Holds.push {h : Heap} {held : List ℕ} (hh : h.Holds held) (k : Kind) :
    (h.push k).Holds (h.objs.length :: held) := by
  have fresh : h.objs.length ∉ held := fun hm => by
    obtain ⟨_, hk⟩ := hh.live _ hm
    simp at hk
  refine ⟨List.nodup_cons.mpr ⟨fresh, hh.nodup⟩, hh.noFault, ?_, ?_⟩
  · intro i hi
    rcases List.mem_cons.mp hi with rfl | hi
    · exact ⟨k, by simp⟩
    · obtain ⟨k', hk⟩ := hh.live i hi
      exact ⟨k', by rw [push_objs, List.getElem?_append_left (List.getElem?_eq_some_iff.mp hk).1, hk]⟩
  · intro i o ho hi
    simp only [List.mem_cons, not_or] at hi
    have hlt : i < h.objs.length := by
      have := (List.getElem?_eq_some_iff.mp ho).1
      simp only [push_objs, List.length_append, List.length_singleton] at this
      omega
    rw [push_objs, List.getElem?_append_left hlt] at ho
    exact hh.dead i o ho hi.2

theorem Holds.release {h : Heap} {held : List ℕ} (hh : h.Holds held) {i : ℕ} (hi : i ∈ held) :
    (h.release i).Holds (held.erase i) := by
  obtain ⟨k, hk⟩ := hh.live i hi
  rw [release_plain hk]
  refine ⟨hh.nodup.erase i, hh.noFault, fun j hj => ?_, fun j o ho hj => ?_⟩
  · have hji := ((hh.nodup.mem_erase_iff).mp hj)
    rw [List.getElem?_set_ne (Ne.symm hji.1)]
    exact hh.live j hji.2
  · by_cases hij : i = j
    · subst hij
      rw [List.getElem?_set_self (List.getElem?_eq_some_iff.mp hk).1] at ho
      cases ho; rfl
    · rw [List.getElem?_set_ne hij] at ho
      exact hh.dead j o ho (fun hm => hj ((hh.nodup.mem_erase_iff).mpr ⟨Ne.symm hij, hm⟩))

theorem Holds.perm {h : Heap} {held held' : List ℕ} (hh : h.Holds held) (hp : held.Perm held') :
    h.Holds held' :=
  ⟨hp.nodup_iff.mp hh.nodup, hh.noFault, fun i hi => hh.live i (hp.mem_iff.mpr hi),
    fun i o ho hi => hh.dead i o ho (fun hm => hi (hp.mem_iff.mp hm))⟩

theorem Holds.release_mid {h : Heap} {new held : List ℕ} {i : ℕ} (hh : h.Holds (new ++ i :: held)) :
    (h.release i).Holds (new ++ held) := by
  have hi : i ∉ new := fun hm =>
    (List.pairwise_append.mp hh.nodup).2.2 i hm i (List.mem_cons_self i held) rfl
  have := hh.release (List.mem_append_right new (List.mem_cons_self i held))
  rwa [List.erase_append_right _ hi, List.erase_cons_head] at this

theorem Holds.release_head {h : Heap} {held : List ℕ} {i : ℕ} (hh : h.Holds (i :: held)) :
    (h.release i).Holds held := by
  simpa using hh.release (List.mem_cons_self i held)

theorem Holds.keep {h : Heap} {held : List ℕ} (hh : h.Holds held) (i : ℕ) :
    (h.keep i).Holds held := ⟨hh.nodup, hh.noFault, hh.live, hh.dead⟩

end Heap

end X07Ext
