import Mathlib.Data.List.Basic

/-! # JSON objects of string members

A parser for the JSON texts of RFC 8259 that are one object whose member values are strings:
every text it accepts is a JSON text, and it returns the members in order, names and values
as bytes. Strings are read without escapes and over printable ASCII, which is all the
documents of the shims hold. `render` writes such an object with no whitespace; reading back
what it writes, followed by any whitespace, gives its members. -/
namespace X07Ext.Json

/-- Whitespace, `ws`: space, horizontal tab, line feed, carriage return. -/
def isWs (b : UInt8) : Bool := b = 0x20 ∨ b = 0x09 ∨ b = 0x0A ∨ b = 0x0D

/-- A byte of `unescaped` within printable ASCII: neither `"` nor `\`. -/
def isPlain (b : UInt8) : Bool := 0x20 ≤ b ∧ b ≤ 0x7E ∧ b ≠ 0x22 ∧ b ≠ 0x5C

def skipWs : List UInt8 → List UInt8
  | [] => []
  | b :: bs => if isWs b then skipWs bs else b :: bs

def token (c : UInt8) (s : List UInt8) : Option (List UInt8) :=
  match skipWs s with
  | b :: r => if b = c then some r else none
  | [] => none

def stringBody : List UInt8 → Option (List UInt8 × List UInt8)
  | [] => none
  | b :: bs =>
    if b = 0x22 then some ([], bs)
    else if isPlain b then (stringBody bs).map fun p => (b :: p.1, p.2)
    else none

def string (s : List UInt8) : Option (List UInt8 × List UInt8) := do
  let r ← token 0x22 s
  stringBody r

def member (s : List UInt8) : Option ((List UInt8 × List UInt8) × List UInt8) := do
  let (name, r) ← string s
  let r ← token 0x3A r
  let (value, r) ← string r
  return ((name, value), r)

/-- The rest of an object, `*( value-separator member ) end-object`, reading at most `fuel`
more members. -/
def members : ℕ → List UInt8 → Option (List (List UInt8 × List UInt8) × List UInt8)
  | 0, _ => none
  | fuel + 1, s =>
    match token 0x7D s with
    | some r => some ([], r)
    | none => do
      let r ← token 0x2C s
      let (m, r) ← member r
      let (ms, r) ← members fuel r
      return (m :: ms, r)

/-- A JSON text that is one object of at least one member, each value a string: its
members in order. -/
def parseObject (s : List UInt8) : Option (List (List UInt8 × List UInt8)) := do
  let r ← token 0x7B s
  let (m, r) ← member r
  let (ms, r) ← members r.length r
  if skipWs r = [] then some (m :: ms) else none

def quote (s : List UInt8) : List UInt8 := 0x22 :: s ++ [0x22]

def renderMember (m : List UInt8 × List UInt8) : List UInt8 := quote m.1 ++ 0x3A :: quote m.2

def render : List (List UInt8 × List UInt8) → List UInt8
  | [] => [0x7B, 0x7D]
  | m :: ms => 0x7B :: renderMember m ++ (ms.map fun m => 0x2C :: renderMember m).flatten ++ [0x7D]

def Plain (ms : List (List UInt8 × List UInt8)) : Prop :=
  ∀ m ∈ ms, (∀ b ∈ m.1, isPlain b) ∧ ∀ b ∈ m.2, isPlain b

theorem skipWs_of_not_ws {b : UInt8} (hb : isWs b = false) (r : List UInt8) :
    skipWs (b :: r) = b :: r := by
  simp [skipWs, hb]

theorem skipWs_eq_nil {s : List UInt8} (hs : ∀ b ∈ s, isWs b) : skipWs s = [] := by
  induction s with
  | nil => rfl
  | cons b s ih =>
    simp only [List.mem_cons, forall_eq_or_imp] at hs
    simp [skipWs, hs.1, ih hs.2]

theorem token_cons {c : UInt8} (hc : isWs c = false) (r : List UInt8) : token c (c :: r) = some r := by
  simp [token, skipWs_of_not_ws hc]

theorem stringBody_plain {s : List UInt8} (hs : ∀ b ∈ s, isPlain b) (r : List UInt8) :
    stringBody (s ++ 0x22 :: r) = some (s, r) := by
  induction s with
  | nil => simp [stringBody]
  | cons b s ih =>
    simp only [List.mem_cons, forall_eq_or_imp] at hs
    have hb : b ≠ 0x22 := by
      have := hs.1
      simp only [isPlain, decide_eq_true_eq] at this
      exact this.2.2.1
    simp [stringBody, hb, hs.1, ih hs.2]

theorem string_quote {s : List UInt8} (hs : ∀ b ∈ s, isPlain b) (r : List UInt8) :
    string (quote s ++ r) = some (s, r) := by
  simp only [string, quote, List.cons_append, List.append_assoc, List.singleton_append,
    token_cons (show isWs 0x22 = false by decide), Option.some_bind]
  exact stringBody_plain hs r

theorem member_renderMember {m : List UInt8 × List UInt8} (hm : (∀ b ∈ m.1, isPlain b) ∧
    ∀ b ∈ m.2, isPlain b) (r : List UInt8) : member (renderMember m ++ r) = some (m, r) := by
  simp [member, renderMember, string_quote hm.1, token_cons (show isWs 0x3A = false by decide),
    string_quote hm.2]

theorem members_render {ms : List (List UInt8 × List UInt8)} (hms : Plain ms) (fuel : ℕ)
    (hf : ms.length < fuel) (r : List UInt8) :
    members fuel ((ms.map fun m => 0x2C :: renderMember m).flatten ++ 0x7D :: r) = some (ms, r) := by
  induction ms generalizing fuel with
  | nil =>
    obtain ⟨fuel, rfl⟩ : ∃ k, fuel = k + 1 := ⟨fuel - 1, by simp at hf; omega⟩
    simp [members, token_cons (show isWs 0x7D = false by decide)]
  | cons m ms ih =>
    obtain ⟨fuel, rfl⟩ : ∃ k, fuel = k + 1 := ⟨fuel - 1, by simp at hf; omega⟩
    have hm := hms m (List.mem_cons_self m ms)
    have hrest : Plain ms := fun m' h => hms m' (List.mem_cons_of_mem m h)
    have hno : ∀ s, token 0x7D (0x2C :: s) = none := fun s => by
      simp [token, skipWs_of_not_ws (show isWs 0x2C = false by decide)]
    simp [members, hno, token_cons (show isWs 0x2C = false by decide), member_renderMember hm,
      ih hrest fuel (by simpa using hf)]

theorem length_join_map_sep (ms : List (List UInt8 × List UInt8)) :
    ms.length ≤ (ms.map fun m => 0x2C :: renderMember m).flatten.length := by
  induction ms with
  | nil => simp
  | cons m ms ih => simp only [List.map_cons, List.flatten_cons, List.length_append,
      List.length_cons]; omega

theorem parseObject_render {m : List UInt8 × List UInt8} {ms : List (List UInt8 × List UInt8)}
    (hms : Plain (m :: ms)) {tail : List UInt8} (ht : ∀ b ∈ tail, isWs b) :
    parseObject (render (m :: ms) ++ tail) = some (m :: ms) := by
  have hm := hms m (List.mem_cons_self m ms)
  have hrest : Plain ms := fun m' h => hms m' (List.mem_cons_of_mem m h)
  have hfuel := length_join_map_sep ms
  simp only [parseObject, render, List.cons_append, List.append_assoc, List.singleton_append,
    token_cons (show isWs 0x7B = false by decide), Option.bind_eq_bind, Option.some_bind,
    member_renderMember hm]
  rw [members_render hrest _ (by simp only [List.length_append, List.length_cons]; omega)]
  simp [skipWs_eq_nil ht]

end X07Ext.Json
