import EventMesh.Payload.Same
import EventMesh.Payload.Serials
import EventMesh.Proofs.Decimal.Number
import EventMesh.Proofs.Payload.Overlay

/-!
# Equality of payloads

Payloads are equal at once if they share their storage, and by their contents otherwise; inside of the
contents the same holds again, at every depth. The two ways disagree on a NaN, which is equal to nothing
by its content. `Value.Equal` says which values are equal, as a relation. It is symmetric and transitive
wherever payloads that share a storage are one map (`CoherentStock`), and so it is with all payloads
that were ever made (`PayloadStock.coherent`).

Main statement: the equality of values and payloads decides the relation and is an equivalence on
payloads (`equality_laws`).
-/

namespace EventMesh

open Decimal

/-! ### What was made -/

/-- A value that, if it is a payload, is one of the given. -/
def Value.MadeOf (ps : List Payload) (v : Value) : Prop := ∀ p, v = .payload p → p ∈ ps

/-- A source whose payloads are among the given. -/
def Source.MadeOf (ps : List Payload) : Source → Prop
  | .empty => True
  | .payload p => p ∈ ps
  | .pairs entries => ∀ e ∈ entries, e.2.MadeOf ps
  | .single v => v.MadeOf ps

/-- The payloads that were made so far, each from what was there before. -/
inductive PayloadStock : Serials → List Payload → Prop
  | start (s : Serials) : PayloadStock s []
  /-- Other storages are made meanwhile. -/
  | meanwhile {s s' : Serials} {ps : List Payload} (h : PayloadStock s ps)
      (later : s.storage ≤ s'.storage) : PayloadStock s' ps
  | make {s : Serials} {ps : List Payload} {src : Source} (h : PayloadStock s ps) (made : src.MadeOf ps) :
      PayloadStock ((Serials.makePayload src).run s).2 (((Serials.makePayload src).run s).1 :: ps)
  | lay {s : Serials} {ps : List Payload} {p : Payload} {src : Source} (h : PayloadStock s ps) (hp : p ∈ ps)
      (made : src.MadeOf ps) :
      PayloadStock ((Serials.applySource p src).run s).2 (((Serials.applySource p src).run s).1 :: ps)

/-- Payloads that share a storage are one map, every map has one entry a key, and the payloads inside
are among the others. -/
structure CoherentStock (s : Serials) (ps : List Payload) : Prop where
  known : ∀ p ∈ ps, p.storage < s.storage
  one : ∀ p ∈ ps, ∀ q ∈ ps, p.storage = q.storage → p = q
  proper : ∀ p ∈ ps, p.Proper
  inside : ∀ p ∈ ps, ∀ e ∈ p.entries, e.2.MadeOf ps

theorem Value.MadeOf.more {ps : List Payload} {v : Value} (h : v.MadeOf ps) (p : Payload) :
    v.MadeOf (p :: ps) := by
  intro q hq
  exact List.mem_cons_of_mem p (h q hq)

namespace CoherentStock

variable {s s' : Serials} {ps : List Payload} {p : Payload} {src : Source}

theorem meanwhile (h : CoherentStock s ps) (later : s.storage ≤ s'.storage) : CoherentStock s' ps := by
  refine ⟨?_, h.one, h.proper, h.inside⟩
  intro p hp
  have := h.known p hp
  omega

/-- A payload may be there more than once. -/
theorem again (h : CoherentStock s ps) (hp : p ∈ ps) : CoherentStock s (p :: ps) := by
  have old : ∀ q ∈ p :: ps, q ∈ ps := by
    intro q hq
    rcases List.mem_cons.mp hq with rfl | hq
    · exact hp
    · exact hq
  constructor
  · intro q hq
    exact h.known q (old q hq)
  · intro q hq r hr
    exact h.one q (old q hq) r (old r hr)
  · intro q hq
    exact h.proper q (old q hq)
  · intro q hq e he
    exact (h.inside q (old q hq) e he).more p

/-- A payload in a new storage. -/
theorem fresh (h : CoherentStock s ps) {entries : Dict String Value} (ascending : Dict.Ascending entries)
    (made : ∀ e ∈ entries, e.2.MadeOf ps) :
    CoherentStock { s with storage := s.storage + 1 } (.mk s.storage entries :: ps) := by
  have other : ∀ q ∈ ps, q.storage ≠ s.storage := by
    intro q hq
    have := h.known q hq
    omega
  constructor
  · intro q hq
    rcases List.mem_cons.mp hq with rfl | hq
    · exact Nat.lt_succ_self _
    · exact Nat.lt_succ_of_lt (h.known q hq)
  · intro q hq r hr same
    rcases List.mem_cons.mp hq with rfl | hq <;> rcases List.mem_cons.mp hr with rfl | hr
    · rfl
    · exact absurd same.symm (other r hr)
    · exact absurd same (other q hq)
    · exact h.one q hq r hr same
  · intro q hq
    rcases List.mem_cons.mp hq with rfl | hq
    · exact ascending
    · exact h.proper q hq
  · intro q hq e he
    rcases List.mem_cons.mp hq with rfl | hq
    · exact (made e he).more _
    · exact (h.inside q hq e he).more _

/-- The values in a source come from the payloads that are there. -/
theorem madeOf_entries (h : CoherentStock s ps) (made : src.MadeOf ps) :
    ∀ e ∈ src.entries, e.2.MadeOf ps := by
  intro e he
  cases src with
  | empty => simp [Source.entries] at he
  | payload p =>
    rw [Source.entries_payload] at he
    exact h.inside p made e he
  | pairs entries =>
    rcases Dict.mem_insertAll he with he | he
    · exact made e he
    · simp at he
  | single v =>
    obtain rfl := List.mem_singleton.mp he
    exact made

theorem proper_source (h : CoherentStock s ps) (made : src.MadeOf ps) : src.Proper := by
  cases src with
  | payload p => exact h.proper p made
  | empty | pairs | single => trivial

theorem make (h : CoherentStock s ps) (made : src.MadeOf ps) :
    CoherentStock ((Serials.makePayload src).run s).2 (((Serials.makePayload src).run s).1 :: ps) := by
  have new := h.fresh (Source.ascending_entries (h.proper_source made)) (h.madeOf_entries made)
  cases src with
  | payload p => exact (h.again made).meanwhile (Nat.le_succ _)
  | empty | pairs | single => exact new

theorem lay (h : CoherentStock s ps) (hp : p ∈ ps) (made : src.MadeOf ps) :
    CoherentStock ((Serials.applySource p src).run s).2 (((Serials.applySource p src).run s).1 :: ps) := by
  show CoherentStock { s with storage := s.storage + 1 } (p.apply src s.storage :: ps)
  unfold Payload.apply
  split
  · exact (h.again hp).meanwhile (Nat.le_succ _)
  · apply h.fresh
    · exact Dict.Ascending.insertAll (h.proper p hp) src.entries
    · intro e he
      rcases Dict.mem_insertAll he with he | he
      · exact h.madeOf_entries made e he
      · exact h.inside p hp e he

theorem inside_get? (h : CoherentStock s ps) (hp : p ∈ ps) {key : String} {v : Value}
    (found : p.get? key = some v) : v.MadeOf ps :=
  h.inside p hp (key, v) (Dict.mem_of_get? found)

end CoherentStock

/-- **Whatever was made is coherent.** -/
theorem PayloadStock.coherent {s : Serials} {ps : List Payload} (h : PayloadStock s ps) :
    CoherentStock s ps := by
  induction h with
  | start s => constructor <;> simp
  | meanwhile _ later ih => exact ih.meanwhile later
  | make _ made ih => exact ih.make made
  | lay _ hp made ih => exact ih.lay hp made

/-! ### Which values are equal -/

/-- Equal values. Waiters and foreign values are told apart by their identity, floats by the numbers that
they stand for, and payloads by their contents unless they share their storage. -/
inductive Value.Equal : Value → Value → Prop
  | bool (b : Bool) : Equal (.bool b) (.bool b)
  | int (i : Int64) : Equal (.int i) (.int i)
  | float {x y : Binary64} {n : Number} (hx : x.number? = some n) (hy : y.number? = some n) :
      Equal (.float x) (.float y)
  | str (s : String) : Equal (.str s) (.str s)
  | time (t : Time.Wall) : Equal (.time t) (.time t)
  | duration (d : Time.Duration) : Equal (.duration d) (.duration d)
  | waiter (w : WaiterId) : Equal (.waiter w) (.waiter w)
  | strings (items : List String) : Equal (.strings items) (.strings items)
  | foreign {f g : Foreign} (identity : f.number = g.number) : Equal (.foreign f) (.foreign g)
  | shared {p q : Payload} (storage : p.storage = q.storage) : Equal (.payload p) (.payload q)
  | contents {p q : Payload} (keys : ∀ key, p.contains key = q.contains key)
      (values : ∀ key u v, p.get? key = some u → q.get? key = some v → Equal u v) :
      Equal (.payload p) (.payload q)

namespace Value.Equal

variable {u v w : Value}

theorem symm (h : u.Equal v) : v.Equal u := by
  induction h with
  | bool b => exact .bool b
  | int i => exact .int i
  | float hx hy => exact .float hy hx
  | str s => exact .str s
  | time t => exact .time t
  | duration d => exact .duration d
  | waiter w => exact .waiter w
  | strings items => exact .strings items
  | foreign identity => exact .foreign identity.symm
  | shared storage => exact .shared storage.symm
  | contents keys _ ih =>
    apply Value.Equal.contents
    · intro key
      exact (keys key).symm
    · intro key v u hv hu
      exact ih key u v hu hv

/-- Where one comparison succeeds by the storage, the payloads are one; where both succeed by the
contents, every key leads through the payload in the middle. -/
theorem trans {s : Serials} {ps : List Payload} (coherent : CoherentStock s ps) (hu : u.MadeOf ps)
    (hv : v.MadeOf ps) (hw : w.MadeOf ps) (h : u.Equal v) (h' : v.Equal w) : u.Equal w := by
  induction h generalizing w with
  | bool | int | str | time | duration | waiter | strings => exact h'
  | float hx hy =>
    cases h' with
    | float hy' hz =>
      obtain rfl : _ = _ := Option.some.inj (hy.symm.trans hy')
      exact .float hx hz
  | foreign identity =>
    cases h' with
    | foreign identity' => exact .foreign (identity.trans identity')
  | @shared p q storage =>
    obtain rfl := coherent.one p (hu p rfl) q (hv q rfl) storage
    exact h'
  | @contents p q keys values ih =>
    have first : (Value.payload p).Equal (.payload q) := .contents keys values
    cases h' with
    | @shared _ r storage =>
      obtain rfl := coherent.one q (hv q rfl) r (hw r rfl) storage
      exact first
    | @contents _ r keys' values' =>
      apply Value.Equal.contents
      · intro key
        exact (keys key).trans (keys' key)
      · intro key u w found found'
        have middle : (q.get? key).isSome = true := by
          have := keys key
          simp only [Payload.contains, Dict.contains] at this
          rw [Payload.get?, ← this]
          simp only [Payload.get?] at found
          simp [found]
        obtain ⟨v, between⟩ := Option.isSome_iff_exists.mp middle
        exact ih key u v found between (coherent.inside_get? (hu p rfl) found)
          (coherent.inside_get? (hv q rfl) between) (coherent.inside_get? (hw r rfl) found')
          (values' key v w between found')

end Value.Equal

/-! ### Deciding equality -/

namespace Dict

variable {κ α β : Type} [DecidableEq κ]

theorem contains_iff {d : Dict κ α} {k : κ} : contains d k = true ↔ k ∈ keys d := by
  rw [contains, Option.isSome_iff_ne_none, Ne, get?_eq_none_iff, not_not]

/-- With one entry a key it is enough to look from one side whether the keys are the same. -/
theorem same_keys_iff {d : Dict κ α} {e : Dict κ β} (hd : (keys d).Nodup) (he : (keys e).Nodup) :
    (d.length = e.length ∧ ∀ k ∈ keys d, k ∈ keys e) ↔ ∀ k, contains d k = contains e k := by
  have both : ∀ k, contains d k = contains e k ↔ (k ∈ keys d ↔ k ∈ keys e) := by
    intro k
    rw [Bool.eq_iff_iff, contains_iff, contains_iff]
  simp only [both]
  constructor
  · rintro ⟨length, among⟩
    have perm : (keys d).Perm (keys e) := by
      apply (hd.subperm among).perm_of_length_le
      simp [keys, length]
    intro k
    exact perm.mem_iff
  · intro same
    have perm : (keys d).Perm (keys e) := (List.perm_ext_iff_of_nodup hd he).mpr same
    refine ⟨by simpa [keys] using perm.length_eq, ?_⟩
    intro k hk
    exact (same k).mp hk

end Dict

/-- Whatever holds of a payload as soon as it holds of the values inside, and of every other value, holds
of all values. -/
theorem Value.induction_on_payloads {P : Value → Prop} (plain : ∀ v, (∀ p, v ≠ .payload p) → P v)
    (payload : ∀ p : Payload, (∀ e ∈ p.entries, P e.2) → P (.payload p)) (v : Value) : P v := by
  refine @Value.rec P (fun p => ∀ e ∈ p.entries, P e.2) (fun es => ∀ e ∈ es, P e.2) (fun e => P e.2)
    ?_ ?_ ?_ ?_ ?_ ?_ ?_ ?_ payload ?_ (fun _ _ inside => inside) ?_ ?_ (fun _ _ inside => inside) v
  case refine_10 =>
    intro e he
    simp at he
  case refine_11 =>
    intro first rest hfirst hrest e he
    rcases List.mem_cons.mp he with rfl | he
    · exact hfirst
    · exact hrest e he
  all_goals
    intro x
    apply plain
    simp

theorem sameEntries_iff (es fs : List (String × Value)) : sameEntries es fs = true ↔
    ∀ e ∈ es, ∃ u, Dict.get? fs e.1 = some u ∧ e.2.same u = true := by
  induction es with
  | nil => simp [sameEntries]
  | cons e es ih =>
    obtain ⟨key, v⟩ := e
    rw [sameEntries, Bool.and_eq_true, ih, List.forall_mem_cons]
    cases Dict.get? fs key <;> simp

/-- Payloads with one entry a key are equal if they share their storage, or if they have the same keys
with equal values. -/
theorem Payload.same_iff {p q : Payload} (hp : p.Proper) (hq : q.Proper) : p.same q = true ↔
    p.storage = q.storage ∨ (∀ key, p.contains key = q.contains key) ∧
      ∀ key u v, p.get? key = some u → q.get? key = some v → u.same v = true := by
  obtain ⟨i, es⟩ := p
  obtain ⟨j, fs⟩ := q
  have ascending : Dict.Ascending es := hp
  have keys := Dict.same_keys_iff ascending.nodup (Dict.Ascending.nodup hq)
  simp only [Payload.same, Payload.storage, Bool.or_eq_true, beq_iff_eq, Bool.and_eq_true,
    sameEntries_iff]
  apply or_congr_right
  constructor
  · rintro ⟨length, alike⟩
    refine ⟨keys.mp ⟨length, ?_⟩, ?_⟩
    · intro key hkey
      obtain ⟨e, he, rfl⟩ := List.mem_map.mp hkey
      obtain ⟨u, found, -⟩ := alike e he
      exact List.mem_map.mpr ⟨(e.1, u), Dict.mem_of_get? found, rfl⟩
    · intro key u v hu hv
      obtain ⟨v', found, same⟩ := alike (key, u) (Dict.mem_of_get? hu)
      obtain rfl := Option.some.inj (hv.symm.trans found)
      exact same
  · rintro ⟨contains, alike⟩
    obtain ⟨length, among⟩ := keys.mpr contains
    refine ⟨length, ?_⟩
    intro e he
    obtain ⟨f, hf, key⟩ := List.mem_map.mp (among e.1 (List.mem_map.mpr ⟨e, he, rfl⟩))
    have found := Dict.get?_of_mem (Dict.Ascending.nodup hq) hf
    rw [key] at found
    exact ⟨f.2, found, alike e.1 e.2 f.2 (Dict.get?_of_mem ascending.nodup he) found⟩

section Deciding

variable {s : Serials} {ps : List Payload}

/-- **Comparing values decides which are equal**, at every depth. -/
theorem Value.same_iff_equal (coherent : CoherentStock s ps) (u : Value) : ∀ v : Value, u.MadeOf ps →
    v.MadeOf ps → (u.same v = true ↔ u.Equal v) := by
  induction u using Value.induction_on_payloads with
  | plain u hu =>
    intro v _ _
    constructor
    · intro h
      cases u <;> cases v <;> simp [Value.same] at h
      case bool => subst h; exact .bool _
      case int => subst h; exact .int _
      case float =>
        obtain ⟨n, hx, hy⟩ := Binary64.same_iff_number.mp h
        exact .float hx hy
      case str => subst h; exact .str _
      case time => subst h; exact .time _
      case duration => subst h; exact .duration _
      case waiter => subst h; exact .waiter _
      case strings => subst h; exact .strings _
      case payload p _ => exact absurd rfl (hu _)
      case foreign => exact .foreign h
    · intro h
      cases h with
      | float hx hy => exact Binary64.same_iff_number.mpr ⟨_, hx, hy⟩
      | foreign identity => simp [Value.same, identity]
      | shared | contents => exact absurd rfl (hu _)
      | bool | int | str | time | duration | waiter | strings => simp [Value.same]
  | payload p ih =>
    intro v hp hv
    -- The values of both payloads are those of payloads that were made.
    have inner {q : Payload} (hq : (Value.payload q).MadeOf ps) {key : String} {u v : Value}
        (hu : p.get? key = some u) (hv : q.get? key = some v) : u.same v = true ↔ u.Equal v :=
      ih (key, u) (Dict.mem_of_get? hu) v (coherent.inside_get? (hp p rfl) hu)
        (coherent.inside_get? (hq q rfl) hv)
    have unfolded {q : Payload} (hq : (Value.payload q).MadeOf ps) :=
      Payload.same_iff (coherent.proper p (hp p rfl)) (coherent.proper q (hq q rfl))
    constructor
    · intro h
      cases v with
      | payload q =>
        rcases (unfolded hv).mp h with storage | ⟨keys, values⟩
        · exact .shared storage
        · apply Value.Equal.contents keys
          intro key u v hu hv'
          exact (inner hv hu hv').mp (values key u v hu hv')
      | bool | int | float | str | time | duration | waiter | strings | foreign =>
        simp [Value.same] at h
    · intro h
      cases h with
      | shared storage => exact (unfolded hv).mpr (Or.inl storage)
      | contents keys values =>
        refine (unfolded hv).mpr (Or.inr ⟨keys, ?_⟩)
        intro key u v hu hv'
        exact (inner hv hu hv').mpr (values key u v hu hv')

theorem Payload.same_self (p : Payload) : p.same p = true := by
  cases p
  simp [Payload.same]

/-- A value equals its own clone unless it is a NaN itself; what is inside a payload does not matter. -/
theorem Value.same_self_iff (v : Value) :
    v.same v = true ↔ ∀ x, v = .float x → x.isNaN = false := by
  cases v with
  | float x => simp [Value.same, Binary64.same_self]
  | payload p => simp [Value.same, Payload.same_self]
  | bool | int | str | time | duration | waiter | strings | foreign => simp [Value.same]

end Deciding

/-! ### The laws of equality -/

/-- What it means to compare payloads, and values made of them. -/
structure EqualityLaws (ps : List Payload) : Prop where
  refl : ∀ p ∈ ps, p.same p = true
  symm : ∀ p ∈ ps, ∀ q ∈ ps, p.same q = true → q.same p = true
  trans : ∀ p ∈ ps, ∀ q ∈ ps, ∀ r ∈ ps, p.same q = true → q.same r = true → p.same r = true
  value_symm : ∀ u v : Value, u.MadeOf ps → v.MadeOf ps → u.same v = true → v.same u = true
  value_trans : ∀ u v w : Value, u.MadeOf ps → v.MadeOf ps → w.MadeOf ps →
    u.same v = true → v.same w = true → u.same w = true
  /-- A value equals itself just if it is not directly a NaN. -/
  value_self : ∀ v : Value, v.same v = true ↔ ∀ x, v = .float x → x.isNaN = false
  /-- Payloads in storages of their own are equal just if they have the same keys with equal values. -/
  contents : ∀ p ∈ ps, ∀ q ∈ ps, p.shares q = false → (p.same q = true ↔
    (∀ key, p.contains key = q.contains key) ∧
      ∀ key u v, p.get? key = some u → q.get? key = some v → u.same v = true)
  /-- Values are equal just if they are of one kind and say the same, waiters and foreign values if they
  are the same one, and floats if they stand for the same number. -/
  decides : ∀ u v : Value, u.MadeOf ps → v.MadeOf ps → (u.same v = true ↔ u.Equal v)

theorem Payload.madeOf {ps : List Payload} {p : Payload} (hp : p ∈ ps) :
    (Value.payload p).MadeOf ps := by
  rintro _ ⟨⟩
  exact hp

/-- **The equality of payloads is an equivalence**, that of values one but for a NaN, and both are what
they are declared to be, whatever was made. -/
theorem equality_laws {s : Serials} {ps : List Payload} (h : PayloadStock s ps) : EqualityLaws ps := by
  have coherent := h.coherent
  have symm : ∀ u v : Value, u.MadeOf ps → v.MadeOf ps → u.same v = true → v.same u = true := by
    intro u v hu hv same
    rw [Value.same_iff_equal coherent u v hu hv] at same
    rw [Value.same_iff_equal coherent v u hv hu]
    exact same.symm
  have trans : ∀ u v w : Value, u.MadeOf ps → v.MadeOf ps → w.MadeOf ps →
      u.same v = true → v.same w = true → u.same w = true := by
    intro u v w hu hv hw same same'
    rw [Value.same_iff_equal coherent u v hu hv] at same
    rw [Value.same_iff_equal coherent v w hv hw] at same'
    rw [Value.same_iff_equal coherent u w hu hw]
    exact same.trans coherent hu hv hw same'
  constructor
  · intro p _
    exact p.same_self
  · intro p hp q hq same
    exact symm (.payload p) (.payload q) (Payload.madeOf hp) (Payload.madeOf hq) same
  · intro p hp q hq r hr same same'
    exact trans (.payload p) (.payload q) (.payload r) (Payload.madeOf hp) (Payload.madeOf hq)
      (Payload.madeOf hr) same same'
  · exact symm
  · exact trans
  · exact Value.same_self_iff
  · intro p hp q hq apart
    have distinct : p.storage ≠ q.storage := by simpa [Payload.shares] using apart
    rw [Payload.same_iff (coherent.proper p hp) (coherent.proper q hq), or_iff_right distinct]
  · intro u v hu hv
    exact Value.same_iff_equal coherent u v hu hv

/-- Two payloads with a NaN each are not equal, and yet each equals itself; so it goes on with three
payloads around the first of them and a waiter. -/
theorem equality_laws_notANumber :
    let nan : Value := .float ⟨0x7FF8000000000000⟩
    let p : Payload := .mk 0 [("x", nan)]
    let q : Payload := .mk 1 [("x", nan)]
    let around (storage : Nat) : Payload := .mk storage [("in", .payload p), ("to", .waiter ⟨3⟩)]
    nan.same nan = false ∧ p.same p = true ∧ p.same q = false ∧
      (around 2).same (around 3) = true ∧ (around 4).same (around 2) = true := by
  intro nan p q around
  have stock : PayloadStock ⟨5, 0, 0⟩ [around 4, around 3, around 2, q, p] := by
    have single (ps : List Payload) : (Source.pairs [("x", nan)]).MadeOf ps := by
      simp [Source.MadeOf, Value.MadeOf, nan]
    have outer (ps : List Payload) (hp : p ∈ ps) :
        (Source.pairs [("in", .payload p), ("to", .waiter ⟨3⟩)]).MadeOf ps := by
      simp [Source.MadeOf, Value.MadeOf, hp]
    have second := ((PayloadStock.start {}).make (single [])).make (single [p])
    have third := second.make (outer [q, p] (by simp))
    have fourth := third.make (outer [around 2, q, p] (by simp))
    exact fourth.make (outer [around 3, around 2, q, p] (by simp))
  have laws := equality_laws stock
  have odd : nan.same nan = false := by
    rw [Bool.eq_false_iff, Ne, laws.value_self nan]
    intro number
    exact absurd (number _ rfl) (by decide)
  have apart : p.same q = false := by
    rw [Bool.eq_false_iff, Ne, laws.contents p (by simp) q (by simp) rfl]
    rintro ⟨-, values⟩
    rw [values "x" nan nan rfl rfl] at odd
    exact absurd odd (by decide)
  have alike (i j : Nat) (hi : around i ∈ [around 4, around 3, around 2, q, p])
      (hj : around j ∈ [around 4, around 3, around 2, q, p]) (distinct : i ≠ j) :
      (around i).same (around j) = true := by
    rw [laws.contents _ hi _ hj (by simpa [Payload.shares, Payload.storage, around] using distinct)]
    refine ⟨fun _ => rfl, ?_⟩
    intro key u v hu hv
    obtain rfl := Option.some.inj (hu.symm.trans hv)
    rw [laws.value_self]
    rintro x rfl
    have := Dict.mem_of_get? hu
    simp [around, Payload.entries] at this
  have back := laws.symm _ (by simp) _ (by simp) (alike 2 3 (by simp) (by simp) (by decide))
  have from_four := alike 4 3 (by simp) (by simp) (by decide)
  refine ⟨odd, laws.refl p (by simp), apart, alike 2 3 (by simp) (by simp) (by decide), ?_⟩
  exact laws.trans _ (by simp) _ (by simp) _ (by simp) from_four back

end EventMesh
