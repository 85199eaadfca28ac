/-!
Tables of things that are made one after the other and never removed. A handle is the position of
its thing, typed by the kind of thing, so that a waiter is never looked up among the scenes. Main
statements: what is found after a change and after an addition (`get?_modify`, `get?_add`), and how
many things have a property then (`countWhere_modify`, `countWhere_add`).
-/

namespace EventMesh

/-- The kinds of things that have identity. -/
inductive Kind where
  | waiter | flag | scope | scene | reminder | task | cell | mesh | bench
  deriving DecidableEq

/-- The identity of a thing of a kind. -/
structure Handle (k : Kind) where
  index : Nat
  deriving DecidableEq

abbrev WaiterId := Handle .waiter
abbrev FlagId := Handle .flag
abbrev ScopeId := Handle .scope
abbrev SceneId := Handle .scene
abbrev ReminderId := Handle .reminder
abbrev TaskId := Handle .task
abbrev CellKey := Handle .cell
abbrev MeshId := Handle .mesh
abbrev BenchId := Handle .bench

/-- All things of a kind, in the order in which they were made. -/
structure Table (k : Kind) (α : Type) where
  rows : Array α := #[]

namespace Table

variable {k : Kind} {α : Type}

def empty : Table k α := {}

def size (t : Table k α) : Nat := t.rows.size

/-- The handle that the next addition gives. -/
def next (t : Table k α) : Handle k := ⟨t.rows.size⟩

def get? (t : Table k α) (h : Handle k) : Option α := t.rows[h.index]?

/-- The table with one more thing, under the handle `next`. -/
def add (t : Table k α) (a : α) : Table k α := ⟨t.rows.push a⟩

/-- The table with one thing changed; an unknown handle changes nothing. -/
def modify (t : Table k α) (h : Handle k) (f : α → α) : Table k α := ⟨t.rows.modify h.index f⟩

/-- The handles of the things that have a property, oldest first. -/
def handlesWhere (t : Table k α) (p : α → Bool) : List (Handle k) :=
  (List.range t.rows.size).filterMap fun i =>
    if (t.rows[i]?).any p then some ⟨i⟩ else none

/-- How many things have a property. -/
def countWhere (t : Table k α) (p : α → Bool) : Nat := t.rows.toList.countP p

@[simp] theorem get?_empty (h : Handle k) : get? (empty : Table k α) h = none := by
  simp [get?, empty]

theorem get?_add (t : Table k α) (a : α) (h : Handle k) :
    (t.add a).get? h = if h = t.next then some a else t.get? h := by
  obtain ⟨i⟩ := h
  simp only [get?, add, next, Array.getElem?_push, Handle.mk.injEq]

@[simp] theorem get?_next (t : Table k α) : t.get? t.next = none := by simp [get?, next]

theorem ne_next_of_get? {t : Table k α} {h : Handle k} {a : α} (ha : t.get? h = some a) :
    h ≠ t.next := by
  rintro rfl
  rw [get?_next] at ha
  cases ha

theorem get?_add_of_get? {t : Table k α} {h : Handle k} {a : α} (ha : t.get? h = some a) (b : α) :
    (t.add b).get? h = some a := by
  rw [get?_add, if_neg (ne_next_of_get? ha), ha]

theorem index_lt_of_get? {t : Table k α} {h : Handle k} {a : α} (ha : t.get? h = some a) :
    h.index < t.size :=
  (Array.getElem?_eq_some_iff.mp ha).1

theorem exists_get? {t : Table k α} {h : Handle k} (bound : h.index < t.size) :
    ∃ a, t.get? h = some a :=
  ⟨t.rows[h.index], Array.getElem?_eq_getElem bound⟩

theorem get?_modify (t : Table k α) (h j : Handle k) (f : α → α) :
    (t.modify h f).get? j = if h = j then (t.get? j).map f else t.get? j := by
  obtain ⟨i⟩ := h
  obtain ⟨j⟩ := j
  simp only [get?, modify, Array.getElem?_modify, Handle.mk.injEq]

theorem modify_modify (t : Table k α) (h : Handle k) (f g : α → α) :
    (t.modify h f).modify h g = t.modify h (g ∘ f) := by
  unfold modify
  congr 1
  apply Array.ext_getElem?
  intro i
  simp only [Array.getElem?_modify]
  split <;> simp [Option.map_map]

/-- A change only has to be known at the thing that is changed. -/
theorem modify_congr {t : Table k α} {h : Handle k} {a : α} (ha : t.get? h = some a)
    {f g : α → α} (hfg : f a = g a) : t.modify h f = t.modify h g := by
  unfold modify
  congr 1
  apply Array.ext_getElem?
  intro i
  simp only [Array.getElem?_modify]
  split
  · rename_i hi
    subst hi
    rw [show t.rows[h.index]? = some a from ha]
    exact congrArg some hfg
  · rfl

@[simp] theorem modify_id (t : Table k α) (h : Handle k) : t.modify h (fun a => a) = t := by
  obtain ⟨rows⟩ := t
  unfold modify
  congr 1
  apply Array.ext_getElem?
  intro i
  simp [Array.getElem?_modify]

/-- An unknown handle changes nothing. -/
theorem modify_eq_self {t : Table k α} {h : Handle k} (hn : t.get? h = none) (f : α → α) :
    t.modify h f = t := by
  obtain ⟨rows⟩ := t
  unfold modify
  congr 1
  apply Array.ext_getElem?
  intro i
  simp only [Array.getElem?_modify]
  split
  · rename_i hi
    subst hi
    rw [show rows[h.index]? = none from hn]
    rfl
  · rfl

@[simp] theorem size_modify (t : Table k α) (h : Handle k) (f : α → α) :
    (t.modify h f).size = t.size := by
  simp [size, modify]

@[simp] theorem size_add (t : Table k α) (a : α) : (t.add a).size = t.size + 1 := by
  simp [size, add]

theorem countP_modify {p : α → Bool} {f : α → α} {l : List α} {i : Nat} {a : α}
    (h : l[i]? = some a) :
    (l.modify i f).countP p + (p a).toNat = l.countP p + (p (f a)).toNat := by
  induction l generalizing i with
  | nil => cases h
  | cons b l ih =>
    cases i with
    | zero =>
      cases h
      simp only [List.modify_zero_cons, List.countP_cons]
      cases p a <;> cases p (f a) <;> simp
    | succ i =>
      have rest := ih (i := i) h
      simp only [List.modify_succ_cons, List.countP_cons]
      omega

theorem countWhere_modify {t : Table k α} {h : Handle k} {a : α} (found : t.get? h = some a)
    (p : α → Bool) (f : α → α) :
    (t.modify h f).countWhere p + (p a).toNat = t.countWhere p + (p (f a)).toNat := by
  unfold countWhere modify
  rw [Array.toList_modify]
  exact countP_modify (by rw [Array.getElem?_toList]; exact found)

theorem countWhere_add (t : Table k α) (p : α → Bool) (a : α) :
    (t.add a).countWhere p = t.countWhere p + (p a).toNat := by
  unfold countWhere add
  rw [Array.toList_push, List.countP_append]
  cases h : p a <;> simp [h]

theorem countWhere_pos_iff {t : Table k α} {p : α → Bool} :
    0 < t.countWhere p ↔ ∃ h a, t.get? h = some a ∧ p a = true := by
  unfold countWhere
  rw [List.countP_pos_iff]
  constructor
  · rintro ⟨a, ha, hp⟩
    obtain ⟨i, hi⟩ := List.mem_iff_getElem?.mp ha
    exact ⟨⟨i⟩, a, by rw [get?, ← Array.getElem?_toList]; exact hi, hp⟩
  · rintro ⟨h, a, found, hp⟩
    refine ⟨a, List.mem_iff_getElem?.mpr ⟨h.index, ?_⟩, hp⟩
    rw [Array.getElem?_toList]
    exact found

end Table

end EventMesh
