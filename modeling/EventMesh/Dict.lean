/-!
Dictionaries: association lists kept in ascending order of their keys. Main statements: what a
look-up finds after an insertion, after several, and after an erasure (`get?_insert`,
`get?_insertAll`, `get?_erase`).
-/

namespace EventMesh

/-- Pairs of keys and values, one pair a key, in ascending order of the keys. -/
abbrev Dict (κ α : Type) := List (κ × α)

namespace Dict

variable {κ α : Type} [DecidableEq κ]

/-- The value under a key. -/
def get? (d : Dict κ α) (k : κ) : Option α :=
  match d with
  | [] => none
  | (j, a) :: rest => if j = k then some a else get? rest k

/-- Whether there is a value under the key. -/
def contains (d : Dict κ α) (k : κ) : Bool := (get? d k).isSome

/-- The dictionary without the key. -/
def erase (d : Dict κ α) (k : κ) : Dict κ α := d.filter (·.1 ≠ k)

def keys (d : Dict κ α) : List κ := d.map (·.1)

/-- The dictionary with every value changed by a function. -/
def mapValues {β : Type} (f : α → β) (d : Dict κ α) : Dict κ β := d.map fun (k, a) => (k, f a)

@[simp] theorem get?_nil (k : κ) : get? ([] : Dict κ α) k = none := rfl

theorem get?_append (d e : Dict κ α) (k : κ) : get? (d ++ e) k = (get? d k).or (get? e k) := by
  induction d with
  | nil => simp
  | cons p d ih => grind [get?]

theorem get?_erase (d : Dict κ α) (k j : κ) :
    get? (erase d k) j = if k = j then none else get? d j := by
  induction d with
  | nil => simp [erase]
  | cons p d ih => grind [erase, get?]

theorem get?_mapValues {β : Type} (f : α → β) (d : Dict κ α) (k : κ) :
    get? (mapValues f d) k = (get? d k).map f := by
  induction d with
  | nil => rfl
  | cons p d ih => grind [mapValues, get?]

theorem mem_of_get? {d : Dict κ α} {k : κ} {a : α} (h : get? d k = some a) : (k, a) ∈ d := by
  induction d with
  | nil => cases h
  | cons p d ih => grind [get?]

theorem get?_of_mem {d : Dict κ α} {k : κ} {a : α} (unique : (keys d).Nodup) (h : (k, a) ∈ d) :
    get? d k = some a := by
  induction d with
  | nil => cases h
  | cons p d ih => grind [get?, keys]

theorem get?_eq_none_iff {d : Dict κ α} {k : κ} : get? d k = none ↔ k ∉ keys d := by
  induction d with
  | nil => simp [keys]
  | cons p d ih => grind [get?, keys]

omit [DecidableEq κ] in
@[simp] theorem keys_mapValues {β : Type} (f : α → β) (d : Dict κ α) :
    keys (mapValues f d) = keys d := by
  simp [keys, mapValues, Function.comp_def]

theorem nodup_keys_erase {d : Dict κ α} (unique : (keys d).Nodup) (k : κ) :
    (keys (erase d k)).Nodup :=
  unique.sublist (List.filter_sublist.map _)

variable [LT κ] [DecidableLT κ]

/-- The dictionary with a value under a key, in place of the one there was. -/
def insert (d : Dict κ α) (k : κ) (a : α) : Dict κ α :=
  match d with
  | [] => [(k, a)]
  | (j, b) :: rest =>
    if j = k then (k, a) :: rest
    else if k < j then (k, a) :: (j, b) :: rest
    else (j, b) :: insert rest k a

/-- The dictionary with the given pairs inserted from left to right, so that later ones win. -/
def insertAll (d : Dict κ α) (pairs : List (κ × α)) : Dict κ α :=
  pairs.foldl (fun d (k, a) => insert d k a) d

theorem get?_insert (d : Dict κ α) (k j : κ) (a : α) :
    get? (insert d k a) j = if k = j then some a else get? d j := by
  induction d with
  | nil => rfl
  | cons p d ih => grind [insert, get?]

theorem mem_insert {d : Dict κ α} {k : κ} {a : α} {p : κ × α} (h : p ∈ insert d k a) :
    p = (k, a) ∨ p ∈ d := by
  induction d with
  | nil => exact Or.inl (List.mem_singleton.mp h)
  | cons q d ih => grind [insert]

theorem mem_keys_insert {d : Dict κ α} {k j : κ} {a : α} (h : j ∈ keys (insert d k a)) :
    j = k ∨ j ∈ keys d := by
  obtain ⟨p, hp, rfl⟩ := List.mem_map.mp h
  rcases mem_insert hp with rfl | hp
  · exact Or.inl rfl
  · exact Or.inr (List.mem_map_of_mem hp)

theorem mem_insertAll {d : Dict κ α} {pairs : List (κ × α)} {p : κ × α}
    (h : p ∈ insertAll d pairs) : p ∈ pairs ∨ p ∈ d := by
  induction pairs generalizing d with
  | nil => exact Or.inr h
  | cons q pairs ih =>
    rcases ih h with hp | hp
    · exact Or.inl (List.mem_cons_of_mem _ hp)
    · rcases mem_insert hp with rfl | hp
      · exact Or.inl (List.mem_cons_self ..)
      · exact Or.inr hp

/-- Keys stay unique when a key is added that was not there. -/
theorem nodup_keys_insert {d : Dict κ α} {k : κ} (unique : (keys d).Nodup)
    (absent : get? d k = none) (a : α) : (keys (insert d k a)).Nodup := by
  have perm : ∀ {d : Dict κ α}, get? d k = none → (keys (insert d k a)).Perm (k :: keys d) := by
    intro d hd
    induction d with
    | nil => exact .refl _
    | cons p d ih =>
      obtain ⟨j, b⟩ := p
      simp only [get?] at hd
      split at hd
      · cases hd
      · rename_i hj
        simp only [insert, if_neg hj]
        split
        · exact .refl _
        · exact ((ih hd).cons j).trans (.swap k j _)
  have fresh : k ∉ keys d := by
    intro hk
    obtain ⟨⟨j, b⟩, hm, rfl⟩ := List.mem_map.mp hk
    rw [get?_of_mem unique hm] at absent
    cases absent
  exact (perm absent).nodup_iff.mpr (List.nodup_cons.mpr ⟨fresh, unique⟩)

theorem get?_insertAll (d : Dict κ α) (pairs : List (κ × α)) (k : κ) :
    get? (insertAll d pairs) k = (get? pairs.reverse k).or (get? d k) := by
  induction pairs generalizing d with
  | nil => simp [insertAll]
  | cons p pairs ih =>
    have step := ih (insert d p.1 p.2)
    rw [get?_insert] at step
    rw [show insertAll d (p :: pairs) = insertAll (insert d p.1 p.2) pairs from rfl, step,
      List.reverse_cons, get?_append, Option.or_assoc]
    congr 1
    by_cases h : p.1 = k <;> simp [get?, h]

end Dict

end EventMesh
