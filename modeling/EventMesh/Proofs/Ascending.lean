import EventMesh.Dict
import Mathlib.Data.List.Sort
import Mathlib.Data.String.Basic

/-!
# Dictionaries in ascending order

What is inserted into a dictionary whose keys ascend leaves it so (`Ascending.insert`,
`Ascending.insertAll`), and such a dictionary is determined by its look-ups (`Ascending.ext`).
-/

namespace EventMesh

namespace Dict

variable {κ α : Type} [DecidableEq κ] [LT κ] [DecidableLT κ] [IsStrictTotalOrder κ (· < ·)]

/-- The keys ascend. -/
def Ascending (d : Dict κ α) : Prop := (keys d).Pairwise (· < ·)

instance (d : Dict κ α) : Decidable (Ascending d) :=
  inferInstanceAs (Decidable ((keys d).Pairwise (· < ·)))

theorem Ascending.insert {d : Dict κ α} (h : Ascending d) (k : κ) (a : α) :
    Ascending (insert d k a) := by
  induction d with
  | nil => exact List.pairwise_singleton _ _
  | cons q d ih =>
    obtain ⟨j, b⟩ := q
    obtain ⟨least, rest⟩ := List.pairwise_cons.mp h
    unfold Dict.insert
    split
    · rename_i hj
      subst hj
      exact List.pairwise_cons.mpr ⟨least, rest⟩
    · rename_i hj
      split
      · rename_i before
        refine List.pairwise_cons.mpr ⟨fun i hi => ?_, h⟩
        rcases List.mem_cons.mp hi with rfl | hi
        · exact before
        · exact IsTrans.trans _ _ _ before (least i hi)
      · rename_i notBefore
        have after : j < k := by
          rcases trichotomous_of (· < ·) j k with lt | eq | gt
          · exact lt
          · exact absurd eq hj
          · exact absurd gt notBefore
        refine List.pairwise_cons.mpr ⟨fun i hi => ?_, ih rest⟩
        rcases mem_keys_insert hi with rfl | hi
        · exact after
        · exact least i hi

theorem Ascending.insertAll {d : Dict κ α} (h : Ascending d) (pairs : List (κ × α)) :
    Ascending (insertAll d pairs) := by
  induction pairs generalizing d with
  | nil => exact h
  | cons q pairs ih => exact ih (h.insert q.1 q.2)

omit [DecidableEq κ] [DecidableLT κ] in
theorem Ascending.nodup {d : Dict κ α} (h : Ascending d) : (keys d).Nodup := by
  refine List.Pairwise.imp (fun {j k} before => ?_) h
  rintro rfl
  exact irrefl_of (· < ·) j before

omit [DecidableLT κ] in
theorem Ascending.mem_iff {d : Dict κ α} (h : Ascending d) (k : κ) (a : α) :
    (k, a) ∈ d ↔ get? d k = some a :=
  ⟨get?_of_mem h.nodup, mem_of_get?⟩

omit [DecidableLT κ] in
/-- With one pair a key it does not matter from which end a key is sought. -/
theorem Ascending.get?_reverse {d : Dict κ α} (h : Ascending d) (k : κ) :
    get? d.reverse k = get? d k := by
  have unique : (keys d.reverse).Nodup := by
    rw [keys, List.map_reverse, List.nodup_reverse]
    exact h.nodup
  refine Option.ext fun a => ?_
  rw [← h.mem_iff, ← List.mem_reverse]
  exact ⟨mem_of_get?, get?_of_mem unique⟩

omit [DecidableLT κ] in
/-- Dictionaries in ascending order are determined by what is found in them. -/
theorem Ascending.ext {d e : Dict κ α} (hd : Ascending d) (he : Ascending e)
    (h : ∀ k, get? d k = get? e k) : d = e := by
  have members : d.Perm e := by
    refine (List.perm_ext_iff_of_nodup hd.nodup.of_map he.nodup.of_map).mpr fun q => ?_
    rw [hd.mem_iff q.1 q.2, he.mem_iff q.1 q.2, h]
  have sorted : ∀ {d : Dict κ α}, Ascending d → d.Pairwise fun p q => p.1 < q.1 :=
    List.pairwise_map.mp
  refine members.eq_of_pairwise ?_ (sorted hd) (sorted he)
  intro p q _ _ hpq hqp
  exact absurd hqp (asymm hpq)

theorem insert_of_greatest {d : Dict κ α} {k : κ} (h : ∀ j ∈ keys d, j < k) (a : α) :
    insert d k a = d ++ [(k, a)] := by
  induction d with
  | nil => rfl
  | cons q d ih =>
    obtain ⟨j, b⟩ := q
    have before : j < k := h j (List.mem_cons_self ..)
    have distinct : j ≠ k := fun eq => irrefl_of (· < ·) k (eq ▸ before)
    have notAfter : ¬ k < j := asymm before
    rw [insert, if_neg distinct, if_neg notAfter, ih fun i hi => h i (List.mem_cons_of_mem _ hi)]
    rfl

/-- What is inserted in ascending order is listed as it comes. -/
theorem insertAll_of_ascending {d pairs : Dict κ α} (h : Ascending (d ++ pairs)) :
    insertAll d pairs = d ++ pairs := by
  induction pairs generalizing d with
  | nil => exact (List.append_nil d).symm
  | cons q pairs ih =>
    have greatest : ∀ j ∈ keys d, j < q.1 := by
      intro j hj
      rw [Ascending, keys, List.map_append] at h
      exact (List.pairwise_append.mp h).2.2 j hj q.1 (List.mem_cons_self ..)
    rw [show insertAll d (q :: pairs) = insertAll (insert d q.1 q.2) pairs from rfl,
      insert_of_greatest greatest, ih (by simpa using h), List.append_assoc]
    rfl

end Dict

end EventMesh
