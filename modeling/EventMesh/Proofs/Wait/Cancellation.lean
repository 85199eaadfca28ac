import EventMesh.Wait.Scope

/-!
# How a cancellation spreads

Cancelling goes through a work list and pushes what it finds on down the lists of children. `Spread`
says what that comes to: a scope is left as it was, or it was reached and is cancelled now; and
whatever is listed, or is a child of what was cancelled, is cancelled or not held any more. Main
statements: working a list off spreads in this way (`spread_cancelAll`), and a derivation makes one
scope, cancelled just if its parent is, and leaves all others but for the parent's list of children
(`derived_derive`).
-/

namespace EventMesh.Scopes

/-- A cancellation passes the scope over: it is cancelled already, or nobody holds it. -/
def Spent (t : Scopes) (s : ScopeId) : Prop :=
  ∀ scope, t.get? s = some scope → scope.cancelled ∨ scope.dropped

/-- The scopes on a work list and all that hang on them. -/
inductive Reached (t : Scopes) (work : List ScopeId) : ScopeId → Prop
  | listed {s : ScopeId} (h : s ∈ work) : Reached t work s
  | child {s c : ScopeId} {scope : Scope} (h : Reached t work s) (found : t.get? s = some scope)
      (hc : c ∈ scope.children) : Reached t work c

/-- What is reached is reached from a list that reaches as much, where there are as many children. -/
theorem Reached.of_links {t t' : Scopes} {work work' : List ScopeId} {x : ScopeId}
    (h : Reached t work x) (listed : ∀ s ∈ work, Reached t' work' s)
    (links : ∀ s scope, t.get? s = some scope → ∀ c ∈ scope.children,
      ∃ scope', t'.get? s = some scope' ∧ c ∈ scope'.children) : Reached t' work' x := by
  induction h with
  | listed hs => exact listed _ hs
  | child _ found hc ih =>
    obtain ⟨scope', found', hc'⟩ := links _ _ found _ hc
    exact .child ih found' hc'

/-- A cancellation of the scopes on a work list spread to all that it reached. -/
structure Spread (t : Scopes) (work : List ScopeId) (t' : Scopes) : Prop where
  each : ∀ x, t'.get? x = t.get? x ∨ ∃ scope, t.get? x = some scope ∧ scope.cancelled = false ∧
    t'.get? x = some { scope with cancelled := true, children := [] } ∧ Reached t work x
  listed : ∀ s ∈ work, t'.Spent s
  onward : ∀ x scope, t.get? x = some scope → t'.get? x ≠ t.get? x →
    ∀ c ∈ scope.children, t'.Spent c

variable {t t' : Scopes} {work : List ScopeId}

/-- What is spent stays spent. -/
theorem Spread.spent (h : Spread t work t') {s : ScopeId} (spent : t.Spent s) : t'.Spent s := by
  intro scope found
  rcases h.each s with same | ⟨before, -, -, after, -⟩
  · exact spent scope (same ▸ found)
  · rw [after] at found
    cases found
    exact Or.inl rfl

/-- A scope that is not cancelled afterwards is as it was. -/
theorem Spread.get?_of_live (h : Spread t work t') {x : ScopeId} {scope : Scope}
    (found : t'.get? x = some scope) (live : scope.cancelled = false) : t.get? x = some scope := by
  rcases h.each x with same | ⟨before, -, -, after, -⟩
  · exact same ▸ found
  · rw [after] at found
    cases found
    cases live

/-- One that was cancelled before still is. -/
theorem Spread.cancelled (h : Spread t work t') {x : ScopeId} {scope : Scope}
    (found : t.get? x = some scope) (cancelled : scope.cancelled = true) :
    ∃ scope, t'.get? x = some scope ∧ scope.cancelled = true := by
  rcases h.each x with same | ⟨before, -, -, after, -⟩
  · exact ⟨scope, same.trans found, cancelled⟩
  · exact ⟨_, after, rfl⟩

/-- Each scope is there as before, held or dropped as before. -/
theorem Spread.map_dropped (h : Spread t work t') (x : ScopeId) :
    (t'.get? x).map (·.dropped) = (t.get? x).map (·.dropped) := by
  rcases h.each x with same | ⟨before, found, -, after, -⟩
  · rw [same]
  · rw [after, found]
    rfl

/-- A scope on the list that is passed over. -/
theorem Spread.pass {s : ScopeId} (h : Spread t work t') (spent : t.Spent s) :
    Spread t (s :: work) t' where
  each x := by
    refine (h.each x).imp id fun ⟨scope, found, live, after, reached⟩ =>
      ⟨scope, found, live, after, ?_⟩
    exact reached.of_links (fun s hs => .listed (List.mem_cons_of_mem _ hs))
      fun s scope found c hc => ⟨scope, found, hc⟩
  listed x hx := by
    rcases List.mem_cons.mp hx with rfl | hx
    · exact h.spent spent
    · exact h.listed x hx
  onward := h.onward

theorem get?_cancelOne (t : Scopes) (s x : ScopeId) :
    (t.cancelOne s).get? x =
      if s = x then (t.get? x).map fun scope => { scope with cancelled := true, children := [] }
      else t.get? x :=
  Table.get?_modify t s x _

/-- A scope on the list that is cancelled, with its children next on the list. -/
theorem Spread.cancel {s : ScopeId} {scope : Scope} (found : t.get? s = some scope)
    (live : scope.cancelled = false) (h : Spread (t.cancelOne s) (scope.children ++ work) t') :
    Spread t (s :: work) t' := by
  have here : (t.cancelOne s).get? s = some { scope with cancelled := true, children := [] } := by
    rw [get?_cancelOne, if_pos rfl, found]
    rfl
  have there {x : ScopeId} (hx : s ≠ x) : (t.cancelOne s).get? x = t.get? x := by
    rw [get?_cancelOne, if_neg hx]
  have reached {x : ScopeId} (hx : Reached (t.cancelOne s) (scope.children ++ work) x) :
      Reached t (s :: work) x := by
    refine hx.of_links (fun x hx => ?_) fun x after hf c hc => ?_
    · rcases List.mem_append.mp hx with hx | hx
      · exact .child (.listed List.mem_cons_self) found hx
      · exact .listed (List.mem_cons_of_mem s hx)
    · by_cases hx : s = x
      · rw [← hx, here] at hf
        cases hf
        cases hc
      · exact ⟨after, there hx ▸ hf, hc⟩
  -- what was cancelled first stays as it is from then on
  have first : t'.get? s = some { scope with cancelled := true, children := [] } := by
    rcases h.each s with same | ⟨after, hs, uncancelled, -, -⟩
    · rw [same, here]
    · rw [here] at hs
      cases hs
      cases uncancelled
  refine ⟨fun x => ?_, fun x hx => ?_, fun x before hb changed c hc => ?_⟩
  · by_cases hx : s = x
    · subst hx
      exact Or.inr ⟨scope, found, live, first, .listed List.mem_cons_self⟩
    · rw [← there hx]
      exact (h.each x).imp id fun ⟨before, hf, uncancelled, after, hr⟩ =>
        ⟨before, hf, uncancelled, after, reached hr⟩
  · rcases List.mem_cons.mp hx with rfl | hx
    · intro after hs
      rw [first] at hs
      cases hs
      exact Or.inl rfl
    · exact h.listed x (List.mem_append_right _ hx)
  · by_cases hx : s = x
    · subst hx
      rw [found] at hb
      cases hb
      exact h.listed c (List.mem_append_left _ hc)
    · rw [← there hx] at hb changed
      exact h.onward x before hb changed c hc

/-- **Working off a list of scopes spreads the cancellation.** -/
theorem spread_cancelAll (t : Scopes) (work : List ScopeId) :
    Spread t work (t.cancelAll work) := by
  induction t, work using cancelAll.induct with
  | case1 t =>
    rw [cancelAll]
    exact ⟨fun _ => Or.inl rfl, by simp, fun _ _ _ changed => absurd rfl changed⟩
  | case2 t s rest missing ih =>
    rw [cancelAll]
    split
    · exact ih.pass fun scope found => by rw [missing] at found; cases found
    · rename_i found
      rw [missing] at found
      cases found
  | case3 t s rest scope found spent ih =>
    rw [cancelAll]
    split
    · rename_i missing
      rw [found] at missing
      cases missing
    · rename_i scope' found'
      rw [found] at found'
      cases found'
      rw [dif_pos spent]
      exact ih.pass fun scope'' found'' => by rw [found] at found''; cases found''; exact spent
  | case4 t s rest scope found spent ih =>
    rw [cancelAll]
    split
    · rename_i missing
      rw [found] at missing
      cases missing
    · rename_i scope' found'
      rw [found] at found'
      cases found'
      rw [dif_neg spent]
      exact .cancel found (by simpa using fun h => spent (Or.inl h)) ih

/-! ### Derivations -/

/-- Without children nothing else is reached. -/
theorem Reached.eq_of_childless {s x : ScopeId} (h : Reached t [s] x)
    (childless : ∀ scope, t.get? s = some scope → scope.children = []) : x = s := by
  induction h with
  | listed hs => exact List.mem_singleton.mp hs
  | child _ found hc ih =>
    rw [childless _ (ih ▸ found)] at hc
    cases hc

/-- A scope without children is cancelled alone. -/
theorem cancel_childless {s : ScopeId} {scope : Scope} (found : t.get? s = some scope)
    (live : scope.cancelled = false) (held : scope.dropped = false) (childless : scope.children = []) :
    t.cancel s = t.cancelOne s := by
  rw [cancel, cancelAll]
  split
  · rename_i missing
    rw [found] at missing
    cases missing
  · rename_i scope' found'
    rw [found] at found'
    cases found'
    rw [dif_neg (by simp [live, held]), childless]
    simp [cancelAll]

theorem get?_derive_none (t : Scopes) (x : ScopeId) :
    (t.derive none).1.get? x = if x = t.next then some {} else t.get? x :=
  Table.get?_add t {} x

/-- A scope derived from another is cancelled just if that one is, and becomes its last child. -/
theorem get?_derive {p : ScopeId} {scope : Scope} (found : t.get? p = some scope) (x : ScopeId) :
    (t.derive (some p)).1.get? x =
      if x = t.next then some { cancelled := scope.cancelled }
      else if x = p then
        some { scope with children := scope.children.filter (isHeld (t.add {})) ++ [t.next] }
      else t.get? x := by
  have hp : p ≠ t.next := Table.ne_next_of_get? found
  have grown (x : ScopeId) : (t.add {}).get? x = if x = t.next then some {} else t.get? x :=
    Table.get?_add t {} x
  have adopted (x : ScopeId) : ((t.add {}).modify p fun scope =>
      { scope with children := scope.children.filter (isHeld (t.add {})) ++ [t.next] }).get? x =
      if x = t.next then some {} else if x = p then
        some { scope with children := scope.children.filter (isHeld (t.add {})) ++ [t.next] }
      else t.get? x := by
    rw [Table.get?_modify, grown]
    by_cases hx : x = p
    · subst hx
      simp [hp, found]
    · simp [hx, Ne.symm hx]
  have cancelled : isCancelled (t.add {}) p = scope.cancelled := by
    rw [isCancelled, grown, if_neg hp, found]
    rfl
  simp only [derive, adopt, cancelled]
  split
  · rename_i h
    have alone := cancel_childless (adopted t.next ▸ if_pos rfl) rfl rfl rfl
    rw [alone, get?_cancelOne, adopted, h]
    by_cases hx : x = t.next
    · simp [hx]
    · simp [hx, Ne.symm hx]
  · rename_i h
    rw [adopted, show scope.cancelled = false by simpa using h]

/-- What came of a scope when another was derived. -/
structure Grown (t : Scopes) (parent : Option ScopeId) (x : ScopeId) (scope scope' : Scope) :
    Prop where
  cancelled : scope'.cancelled = scope.cancelled
  dropped : scope'.dropped = scope.dropped
  old : ∀ c ∈ scope'.children, c ∈ scope.children ∨ parent = some x ∧ c = t.next
  held : ∀ c ∈ scope.children, isHeld t c = true → c ∈ scope'.children
  new : parent = some x → t.next ∈ scope'.children

/-- What a derivation does to a table. -/
structure Derived (t : Scopes) (parent : Option ScopeId) (t' : Scopes) : Prop where
  born : ∃ child, t'.get? t.next = some child ∧ child.children = [] ∧ child.dropped = false ∧
    (child.cancelled = true ↔ ∃ p, parent = some p ∧ isCancelled t p = true)
  grown : ∀ x scope, t.get? x = some scope → ∃ scope', t'.get? x = some scope' ∧
    Grown t parent x scope scope'
  known : ∀ x, (t'.get? x).isSome → x = t.next ∨ (t.get? x).isSome

/-- A scope that was there before, found afterwards. -/
theorem Derived.exists_grown {parent : Option ScopeId} (h : Derived t parent t') {x : ScopeId}
    (hx : x ≠ t.next) {scope' : Scope} (found : t'.get? x = some scope') :
    ∃ scope, t.get? x = some scope ∧ Grown t parent x scope scope' := by
  rcases h.known x (by rw [found]; rfl) with new | known
  · exact absurd new hx
  · obtain ⟨scope, hs⟩ := Option.isSome_iff_exists.mp known
    obtain ⟨scope'', found', grown⟩ := h.grown x scope hs
    rw [found] at found'
    cases found'
    exact ⟨scope, hs, grown⟩

/-- **A derivation makes one scope**, cancelled just if its parent is, whose parent has it as a child
from then on. -/
theorem derived_derive {parent : Option ScopeId}
    (found : ∀ p, parent = some p → (t.get? p).isSome) : Derived t parent (t.derive parent).1 := by
  have old {x : ScopeId} {scope : Scope} (hx : t.get? x = some scope) : x ≠ t.next :=
    Table.ne_next_of_get? hx
  cases parent with
  | none =>
    have after := get?_derive_none t
    refine ⟨⟨{}, (after t.next).trans (if_pos rfl), rfl, rfl, by simp⟩, fun x scope hx => ?_,
      fun x hx => ?_⟩
    · refine ⟨scope, ((after x).trans (if_neg (old hx))).trans hx, rfl, rfl, fun c hc => Or.inl hc,
        fun c hc _ => hc, fun h => by cases h⟩
    · rw [after] at hx
      split at hx
      · exact Or.inl ‹_›
      · exact Or.inr hx
  | some p =>
    obtain ⟨parent, hp⟩ := Option.isSome_iff_exists.mp (found p rfl)
    have after := get?_derive hp
    have flag : isCancelled t p = parent.cancelled := by rw [isCancelled, hp]; rfl
    refine ⟨⟨_, (after t.next).trans (if_pos rfl), rfl, rfl, ?_⟩, fun x scope hx => ?_,
      fun x hx => ?_⟩
    · simp [flag]
    · have hx' := (after x).trans (if_neg (old hx))
      by_cases hxp : x = p
      · subst hxp
        rw [hp] at hx
        cases hx
        refine ⟨_, hx'.trans (if_pos rfl), rfl, rfl, fun c hc => ?_, fun c hc held => ?_, fun _ => ?_⟩
        · rcases List.mem_append.mp hc with hc | hc
          · exact Or.inl (List.mem_filter.mp hc).1
          · exact Or.inr ⟨rfl, List.mem_singleton.mp hc⟩
        · refine List.mem_append_left _ (List.mem_filter.mpr ⟨hc, ?_⟩)
          rw [isHeld, Table.get?_add]
          split
          · rfl
          · exact held
        · exact List.mem_append_right _ (List.mem_singleton.mpr rfl)
      · rw [if_neg hxp, hx] at hx'
        exact ⟨scope, hx', rfl, rfl, fun c hc => Or.inl hc, fun c hc _ => hc,
          fun h => absurd (Option.some.inj h).symm hxp⟩
    · rw [after] at hx
      split at hx
      · exact Or.inl ‹_›
      · split at hx
        · rename_i hxp
          exact Or.inr (hxp ▸ found p rfl)
        · exact Or.inr hx

theorem get?_drop (t : Scopes) (s x : ScopeId) :
    (t.drop s).get? x =
      if s = x then (t.get? x).map fun scope => { scope with dropped := true } else t.get? x :=
  Table.get?_modify t s x _

/-- Flags and children are as they were. -/
theorem exists_of_get?_drop {s x : ScopeId} {scope : Scope} (found : (t.drop s).get? x = some scope) :
    ∃ before, t.get? x = some before ∧ before.cancelled = scope.cancelled ∧
      before.children = scope.children := by
  rw [get?_drop] at found
  split at found
  · obtain ⟨before, hb, rfl⟩ := Option.map_eq_some_iff.mp found
    exact ⟨before, hb, rfl, rfl⟩
  · exact ⟨scope, found, rfl, rfl⟩

theorem exists_get?_drop (s : ScopeId) {x : ScopeId} {scope : Scope} (found : t.get? x = some scope) :
    ∃ after, (t.drop s).get? x = some after ∧ after.cancelled = scope.cancelled ∧
      after.children = scope.children := by
  rw [get?_drop, found]
  split
  · exact ⟨_, rfl, rfl, rfl⟩
  · exact ⟨scope, rfl, rfl, rfl⟩

/-- Whoever lets go of a scope cancels none. -/
@[simp] theorem isCancelled_drop (t : Scopes) (s x : ScopeId) :
    isCancelled (t.drop s) x = isCancelled t x := by
  rw [isCancelled, isCancelled, get?_drop]
  split
  · rw [Option.all_map]
  · rfl

/-- A derivation cancels no scope that was there. -/
theorem isCancelled_of_derive {parent : Option ScopeId} {x : ScopeId}
    (h : isCancelled (t.derive parent).1 x = true) : isCancelled t x = true := by
  by_cases hx : x = t.next
  · rw [isCancelled, hx, Table.get?_next]
    rfl
  have grown : (t.add {}).get? x = t.get? x := by rw [Table.get?_add, if_neg hx]
  cases parent with
  | none => rwa [isCancelled, get?_derive_none, if_neg hx] at h
  | some p =>
    cases found : t.get? p with
    | some scope =>
      rw [isCancelled, get?_derive found, if_neg hx] at h
      split at h
      · rename_i hp
        rw [isCancelled, hp, found]
        exact h
      · exact h
    | none =>
      have hp : x ≠ p ∨ t.get? x = none :=
        (Decidable.em (x = p)).symm.imp id fun (hx : x = p) => by rw [hx, found]
      have adopted (f : Scope → Scope) : ((t.add {}).modify p f).get? x = t.get? x := by
        rw [Table.get?_modify, grown]
        rcases hp with hp | hp
        · rw [if_neg (Ne.symm hp)]
        · rw [hp]
          split <;> rfl
      simp only [derive, adopt] at h
      split at h
      · rename_i cancelled
        have childless (f : Scope → Scope) (scope : Scope)
            (hs : ((t.add {}).modify p f).get? t.next = some scope) : scope.children = [] := by
          have hp : p ≠ t.next := by
            rintro rfl
            simp [isCancelled, Table.get?_add] at cancelled
          rw [Table.get?_modify, if_neg hp, Table.get?_add, if_pos rfl] at hs
          cases hs
          rfl
        rcases (spread_cancelAll _ [t.next]).each x with same | ⟨-, -, -, -, reached⟩
        · rwa [isCancelled, cancel, same, adopted] at h
        · exact absurd (reached.eq_of_childless (childless _)) hx
      · rwa [isCancelled, adopted] at h

end EventMesh.Scopes
