import EventMesh.Proofs.Wait.Cancellation
import EventMesh.Proofs.Wait.Poll

/-!
# Contexts end as their derivation says

The flag of a scope is pushed down to its children when it is cancelled, and handed on to a scope that
is derived later. A `History` is what a log tells of scopes, and a `Family` a table of scopes that
follows it: a scope is cancelled just if it, or one that it was derived from, was. Main statements:
every stir that treats contexts as a program can keeps the family (`Stir.family`), and
`context_ends_as_derived` reads off why a context has ended from its `Lineage`.
-/

namespace EventMesh

open Time

/-! ### Lineages -/

/-- How a context was derived, step by step. -/
inductive Lineage where
  | background
  /-- Derived with a scope of its own. -/
  | cancellable (parent : Lineage) (scope : ScopeId)
  | bounded (parent : Lineage) (deadline : Instant)
  /-- Derived at a reading of the clock, with a span from then on. -/
  | timed (parent : Lineage) (reading : Instant) (span : Duration)

namespace Lineage

/-- The context that is derived so. -/
def context : Lineage → Context
  | .background => .background
  | .cancellable parent scope => { parent.context with scope := some scope }
  | .bounded parent deadline => parent.context.withDeadline deadline
  | .timed parent reading span => parent.context.withTimeout reading span

/-- Its own scope and those it was derived from, the latest first. -/
def scopes : Lineage → List ScopeId
  | .background => []
  | .cancellable parent scope => scope :: parent.scopes
  | .bounded parent _ | .timed parent _ _ => parent.scopes

/-- All deadlines on the way that can be represented. -/
def deadlines : Lineage → List Instant
  | .background => []
  | .cancellable parent _ => parent.deadlines
  | .bounded parent deadline => deadline :: parent.deadlines
  | .timed parent reading span => (reading.add? span).toList ++ parent.deadlines

theorem scope_context (l : Lineage) : l.context.scope = l.scopes.head? := by
  induction l with
  | background => rfl
  | cancellable parent scope => rfl
  | bounded parent deadline ih => exact ih
  | timed parent reading span ih =>
    rw [context, Context.withTimeout]
    split <;> exact ih

/-- A further deadline counts if it comes first. -/
theorem deadline_withDeadline {c : Context} {deadlines : List Instant}
    (h : c.deadline.map Instant.nanos = (deadlines.map Instant.nanos).min?) (d : Instant) :
    (c.withDeadline d).deadline.map Instant.nanos =
      ((d :: deadlines).map Instant.nanos).min? := by
  obtain ⟨scope, deadline⟩ := c
  rw [List.map_cons, List.min?_cons, ← h]
  cases deadline with
  | none => rfl
  | some e =>
    simp only [Context.withDeadline, Option.elim_some, Option.map_some, Instant.earlier]
    by_cases le : e ≤ d
    · rw [if_pos le, Nat.min_eq_right le]
    · rw [if_neg le, Nat.min_eq_left (Nat.le_of_not_le le)]

/-- The deadline of a context is the earliest of those on the way. -/
theorem deadline_context (l : Lineage) :
    l.context.deadline.map Instant.nanos = (l.deadlines.map Instant.nanos).min? := by
  induction l with
  | background => rfl
  | cancellable parent scope ih => exact ih
  | bounded parent deadline ih => exact deadline_withDeadline ih deadline
  | timed parent reading span ih =>
    rw [context, Context.withTimeout, deadlines]
    cases reading.add? span with
    | none => exact ih
    | some deadline => exact deadline_withDeadline ih deadline

end Lineage

/-! ### Histories -/

/-- What a log tells of scopes. -/
structure History where
  /-- The scope was derived from the context. -/
  derived : Context → ScopeId → Prop
  cancelled : ScopeId → Prop
  dropped : ScopeId → Prop

namespace History

/-- The second scope was derived from a context of the first. -/
def Child (H : History) (p s : ScopeId) : Prop := ∃ ctx, H.derived ctx s ∧ ctx.scope = some p

/-- The first scope is the second, or the second was derived from it in any number of steps. -/
abbrev Above (H : History) : ScopeId → ScopeId → Prop := Relation.ReflTransGen H.Child

/-- The scope was made, and somebody holds it. -/
def Held (H : History) (s : ScopeId) : Prop := (∃ ctx, H.derived ctx s) ∧ ¬H.dropped s

/-- The history with one more derivation. -/
def derive (H : History) (ctx : Context) (s : ScopeId) : History :=
  { H with derived := fun c x => H.derived c x ∨ c = ctx ∧ x = s }

/-- The history with one more cancellation. -/
def cancel (H : History) (s : ScopeId) : History :=
  { H with cancelled := fun x => H.cancelled x ∨ x = s }

/-- The history with one more scope let go of. -/
def drop (H : History) (s : ScopeId) : History := { H with dropped := fun x => H.dropped x ∨ x = s }

theorem child_derive {H : History} {ctx : Context} {s p x : ScopeId} :
    (H.derive ctx s).Child p x ↔ H.Child p x ∨ x = s ∧ ctx.scope = some p := by
  constructor
  · rintro ⟨c, hd | ⟨rfl, hx⟩, hp⟩
    · exact Or.inl ⟨c, hd, hp⟩
    · exact Or.inr ⟨hx, hp⟩
  · rintro (⟨c, hd, hp⟩ | ⟨hx, hp⟩)
    · exact ⟨c, Or.inl hd, hp⟩
    · exact ⟨ctx, Or.inr ⟨rfl, hx⟩, hp⟩

theorem Above.derive {H : History} {a x : ScopeId} (h : H.Above a x) (ctx : Context) (s : ScopeId) :
    (H.derive ctx s).Above a x :=
  Relation.ReflTransGen.mono (fun _ _ child => child_derive.mpr (Or.inl child)) _ _ h

theorem held_derive {H : History} {ctx : Context} {s x : ScopeId} (other : x ≠ s) :
    (H.derive ctx s).Held x ↔ H.Held x := by
  refine and_congr_left fun _ => exists_congr fun c => ⟨?_, Or.inl⟩
  rintro (hd | ⟨-, same⟩)
  · exact hd
  · exact absurd same other

theorem held_drop {H : History} {s x : ScopeId} : (H.drop s).Held x ↔ H.Held x ∧ x ≠ s := by
  constructor
  · rintro ⟨made, kept⟩
    exact ⟨⟨made, fun hd => kept (Or.inl hd)⟩, fun same => kept (Or.inr same)⟩
  · rintro ⟨⟨made, kept⟩, other⟩
    exact ⟨made, fun hd => hd.elim kept other⟩

/-- Whether all scopes of a lineage were derived as it says. -/
def Made (H : History) : Lineage → Prop
  | .background => True
  | .cancellable parent scope => H.Made parent ∧ H.derived parent.context scope
  | .bounded parent _ | .timed parent _ _ => H.Made parent

theorem Made.mono {H H' : History} {l : Lineage} (h : H.Made l)
    (more : ∀ ctx s, H.derived ctx s → H'.derived ctx s) : H'.Made l := by
  induction l with
  | background => trivial
  | cancellable parent scope ih => exact ⟨ih h.1, more _ _ h.2⟩
  | bounded parent deadline ih => exact ih h
  | timed parent reading span ih => exact ih h

end History

namespace World

variable {β : Type}

def history (log : List Mark) : History where
  derived ctx s := .derived ctx s ∈ log
  cancelled s := .cancelled s ∈ log
  dropped s := .dropped s ∈ log

/-- What a program can do with scopes after a history: it derives from contexts that it holds, cancels
through handles that it holds, and lets go of what nothing that is held was derived from. -/
def Tends (H : History) : Mark → Prop
  | .derived ctx _ => ∀ p, ctx.scope = some p → H.Held p
  | .cancelled s => H.Held s
  | .dropped s => H.Held s ∧ ∀ c, H.Child s c → ¬H.Held c
  | .set .. | .stored .. | .passed | .woke => True

/-- A log of nothing but what a program can do with scopes. -/
def Tended (log : List Mark) : Prop :=
  ∀ before mark after, log = before ++ mark :: after → Tends (history before) mark

theorem Tended.nil : Tended [] := by
  intro before mark after h
  cases before <;> cases h

theorem Tended.of_append {log marks : List Mark} (h : Tended (log ++ marks)) : Tended log := by
  rintro before mark after rfl
  exact h before mark (after ++ marks) (by simp)

theorem Tended.tends {log : List Mark} {mark : Mark} (h : Tended (log ++ [mark])) :
    Tends (history log) mark :=
  h log mark [] rfl

theorem Tended.snoc {log : List Mark} (h : Tended log) {mark : Mark}
    (tends : Tends (history log) mark) : Tended (log ++ [mark]) := by
  intro before last after split
  rcases List.eq_nil_or_concat after with rfl | ⟨after, other, rfl⟩
  · obtain ⟨rfl, same⟩ := List.append_inj' split rfl
    cases same
    exact tends
  · have split : log ++ [mark] = (before ++ last :: after) ++ [other] := by simpa using split
    exact h before last after (List.append_inj' split rfl).1

/-- A table of scopes that follows a history. -/
structure Family (H : History) (t : Scopes) : Prop where
  known : ∀ s, (t.get? s).isSome ↔ ∃ ctx, H.derived ctx s
  /-- A scope is derived once. -/
  unique : ∀ {s ctx ctx'}, H.derived ctx s → H.derived ctx' s → ctx = ctx'
  dropped : ∀ s, H.dropped s ↔ ∃ scope, t.get? s = some scope ∧ scope.dropped = true
  /-- What is held keeps what it was derived from. -/
  held : ∀ {p s}, H.Child p s → H.Held s → H.Held p
  /-- A scope is cancelled for a reason. -/
  reason : ∀ {s scope}, t.get? s = some scope → scope.cancelled = true →
    ∃ a, H.Above a s ∧ H.cancelled a
  marked : ∀ {s}, H.cancelled s → ∃ scope, t.get? s = some scope ∧ scope.cancelled = true
  /-- What is held and not cancelled is a child of a scope that is not cancelled either. -/
  link : ∀ {p s scope}, H.Child p s → H.Held s → t.get? s = some scope → scope.cancelled = false →
    ∃ parent, t.get? p = some parent ∧ parent.cancelled = false ∧ s ∈ parent.children
  child : ∀ {p c parent}, t.get? p = some parent → c ∈ parent.children → H.Child p c

namespace Family

variable {H : History} {t : Scopes}

/-- What is held below a cancelled scope is cancelled. -/
theorem cancelled_of_above (h : Family H t) {a s : ScopeId} (above : H.Above a s) (held : H.Held s)
    (cancelled : H.cancelled a) : ∃ scope, t.get? s = some scope ∧ scope.cancelled = true := by
  induction above with
  | refl => exact h.marked cancelled
  | @tail p s _ child ih =>
    obtain ⟨parent, hp, hc⟩ := ih (h.held child held)
    obtain ⟨scope, hs⟩ := Option.isSome_iff_exists.mp ((h.known s).mpr held.1)
    refine ⟨scope, hs, ?_⟩
    cases live : scope.cancelled with
    | true => rfl
    | false =>
      obtain ⟨parent', hp', live', -⟩ := h.link child held hs live
      rw [hp] at hp'
      cases hp'
      rw [hc] at live'
      cases live'

/-- **A scope that is held is cancelled just if it, or one it was derived from, was.** -/
theorem isCancelled_iff (h : Family H t) {s : ScopeId} (held : H.Held s) :
    Scopes.isCancelled t s = true ↔ ∃ a, H.Above a s ∧ H.cancelled a := by
  obtain ⟨scope, hs⟩ := Option.isSome_iff_exists.mp ((h.known s).mpr held.1)
  have flag : Scopes.isCancelled t s = scope.cancelled := by rw [Scopes.isCancelled, hs]; rfl
  rw [flag]
  constructor
  · exact h.reason hs
  · rintro ⟨a, above, cancelled⟩
    obtain ⟨scope', hs', hc⟩ := h.cancelled_of_above above held cancelled
    rw [hs] at hs'
    cases hs'
    exact hc

/-- What is held is not dropped. -/
theorem isHeld (h : Family H t) {s : ScopeId} (held : H.Held s) : Scopes.isHeld t s = true := by
  obtain ⟨scope, hs⟩ := Option.isSome_iff_exists.mp ((h.known s).mpr held.1)
  rw [Scopes.isHeld, hs]
  cases hd : scope.dropped with
  | false => simp [hd]
  | true => exact absurd ((h.dropped s).mpr ⟨scope, hs, hd⟩) held.2

/-! ### A cancellation -/

/-- What a cancellation reaches was derived from the scope that is cancelled. -/
theorem above_of_reached (h : Family H t) {s x : ScopeId} (reached : Scopes.Reached t [s] x) :
    H.Above s x := by
  induction reached with
  | listed hx => rw [List.mem_singleton.mp hx]
  | child _ found hc ih => exact ih.tail (h.child found hc)

/-- What it spends is cancelled, if somebody holds it. -/
theorem cancelled_of_spent (h : Family H t) {t' : Scopes} {work : List ScopeId}
    (spread : Scopes.Spread t work t') {x : ScopeId} (spent : t'.Spent x) (held : H.Held x) :
    ∃ scope, t'.get? x = some scope ∧ scope.cancelled = true := by
  have same := spread.map_dropped x
  obtain ⟨before, hb⟩ := Option.isSome_iff_exists.mp ((h.known x).mpr held.1)
  rw [hb] at same
  obtain ⟨after, ha, hd⟩ := Option.map_eq_some_iff.mp same
  refine ⟨after, ha, (spent after ha).resolve_right fun gone => ?_⟩
  exact held.2 ((h.dropped x).mpr ⟨before, hb, hd.symm.trans gone⟩)

/-- Whoever is still live hangs on a live parent: one that was cancelled took its children along. -/
theorem link_cancel (h : Family H t) {t' : Scopes} {work : List ScopeId}
    (spread : Scopes.Spread t work t') {p c : ScopeId} {scope : Scope} (child : H.Child p c)
    (held : H.Held c) (found : t'.get? c = some scope) (live : scope.cancelled = false) :
    ∃ parent, t'.get? p = some parent ∧ parent.cancelled = false ∧ c ∈ parent.children := by
  obtain ⟨parent, hp, plive, linked⟩ := h.link child held (spread.get?_of_live found live) live
  refine ⟨parent, ?_, plive, linked⟩
  refine Classical.byContradiction fun changed => ?_
  obtain ⟨scope', found', cancelled⟩ := h.cancelled_of_spent spread
    (spread.onward p parent hp (fun same => changed (same.trans hp)) c linked) held
  rw [found] at found'
  cases found'
  rw [live] at cancelled
  cases cancelled

/-- A cancellation through a handle that is held. -/
theorem cancel (h : Family H t) {s : ScopeId} (held : H.Held s) :
    Family (H.cancel s) (t.cancel s) := by
  have spread : Scopes.Spread t [s] (t.cancel s) := Scopes.spread_cancelAll t [s]
  have dropped (x : ScopeId) := spread.map_dropped x
  refine ⟨fun x => ?_, h.unique, fun x => ?_, h.held, fun {x scope} found cancelled => ?_,
    fun {x} hx => ?_, h.link_cancel spread, fun {p c parent} found hc => ?_⟩
  · refine Iff.trans ?_ (h.known x)
    rw [← Option.isSome_map, dropped, Option.isSome_map]
  · refine (h.dropped x).trans ?_
    rw [← Option.map_eq_some_iff, ← dropped, Option.map_eq_some_iff]
  · rcases spread.each x with same | ⟨-, -, -, -, reached⟩
    · obtain ⟨a, above, ha⟩ := h.reason (same ▸ found) cancelled
      exact ⟨a, above, Or.inl ha⟩
    · exact ⟨s, h.above_of_reached reached, Or.inr rfl⟩
  · rcases hx with hx | rfl
    · obtain ⟨scope, found, cancelled⟩ := h.marked hx
      exact spread.cancelled found cancelled
    · exact h.cancelled_of_spent spread (spread.listed _ List.mem_cons_self) held
  · rcases spread.each p with same | ⟨before, -, -, after, -⟩
    · exact h.child (same ▸ found) hc
    · rw [after] at found
      cases found
      cases hc

/-! ### A drop -/

theorem dropped_drop (h : Family H t) {s : ScopeId} (held : H.Held s) (x : ScopeId) :
    (H.drop s).dropped x ↔ ∃ scope, (t.drop s).get? x = some scope ∧ scope.dropped = true := by
  change H.dropped x ∨ x = s ↔ _
  rw [Scopes.get?_drop]
  split
  · rename_i same
    subst same
    obtain ⟨scope, found⟩ := Option.isSome_iff_exists.mp ((h.known s).mpr held.1)
    simp [found]
  · rename_i other
    rw [← h.dropped]
    exact ⟨fun hd => hd.resolve_right (Ne.symm other), Or.inl⟩

/-- The end of a scope that nothing held was derived from. -/
theorem drop (h : Family H t) {s : ScopeId} (held : H.Held s)
    (last : ∀ c, H.Child s c → ¬H.Held c) :
    Family (H.drop s) (t.drop s) := by
  refine ⟨fun x => ?_, h.unique, h.dropped_drop held, fun {p c} child hc => ?_,
    fun {x scope} found hc => ?_, fun {x} hx => ?_, fun {p c scope} child hc found live => ?_,
    fun {p c parent} found hc => ?_⟩
  · refine Iff.trans ?_ (h.known x)
    rw [Scopes.get?_drop]
    split
    · rw [Option.isSome_map]
    · exact Iff.rfl
  · have before := (History.held_drop.mp hc).1
    refine History.held_drop.mpr ⟨h.held child before, ?_⟩
    rintro rfl
    exact last c child before
  · obtain ⟨before, hb, same, -⟩ := Scopes.exists_of_get?_drop found
    exact h.reason hb (same.trans hc)
  · obtain ⟨scope, found, hc⟩ := h.marked hx
    obtain ⟨after, ha, same, -⟩ := Scopes.exists_get?_drop s found
    exact ⟨after, ha, same.trans hc⟩
  · obtain ⟨before, hb, same, -⟩ := Scopes.exists_of_get?_drop found
    obtain ⟨parent, hp, plive, linked⟩ :=
      h.link child (History.held_drop.mp hc).1 hb (same.trans live)
    obtain ⟨parent', hp', same', children⟩ := Scopes.exists_get?_drop s hp
    exact ⟨parent', hp', same'.trans plive, children ▸ linked⟩
  · obtain ⟨before, hb, -, children⟩ := Scopes.exists_of_get?_drop found
    exact h.child hb (children ▸ hc)

/-! ### A derivation -/

section

variable {ctx : Context} {t' : Scopes}

/-- The scope that is made next was not derived yet. -/
theorem not_derived_next (h : Family H t) (c : Context) : ¬H.derived c t.next := by
  intro hd
  have known := (h.known t.next).mpr ⟨c, hd⟩
  rw [Table.get?_next] at known
  cases known

theorem ne_next_of_child (h : Family H t) {p s : ScopeId} (child : H.Child p s) : s ≠ t.next := by
  obtain ⟨c, hd, -⟩ := child
  rintro rfl
  exact h.not_derived_next c hd

theorem known_derive (h : Family H t) (made : Scopes.Derived t ctx.scope t') (x : ScopeId) :
    (t'.get? x).isSome ↔ ∃ c, (H.derive ctx t.next).derived c x := by
  constructor
  · intro hx
    rcases made.known x hx with rfl | known
    · exact ⟨ctx, Or.inr ⟨rfl, rfl⟩⟩
    · exact ((h.known x).mp known).imp fun _ => Or.inl
  · rintro ⟨c, hd | ⟨-, rfl⟩⟩
    · obtain ⟨scope, hs⟩ := Option.isSome_iff_exists.mp ((h.known x).mpr ⟨c, hd⟩)
      obtain ⟨scope', found, -⟩ := made.grown x scope hs
      rw [found]
      rfl
    · obtain ⟨child, found, -⟩ := made.born
      rw [found]
      rfl

theorem unique_derive (h : Family H t) {s : ScopeId} {c c' : Context}
    (hd : (H.derive ctx t.next).derived c s) (hd' : (H.derive ctx t.next).derived c' s) : c = c' := by
  rcases hd with hd | ⟨rfl, rfl⟩ <;> rcases hd' with hd' | ⟨rfl, hs⟩
  · exact h.unique hd hd'
  · exact absurd (hs ▸ hd) (h.not_derived_next c)
  · exact absurd hd' (h.not_derived_next c')
  · rfl

theorem dropped_derive (h : Family H t) (made : Scopes.Derived t ctx.scope t') (x : ScopeId) :
    H.dropped x ↔ ∃ scope, t'.get? x = some scope ∧ scope.dropped = true := by
  refine (h.dropped x).trans ⟨?_, ?_⟩
  · rintro ⟨scope, hs, hd⟩
    obtain ⟨scope', found, grown⟩ := made.grown x scope hs
    exact ⟨scope', found, grown.dropped.trans hd⟩
  · rintro ⟨scope', found, hd⟩
    by_cases hx : x = t.next
    · obtain ⟨child, born, -, kept, -⟩ := made.born
      rw [hx, born] at found
      cases found
      rw [kept] at hd
      cases hd
    · obtain ⟨scope, hs, grown⟩ := made.exists_grown hx found
      exact ⟨scope, hs, grown.dropped.symm.trans hd⟩

/-- The new scope is cancelled because its parent is, every other for the reason that it had. -/
theorem reason_derive (h : Family H t) (held : ∀ p, ctx.scope = some p → H.Held p)
    (made : Scopes.Derived t ctx.scope t') {x : ScopeId} {scope : Scope}
    (found : t'.get? x = some scope) (cancelled : scope.cancelled = true) :
    ∃ a, (H.derive ctx t.next).Above a x ∧ H.cancelled a := by
  by_cases hx : x = t.next
  · subst hx
    obtain ⟨child, born, -, -, flag⟩ := made.born
    rw [born] at found
    cases found
    obtain ⟨p, hp, hpc⟩ := flag.mp cancelled
    obtain ⟨a, above, ha⟩ := (h.isCancelled_iff (held p hp)).mp hpc
    exact ⟨a, (above.derive ctx _).tail (History.child_derive.mpr (Or.inr ⟨rfl, hp⟩)), ha⟩
  · obtain ⟨before, hs, grown⟩ := made.exists_grown hx found
    obtain ⟨a, above, ha⟩ := h.reason hs (grown.cancelled.symm.trans cancelled)
    exact ⟨a, above.derive ctx _, ha⟩

/-- The new scope hangs on its parent, which is live if it is; every other hangs where it did. -/
theorem link_derive (h : Family H t) (held : ∀ p, ctx.scope = some p → H.Held p)
    (made : Scopes.Derived t ctx.scope t') {p c : ScopeId} {scope : Scope}
    (child : (H.derive ctx t.next).Child p c) (hc : (H.derive ctx t.next).Held c)
    (found : t'.get? c = some scope) (live : scope.cancelled = false) :
    ∃ parent, t'.get? p = some parent ∧ parent.cancelled = false ∧ c ∈ parent.children := by
  rcases History.child_derive.mp child with child | ⟨rfl, hp⟩
  · have old := h.ne_next_of_child child
    have hc := (History.held_derive old).mp hc
    obtain ⟨before, hb, grown⟩ := made.exists_grown old found
    obtain ⟨parent, hp, plive, linked⟩ := h.link child hc hb (grown.cancelled.symm.trans live)
    obtain ⟨parent', hp', pgrown⟩ := made.grown p parent hp
    exact ⟨parent', hp', pgrown.cancelled.trans plive, pgrown.held c linked (h.isHeld hc)⟩
  · obtain ⟨born, hborn, -, -, flag⟩ := made.born
    rw [found] at hborn
    cases hborn
    obtain ⟨parent, hparent⟩ := Option.isSome_iff_exists.mp ((h.known p).mpr (held p hp).1)
    obtain ⟨parent', hp', pgrown⟩ := made.grown p parent hparent
    refine ⟨parent', hp', ?_, pgrown.new hp⟩
    rw [pgrown.cancelled, ← Bool.not_eq_true]
    intro hpc
    have cancelled := flag.mpr ⟨p, hp, by rw [Scopes.isCancelled, hparent]; exact hpc⟩
    rw [live] at cancelled
    cases cancelled

theorem child_derive (h : Family H t) (made : Scopes.Derived t ctx.scope t') {p c : ScopeId}
    {parent : Scope} (found : t'.get? p = some parent) (hc : c ∈ parent.children) :
    (H.derive ctx t.next).Child p c := by
  by_cases hp : p = t.next
  · obtain ⟨child, born, childless, -⟩ := made.born
    rw [hp, born] at found
    cases found
    rw [childless] at hc
    cases hc
  · obtain ⟨before, hb, grown⟩ := made.exists_grown hp found
    rcases grown.old c hc with hc | ⟨hp, rfl⟩
    · exact History.child_derive.mpr (Or.inl (h.child hb hc))
    · exact History.child_derive.mpr (Or.inr ⟨rfl, hp⟩)

/-- A derivation from a context that is held, with the scope that it makes. -/
theorem derive (h : Family H t) (held : ∀ p, ctx.scope = some p → H.Held p) :
    Family (H.derive ctx t.next) (t.derive ctx.scope).1 := by
  have made : Scopes.Derived t ctx.scope (t.derive ctx.scope).1 :=
    Scopes.derived_derive fun p hp => (h.known p).mpr (held p hp).1
  refine ⟨h.known_derive made, h.unique_derive, h.dropped_derive made, fun {p s} child hs => ?_,
    h.reason_derive held made, fun {x} hx => ?_, h.link_derive held made, h.child_derive made⟩
  · have up : H.Held p := by
      rcases History.child_derive.mp child with child | ⟨-, hp⟩
      · exact h.held child ((History.held_derive (h.ne_next_of_child child)).mp hs)
      · exact held p hp
    exact ⟨up.1.imp fun _ => Or.inl, up.2⟩
  · obtain ⟨scope, hs, hc⟩ := h.marked hx
    obtain ⟨scope', found, grown⟩ := made.grown x scope hs
    exact ⟨scope', found, grown.cancelled.trans hc⟩

end

end Family

/-! ### Stirs -/

theorem history_derived (log : List Mark) (ctx : Context) (s : ScopeId) :
    history (log ++ [.derived ctx s]) = (history log).derive ctx s := by
  simp [history, History.derive]

theorem history_cancelled (log : List Mark) (s : ScopeId) :
    history (log ++ [.cancelled s]) = (history log).cancel s := by
  simp [history, History.cancel]

theorem history_dropped (log : List Mark) (s : ScopeId) :
    history (log ++ [.dropped s]) = (history log).drop s := by
  simp [history, History.drop]

/-- **Every stir keeps the family of scopes**, as long as contexts are treated as a program can. -/
theorem Stir.family {w w' : World β} {log marks : List Mark} (h : Stir w marks w')
    (tended : Tended (log ++ marks)) (family : Family (history log) w.scopes) :
    Family (history (log ++ marks)) w'.scopes := by
  have same {marks : List Mark} (untold : history (log ++ marks) = history log) :
      Family (history (log ++ marks)) w.scopes := by rwa [untold]
  rcases h.cases with ⟨t, rfl, rfl⟩ | change
  · rw [(spares_stepTask w t).scopes]
    exact same (by simp)
  show Family _ w'.waits.scopes
  generalize w'.waits = side at change ⊢
  cases change with
  | derive ctx =>
    rw [history_derived]
    exact family.derive tended.tends
  | cancel s =>
    rw [history_cancelled]
    exact family.cancel tended.tends
  | drop s =>
    rw [history_dropped]
    exact family.drop tended.tends.1 tended.tends.2
  | nothing | woke | addWaiter | answer | addScene | refuse | write | pass | spawn | doom =>
    exact same (by simp [history])

theorem Stirs.family {wall : Wall} {log : List Mark} {w : World β}
    (h : Stirs (startingAt wall) log w) (tended : Tended log) : Family (history log) w.scopes := by
  induction h with
  | refl =>
    have nothing (s : ScopeId) : (startingAt wall : World β).scopes.get? s = none :=
      Table.get?_empty s
    refine ⟨fun s => ?_, fun hd => (by cases hd), fun s => ?_, fun hps => ?_, fun found => ?_,
      fun hc => (by cases hc), fun hps => ?_, fun found => ?_⟩
    · simp [nothing, history]
    · simp [nothing, history]
    · obtain ⟨c, hd, -⟩ := hps
      cases hd
    · rw [nothing] at found
      cases found
    · obtain ⟨c, hd, -⟩ := hps
      cases hd
    · rw [nothing] at found
      cases found
  | tail _ s ih => exact s.family tended (ih tended.of_append)

/-- The clock never goes back. -/
theorem Stir.now_le {w w' : World β} {marks : List Mark} (h : Stir w marks w') : w.now ≤ w'.now := by
  rcases h.cases with ⟨t, -, rfl⟩ | change
  · exact Nat.le_of_eq (by rw [(spares_stepTask w t).now])
  show w.now ≤ w'.waits.now
  generalize w'.waits = side at change ⊢
  cases change with
  | pass nanos => exact Clock.mono_le_advance _ _
  | nothing | woke | addWaiter | answer | addScene | refuse | write | derive | cancel | drop | spawn
  | doom => exact Nat.le_refl _

theorem Stirs.now_le {w w' : World β} {log : List Mark} (h : Stirs w log w') : w.now ≤ w'.now := by
  induction h with
  | refl => exact Nat.le_refl _
  | tail _ s ih => exact Nat.le_trans ih s.now_le

/-! ### The end of a context -/

/-- The scopes of a lineage are its own scope and those above it. -/
theorem Family.mem_scopes_iff {H : History} {t : Scopes} (h : Family H t) {l : Lineage}
    (made : H.Made l) (a : ScopeId) :
    a ∈ l.scopes ↔ ∃ s, l.context.scope = some s ∧ H.Above a s := by
  rw [Lineage.scope_context]
  induction l with
  | background => simp [Lineage.scopes]
  | cancellable parent scope ih =>
    have parents (p : ScopeId) : H.Child p scope ↔ parent.scopes.head? = some p := by
      rw [← Lineage.scope_context]
      constructor
      · rintro ⟨ctx, hd, hp⟩
        rwa [h.unique hd made.2] at hp
      · exact fun hp => ⟨parent.context, made.2, hp⟩
    rw [Lineage.scopes, List.mem_cons, ih made.1, List.head?_cons]
    constructor
    · rintro (rfl | ⟨p, hp, above⟩)
      · exact ⟨a, rfl, .refl⟩
      · exact ⟨scope, rfl, above.tail ((parents p).mpr hp)⟩
    · rintro ⟨s, hs, above⟩
      cases hs
      rcases Relation.ReflTransGen.cases_tail_iff _ _ _ |>.mp above with rfl | ⟨p, above, child⟩
      · exact Or.inl rfl
      · exact Or.inr ⟨p, (parents p).mp child, above⟩
  | bounded parent deadline ih => exact ih made
  | timed parent reading span ih => exact ih made

/-- Why a context has ended, from its lineage. -/
structure EndsAs (w : World β) (log : List Mark) (l : Lineage) : Prop where
  cancelled : w.err? l.context = some .cancelled ↔ ∃ s ∈ l.scopes, .cancelled s ∈ log
  deadlineExceeded : w.err? l.context = some .deadlineExceeded ↔
    (∀ s ∈ l.scopes, .cancelled s ∉ log) ∧
      ∃ d, (l.deadlines.map Instant.nanos).min? = some d ∧ d ≤ w.now.nanos
  live : w.err? l.context = none ↔ (∀ s ∈ l.scopes, .cancelled s ∉ log) ∧
    ∀ d, (l.deadlines.map Instant.nanos).min? = some d → w.now.nanos < d

/-- A context is cancelled, past its deadline, or live. -/
theorem err?_cases (w : World β) (ctx : Context) :
    w.err? ctx = some .cancelled ∨ w.err? ctx = some .deadlineExceeded ∨ w.err? ctx = none := by
  unfold err? Context.err?
  split
  · exact Or.inl rfl
  · split
    · exact Or.inr (Or.inl rfl)
    · exact Or.inr (Or.inr rfl)

/-- A context ends in the same way at the same time if the same of its scopes were cancelled. -/
theorem EndsAs.err?_eq {w w' : World β} {log log' : List Mark} {l : Lineage} (h : w.EndsAs log l)
    (h' : w'.EndsAs log' l) (now : w'.now = w.now)
    (marks : ∀ s ∈ l.scopes, .cancelled s ∈ log' ↔ .cancelled s ∈ log) :
    w'.err? l.context = w.err? l.context := by
  have some_ : (∃ s ∈ l.scopes, .cancelled s ∈ log') ↔ ∃ s ∈ l.scopes, .cancelled s ∈ log :=
    exists_congr fun s => and_congr_right (marks s)
  have none_ : (∀ s ∈ l.scopes, .cancelled s ∉ log') ↔ ∀ s ∈ l.scopes, .cancelled s ∉ log :=
    forall_congr' fun s => imp_congr_right fun hs => not_congr (marks s hs)
  rcases w.err?_cases l.context with ended | ended | ended
  · rw [ended]
    exact h'.cancelled.mpr (some_.mpr (h.cancelled.mp ended))
  · rw [ended, h'.deadlineExceeded, none_, now]
    exact h.deadlineExceeded.mp ended
  · rw [ended, h'.live, none_, now]
    exact h.live.mp ended

theorem Family.endsAs {w : World β} {log : List Mark} (h : Family (history log) w.scopes)
    {l : Lineage} (made : (history log).Made l)
    (held : ∀ s, l.context.scope = some s → (history log).Held s) : w.EndsAs log l := by
  have scope : l.context.scope.any (Scopes.isCancelled w.scopes) = true ↔
      ∃ s ∈ l.scopes, .cancelled s ∈ log := by
    rw [Option.any_eq_true]
    constructor
    · rintro ⟨s, hs, hc⟩
      obtain ⟨a, above, ha⟩ := (h.isCancelled_iff (held s hs)).mp hc
      exact ⟨a, (h.mem_scopes_iff made a).mpr ⟨s, hs, above⟩, ha⟩
    · rintro ⟨a, ha, hc⟩
      obtain ⟨s, hs, above⟩ := (h.mem_scopes_iff made a).mp ha
      exact ⟨s, hs, (h.isCancelled_iff (held s hs)).mpr ⟨a, above, hc⟩⟩
  have deadline : l.context.deadline.any (· ≤ w.now) = true ↔
      ∃ d, (l.deadlines.map Instant.nanos).min? = some d ∧ d ≤ w.now.nanos := by
    rw [← l.deadline_context, Option.any_eq_true]
    constructor
    · rintro ⟨d, hd, passed⟩
      exact ⟨d.nanos, by rw [hd]; rfl, of_decide_eq_true passed⟩
    · rintro ⟨n, hn, passed⟩
      obtain ⟨d, hd, rfl⟩ := Option.map_eq_some_iff.mp hn
      exact ⟨d, hd, decide_eq_true passed⟩
  have ended : w.err? l.context =
      if l.context.scope.any (Scopes.isCancelled w.scopes) then some .cancelled
      else if l.context.deadline.any (· ≤ w.now) then some .deadlineExceeded else none := rfl
  have none_iff : (∀ s ∈ l.scopes, .cancelled s ∉ log) ↔ ¬∃ s ∈ l.scopes, .cancelled s ∈ log := by
    simp
  have before_iff : (∀ d, (l.deadlines.map Instant.nanos).min? = some d → w.now.nanos < d) ↔
      ¬∃ d, (l.deadlines.map Instant.nanos).min? = some d ∧ d ≤ w.now.nanos := by
    simp
  -- each case of the definition is told by two of the three facts
  cases hs : l.context.scope.any (Scopes.isCancelled w.scopes) <;>
    cases hd : l.context.deadline.any (· ≤ w.now) <;>
    rw [hs] at scope ended <;> rw [hd] at deadline ended <;>
    exact ⟨by simp [ended, ← scope], by simp [ended, none_iff, ← scope, ← deadline],
      by simp [ended, none_iff, before_iff, ← scope, ← deadline]⟩

/-- **A context ends as its derivation says**, in every order of derivations, cancellations, drops of
what nothing held was derived from, and of all else. It is cancelled just if its own scope or one it
was derived from was, before or after the derivation; else its deadline is exceeded just if the
earliest of the deadlines on the way has come; else it is live. So a cancellation changes nothing for
contexts that were not derived from its scope, an end is never taken back, and whoever waits for the
end is told the end that there is. -/
theorem context_ends_as_derived {wall : Wall} {log : List Mark} {w : World β}
    (h : Stirs (startingAt wall) log w) (tended : Tended log) {l : Lineage}
    (made : (history log).Made l)
    (held : ∀ s, l.context.scope = some s → (history log).Held s) :
    w.EndsAs log l ∧
    (∀ s, (history log).Held s → s ∉ l.scopes →
      (w.cancelScope s).err? l.context = w.err? l.context) ∧
    (∀ log' w', Stirs w log' w' → Tended (log ++ log') →
      (∀ s, l.context.scope = some s → (history (log ++ log')).Held s) →
      (w.err? l.context = some .cancelled → w'.err? l.context = some .cancelled) ∧
      (w.err? l.context = some .deadlineExceeded →
        w'.err? l.context = some .cancelled ∨ w'.err? l.context = some .deadlineExceeded)) ∧
    ∀ t task, w.tasks.get? t = some task → task.doomed = false →
      task.progress = .fresh ∧ task.errand = .watch l.context ∨
        task.progress = .watching l.context →
      (w.stepTask t).progress? t = some (match w.err? l.context with
        | some e => .finished (.contextEnded e)
        | none => .watching l.context) := by
  have family := h.family tended
  have ends := family.endsAs made held
  refine ⟨ends, fun s hs apart => ?_, fun log' w' later tended' held' => ?_,
    fun t task at_ kept watches => ?_⟩
  · have tended' : Tended (log ++ [.cancelled s]) := tended.snoc hs
    have family' := (h.tail (.cancel s)).family tended'
    have ends' := family'.endsAs (made.mono fun _ _ => List.mem_append_left _) fun j hj => ?_
    · refine ends.err?_eq ends' (confined_wake _).apart.now fun j hj => ?_
      have other : j ≠ s := fun same => apart (same ▸ hj)
      simp [other]
    · rw [history_cancelled]
      exact held j hj
  · have ends' := ((h.trans later).family tended').endsAs
      (made.mono fun _ _ => List.mem_append_left _) held'
    refine ⟨fun ended => ?_, fun ended => ?_⟩
    · obtain ⟨s, hs, hc⟩ := ends.cancelled.mp ended
      exact ends'.cancelled.mpr ⟨s, hs, List.mem_append_left _ hc⟩
    · obtain ⟨-, d, hd, passed⟩ := ends.deadlineExceeded.mp ended
      rcases w'.err?_cases l.context with ended' | ended' | ended'
      · exact Or.inl ended'
      · exact Or.inr ended'
      · have running := (ends'.live.mp ended').2 d hd
        exact absurd (Nat.le_trans passed later.now_le) (Nat.not_le.mpr running)
  · rw [progress?_stepTask_watch at_ kept watches]
    cases w.err? l.context <;> rfl

/-- A context with a deadline, two scopes down. -/
def grandchild : Lineage :=
  .timed (.cancellable (.cancellable .background ⟨0⟩) ⟨1⟩) .zero (.ofMillis 5)

/-- The first of two scopes was cancelled. -/
def orphaned : World Unit :=
  ((((startingAt ⟨0, 0⟩ : World Unit).deriveContext .background).2.deriveContext
    { scope := some ⟨0⟩ }).2.cancelScope ⟨0⟩)

theorem context_ends_as_derived_orphaned :
    orphaned.err? grandchild.context = some .cancelled ∧
      grandchild.context = { scope := some ⟨1⟩, deadline := some ⟨5000000⟩ } := by
  have stirs : Stirs (startingAt ⟨0, 0⟩)
      [.derived .background ⟨0⟩, .derived { scope := some ⟨0⟩ } ⟨1⟩, .cancelled ⟨0⟩] orphaned :=
    ((Stirs.refl.tail (.derive .background)).tail (.derive { scope := some ⟨0⟩ })).tail (.cancel ⟨0⟩)
  have first : Tended [.derived .background ⟨0⟩] := Tended.nil.snoc (fun _ h => by cases h)
  have second : Tended [.derived .background ⟨0⟩, .derived { scope := some ⟨0⟩ } ⟨1⟩] :=
    first.snoc fun _ h => by cases h; exact ⟨⟨_, .head _⟩, by simp [history]⟩
  have tended : Tended
      ([.derived .background ⟨0⟩, .derived { scope := some ⟨0⟩ } ⟨1⟩] ++ [.cancelled ⟨0⟩]) :=
    second.snoc (show History.Held _ _ from ⟨⟨_, .head _⟩, by simp [history]⟩)
  have ends := context_ends_as_derived stirs tended (l := grandchild)
    ⟨⟨trivial, .head _⟩, .tail _ (.head _)⟩
    (fun s h => by cases h; exact ⟨⟨_, .tail _ (.head _)⟩, by simp [history]⟩)
  exact ⟨ends.1.cancelled.mpr ⟨⟨0⟩, by simp [grandchild, Lineage.scopes], by simp⟩, rfl⟩

end World

end EventMesh
