import EventMesh.Proofs.Mesh.Loop

/-!
# Properties of incarnations

What holds of an incarnation throughout its life is shown once for each thing that can befall it
(`Cell.Invariant`); it then holds of every incarnation after any steps of any loops and any deeds of
anybody (`World.Each.step`). What one step does to one incarnation that is there is listed in
`Cell.Befell` (`World.befell_step`).
-/

namespace EventMesh

/-- What one step does to an incarnation and to what its loop is at. -/
inductive Cell.Befell {β : Type} : Hand → Cell β → Hand → Cell β → Prop
  | spared (hand : Hand) (c : Cell β) : Befell hand c hand c
  | accepted {c : Cell β} (hand : Hand) (hp : c.phase = .running) (e : Event) :
      Befell hand c hand (c.accept e)
  | closed (hand : Hand) (c : Cell β) : Befell hand c hand c.close
  | turnedAway {c : Cell β} (hand : Hand) (hp : c.phase = .starting) (outcome : Outcome)
      (resident : β) :
      Befell hand c hand { c.after (.init outcome) resident with phase := .refused }
  | letIn {c : Cell β} (hand : Hand) (hp : c.phase = .starting) (resident : β) :
      Befell hand c hand { c.after (.init .done) resident with phase := .running }
  | worked {hand next : Hand} {c c' : Cell β} (h : Cell.Worked hand c next c') :
      Befell hand c next c'
  | left {hand : Hand} {c c' : Cell β} (h : Cell.Left hand c c') : Befell hand c .last c'

theorem Cell.Moved.befell {β : Type} {young : Prop} {c : Cell β} {c? : Option (Cell β)}
    (h : Cell.Moved young (some c) c?) (hand : Hand) :
    ∃ c', c? = some c' ∧ Cell.Befell hand c hand c' := by
  cases h with
  | same => exact ⟨c, rfl, .spared hand c⟩
  | closed => exact ⟨c.close, rfl, .closed hand c⟩
  | turnedAway _ hp outcome resident => exact ⟨_, rfl, .turnedAway hand hp outcome resident⟩
  | letIn _ hp resident => exact ⟨_, rfl, .letIn hand hp resident⟩

/-- A property of incarnations, and of what their loops are at, that nothing breaks. -/
structure Cell.Invariant {β : Type} (P : Hand → Cell β → Prop) : Prop where
  born : ∀ mesh id generation seed, P .idle { mesh, id, generation, resident := seed }
  accept : ∀ {hand c}, P hand c → c.phase = .running → ∀ e, P hand (c.accept e)
  close : ∀ {hand c}, P hand c → P hand c.close
  /-- The first call is judged. -/
  judge : ∀ {hand c}, P hand c → c.phase = .starting → ∀ outcome resident phase,
    phase = .refused ∨ phase = .running ∧ outcome = .done → P hand { c.after (.init outcome) resident with phase }
  worked : ∀ {hand c next c'}, P hand c → Cell.Worked hand c next c' → P next c'
  left : ∀ {hand c c'}, P hand c → Cell.Left hand c c' → P .last c'

namespace World

open Function Time

variable {β : Type} {P : Hand → Cell β → Prop}

/-- Every incarnation has a property, and only a loop that exists is at something. -/
structure Each (P : Hand → Cell β → Prop) (w : World β) (hand : CellKey → Hand) : Prop where
  cells : ∀ key c, w.cells.get? key = some c → P (hand key) c
  strangers : ∀ key, w.cells.get? key = none → hand key = .idle

theorem each_startingAt (wall : Wall) : Each P (startingAt wall) atRest := by
  refine ⟨?_, fun _ _ => rfl⟩
  intro key c hc
  rw [startingAt, Table.get?_empty] at hc
  cases hc

variable {w w' : World β} {hand hand' : CellKey → Hand}

/-- **What a step does to an incarnation.** -/
theorem befell_step (s : Step w hand w' hand') {key : CellKey} {c : Cell β}
    (hc : w.cells.get? key = some c) :
    ∃ c', w'.cells.get? key = some c' ∧ Cell.Befell (hand key) c (hand' key) c' := by
  have put_befell : ∀ {j : CellKey} {d d' : Cell β} {next : Hand}, w.cells.get? j = some d →
      Cell.Befell (hand j) d next d' → ∃ c', (w.put j d').cells.get? key = some c' ∧
        Cell.Befell (hand key) c (update hand j next key) c' := by
    intro j d d' next hd befell
    rw [get?_put hd]
    by_cases hj : j = key
    · subst hj
      rw [hc] at hd
      cases hd
      rw [if_pos rfl, update_self]
      exact ⟨d', rfl, befell⟩
    · rw [if_neg hj, update_of_ne (Ne.symm hj)]
      exact ⟨c, hc, .spared _ c⟩
  cases s with
  | deed d =>
    rcases d.moved with ⟨mesh, target, taker, e, leads, rfl⟩ | moved
    · obtain ⟨m, d, -, -, -, hd, running⟩ := route_ok leads
      rw [get?_accept, hc]
      split
      · rename_i hj
        subst hj
        rw [hc] at hd
        cases hd
        exact ⟨c.accept e, rfl, .accepted _ running e⟩
      · exact ⟨c, rfl, .spared _ c⟩
    · have at_key := moved key
      rw [hc] at at_key
      exact at_key.befell (hand key)
  | work hd worked => exact put_befell hd (.worked worked)
  | leave hd left =>
    rw [deregister_cells]
    exact put_befell hd (.left left)
  | dismiss => exact ⟨c, hc, .spared _ c⟩

/-- A new state of one incarnation that has the property. -/
theorem Each.put (h : Each P w hand) {key : CellKey} {c c' : Cell β} {next : Hand}
    (hc : w.cells.get? key = some c) (hc' : P next c') :
    Each P (w.put key c') (update hand key next) := by
  constructor
  · intro j d hd
    rw [get?_put hc] at hd
    split at hd
    · rename_i hj
      subst hj
      cases hd
      rwa [update_self]
    · rename_i hj
      rw [update_of_ne (Ne.symm hj)]
      exact h.cells j d hd
  · intro j hd
    rw [get?_put hc] at hd
    split at hd
    · cases hd
    · rename_i hj
      rw [update_of_ne (Ne.symm hj)]
      exact h.strangers j hd

/-- The acceptance of an event. -/
theorem Each.accept (inv : Cell.Invariant P) (h : Each P w hand) {mesh : MeshId} {target : CellId}
    {key : CellKey} (leads : w.route mesh target = .ok key) (e : Event) :
    Each P (w.accept key e) hand := by
  obtain ⟨m, c, -, -, -, hc, hp⟩ := route_ok leads
  constructor
  · intro j d hd
    rw [get?_accept] at hd
    split at hd
    · rename_i hj
      subst hj
      rw [hc] at hd
      cases hd
      exact inv.accept (h.cells key c hc) hp e
    · exact h.cells j d hd
  · intro j hd
    rw [get?_accept] at hd
    split at hd
    · exact h.strangers j (Option.map_eq_none_iff.mp hd)
    · exact h.strangers j hd

/-- What befalls an incarnation in other deeds. -/
theorem Each.moved (inv : Cell.Invariant P) (h : Each P w hand) {young : Prop} {key : CellKey}
    {c : Cell β} (m : Cell.Moved young (w.cells.get? key) (some c)) : P (hand key) c := by
  generalize hb : w.cells.get? key = c? at m
  cases m with
  | same => exact h.cells key c hb
  | born mesh id generation seed =>
    rw [h.strangers key hb]
    exact inv.born mesh id generation seed
  | closed c₀ => exact inv.close (h.cells key c₀ hb)
  | turnedAway hy hp outcome resident =>
    exact inv.judge (h.cells key _ hb) hp outcome resident .refused (Or.inl rfl)
  | letIn hy hp resident =>
    exact inv.judge (h.cells key _ hb) hp .done resident .running (Or.inr ⟨rfl, rfl⟩)

theorem Each.deed (inv : Cell.Invariant P) {floor : Nat} (d : Deed floor w w')
    (h : Each P w hand) : Each P w' hand := by
  rcases d.moved with ⟨mesh, target, key, e, leads, rfl⟩ | moved
  · exact h.accept inv leads e
  · constructor
    · intro j c hc
      have m := moved j
      rw [hc] at m
      exact h.moved inv m
    · intro j hc
      have m := moved j
      rw [hc] at m
      generalize hb : w.cells.get? j = c? at m
      cases m with
      | same => exact h.strangers j hb

/-- **Every step keeps what nothing breaks.** -/
theorem Each.step (inv : Cell.Invariant P)
    (s : Step w hand w' hand') (h : Each P w hand) : Each P w' hand' := by
  cases s with
  | deed d => exact h.deed inv d
  | work hc t => exact h.put hc (inv.worked (h.cells _ _ hc) t)
  | leave hc t =>
    have left := h.put hc (inv.left (h.cells _ _ hc) t)
    exact ⟨fun j c hj => left.cells j c (by rwa [deregister_cells] at hj),
      fun j hj => left.strangers j (by rwa [deregister_cells] at hj)⟩
  | dismiss => exact ⟨h.cells, h.strangers⟩

/-- So do any number of steps. -/
theorem Each.steps (inv : Cell.Invariant P) (s : Steps w hand w' hand') (h : Each P w hand) :
    Each P w' hand' :=
  s.preserves (P := Each P) (fun s hw => Each.step inv s hw) h

/-- After any steps from an empty world every incarnation has what nothing breaks. -/
theorem Steps.each (inv : Cell.Invariant P) {wall : Wall}
    (h : Steps (startingAt wall) atRest w hand) : Each P w hand :=
  (each_startingAt wall).steps inv h

end World

end EventMesh
