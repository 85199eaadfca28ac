import EventMesh.Proofs.Cli.Session
import EventMesh.Proofs.Mesh.Count
import EventMesh.Proofs.Mesh.Settling
import EventMesh.Proofs.Text.ByteOrder

/-!
# Counting sessions

What a counting session answers. The session is followed turn by turn: all batches wait in the queue of
the counter (`sendAll`), it counts one in each turn (`turns_batches`), then it is asked and answers
(`settle_session`). Main statement: whatever the batches, the session answers each item with the number
of times it occurs in all of them together, and nothing else, in the order of the bytes
(`counter_answers_counts`).
-/

namespace EventMesh

/-! ### Items -/

namespace Text

theorem length_join (sep : Char) {pieces : List (List Char)} (h : pieces ≠ []) :
    (join sep pieces).length + 1 = (pieces.map (·.length + 1)).sum := by
  induction pieces with
  | nil => exact absurd rfl h
  | cons piece pieces ih =>
    cases pieces with
    | nil => rfl
    | cons next pieces =>
      have rest := ih (List.cons_ne_nil _ _)
      rw [List.map_cons, List.sum_cons, ← rest]
      simp only [join, List.length_append, List.length_cons]
      omega

/-- Of the pieces of a text at most every other character makes one that is not empty. -/
theorem length_filled_le (sep : Char) (cs : List Char) :
    2 * ((split sep cs).filter (· ≠ [])).length ≤ cs.length + 1 := by
  have each : ∀ pieces : List (List Char),
      2 * (pieces.filter (· ≠ [])).length ≤ (pieces.map (·.length + 1)).sum := by
    intro pieces
    induction pieces with
    | nil => exact Nat.le_refl _
    | cons piece pieces ih =>
      cases piece with
      | nil =>
        simp only [List.map_cons, List.sum_cons, List.length_nil]
        rw [List.filter_cons_of_neg (by simp)]
        omega
      | cons c piece =>
        simp only [List.map_cons, List.sum_cons, List.length_cons]
        rw [List.filter_cons_of_pos (by simp), List.length_cons]
        omega
  calc 2 * ((split sep cs).filter (· ≠ [])).length
      ≤ ((split sep cs).map (·.length + 1)).sum := each _
    _ = (join sep (split sep cs)).length + 1 := (length_join sep (split_ne_nil sep cs)).symm
    _ = cs.length + 1 := by rw [join_split]

end Text

namespace Cli

open World Time

/-- The batches fit into an address space of 64 bits: each takes its bytes, and one more at least. -/
def Addressable (batches : List String) : Prop :=
  (batches.map (·.utf8ByteSize + 1)).sum < 2 ^ 64

instance (batches : List String) : Decidable (Addressable batches) :=
  inferInstanceAs (Decidable (_ < _))

/-- A batch has at most one item for every other byte. -/
theorem length_items_le (batch : String) : 2 * (items batch).length ≤ batch.utf8ByteSize + 1 := by
  have filled : (items batch).length ≤ ((Text.split ',' batch.toList).filter (· ≠ [])).length := by
    rw [items, List.length_map, ← List.countP_eq_length_filter, List.countP_map,
      ← List.countP_eq_length_filter]
    refine List.countP_mono_left fun piece _ h => ?_
    rw [decide_eq_true_eq]
    rintro rfl
    simp at h
  have pieces := Text.length_filled_le ',' batch.toList
  have bytes := Text.length_le_utf8ByteSize batch
  omega

/-- Batches that fit into memory hold fewer items than a counter can count. -/
theorem Addressable.few {batches : List String} (h : Addressable batches) :
    (batches.flatMap items).length < 2 ^ 63 := by
  have halves : 2 * (batches.flatMap items).length ≤ (batches.map (·.utf8ByteSize + 1)).sum := by
    clear h
    induction batches with
    | nil => exact Nat.le_refl _
    | cons batch batches ih =>
      have first := length_items_le batch
      rw [List.flatMap_cons, List.length_append, List.map_cons, List.sum_cons]
      omega
  unfold Addressable at h
  omega

/-! ### The worlds of a session -/

section Rooms

variable (now : Wall) (config : Config)

/-- The event of a batch, when so many events were made before. -/
def batchEvent (made : Nat) (batch : String) : Event :=
  ⟨.ofSerial made, "count", .mk made [(Key.default, .strings (items batch))], none, now⟩

/-- The events of several batches. -/
def batchEvents : Nat → List String → List Event
  | _, [] => []
  | made, batch :: batches => batchEvent now made batch :: batchEvents (made + 1) batches

/-- The event that asks for the counts. -/
def question (made : Nat) : Event :=
  ⟨.ofSerial made, Topic.counterResults, .mk (made + 1) [(Key.waiter, .waiter ⟨0⟩)], none, now⟩

/-- The counter, with what it counted and what it has yet to handle. -/
def counterCell (counts : Dict String Nat) (queue accepted : List Event) (calls : List Call) :
    Cell (Resident Empty) where
  mesh := ⟨0⟩
  id := ⟨"counter"⟩
  generation := 1
  resident := .counter ⟨.defaultStrings, some (.cell ⟨0⟩ ⟨0⟩ ⟨"counter"⟩ 1), counts⟩
  phase := .running
  queue
  accepted
  calls

/-- The task that asks for the counts. -/
def inquirer (progress : Progress) (seen : Waiters) : Task where
  errand := .tally ⟨0⟩ ⟨"counter"⟩ .background config.requestTimeout
  progress
  seen

/-- The mesh of the session, with the counter in it, and the tasks and waiters there are. -/
def room (serials : Serials) (waiters : List Waiter) (tasks : List Task)
    (c : Cell (Resident Empty)) (holders : Nat) (ready : List Job) : Stock where
  clock := .startingAt now
  serials
  waiters := ⟨⟨waiters⟩⟩
  tasks := ⟨⟨tasks⟩⟩
  cells := ⟨#[c]⟩
  meshes := ⟨#[{
    name := config.id
    requestTimeout := config.requestTimeout
    registry := [(⟨"counter"⟩, ⟨0⟩)]
    nextGeneration := 2
    loops := [⟨0⟩]
    holders }]⟩
  ready

/-- The bounds of the request: it begins at once. -/
def bounds : Context := Context.background.withTimeout .zero config.requestTimeout

end Rooms

/-! ### The session, turn by turn -/

section Turns

variable (now : Wall) (config : Config)

theorem startCell_counter :
    startCell ((startingAt now : Stock).openMesh config.id config.requestTimeout).2 ⟨0⟩ ⟨"counter"⟩
      (.counter { keysOf := .defaultStrings }) =
        .ok (room now config {} [] [] (counterCell [] [] [] [.init .done]) 1 [.cell ⟨0⟩]) := rfl

section

variable (made : Nat) (counts : Dict String Nat) (queue accepted : List Event) (calls : List Call)

theorem send_batch (batch : String) :
    send (room now config ⟨made, 0, made⟩ [] [] (counterCell counts queue accepted calls) 1
      [.cell ⟨0⟩]) ⟨0⟩ ⟨"counter"⟩ "count" (.strings (items batch)) none =
        .ok (room now config ⟨made + 1, 0, made + 1⟩ [] [] (counterCell counts
          (queue ++ [batchEvent now made batch]) (accepted ++ [batchEvent now made batch]) calls) 1
          [.cell ⟨0⟩]) := rfl

/-- All batches get into the queue, in their order. -/
theorem sendAll (batches : List String) :
    batches.foldlM (fun w batch =>
        send w ⟨0⟩ ⟨"counter"⟩ "count" (.strings (items batch)) none)
      (room now config ⟨made, 0, made⟩ [] [] (counterCell counts queue accepted calls) 1
        [.cell ⟨0⟩]) =
    .ok (room now config ⟨made + batches.length, 0, made + batches.length⟩ [] []
      (counterCell counts (queue ++ batchEvents now made batches)
        (accepted ++ batchEvents now made batches) calls) 1 [.cell ⟨0⟩]) := by
  induction batches generalizing made queue accepted with
  | nil => simp [batchEvents]; rfl
  | cons batch batches ih =>
    rw [List.foldlM_cons, send_batch]
    refine (ih (made + 1) _ _).trans ?_
    rw [List.append_assoc, List.append_assoc, List.length_cons, Nat.add_right_comm, Nat.add_assoc made]
    rfl

variable (serials : Serials) (waiters : List Waiter) (tasks : List Task) (ready : List Job)

theorem turn_batch (n : Nat) (batch : String) :
    (room now config serials waiters tasks
      (counterCell counts (batchEvent now n batch :: queue) accepted calls) 2 ready).turn
        (.cell ⟨0⟩) =
      room now config serials waiters tasks (counterCell (Counter.tally counts (items batch)) queue
        accepted (calls ++ [.process (batchEvent now n batch) .done])) 2 ready := rfl

theorem spawn_inquirer (c : Cell (Resident Empty)) :
    (room now config serials waiters [] c 1 [.cell ⟨0⟩]).spawn
      (.tally ⟨0⟩ ⟨"counter"⟩ .background config.requestTimeout) =
    (⟨0⟩, room now config serials waiters [inquirer config .fresh .empty] c 2
      [.cell ⟨0⟩, .task ⟨0⟩]) := rfl

/-- The counter counts one batch in each turn. -/
theorem turns_batches (n : Nat) (batches : List String) :
    ∃ calls', Turns batches.length
      (room now config serials waiters tasks
        (counterCell counts (batchEvents now n batches) accepted calls) 2 (.cell ⟨0⟩ :: ready))
      (room now config serials waiters tasks
        (counterCell (Counter.tally counts (batches.flatMap items)) [] accepted calls') 2
        (.cell ⟨0⟩ :: ready)) := by
  induction batches generalizing n counts calls with
  | nil => exact ⟨calls, .none _⟩
  | cons batch batches ih =>
    obtain ⟨calls', later⟩ := ih (Counter.tally counts (items batch))
      (calls ++ [.process (batchEvent now n batch) .done]) (n + 1)
    refine ⟨calls', .step rfl (turn_batch ..) ?_⟩
    rw [List.flatMap_cons, Counter.tally_append]
    exact later

theorem turn_idle :
    (room now config serials waiters tasks (counterCell counts [] accepted calls) 2
      (.cell ⟨0⟩ :: ready)).turn (.cell ⟨0⟩) =
    room now config serials waiters tasks (counterCell counts [] accepted calls) 2 ready := rfl

end

/-! #### The question -/

theorem err?_bounds (patient : 0 < config.requestMs) {w : Stock} (begun : w.now = .zero) :
    w.err? (bounds config) = none := by
  have pos : 0 < config.requestTimeout.nanos := Nat.mul_pos patient (by decide)
  rw [World.err?, begun]
  exact Context.err?_withTimeout pos .zero w.scopes

section

variable (made : Nat) (counts : Dict String Nat) (accepted : List Event) (calls : List Call)

/-- The task makes a waiter, sends its question and waits. -/
theorem turn_inquirer (patient : 0 < config.requestMs) :
    (room now config ⟨made, 0, made⟩ [] [inquirer config .fresh .empty]
      (counterCell counts [] accepted calls) 2 [.task ⟨0⟩]).turn (.task ⟨0⟩) =
    room now config ⟨made + 3, 0, made + 1⟩ [{}]
      [inquirer config (.waiting (.waiter ⟨0⟩) (bounds config)) .empty]
      (counterCell counts [question now made] (accepted ++ [question now made]) calls) 2
      [.cell ⟨0⟩] := by
  set w := room now config ⟨made, 0, made⟩ [] [inquirer config .fresh .empty]
    (counterCell counts [] accepted calls) 2 []
  set sent := room now config ⟨made + 3, 0, made + 1⟩ [{}] [inquirer config .fresh .empty]
    (counterCell counts [question now made] (accepted ++ [question now made]) calls) 2 [.cell ⟨0⟩]
    with sent_def
  have begun : (room now config ⟨made, 0, made⟩ [] [inquirer config .fresh .empty]
      (counterCell counts [] accepted calls) 2 [.task ⟨0⟩]).stepTask ⟨0⟩ =
      ((w.withRequest Topic.counterResults .empty).accept ⟨0⟩
        (w.requestEvent Topic.counterResults .empty).1).beginWait ⟨0⟩
          (inquirer config .fresh .empty).errand (.waiter ⟨0⟩) (bounds config) :=
    stepTask_tally rfl rfl rfl rfl rfl
  have asked : (w.withRequest Topic.counterResults .empty).accept ⟨0⟩
      (w.requestEvent Topic.counterResults .empty).1 = sent := rfl
  rw [turn, begun, asked, beginWait_of_open rfl (err?_bounds config patient rfl)]
  rfl

/-- The counter answers, and the task wakes up. -/
theorem turn_question :
    (room now config ⟨made + 3, 0, made + 1⟩ [{}]
      [inquirer config (.waiting (.waiter ⟨0⟩) (bounds config)) .empty]
      (counterCell counts [question now made] accepted calls) 2 [.cell ⟨0⟩]).turn (.cell ⟨0⟩) =
    room now config ⟨made + 4, 0, made + 1⟩
      [⟨some (Payload.new (.pairs (Counter.snapshot counts)) (made + 3))⟩]
      [inquirer config (.waiting (.waiter ⟨0⟩) (bounds config)) .empty]
      (counterCell counts [] accepted (calls ++ [.process (question now made) .done])) 2
      [.cell ⟨0⟩, .task ⟨0⟩] := by
  set counter := (counterCell counts [] [] []).resident with counter_def
  set reply := Payload.new (.pairs (Counter.snapshot counts)) (made + 3)
  set waiting := fun queue => room now config ⟨made + 3, 0, made + 1⟩ [{}]
    [inquirer config (.waiting (.waiter ⟨0⟩) (bounds config)) .empty]
    (counterCell counts queue accepted calls) 2 [.cell ⟨0⟩]
  set answered := room now config ⟨made + 4, 0, made + 1⟩ [⟨some reply⟩]
    [inquirer config (.waiting (.waiter ⟨0⟩) (bounds config)) .empty]
    (counterCell counts [] accepted calls) 2
  have process : Behavior.process counter (question now made) =
      .build (.pairs (Counter.snapshot counts)) fun p => .answer ⟨0⟩ p fun _ =>
        .finish counter .done := rfl
  have performed : World.perform (Behavior.process counter (question now made)) (waiting []) =
      (counter, .done, wake (answered [.cell ⟨0⟩])) := by
    rw [process]
    rfl
  have woken : wake (answered [.cell ⟨0⟩]) = answered [.cell ⟨0⟩, .task ⟨0⟩] := rfl
  have handled : (waiting [question now made]).handle ⟨0⟩ counter (question now made) =
      (wake (answered [.cell ⟨0⟩])).modifyCell ⟨0⟩
        (·.after (.process (question now made) .done) counter) :=
    handle_of_done performed
  rw [woken] at handled
  exact handled

/-- The task reports the counts and is over. -/
theorem turn_reply (serials : Serials) (c : Cell (Resident Empty)) (reply : Payload) :
    (room now config serials [⟨some reply⟩]
      [inquirer config (.waiting (.waiter ⟨0⟩) (bounds config)) .empty] c 2 [.task ⟨0⟩]).turn
        (.task ⟨0⟩) =
    room now config serials [⟨some reply⟩]
      [inquirer config (.finished (.counts (Errand.countsOf reply))) ⟨⟨[⟨some reply⟩]⟩⟩] c 1 [] := by
  set w := room now config serials [⟨some reply⟩]
    [inquirer config (.waiting (.waiter ⟨0⟩) (bounds config)) .empty] c 2 [] with w_def
  have concluded : w.resumeWait ⟨0⟩ (inquirer config .fresh .empty).errand (.waiter ⟨0⟩)
      (bounds config) = w.conclude ⟨0⟩ (.counts (Errand.countsOf reply)) :=
    resumeWait_of_reply rfl ..
  exact concluded

end

theorem length_batchEvents (made : Nat) (batches : List String) :
    (batchEvents now made batches).length = batches.length := by
  induction batches generalizing made with
  | nil => rfl
  | cons batch batches ih => exact congrArg (· + 1) (ih (made + 1))

/-- Once the task is there, the session comes to rest with the counts. -/
theorem settle_session (patient : 0 < config.requestMs) (made : Nat) (batches : List String)
    (accepted : List Event) (calls : List Call) :
    ((room now config ⟨made, 0, made⟩ [] [inquirer config .fresh .empty]
      (counterCell [] (batchEvents now 0 batches) accepted calls) 2
      [.cell ⟨0⟩, .task ⟨0⟩]).settle).report? ⟨0⟩ =
    some (.counts (.ok (Dict.mapValues Int64.ofNat (Counter.tally [] (batches.flatMap items))))) := by
  set counts := Counter.tally [] (batches.flatMap items) with counts_def
  set reply := Payload.new (.pairs (Counter.snapshot counts)) (made + 3)
  obtain ⟨calls', counting⟩ := turns_batches now config [] accepted calls
    ⟨made, 0, made⟩ [] [inquirer config .fresh .empty] [.task ⟨0⟩] 0 batches
  set done := room now config ⟨made + 4, 0, made + 1⟩ [⟨some reply⟩]
    [inquirer config (.finished (.counts (Errand.countsOf reply))) ⟨⟨[⟨some reply⟩]⟩⟩]
    (counterCell counts [] (accepted ++ [question now made])
      (calls' ++ [.process (question now made) .done])) 1 [] with done_def
  have asking : Turns 5 (room now config ⟨made, 0, made⟩ [] [inquirer config .fresh .empty]
      (counterCell counts [] accepted calls') 2 [.cell ⟨0⟩, .task ⟨0⟩]) done := by
    exact .step rfl (turn_idle ..) <|
      .step rfl (turn_inquirer now config made counts accepted calls' patient) <|
      .step rfl (turn_question ..) <|
      .step rfl (turn_idle ..) <|
      .step rfl (turn_reply ..) <| .none _
  have few : batches.length + 5 ≤ patience + (batchEvents now 0 batches).length := by
    rw [length_batchEvents, Nat.add_comm]
    exact Nat.add_le_add_right (by decide) _
  rw [(counting.trans asking).settle rfl few]
  exact congrArg (some <| Report.counts ·) (Counter.countsOf_snapshot _ _)

end Turns

/-! ### Whole sessions -/

/-- What a session answers for a list of items. -/
structure Counted (items : List String) (counts : Dict String Nat) : Prop where
  /-- Each item has the number of times that it occurs, and nothing else has a number. -/
  exact : ∀ key, Dict.get? counts key =
    if items.count key = 0 then none else some (items.count key)
  /-- Items stand in the order of their bytes. -/
  ordered : (Dict.keys counts).Pairwise fun a b => Text.bytes a < Text.bytes b
  total : (counts.map (·.2)).sum = items.length

theorem counted_tally (items : List String) : Counted items (Counter.tally [] items) where
  exact := Counter.get?_tally_nil items
  ordered := (Counter.ascending_tally items).imp Text.bytes_lt_bytes.mpr
  total := Counter.sum_tally items

/-- What is printed of counts that fit into words of 64 bits. -/
theorem printed_tally {items : List String} (few : items.length < 2 ^ 63) :
    Dict.mapValues (fun n : Int64 => Json.ofInt n.toInt)
        (Dict.mapValues Int64.ofNat (Counter.tally [] items)) =
      Dict.mapValues (fun n : Nat => Json.ofInt n) (Counter.tally [] items) := by
  rw [Dict.mapValues, Dict.mapValues, Dict.mapValues, List.map_map]
  refine List.map_congr_left fun q hq => ?_
  have found := ((Counter.ascending_tally items).mem_iff q.1 q.2).mp hq
  have fits : q.2 < 2 ^ 63 := by
    rw [Counter.get?_tally_nil] at found
    split at found
    · cases found
    · rw [← Option.some.inj found]
      exact Nat.lt_of_le_of_lt List.count_le_length few
  exact congrArg (fun n => (q.1, Json.ofInt n)) (Int64.toInt_ofNat_of_lt fits)

/-- A session answers the tally of all items. -/
theorem perform_counter (now : Wall) {config : Config} (patient : 0 < config.requestMs)
    {batches : List String} (h : Addressable batches) :
    ∃ w, perform now config (.counter batches) = .ok (.obj (Dict.mapValues
      (fun n : Nat => Json.ofInt n) (Counter.tally [] (batches.flatMap items))), w) := by
  have settled := settle_session now config patient batches.length batches
    (batchEvents now 0 batches) [.init .done]
  set asking := room now config ⟨batches.length, 0, batches.length⟩ [] [inquirer config .fresh .empty]
    (counterCell [] (batchEvents now 0 batches) (batchEvents now 0 batches) [.init .done]) 2
      [.cell ⟨0⟩, .task ⟨0⟩]
  refine ⟨asking.settle, ?_⟩
  have awaited : await [⟨0⟩] stopLimit asking = asking.settle :=
    await_of_report (List.mem_singleton_self _) (by rw [settled]; rfl) _
  have sent := sendAll now config 0 [] [] [] [.init .done] batches
  rw [Nat.zero_add, List.nil_append] at sent
  have opened : (startingAt now : Stock).openMesh config.id config.requestTimeout =
      (⟨0⟩, ((startingAt now : Stock).openMesh config.id config.requestTimeout).2) := rfl
  show count (startingAt now) config batches = _
  unfold count
  rw [opened]
  dsimp only
  rw [startCell_counter, ok_bind, sent, ok_bind, spawn_inquirer]
  dsimp only
  rw [awaited, settled]
  dsimp only
  rw [printed_tally h.few]
  rfl

/-- **A counter session counts exactly.** Whatever the batches, as long as they fit into memory and a
request may take any time at all, the session succeeds and answers with the items of all batches
together, the trimmed pieces between commas that are not empty: each with the number of times it occurs,
in the order of their bytes. Any other batches with the same items, however they are cut and in whatever
order, get the same answer. -/
theorem counter_answers_counts (now : Wall) {config : Config} (patient : 0 < config.requestMs)
    {batches : List String} (h : Addressable batches) :
    ∃ counts : Dict String Nat, Counted (batches.flatMap items) counts ∧
      (∃ w, perform now config (.counter batches) =
        .ok (.obj (Dict.mapValues (fun n : Nat => Json.ofInt n) counts), w)) ∧
      ∀ others, Addressable others → (others.flatMap items).Perm (batches.flatMap items) →
        ∃ w, perform now config (.counter others) =
          .ok (.obj (Dict.mapValues (fun n : Nat => Json.ofInt n) counts), w) := by
  refine ⟨_, counted_tally _, perform_counter now patient h, fun others fit same => ?_⟩
  rw [← Counter.tally_perm same]
  exact perform_counter now patient fit

/-- Blanks and empty pieces are not counted, and it does not matter where batches end. -/
theorem counter_answers_counts_twoBatches : ∃ counts : Dict String Nat,
    Dict.get? counts "a" = some 2 ∧ Dict.get? counts "é" = some 1 ∧ Dict.get? counts "" = none ∧
    (counts.map (·.2)).sum = 4 ∧
    ∀ batches ∈ [["a, z,,é ", "\u3000a"], ["z", " , a,a", "é"]],
      ∃ w, perform ⟨0, 0⟩ {} (.counter batches) =
        .ok (.obj (Dict.mapValues (fun n : Nat => Json.ofInt n) counts), w) := by
  have fit : Addressable ["a, z,,é ", "\u3000a"] := by decide
  have patient : 0 < ({} : Config).requestMs := by decide
  obtain ⟨counts, counted, answered, elsewhere⟩ := counter_answers_counts ⟨0, 0⟩ patient fit
  refine ⟨counts, counted.exact "a", counted.exact "é", counted.exact "", counted.total, ?_⟩
  intro batches hb
  rcases List.mem_cons.mp hb with rfl | hb
  · exact answered
  · rw [List.mem_singleton.mp hb]
    exact elsewhere _ (by decide) (by decide)

end Cli

end EventMesh
