import EventMesh.Behavior.Script

/-!
Counters: they count the keys that a function finds in each event. A reset clears the counts, and a
request for them is answered on the waiter it carries; neither is counted. Main statement: counting
a list of keys raises the count of each by the number of times it is in the list (`get?_tally`).
-/

namespace EventMesh

/-- The keys that an event counts for; a key given twice is counted twice. -/
abbrev KeyFinder := CellId → Event → Except Panic (List String)

namespace KeyFinder

/-- Counts topics. -/
def topic : KeyFinder := fun _ e => .ok [e.topic]

/-- Counts the texts of the list under the default key; other events count for nothing. -/
def defaultStrings : KeyFinder := fun _ e => .ok ((e.payload.getStrings? Key.default).getD [])

/-- Counts topics under the name of the cell. -/
def cellAndTopic : KeyFinder := fun id e => .ok [id.text ++ "/" ++ e.topic]

/-- Counts the keys of the payload. -/
def payloadKeys : KeyFinder := fun _ e => .ok (Dict.keys e.payload.entries)

/-- Counts the same keys for every event. -/
def always (keys : List String) : KeyFinder := fun _ _ => .ok keys

end KeyFinder

/-- A counter. -/
structure Counter where
  keysOf : KeyFinder
  outlet : Option Outlet := none
  counts : Dict String Nat := []

namespace Counter

/-- The counts after each of the keys was counted once more. -/
def tally (counts : Dict String Nat) (keys : List String) : Dict String Nat :=
  keys.foldl (fun d key => Dict.insert d key ((Dict.get? d key).getD 0 + 1)) counts

/-- The counts as the values of a payload, in words of 64 bits. -/
def snapshot (counts : Dict String Nat) : List (String × Value) :=
  Dict.mapValues (fun n => .int (Int64.ofNat n)) counts

def init (c : Counter) (outlet : Outlet) : Script Counter :=
  .finish { c with outlet := some outlet } .done

def process (c : Counter) (e : Event) : Script Counter :=
  if e.topic = Topic.reset then .finish { c with counts := [] } .done
  else if e.topic = Topic.counterResults then
    match e.payload.getWaiter? Key.waiter with
    | none =>
      .finish c (.failed (.invalidPayload (Topic.counterResults ++ " without waiter")))
    | some waiter =>
      .build (.pairs (snapshot c.counts)) fun p =>
        .answer waiter p fun _ => .finish c .done
  else match c.outlet with
    | none => .finish c (.failed (.executionFailed "counter behavior not initialised"))
    | some outlet =>
      match c.keysOf outlet.id e with
      | .error panic => .finish c (.panicked panic)
      | .ok keys => .finish { c with counts := tally c.counts keys } .done

instance : Behavior Counter where
  init := init
  process := process

theorem get?_tally (counts : Dict String Nat) (keys : List String) (key : String) :
    (Dict.get? (tally counts keys) key).getD 0 =
      (Dict.get? counts key).getD 0 + keys.count key := by
  induction keys generalizing counts with
  | nil => rfl
  | cons k keys ih =>
    have step := ih (Dict.insert counts k ((Dict.get? counts k).getD 0 + 1))
    rw [Dict.get?_insert] at step
    rw [show tally counts (k :: keys) =
      tally (Dict.insert counts k ((Dict.get? counts k).getD 0 + 1)) keys from rfl, step]
    by_cases h : k = key
    · subst h
      simp only [↓reduceIte, Option.getD_some, List.count_cons_self]
      omega
    · simp [h]

end Counter

end EventMesh
