import EventMesh.Event.Error
import EventMesh.Wait.Waiter

/-!
Scenes: boards on which every key is written once. For each key there is a flag, with a slot that is
set when the key is written; the flag of an unwritten key lives while someone waits for it.
-/

namespace EventMesh

/-- The flag of a key. -/
structure Flag where
  slot : FlagId
  /-- How many wait for the flag. -/
  waiting : Nat

/-- A write-once board. -/
structure Scene where
  stored : Dict String Payload := []
  flags : Dict String Flag := []

abbrev Scenes := Table .scene Scene

namespace Scene

/-- The payload under a key. -/
def fetch? (s : Scene) (key : String) : Option Payload := Dict.get? s.stored key

/-- How many keys are written. -/
def size (s : Scene) : Nat := s.stored.length

/-- The flag of a key; a new one takes the slot given. -/
def flag (s : Scene) (key : String) (fresh : FlagId) : Flag :=
  (Dict.get? s.flags key).getD ⟨fresh, 0⟩

/-- Someone starts to wait for a key, with the given slot for a flag that is not there yet. -/
def hold (s : Scene) (key : String) (fresh : FlagId) : Scene :=
  let flag := s.flag key fresh
  { s with flags := Dict.insert s.flags key { flag with waiting := flag.waiting + 1 } }

/-- Someone stops waiting for a key; the flag of an unwritten key goes with the last one. -/
def unhold (s : Scene) (key : String) : Scene :=
  match Dict.get? s.flags key with
  | none => s
  | some flag =>
    if flag.waiting ≤ 1 ∧ !Dict.contains s.stored key then
      { s with flags := Dict.erase s.flags key }
    else
      { s with flags := Dict.insert s.flags key { flag with waiting := flag.waiting - 1 } }

/-- The board with a payload under a key and its flag, which takes the slot given if it is new. -/
def store (s : Scene) (key : String) (p : Payload) (fresh : FlagId) : Scene where
  stored := Dict.insert s.stored key p
  flags := Dict.insert s.flags key (s.flag key fresh)

end Scene

end EventMesh
