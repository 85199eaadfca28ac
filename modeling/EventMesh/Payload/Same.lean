import EventMesh.Payload.Basic

/-!
Equality of values and payloads. Payloads that share their storage are equal at once; others are
equal when they have the same keys with equal values. Waiters and foreign values compare by identity
and floats by arithmetic equality, so that a NaN equals nothing and yet a payload that holds one
equals itself.
-/

namespace EventMesh

mutual

/-- Equality of values. -/
def Value.same : Value → Value → Bool
  | .bool a, .bool b => a == b
  | .int a, .int b => a == b
  | .float a, .float b => a.same b
  | .str a, .str b => a == b
  | .time a, .time b => a == b
  | .duration a, .duration b => a == b
  | .waiter a, .waiter b => a == b
  | .strings a, .strings b => a == b
  | .payload a, .payload b => Payload.same a b
  | .foreign a, .foreign b => a.number == b.number
  | _, _ => false

/-- Equality of payloads. -/
def Payload.same : Payload → Payload → Bool
  | .mk s es, .mk t fs => s == t || (es.length == fs.length && sameEntries es fs)

/-- Whether every entry of the first list is in the second with an equal value. -/
def sameEntries : List (String × Value) → List (String × Value) → Bool
  | [], _ => true
  | (key, v) :: rest, fs =>
    (match Dict.get? fs key with
      | some u => Value.same v u
      | none => false) && sameEntries rest fs

end

end EventMesh
