import EventMesh.Decimal.Binary64
import EventMesh.Dict
import EventMesh.Table
import EventMesh.Time.Duration
import EventMesh.Time.Wall

/-!
Payloads: immutable dictionaries of typed values. A payload has a storage number; payloads that
share their storage are one and the same map. Main statement: laying a source over a payload gives
the values of the source where it has the key and those of the payload elsewhere (`get?_apply`).
-/

namespace EventMesh

/-- What stands behind a foreign value. -/
inductive ForeignContent where
  | word32 (n : UInt32)
  | word64 (n : Int64)
  | flag (b : Bool)
  | text (s : String)
  deriving DecidableEq

/-- The name of the type of a foreign value. -/
def ForeignContent.typeName : ForeignContent → String
  | .word32 _ => "u32"
  | .word64 _ => "i64"
  | .flag _ => "bool"
  | .text _ => "alloc::string::String"

/-- An application value that the mesh carries and does not interpret; its clones share its number.
-/
structure Foreign where
  number : Nat
  content : ForeignContent
  deriving DecidableEq

mutual

/-- A value of a payload. -/
inductive Value where
  | bool (b : Bool)
  | int (i : Int64)
  | float (x : Decimal.Binary64)
  | str (s : String)
  | time (t : Time.Wall)
  | duration (d : Time.Duration)
  /-- The reply slot of a request. -/
  | waiter (w : WaiterId)
  | strings (items : List String)
  | payload (p : Payload)
  | foreign (f : Foreign)

/-- A dictionary of values with the number of its storage. -/
inductive Payload where
  | mk (storage : Nat) (entries : List (String × Value))

end

/-- The name of the kind of a value. -/
def Value.kind : Value → String
  | .bool _ => "bool"
  | .int _ => "int"
  | .float _ => "float"
  | .str _ => "string"
  | .time _ => "time"
  | .duration _ => "duration"
  | .waiter _ => "waiter"
  | .strings _ => "strings"
  | .payload _ => "payload"
  | .foreign _ => "opaque"

/-- The key of a payload that was built from a single value. -/
def Key.default : String := "default"

/-- What payloads are built from and what is laid over them. -/
inductive Source where
  | empty
  | payload (p : Payload)
  /-- Keys and values; of a repeated key the last one counts. -/
  | pairs (entries : List (String × Value))
  | single (v : Value)

/-- The entries that a source holds. -/
def Source.entries : Source → Dict String Value
  | .empty => []
  | .payload (.mk _ es) => es
  | .pairs ps => Dict.insertAll [] ps
  | .single v => [(Key.default, v)]

namespace Payload

def storage : Payload → Nat
  | .mk s _ => s

def entries : Payload → Dict String Value
  | .mk _ es => es

/-- The payload of a source; an existing payload is used as it is, all else gets the storage given.
-/
def new (src : Source) (fresh : Nat) : Payload :=
  match src with
  | .payload p => p
  | src => .mk fresh src.entries

theorem entries_new (src : Source) (fresh : Nat) : (new src fresh).entries = src.entries := by
  cases src with
  | payload p => cases p; rfl
  | empty | pairs | single => rfl

/-- The payload with the entries of a source laid over its own, in the storage given. Nothing laid
over it leaves it as it is. -/
def apply (p : Payload) (src : Source) (fresh : Nat) : Payload :=
  if src.entries.isEmpty then p else .mk fresh (Dict.insertAll p.entries src.entries)

/-- Whether both are one map. -/
def shares (p q : Payload) : Bool := p.storage == q.storage

def size (p : Payload) : Nat := p.entries.length

def isEmpty (p : Payload) : Bool := p.entries.isEmpty

def get? (p : Payload) (key : String) : Option Value := Dict.get? p.entries key

def contains (p : Payload) (key : String) : Bool := Dict.contains p.entries key

theorem get?_apply (p : Payload) (src : Source) (fresh : Nat) (key : String) :
    (p.apply src fresh).get? key = (Dict.get? src.entries.reverse key).or (p.get? key) := by
  unfold apply
  split
  · simp_all
  · exact Dict.get?_insertAll _ _ _

/-- The value of a payload built from a single value. -/
def getDefault? (p : Payload) : Option Value := p.get? Key.default

/-! ### Typed look-up: a value of another kind is not found -/

def getBool? (p : Payload) (key : String) : Option Bool :=
  match p.get? key with
  | some (.bool b) => some b
  | _ => none

def getInt? (p : Payload) (key : String) : Option Int64 :=
  match p.get? key with
  | some (.int i) => some i
  | _ => none

def getFloat? (p : Payload) (key : String) : Option Decimal.Binary64 :=
  match p.get? key with
  | some (.float x) => some x
  | _ => none

def getString? (p : Payload) (key : String) : Option String :=
  match p.get? key with
  | some (.str s) => some s
  | _ => none

def getTime? (p : Payload) (key : String) : Option Time.Wall :=
  match p.get? key with
  | some (.time t) => some t
  | _ => none

def getDuration? (p : Payload) (key : String) : Option Time.Duration :=
  match p.get? key with
  | some (.duration d) => some d
  | _ => none

def getWaiter? (p : Payload) (key : String) : Option WaiterId :=
  match p.get? key with
  | some (.waiter w) => some w
  | _ => none

def getStrings? (p : Payload) (key : String) : Option (List String) :=
  match p.get? key with
  | some (.strings items) => some items
  | _ => none

def getPayload? (p : Payload) (key : String) : Option Payload :=
  match p.get? key with
  | some (.payload q) => some q
  | _ => none

def getForeign? (p : Payload) (key : String) : Option Foreign :=
  match p.get? key with
  | some (.foreign f) => some f
  | _ => none

/-- Visits the entries until the visitor fails, and gives the number of entries accepted with the
failure, if any. -/
def visit {ε : Type} (p : Payload) (accept : Nat → String → Value → Except ε Unit) :
    Nat × Except ε Unit :=
  go 0 p.entries
where
  go (seen : Nat) : List (String × Value) → Nat × Except ε Unit
    | [] => (seen, .ok ())
    | (key, v) :: rest =>
      match accept seen key v with
      | .ok () => go (seen + 1) rest
      | .error e => (seen, .error e)

end Payload

end EventMesh
