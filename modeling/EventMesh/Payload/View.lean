import EventMesh.Decimal.Style
import EventMesh.Json.Basic
import EventMesh.Payload.Basic
import EventMesh.Text.Quoted

/-!
What can be seen of a value: everything but the identity of storages, waiters and foreign values.
All texts of values are texts of views: for reading (`display`), for inspection (`inspect`), and as
JSON.
-/

namespace EventMesh

/-- A value as an observer sees it; of a waiter, whether it has been answered. -/
inductive View where
  | bool (b : Bool)
  | int (i : Int64)
  | float (x : Decimal.Binary64)
  | str (s : String)
  | time (t : Time.Wall)
  | duration (d : Time.Duration)
  | waiter (answered : Bool)
  | strings (items : List String)
  | payload (entries : List (String × View))
  | foreign (typeName : String)

mutual

/-- The view of a value when the waiters have been answered as told. -/
def Value.view (answered : WaiterId → Bool) : Value → View
  | .bool b => .bool b
  | .int i => .int i
  | .float x => .float x
  | .str s => .str s
  | .time t => .time t
  | .duration d => .duration d
  | .waiter w => .waiter (answered w)
  | .strings items => .strings items
  | .payload p => .payload (Payload.view answered p)
  | .foreign f => .foreign f.content.typeName

/-- The views of the values of a payload, under their keys. -/
def Payload.view (answered : WaiterId → Bool) : Payload → List (String × View)
  | .mk _ es => viewEntries answered es

def viewEntries (answered : WaiterId → Bool) : List (String × Value) → List (String × View)
  | [] => []
  | (key, v) :: rest => (key, Value.view answered v) :: viewEntries answered rest

end

namespace View

/-- The inspection text of a waiter. -/
def inspectWaiter (answered : Bool) : String :=
  "PayloadWaiter \x7b set: " ++ toString answered ++ " \x7d"

/-- The inspection text of a foreign value. -/
def inspectForeign (typeName : String) : String :=
  "OpaqueValue \x7b type: " ++ Text.quoted typeName ++ " \x7d"

def commas (parts : List String) : String := String.intercalate ", " parts

mutual

/-- The text for reading. -/
def display : View → String
  | .bool b => toString b
  | .int i => toString i.toInt
  | .float x => x.text .plain
  | .str s => s
  | .time t => t.rfc3339
  | .duration d => d.inspect
  | .waiter _ => "<waiter>"
  | .strings items => "[" ++ String.intercalate " " items ++ "]"
  | .payload es => "\x7b" ++ commas (displayEntries es) ++ "\x7d"
  | .foreign typeName => "<opaque " ++ typeName ++ ">"

def displayEntries : List (String × View) → List String
  | [] => []
  | (key, v) :: rest =>
    ("<" ++ Text.quoted key ++ ": " ++ display v ++ ">") :: displayEntries rest

end

/-- The text for reading of a whole payload. -/
def displayPayload (es : List (String × View)) : String := commas (displayEntries es)

mutual

/-- The text for inspection. -/
def inspect : View → String
  | .bool b => "Bool(" ++ toString b ++ ")"
  | .int i => "Int(" ++ toString i.toInt ++ ")"
  | .float x => "Float(" ++ x.text .inspect ++ ")"
  | .str s => "String(" ++ Text.quoted s ++ ")"
  | .time t => "Time(" ++ t.inspect ++ ")"
  | .duration d => "Duration(" ++ d.inspect ++ ")"
  | .waiter answered => "Waiter(" ++ inspectWaiter answered ++ ")"
  | .strings items => "Strings([" ++ commas (items.map Text.quoted) ++ "])"
  | .payload es => "Payload(\x7b" ++ commas (inspectEntries es) ++ "\x7d)"
  | .foreign typeName => "Opaque(" ++ inspectForeign typeName ++ ")"

def inspectEntries : List (String × View) → List String
  | [] => []
  | (key, v) :: rest => (Text.quoted key ++ ": " ++ inspect v) :: inspectEntries rest

end

/-- The text for inspection of a whole payload. -/
def inspectPayload (es : List (String × View)) : String :=
  "\x7b" ++ commas (inspectEntries es) ++ "\x7d"

mutual

/-- The JSON value; what has no data of its own is a describing string, and a float that is not
finite is `null`. -/
def toJson : View → Json
  | .bool b => .bool b
  | .int i => .ofInt i.toInt
  | .float x => if x.isFinite then .number (x.text .json) else .null
  | .str s => .str s
  | .time t => .str t.rfc3339
  | .duration d => .str d.inspect
  | .waiter _ => .str "<waiter>"
  | .strings items => .arr (items.map .str)
  | .payload es => .obj (jsonEntries es)
  | .foreign typeName => .str ("<opaque " ++ typeName ++ ">")

def jsonEntries : List (String × View) → List (String × Json)
  | [] => []
  | (key, v) :: rest => (key, toJson v) :: jsonEntries rest

end

mutual

/-- Whether no payload inside the view has two entries or more, so that its texts do not depend on
the order in which entries are listed. -/
def isLinear : View → Bool
  | .payload es => linearEntries es
  | _ => true

def linearEntries : List (String × View) → Bool
  | [] => true
  | [(_, v)] => isLinear v
  | _ => false

end

end View

end EventMesh
