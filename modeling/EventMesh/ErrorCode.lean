import EventMesh.Text.Quoted
import EventMesh.Text.Split

/-!
Stable codes of errors: words of capital letters and digits joined by single underscores, the first
words naming the layer. The check of a list of codes reports the first code at fault, and a missing
layer before a wrong format.
-/

namespace EventMesh

/-- An error that has a stable code, a text and a hint whether trying again may succeed. -/
class Coded (ε : Type) where
  code : ε → String
  message : ε → String
  isRecoverable : ε → Bool

namespace ErrorCode

/-- Whether a character may stand in a word of a code. -/
def isWordChar (c : Char) : Bool := ('A' ≤ c && c ≤ 'Z') || ('0' ≤ c && c ≤ '9')

/-- Whether a text is words of capital letters and digits joined by single underscores. -/
def isUpperSnake (code : String) : Bool :=
  (Text.split '_' code.toList).all fun word => !word.isEmpty && word.all isWordChar

/-- Why a code is refused. -/
inductive Complaint where
  /-- The code does not start with the layer, or nothing follows it. -/
  | layer (code expected : String)
  | format (code : String)
  deriving DecidableEq

/-- The text of a complaint. -/
def Complaint.message : Complaint → String
  | .layer code expected =>
    Text.quoted code ++ " lacks the " ++ Text.quoted expected ++
      " prefix or has nothing after it"
  | .format code => Text.quoted code ++ " is not UPPER_SNAKE_CASE"

/-- Whether a code starts with the layer and goes on after it. -/
def extends? (code layer : String) : Bool :=
  layer.toList.isPrefixOf code.toList && code.toList.length > layer.toList.length

/-- What is wrong with a code of the given layer. -/
def complaint? (layer code : String) : Option Complaint :=
  if !extends? code layer then some (.layer code layer)
  else if !isUpperSnake code then some (.format code)
  else none

/-- The complaint about the first error of the list whose code is refused. -/
def check {ε : Type} [Coded ε] (errors : List ε) (layer : String) : Option Complaint :=
  errors.findSome? fun e => complaint? layer (Coded.code e)

end ErrorCode

end EventMesh
