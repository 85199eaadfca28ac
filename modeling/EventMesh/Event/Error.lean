import EventMesh.ErrorCode
import EventMesh.Json.Basic

/-!
What goes wrong around an event: a wait ends before its value, which can be tried again, or a scene
key is taken, for good. Main statement: the JSON form of an error reads back as the error
(`ofJson?_toJson`).
-/

namespace EventMesh

/-- Errors of waits and scenes. -/
inductive EventError where
  | cancelled
  | deadlineExceeded
  | sceneKeyExists (key : String)
  deriving DecidableEq

namespace EventError

def code : EventError → String
  | .cancelled => "EVENT_CANCELLED"
  | .deadlineExceeded => "EVENT_DEADLINE_EXCEEDED"
  | .sceneKeyExists _ => "EVENT_SCENE_KEY_EXISTS"

def message : EventError → String
  | .cancelled => "wait cancelled"
  | .deadlineExceeded => "deadline exceeded"
  | .sceneKeyExists key => "scene key already stored: " ++ key

/-- Whether the error is the end of a wait. -/
def isCancellation : EventError → Bool
  | .cancelled | .deadlineExceeded => true
  | .sceneKeyExists _ => false

instance : Coded EventError where
  code := code
  message := message
  isRecoverable := isCancellation

def inspect : EventError → String
  | .cancelled => "Cancelled"
  | .deadlineExceeded => "DeadlineExceeded"
  | .sceneKeyExists key => "SceneKeyExists(" ++ Text.quoted key ++ ")"

/-- The name of a bare case, or an object from the name of the case to its content. -/
def toJson : EventError → Json
  | .cancelled => .str "Cancelled"
  | .deadlineExceeded => .str "DeadlineExceeded"
  | .sceneKeyExists key => .obj [("SceneKeyExists", .str key)]

/-- Reads the JSON form; a bare case may also be an object from its name to `null`. -/
def ofJson? : Json → Option EventError
  | .str "Cancelled" | .obj [("Cancelled", .null)] => some .cancelled
  | .str "DeadlineExceeded" | .obj [("DeadlineExceeded", .null)] => some .deadlineExceeded
  | .obj [("SceneKeyExists", .str key)] => some (.sceneKeyExists key)
  | _ => none

theorem ofJson?_toJson (e : EventError) : ofJson? e.toJson = some e := by
  cases e <;> rfl

end EventError

end EventMesh
