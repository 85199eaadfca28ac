import EventMesh.Identity
import EventMesh.Payload.Serials
import EventMesh.Payload.View

/-!
Events: a topic with a payload and perhaps a scene. Topics are compared exactly. The name and the
time of an event tell it apart from others and decide nothing.
-/

namespace EventMesh

/-- What cells send to one another. -/
structure Event where
  id : EventId
  topic : String
  payload : Payload
  scene : Option SceneId
  createdAt : Time.Wall

namespace Topic

/-- Clears a counter. -/
def reset : String := "reset"

/-- Asks a counter for its counts; the reply goes to the waiter of the payload. -/
def counterResults : String := "counter:results"

/-- Reports two matching events within the window. -/
def pair : String := "pair"

/-- Reports a matching event whose partner is late or missing. -/
def pairTimeout : String := "pair:timeout"

/-- Reminds a pair cell of its pending event. -/
def pairTimeoutCheck : String := "pair:timeout:check"

end Topic

namespace Key

/-- The waiter for the reply to a request. -/
def waiter : String := "waiter"

def pairFirstTime : String := "pair:first:time"
def pairFirstData : String := "pair:first:data"
def pairSecondTime : String := "pair:second:time"
def pairSecondData : String := "pair:second:data"
def pairTimeout : String := "pair:timeout"

end Key

namespace Event

/-- The event of a topic and a source, made at the given time of day. -/
def make (topic : String) (values : Source) (scene : Option SceneId) (now : Time.Wall) :
    StateM Serials Event := do
  let payload ← Serials.makePayload values
  return ⟨.ofSerial (← Serials.takeEvent), topic, payload, scene, now⟩

/-- The text for reading of an event whose payload has the given view. -/
def display (topic : String) (payload : List (String × View)) : String :=
  "<event " ++ Text.quoted topic ++ ": " ++ View.displayPayload payload ++ ">"

end Event

end EventMesh
