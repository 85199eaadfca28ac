import EventMesh.Behavior.Script

/-!
Scene keepers: they write the payload of each event on the event's scene, under its topic, so that
whoever shares the scene can wait for a topic.
-/

namespace EventMesh

/-- A scene keeper has no state. -/
structure SceneKeeper where

namespace SceneKeeper

def process (k : SceneKeeper) (e : Event) : Script SceneKeeper :=
  match e.scene with
  | none => .finish k .done
  | some scene =>
    .store scene e.topic e.payload fun
      | .ok () => .finish k .done
      | .error err => .finish k (.failed (.event err))

instance : Behavior SceneKeeper where
  init k _ := .finish k .done
  process := process

end SceneKeeper

end EventMesh
