import EventMesh.Behavior.Counter
import EventMesh.Behavior.Pair
import EventMesh.Behavior.SceneKeeper

/-!
Residents: what may live in the cells of one mesh, the ready-made behaviors and those of an
application. A script of an application's behavior may start any resident.
-/

namespace EventMesh

/-- A ready-made behavior or one of an application, of type `γ`. -/
inductive Resident (γ : Type) where
  | counter (c : Counter)
  | pair (p : Pair)
  | sceneKeeper (k : SceneKeeper)
  | custom (g : γ)

/-- The four calls of an application's behaviors, whose scripts leave a resident. -/
class CustomBehavior (γ : Type) where
  init : γ → Outlet → Script (Resident γ)
  process : γ → Event → Script (Resident γ)
  recover : γ → BehaviorError → Script (Resident γ)
  terminate : γ → Script (Resident γ)

namespace Resident

variable {γ : Type} [CustomBehavior γ]

def init (r : Resident γ) (outlet : Outlet) : Script (Resident γ) :=
  match r with
  | .counter c => (Behavior.init c outlet).map .counter
  | .pair p => (Behavior.init p outlet).map .pair
  | .sceneKeeper k => (Behavior.init k outlet).map .sceneKeeper
  | .custom g => CustomBehavior.init g outlet

def process (r : Resident γ) (e : Event) : Script (Resident γ) :=
  match r with
  | .counter c => (Behavior.process c e).map .counter
  | .pair p => (Behavior.process p e).map .pair
  | .sceneKeeper k => (Behavior.process k e).map .sceneKeeper
  | .custom g => CustomBehavior.process g e

def recover (r : Resident γ) (fault : BehaviorError) : Script (Resident γ) :=
  match r with
  | .counter c => (Behavior.recover c fault).map .counter
  | .pair p => (Behavior.recover p fault).map .pair
  | .sceneKeeper k => (Behavior.recover k fault).map .sceneKeeper
  | .custom g => CustomBehavior.recover g fault

def terminate (r : Resident γ) : Script (Resident γ) :=
  match r with
  | .counter c => (Behavior.terminate c).map .counter
  | .pair p => (Behavior.terminate p).map .pair
  | .sceneKeeper k => (Behavior.terminate k).map .sceneKeeper
  | .custom g => CustomBehavior.terminate g

instance : Behavior (Resident γ) where
  init := init
  process := process
  recover := recover
  terminate := terminate

end Resident

end EventMesh
