import EventMesh.Behavior.Resident

/-!
Actors: behaviors given by rules. An actor does the acts of the first rule that matches an event,
one after the other, and writes down every call it gets. Actors try out a mesh from inside: they
emit, reply, store, schedule, start cells, fail and panic as told.
-/

namespace EventMesh

open Time

/-- How an actor makes an event. -/
structure Template where
  topic : String
  values : Source
  /-- Whether the new event shares the scene of the event at hand. -/
  inherits : Bool := false

/-- What an actor may do about an event. -/
inductive Act where
  | emit (t : Template)
  /-- Emits the event at hand. -/
  | echo
  | emitTo (target : CellId) (t : Template)
  /-- Sends the event at hand on. -/
  | forward (target : CellId)
  /-- Schedules an event and remembers its reminder. -/
  | after (delay : Duration) (t : Template)
  /-- Cancels the remembered reminder and forgets it. -/
  | cancel
  /-- Answers the waiter of the event. -/
  | reply (values : Source)
  /-- Writes on the scene of the event. -/
  | store (key : String) (values : Source)
  /-- Looks at the outlet. -/
  | look
  | fail (e : BehaviorError)
  | panic (p : Panic)

/-- What came of an act. -/
inductive ActResult where
  | ended (r : Except BehaviorError Unit)
  | scheduled
  | cancelled (had : Bool)
  | replied (won : Bool)
  | noScene
  | outlet (id : CellId) (inspection : Option String)

/-- What an actor writes down. -/
inductive Entry where
  | init (id : CellId)
  | startedSelf (r : Except MeshError Unit)
  | handled (topic : String) (payload : List (String × View)) (hasScene : Bool)
      (results : List ActResult) (panicked : Bool)
  | recover (fault : BehaviorError)
  | terminate

/-- The acts for one topic, or for any. -/
structure Rule where
  topic : Option String
  acts : List Act

/-- What an actor does when it is started. -/
inductive Opening where
  | succeed
  /-- Starts a scene keeper under its own name in its own mesh. -/
  | startSelf
  /-- Starts to shut its own mesh down. -/
  | stopMesh
  | fail (e : BehaviorError)

/-- How an actor ends one of its last calls. -/
inductive Reaction where
  | succeed
  | fail (e : BehaviorError)
  | panic (p : Panic)

def Reaction.outcome : Reaction → Outcome
  | .succeed => .done
  | .fail e => .failed e
  | .panic p => .panicked p

/-- A behavior given by rules. -/
structure Actor where
  rules : List Rule
  opening : Opening := .succeed
  onRecover : Reaction := .succeed
  onTerminate : Reaction := .succeed
  outlet : Option Outlet := none
  reminder : Option ReminderId := none
  log : List Entry := []

namespace Actor

/-- What a script of an actor leaves behind. -/
abbrev Play := Script (Resident Actor)

def write (a : Actor) (entry : Entry) : Actor := { a with log := a.log ++ [entry] }

/-- The acts for a topic, those of the first rule that matches. -/
def actsFor (a : Actor) (topic : String) : List Act :=
  ((a.rules.find? fun rule => rule.topic.all (· == topic)).map (·.acts)).getD []

/-- Makes the event of a template while another event is at hand. -/
def create (t : Template) (e : Event) (k : Event → Play) : Play :=
  .create t.topic t.values (if t.inherits then e.scene else none) k

/-- Ends the handling of an event, written down together with what came of the acts. -/
def close (a : Actor) (e : Event) (results : List ActResult) (outcome : Outcome) : Play :=
  .survey fun s =>
    let panicked := match outcome with
      | .panicked _ => true
      | .done | .failed _ => false
    let entry := .handled e.topic (e.payload.view s.answered) e.scene.isSome results panicked
    .finish (.custom (a.write entry)) outcome

/-- Does acts in order, up to the first that fails or panics. -/
def perform (e : Event) (outlet : Outlet) : List Act → Actor → List ActResult → Play
  | [], a, results => a.close e results .done
  | act :: rest, a, results =>
    let goOn (result : ActResult) : Play := perform e outlet rest a (results ++ [result])
    let stop (err : BehaviorError) : Play :=
      a.close e (results ++ [.ended (.error err)]) (.failed err)
    let ended : Except BehaviorError Unit → Play
      | .ok () => goOn (.ended (.ok ()))
      | .error err => stop err
    match act with
    | .emit t => create t e fun made => .emit outlet made ended
    | .echo => .emit outlet e ended
    | .emitTo target t => create t e fun made => .emitTo outlet target made ended
    | .forward target => .emitTo outlet target e ended
    | .after delay t => create t e fun made => .emitAfter outlet delay made fun reminder =>
        perform e outlet rest { a with reminder := some reminder } (results ++ [.scheduled])
    | .cancel =>
      match a.reminder with
      | none => goOn (.cancelled false)
      | some reminder => .cancelReminder reminder <|
          perform e outlet rest { a with reminder := none } (results ++ [.cancelled true])
    | .reply values =>
      match e.payload.getWaiter? Key.waiter with
      | none => stop (.invalidPayload "no waiter")
      | some waiter => .build values fun p => .answer waiter p fun won => goOn (.replied won)
    | .store key values =>
      match e.scene with
      | none => goOn .noScene
      | some scene => .build values fun p => .store scene key p fun
          | .ok () => goOn (.ended (.ok ()))
          | .error err => stop (.event err)
    | .look => goOn (.outlet outlet.id outlet.inspect?)
    | .fail err => stop err
    | .panic p => a.close e results (.panicked p)

def process (a : Actor) (e : Event) : Play :=
  match a.actsFor e.topic, a.outlet with
  | [], _ => a.close e [] .done
  | _ :: _, none =>
    let err := .executionFailed "no cell"
    a.close e [.ended (.error err)] (.failed err)
  | acts, some outlet => perform e outlet acts a []

/-- The mesh of an outlet. -/
def meshOf? : Outlet → Option MeshId
  | .cell mesh _ _ _ => some mesh
  | .bench _ _ => none

def init (a : Actor) (outlet : Outlet) : Play :=
  let ready := { a with outlet := some outlet }.write (.init outlet.id)
  match a.opening, meshOf? outlet with
  | .fail err, _ => .finish (.custom ready) (.failed err)
  | .startSelf, some mesh =>
    .start mesh outlet.id (.sceneKeeper {}) (fun _ => .finish (.sceneKeeper {}) .done) fun r =>
      .finish (.custom (ready.write (.startedSelf r))) .done
  | .stopMesh, some mesh => .stopMesh mesh (.finish (.custom ready) .done)
  | _, _ => .finish (.custom ready) .done

def recover (a : Actor) (fault : BehaviorError) : Play :=
  .finish (.custom (a.write (.recover fault))) a.onRecover.outcome

def terminate (a : Actor) : Play :=
  .finish (.custom (a.write .terminate)) a.onTerminate.outcome

instance : CustomBehavior Actor where
  init := init
  process := process
  recover := recover
  terminate := terminate

end Actor

end EventMesh
