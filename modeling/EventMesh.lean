import EventMesh.Text.Blank
import EventMesh.Text.Quoted
import EventMesh.Decimal.Digits
import EventMesh.Decimal.Style
import EventMesh.Time.Clock
import EventMesh.Dict
import EventMesh.Config.Sandbox
import EventMesh.Main
import EventMesh.ErrorCode
import EventMesh.Identity
import EventMesh.Json.Printer
import EventMesh.Json.Reader
import EventMesh.Payload.Same
import EventMesh.Payload.View
import EventMesh.Event.Basic
import EventMesh.Wait.Context
import EventMesh.Wait.Scene
import EventMesh.Behavior.Actor
import EventMesh.Mesh.Trial
import EventMesh.Mesh.Turn
import EventMesh.Proofs.Config.Variables
import EventMesh.Proofs.Mesh.Run
import EventMesh.Proofs.Mesh.Loop
import EventMesh.Proofs.Mesh.Incarnation
import EventMesh.Proofs.Mesh.Delivery
import EventMesh.Proofs.Mesh.Registry
import EventMesh.Proofs.Mesh.Settled
import EventMesh.Proofs.Mesh.Succession
import EventMesh.Proofs.Mesh.Routes
import EventMesh.Proofs.Mesh.CallOrder
import EventMesh.Proofs.Behavior.Attempts
import EventMesh.Proofs.Behavior.PairMachine
import EventMesh.Proofs.Behavior.StaleCheck
import EventMesh.Proofs.Behavior.Bench
import EventMesh.Proofs.Behavior.WallClock
import EventMesh.Proofs.Behavior.Window
import EventMesh.Proofs.Wait.Rendezvous
import EventMesh.Proofs.Wait.Derivation
import EventMesh.Proofs.Wait.Board
import EventMesh.Proofs.Wait.Flag
import EventMesh.Proofs.Mesh.Count
import EventMesh.Proofs.Mesh.Reminder
import EventMesh.Proofs.Mesh.CallOff
import EventMesh.Proofs.Mesh.Request
import EventMesh.Proofs.Mesh.Joining
import EventMesh.Proofs.Mesh.Refusal
import EventMesh.Proofs.Mesh.FanOut
import EventMesh.Proofs.Payload.Overlay
import EventMesh.Proofs.Payload.Equality
import EventMesh.Proofs.Cli.Counting
import EventMesh.Proofs.Cli.Pairing
import EventMesh.Proofs.Behavior.Replay
import EventMesh.Proofs.CodeFormat
