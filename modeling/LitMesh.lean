import LitMesh.Vector
import LitMesh.Matrix
import LitMesh.Color
import LitMesh.Log
import LitMesh.Run
import LitMesh.Light
import LitMesh.Light.Set
import LitMesh.Device.State
import LitMesh.Mesh
import LitMesh.Device.Command
import LitMesh.Device.RegisterFile
import LitMesh.Device.Hardware
import LitMesh.Device
import LitMesh.Material
import LitMesh.Shader.Variant
import LitMesh.Shader.Table
import LitMesh.Context
import LitMesh.Text.Name
import LitMesh.Ron.Blank
import LitMesh.Ron.Name
import LitMesh.Ron.Number
import LitMesh.Ron.Quoted
import LitMesh.Ron.Value
import LitMesh.Ron.Record
import LitMesh.Ron.Document
import LitMesh.Config.Layout
import LitMesh.Config
import LitMesh.Config.Ron
import LitMesh.Data
import LitMesh.Config.Data
import LitMesh.Render.Report
import LitMesh.View
import LitMesh.Render.Plan
import LitMesh.Render
import LitMesh.Scene
import LitMesh.Demo
import LitMesh.Main
import LitMesh.Proofs.Matrix.Transpose
import LitMesh.Proofs.Config.Layout
import LitMesh.Proofs.Config.Validation
import LitMesh.Proofs.Device.Location
import LitMesh.Proofs.Device.Atomicity
import LitMesh.Proofs.Device.Resources
import LitMesh.Proofs.Device.Registers
import LitMesh.Proofs.Light.Resolution
import LitMesh.Proofs.Light.Weight
import LitMesh.Proofs.Light.Sorting
import LitMesh.Proofs.Light.Active
import LitMesh.Proofs.Render.Pass
import LitMesh.Proofs.Render.Step
import LitMesh.Proofs.Render.Draw
import LitMesh.Proofs.Render.Commands
import LitMesh.Proofs.Shader.Selection
import LitMesh.Proofs.Render.Failures
import LitMesh.Proofs.Render.Effects
import LitMesh.Proofs.Render.Changes
import LitMesh.Proofs.Render.Accounts
import LitMesh.Proofs.Render.WorldMatrix
import LitMesh.Proofs.Render.Alike
import LitMesh.Proofs.Render.Frame
import LitMesh.Proofs.Render.InStep
import LitMesh.Proofs.Scene.Cache
import LitMesh.Proofs.Scene.Lights
import LitMesh.Proofs.Scene.Undrawn
import LitMesh.Proofs.Scene.Changes
import LitMesh.Proofs.Scene.Apart
import LitMesh.Proofs.Scene.Recovery
import LitMesh.Proofs.Scene.InactiveLights
import LitMesh.Proofs.Shader.Table
import LitMesh.Proofs.Render.Domain
import LitMesh.Proofs.Render.ActiveLights
import LitMesh.Proofs.Ron.Blank
import LitMesh.Proofs.Ron.Token
import LitMesh.Proofs.Ron.Record
import LitMesh.Proofs.Config.Ron
import LitMesh.Proofs.Config.Data
import LitMesh.Proofs.Config.Overlay
