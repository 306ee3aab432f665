import ECam.Library.Run
import ECam.Library.Linearization
import ECam.Library.Table
import ECam.Library.Text
import ECam.Library.Json
import ECam.Library.Http
import ECam.Library.Interleaving
import ECam.Library.Loop
import ECam.Library.Copy
import ECam.Library.Ownership
import ECam.Library.Ring
import ECam.Library.Bits
import ECam.Library.Fallible
import ECam.Library.Pool
import ECam.Server.Models
import ECam.Server.Manager
import ECam.Server.Commands
import ECam.Server.Effects
import ECam.Server.TaskQueue
import ECam.Server.Dispatch
import ECam.Server.Outcomes
import ECam.Server.Atomicity
import ECam.Server.Progress
import ECam.Server.Routes
import ECam.Server.WaypointMap
import ECam.Server.PathfinderUpdates
import ECam.Server.Waiting
import ECam.Server.Isolation
import ECam.Server.Concurrency
import ECam.Server.Serializability
import ECam.Server.Crud
import ECam.Client.Api
import ECam.Client.Senders
import ECam.Client.StatusReport
import ECam.Client.JsonBody
import ECam.Client.HttpRequests
import ECam.Client.Buffers
import ECam.Client.WifiConnection
import ECam.Camera.DmaSizes
import ECam.Camera.Descriptors
import ECam.Camera.Memcpy
import ECam.Camera.Jpeg
import ECam.Camera.Driver
import ECam.Camera.Ownership
import ECam.Camera.Changes
import ECam.Camera.HeldFrames
import ECam.Camera.Filling
import ECam.Camera.Bounds
import ECam.Camera.Stream
import ECam.Camera.Delivery
import ECam.Camera.Direct
import ECam.Camera.JpegFrames
import ECam.Camera.Availability
import ECam.Camera.Lifecycle.Calls
import ECam.Camera.Lifecycle.Allocations
import ECam.Camera.Lifecycle.Channels
import ECam.Camera.Lifecycle
import ECam.Camera.SensorSettings
import ECam.Camera.Sensor
import ECam.Camera.SensorRegisters
import ECam.Camera.SensorCalls
import ECam.Camera.SensorWrites
import ECam.Camera.SensorWindow
import ECam.Camera.SensorStatus
import ECam.Camera.SensorStorage
import ECam.QrPosing.Frame
import ECam.QrPosing.Detector
import ECam.QrPosing.FrameIndependence
import ECam.QrPosing.Trace
import ECam.QrPosing.Buffer
import ECam.QrPosing.Candidates
import ECam.QrPosing.Soundness
import ECam.QrPosing.Reads
import ECam.QrPosing.SingleMarker
import ECam.QrPosing.Pipeline
import ECam.QrPosing.TwoMarkers.Entries
import ECam.QrPosing.TwoMarkers
import ECam.QrPosing.Translation.Traces
import ECam.QrPosing.Translation
import ECam.QrPosing.Mirror.Traces
import ECam.QrPosing.Mirror.Rows
import ECam.QrPosing.Mirror
import ECam.ImageProcessing.SerialTransfer
import ECam.ImageProcessing.Synchronization
import ECam.ImageProcessing.Resize
import ECam.ImageProcessing.Transmission
import ECam.ImageProcessing.Crop
import ECam.ImageProcessing.ImageFile
import ECam.ImageProcessing.SampleMode
