import AirQuality.Firmware.Board
import AirQuality.Theorems.Simulator
import AirQuality.Theorems.History
import AirQuality.Theorems.Live
import AirQuality.Theorems.Acceptance
import AirQuality.Theorems.Aqi
import AirQuality.Theorems.Caches
import AirQuality.Theorems.Confirmation
import AirQuality.Theorems.Devices
import AirQuality.Theorems.Downlink
import AirQuality.Theorems.Dropped
import AirQuality.Theorems.Lorawan
import AirQuality.Theorems.Node
import AirQuality.Theorems.Persistence
import AirQuality.Theorems.Reading
import AirQuality.Theorems.Registry
import AirQuality.Theorems.Report
import AirQuality.Theorems.Settings
import AirQuality.Theorems.Uplink
import AirQuality.Theorems.RoundTrip
import AirQuality.Theorems.Scale
import AirQuality.Dashboard.Stats
import AirQuality.Theorems.Picture
import AirQuality.Theorems.Polling
import AirQuality.Api.Responses
import AirQuality.Dashboard.HttpService
import AirQuality.Theorems.Headline
import AirQuality.Theorems.Places
import AirQuality.Theorems.Routes
import AirQuality.Dashboard.Series
import AirQuality.Lib.Widest
import AirQuality.Theorems.Coverage
import AirQuality.Theorems.Overlap
import AirQuality.Dashboard.Requests
import AirQuality.Theorems.InFlight
import AirQuality.Firmware.Bme
import AirQuality.Theorems.Bme
import AirQuality.Firmware.Pms
import AirQuality.Theorems.Frame
import AirQuality.Simulator.Join
import AirQuality.Theorems.Join
import AirQuality.Lib.Chain
import AirQuality.Simulator.Nodes
import AirQuality.Theorems.Serial
import AirQuality.Dashboard.TrendChart
import AirQuality.Theorems.Trend
import AirQuality.Dashboard.MapLimit
import AirQuality.Theorems.MapLimit
import AirQuality.Dashboard.Export
import AirQuality.Lib.Csv
import AirQuality.Theorems.Export
import AirQuality.Dashboard.Sparkline
import AirQuality.Theorems.Sparkline
import AirQuality.Firmware.Base64
import AirQuality.Lib.Base64
import AirQuality.Theorems.Base64
import AirQuality.Api.Sensors
import AirQuality.Dashboard.Metadata
import AirQuality.Theorems.Metadata
import AirQuality.Lib.Buffer
import AirQuality.Lib.History
import AirQuality.Ingestion.Contents
import AirQuality.System.Fleet
import AirQuality.System.World
import AirQuality.Theorems.Fleet
import AirQuality.Theorems.Loop
import AirQuality.Theorems.World
import AirQuality.Api.Admin
import AirQuality.Theorems.Admin
import AirQuality.Lib.Regroup
import AirQuality.Theorems.NetworkHistory
import AirQuality.Lib.Handles
import AirQuality.Dashboard.Lifecycle
import AirQuality.Theorems.Lifecycle
import AirQuality.Theorems.Unknown
import AirQuality.Lib.Program
import AirQuality.Simulator.Provision
import AirQuality.Theorems.Provision
import AirQuality.Lib.Line
import AirQuality.Simulator.Gateway
import AirQuality.Theorems.Gateway
import AirQuality.Lib.StableSort
import AirQuality.Dashboard.SensorTable
import AirQuality.Theorems.SensorTable
import AirQuality.Dashboard.SensorPage
import AirQuality.Theorems.SensorPage
import AirQuality.Lib.ClockSync
import AirQuality.Dashboard.Clock
import AirQuality.Theorems.Clock
