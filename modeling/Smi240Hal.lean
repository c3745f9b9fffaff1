import Smi240Hal.Lib.Machine
import Smi240Hal.Lib.Accounting
import Smi240Hal.Lib.SlotArray
import Smi240Hal.Legacy.BoschSimpleList
import Smi240Hal.Legacy.SensorData
import Smi240Hal.Legacy.SensordAlgo
import Smi240Hal.Legacy.Pipeline
import Smi240Hal.Legacy.PipelineOrder
import Smi240Hal.Legacy.ActiveConfig
import Smi240Hal.Legacy.ActiveConfigSorted
import Smi240Hal.MultiHal.SensorTables
import Smi240Hal.MultiHal.PostFrame
import Smi240Hal.MultiHal.Routing
import Smi240Hal.MultiHal.EventPath
import Smi240Hal.MultiHal.EventSteps
import Smi240Hal.MultiHal.EventOrder
import Smi240Hal.MultiHal.WakelockCount
import Smi240Hal.MultiHal.WakelockCovered
import Smi240Hal.MultiHal.WakelockReturned
import Smi240Hal.MultiHal.WakelockReset
import Smi240Hal.Direct.WakeLock
import Smi240Hal.Direct.WakeLockAcks
import Smi240Hal.MultiHal.DirectChannel
import Smi240Hal.MultiHal.DynamicView
import Smi240Hal.MultiHal.OperationModes
import Smi240Hal.Legacy.HwcntlConfig
import Smi240Hal.Legacy.SamplingInterval
import Smi240Hal.Legacy.DisabledSilent
import Smi240Hal.Legacy.SensorListLife
import Smi240Hal.Direct.EventPointers
import Smi240Hal.Lib.Overlay
import Smi240Hal.MultiHal.EventPayload
import Smi240Hal.MultiHal.ConvertUtils
import Smi240Hal.Legacy.BoschSimpleListHeap
import Smi240Hal.Legacy.BoschSimpleListRuns
import Smi240Hal.MultiHal.ConvertRoundTrip
import Smi240Hal.Legacy.BoschSimpleListMount
import Smi240Hal.Legacy.BoschSimpleListLimit
import Smi240Hal.Legacy.AlignMerge
import Smi240Hal.Legacy.HwcntlBatch
import Smi240Hal.Legacy.RateSelection
import Smi240Hal.Legacy.SensorTable
import Smi240Hal.Legacy.SysfsNode
import Smi240Hal.Legacy.PollEvents
import Smi240Hal.Sampling.SensorLoop
import Smi240Hal.MultiHal.SharedWakelock
import Smi240Hal.Sampling.PayloadReaders
import Smi240Hal.Sampling.FloatReaders
import Smi240Hal.MultiHal.WakelockGenerations
import Smi240Hal.MultiHal.ScopedWakelock
import Smi240Hal.Legacy.AlignBounds
import Smi240Hal.Legacy.AlignReplay
import Smi240Hal.MultiHal.PendingSize
import Smi240Hal.Legacy.LatencyCode
import Smi240Hal.Legacy.SensorlistSize
import Smi240Hal.Lib.Simulation
import Smi240Hal.Services.Loops
import Smi240Hal.MultiHal.SensorList
import Smi240Hal.Services.Builds
import Smi240Hal.Services.Framework
import Smi240Hal.MultiHal.AidlBacklog
import Smi240Hal.MultiHal.AidlEventQueue
import Smi240Hal.Legacy.SampleMemory
import Smi240Hal.Legacy.EventPipe
import Smi240Hal.Legacy.SampleArrival
import Smi240Hal.Sampling.RunThread
import Smi240Hal.MultiHal.StopThreads
import Smi240Hal.MultiHal.WakelockTimeout
import Smi240Hal.Direct.InitReturns
