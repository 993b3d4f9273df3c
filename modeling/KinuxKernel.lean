import KinuxKernel.BarrierSystem
import KinuxKernel.BarrierReuse
import KinuxKernel.BarrierGate
import KinuxKernel.BarrierRounds
import KinuxKernel.BarrierTimeouts
import KinuxKernel.BarrierAgreement
import KinuxKernel.BarrierRegistry
import KinuxKernel.BarrierConcurrentInit
import KinuxKernel.BarrierLifetime
import KinuxKernel.BarrierExpiry
import KinuxKernel.BarrierMutex
import KinuxKernel.BarrierSignals
import KinuxKernel.BarrierIsolation
import KinuxKernel.GpioPins
import KinuxKernel.MeasurementRun
import KinuxKernel.LedIndices
import KinuxKernel.SensorSession
import KinuxKernel.SpiBuffers
import KinuxKernel.SpiSettings
import KinuxKernel.SensorIsolation
import KinuxKernel.PinStores
import KinuxKernel.PinAccesses
import KinuxKernel.SensorRuns
import KinuxKernel.SensorReading
import KinuxKernel.TimerExpiries
import KinuxKernel.TriggerFiling
import KinuxKernel.SampleAverages
import KinuxKernel.SpiEncoding
import KinuxKernel.SpiResults
import KinuxKernel.PinConfiguration
import KinuxKernel.AttributeTexts
import KinuxKernel.PulseInvariant
import KinuxKernel.BarrierProgress
import KinuxKernel.BarrierMembers
import KinuxKernel.BarrierWorkload
import KinuxKernel.BarrierProgram
import KinuxKernel.SpiAnimation
import KinuxKernel.AttributeShows
import KinuxKernel.MeasurementReports
import KinuxKernel.SpiProbe
import KinuxKernel.HrtimerTransfers
import KinuxKernel.NdelayMemory
import KinuxKernel.HrtimerSessions
import KinuxKernel.HrtRegistration
import KinuxKernel.PlatformFailures
import KinuxKernel.UltrasonicSessions
import KinuxKernel.SensorRemoval
