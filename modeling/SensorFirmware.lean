import SensorFirmware.Library.Flags
import SensorFirmware.Library.FixedArray
import SensorFirmware.Library.Words
import SensorFirmware.Library.SignedWord
import SensorFirmware.Library.WrappingClock
import SensorFirmware.Library.CounterWait
import SensorFirmware.Library.Crc
import SensorFirmware.Library.ForwardCrc
import SensorFirmware.Library.Transition
import SensorFirmware.Library.EarlyReturn
import SensorFirmware.Library.Answered
import SensorFirmware.Library.WriteLog
import SensorFirmware.Library.Streak
import SensorFirmware.Library.Retry
import SensorFirmware.Library.RingBuffer
import SensorFirmware.Library.BoundedQueue
import SensorFirmware.Library.CheckedAccess
import SensorFirmware.Library.StreamWindow
import SensorFirmware.Library.ByteLayout
import SensorFirmware.Library.FlashMemory
import SensorFirmware.Library.Decimal
import SensorFirmware.Library.CharacterLcd
import SensorFirmware.Config.Types
import SensorFirmware.Config.ConfigManager
import SensorFirmware.Config.FlashLayout
import SensorFirmware.Config.FlashStorage
import SensorFirmware.Config.FlashBounds
import SensorFirmware.Config.Persistence
import SensorFirmware.Errors.ErrorManager
import SensorFirmware.Errors.ErrorOps
import SensorFirmware.Errors.FaultHistory
import SensorFirmware.Errors.Recovery
import SensorFirmware.Errors.SevereCount
import SensorFirmware.Drivers.Uart
import SensorFirmware.Drivers.UartStream
import SensorFirmware.Drivers.FrameTimer
import SensorFirmware.Drivers.SilencePoll
import SensorFirmware.Drivers.RtuFrames
import SensorFirmware.Drivers.RtuDelivery
import SensorFirmware.Drivers.DelayTimer
import SensorFirmware.Drivers.Delays
import SensorFirmware.Drivers.UartRingBuffer
import SensorFirmware.Drivers.UartRing
import SensorFirmware.Drivers.UartTransmit
import SensorFirmware.Drivers.LcdDisplay
import SensorFirmware.Drivers.LcdPort
import SensorFirmware.Drivers.I2cBus
import SensorFirmware.Drivers.BusRelease
import SensorFirmware.Drivers.I2cControl
import SensorFirmware.Drivers.I2cReception
import SensorFirmware.Drivers.I2cTransmission
import SensorFirmware.Modbus.Registers
import SensorFirmware.Modbus.Device
import SensorFirmware.Modbus.Sync
import SensorFirmware.Modbus.Mirror
import SensorFirmware.Modbus.BaseSettings
import SensorFirmware.Modbus.BaseAtomicity
import SensorFirmware.Modbus.SensorSettings
import SensorFirmware.Modbus.SensorAcceptance
import SensorFirmware.Modbus.Commands
import SensorFirmware.Modbus.Frames
import SensorFirmware.Modbus.Outcome
import SensorFirmware.Modbus.Runs
import SensorFirmware.Modbus.Requests
import SensorFirmware.Modbus.RequestLength
import SensorFirmware.Modbus.Responses
import SensorFirmware.Modbus.Corruption
import SensorFirmware.Modbus.MultipleWrites
import SensorFirmware.Modbus.ConfigValidity
import SensorFirmware.Modbus.RegisterFile
import SensorFirmware.Modbus.Thresholds
import SensorFirmware.Modbus.DirectWrites
import SensorFirmware.Modbus.SensorRoundTrip
import SensorFirmware.Modbus.SensorCommit
import SensorFirmware.Modbus.SensorScaling
import SensorFirmware.Modbus.RegisterReads
import SensorFirmware.Modbus.RegisterMap
import SensorFirmware.Modbus.Diagnostics
import SensorFirmware.Modbus.BaseRoundTrip
import SensorFirmware.Modbus.FrameQueue
import SensorFirmware.Modbus.Processing
import SensorFirmware.Modbus.SaveRequests
import SensorFirmware.Modbus.Exchanges
import SensorFirmware.Modbus.SensorArguments
import SensorFirmware.Modbus.CheckedRegisters
import SensorFirmware.Modbus.CheckedBase
import SensorFirmware.Modbus.CheckedSensor
import SensorFirmware.Modbus.CheckedFrames
import SensorFirmware.Sensor.MedianFilter
import SensorFirmware.Sensor.MedianWindow
import SensorFirmware.Sensor.Sht3xSensor
import SensorFirmware.Sensor.PayloadCorruption
import SensorFirmware.Sensor.SensorService
import SensorFirmware.Sensor.Accesses
import SensorFirmware.Sensor.SensorBus
import SensorFirmware.Sensor.Timing
import SensorFirmware.Sensor.ReadOutcomes
import SensorFirmware.Sensor.StatusRegister
import SensorFirmware.Sensor.PublishedValues
import SensorFirmware.Sensor.AcceptedPayloads
import SensorFirmware.Sensor.Alarms
import SensorFirmware.App.Events
import SensorFirmware.App.LoopEvents
import SensorFirmware.App.Escalation
import SensorFirmware.App.TriggerReports
import SensorFirmware.App.DiagnosticReads
import SensorFirmware.App.Application
import SensorFirmware.App.MainLoop
import SensorFirmware.App.InterruptedSave
import SensorFirmware.App.LostUpdates
import SensorFirmware.App.Firmware
import SensorFirmware.App.Schedule
import SensorFirmware.App.WatchdogFeeding
import SensorFirmware.App.FlashWear
import SensorFirmware.App.SerialLine
import SensorFirmware.App.Station
import SensorFirmware.App.ResponseTime
import SensorFirmware.App.MeasuredBytes
import SensorFirmware.App.Screen
