import Kuavo.Lib.Runs
import Kuavo.Lib.LastSent
import Kuavo.Lib.Copy
import Kuavo.Lib.BoundedQueue
import Kuavo.Lib.DoubleBuffer
import Kuavo.Lib.LittleEndian
import Kuavo.Lib.Logged
import Kuavo.Lib.Heap
import Kuavo.Lib.Wire
import Kuavo.Lib.OrderedReads
import Kuavo.Lib.Approach
import Kuavo.MercuryShm
import Kuavo.Utility
import Kuavo.Motor
import Kuavo.CanFrame
import Kuavo.DamiaoSimulator
import Kuavo.MitFrame
import Kuavo.Scaling
import Kuavo.MotorCommands
import Kuavo.UdpServer
import Kuavo.CanApi
import Kuavo.ParamResponse
import Kuavo.Delivery
import Kuavo.Receive
import Kuavo.Sending
import Kuavo.ParamValue
import Kuavo.Feedback
import Kuavo.ImuReader
import Kuavo.SourceDoubleBuffer
import Kuavo.SpscRing
import Kuavo.BatchLog
import Kuavo.BatchPipeline
import Kuavo.LogShutdown
import Kuavo.Subscriber
import Kuavo.LegPower
import Kuavo.Legged
import Kuavo.LegRun
import Kuavo.LegSafety
import Kuavo.StaleCommand
import Kuavo.LegThreads
import Kuavo.LegAccesses
import Kuavo.CommandBuffer
import Kuavo.Composer
import Kuavo.DriverStation
import Kuavo.DsCaches
import Kuavo.RobotPacket
import Kuavo.JoystickUpdate
import Kuavo.IterativeRobotBase
import Kuavo.ModeChange
import Kuavo.DsAccesses
import Kuavo.Robot
import Kuavo.CommandIndex
import Kuavo.MotorsPerLeg
import Kuavo.CommandFreshness
import Kuavo.Staleness
import Kuavo.GroupLiveness
import Kuavo.RecordSequence
import Kuavo.EmergencyStop
import Kuavo.Shutdown
import Kuavo.ControllerTestBench
import Kuavo.ControlledSubsystem
import Kuavo.Synchronization
import Kuavo.EventWaits
import Kuavo.Semaphores
import Kuavo.Codes
import Kuavo.ButtonEdges
import Kuavo.BooleanEvent
import Kuavo.LegLoop
import Kuavo.PriorityQueue
import Kuavo.TimedRobot
import Kuavo.TimerManager
import Kuavo.MqttConnection
import Kuavo.MqttPublish
import Kuavo.DestroyedHandles
import Kuavo.SimulatedMotors
import Kuavo.PowerDelivered
import Kuavo.MotorLink
import Kuavo.OperatorButtons
import Kuavo.ImuStream
import Kuavo.SensorPath
import Kuavo.SetPoints
import Kuavo.InfluxPoints
import Kuavo.OperatorStop
import Kuavo.NewData
