import Dos25.Lib.Ring
import Dos25.Lib.System
import Dos25.Lib.Layout
import Dos25.Lib.Span
import Dos25.Lib.Bytes
import Dos25.Lib.AddressSpace
import Dos25.Lib.Fifo
import Dos25.Lib.ShiftXor
import Dos25.Lib.LowBits
import Dos25.Lib.Stdio
import Dos25.Lib.Scan
import Dos25.Lib.CountedLoop
import Dos25.Lib.Resource
import Dos25.Lib.LineInput
import Dos25.Lib.LineScript
import Dos25.Boot
import Dos25.Runtime
import Dos25.SharedBytes
import Dos25.QueueFifo
import Dos25.Interleave
import Dos25.Daemon
import Dos25.DaemonLoop
import Dos25.Turns
import Dos25.Responses
import Dos25.Outcomes
import Dos25.TwoRuns
import Dos25.SelfTest
import Dos25.Ledger
import Dos25.Progress
import Dos25.Concurrent
import Dos25.ConcurrentBytes
import Dos25.Integrity
import Dos25.Region
import Dos25.Graphics
import Dos25.Drawing
import Dos25.OffScreen
import Dos25.BootInit
import Dos25.Reset
import Dos25.EfiMain
import Dos25.BootMemory
import Dos25.GraphicsModes
import Dos25.Picture
import Dos25.FileLoad
import Dos25.Memory
import Dos25.ExitRetry
import Dos25.BootMap
import Dos25.Disk
import Dos25.DiskImage
import Dos25.ImageLayout
import Dos25.ImageVerify
import Dos25.ImageCorruption
import Dos25.ImageTampering
import Dos25.ImageSigning
import Dos25.ImageExtraction
import Dos25.ImageCreation
import Dos25.DiskTool
import Dos25.Rescue
import Dos25.RescueExit
import Dos25.Dialogue
