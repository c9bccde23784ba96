import AutismOS.Library.Run
import AutismOS.Library.Links
import AutismOS.Library.ByteMemory
import AutismOS.Scheduler.Dispatch
import AutismOS.Heap.Resizing
import AutismOS.Heap.Coalescing
import AutismOS.Frames.Ownership
import AutismOS.VirtualMemory.KernelHalf
import AutismOS.VirtualMemory.Ownership
import AutismOS.VirtualMemory.ActiveDirectory
import AutismOS.Memory.Consistency
import AutismOS.Memory.Available
import AutismOS.Memory.UserMode
import AutismOS.Processes.Core
import AutismOS.Processes.Syscall
import AutismOS.Processes.Events
import AutismOS.Processes.Outcomes
import AutismOS.Processes.Isolation
import AutismOS.Processes.Effects
import AutismOS.Processes.Creation
import AutismOS.Processes.Context
import AutismOS.Processes.Rotation
import AutismOS.Processes.Rings
import AutismOS.Processes.Census
import AutismOS.Processes.Invariant
import AutismOS.Processes.Wakeups
import AutismOS.Processes.Authenticity
import AutismOS.Processes.Blocking
import AutismOS.Processes.Delivery
import AutismOS.Library.Bytes
import AutismOS.Network.Core
import AutismOS.Network.Stack
import AutismOS.Network.Sending
import AutismOS.Network.FrameBounds
import AutismOS.Network.PacketSizes
import AutismOS.Network.Polling
import AutismOS.Network.Evolution
import AutismOS.Network.Handshake
import AutismOS.Network.Connections
import AutismOS.Network.RoundTrip
import AutismOS.Input.Core
import AutismOS.Input.Delivery
import AutismOS.Windows.Core
import AutismOS.Windows.Interface
import AutismOS.Windows.Stacking
import AutismOS.Windows.Opening
import AutismOS.Windows.Geometry
import AutismOS.Library.Layers
import AutismOS.Windows.Painting
import AutismOS.Windows.AppStates
import AutismOS.Library.Slots
import AutismOS.Network.Ring
import AutismOS.Network.Answers
import AutismOS.Network.Delivery
import AutismOS.Network.Segments
import AutismOS.Network.Stream
import AutismOS.Library.Fifo
import AutismOS.Ipc.Queue
import AutismOS.Ipc.Inbox
import AutismOS.Library.Strings
import AutismOS.Graphics.Protocol
import AutismOS.Graphics.RoundTrip
import AutismOS.Graphics.Server
import AutismOS.Graphics.Buffers
import AutismOS.Graphics.WindowIds
import AutismOS.Storage.Disk
import AutismOS.Storage.ReadBack
import AutismOS.Heap.Rejection
import AutismOS.Library.Gaps
import AutismOS.Frames.FirstFit
import AutismOS.Frames.Ranges
import AutismOS.Frames.Initialization
import AutismOS.VirtualMemory.Translation
import AutismOS.VirtualMemory.Rollback
import AutismOS.VirtualMemory.Statistics
import AutismOS.VirtualMemory.Regions
import AutismOS.VirtualMemory.Areas
import AutismOS.Library.Walks
import AutismOS.Scheduler.Removal
import AutismOS.Scheduler.Priority
import AutismOS.Library.Counting
import AutismOS.Scheduler.Orderly
import AutismOS.Scheduler.Sleeping
import AutismOS.Scheduler.Counters
import AutismOS.Scheduler.Reclaim
import AutismOS.Ipc.SharedMemory
import AutismOS.Library.Cursor
import AutismOS.Memory.MemoryMap
import AutismOS.Network.Quiet
import AutismOS.Network.Acknowledgement
import AutismOS.Network.Sequence
import AutismOS.Library.OnesComplement
import AutismOS.Network.Checksums
import AutismOS.Library.FirstCome
import AutismOS.Network.Neighbours
import AutismOS.Network.Ping
import AutismOS.Network.ReceiveRing
import AutismOS.Library.Numerals
import AutismOS.Browser.Urls
import AutismOS.Browser.UrlReports
import AutismOS.Network.DottedQuads
import AutismOS.Input.Positions
import AutismOS.Input.Confinement
import AutismOS.Library.Shifting
import AutismOS.Input.Listeners
import AutismOS.Input.MouseDriver
import AutismOS.Windows.Cycling
import AutismOS.Windows.Restoring
import AutismOS.Windows.Typing
import AutismOS.Graphics.Redrawing
import AutismOS.Drawing.Core
import AutismOS.Library.Raster
import AutismOS.Library.Word
import AutismOS.Drawing.Rectangles
import AutismOS.Drawing.Lines
import AutismOS.Library.Computed
import AutismOS.Calculator.Core
import AutismOS.Calculator.Display
import AutismOS.Calculator.Overflow
import AutismOS.Calculator.Chains
import AutismOS.Library.Wrapping
import AutismOS.Notepad.Core
import AutismOS.Library.Scanning
import AutismOS.Browser.Html
import AutismOS.Browser.Elements
import AutismOS.Browser.Scans
import AutismOS.Browser.Documents
import AutismOS.Heap.Splitting
import AutismOS.Library.Reversal
import AutismOS.Strings.Itoa
import AutismOS.Widgets.Core
import AutismOS.Widgets.Buttons
import AutismOS.Widgets.Sliders
import AutismOS.Library.TextBuffers
import AutismOS.Widgets.Textboxes
import AutismOS.Library.Objects
import AutismOS.Browser.Layout
import AutismOS.Browser.Boxes
import AutismOS.Browser.Freeing
import AutismOS.Browser.Rendering
import AutismOS.Browser.TextBoxes
import AutismOS.Input.Keyboard
import AutismOS.Input.KeyHistory
import AutismOS.Input.Typewriter
import AutismOS.Windows.Activity
import AutismOS.System.Machine
import AutismOS.System.Halting
import AutismOS.System.Typing
import AutismOS.Library.Controllers
import AutismOS.Interrupts.Descriptors
import AutismOS.Interrupts.Dispatch
import AutismOS.Interrupts.Service
import AutismOS.Interrupts.Handlers
import AutismOS.Library.Drive
import AutismOS.Storage.Ports
import AutismOS.Storage.Volume
import AutismOS.Library.Handover
import AutismOS.Network.Transmitting
import AutismOS.Library.Fields
import AutismOS.Library.Loops
import AutismOS.Devices.Pci
import AutismOS.Network.Detection
import AutismOS.Browser.Addresses
import AutismOS.Drawing.Console
import AutismOS.Calculator.Buttons
