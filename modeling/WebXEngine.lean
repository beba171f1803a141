import WebXEngine.Transport.InstructionSubscriber
import WebXEngine.Transport.MessageFormat
import WebXEngine.Transport.BufferRoundTrip
import WebXEngine.Transport.ClientIds
import WebXEngine.Transport.MessagePublisher
import WebXEngine.Transport.TransportThreads
import WebXEngine.Display.WindowTable
import WebXEngine.Display.Manager
import WebXEngine.Display.DamageFilters
import WebXEngine.Display.HeldKeys
import WebXEngine.Display.NumLock
import WebXEngine.Display.ModeClock
import WebXEngine.Display.ResizeAnswers
import WebXEngine.Controller.WindowLayout
import WebXEngine.Display.CursorImages
import WebXEngine.Display.WindowPixels
import WebXEngine.Controller.DamagedPixels
import WebXEngine.Controller.ClientView
import WebXEngine.Controller.ClientIndices
import WebXEngine.Controller.PingProtocol
import WebXEngine.Controller.QualityAgreement
import WebXEngine.Controller.WindowQualityCap
import WebXEngine.Controller.CoverageQuality
import WebXEngine.Controller.Addressing
import WebXEngine.Controller.BitrateCalculator
import WebXEngine.Controller.PointerAgreement
import WebXEngine.Controller.MouseButtons
import WebXEngine.Controller.KeyboardLayouts
import WebXEngine.Controller.ClientInstructions
import WebXEngine.Controller.ShapeUpdates
import WebXEngine.Controller.ConnectDisconnect
import WebXEngine.Controller.LoopRounds
import WebXEngine.Controller.ImageDeadlines
import WebXEngine.Models.DamageAreas
import WebXEngine.Models.CoveredCells
import WebXEngine.Models.QualityTable
import WebXEngine.Utils.DataBuffer
import WebXEngine.Utils.Crc32Algorithms
import WebXEngine.Utils.ImageUtils
import WebXEngine.Utils.Queue
