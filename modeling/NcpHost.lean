import NcpHost.Bootloader.Run
import NcpHost.Endpoint.Run
import NcpHost.Host.Run
import NcpHost.Observer
import NcpHost.Proofs.Bootloader.Buffer
import NcpHost.Proofs.Bootloader.Landmarks
import NcpHost.Proofs.Endpoint.Capacity
import NcpHost.Proofs.Endpoint.Duplex
import NcpHost.Proofs.Endpoint.Expectation
import NcpHost.Proofs.Endpoint.Opening
import NcpHost.Proofs.Endpoint.Range
import NcpHost.Proofs.Endpoint.Restart
import NcpHost.Proofs.Endpoint.Stream
import NcpHost.Proofs.Ezsp.Layout
import NcpHost.Proofs.Host.Answer
import NcpHost.Proofs.Host.Attempts
import NcpHost.Proofs.Host.Awake
import NcpHost.Proofs.Host.Budget
import NcpHost.Proofs.Host.Chunks
import NcpHost.Proofs.Host.Dialogue
import NcpHost.Proofs.Host.Errand
import NcpHost.Proofs.Host.Launch
import NcpHost.Proofs.Host.Modes
import NcpHost.Proofs.Host.Numbers
import NcpHost.Proofs.Host.Order
import NcpHost.Proofs.Host.QuietTimer
import NcpHost.Proofs.Host.Ready
import NcpHost.Proofs.Host.Receipt
import NcpHost.Proofs.Host.Refusal
import NcpHost.Proofs.Host.Repeat
import NcpHost.Proofs.Host.Resets
import NcpHost.Proofs.Host.Turn
import NcpHost.Proofs.Link.Acknowledgement
import NcpHost.Proofs.Link.Handshake
import NcpHost.Proofs.Session.Delivery
import NcpHost.Proofs.Wire.Detection
import NcpHost.Proofs.Wire.Pairs
import NcpHost.Session.Run
import NcpHost.Settings.File
