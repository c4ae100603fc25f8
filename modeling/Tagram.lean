import Tagram.Endpoint.Script
import Tagram.Envelope.Basic
import Tagram.Main
import Tagram.Pool
import Tagram.Proofs.Delivery
import Tagram.Queue
import Tagram.Proofs.EnvelopeBounds
import Tagram.Proofs.Sessions
import Tagram.Proofs.Ingress
import Tagram.Proofs.Egress
import Tagram.Proofs.FailureCount
import Tagram.Proofs.FrameRow
import Tagram.Proofs.JsonRoundTrip
import Tagram.Proofs.EnvelopeRoundTrip
import Tagram.Proofs.QueueAction
import Tagram.Proofs.QueueThreads
import Tagram.Proofs.Turns
import Tagram.Proofs.Shutdown
import Tagram.Proofs.HandOff
import Tagram.Proofs.Listening
import Tagram.Proofs.Framing
import Tagram.Proofs.FrameWriting
import Tagram.Proofs.TagLocality
import Tagram.Proofs.BalancedPrefix
import Tagram.Proofs.EnvelopeNormalForm
import Tagram.Proofs.RetryPath
import Tagram.Proofs.AbortedExtension
import Tagram.Proofs.FieldReads
import Tagram.Proofs.CursorRuns
