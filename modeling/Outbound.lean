import Outbound.Authenticator.Credential
import Outbound.Credential.Document
import Outbound.Pipeline.Assembly
import Outbound.Token.Callers
import Outbound.Proofs.Pipeline.Prompt
import Outbound.Proofs.Throttle.Cancelling
import Outbound.Proofs.Throttle.Resend
import Outbound.Proofs.Token.Turns
import Outbound.Proofs.Pipeline.Opening
import Outbound.Proofs.Token.Dropping
import Outbound.Proofs.Credential.Building
import Outbound.Proofs.Credential.Documents
import Outbound.Proofs.Token.Segments
import Outbound.Proofs.Token.Validity
import Outbound.Proofs.Credential.Selection
import Outbound.Proofs.Encoding.Form
import Outbound.Proofs.Token.Deadline
import Outbound.Proofs.Token.Grant
import Outbound.Proofs.Throttle.Waiting
import Outbound.Proofs.Message.Compression
import Outbound.Proofs.Throttle.Hint
import Outbound.Proofs.Token.Numbers
import Outbound.Proofs.Credential.Endpoint
import Outbound.Proofs.Credential.Pair
import Outbound.Proofs.Authenticator.Frame
import Outbound.Proofs.Pipeline.Books
import Outbound.Proofs.Throttle.Shown
import Outbound.Proofs.Throttle.Countdown
import Outbound.Proofs.Message.Streaming
import Outbound.Proofs.Credential.Secrecy
