import ApertureClient.Interaction.Stream
import ApertureClient.Comm.Agreement
import ApertureClient.Comm.Downgrade
import ApertureClient.Comm.RoundTrip
import ApertureClient.Comm.Grammar
import ApertureClient.Comm.CertificateChain
import ApertureClient.Comm.TransferRuns
import ApertureClient.Comm.HandshakeProgress
import ApertureClient.Comm.Plaintext
import ApertureClient.Vdms.Provenance
import ApertureClient.Vdms.Refresh
import ApertureClient.Vdms.Errors
import ApertureClient.Vdms.Requests
import ApertureClient.Vdms.TokenReplies
import ApertureClient.Vdms.Lifetimes
import ApertureClient.Metrics.Reread
import ApertureClient.Metrics.MissingKeys
import ApertureClient.Metrics.Doubles
import ApertureClient.Metrics.QueueHistories
import ApertureClient.Ambassador.Scrape
import ApertureClient.Util.Base64
import ApertureClient.Util.Barrier
