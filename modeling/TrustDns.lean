import TrustDns.Rust.Core
import TrustDns.Rr.Record
import TrustDns.Rr.RecordSet
import TrustDns.Rr.RecordSetSpec
import TrustDns.Rr.Invariant
import TrustDns.Rr.RDataMap
import TrustDns.Rr.Soa
import TrustDns.Rr.Update
import TrustDns.Rr.RemoveGuard
import TrustDns.Rr.Signatures
import TrustDns.Rr.RemoveLoop
import TrustDns.Rr.Refinement
import TrustDns.Rr.Ttl
import TrustDns.Tcp.ClientConnection
import TrustDns.Tcp.Framing
import TrustDns.Tcp.Handler
import TrustDns.Tcp.Send
import TrustDns.Tcp.Exchange
import TrustDns.Tcp.Matching
