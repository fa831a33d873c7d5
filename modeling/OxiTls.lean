import OxiTls.Verifier.OcspSigner
import OxiTls.Verifier.SctCounting
import OxiTls.Verifier.SctExtension
import OxiTls.Verifier.SctSignedData
import OxiTls.Client.CacheRuns
import OxiTls.Client.Trust
import OxiTls.KeyLog
import OxiTls.Ticket.Expiry
import OxiTls.Server.Ticketing
import OxiTls.Server.RotationTask
import OxiTls.Connection
import OxiTls.Ticket.RotatorLifetime
import OxiTls.Http2.KeepAlive
import OxiTls.Provider.RecordLengths
import OxiTls.Provider.TrafficSecrets
import OxiTls.Provider.RecordChannel
import OxiTls.Provider.Signatures
import OxiTls.Provider.QuicPacket
import OxiTls.Hpke.EchDelivery
import OxiTls.KeyExchange.Hybrid
import OxiTls.KeyExchange.Contributory
import OxiTls.Roots.TrustAnchors
import OxiTls.Rcgen.Csr
import OxiTls.Rcgen.Hierarchy
import OxiTls.Rcgen.ParamsBuilder
import OxiTls.Rcgen.KeyPem
import OxiTls.Pkcs11.Provider
import OxiTls.Pkcs11.Token
