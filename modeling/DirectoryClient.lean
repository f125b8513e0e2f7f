import DirectoryClient.Ldap.Summary
import DirectoryClient.Ldif.Sink
import DirectoryClient.Pool.Registry
import DirectoryClient.Proofs.Config.Codec
import DirectoryClient.Proofs.Config.Faults
import DirectoryClient.Proofs.DistinguishedName.Separators
import DirectoryClient.Proofs.GeneralizedTime
import DirectoryClient.Proofs.Ldap.Lifecycle
import DirectoryClient.Proofs.Ldap.Outstanding
import DirectoryClient.Proofs.Ldif.Cursor
import DirectoryClient.Proofs.Ldif.Layout
import DirectoryClient.Proofs.Ldif.Progress
import DirectoryClient.Proofs.Ldif.Rereading
import DirectoryClient.Proofs.Ldif.Segments
import DirectoryClient.Proofs.Pool.Rebalancing
import DirectoryClient.Proofs.Pool.Retention
import DirectoryClient.Proofs.Pool.Sweeping
import DirectoryClient.Proofs.Record.Entries
import DirectoryClient.Proofs.Record.Multimap
import DirectoryClient.Proofs.Tls.Identity
