import BlockAccess.Deployment.Setup
import BlockAccess.Deployment.Tasks
import BlockAccess.Proofs.Access.Presentation
import BlockAccess.Proofs.Deployment.BlockNames
import BlockAccess.Proofs.Deployment.Bridge
import BlockAccess.Proofs.Deployment.ClosedLoop
import BlockAccess.Proofs.Deployment.Failures
import BlockAccess.Proofs.Deployment.Passwords
import BlockAccess.Proofs.Deployment.Redelivery
import BlockAccess.Proofs.Deployment.Timer
import BlockAccess.Proofs.Exchange.KeyLife
import BlockAccess.Proofs.Exchange.NextKey
import BlockAccess.Proofs.Exchange.NormalForm
import BlockAccess.Proofs.Exchange.Secrecy
import BlockAccess.Proofs.Exchange.StaleImport
import BlockAccess.Proofs.Exchange.Transport
import BlockAccess.Proofs.Json.Exports
import BlockAccess.Proofs.Rotation.ExtraPolls
import BlockAccess.Proofs.Rotation.Numbering
import BlockAccess.Proofs.Wire.Delimiting
import BlockAccess.Proofs.Wire.ExportDomain
import BlockAccess.Proofs.Wire.TextDomain
