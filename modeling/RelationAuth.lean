import RelationAuth.Groups.Wire
import RelationAuth.Proofs.Groups.Deletion
import RelationAuth.Proofs.Groups.MemberHistory
import RelationAuth.Proofs.Identity.RoundTrip
import RelationAuth.Proofs.Policy.Backends
import RelationAuth.Proofs.Policy.Batches
import RelationAuth.Proofs.Policy.BothEnds
import RelationAuth.Proofs.Policy.Counting
import RelationAuth.Proofs.Policy.EngineRequests
import RelationAuth.Proofs.Policy.Granting
import RelationAuth.Proofs.Policy.Idempotence
import RelationAuth.Proofs.Policy.Isolation
import RelationAuth.Proofs.Policy.KeyedMap
import RelationAuth.Proofs.Policy.Lasting
import RelationAuth.Proofs.Policy.Pagination
import RelationAuth.Proofs.Policy.Shown
import RelationAuth.Proofs.Service.Authenticity
import RelationAuth.Proofs.Service.CalendarEnd
import RelationAuth.Proofs.Service.Confinement
import RelationAuth.Proofs.Service.Creation
import RelationAuth.Proofs.Service.EntityDeletion
import RelationAuth.Proofs.Service.KeyOwners
import RelationAuth.Proofs.Service.Mediation
import RelationAuth.Proofs.Service.MemberListings
import RelationAuth.Proofs.Service.ViewablePages
import RelationAuth.Service.Bootstrap
import RelationAuth.Service.Faults
