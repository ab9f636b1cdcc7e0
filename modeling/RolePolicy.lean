import RolePolicy.Check
import RolePolicy.Codec.Trace
import RolePolicy.Configurator
import RolePolicy.Describe
import RolePolicy.Environment
import RolePolicy.Json.Reader
import RolePolicy.Json.Writer
import RolePolicy.TypeName
import RolePolicy.Proofs.Ancestry
import RolePolicy.Proofs.Consultation
import RolePolicy.Proofs.LevelOrder
import RolePolicy.Proofs.LastWriter
import RolePolicy.Proofs.Requeue
import RolePolicy.Proofs.Body
import RolePolicy.Proofs.Filing
import RolePolicy.Proofs.Provenance
import RolePolicy.Proofs.QueueLoop
import RolePolicy.Proofs.Visits
import RolePolicy.Proofs.Indistinct
import RolePolicy.Proofs.Settings
import RolePolicy.Proofs.Invocations
import RolePolicy.Proofs.Explanation
import RolePolicy.Proofs.StrictParents
import RolePolicy.Proofs.Registrations
import RolePolicy.Proofs.Locality
import RolePolicy.Proofs.NameTables
import RolePolicy.Proofs.GroupExpansion
import RolePolicy.Proofs.CatalogHistory
import RolePolicy.Proofs.CrudRegistration
import RolePolicy.Proofs.Precedence
import RolePolicy.Proofs.Decisiveness
import RolePolicy.Proofs.Relabeling
import RolePolicy.Proofs.Flattening
import RolePolicy.Proofs.FreshSession
import RolePolicy.Proofs.Likeness
import RolePolicy.Proofs.Respelling
import RolePolicy.Proofs.RoleInvariants
import RolePolicy.Proofs.RuledActions
import RolePolicy.Proofs.Refusals
import RolePolicy.Proofs.ErrorOrigins
import RolePolicy.Proofs.DerivedForms
import RolePolicy.Proofs.MemberOrder
import RolePolicy.Proofs.TraceEncoding
import RolePolicy.Proofs.Segment
import RolePolicy.Proofs.CamelCase
import RolePolicy.Proofs.RoleIndex
import RolePolicy.Proofs.Enforcement
import RolePolicy.Proofs.Openings
import RolePolicy.Proofs.TextForms
import RolePolicy.Proofs.EnvironmentReading
import RolePolicy.Proofs.NameDerivation
import RolePolicy.Proofs.KeyTables
import RolePolicy.Proofs.RuleEquality
