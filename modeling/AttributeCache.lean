import AttributeCache.Cluster.Forwarder
import AttributeCache.Datasource.Notifier
import AttributeCache.Entity.Json
import AttributeCache.EntityOrder
import AttributeCache.Http.Router
import AttributeCache.Main
import AttributeCache.Proofs.Attribute.Path
import AttributeCache.Proofs.Cache.Agreement
import AttributeCache.Proofs.Cache.Overlap
import AttributeCache.Proofs.Cluster.Circulation
import AttributeCache.Proofs.Cluster.Fleet
import AttributeCache.Proofs.Cluster.Following
import AttributeCache.Proofs.Http.Polling
import AttributeCache.Proofs.Http.Transfer
import AttributeCache.Shutdown
import AttributeCache.Proofs.Number
import AttributeCache.Proofs.Sorting
import AttributeCache.Proofs.Cache.Building
import AttributeCache.Proofs.EntityOrder
import AttributeCache.Proofs.Attribute.ValueType
import AttributeCache.Proofs.Configuration.Views
import AttributeCache.Proofs.Configuration.Failure
import AttributeCache.Proofs.Stamp.Issuing
import AttributeCache.Proofs.Configuration.Cycle
import AttributeCache.Namespace.Register
import AttributeCache.Proofs.Namespace.Register
import AttributeCache.Proofs.Namespace.Session
import AttributeCache.Proofs.PropertyPath
import AttributeCache.Proofs.Configuration.Asking
import AttributeCache.Proofs.EntityOrder.Access
import AttributeCache.Proofs.Entity.Record
import AttributeCache.Proofs.CanonicalForm
import AttributeCache.Proofs.Configuration.Recursion
import AttributeCache.Proofs.Configuration.Visiting
import AttributeCache.Proofs.Cache.Loading
import AttributeCache.Proofs.Datasource.Registry
