import Fleet.Proofs.Node.Associations
import Fleet.Proofs.Store.Nodes

namespace Fleet

/-!
# Which containers a service has

A service has a set of containers, and a report changes it in one way: it grows by the containers that the
report gives for the service, and by those that show by their names, labels or pods, or by the name in the
unit file, that they belong to it.  Nothing else comes in and nothing goes out, whether the report names the
services or leaves them as they were.  The set is kept as a list in which nothing is repeated, from the first
report on.
-/

namespace Node

end Node

namespace Store

end Store
end Fleet
