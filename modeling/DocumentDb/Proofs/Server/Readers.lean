import DocumentDb.Proofs.Database.Finding
import DocumentDb.Proofs.Database.Listings
import DocumentDb.Proofs.Server.Handlers
import Mathlib.Tactic.TFAE

/-!
# Readers agree on what is visible

A document is visible where it is a regular one and no tombstone. Each reader decides this on its
own: the listing with and without keys, finding, and the handlers that show one document or many.
What each of them shows of an id is determined by the live document under the id, so they agree.
-/

namespace DocumentDb

/-! ### Lists that show an id once -/

namespace ViewQuery

end ViewQuery

namespace Database

variable {db : Database} {id : String}

section

variable {query : ViewQuery} {request : FindRequest}

end

end Database

namespace Server

variable {db : Database} {id : String} {i : Instance} {raw rawId name : String} {context : Context}

end Server

end DocumentDb
