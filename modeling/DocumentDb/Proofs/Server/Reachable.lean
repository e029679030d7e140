import DocumentDb.Server.Service
import Mathlib.Tactic.Common

/-!
# Runs of the server

The server starts without databases, with the default user signed in or with nobody. It answers
requests one after the other, and an instance is reachable if requests in some order lead to it.
-/

namespace DocumentDb.Server

/-- A request with the random bits that are drawn for it. -/
abbrev Call := Request × (Nat → Stamp)

/-- The instance after requests, one after the other. -/
def served (config : Config) (i : Instance) (calls : List Call) : Instance :=
  calls.foldl (fun i call => (Context.serve ⟨config, call.1, call.2⟩ i).2) i

lemma served_cons (config : Config) (i : Instance) (call : Call) (calls : List Call) :
    served config i (call :: calls) =
      served config (Context.serve ⟨config, call.1, call.2⟩ i).2 calls :=
  rfl

/-- An instance that requests lead to from the start of the server. -/
def Reachable (config : Config) (i : Instance) : Prop :=
  ∃ calls : List Call,
    i = served config .empty calls ∨ i = served config Instance.empty.authenticate calls

end DocumentDb.Server
