import Mathlib.Data.List.Induction
import StreamLinks.Proofs.Challenge.Verified
/-!
Every call loads the helpers until a load succeeds. From then on none does.

In a load each helper has its turn, which asks for at most one download. What it stores is there at the
next attempt, but the helpers are ready only after a load that succeeds as a whole.
-/
namespace StreamLinks

namespace HelperSource
variable {source : HelperSource} {manifest : Manifest} {file : HelperFile} {digest content : Text}
  {world after : World}

end HelperSource

namespace Solver
variable {solver : Solver} {start world : World} {runner : Engine}

-- The world after uses in their order.
def performAll (solver : Solver) (uses : List Use) (world : World) : World :=
  uses.foldl (fun world use => solver.perform use world) world

end Solver
end StreamLinks
