import BidSystem.Shared.Python
import BidSystem.ReadCommitted.Program

/-!
# What the code takes from SQLAlchemy

Repositories run as `Prog`s whose errors are Python exceptions and whose
constraints are known by their names in the database.
-/

namespace BidSystem

open ReadCommitted

/-- `Result.scalar_one_or_none`. -/
def scalarOneOrNone {R : Type} {α : Type} : List α → Prog R String PyError (Option α)
  | [] => .done none
  | [row] => .done (some row)
  | _ => .raise .multipleResultsFound

end BidSystem
