import Mathlib.Algebra.Order.Ring.Int
import Mathlib.Data.Prod.Lex
import Mathlib.Order.WithBot
import Secp.Logic.Ranking
import Secp.Range.Awards

/-!
# The ranking of a scoreboard

The rows are sorted by score and last award, where a team without awards counts as having had its last
one at the latest instant there is; ranks are handed out by score and last award, where it does not.
So the ranking is the standard one as long as no team has its last award at that very instant.
-/

namespace Secp.Range

open Secp.Python Secp.Logic

/-! ## The standard ranking -/

/-- The entry of a row with a rank. -/
def StandingRow.entry (row : StandingRow) (rank : Nat) : ScoreboardEntry :=
  { rank := rank
    teamId := row.team.id
    teamName := row.team.name
    score := row.score
    solvedCount := row.solved
    lastSolveAt := row.last
    solvedChallengeIds := row.challenges }

section
variable {competition : Competition}

end

/-! ### Two teams without points -/

end Secp.Range
