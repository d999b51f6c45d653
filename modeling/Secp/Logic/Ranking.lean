import Mathlib.Data.List.Sort
import Mathlib.Order.Lex

/-!
# Competition ranking

Ranks are handed out along a list: an item with the key of the item before it shares its rank, any other
item gets its position. Along a list sorted by key the rank of an item is one more than the number of
items that are strictly below it.
-/

namespace Secp.Logic

variable {α κ : Type}

section
variable [LinearOrder κ] {key : α → κ}

end

end Secp.Logic
