import Interpolation.Builtin.Date
import Interpolation.Builtin.Math
import Interpolation.Builtin.Object
import Interpolation.Builtin.Rfc
import Interpolation.Builtin.String

/-!
# The built-in catalog

The catalog that is there without any manifest: five namespaces with two hundred and forty methods.
-/

namespace Interpolation.Catalog

/-- **The built-in catalog.** -/
def builtin : Catalog :=
  ofList [Builtin.Object.space, Builtin.String.space, Builtin.Math.space, Builtin.Date.space, Builtin.Rfc.space]

end Interpolation.Catalog
