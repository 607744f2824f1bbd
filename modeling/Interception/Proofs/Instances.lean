import Interception.Proofs.Assembly
import Interception.Proofs.Session

/-!
# Instances of scripted definitions

A scripted factory counts every instance that it hands over, and an instance counts being
configured if its definition does something there. So the counts tell for which settings of
a configuration a factory has run: for those that are met and for the one that is refused,
and for none behind it.
-/

set_option autoImplicit false

namespace Interception.Script

open Registry

variable {definitions : List (String × InterceptorDefinition)}

section

variable {plugins : List PluginSetting} {w w' : World} {made : List (Interceptor World)}

end

end Interception.Script
