import Mathlib.Data.List.Perm.Subperm
import LangGraphServer.Server.LeaseStateless

set_option autoImplicit false

namespace LangGraphServer

open Collections Coroutine

end LangGraphServer
