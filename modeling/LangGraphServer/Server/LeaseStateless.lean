import LangGraphServer.Server.OneMutation
import LangGraphServer.Server.Stateless

set_option autoImplicit false

namespace LangGraphServer

open Collections Coroutine

namespace ServerState

variable (platform : Platform) (persistent : Bool) (id : TaskId)

end ServerState

section Kept

variable {platform : Platform} {config : ServerConfig} {scope : Scope} {request : Nat} {lease : RunLease}
    {mutation : Mutation}
    {assistantId : String} {consumer seen : Consumer Api ServerState} (unasked : ¬ scope.ownersKept)

include unasked

omit unasked

end Kept

end LangGraphServer
