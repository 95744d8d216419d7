import Wattetheria.AgentEvents
import Wattetheria.SocialServices

/-!
# Direct messages wait for a friendship

`callback` defers a direct message until its two public identities are friends.  It reads
both from the signed message, where the sender put them, and leaves alone what does not
name two; what the signature proves is the sender's DID.
-/

namespace WattDmGate

open WattText WattJson WattRows WattEvents WattSocial Option

/-! ## The gate -/

variable (event : AgentEventEnvelope)

variable (store : Store)

/-- `has_active_friendship`; a list that is refused is empty. -/
def hasActiveFriendship (localId remotePublicId : String) : Bool :=
  ((FriendshipService.listFriendships store localId).toOption.getD []).any
    fun friendship => friendship.remotePublicId = remotePublicId && friendship.state = .active

variable (crates : Crates) (nowMs : Int) (ambient : Ambient) (node : Node)

variable (signer : VerifiedAgentContext)

variable {crates nowMs ambient node} {store : Store} {event passed : AgentEventEnvelope}
  {context : Option VerifiedAgentContext}

def toySigner : VerifiedAgentContext := envelopeContext "did:alice" "alice-node" 0

end WattDmGate
