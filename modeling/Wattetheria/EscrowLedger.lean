import Wattetheria.AsyncHandlers
import Wattetheria.MissionBoard

/-!
# Missions and the escrow ledger

The shared state of the mission handlers: the board, the gateway ledger, and the
requests this node has sent to it.  The ledger is outside the repository; it keeps one
state per escrow id, changes it atomically and answers a repeated request as it answered
the first.  A request may be served late, or never.

Three fields are history that no handler reads: the mission each request was sent for,
`awaiting`, which handler published a mission and has not recorded its escrow, and
`locking`, which has recorded it and not sent the lock.  Board writes and their
persistence are one step.
-/

namespace WattEscrow

open WattText WattJson WattAsync WattMission

/-! ## The ledger -/

/-- `StatusCode`, with the phrase it prints. -/
structure StatusCode where
  asU16 : Nat
  canonicalReason : String

def StatusCode.isClientError (status : StatusCode) : Bool :=
  400 ≤ status.asU16 && status.asU16 < 500

/-- How a ledger call fails. -/
inductive LedgerError where
  | insufficientBalance (message : String)
  | notFound (message : String)
  | rejected (status : StatusCode) (message : String)
  | unavailable (error : String)

/-- The `Display` of a ledger error. -/
def LedgerError.display : LedgerError → String
  | .insufficientBalance message | .notFound message => message
  | .rejected status message =>
    s!"ledger rejected request ({status.asU16} {status.canonicalReason}): {message}"
  | .unavailable error => s!"ledger unavailable: {error}"

/-- The state of one escrow. -/
inductive Escrow where
  | absent
  | locked (payer : String) (amount : Int)
  | released (payee : String)
  | refunded
  deriving DecidableEq

/-- The lock is this payer's, of this amount. -/
def escrowIsLockedBy (escrow : Escrow) (payer : String) (amount : Int) : Bool :=
  escrow = .locked payer amount

/-- What this node asks the ledger to do with an escrow. -/
inductive LedgerRequest where
  | lock (payer : String) (amount : Int)
  | release (payee : String)
  | refund
  deriving DecidableEq

def LedgerRequest.isLock : LedgerRequest → Bool
  | .lock _ _ => true
  | .release _ | .refund => false

/-- The ledger's refusal of a request that does not fit the escrow. -/
def conflict : LedgerError :=
  .rejected ⟨409, "Conflict"⟩ "escrow is not in a state for this request"

/-- What the ledger answers, and the escrow it leaves. -/
def LedgerRequest.answer : LedgerRequest → Escrow → Except LedgerError Unit × Escrow
  | .lock payer amount, .absent => (.ok (), .locked payer amount)
  | .lock payer amount, .locked payer' amount' =>
    (if payer = payer' ∧ amount = amount' then .ok () else .error conflict,
      .locked payer' amount')
  | .lock _ _, escrow => (.error conflict, escrow)
  | .release payee, .locked _ _ => (.ok (), .released payee)
  | .release _, .released payee => (.ok (), .released payee)
  | .refund, .locked _ _ => (.ok (), .refunded)
  | .refund, .refunded => (.ok (), .refunded)
  | .release _, .absent => (.error (.notFound "escrow not found"), .absent)
  | .refund, .absent => (.error (.notFound "escrow not found"), .absent)
  | .release _, .refunded => (.error conflict, .refunded)
  | .refund, .released payee => (.error conflict, .released payee)

/-- The errors the ledger may answer instead; an escrow that exists is not reported
missing. -/
def LedgerRequest.mayFailWith : LedgerRequest → LedgerError → Bool
  | .lock _ _, _ => true
  | .release _, .notFound _ | .refund, .notFound _ => false
  | .release _, _ | .refund, _ => true

/-! ## The shared state -/

/-- A request sent to the ledger. -/
structure Call where
  escrowId : String
  request : LedgerRequest
  mission : Option CivilMission
  reply : Option (Except LedgerError Unit)

/-- The shared state. -/
structure Shared where
  board : MissionBoard
  ledger : String → Escrow
  calls : List Call
  awaiting : String → Option Nat
  locking : String → Option Nat

def Shared.empty : Shared := ⟨.empty, fun _ => .absent, [], fun _ => none, fun _ => none⟩

/-- The ledger serves a request it has not answered, or fails with an error. -/
def Shared.serve (s : Shared) (n : Nat) (fault : Option LedgerError) : Shared :=
  match s.calls[n]? with
  | none => s
  | some call =>
    if call.reply.isSome then s
    else
      match fault.filter call.request.mayFailWith with
      | some error => { s with calls := s.calls.set n { call with reply := some (.error error) } }
      | none =>
        let answer := call.request.answer (s.ledger call.escrowId)
        { s with
          ledger := Function.update s.ledger call.escrowId answer.2
          calls := s.calls.set n { call with reply := some answer.1 } }

/-! ## Handlers -/

/-- What the schedule supplies to one step. -/
structure Outcome where
  /-- the uuid drawn by a publication -/
  uuid : String
  /-- the clock when a board operation checks an expiry -/
  checkedAt : Int
  /-- the clock otherwise -/
  now : Int
  /-- the transport error, when no reply of the ledger arrives in time -/
  lost : Option String

/-- Why a publication withdraws its mission. -/
inductive LockFailure where
  | noGateway
  | refused
  | uncertain
  deriving DecidableEq

/-- Why a handler forgets an escrow: its Watt went back, the ledger refused to lock it, or
the ledger does not know it. -/
inductive ClearReason where
  | refunded
  | refused
  | missing
  deriving DecidableEq

/-- The steps a handler takes. -/
inductive Spot where
  | look
  | publishMissionOnBoard
  | cancelOnBoard (why : LockFailure) (missionId : String)
  | recordMissionEscrowIntent
  | recordMissionEscrow
  | clearMissionEscrow (why : ClearReason) (missionId : String)
  | sendRequest (escrowId : String) (request : LedgerRequest)
  | awaitReply
  | lookUpEscrow
  | cancelUnfunded (missionId : String)
  | cancel
  | transition
  | settleMissionBoard (missionId : String) (payout : Option LedgerRequest)
  | sync
  deriving DecidableEq

/-- Where a handler stands: its next step, and the mission whose bounty it has seen
completed and is about to pay out. -/
structure Place where
  spot : Spot
  settling : Option String

/-- `Response`: an error status with its body. -/
structure Response where
  status : Nat
  error : String
  code : Option String := none

/-- A handler, given the mission it settles. -/
def Handler (α : Type) : Type :=
  Option String → Async Shared Outcome Place (Except Response α)

namespace Handler

variable {α β : Type} (spot : Spot)

/-- One step of a handler. -/
def atomic (f : Nat → Outcome → Shared → Except Response α × Shared) : Handler α :=
  fun settling => .atomic ⟨spot, settling⟩ f

/-- A value without a step. -/
protected def pure (a : α) : Handler α := fun _ => .pure (.ok a)

/-- Ends with a response. -/
def fail (response : Response) : Handler α := fun _ => .pure (.error response)

/-- The operator `?`. -/
protected def bind (p : Handler α) (f : α → Handler β) : Handler β := fun settling =>
  (p settling).bind fun
    | .ok a => f a settling
    | .error response => .pure (.error response)

instance : Monad Handler where
  pure := Handler.pure
  bind := Handler.bind

/-- Goes on after a failure. -/
def attempt (p : Handler α) : Handler (Except Response α) := fun settling =>
  (p settling).bind fun result => .pure (.ok result)

/-- The part of a handler that stands between seeing a mission completed and paying
its bounty. -/
def settling (missionId : String) (p : Handler α) : Handler α := fun _ => p (some missionId)

/-- Reads the board. -/
def look (f : Outcome → MissionBoard → Except Response α) : Handler α :=
  atomic .look fun _ e s => (f e s.board, s)

/-- Rewrites the board. -/
def onBoard (f : Outcome → MissionBoard → Except Response α × MissionBoard) : Handler α :=
  atomic spot fun _ e s => ((f e s.board).1, { s with board := (f e s.board).2 })

end Handler

end WattEscrow
