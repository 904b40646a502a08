import EngineBridge.Native.Library
/-!
# The arena of outstanding calls: `PendingCalls`

Every outstanding call has a slot under its token.  Tokens are issued from one upward and
never again, so the arena needs no memory of the calls that were answered: a token below the
next one without a slot was answered before, any other was never issued.

Registering and retiring a call are three and two steps that other threads may come between;
each step is a function of its own, and `register` and `retire` take them in a row.
-/

namespace EngineBridge

/-- A bridge to one engine, shared by its handles and its calls. -/
abbrev BridgeId := Nat

/-- Sets a function's value at one place. -/
def setAt {α : Type} (f : Nat → α) (place : Nat) (value : α) : Nat → α :=
  fun i => if i = place then value else f i

/-- `PendingCalls`, with the `in_flight` counters of the bridges beside it. -/
structure Arena where
  nextToken : Token
  slots : List (Token × BridgeId)
  inFlight : BridgeId → Nat

namespace Arena

def initial : Arena := ⟨1, [], fun _ => 0⟩

/-- `PendingCalls::shared`: the bridge of the call under a token. -/
def find? (arena : Arena) (token : Token) : Option BridgeId := arena.slots.lookup token

def issue (arena : Arena) : Token × Arena :=
  (arena.nextToken, { arena with nextToken := arena.nextToken + 1 })

/-- Counts one more call of a bridge. -/
def raise (bridge : BridgeId) (arena : Arena) : Arena :=
  { arena with inFlight := setAt arena.inFlight bridge (arena.inFlight bridge + 1) }

/-- Puts a slot under a token. -/
def insertSlot (token : Token) (bridge : BridgeId) (arena : Arena) : Arena :=
  { arena with slots := (token, bridge) :: arena.slots }

def removeSlot (token : Token) (arena : Arena) : Option BridgeId × Arena :=
  (arena.find? token,
    { arena with slots := arena.slots.filter fun slot => slot.1 ≠ token })

def lower (bridge : BridgeId) (arena : Arena) : Arena :=
  { arena with inFlight := setAt arena.inFlight bridge (arena.inFlight bridge - 1) }

/-- `PendingCalls::missing`: what is wrong with a completion for a token without a slot. -/
def diagnose (arena : Arena) (token : Token) : Violation :=
  if token ≠ 0 ∧ token < arena.nextToken then .doubleResume token else .unknownToken token

/-- `PendingCalls::register`: the token, the counter, and the slot. -/
def register (bridge : BridgeId) (arena : Arena) : Token × Arena :=
  let (token, arena) := arena.issue
  (token, (arena.raise bridge).insertSlot token bridge)

/-- The part of `PendingCalls::resume` before the outcome is sent: the slot is removed and its
bridge counts one call less. -/
def retire (token : Token) (arena : Arena) : Except Violation BridgeId × Arena :=
  match arena.removeSlot token with
  | (none, _) => (.error (arena.diagnose token), arena)
  | (some bridge, arena) => (.ok bridge, arena.lower bridge)

end Arena

end EngineBridge
