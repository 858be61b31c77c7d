import Wavis.RoomInfo
import Wavis.Text

/-! A ticket opens one connection, within a minute. The store keeps hashes of tickets. Every call
reads the clock before it takes the lock, so the times of successive calls are in no order. -/

namespace Wavis

def ticketTtlSecs : Nat := 60

inductive WsTicketError where
  | notFound
  | expired
  | alreadyConsumed

structure TicketRecord where
  userId : Uuid
  deviceId : Uuid
  expiresAt : Instant
  consumed : Bool

abbrev WsTicketStore (H : Type) := HashMap H TicketRecord

namespace WsTicketStore

variable {H : Type} [DecidableEq H] (hashTicket : String → H)

def issue (tickets : WsTicketStore H) (raw : String) (userId deviceId : Uuid) (now : Instant) :
    WsTicketStore H :=
  tickets.insert (hashTicket raw)
    { userId, deviceId, expiresAt := now + Duration.fromSecs ticketTtlSecs, consumed := false }

def validateAndConsume (tickets : WsTicketStore H) (rawTicket : String) (now : Instant) :
    Except WsTicketError (Uuid × Uuid) × WsTicketStore H :=
  match tickets.lookup (hashTicket rawTicket) with
  | none => (.error .notFound, tickets)
  | some record =>
    if record.consumed then (.error .alreadyConsumed, tickets)
    else if record.expiresAt ≤ now then (.error .expired, tickets)
    else (.ok (record.userId, record.deviceId),
      tickets.insert (hashTicket rawTicket) { record with consumed := true })

def pruneExpired (tickets : WsTicketStore H) (now : Instant) : Nat × WsTicketStore H :=
  let kept := tickets.retain fun _ record => !record.consumed && decide (record.expiresAt > now)
  (tickets.entries.length - kept.entries.length, kept)

end WsTicketStore

/-- A call with the ticket it draws or is shown and the time it has read. -/
inductive TicketCall where
  | issue (raw : String) (userId deviceId : Uuid) (now : Instant)
  | validateAndConsume (rawTicket : String) (now : Instant)
  | pruneExpired (now : Instant)

def TicketCall.draws : TicketCall → Option String
  | issue raw _ _ _ => some raw
  | _ => none

namespace WsTicketStore

variable {H : Type} [DecidableEq H] (hashTicket : String → H)

/-- The section of a call. -/
def serve (tickets : WsTicketStore H) : TicketCall → WsTicketStore H
  | .issue raw userId deviceId now => tickets.issue hashTicket raw userId deviceId now
  | .validateAndConsume rawTicket now => (tickets.validateAndConsume hashTicket rawTicket now).2
  | .pruneExpired now => (tickets.pruneExpired now).2

/-- The store after the sections of calls, in the order in which they took the lock. -/
def after (calls : List TicketCall) : WsTicketStore H := calls.foldl (serve hashTicket) ∅

end WsTicketStore

end Wavis
