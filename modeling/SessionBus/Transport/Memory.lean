import SessionBus.Registry.Exchange
import SessionBus.Transport.Link

/-!
# Frames that reach the bus in memory

Frames of one process call the switchboard directly.
-/

namespace SessionBus.Memory

def attach (exchange : Exchange) : Except TransportError FrameId × Exchange :=
  let (result, exchange) := exchange.register
  (result.mapError .switchboard, exchange)

def call (exchange : Exchange) (frame : FrameId) (now : Instant) :
    Call → Except TransportError CallResult × Exchange
  | .claim session =>
    let (result, exchange) := exchange.claim frame session now
    ((result.mapError .switchboard).map .claimed, exchange)
  | .join session displayName =>
    let (result, exchange) := exchange.join frame session displayName now
    ((result.mapError .switchboard).map .joined, exchange)
  | .describe session =>
    (if exchange.isRunning then .ok (.described (exchange.describe session))
     else .error .disconnected, exchange)

end SessionBus.Memory
