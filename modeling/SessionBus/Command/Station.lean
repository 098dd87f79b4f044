import SessionBus.Network
import SessionBus.Settings

/-!
# Stations

A station is a hub that listens at a path.  Frames of other processes are linked to it by sockets,
and frames of its own process use its exchange directly.  Whoever works with the exchange, the
others take notice before the next operation.
-/

namespace SessionBus.Command

/-- A hub with both kinds of frames, the number under which it is known, and whether it can still
be reached at its path. -/
structure Station where
  number : Nat
  path : String
  listening : Bool
  linked : Network
  inside : Network

namespace Station

/-- A hub that has just been started.  `displayName` is the name with which frames of other
processes introduce themselves. -/
def start (number : Nat) (settings : Settings) (displayName : String) : Station :=
  let hub := Hub.start settings.limits settings.maxMessageSize
  { number
    path := settings.socketPath
    listening := true
    linked := .start (.linked ⟨hub, settings.socketPath, some displayName, []⟩)
    inside := .start (.direct hub.exchange) }

def exchange (station : Station) : Exchange :=
  station.linked.transport.exchange

/-- Works with the frames of other processes. -/
def onLinked {α : Type} (station : Station) (work : Network → α × Network) : α × Station :=
  let (result, linked) := work station.linked
  let inside := station.inside.resume linked.transport.exchange
  (result, { station with linked := linked.resume inside.transport.exchange, inside })

/-- Works with the frames of the hub's own process. -/
def onInside {α : Type} (station : Station) (work : Network → α × Network) : α × Station :=
  let (result, inside) := work station.inside
  let linked := station.linked.resume inside.transport.exchange
  (result, { station with linked, inside := inside.resume linked.transport.exchange })

/-- Works with the hub itself, without a frame. -/
def onHub {α : Type} (station : Station) (work : Hub → α × Hub) : Option α × Station :=
  station.onLinked fun network =>
    match network.transport with
    | .direct exchange => (none, { network with transport := .direct exchange })
    | .linked sockets =>
      let (result, hub) := work sockets.hub
      (some result, { network with transport := .linked { sockets with hub } })

/-- Stops the hub, which can no longer be reached then. -/
def stop (station : Station) : Station :=
  { (station.onLinked fun network => ((), network.stop)).2 with listening := false }

end Station

end SessionBus.Command
