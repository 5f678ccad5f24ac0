import CardLink.Error
import CardLink.Log

/-!
The relay for card interrupts: a switch that is armed, a mask in the host that follows it, and one
slot for the handler of a client.
-/

namespace CardLink

/-- A handler of a client together with the word that it is called with. -/
structure Registration where
  /-- Which handler it is. -/
  handler : Nat
  /-- The word for the handler. -/
  data : UInt64
  deriving DecidableEq

/-- A request to the relay. -/
inductive RelayRequest where
  /-- Puts a handler into the slot. -/
  | register (registration : Registration)
  /-- Empties the slot. -/
  | unregister
  /-- Arms the relay for one interrupt. -/
  | enable
  /-- Disarms the relay. -/
  | disable
  /-- Signals an interrupt of the card. -/
  | interrupt
  /-- Asks whether the relay is armed. -/
  | isEnabled
  deriving DecidableEq

/-- The answer to a request. -/
inductive RelayAnswer where
  /-- The slot was changed. -/
  | changed
  /-- The slot was not changed. -/
  | refused (cause : DeviceError)
  /-- The switch was set. -/
  | switched
  /-- A yes or a no. -/
  | truth (value : Bool)
  deriving DecidableEq

/-- Who is using the handler slot right now. -/
inductive SlotUse where
  /-- Nobody. -/
  | free
  /-- Handlers that are running, one and so many more. -/
  | reading (more : Nat)
  /-- One request that changes the slot. -/
  | writing
  deriving DecidableEq

/-- One more reader, refused while the slot is being changed. -/
def SlotUse.beginRead? : SlotUse → Option SlotUse
  | .free => some (.reading 0)
  | .reading more => some (.reading (more + 1))
  | .writing => none

/-- One reader less. -/
def SlotUse.endRead : SlotUse → SlotUse
  | .reading (more + 1) => .reading more
  | .reading 0 => .free
  | use => use

/-- The only writer, refused while anybody uses the slot. -/
def SlotUse.beginWrite? : SlotUse → Option SlotUse
  | .free => some .writing
  | .reading _ | .writing => none

/-- A relay and the mask that it drives. -/
structure Relay where
  /-- The next interrupt is let through. -/
  armed : Bool := false
  /-- The handler in the slot. -/
  slot : Option Registration := none
  /-- Who is using the slot. -/
  use : SlotUse := .free
  /-- The last value written to the mask of the host. -/
  mask : Bool := false
  /-- How often the mask was written. -/
  writes : Nat := 0
  deriving DecidableEq

/--
Sets the switch, and the mask with it.

Nothing runs between the two: clients come in through the write to the mask only, and that sets the mask
before it calls anybody.
-/
def Relay.switch (relay : Relay) (on : Bool) : Relay :=
  { relay with armed := on, mask := on, writes := relay.writes + 1 }

end CardLink
