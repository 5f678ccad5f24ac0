import CardLink.Command.Argument
import CardLink.Response

/-! Commands on the wire: an index, an argument, the expected response and the words that came back. -/

namespace CardLink

/-- The response format that a command expects. -/
inductive ResponseType where
  | none
  | r1
  | r1b
  | r2
  | r3
  | r4
  | r5
  | r5b
  | r6
  | r7
  deriving DecidableEq, Inhabited

/-- The name of a response format. -/
def ResponseType.text : ResponseType → String
  | .none => "None"
  | .r1 => "R1"
  | .r1b => "R1b"
  | .r2 => "R2"
  | .r3 => "R3"
  | .r4 => "R4"
  | .r5 => "R5"
  | .r5b => "R5b"
  | .r6 => "R6"
  | .r7 => "R7"

/-- One command. -/
structure Command where
  /-- The command index. -/
  index : UInt8
  /-- The argument word. -/
  argument : UInt32
  /-- The expected response format. -/
  responseType : ResponseType
  /-- The response words: zero until a host stores others. -/
  response : Response := {}
  deriving DecidableEq, Inhabited

/-- Index of the reset command. -/
def goIdleIndex : UInt8 := 0

/-- Index of the command that selects a card. -/
def selectCardIndex : UInt8 := 7

/-- Index of the command that starts the switch to low-voltage signalling. -/
def voltageSwitchIndex : UInt8 := 11

/-- Index of the command that takes a card out of service. -/
def goInactiveIndex : UInt8 := 15

/-- Index of the command that sets the block length. -/
def setBlockSizeIndex : UInt8 := 16

/-- Index of the tuning block command. -/
def tuningBlockIndex : UInt8 := 19

/-- Index of the tuning block command of the faster bus mode. -/
def tuningBlockFastIndex : UInt8 := 21

/-- Index of the command that sets the block count. -/
def setBlockCountIndex : UInt8 := 23

/-- Index of the register access. -/
def ioDirectIndex : UInt8 := 52

/-- Index of the extended transfer. -/
def ioExtendedIndex : UInt8 := 53

/-- Index of the command that announces an application command. -/
def applicationCommandIndex : UInt8 := 55

/-- The argument that turns a reset into a reset to the state before idle. -/
def preIdleArgument : UInt32 := 0xF0F0F0F0

/-- The place of a relative card address in an argument. -/
def cardAddressShift : UInt32 := 16

namespace Command

/-- The argument that addresses one card. -/
def addressed (card : UInt16) : UInt32 := card.toUInt32 <<< cardAddressShift

/-- Resets every card. -/
def goIdle : Command := ⟨goIdleIndex, 0, .none, {}⟩

/-- Resets every card to the state before idle. -/
def goPreIdle : Command := ⟨goIdleIndex, preIdleArgument, .none, {}⟩

/-- Selects one card, or deselects all; deselection names no card and expects no response. -/
def selectCard (card : UInt16) (select : Bool) : Command :=
  if select then ⟨selectCardIndex, addressed card, .r1, {}⟩ else ⟨selectCardIndex, 0, .none, {}⟩

/-- Announces that the next command is an application command. -/
def announceApplication (card : UInt16) : Command := ⟨applicationCommandIndex, addressed card, .r1, {}⟩

/-- Takes one card out of service. -/
def goInactive (card : UInt16) : Command := ⟨goInactiveIndex, addressed card, .none, {}⟩

/-- Sets the block count of the next command. -/
def setBlockCount (count : UInt32) : Command := ⟨setBlockCountIndex, count, .r1, {}⟩

/-- Sets the block length. -/
def setBlockSize (size : UInt32) : Command := ⟨setBlockSizeIndex, size, .r1, {}⟩

/-- Starts the switch to low-voltage signalling. -/
def voltageSwitch : Command := ⟨voltageSwitchIndex, 0, .r1, {}⟩

/-- Asks for one tuning block. -/
def tuningBlock (index : UInt8) : Command := ⟨index, 0, .r1, {}⟩

/-- Accesses one register. -/
def ioDirect (access : DirectAccess) : Command := ⟨ioDirectIndex, access.encode, .r5, {}⟩

/-- Moves bytes between memory and registers. -/
def ioExtended (access : ExtendedAccess) : Command := ⟨ioExtendedIndex, access.encode, .r5, {}⟩

/-- The command before any field is chosen. -/
def blank : Command := ⟨0, 0, .none, {}⟩

/-- All fields of a command, for people to read. -/
def text (command : Command) : String :=
  "Command \x7b index: " ++ decimal command.index.toNat
    ++ ", argument: " ++ decimal command.argument.toNat
    ++ ", response_type: " ++ command.responseType.text
    ++ ", response: [" ++ ", ".intercalate (command.response.words.map fun word => decimal word.toNat)
    ++ "] \x7d"

end Command

end CardLink
