/-! What a card answers: four response words, and the fields and fault flags of a status word. -/

namespace CardLink

/-- The four words of a response. -/
structure Response where
  /-- The first word, which holds a status. -/
  word0 : UInt32 := 0
  /-- The second word. -/
  word1 : UInt32 := 0
  /-- The third word. -/
  word2 : UInt32 := 0
  /-- The fourth word. -/
  word3 : UInt32 := 0
  deriving DecidableEq, Inhabited

/-- The words in order. -/
def Response.words (response : Response) : List UInt32 :=
  [response.word0, response.word1, response.word2, response.word3]

/-- The response with its first words replaced by those of the list; words past the fourth are dropped. -/
def Response.store (response : Response) (words : List UInt32) : Response where
  word0 := words[0]?.getD response.word0
  word1 := words[1]?.getD response.word1
  word2 := words[2]?.getD response.word2
  word3 := words[3]?.getD response.word3

/-- The field of the given width that starts at the given bit. -/
def bitField (word : UInt32) (low width : Nat) : Nat :=
  word.toNat >>> low % Nat.pow 2 width

/-- One bit of a word. -/
def bitSet (word : UInt32) (position : Nat) : Bool :=
  word.toNat.testBit position

/-- The word in which exactly the listed bits are set. -/
def maskOf (positions : List Nat) : UInt32 :=
  positions.foldl (fun mask position => mask ||| 1 <<< UInt32.ofNat position) 0

/-- A flag of the card status that marks the command as failed. -/
inductive CardFault where
  | outOfRange
  | addressError
  | blockLengthError
  | eraseSequenceError
  | eraseParameter
  | writeProtectViolation
  | cardLocked
  | lockUnlockFailed
  | crcError
  | illegalCommand
  | eccFailed
  | controllerError
  | generalError
  | registerOverwrite
  | writeProtectEraseSkip
  | eraseReset
  | switchError
  deriving DecidableEq

/-- The place of a fault flag in the status word. -/
def CardFault.position : CardFault → Nat
  | .outOfRange => 31
  | .addressError => 30
  | .blockLengthError => 29
  | .eraseSequenceError => 28
  | .eraseParameter => 27
  | .writeProtectViolation => 26
  | .cardLocked => 25
  | .lockUnlockFailed => 24
  | .crcError => 23
  | .illegalCommand => 22
  | .eccFailed => 21
  | .controllerError => 20
  | .generalError => 19
  | .registerOverwrite => 16
  | .writeProtectEraseSkip => 15
  | .eraseReset => 13
  | .switchError => 7

/-- Every fault flag of the card status. -/
def CardFault.all : List CardFault :=
  [.outOfRange, .addressError, .blockLengthError, .eraseSequenceError, .eraseParameter,
    .writeProtectViolation, .cardLocked, .lockUnlockFailed, .crcError, .illegalCommand,
    .eccFailed, .controllerError, .generalError, .registerOverwrite, .writeProtectEraseSkip,
    .eraseReset, .switchError]

/-- The status bit of a fault. -/
def CardFault.mask (fault : CardFault) : UInt32 :=
  maskOf [fault.position]

/-- The status word of a card that answers with R1. -/
structure CardStatus where
  /-- The first response word. -/
  word : UInt32
  deriving DecidableEq

/-- All status bits that mark a command as failed. -/
def CardStatus.faultMask : UInt32 :=
  maskOf (CardFault.all.map CardFault.position)

/-- The card flagged the command as failed. -/
def CardStatus.faulty (status : CardStatus) : Bool :=
  status.word &&& CardStatus.faultMask != 0

/-- An extension function has an event pending. -/
def CardStatus.eventPending (status : CardStatus) : Bool := bitSet status.word 6

/-- The card takes the next command as an application command. -/
def CardStatus.applicationCommand (status : CardStatus) : Bool := bitSet status.word 5

/-- The authentication sequence went wrong. -/
def CardStatus.authenticationError (status : CardStatus) : Bool := bitSet status.word 3

/-- The buffer of the card is empty. -/
def CardStatus.readyForData (status : CardStatus) : Bool := bitSet status.word 8

/-- The card is locked by its user. -/
def CardStatus.locked (status : CardStatus) : Bool := bitSet status.word 25

/-- The number of the state in which the card received the command. -/
def CardStatus.stateCode (status : CardStatus) : Nat := bitField status.word 9 4

/-- The name of the state in which the card received the command, if the number has one. -/
def CardStatus.stateName? (status : CardStatus) : Option String :=
  ["Idle", "Ready", "Identification", "Standby", "Transfer", "SendingData", "ReceiveData",
    "Programming", "Disconnect"][status.stateCode]?

/-- A flag of the I/O status that marks the command as failed. -/
inductive IoFault where
  | crcError
  | illegalCommand
  | generalError
  | functionNumber
  | outOfRange
  deriving DecidableEq

/-- The place of a fault flag in the I/O status word. -/
def IoFault.position : IoFault → Nat
  | .crcError => 15
  | .illegalCommand => 14
  | .generalError => 11
  | .functionNumber => 9
  | .outOfRange => 8

/-- Every fault flag of the I/O status. -/
def IoFault.all : List IoFault :=
  [.crcError, .illegalCommand, .generalError, .functionNumber, .outOfRange]

/-- The status word of a card that answers with R5. -/
structure IoStatus where
  /-- The first response word. -/
  word : UInt32
  deriving DecidableEq

/-- All status bits that mark an I/O command as failed. -/
def IoStatus.faultMask : UInt32 :=
  maskOf (IoFault.all.map IoFault.position)

/-- The card flagged the I/O command as failed. -/
def IoStatus.faulty (status : IoStatus) : Bool :=
  status.word &&& IoStatus.faultMask != 0

/-- One fault flag of the I/O status is set. -/
def IoStatus.has (status : IoStatus) (fault : IoFault) : Bool :=
  bitSet status.word fault.position

/-- The register value in the low byte. -/
def IoStatus.data (status : IoStatus) : UInt8 := status.word.toUInt8

/-- The number of the state of the I/O part of the card. -/
def IoStatus.stateCode (status : IoStatus) : Nat := bitField status.word 12 2

/-- The name of the state of the I/O part of the card, if the number has one. -/
def IoStatus.stateName? (status : IoStatus) : Option String :=
  ["Disabled", "Command", "Transfer"][status.stateCode]?

end CardLink
