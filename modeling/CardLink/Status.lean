import CardLink.Flags

/-! What a host reports without a transfer: the levels of the lines and the progress of tuning. -/

namespace CardLink

/-- A snapshot of the line levels and of the card slot. -/
structure LineStatus where
  /-- The reported word, nameless bits included. -/
  bits : UInt32
  deriving DecidableEq

/-- The names of the line and slot bits. -/
def LineStatus.layout : FlagLayout where
  title := "PresentStatus"
  named := [("DATA0_LEVEL", 0x01), ("DATA1_LEVEL", 0x02), ("DATA2_LEVEL", 0x04),
    ("DATA3_LEVEL", 0x08), ("CMD_LEVEL", 0x10), ("CARD_INSERTED", 0x20)]

/-- The level bits of the four data lines. -/
def LineStatus.dataLines : UInt32 := 0xF

/-- At least one of the four data lines is high. -/
def LineStatus.anyDataHigh (status : LineStatus) : Bool :=
  sharesBits status.bits LineStatus.dataLines

/-- The text of a snapshot. -/
def LineStatus.text (status : LineStatus) : String :=
  LineStatus.layout.text status.bits

/-- The state of standard tuning. -/
structure TuningStatus where
  /-- The reported word, nameless bits included. -/
  bits : UInt32
  deriving DecidableEq

/-- The names of the tuning bits. -/
def TuningStatus.layout : FlagLayout where
  title := "TuningStatus"
  named := [("ACTIVE", 0x01), ("ERROR", 0x02), ("SAMPLING_CLOCK_SELECTED", 0x04)]

/-- The host wants more tuning blocks. -/
def TuningStatus.active (status : TuningStatus) : Bool :=
  containsBits status.bits 0x01

/-- The host flagged an error in the current window. -/
def TuningStatus.failed (status : TuningStatus) : Bool :=
  containsBits status.bits 0x02

/-- The host runs on the tuned sampling clock. -/
def TuningStatus.sampling (status : TuningStatus) : Bool :=
  containsBits status.bits 0x04

end CardLink
