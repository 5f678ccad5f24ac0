import CardLink.Bus

/-! Card operations that consist of one command: issuing it, and judging what the card answered. -/

namespace CardLink

/-- Runs a transfer, logs a failure of the host and reports it as a failed transfer. -/
def execute (asked : Transfer) : Bus TransferReply := do
  let reply ← Bus.request (.transfer asked)
  match reply.outcome with
  | .ok () => return reply
  | .error cause =>
    Bus.log .debug ("SDMMC: CMD" ++ decimal asked.command.index.toNat
      ++ " arg=" ++ hexadecimal 8 asked.command.argument.toNat ++ " failed: " ++ cause.message)
    return { reply with outcome := .error .transferFailed }

/-- A program that ends with a value or with a card failure. -/
abbrev CardProgram (α : Type) : Type := ExceptT CardError Bus α

/-- Issues a command without data and hands on its response. -/
def issue (command : Command) : CardProgram Response := do
  let reply ← execute { command }
  match reply.outcome with
  | .ok () => return reply.response
  | .error cause => throw cause

/-- Takes the first response word as a card status and refuses one that flags a fault. -/
def acceptStatus (command : Command) (response : Response) : CardProgram CardStatus := do
  let status : CardStatus := ⟨response.word0⟩
  if status.faulty then
    Bus.log .debug ("SDMMC: CMD" ++ decimal command.index.toNat ++ " R1 error flags "
      ++ hexadecimal 8 status.word.toNat)
    throw .transferFailed
  else return status

/-- Issues a command and accepts its card status. -/
def issueChecked (command : Command) : CardProgram CardStatus := do
  let response ← issue command
  acceptStatus command response

/-- Issues a command and ignores what the card answers. -/
def issueUnchecked (command : Command) : CardProgram Unit := do
  let _ ← issue command

/-- Selects one card, or deselects all; the first response word is judged in both cases. -/
def selectCard (card : UInt16) (select : Bool) : CardProgram Unit := do
  let _ ← issueChecked (.selectCard card select)

/-- Announces an application command; a card that does not take it lacks the capability. -/
def announceApplication (card : UInt16) : CardProgram Unit := do
  let status ← issueChecked (.announceApplication card)
  if status.applicationCommand then return ()
  else
    Bus.log .debug ("SDMMC: card at RCA " ++ hexadecimal 4 card.toNat ++ " did not accept APP_CMD")
    throw .commandUnsupported

/-- Sets the block count of the next command. -/
def setBlockCount (count : UInt32) : CardProgram Unit := do
  let _ ← issueChecked (.setBlockCount count)

/-- Sets the block length. -/
def setBlockSize (size : UInt32) : CardProgram Unit := do
  let _ ← issueChecked (.setBlockSize size)

/-- Resets every card. -/
def goIdle : CardProgram Unit := issueUnchecked .goIdle

/-- Resets every card to the state before idle. -/
def goPreIdle : CardProgram Unit := issueUnchecked .goPreIdle

/-- Takes one card out of service. -/
def setCardInactive (card : UInt16) : CardProgram Unit := issueUnchecked (.goInactive card)

end CardLink
