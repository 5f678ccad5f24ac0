import CardLink.Proofs.Device.Plan
import CardLink.Proofs.Segment
import Mathlib.Logic.Function.Basic

/-!
A card that knows only the argument word of an extended transfer and its data phase, and what the
commands of a block request mean to it.
-/

namespace CardLink

/-- A card as a host sees it: registers, and FIFOs that take and give their bytes in order. -/
structure Card where
  /-- The registers of each function. -/
  registers : Nat → Nat → UInt8
  /-- The bytes that each FIFO of a function has taken. -/
  taken : Nat → Nat → Bytes
  /-- The bytes that each FIFO of a function gives next. -/
  ready : Nat → Nat → Nat → UInt8

/-- The number of bytes that a command moves: whole blocks, or as many as its count says, up to 512. -/
def ExtendedFields.byteCount (fields : ExtendedFields) (blockSize : Nat) : Nat :=
  if fields.blockMode then fields.count * blockSize
  else if fields.count = 0 then 512
  else fields.count

namespace Card

/-- Registers after bytes were stored in order from an address on, which wraps at the last register. -/
def stored (registers : Nat → UInt8) (address : Nat) : Bytes → Nat → UInt8
  | [] => registers
  | byte :: rest => stored (Function.update registers (address % 2 ^ 17) byte) (address + 1) rest

/-- Takes bytes: into the registers from an address on, or all of them into the FIFO at the address. -/
def take (card : Card) (increments : Bool) (function address : Nat) (bytes : Bytes) : Card :=
  if increments then
    let bank := stored (card.registers function) address bytes
    { card with registers := Function.update card.registers function bank }
  else
    let queue := card.taken function address ++ bytes
    let bank := Function.update (card.taken function) address queue
    { card with taken := Function.update card.taken function bank }

/-- The bytes given: of the registers from an address on, or of the FIFO at the address. -/
def given (card : Card) (increments : Bool) (function address count : Nat) : Bytes :=
  (List.range count).map fun place =>
    if increments then card.registers function ((address + place) % 2 ^ 17)
    else card.ready function address place

/-- The card after it gave bytes: a FIFO goes on behind them, and registers stay as they are. -/
def afterGiving (card : Card) (increments : Bool) (function address count : Nat) : Card :=
  if increments then card
  else
    let queue := fun place => card.ready function address (count + place)
    let bank := Function.update (card.ready function) address queue
    { card with ready := Function.update card.ready function bank }

/-- Moves as many bytes as a buffer holds: what the card gives, and the card afterwards. -/
def move (card : Card) (direction : Direction) (increments : Bool) (function address : Nat)
    (bytes : Bytes) : Bytes × Card :=
  match direction with
  | .toCard => ([], card.take increments function address bytes)
  | .fromCard =>
    (card.given increments function address bytes.length,
      card.afterGiving increments function address bytes.length)

/--
Serves one extended transfer, if its argument word and its data phase agree about it.

The word says which bytes are meant, and the data phase has to go the same way and hold as many.
-/
def serve (card : Card) (asked : Transfer) : Option (Bytes × Card) := do
  let data ← asked.data
  let fields := ExtendedFields.decode asked.command.argument
  let count := fields.byteCount data.blockSize.toNat
  if asked.command.index = 53 ∧ fields.write = decide (data.buffer.direction = .toCard)
      ∧ data.blockCount.toNat * data.blockSize.toNat = count ∧ data.buffer.length = count then
    some (card.move data.buffer.direction fields.increments fields.function fields.address
      (data.buffer.firstBytes count))
  else none

/-- Serves host calls in order, all of which have to be extended transfers. -/
def replay (card : Card) : List HostCall → Option (Bytes × Card)
  | [] => some ([], card)
  | .transfer asked :: rest => do
    let first ← card.serve asked
    let others ← first.2.replay rest
    return (first.1 ++ others.1, others.2)
  | _ :: _ => none

/-- As far as a card serves transfers, the host stores in their buffers what the card gives. -/
def feeds (card : Card) : List Exchange → Bool
  | [] => true
  | ⟨.transfer asked, reply⟩ :: rest =>
    match asked.data, card.serve asked with
    | some data, some served =>
      reply.memory == data.buffer.fill served.1 && served.2.feeds rest
    | _, _ => true
  | _ :: rest => card.feeds rest

section Laws

variable (registers : Nat → UInt8) (card : Card) (increments : Bool) (function address : Nat)

/-- Only the remainder of an address counts. -/
theorem stored_congr {address other : Nat} (same : address % 2 ^ 17 = other % 2 ^ 17)
    (bytes : Bytes) : stored registers address bytes = stored registers other bytes := by
  -- The first byte goes to the same register, and the next addresses agree as well.
  induction bytes generalizing registers address other with
  | nil => rfl
  | cons byte rest ih =>
    rw [stored, stored, same]
    exact ih _ (by omega)

/-- Storing some bytes and then others behind them is storing both at once. -/
theorem stored_append (first second : Bytes) :
    stored registers address (first ++ second) =
      stored (stored registers address first) (address + first.length) second := by
  -- Each byte of the first part moves the start of the rest up by one.
  induction first generalizing registers address with
  | nil => rfl
  | cons byte rest ih =>
    rw [List.cons_append, stored, ih, stored, List.length_cons, Nat.add_assoc,
      Nat.add_comm 1]

/-- Moving some bytes and then others from behind them is moving both at once. -/
theorem move_append (direction : Direction) (first second : Bytes) :
    card.move direction increments function address (first ++ second) =
      let one := card.move direction increments function address first
      let two := one.2.move direction increments function
        (addressBehind increments address first.length) second
      (one.1 ++ two.1, two.2) := by
  cases direction with
  | toCard =>
    cases increments with
    | false => simp [move, take, addressBehind]
    | true =>
      -- The second command starts at the remainder of the address behind the first one.
      have behind : stored (card.registers function) address (first ++ second) =
          stored (stored (card.registers function) address first)
            ((address + first.length) % 2 ^ 17) second := by
        rw [stored_append]
        exact stored_congr _ (Nat.mod_mod _ _).symm second
      simp [move, take, addressBehind, behind]
  | fromCard =>
    cases increments with
    | false =>
      simp [move, given, afterGiving, addressBehind, List.range_add, Nat.add_assoc]
    | true =>
      simp [move, given, afterGiving, addressBehind, List.range_add, Nat.add_assoc]

/-- Moving nothing changes nothing. -/
theorem move_nil (direction : Direction) :
    card.move direction increments function address [] = ([], card) := by
  cases direction <;> cases increments <;> simp [move, take, given, afterGiving, stored]

/-- A read gives as many bytes as there is room for. -/
theorem length_given (count : Nat) :
    (card.given increments function address count).length = count := by
  rw [given, List.length_map, List.length_range]

end Laws

/-- A command whose count and direction fit its data phase moves the bytes of the whole buffer. -/
theorem serve_command (card : Card) {fields : ExtendedFields} (fit : fields.Fit) (data : DataPhase)
    (sameWay : fields.write = decide (data.buffer.direction = .toCard))
    (sameCount : fields.byteCount data.blockSize.toNat = data.blockCount.toNat * data.blockSize.toNat)
    (whole : data.buffer.length = data.blockCount.toNat * data.blockSize.toNat) :
    card.serve { command := fields.command, data := some data } =
      some (card.move data.buffer.direction fields.increments fields.function fields.address
        (data.buffer.firstBytes data.buffer.length)) := by
  -- The card reads the fields back, and both sides count the same bytes.
  have decoded : ExtendedFields.decode fields.command.argument = fields :=
    ExtendedFields.decode_word fit
  have index : fields.command.index = 53 := rfl
  simp only [serve, Option.bind_eq_bind, Option.bind_some, decoded, index, sameWay, sameCount, whole,
    and_self, if_true]

/-- Behind a transfer that the card serves, a replay goes on with the card as it is by then. -/
theorem replay_cons (card : Card) (asked : Transfer) (rest : List HostCall) {served : Bytes × Card}
    (serves : card.serve asked = some served) :
    card.replay (.transfer asked :: rest) =
      (served.2.replay rest).map fun others => (served.1 ++ others.1, others.2) := by
  simp only [replay, serves, Option.bind_eq_bind, Option.bind_some, Option.pure_def,
    Option.map_eq_bind, Function.comp_def]

/-- A transfer that the card serves is fed exactly if its buffer holds what the card gives. -/
theorem feeds_cons (card : Card) {asked : Transfer} {data : DataPhase} {served : Bytes × Card}
    (some : asked.data = some data) (serves : card.serve asked = .some served) (reply : TransferReply)
    (rest : List Exchange) :
    card.feeds (⟨.transfer asked, reply⟩ :: rest) ↔
      reply.memory = data.buffer.fill served.1 ∧ served.2.feeds rest := by
  simp only [feeds, some, serves, Bool.and_eq_true, beq_iff_eq]

/-- For a read into one stretch, a card gives as many bytes as the stretch holds. -/
theorem length_serve {card : Card} {asked : Transfer} {data : DataPhase} {bytes : Bytes}
    (some : asked.data = some data) (plain : data.buffer = .plain .fromCard bytes)
    {served : Bytes × Card} (serves : card.serve asked = .some served) :
    served.1.length = bytes.length := by
  simp only [serve, some, plain, Option.bind_eq_bind, Option.bind_some] at serves
  split at serves
  · rename_i agree
    -- The data phase holds as many bytes as the command moves.
    obtain ⟨-, -, -, length⟩ := agree
    have served_eq := (Option.some.inj serves).symm
    rw [← length] at served_eq
    rw [served_eq]
    exact (card.length_given ..).trans (congrArg List.length List.take_length)
  · cases serves

/-- Reads that a card feeds leave in their buffers what the card gives, one after another. -/
theorem memories_of_feeds (card : Card) (plan : List Transfer) (issued : List Exchange)
    (calls : issued.map Exchange.call = plan.map .transfer)
    (reads : ∀ asked ∈ plan, ∃ data bytes, asked.data = some data
      ∧ data.buffer = .plain .fromCard bytes)
    (fed : card.feeds issued = true) {served : Bytes × Card}
    (replayed : card.replay (plan.map .transfer) = some served) :
    (issued.map Exchange.memory).flatten = served.1 := by
  -- Every command fills its whole buffer, and the rest is fed by the card as it is by then.
  induction plan generalizing card issued served with
  | nil =>
    rw [List.map_nil, List.map_eq_nil_iff] at calls
    cases Option.some.inj replayed
    rw [calls]
    rfl
  | cons asked plan ih =>
    obtain ⟨exchange, rest, rfl, call, others⟩ := List.map_eq_cons_iff.mp calls
    obtain ⟨_, reply⟩ := exchange
    cases call
    cases serves : card.serve asked with
    | none => simp [replay, serves] at replayed
    | some first =>
      rw [List.map_cons, card.replay_cons _ _ serves, Option.map_eq_some_iff] at replayed
      obtain ⟨second, later, rfl⟩ := replayed
      obtain ⟨data, bytes, some, plain⟩ := reads asked List.mem_cons_self
      -- What the host stored is what the card gave, which covers the whole stretch.
      obtain ⟨stored, fed⟩ := (card.feeds_cons some serves reply rest).mp fed
      have whole : reply.memory = first.1 := by
        rw [stored, plain]
        exact overwrite_all (Nat.le_of_eq (length_serve some plain serves).symm)
      -- The other reads are fed by the card that this one left behind.
      have behind := ih first.2 rest others
        (fun asked member => reads asked (List.mem_cons_of_mem _ member)) fed later
      simp only [List.map_cons, List.flatten_cons, Exchange.memory, whole, behind]

end Card

end CardLink
