import CardLink.Log
import Mathlib.Algebra.Ring.Nat

/-!
What a logger makes of a list of records: those that its filter admits, numbered in order by a counter
that starts over behind its greatest value.
-/

namespace CardLink

/-- The record that a line was made of. -/
def LogLine.record (line : LogLine) : LogRecord := ⟨line.level, line.message⟩

/-- The severity of a level as a number, the smaller the more severe. -/
def LogLevel.severity : LogLevel → Nat
  | .error => 1
  | .warn => 2
  | .info => 3
  | .debug => 4
  | .trace => 5

namespace LogFilter

/-- The number of levels that a filter admits, counted from the most severe one. -/
def depth : LogFilter → Nat
  | .off => 0
  | .upTo .error => 1
  | .upTo .warn => 2
  | .upTo .info => 3
  | .upTo .debug => 4
  | .upTo .trace => 5

/-- A filter admits a level that is at least as severe as it asks for. -/
def Admits (filter : LogFilter) (level : LogLevel) : Prop := level.severity ≤ filter.depth

instance (filter : LogFilter) (level : LogLevel) : Decidable (filter.Admits level) :=
  inferInstanceAs (Decidable (level.severity ≤ filter.depth))

/-- The test that runs lets through what the filter admits. -/
theorem permits_eq (filter : LogFilter) (level : LogLevel) :
    filter.permits level = decide (filter.Admits level) := by
  cases filter with
  | off => cases level <;> rfl
  | upTo limit => cases limit <;> cases level <;> rfl

/-- The records that a filter admits, in order. -/
def select (filter : LogFilter) (records : List LogRecord) : List LogRecord :=
  records.filter fun record => filter.Admits record.level

/-- The most open filter admits everything. -/
theorem select_trace (records : List LogRecord) : (LogFilter.upTo .trace).select records = records := by
  apply List.filter_eq_self.mpr
  -- No level is less severe than the one that is asked for.
  intro record _
  cases level : record.level <;> rfl

end LogFilter

namespace Logger

/-- Offers records in order: the lines that they become, and the logger after them. -/
def offerAll (logger : Logger) : List LogRecord → List LogLine × Logger
  | [] => ([], logger)
  | record :: rest =>
    let first := logger.offer record
    let others := first.2.offerAll rest
    (first.1.toList ++ others.1, others.2)

/-- Offers the records of several parts in order: the lines of each part. -/
def offerParts (logger : Logger) : List (List LogRecord) → List (List LogLine)
  | [] => []
  | part :: rest => (logger.offerAll part).1 :: (logger.offerAll part).2.offerParts rest

variable (logger : Logger)

/-- No record changes the filter. -/
@[simp] theorem filter_offer (record : LogRecord) : (logger.offer record).2.filter = logger.filter := by
  unfold offer
  split <;> rfl

/-- Records in two lists are offered one list after the other. -/
theorem offerAll_append (first second : List LogRecord) :
    logger.offerAll (first ++ second) =
      ((logger.offerAll first).1 ++ ((logger.offerAll first).2.offerAll second).1,
        ((logger.offerAll first).2.offerAll second).2) := by
  induction first generalizing logger with
  | nil => rfl
  | cons record rest ih => simp only [List.cons_append, offerAll, ih, List.append_assoc]

@[simp] theorem filter_offerAll (records : List LogRecord) :
    (logger.offerAll records).2.filter = logger.filter := by
  induction records generalizing logger with
  | nil => rfl
  | cons record rest ih => rw [offerAll, ih, filter_offer]

@[simp] theorem width_offer (record : LogRecord) : (logger.offer record).2.width = logger.width := by
  unfold offer
  split <;> rfl

/-- The lines are made of the records that the filter admits. -/
theorem record_offerAll (records : List LogRecord) :
    (logger.offerAll records).1.map LogLine.record = logger.filter.select records := by
  induction records generalizing logger with
  | nil => rfl
  | cons record rest ih =>
    -- A record that is not admitted leaves no line, and the others do not notice it.
    rw [offerAll, List.map_append, ih, filter_offer, LogFilter.select, LogFilter.select, offer,
      LogFilter.permits_eq]
    by_cases admitted : logger.filter.Admits record.level
    · simp [admitted, LogLine.record]
    · simp [admitted]

/-- The numbers of so many lines from the next one on. -/
def numbers (count : Nat) : List Nat :=
  (List.range count).map fun place => (logger.next.toNat + place) % 2 ^ logger.width.bits

/-- Behind some lines, a logger numbers on from its next number. -/
theorem numbers_add {after : Logger} {count : Nat} (width : after.width = logger.width)
    (next : after.next.toNat = (logger.next.toNat + count) % 2 ^ logger.width.bits) (more : Nat) :
    logger.numbers (count + more) = logger.numbers count ++ after.numbers more := by
  rw [numbers, List.range_add, List.map_append, List.map_map]
  congr 1
  apply List.map_congr_left
  intro place _
  rw [next, width, Nat.mod_add_mod, Nat.add_assoc]
  rfl

/-- An offer numbers its line, if there is one, with the next number. -/
theorem number_offer (record : LogRecord) :
    let offered := logger.offer record
    let line := offered.1.toList
    line.map LogLine.number = logger.numbers line.length
      ∧ offered.2.next.toNat = (logger.next.toNat + line.length) % 2 ^ logger.width.bits := by
  -- The next number is below the modulus of the counter.
  have next_lt : logger.next.toNat < 2 ^ logger.width.bits := logger.next.isLt
  unfold offer
  cases logger.filter.permits record.level with
  | true =>
    refine ⟨?_, by simp⟩
    simp [numbers, List.range_one, Nat.mod_eq_of_lt next_lt]
  | false => exact ⟨rfl, (Nat.mod_eq_of_lt next_lt).symm⟩

/-- The lines are numbered from the next number of the logger on. -/
theorem number_offerAll (records : List LogRecord) :
    let offered := logger.offerAll records
    offered.1.map LogLine.number = logger.numbers offered.1.length
      ∧ offered.2.next.toNat = (logger.next.toNat + offered.1.length) % 2 ^ logger.width.bits := by
  induction records generalizing logger with
  | nil => exact ⟨rfl, (Nat.mod_eq_of_lt logger.next.isLt).symm⟩
  | cons record rest ih =>
    -- The other lines are numbered from where the first record left the counter.
    obtain ⟨first, between⟩ := logger.number_offer record
    obtain ⟨others, next⟩ := ih (logger.offer record).2
    rw [between, width_offer, Nat.mod_add_mod, Nat.add_assoc] at next
    simp only [offerAll, List.map_append, List.length_append]
    exact ⟨by rw [first, others, logger.numbers_add (logger.width_offer record) between], next⟩

/-- Lines that are told apart by parts are the lines of all records. -/
theorem flatten_offerParts (parts : List (List LogRecord)) :
    (logger.offerParts parts).flatten = (logger.offerAll parts.flatten).1 := by
  induction parts generalizing logger with
  | nil => rfl
  | cons part rest ih => rw [offerParts, List.flatten_cons, ih, List.flatten_cons, offerAll_append]

/-- The lines of each part are made of the records that the filter admits there. -/
theorem record_offerParts (parts : List (List LogRecord)) :
    (logger.offerParts parts).map (·.map LogLine.record) = parts.map logger.filter.select := by
  induction parts generalizing logger with
  | nil => rfl
  | cons part rest ih =>
    rw [offerParts, List.map_cons, ih, filter_offerAll, record_offerAll, List.map_cons]

end Logger

/-- Lines are numbered in order from zero on, by a counter of this width. -/
structure NumberedFromZero (width : LengthWidth) (lines : List LogLine) : Prop where
  /-- Each number is the place of the line, as far as the counter goes before it starts over. -/
  counted : lines.map LogLine.number = (List.range lines.length).map (· % 2 ^ width.bits)
  /-- As long as the counter does not start over, the numbers leave no gap and none comes twice. -/
  consecutive : lines.length ≤ 2 ^ width.bits → lines.map LogLine.number = List.range lines.length

/-- A logger that has numbered nothing yet numbers from zero on. -/
theorem NumberedFromZero.of_numbers {logger : Logger} (fresh : logger.next = 0) {lines : List LogLine}
    (numbers : lines.map LogLine.number = logger.numbers lines.length) :
    NumberedFromZero logger.width lines := by
  have counted : lines.map LogLine.number =
      (List.range lines.length).map (· % 2 ^ logger.width.bits) := by
    rw [numbers, Logger.numbers, fresh]
    simp
  refine ⟨counted, fun few => counted.trans ?_⟩
  -- Every place is below the modulus of the counter.
  refine (List.map_congr_left fun place member => ?_).trans (List.map_id _)
  exact Nat.mod_eq_of_lt (Nat.lt_of_lt_of_le (List.mem_range.mp member) few)

/-- Lines in parts are those of a full log that a filter admits, in place and order, numbered anew. -/
structure FilteredFrom (filter : LogFilter) (width : LengthWidth) (full lines : List (List LogLine)) :
    Prop where
  /-- Each part has the records that the filter admits of those in the full log. -/
  records : lines.map (·.map LogLine.record) =
    full.map fun part => filter.select (part.map LogLine.record)
  /-- The lines of all parts are numbered from zero on. -/
  numbered : NumberedFromZero width lines.flatten

/-- Whoever offers the same records to every logger gets filtered lines of the full log. -/
theorem filteredFrom_offerParts (filter : LogFilter) (width : LengthWidth)
    (parts : List (List LogRecord)) :
    FilteredFrom filter width (Logger.offerParts { filter := .upTo .trace, width } parts)
      (Logger.offerParts { filter, width } parts) := by
  constructor
  · have full : ∀ lines : List (List LogLine),
        (lines.map fun part => filter.select (part.map LogLine.record)) =
          (lines.map (·.map LogLine.record)).map filter.select := by simp
    rw [full, Logger.record_offerParts, Logger.record_offerParts, List.map_map]
    -- The full log has every record of every part.
    apply List.map_congr_left
    intro part _
    exact congrArg filter.select (LogFilter.select_trace part).symm
  · rw [Logger.flatten_offerParts]
    exact .of_numbers rfl (Logger.number_offerAll { filter, width } parts.flatten).1

end CardLink
