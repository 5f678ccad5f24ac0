import CardLink.Log

/-! The text of a log line tells its number, its level and its message, whatever the message holds. -/

namespace CardLink

/-- The characters of a number in its column. -/
def columnDigits (width value : Nat) : List Char :=
  (Nat.toDigits 10 value).leftpad width ' '

/-- The digits of a column are those of its number. -/
theorem filter_columnDigits (width value : Nat) :
    (columnDigits width value).filter Char.isDigit = Nat.toDigits 10 value := by
  have blanks (count : Nat) : (List.replicate count ' ').filter Char.isDigit = [] := by
    rw [List.filter_eq_nil_iff]
    intro character member
    rw [List.eq_of_mem_replicate member]
    decide
  rw [columnDigits, List.leftpad, List.filter_append, blanks, List.nil_append, List.filter_eq_self]
  intro character member
  exact Nat.isDigit_of_mem_toDigits (by decide) (by decide) member

/-- A column tells its number, however many digits that has. -/
theorem columnDigits_injective {width first second : Nat}
    (same : columnDigits width first = columnDigits width second) : first = second := by
  have digits : Nat.toDigits 10 first = Nat.toDigits 10 second := by
    rw [← filter_columnDigits width first, same, filter_columnDigits]
  simpa using congrArg (fun digits => Nat.ofDigitChars 10 digits 0) digits

/-- No bracket stands in a column. -/
theorem bracket_notMem_columnDigits (width value : Nat) : ']' ∉ columnDigits width value := by
  intro member
  rcases List.mem_append.mp member with blank | digit
  · exact absurd (List.eq_of_mem_replicate blank) (by decide)
  · exact absurd (Nat.isDigit_of_mem_toDigits (by decide) (by decide) digit) (by decide)

/-- Texts up to the first mark and behind it are told by both together. -/
theorem eq_of_append_mark {first second : List Char} {mark : Char} {rest other : List Char}
    (free : mark ∉ first) (free' : mark ∉ second)
    (same : first ++ mark :: rest = second ++ mark :: other) : first = second ∧ rest = other := by
  have upTo {start : List Char} (free : mark ∉ start) (behind : List Char) :
      (start ++ mark :: behind).takeWhile (· ≠ mark) = start := by
    have passed : ∀ character ∈ start, decide (character ≠ mark) = true :=
      fun character member => decide_eq_true fun equal => free (equal ▸ member)
    rw [List.takeWhile_append_of_pos passed]
    simp
  have starts : first = second := by
    rw [← upTo free rest, same, upTo free']
  subst starts
  exact ⟨rfl, (List.cons.inj (List.append_cancel_left same)).2⟩

namespace LogLevel

/-- Every label is five characters wide. -/
theorem length_label (level : LogLevel) : level.label.toList.length = 5 := by
  cases level <;> rfl

/-- No two levels share a label. -/
theorem label_injective {first second : LogLevel} (same : first.label = second.label) :
    first = second := by
  cases first <;> cases second <;> simp_all [label]

end LogLevel

namespace LogLine

/-- The characters of a line, part by part. -/
theorem toList_text (line : LogLine) :
    line.text.toList = '[' :: (columnDigits 10 line.number ++ ']' :: ' ' :: '['
      :: (line.level.label.toList ++ (']' :: ' ' :: line.message.toList))) := by
  simp [text, decimalColumn, columnDigits, String.toList_append]

/-- Two lines of one text are one line. -/
theorem eq_of_text_eq {first second : LogLine} (same : first.text = second.text) :
    first = second := by
  have parts := congrArg String.toList same
  rw [toList_text, toList_text] at parts
  -- The first closing bracket ends the number.
  obtain ⟨columns, behind⟩ := eq_of_append_mark (bracket_notMem_columnDigits 10 _)
    (bracket_notMem_columnDigits 10 _) (List.cons.inj parts).2
  -- The level takes as many characters in both, and what follows it is the message.
  obtain ⟨labels, rest⟩ := List.append_inj (List.cons.inj (List.cons.inj behind).2).2
    (by rw [LogLevel.length_label, LogLevel.length_label])
  have number : first.number = second.number := columnDigits_injective columns
  have level : first.level = second.level :=
    LogLevel.label_injective (String.toList_injective labels)
  have message : first.message = second.message :=
    String.toList_injective (List.cons.inj (List.cons.inj rest).2).2
  exact (LogLine.mk.injEq ..).mpr ⟨number, level, message⟩

end LogLine

end CardLink
