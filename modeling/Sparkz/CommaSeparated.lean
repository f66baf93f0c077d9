import Mathlib.Data.List.Forall2
import Mathlib.Data.Option.Basic

/-!
# Comma-separated values

A reader for records that end with a carriage return and a line feed.  A field
stands as it is, or between quotation marks, which are doubled inside.  What
was written field by field is read back field by field.
-/

namespace CommaSeparated

/-- A character that may stand in a field as it is. -/
def isPlain (character : Char) : Bool :=
  character != '"' && character != ',' && character != '\r' &&
    character != '\n'

/-! ## Reading -/

/-- Where a reader is. -/
inductive Mode where
  | fieldStart
  | plain
  | quoted
  /-- After a quotation mark that ends the field or is doubled. -/
  | quoteSeen
  /-- After the carriage return of a record that is closed. -/
  | returnSeen
  deriving Repr, DecidableEq

/-- The field, the record and the records that were read so far. -/
structure Reading where
  mode : Mode
  field : List Char
  record : List (List Char)
  records : List (List (List Char))
  deriving DecidableEq

namespace Reading

/-- The reader at the start of a record. -/
def atRecord (records : List (List (List Char))) : Reading :=
  ⟨.fieldStart, [], [], records⟩

def closeField (reading : Reading) : Reading :=
  ⟨.fieldStart, [], reading.record ++ [reading.field], reading.records⟩

def closeRecord (reading : Reading) : Reading :=
  ⟨.returnSeen, [], [],
    reading.records ++ [reading.record ++ [reading.field]]⟩

/-- One more character of the field. -/
def push (reading : Reading) (mode : Mode) (character : Char) : Reading :=
  { reading with mode, field := reading.field ++ [character] }

/-- The end of a field or a record. -/
def separate (reading : Reading) (character : Char) : Option Reading :=
  if character = ',' then some reading.closeField
  else if character = '\r' then some reading.closeRecord
  else none

/-- One step of the reader. -/
def step (reading : Reading) (character : Char) : Option Reading :=
  match reading.mode with
  | .fieldStart =>
      if character = '"' then some { reading with mode := .quoted }
      else if isPlain character then some (reading.push .plain character)
      else reading.separate character
  | .plain =>
      if isPlain character then some (reading.push .plain character)
      else reading.separate character
  | .quoted =>
      if character = '"' then some { reading with mode := .quoteSeen }
      else some (reading.push .quoted character)
  | .quoteSeen =>
      if character = '"' then some (reading.push .quoted character)
      else reading.separate character
  | .returnSeen =>
      if character = '\n' then some { reading with mode := .fieldStart }
      else none

/-- The records at the end of the text; the last line may be left open. -/
def finish (reading : Reading) : Option (List (List (List Char))) :=
  match reading.mode with
  | .fieldStart =>
      if reading.record = [] then some reading.records
      else some (reading.closeRecord).records
  | .plain | .quoteSeen => some (reading.closeRecord).records
  | .quoted | .returnSeen => none

end Reading

/-- The records of a text. -/
def read (text : List Char) : Option (List (List (List Char))) :=
  (text.foldlM Reading.step (.atRecord [])).bind Reading.finish

/-! ## Writing -/

/-- A character between quotation marks. -/
def escape (character : Char) : List Char :=
  if character = '"' then ['"', '"'] else [character]

/-- The texts that may stand for a field. -/
inductive Encodes (field : List Char) : List Char → Prop
  | plain :
      (∀ character ∈ field, isPlain character = true) →
      Encodes field field
  | quoted :
      Encodes field ('"' :: (field.flatMap escape ++ ['"']))

/-- The texts that may stand for a record. -/
def EncodesRecord (record : List (List Char)) (line : List Char) : Prop :=
  ∃ texts,
    List.Forall₂ Encodes record texts ∧ line = [','].intercalate texts

/-- The end of a line. -/
def lineEnd : List Char :=
  ['\r', '\n']

/-! ## Reading what was written -/

section RoundTrip

variable
  {field text characters : List Char}
  {record : List (List Char)}
  {records : List (List (List Char))}
  {reading : Reading}

/-- The reader has read a field to its end. -/
structure Reading.Ended
    (reading : Reading)
    (field : List Char)
    (record : List (List Char))
    (records : List (List (List Char))) :
    Prop where
  mode :
    reading.mode = .fieldStart ∨ reading.mode = .plain ∨
      reading.mode = .quoteSeen
  field : reading.field = field
  record : reading.record = record
  records : reading.records = records

/-- A comma ends a field. -/
theorem Reading.Ended.step_comma
    (ended : reading.Ended field record records) :
    reading.step ',' =
      some ⟨.fieldStart, [], record ++ [field], records⟩ := by
  obtain ⟨mode, rfl, rfl, rfl⟩ := ended
  rcases mode with mode | mode | mode
  · simp [Reading.step, mode, isPlain, Reading.separate,
      Reading.closeField]
  · simp [Reading.step, mode, isPlain, Reading.separate,
      Reading.closeField]
  · simp [Reading.step, mode, Reading.separate, Reading.closeField]

/-- A line end ends a record. -/
theorem Reading.Ended.step_lineEnd
    (ended : reading.Ended field record records) :
    lineEnd.foldlM Reading.step reading =
      some (.atRecord (records ++ [record ++ [field]])) := by
  obtain ⟨mode, rfl, rfl, rfl⟩ := ended
  have isReturn :
      reading.step '\r' = some reading.closeRecord := by
    rcases mode with mode | mode | mode
    · simp [Reading.step, mode, isPlain, Reading.separate]
    · simp [Reading.step, mode, isPlain, Reading.separate]
    · simp [Reading.step, mode, Reading.separate]
  rw [lineEnd, List.foldlM_cons, isReturn]
  rfl

/-- Plain characters are kept. -/
theorem foldlM_plain
    (arePlain : ∀ character ∈ characters, isPlain character = true)
    (mode : reading.mode = .fieldStart ∨ reading.mode = .plain) :
    ∃ last,
      characters.foldlM Reading.step reading = some last ∧
        last.Ended (reading.field ++ characters) reading.record
          reading.records := by
  induction characters generalizing reading with
  | nil =>
      refine ⟨reading, rfl, ?_, by simp, rfl, rfl⟩
      rcases mode with mode | mode
      · exact .inl mode
      · exact .inr (.inl mode)
  | cons character characters inductionHypothesis =>
      obtain ⟨isPlainFirst, restPlain⟩ := List.forall_mem_cons.mp arePlain
      have notQuote : character ≠ '"' := by
        rintro rfl
        revert isPlainFirst
        decide
      have isStep :
          reading.step character =
            some (reading.push .plain character) := by
        rcases mode with mode | mode
        · simp [Reading.step, mode, notQuote, isPlainFirst]
        · simp [Reading.step, mode, isPlainFirst]
      obtain ⟨last, isLast, ended⟩ :=
        inductionHypothesis restPlain
          (.inr (rfl : (reading.push .plain character).mode = .plain))
      rw [List.foldlM_cons, isStep]
      refine ⟨last, isLast, ended.mode, ?_, ended.record, ended.records⟩
      rw [ended.field]
      simp [Reading.push]

/-- Escaped characters are kept between quotation marks. -/
theorem foldlM_escaped
    (mode : reading.mode = .quoted) :
    (characters.flatMap escape).foldlM Reading.step reading =
      some { reading with field := reading.field ++ characters } := by
  induction characters generalizing reading with
  | nil =>
      simp [pure]
  | cons character characters inductionHypothesis =>
      have isStep :
          (escape character).foldlM Reading.step reading =
            some (reading.push .quoted character) := by
        by_cases isQuote : character = '"'
        · simp [escape, isQuote, Reading.step, mode, Reading.push]
        · simp [escape, isQuote, Reading.step, mode]
      rw [List.flatMap_cons, List.foldlM_append, isStep]
      refine (inductionHypothesis rfl).trans ?_
      simp [Reading.push, mode]

/-- The text of a field is read as the field. -/
theorem foldlM_encodes
    (encodes : Encodes field text) :
    ∃ last,
      text.foldlM Reading.step ⟨.fieldStart, [], record, records⟩ =
          some last ∧
        last.Ended field record records := by
  cases encodes with
  | plain arePlain =>
      exact foldlM_plain arePlain (.inl rfl)
  | quoted =>
      refine
        ⟨⟨.quoteSeen, field, record, records⟩, ?_, .inr (.inr rfl), rfl,
          rfl, rfl⟩
      rw [List.foldlM_cons]
      simp only [Reading.step, if_true, Option.bind_eq_bind,
        Option.bind_some]
      rw [List.foldlM_append, foldlM_escaped rfl]
      rfl

/-- The text of a record is read as the record. -/
theorem foldlM_record
    {fields : List (List Char)}
    {texts : List (List Char)}
    (notEmpty : fields ≠ [])
    (encoded : List.Forall₂ Encodes fields texts) :
    ([','].intercalate texts ++ lineEnd).foldlM Reading.step
        ⟨.fieldStart, [], record, records⟩ =
      some (.atRecord (records ++ [record ++ fields])) := by
  induction encoded generalizing record with
  | nil =>
      exact absurd rfl notEmpty
  | @cons field text fields texts encodes restEncoded
      inductionHypothesis =>
      obtain ⟨last, isLast, ended⟩ :=
        @foldlM_encodes _ _ record records encodes
      rcases restEncoded with _ | ⟨nextEncodes, others⟩
      · rw [List.intercalate_singleton, List.foldlM_append, isLast]
        exact ended.step_lineEnd
      · rw [List.intercalate_cons_cons, List.append_assoc,
          List.append_assoc, List.foldlM_append, isLast]
        simp only [List.singleton_append, List.foldlM_cons,
          Option.bind_eq_bind, Option.bind_some, ended.step_comma]
        refine (inductionHypothesis (List.cons_ne_nil _ _)).trans ?_
        rw [List.append_assoc]
        rfl

/-- What was written record by record is read record by record. -/
theorem read_encoded
    {lines : List (List Char)}
    (notEmpty : ∀ record ∈ records, record ≠ [])
    (encoded : List.Forall₂ EncodesRecord records lines) :
    read (lines.flatMap fun line => line ++ lineEnd) = some records := by
  have isRead :
      ∀ before,
        (lines.flatMap fun line => line ++ lineEnd).foldlM Reading.step
            (.atRecord before) =
          some (.atRecord (before ++ records)) := by
    induction encoded with
    | nil =>
        intro before
        simp [pure]
    | cons isRecord _ inductionHypothesis =>
        intro before
        obtain ⟨texts, areTexts, rfl⟩ := isRecord
        obtain ⟨firstNotEmpty, restNotEmpty⟩ :=
          List.forall_mem_cons.mp notEmpty
        rw [List.flatMap_cons, List.foldlM_append, Reading.atRecord,
          foldlM_record firstNotEmpty areTexts]
        simp only [List.nil_append, Option.bind_eq_bind,
          Option.bind_some]
        refine (inductionHypothesis restNotEmpty _).trans ?_
        rw [List.append_assoc]
        rfl
  rw [read, isRead, List.nil_append]
  rfl

/-- Lines that are joined and closed are lines that are closed one by one. -/
theorem intercalate_append
    {separator : List Char}
    {lines : List (List Char)}
    (notEmpty : lines ≠ []) :
    separator.intercalate lines ++ separator =
      lines.flatMap fun line => line ++ separator := by
  induction lines with
  | nil =>
      exact absurd rfl notEmpty
  | cons line lines inductionHypothesis =>
      rcases lines with _ | ⟨next, lines⟩
      · simp
      · rw [List.intercalate_cons_cons, List.append_assoc,
          inductionHypothesis (List.cons_ne_nil _ _)]
        simp only [List.flatMap_cons, List.append_assoc]

end RoundTrip

end CommaSeparated
