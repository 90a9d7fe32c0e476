import Mathlib.Data.List.Basic

/-! Comma separated values: a reader of records, and writers that quote what the reader
would not read as text. Lines end at LF, CR or both; the last line may end or not. -/

namespace Csv

abbrev Record := List (List Char)

/-- Where a reader stands: before a field, in a bare or a quoted one, or behind the closing quote. -/
inductive Place where
  | front | bare | quoted | closed
deriving DecidableEq, Repr

/-- Puts a text in front of the first field. -/
def prepend (text : List Char) : List Record → List Record
  | (field :: fields) :: records => ((text ++ field) :: fields) :: records
  | records => records

/-- Puts an empty field in front of the first record. -/
def another : List Record → List Record
  | record :: records => ([] :: record) :: records
  | [] => []

/-- The records from a place on, of which the first begins in the middle of a field. -/
def read : Place → List Char → Option (List Record)
  | .quoted, [] => none
  | _, [] => some [[[]]]
  | .quoted, '"' :: rest => read .closed rest
  | .quoted, c :: rest => (read .quoted rest).map (prepend [c])
  | .closed, '"' :: rest => (read .quoted rest).map (prepend ['"'])
  | .front, '"' :: rest => read .quoted rest
  | .bare, '"' :: _ => none
  | _, ',' :: rest => (read .front rest).map another
  | _, '\r' :: '\n' :: rest => if rest = [] then some [[[]]] else (read .front rest).map ([[]] :: ·)
  | _, '\r' :: rest => if rest = [] then some [[[]]] else (read .front rest).map ([[]] :: ·)
  | _, '\n' :: rest => if rest = [] then some [[[]]] else (read .front rest).map ([[]] :: ·)
  | .closed, _ :: _ => none
  | _, c :: rest => (read .bare rest).map (prepend [c])

/-- The records of a document. -/
def parse (text : List Char) : Option (List Record) := read .front text

/-! ### Writing -/

/-- What a bare field cannot hold. -/
def isSpecial (c : Char) : Bool := c == '"' || c == ',' || c == '\n' || c == '\r'

def doubled (text : List Char) : List Char := text.flatMap fun c => if c = '"' then ['"', '"'] else [c]

def writeField (field : List Char) : List Char :=
  if field.any isSpecial = false then field else '"' :: (doubled field ++ ['"'])

def writeRecord (record : Record) : List Char := [','].intercalate (record.map writeField)

def write (records : List Record) : List Char := ['\n'].intercalate (records.map writeRecord)

/-! ### Reading what was written -/

/-- The end of a field. -/
def Ends (rest : List Char) : Prop := rest = [] ∨ (∃ more, rest = ',' :: more) ∨ ∃ more, rest = '\n' :: more

@[simp]
theorem prepend_nil (records : List Record) : prepend [] records = records := by
  rcases records with _ | ⟨_ | _, _⟩ <;> rfl

theorem prepend_prepend (first second : List Char) (records : List Record) :
    prepend first (prepend second records) = prepend (first ++ second) records := by
  rcases records with _ | ⟨_ | ⟨field, fields⟩, records⟩
  · rfl
  · rfl
  · simp [prepend]

theorem map_prepend_prepend (first second : List Char) (found : Option (List Record)) :
    (found.map (prepend second)).map (prepend first) = found.map (prepend (first ++ second)) := by
  rw [Option.map_map]
  exact congrArg (Option.map · found) (funext fun records => prepend_prepend first second records)

theorem map_prepend_nil (found : Option (List Record)) : found.map (prepend []) = found := by
  cases found with
  | none => rfl
  | some records => rw [Option.map_some, prepend_nil]

theorem read_quoted_cons {c : Char} (other : c ≠ '"') (rest : List Char) :
    read .quoted (c :: rest) = (read .quoted rest).map (prepend [c]) := by
  rw [read]
  exact other

/-- What stands between quotes is read back. -/
theorem read_doubled (text rest : List Char) :
    read .quoted (doubled text ++ '"' :: rest) = (read .closed rest).map (prepend text) := by
  induction text with
  | nil =>
    rw [map_prepend_nil]
    rfl
  | cons c text ih =>
    have shape : doubled (c :: text) = (if c = '"' then ['"', '"'] else [c]) ++ doubled text := List.flatMap_cons
    have step : read .quoted (doubled (c :: text) ++ '"' :: rest) =
        (read .quoted (doubled text ++ '"' :: rest)).map (prepend [c]) := by
      rw [shape]
      by_cases quote : c = '"'
      · rw [if_pos quote, quote]
        rfl
      · rw [if_neg quote, List.append_assoc, List.singleton_append, read_quoted_cons quote]
    rw [step, ih, map_prepend_prepend, List.singleton_append]

theorem plain_of_not_special {c : Char} (plain : isSpecial c = false) : c ≠ '"' ∧ c ≠ ',' ∧ c ≠ '\n' ∧ c ≠ '\r' := by
  simpa [isSpecial, and_assoc] using plain

theorem read_plain {place : Place} (outside : place = .front ∨ place = .bare) {c : Char} (plain : isSpecial c = false)
    (rest : List Char) : read place (c :: rest) = (read .bare rest).map (prepend [c]) := by
  obtain ⟨quote, comma, newline, carriage⟩ := plain_of_not_special plain
  obtain rfl | rfl := outside
  · rw [read] <;> simp [quote, comma, newline, carriage]
  · rw [read] <;> simp [quote, comma, newline, carriage]

/-- At the end of a field it does not matter how the field was written. -/
theorem read_ends {place : Place} (outside : place ≠ .quoted) {rest : List Char} (ends : Ends rest) :
    read place rest = read .closed rest := by
  obtain rfl | ⟨more, rfl⟩ | ⟨more, rfl⟩ := ends
  · cases place <;> first | rfl | exact absurd rfl outside
  · cases place <;> first | rfl | exact absurd rfl outside
  · cases place <;> first | rfl | exact absurd rfl outside

theorem read_bare {text rest : List Char} (plain : ∀ c ∈ text, isSpecial c = false) (ends : Ends rest) :
    read .bare (text ++ rest) = (read .closed rest).map (prepend text) := by
  induction text with
  | nil => rw [List.nil_append, read_ends (by decide) ends, map_prepend_nil]
  | cons c text ih =>
    obtain ⟨first, plain⟩ := List.forall_mem_cons.mp plain
    rw [List.cons_append, read_plain (.inr rfl) first, ih plain, map_prepend_prepend, List.singleton_append]

/-- A written field is read back in front of what follows it. -/
theorem read_field (field : List Char) {rest : List Char} (ends : Ends rest) :
    read .front (writeField field ++ rest) = (read .closed rest).map (prepend field) := by
  rw [writeField]
  split
  next plain =>
    have plain : ∀ c ∈ field, isSpecial c = false := by simpa using plain
    cases field with
    | nil => rw [List.nil_append, read_ends (by decide) ends, map_prepend_nil]
    | cons c text =>
      obtain ⟨first, plain⟩ := List.forall_mem_cons.mp plain
      rw [List.cons_append, read_plain (.inl rfl) first, read_bare plain ends, map_prepend_prepend, List.singleton_append]
  next =>
    rw [List.cons_append, List.append_assoc, List.singleton_append]
    exact read_doubled field rest

/-- Puts the fields of a record in front of the first field, which is empty. -/
def joined (record : Record) : List Record → List Record
  | (_ :: fields) :: records => (record ++ fields) :: records
  | records => records

/-- A written record is read back in front of its line break. -/
theorem read_record {record : Record} (nonempty : record ≠ []) {rest : List Char} (ends : rest = [] ∨ ∃ more, rest = '\n' :: more)
    {records : List Record} (behind : read .closed rest = some ([[]] :: records)) :
    read .front (writeRecord record ++ rest) = some (record :: records) := by
  induction record with
  | nil => exact absurd rfl nonempty
  | cons field fields ih =>
    have finish : Ends rest := ends.imp_right .inr
    cases fields with
    | nil =>
      have shape : writeRecord [field] = writeField field := by simp [writeRecord]
      rw [shape, read_field field finish, behind]
      simp [prepend]
    | cons next fields =>
      have shape : writeRecord (field :: next :: fields) ++ rest =
          writeField field ++ ',' :: (writeRecord (next :: fields) ++ rest) := by
        simp [writeRecord]
      have later := ih (List.cons_ne_nil next fields)
      have comma : read .closed (',' :: (writeRecord (next :: fields) ++ rest)) =
          (read .front (writeRecord (next :: fields) ++ rest)).map another := rfl
      rw [shape, read_field field (.inr (.inl ⟨_, rfl⟩)), comma, later]
      simp [prepend, another]

theorem writeField_nil_iff {field : List Char} : writeField field = [] ↔ field = [] := by
  rw [writeField]
  split
  · exact Iff.rfl
  next special =>
    constructor
    · intro impossible
      cases impossible
    · rintro rfl
      exact absurd rfl special

theorem writeRecord_nil_iff {record : Record} (nonempty : record ≠ []) : writeRecord record = [] ↔ record = [[]] := by
  obtain ⟨field, fields, rfl⟩ := List.exists_cons_of_ne_nil nonempty
  cases fields with
  | nil => simp [writeRecord, writeField_nil_iff]
  | cons next fields => simp [writeRecord]

/-- The line break behind the last but one record ends the document when the last one is a
single empty field. -/
theorem parse_write {records : List Record} (present : records ≠ []) (nonempty : ∀ record ∈ records, record ≠ []) :
    parse (write records) =
      some (if 2 ≤ records.length ∧ records.getLast? = some [[]] then records.dropLast else records) := by
  induction records with
  | nil => exact absurd rfl present
  | cons record records ih =>
    obtain ⟨first, nonempty⟩ := List.forall_mem_cons.mp nonempty
    cases records with
    | nil =>
      have whole := @read_record record first [] (.inl rfl) [] rfl
      simpa [parse, write] using whole
    | cons next records =>
      have shape : write (record :: next :: records) = writeRecord record ++ '\n' :: write (next :: records) := by
        simp [write]
      have later := ih (List.cons_ne_nil next records) nonempty
      by_cases last : write (next :: records) = []
      · have alone : records = [] ∧ next = [[]] := by
          cases records with
          | nil => exact ⟨rfl, (writeRecord_nil_iff (nonempty next List.mem_cons_self)).mp (by simpa [write] using last)⟩
          | cons other records => simp [write] at last
        obtain ⟨rfl, rfl⟩ := alone
        rw [parse, shape, last, @read_record record first ['\n'] (.inr ⟨[], rfl⟩) [] rfl]
        rfl
      · have behind : read .closed ('\n' :: write (next :: records)) = (parse (write (next :: records))).map ([[]] :: ·) :=
          if_neg last
        have lone : ¬(2 ≤ (next :: records).length ∧ (next :: records).getLast? = some [[]]) ↔
            ¬(2 ≤ (record :: next :: records).length ∧ (record :: next :: records).getLast? = some [[]]) := by
          cases records with
          | nil =>
            have solid : next ≠ [[]] := fun empty => last (by simp [write, empty, writeRecord, writeField])
            simp [solid]
          | cons other records => simp
        rw [later] at behind
        rw [parse, shape, read_record first (.inr ⟨_, rfl⟩) behind]
        by_cases trailing : 2 ≤ (next :: records).length ∧ (next :: records).getLast? = some [[]]
        · have trailing' := not_not.mp (mt lone.mpr (not_not.mpr trailing))
          rw [if_pos trailing, if_pos trailing', List.dropLast_cons_of_ne_nil (List.cons_ne_nil next records)]
        · rw [if_neg trailing, if_neg (lone.mp trailing)]

end Csv
