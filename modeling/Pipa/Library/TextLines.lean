import Mathlib.Data.List.Basic

/-! The lines of a text, which end at LF, CR or both, and the fields of a line between
separators. Lines that were joined by LF are found again as they are, or not in number. -/

namespace TextLines

def isBreak (c : Char) : Bool := c == '\n' || c == '\r'

/-- Puts a text in front of the first line. -/
def lead (text : List Char) (lines : List (List Char)) : List (List Char) := lines.modifyHead (text ++ ·)

/-- A text with some number of line breaks has one line more. -/
def lines : List Char → List (List Char)
  | [] => [[]]
  | '\r' :: '\n' :: rest => [] :: lines rest
  | '\n' :: rest => [] :: lines rest
  | '\r' :: rest => [] :: lines rest
  | c :: rest => lead [c] (lines rest)

example : lines ['a', '\r', '\n', 'b', '\r', 'c'] = [['a'], ['b'], ['c']] := by simp [lines, lead]

def Unbroken (text : List Char) : Prop := ∀ c ∈ text, isBreak c = false

/-- A text that stays one line in front of LF, or at the end of all lines: a CR may be
part of the line break. -/
def Whole (last : Bool) (text : List Char) : Prop :=
  Unbroken text ∨ last = false ∧ ∃ front, Unbroken front ∧ text = front ++ ['\r']

/-- The text without the CR of its line break. -/
def stripReturn (text : List Char) : List Char := if text.getLast? = some '\r' then text.dropLast else text

@[simp]
theorem length_lead (text : List Char) (lines : List (List Char)) : (lead text lines).length = lines.length :=
  List.length_modifyHead

theorem lines_pair (rest : List Char) : lines ('\r' :: '\n' :: rest) = [] :: lines rest := rfl

theorem lines_feed (rest : List Char) : lines ('\n' :: rest) = [] :: lines rest := rfl

theorem lines_return {rest : List Char} (lone : rest.head? ≠ some '\n') : lines ('\r' :: rest) = [] :: lines rest := by
  rw [lines]
  rintro behind rfl
  exact lone rfl

theorem lines_plain {c : Char} (plain : isBreak c = false) (rest : List Char) : lines (c :: rest) = lead [c] (lines rest) := by
  have other : c ≠ '\n' ∧ c ≠ '\r' := by simpa [isBreak] using plain
  rw [lines] <;> simp [other]

/-- A text starts with a line break of one of three kinds, or with a character of a line. -/
theorem lines_induction {motive : List Char → Prop} (empty : motive [])
    (pair : ∀ rest, motive rest → motive ('\r' :: '\n' :: rest)) (feed : ∀ rest, motive rest → motive ('\n' :: rest))
    (lone : ∀ rest : List Char, rest.head? ≠ some '\n' → motive rest → motive ('\r' :: rest))
    (plain : ∀ c rest, isBreak c = false → motive rest → motive (c :: rest)) (text : List Char) : motive text := by
  induction text using lines.induct with
  | case1 => exact empty
  | case2 rest ih => exact pair rest ih
  | case3 rest ih => exact feed rest ih
  | case4 rest single ih =>
    refine lone rest (fun first => ?_) ih
    obtain ⟨behind, same⟩ := List.head?_eq_some_iff.mp first
    exact single behind same
  | case5 c rest _ newline carriage ih =>
    refine plain c rest ?_ ih
    rw [isBreak, Bool.or_eq_false_iff, beq_eq_false_iff_ne, beq_eq_false_iff_ne]
    exact ⟨newline, carriage⟩

theorem lines_ne_nil (text : List Char) : lines text ≠ [] := by
  induction text using lines_induction with
  | empty => exact List.cons_ne_nil _ _
  | pair rest ih => exact List.cons_ne_nil _ _
  | feed rest ih => exact List.cons_ne_nil _ _
  | lone rest single ih =>
    rw [lines_return single]
    exact List.cons_ne_nil _ _
  | plain c rest plain ih =>
    rw [lines_plain plain]
    intro empty
    have none := congrArg List.length empty
    rw [length_lead] at none
    exact ih (List.length_eq_zero_iff.mp none)

theorem lead_lead (first second : List Char) (lines : List (List Char)) :
    lead first (lead second lines) = lead (first ++ second) lines := by
  cases lines <;> simp [lead]

theorem lead_nil (lines : List (List Char)) : lead [] lines = lines := by
  cases lines <;> rfl

theorem lines_append {text : List Char} (unbroken : Unbroken text) (rest : List Char) :
    lines (text ++ rest) = lead text (lines rest) := by
  induction text with
  | nil => rw [List.nil_append, lead_nil]
  | cons c text ih =>
    obtain ⟨plain, unbroken⟩ := List.forall_mem_cons.mp unbroken
    rw [List.cons_append, lines_plain plain, ih unbroken, lead_lead, List.singleton_append]

theorem lines_unbroken {text : List Char} (unbroken : Unbroken text) : lines text = [text] := by
  have alone := lines_append unbroken []
  rw [List.append_nil] at alone
  rw [alone]
  exact congrArg (fun line => [line]) (List.append_nil text)

theorem stripReturn_unbroken {text : List Char} (unbroken : Unbroken text) : stripReturn text = text := by
  refine if_neg fun last => ?_
  exact absurd (unbroken '\r' (List.mem_of_getLast? last)) (by decide)

theorem lines_newline {text : List Char} (whole : Whole false text) (rest : List Char) :
    lines (text ++ '\n' :: rest) = stripReturn text :: lines rest := by
  obtain unbroken | ⟨-, front, unbroken, rfl⟩ := whole
  · rw [lines_append unbroken, lines_feed, stripReturn_unbroken unbroken]
    simp [lead]
  · rw [List.append_assoc, List.singleton_append, lines_append unbroken, lines_pair]
    simp [lead, stripReturn]

/-- A text in front of a line break makes one line, or more than one. -/
theorem length_lines_newline (text rest : List Char) :
    (lines rest).length + 1 ≤ (lines (text ++ '\n' :: rest)).length ∧
      ((lines (text ++ '\n' :: rest)).length = (lines rest).length + 1 → Whole false text) := by
  induction text using lines_induction with
  | empty => exact ⟨Nat.le_refl _, fun _ => .inl (List.forall_mem_nil _)⟩
  | pair more ih =>
    rw [List.cons_append, List.cons_append, lines_pair, List.length_cons]
    exact ⟨by omega, fun same => by omega⟩
  | feed more ih =>
    rw [List.cons_append, lines_feed, List.length_cons]
    exact ⟨by omega, fun same => by omega⟩
  | lone more single ih =>
    cases more with
    | nil => exact ⟨Nat.le_refl _, fun _ => .inr ⟨rfl, [], List.forall_mem_nil _, rfl⟩⟩
    | cons c more =>
      have still : (c :: more ++ '\n' :: rest).head? ≠ some '\n' := single
      rw [List.cons_append, lines_return still, List.length_cons]
      exact ⟨by omega, fun same => by omega⟩
  | plain c more plain ih =>
    rw [List.cons_append, lines_plain plain, length_lead]
    refine ⟨ih.1, fun same => ?_⟩
    obtain unbroken | ⟨behind, front, unbroken, rfl⟩ := ih.2 same
    · exact .inl (List.forall_mem_cons.mpr ⟨plain, unbroken⟩)
    · exact .inr ⟨rfl, c :: front, List.forall_mem_cons.mpr ⟨plain, unbroken⟩, rfl⟩

/-- The last line stays one line if it holds no line break. -/
theorem length_lines_last (text : List Char) : 1 ≤ (lines text).length ∧ ((lines text).length = 1 → Unbroken text) := by
  refine ⟨List.length_pos_iff.mpr (lines_ne_nil text), ?_⟩
  intro single
  induction text using lines_induction with
  | empty => exact List.forall_mem_nil _
  | pair rest ih =>
    rw [lines_pair, List.length_cons] at single
    exact absurd (List.length_eq_zero_iff.mp (Nat.succ.inj single)) (lines_ne_nil rest)
  | feed rest ih =>
    rw [lines_feed, List.length_cons] at single
    exact absurd (List.length_eq_zero_iff.mp (Nat.succ.inj single)) (lines_ne_nil rest)
  | lone rest lone ih =>
    rw [lines_return lone, List.length_cons] at single
    exact absurd (List.length_eq_zero_iff.mp (Nat.succ.inj single)) (lines_ne_nil rest)
  | plain c rest plain ih =>
    rw [lines_plain plain, length_lead] at single
    exact List.forall_mem_cons.mpr ⟨plain, ih single⟩

/-! ### Lines joined by LF -/

/-- Everything is fine where it stands; the last item stands at the end. -/
def Placed {α : Type*} (fine : Bool → α → Prop) (items : List α) : Prop :=
  (∀ item ∈ items.dropLast, fine false item) ∧ ∀ item ∈ items.getLast?, fine true item

theorem placed_singleton {α : Type*} {fine : Bool → α → Prop} {item : α} : Placed fine [item] ↔ fine true item := by
  simp [Placed]

theorem placed_cons {α : Type*} {fine : Bool → α → Prop} {item next : α} {items : List α} :
    Placed fine (item :: next :: items) ↔ fine false item ∧ Placed fine (next :: items) := by
  simp [Placed, and_assoc]

theorem placed_front {α : Type*} {fine : Bool → α → Prop} {item : α} {items : List α} :
    Placed fine (item :: items) ↔ fine items.isEmpty item ∧ Placed fine items := by
  cases items with
  | nil => simp [Placed]
  | cons next items => exact placed_cons

theorem placed_of_forall {α : Type*} {fine : Bool → α → Prop} {items : List α} (all : ∀ last, ∀ item ∈ items, fine last item) :
    Placed fine items :=
  ⟨fun item member => all false item (List.dropLast_subset items member), fun item member => all true item (List.mem_of_getLast? member)⟩

theorem placed_constant {α : Type*} {fine : α → Prop} {items : List α} : Placed (fun _ => fine) items ↔ ∀ item ∈ items, fine item := by
  induction items with
  | nil => simp [Placed]
  | cons item items ih => rw [placed_front, ih, List.forall_mem_cons]

theorem placed_map {α β : Type*} {fine : Bool → β → Prop} {f : α → β} {items : List α} :
    Placed fine (items.map f) ↔ Placed (fun last item => fine last (f item)) items := by
  simp [Placed, ← List.map_dropLast]

theorem placed_congr {α : Type*} {fine fine' : Bool → α → Prop} {items : List α}
    (same : ∀ last, ∀ item ∈ items, fine last item ↔ fine' last item) : Placed fine items ↔ Placed fine' items := by
  have front (item : α) (member : item ∈ items.dropLast) : fine false item ↔ fine' false item :=
    same false item (List.dropLast_subset items member)
  have back (item : α) (member : item ∈ items.getLast?) : fine true item ↔ fine' true item :=
    same true item (List.mem_of_getLast? member)
  exact and_congr (forall₂_congr front) (forall₂_congr back)

def join (texts : List (List Char)) : List Char := ['\n'].intercalate texts

theorem join_cons (text next : List Char) (texts : List (List Char)) :
    join (text :: next :: texts) = text ++ '\n' :: join (next :: texts) := by
  simp [join]

theorem whole_true {text : List Char} : Whole true text ↔ Unbroken text := by
  simp [Whole]

/-- Joined texts are found again line by line. -/
theorem lines_join {texts : List (List Char)} (present : texts ≠ []) (placed : Placed Whole texts) :
    lines (join texts) = texts.map stripReturn := by
  induction texts with
  | nil => exact absurd rfl present
  | cons text texts ih =>
    cases texts with
    | nil =>
      have unbroken := whole_true.mp (placed_singleton.mp placed)
      have alone : join [text] = text := by simp [join]
      rw [alone, lines_unbroken unbroken, List.map_singleton, stripReturn_unbroken unbroken]
    | cons next texts =>
      obtain ⟨here, later⟩ := placed_cons.mp placed
      rw [join_cons, lines_newline here, ih (List.cons_ne_nil _ _) later]
      rfl

/-- There are as many lines as joined texts only if no text breaks. -/
theorem length_lines_join {texts : List (List Char)} (present : texts ≠ []) :
    texts.length ≤ (lines (join texts)).length ∧ ((lines (join texts)).length = texts.length → Placed Whole texts) := by
  induction texts with
  | nil => exact absurd rfl present
  | cons text texts ih =>
    cases texts with
    | nil =>
      have alone : join [text] = text := by simp [join]
      obtain ⟨least, single⟩ := length_lines_last text
      rw [alone]
      exact ⟨least, fun same => placed_singleton.mpr (whole_true.mpr (single same))⟩
    | cons next texts =>
      obtain ⟨least, single⟩ := length_lines_newline text (join (next :: texts))
      obtain ⟨more, placed⟩ := ih (List.cons_ne_nil _ _)
      rw [join_cons, List.length_cons]
      exact ⟨by omega, fun same => placed_cons.mpr ⟨single (by omega), placed (by omega)⟩⟩

/-- A text has this many lines, and each of them this many fields. -/
structure Tabular (fields : List Char → List (List Char)) (height width : Nat) (text : List Char) : Prop where
  height : (lines text).length = height
  width : ∀ line ∈ lines text, (fields line).length = width

theorem tabular_join {fields : List Char → List (List Char)} {texts : List (List Char)} (present : texts ≠ []) (width : Nat) :
    Tabular fields texts.length width (join texts) ↔
      Placed Whole texts ∧ ∀ text ∈ texts, (fields (stripReturn text)).length = width := by
  constructor
  · intro tabular
    have placed := (length_lines_join present).2 tabular.height
    have each := tabular.width
    rw [lines_join present placed] at each
    exact ⟨placed, fun text member => each _ (List.mem_map_of_mem member)⟩
  · intro ⟨placed, each⟩
    constructor
    · rw [lines_join present placed, List.length_map]
    · rw [lines_join present placed]
      intro line member
      obtain ⟨text, listed, rfl⟩ := List.mem_map.mp member
      exact each text listed

/-! ### Fields between separators -/

section Separated
variable {separator : Char}

theorem free_of_mem_splitOn {separator : Char} {text piece : List Char} (member : piece ∈ text.splitOn separator) :
    separator ∉ piece := by
  induction text generalizing piece with
  | nil =>
    obtain rfl := List.mem_singleton.mp member
    exact List.not_mem_nil
  | cons c text ih =>
    rw [List.splitOn_cons_eq_if_modifyHead] at member
    split at member
    next =>
      obtain rfl | later := List.mem_cons.mp member
      · exact List.not_mem_nil
      · exact ih later
    next other =>
      obtain ⟨first, more, pieces⟩ := List.exists_cons_of_ne_nil (List.splitOn_ne_nil separator text)
      rw [pieces] at member ih
      obtain rfl | later := List.mem_cons.mp member
      · have different : c ≠ separator := by simpa using other
        simp [different.symm, ih List.mem_cons_self]
      · exact ih (List.mem_cons_of_mem _ later)

/-- What is no separator stands in a piece. -/
theorem mem_splitOn (separator : Char) {text : List Char} {c : Char} (member : c ∈ text) :
    c = separator ∨ ∃ piece ∈ text.splitOn separator, c ∈ piece := by
  induction text with
  | nil => cases member
  | cons d text ih =>
    rw [List.splitOn_cons_eq_if_modifyHead]
    split
    next same =>
      rcases List.mem_cons.mp member with rfl | later
      · exact .inl (eq_of_beq same)
      · apply (ih later).imp_right
        rintro ⟨piece, listed, inside⟩
        exact ⟨piece, List.mem_cons_of_mem _ listed, inside⟩
    next =>
      obtain ⟨first, more, pieces⟩ := List.exists_cons_of_ne_nil (List.splitOn_ne_nil separator text)
      rw [pieces] at ih ⊢
      rcases List.mem_cons.mp member with rfl | later
      · exact .inr ⟨c :: first, List.mem_cons_self, List.mem_cons_self⟩
      · apply (ih later).imp_right
        rintro ⟨piece, listed, inside⟩
        rcases List.mem_cons.mp listed with rfl | listed
        · exact ⟨d :: piece, List.mem_cons_self, List.mem_cons_of_mem d inside⟩
        · exact ⟨piece, List.mem_cons_of_mem _ listed, inside⟩

theorem length_splitOn (separator : Char) (text : List Char) :
    (text.splitOn separator).length = text.count separator + 1 := by
  induction text with
  | nil => simp
  | cons c text ih =>
    rw [List.splitOn_cons_eq_if_modifyHead, List.count_cons]
    split <;> simp [ih]

def row (separator : Char) (fields : List (List Char)) : List Char := [separator].intercalate fields

theorem row_singleton (field : List Char) : row separator [field] = field := by
  simp [row]

theorem row_cons (field next : List Char) (fields : List (List Char)) :
    row separator (field :: next :: fields) = field ++ separator :: row separator (next :: fields) := by
  simp [row]

theorem count_stripReturn (solid : separator ≠ '\r') (text : List Char) :
    (stripReturn text).count separator = text.count separator := by
  rw [stripReturn]
  split
  next ends =>
    obtain ⟨front, rfl⟩ := List.getLast?_eq_some_iff.mp ends
    simp [solid.symm]
  next => rfl

/-- A row has a field too many for each separator inside of a field. -/
theorem length_fields {fields : List (List Char)} (present : fields ≠ []) (solid : separator ≠ '\r') :
    ((stripReturn (row separator fields)).splitOn separator).length = fields.length ↔ ∀ field ∈ fields, separator ∉ field := by
  have counted : fields.length ≤ (row separator fields).count separator + 1 ∧
      ((row separator fields).count separator + 1 = fields.length ↔ ∀ field ∈ fields, separator ∉ field) := by
    induction fields with
    | nil => exact absurd rfl present
    | cons field fields ih =>
      have none : field.count separator = 0 ↔ separator ∉ field := List.count_eq_zero
      cases fields with
      | nil =>
        rw [row_singleton, List.length_singleton, List.forall_mem_singleton, ← none]
        omega
      | cons next fields =>
        obtain ⟨least, equal⟩ := ih (List.cons_ne_nil _ _)
        rw [row_cons, List.count_append, List.count_cons_self, List.length_cons, List.forall_mem_cons, ← none, ← equal]
        omega
  rw [length_splitOn, count_stripReturn solid]
  exact counted.2

theorem unbroken_append {first second : List Char} : Unbroken (first ++ second) ↔ Unbroken first ∧ Unbroken second :=
  List.forall_mem_append

theorem unbroken_cons {c : Char} {text : List Char} : Unbroken (c :: text) ↔ isBreak c = false ∧ Unbroken text :=
  List.forall_mem_cons

/-- Behind a character that is no line break, a text breaks at its own places only. -/
theorem whole_behind {last : Bool} {front text : List Char} (plain : isBreak separator = false) :
    Whole last (front ++ separator :: text) ↔ Unbroken front ∧ Whole last text := by
  constructor
  · intro whole
    obtain unbroken | ⟨notLast, before, unbroken, same⟩ := whole
    · obtain ⟨first, behind⟩ := unbroken_append.mp unbroken
      exact ⟨first, .inl (unbroken_cons.mp behind).2⟩
    · rcases List.eq_nil_or_concat text with rfl | ⟨middle, c, rfl⟩
      · obtain rfl := List.singleton_inj.mp (List.append_inj_right' same rfl)
        cases plain
      · rw [List.concat_eq_append, ← List.cons_append, ← List.append_assoc] at same
        obtain ⟨same, final⟩ := List.append_inj' same rfl
        obtain ⟨first, behind⟩ := unbroken_append.mp (same ▸ unbroken)
        refine ⟨first, .inr ⟨notLast, middle, (unbroken_cons.mp behind).2, ?_⟩⟩
        rw [List.concat_eq_append, final]
  · intro ⟨first, whole⟩
    obtain unbroken | ⟨notLast, before, unbroken, rfl⟩ := whole
    · exact .inl (unbroken_append.mpr ⟨first, unbroken_cons.mpr ⟨plain, unbroken⟩⟩)
    · refine .inr ⟨notLast, front ++ separator :: before, unbroken_append.mpr ⟨first, unbroken_cons.mpr ⟨plain, unbroken⟩⟩, ?_⟩
      simp

/-- Of the fields of a row, only the last may end with the CR of the line break. -/
theorem whole_row {last : Bool} {fields : List (List Char)} (plain : isBreak separator = false) (present : fields ≠ []) :
    Whole last (row separator fields) ↔ Placed (fun final field => Whole (last || !final) field) fields := by
  induction fields with
  | nil => exact absurd rfl present
  | cons field fields ih =>
    cases fields with
    | nil => rw [row_singleton, placed_singleton, Bool.not_true, Bool.or_false]
    | cons next fields =>
      rw [row_cons, whole_behind plain, ih (List.cons_ne_nil _ _), placed_cons, Bool.not_false, Bool.or_true, whole_true]

end Separated

/-! ### Cells between bars -/

/-- The pieces of a line between bars that no backslash escapes. Readers differ: a backslash
may escape any character, another backslash too, or only a bar directly behind it. -/
def barPieces (pairs : Bool) : List Char → List (List Char)
  | [] => [[]]
  | '\\' :: c :: rest => if pairs || c == '|' then lead ['\\', c] (barPieces pairs rest) else lead ['\\'] (barPieces pairs (c :: rest))
  | '|' :: rest => [] :: barPieces pairs rest
  | c :: rest => lead [c] (barPieces pairs rest)

example : barPieces true ['a', '\\', '|', '|', 'b'] = [['a', '\\', '|'], ['b']] := by simp [barPieces, lead]

def withoutBlank (pieces : List (List Char)) : List (List Char) := if pieces.head? = some [] then pieces.tail else pieces

/-- The cells of a line; nothing stands outside of the first and the last bar. -/
def barCells (pairs : Bool) (line : List Char) : List (List Char) :=
  (withoutBlank (withoutBlank (barPieces pairs line)).reverse).reverse

def barRow (cells : List (List Char)) : List Char := '|' :: ' ' :: ([' ', '|', ' '].intercalate cells ++ [' ', '|'])

section Bars
variable {pairs : Bool}

theorem barPieces_plain {c : Char} (bar : c ≠ '|') (backslash : c ≠ '\\') (rest : List Char) :
    barPieces pairs (c :: rest) = lead [c] (barPieces pairs rest) := by
  rw [barPieces] <;> simp [bar, backslash]

theorem length_barPieces_blank (rest : List Char) : (barPieces pairs (' ' :: rest)).length = (barPieces pairs rest).length := by
  rw [barPieces_plain (by decide) (by decide), length_lead]

theorem length_barPieces_bar (rest : List Char) : (barPieces pairs ('|' :: rest)).length = (barPieces pairs rest).length + 1 := by
  rw [barPieces, List.length_cons]

/-- Nothing stands behind a bar at the end. -/
theorem barPieces_closed (text : List Char) :
    ∃ first more, barPieces pairs (text ++ [' ', '|']) = first :: (more ++ [[]]) := by
  induction text using (barPieces.induct pairs) with
  | case1 => exact ⟨[' '], [], by rfl⟩
  | case2 c rest taken ih =>
    obtain ⟨first, more, same⟩ := ih
    rw [List.cons_append, List.cons_append, barPieces, if_pos taken, same]
    exact ⟨_, more, rfl⟩
  | case3 c rest kept ih =>
    obtain ⟨first, more, same⟩ := ih
    rw [List.cons_append, List.cons_append, barPieces, if_neg kept, ← List.cons_append, same]
    exact ⟨_, more, rfl⟩
  | case4 rest ih =>
    obtain ⟨first, more, same⟩ := ih
    rw [List.cons_append, barPieces, same]
    exact ⟨[], first :: more, rfl⟩
  | case5 c rest single bar ih =>
    by_cases backslash : c = '\\'
    · subst backslash
      cases rest with
      | nil => cases pairs <;> exact ⟨_, [], rfl⟩
      | cons next rest => exact absurd rfl (single next rest rfl)
    · obtain ⟨first, more, same⟩ := ih
      rw [List.cons_append, barPieces_plain bar backslash, same]
      exact ⟨_, more, rfl⟩

theorem length_barCells_closed (text : List Char) :
    (barCells pairs ('|' :: (text ++ [' ', '|']))).length + 1 = (barPieces pairs (text ++ [' ', '|'])).length := by
  obtain ⟨first, more, same⟩ := @barPieces_closed pairs text
  have pieces : barPieces pairs ('|' :: (text ++ [' ', '|'])) = [] :: first :: (more ++ [[]]) := by
    rw [barPieces, same]
  rw [barCells, pieces, same]
  simp [withoutBlank]

variable {α : Type*} {cell : α → List Char} {spare : α → Nat}

/-- A row has a cell too many for each bar that its cells leave open. -/
theorem length_barCells {items : List α} (present : items ≠ [])
    (adds : ∀ item ∈ items, ∀ rest, (barPieces pairs (cell item ++ ' ' :: rest)).length = spare item + (barPieces pairs rest).length) :
    (barCells pairs (barRow (items.map cell))).length = items.length ↔ ∀ item ∈ items, spare item = 0 := by
  have counted : items.length + 1 ≤ (barPieces pairs ([' ', '|', ' '].intercalate (items.map cell) ++ [' ', '|'])).length ∧
      ((barPieces pairs ([' ', '|', ' '].intercalate (items.map cell) ++ [' ', '|'])).length = items.length + 1 ↔
        ∀ item ∈ items, spare item = 0) := by
    induction items with
    | nil => exact absurd rfl present
    | cons item items ih =>
      obtain ⟨here, adds⟩ := List.forall_mem_cons.mp adds
      cases items with
      | nil =>
        have size := here ['|']
        rw [length_barPieces_bar] at size
        have last : (barPieces pairs []).length = 1 := rfl
        rw [List.map_singleton, List.intercalate_singleton, size, last, List.forall_mem_singleton, List.length_singleton]
        omega
      | cons next items =>
        obtain ⟨least, equal⟩ := ih (List.cons_ne_nil _ _) adds
        have shape : [' ', '|', ' '].intercalate ((item :: next :: items).map cell) ++ [' ', '|'] =
            cell item ++ ' ' :: '|' :: ' ' :: ([' ', '|', ' '].intercalate ((next :: items).map cell) ++ [' ', '|']) := by
          simp
        rw [shape, here, length_barPieces_bar, length_barPieces_blank, List.forall_mem_cons, ← equal, List.length_cons]
        omega
  have closed := @length_barCells_closed pairs (' ' :: [' ', '|', ' '].intercalate (items.map cell))
  rw [List.cons_append, length_barPieces_blank] at closed
  rw [← counted.2, barRow, ← closed]
  omega

end Bars

end TextLines
