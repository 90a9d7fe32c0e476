import Pipa.Library.Base64
import Pipa.Library.SqlPhrases
import Pipa.Library.SqlWriting

/-! INSERT statements of one or more tuples: a reader of their tokens, and texts that are
read back item by item. -/

namespace SqlInserts
open SqlLexer SqlBoolean SqlWriting

inductive Operand where
  | null
  | literal (literal : Literal)
  | bytes (content : List UInt8)
deriving DecidableEq, Repr

structure Statement where
  target : List (List Nat)
  columns : List (List Nat)
  tuples : List (List Operand)
deriving DecidableEq, Repr

/-! ### Reading -/

abbrev Item (α : Type) := List Token → Option (α × List Token)

def name : Item (List Nat)
  | .quoted text :: rest => some (quotedName text, rest)
  | _ => none

/-- A literal, NULL, or the bytes of a Base64 text. -/
def operand : Item Operand
  | .word text :: rest =>
    if isKeyword "NULL" (.word text) then some (.null, rest)
    else if isKeyword "FROM_BASE64" (.word text) then
      match rest with
      | .symbol 40 :: rest =>
        match literal rest with
        | some (.string content, .symbol 41 :: rest) => (Base64.atob (content.map Char.ofNat)).map fun bytes => (.bytes bytes, rest)
        | _ => none
      | _ => none
    else none
  | read => (literal read).map fun found => (.literal found.1, found.2)

/-- One or more items with a separator between them. -/
def items {α : Type} (separator : Nat) (item : Item α) : Nat → Item (List α)
  | 0, _ => none
  | fuel + 1, read => do
    let (first, rest) ← item read
    if rest.head? = some (.symbol separator) then
      let (others, rest) ← items separator item fuel rest.tail
      return (first :: others, rest)
    else return ([first], rest)

/-- Items between parentheses. -/
def enclosed {α : Type} (item : Item α) (fuel : Nat) : Item (List α)
  | .symbol 40 :: read => do
    let (list, rest) ← items 44 item fuel read
    if rest.head? = some (.symbol 41) then return (list, rest.tail) else none
  | _ => none

/-- A single INSERT statement and nothing else. -/
def statement (read : List Token) : Option Statement :=
  match read with
  | insert :: into :: rest =>
    if isKeyword "INSERT" insert && isKeyword "INTO" into then do
      let (target, rest) ← items 46 name read.length rest
      let (columns, rest) ← enclosed name read.length rest
      if rest.head?.any (isKeyword "VALUES") then
        let (tuples, rest) ← items 44 (enclosed operand read.length) read.length rest.tail
        if rest = [.symbol 59] then return ⟨target, columns, tuples⟩ else none
      else none
    else none
  | _ => none

/-! ### Reading what was written -/

/-- These tokens are one item, whatever comes behind. -/
def Gives {α : Type} (item : Item α) (read : List Token) (value : α) : Prop := ∀ rest, item (read ++ rest) = some (value, rest)

section Gives
variable {α : Type} {item : Item α}

theorem gives_name (text : List Nat) : Gives name [.quoted (columnText text)] text := by
  intro rest
  rw [List.singleton_append, name, quotedName_text]

theorem gives_null : Gives operand [keyword "NULL"] .null := fun _ => rfl

theorem gives_literal {value : Literal} (proper : ProperLiteral value) :
    Gives operand (literalTokens value) (.literal value) := by
  intro rest
  have step : operand (literalTokens value ++ rest) =
      (literal (literalTokens value ++ rest)).map fun found => (.literal found.1, found.2) := by
    cases proper with
    | string content => rfl
    | @number sign text signed isNumeral => cases sign <;> rfl
  rw [step, literal_tokens proper]
  rfl

theorem gives_bytes (content : List UInt8) :
    Gives operand [keyword "FROM_BASE64", .symbol 40, .string (stringText ((Base64.encode content).map Char.toNat)), .symbol 41]
      (.bytes content) := by
  intro rest
  have read := literal_tokens (.string ((Base64.encode content).map Char.toNat)) (.symbol 41 :: rest)
  have characters : ((Base64.encode content).map Char.toNat).map Char.ofNat = Base64.encode content := by
    rw [List.map_map]
    exact (List.map_congr_left fun c _ => Char.ofNat_toNat c).trans (List.map_id _)
  rw [literalTokens, List.singleton_append] at read
  have first : isKeyword "NULL" (keyword "FROM_BASE64") = false := by decide
  have second : isKeyword "FROM_BASE64" (keyword "FROM_BASE64") = true := by decide
  rw [keyword] at first second
  simp only [List.cons_append, List.nil_append, keyword, operand, first, second, Bool.false_eq_true, if_false, if_true, read,
    characters, Base64.atob_encode, Option.map_some]

/-- Items that were written with separators between them are read one after another. -/
theorem gives_items {separator fuel : Nat} {reads : List (List Token)} {values : List α}
    (each : List.Forall₂ (Gives item) reads values) (nonempty : reads ≠ []) (enough : reads.length ≤ fuel) {rest : List Token}
    (apart : rest.head? ≠ some (.symbol separator)) :
    items separator item fuel ([.symbol separator].intercalate reads ++ rest) = some (values, rest) := by
  induction each generalizing fuel with
  | nil => exact absurd rfl nonempty
  | @cons read value reads values first others ih =>
    obtain ⟨fuel, rfl⟩ : ∃ less, fuel = less + 1 := ⟨fuel - 1, by simp at enough; omega⟩
    cases others with
    | nil =>
      rw [List.intercalate_singleton, items, first rest]
      simp [apart]
    | @cons next value' reads values second others =>
      have shape : [Token.symbol separator].intercalate (read :: next :: reads) ++ rest =
          read ++ .symbol separator :: ([Token.symbol separator].intercalate (next :: reads) ++ rest) := by
        simp
      have later := ih (List.cons_ne_nil _ _) (by simpa using enough)
      rw [shape, items, first]
      simp only [Option.bind_eq_bind, Option.bind_some, List.head?_cons, if_true, List.tail_cons, later]
      rfl

theorem gives_enclosed {fuel : Nat} {reads : List (List Token)} {values : List α} (each : List.Forall₂ (Gives item) reads values)
    (nonempty : reads ≠ []) (enough : reads.length ≤ fuel) :
    Gives (enclosed item fuel) (.symbol 40 :: ([.symbol 44].intercalate reads ++ [.symbol 41])) values := by
  intro rest
  have inside := @gives_items _ _ 44 fuel reads values each nonempty enough (.symbol 41 :: rest) (by simp)
  rw [List.cons_append, List.append_assoc, List.singleton_append, enclosed, inside]
  rfl

end Gives

theorem length_joined (separator : Token) (reads : List (List Token)) :
    reads.length ≤ ([separator].intercalate reads).length + 1 := by
  induction reads with
  | nil => exact Nat.zero_le _
  | cons read reads ih =>
    cases reads with
    | nil => simp
    | cons next reads =>
      rw [List.intercalate_cons_cons, List.length_append, List.length_append, List.length_singleton, List.length_cons]
      omega

theorem length_of_mem (separator : Token) {reads : List (List Token)} {read : List Token} (member : read ∈ reads) :
    read.length ≤ ([separator].intercalate reads).length := by
  induction reads with
  | nil => cases member
  | cons first reads ih =>
    cases reads with
    | nil =>
      obtain rfl := List.mem_singleton.mp member
      simp
    | cons next reads =>
      rw [List.intercalate_cons_cons, List.length_append, List.length_append]
      obtain rfl | later := List.mem_cons.mp member
      · omega
      · have inside := ih later
        omega

/-- The tokens of a tuple. -/
def tupleTokens (reads : List (List Token)) : List Token := .symbol 40 :: ([.symbol 44].intercalate reads ++ [.symbol 41])

theorem length_tuple (reads : List (List Token)) : reads.length ≤ (tupleTokens reads).length := by
  have inside := length_joined (.symbol 44) reads
  rw [tupleTokens, List.length_cons, List.length_append]
  omega

/-- The tokens of an INSERT statement. -/
def statementTokens (target columns : List (List Token)) (tuples : List (List (List Token))) : List Token :=
  keyword "INSERT" :: keyword "INTO" :: ([.symbol 46].intercalate target ++ (tupleTokens columns ++
    keyword "VALUES" :: ([.symbol 44].intercalate (tuples.map tupleTokens) ++ [.symbol 59])))

/-- The tokens of a statement are read as that statement. -/
theorem statement_tokens {target columns : List (List Token)} {tuples : List (List (List Token))}
    {targetNames columnNames : List (List Nat)} {values : List (List Operand)}
    (targets : List.Forall₂ (Gives name) target targetNames) (named : List.Forall₂ (Gives name) columns columnNames)
    (each : List.Forall₂ (fun reads values => List.Forall₂ (Gives operand) reads values) tuples values)
    (target_ne : target ≠ []) (columns_ne : columns ≠ []) (tuples_ne : tuples ≠ []) (filled : ∀ reads ∈ tuples, reads ≠ []) :
    statement (statementTokens target columns tuples) = some ⟨targetNames, columnNames, values⟩ := by
  have total : (statementTokens target columns tuples).length = ([Token.symbol 46].intercalate target).length +
      (tupleTokens columns).length + ([Token.symbol 44].intercalate (tuples.map tupleTokens)).length + 4 := by
    simp only [statementTokens, List.length_cons, List.length_append, List.length_nil]
    omega
  have short (reads : List (List Token)) (member : reads ∈ tuples) :
      reads.length ≤ (statementTokens target columns tuples).length := by
    have inside := length_of_mem (.symbol 44) (List.mem_map_of_mem member : tupleTokens reads ∈ tuples.map tupleTokens)
    have outside := length_tuple reads
    omega
  have enclosedTuples : List.Forall₂ (Gives (enclosed operand (statementTokens target columns tuples).length))
      (tuples.map tupleTokens) values := by
    rw [List.forall₂_map_left_iff]
    refine List.forall₂_iff_get.mpr ⟨each.length_eq, fun index here there => ?_⟩
    have member := List.get_mem tuples ⟨index, here⟩
    exact gives_enclosed ((List.forall₂_iff_get.mp each).2 index here there) (filled _ member) (short _ member)
  have first := @gives_items _ _ 46 (statementTokens target columns tuples).length _ _ targets target_ne
    (by have inside := length_joined (.symbol 46) target; omega)
    (tupleTokens columns ++ keyword "VALUES" :: ([.symbol 44].intercalate (tuples.map tupleTokens) ++ [.symbol 59])) (by
      simp [tupleTokens])
  have second := @gives_enclosed _ _ (statementTokens target columns tuples).length _ _ named columns_ne
    (by have inside := length_tuple columns; omega)
    (keyword "VALUES" :: ([.symbol 44].intercalate (tuples.map tupleTokens) ++ [.symbol 59]))
  have third := @gives_items _ _ 44 (statementTokens target columns tuples).length _ _ enclosedTuples
    (mt List.map_eq_nil_iff.mp tuples_ne)
    (by have inside := length_joined (.symbol 44) (tuples.map tupleTokens); rw [List.length_map] at inside ⊢; omega)
    [.symbol 59] (by simp)
  have insert : isKeyword "INSERT" (keyword "INSERT") = true := by decide
  have into : isKeyword "INTO" (keyword "INTO") = true := by decide
  have inserted : isKeyword "VALUES" (keyword "VALUES") = true := by decide
  rw [← tupleTokens] at second
  have unfolded : statement (statementTokens target columns tuples) =
      if isKeyword "INSERT" (keyword "INSERT") && isKeyword "INTO" (keyword "INTO") then
        (items 46 name (statementTokens target columns tuples).length ([.symbol 46].intercalate target ++ (tupleTokens columns ++
          keyword "VALUES" :: ([.symbol 44].intercalate (tuples.map tupleTokens) ++ [.symbol 59])))).bind fun target' =>
        (enclosed name (statementTokens target columns tuples).length target'.2).bind fun columns' =>
        if columns'.2.head?.any (isKeyword "VALUES") then
          (items 44 (enclosed operand (statementTokens target columns tuples).length)
            (statementTokens target columns tuples).length columns'.2.tail).bind fun tuples' =>
          if tuples'.2 = [.symbol 59] then some ⟨target'.1, columns'.1, tuples'.1⟩ else none
        else none
      else none := rfl
  rw [unfolded, insert, into, first]
  simp only [Bool.and_self, if_true, Option.bind_some, second, List.head?_cons, Option.any_some, inserted, List.tail_cons, third]

end SqlInserts
