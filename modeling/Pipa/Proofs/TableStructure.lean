import Pipa.Library.SqlValues
import Pipa.TableEdits
import Pipa.TableStructure

/-! The members of ENUM and SET types. The decoder reads every member that MySQL prints
back, whatever quotes, commas, parentheses and backslashes it holds. -/

namespace Pipa.TableEdits
open Text MysqlQuotes ColumnPatterns TableSql

/-- The type of a column as MySQL prints it. -/
def columnTypeText (kind : String) (members : List String) : String :=
  kind ++ "(" ++ ",".intercalate (members.map fun member => String.ofList (literal member.toList)) ++ ")"

/-- A printed member is read back in front of anything but a quote. -/
theorem enumMember_content (member : List Char) {rest : List Char} (apart : rest.head? ≠ some '\'') :
    enumMember (content member ++ '\'' :: rest) = some (member, rest) := by
  induction member with
  | nil =>
    cases rest with
    | nil => rfl
    | cons c rest =>
      have other : c ≠ '\'' := fun same => apart (congrArg some same)
      change enumMember ('\'' :: c :: rest) = _
      rw [enumMember]
      exact fun later same => other (List.cons.inj same).1
  | cons c member ih =>
    rw [content_cons, List.append_assoc]
    obtain ⟨rfl, shape⟩ | ⟨-, letter, listed, shape⟩ | ⟨unquoted, bare, shape⟩ := escaped_cases c
    · rw [shape, List.cons_append, List.cons_append, List.nil_append, enumMember, ih]
      rfl
    · have means : unescaped letter = c := by
        have all : ∀ pair ∈ [('\\', '\\'), ('\x00', '0'), ('\n', 'n'), ('\r', 'r')], unescaped pair.2 = pair.1 := by decide
        exact all _ listed
      rw [shape, List.cons_append, List.cons_append, List.nil_append, enumMember, ih, Option.map_some, means]
    · have bare' : c ≠ '\\' := fun same => bare (.inl same)
      rw [shape, List.singleton_append, enumMember, ih]
      · rfl
      · exact fun later same => absurd same unquoted
      · exact unquoted
      · exact fun next later same => absurd same bare'

/-- The text of a list of members up to the closing parenthesis. -/
def membersText (members : List String) : List Char :=
  [','].intercalate (members.map fun member => literal member.toList) ++ [')']

theorem enumMembers_text {members : List String} (present : members ≠ []) {fuel : Nat} (enough : members.length ≤ fuel) :
    enumMembers fuel (membersText members) = some members := by
  induction members generalizing fuel with
  | nil => exact absurd rfl present
  | cons member members ih =>
    obtain ⟨fuel, rfl⟩ : ∃ less, fuel = less + 1 := ⟨fuel - 1, by simp at enough; omega⟩
    cases members with
    | nil =>
      have read := @enumMember_content member.toList [')'] (by decide)
      have shape : membersText [member] = '\'' :: (content member.toList ++ '\'' :: [')']) := by
        simp [membersText, literal]
      have opened (text : List Char) : ('\'' :: text).dropWhile isJsWhitespace = '\'' :: text := rfl
      rw [shape, enumMembers, opened]
      simp only [read, Option.bind_eq_bind, Option.bind_some]
      have ended : ([')'] : List Char).dropWhile isJsWhitespace = [')'] := rfl
      have blank : jsTrim (String.ofList []) = "" := by decide
      rw [ended]
      simp only [blank, if_true, String.ofList_toList]
    | cons next members =>
      have later := ih (List.cons_ne_nil _ _) (Nat.le_of_succ_le_succ enough)
      have read := @enumMember_content member.toList (',' :: membersText (next :: members)) (by simp)
      have shape : membersText (member :: next :: members) =
          '\'' :: (content member.toList ++ '\'' :: ',' :: membersText (next :: members)) := by
        simp [membersText, literal]
      have opened (text : List Char) : ('\'' :: text).dropWhile isJsWhitespace = '\'' :: text := rfl
      have separated (text : List Char) : (',' :: text).dropWhile isJsWhitespace = ',' :: text := rfl
      rw [shape, enumMembers, opened]
      simp only [read, Option.bind_eq_bind, Option.bind_some, separated, later, Option.map_some, String.ofList_toList]

theorem length_members (members : List String) : members.length ≤ (membersText members).length := by
  induction members with
  | nil => exact Nat.zero_le _
  | cons member members ih =>
    cases members with
    | nil => simp [membersText]
    | cons next members =>
      have shape : membersText (member :: next :: members) = literal member.toList ++ ',' :: membersText (next :: members) := by
        simp [membersText]
      simp only [shape, List.length_append, List.length_cons] at ih ⊢
      omega

/-- The prefix of a type is its keyword and the parenthesis behind it. -/
theorem prefix_run {kind : String} (listed : kind ∈ ["enum", "set"]) (rest : List Char) :
    (Regex.run (.all [.start, anyCase kind, spaces foldedClasses, symbol '(']) (Regex.begin (kind.toList ++ '(' :: rest))).head?.map
      (·.ahead) = some rest := by
  simp only [List.mem_cons, List.not_mem_nil, or_false] at listed
  rcases listed with rfl | rfl
  · rfl
  · rfl

/-- The members of a printed type are read back one by one. -/
theorem parseEnumSetValues_text {kind : String} (listed : kind ∈ ["enum", "set"]) {members : List String} (present : members ≠ []) :
    parseEnumSetValues (columnTypeText kind members) kind = some members := by
  have shape : (columnTypeText kind members).toList = kind.toList ++ '(' :: membersText members := by
    simp [columnTypeText, membersText, String.toList_intercalate, Function.comp_def]
  obtain ⟨position, first, ahead⟩ := Option.map_eq_some_iff.mp (prefix_run listed (membersText members))
  rw [parseEnumSetValues, shape, first]
  simp only [ahead]
  exact enumMembers_text present (length_members members)

theorem parseEnumSetValues_quotes : parseEnumSetValues (columnTypeText "enum" ["a,b", "it's", "\\(", ""]) "enum" =
    some ["a,b", "it's", "\\(", ""] := parseEnumSetValues_text (by decide) (by decide)

end Pipa.TableEdits

/-! The comment of a table, read from its CREATE TABLE statement. The list of columns is
skipped whatever its quoted texts hold, but the search starts at the first parenthesis of
the whole statement, and of the escapes only doubled quotes are undone. -/

namespace Pipa.TableSql
open Text MysqlQuotes ColumnPatterns

/-! ### What MySQL prints between the parentheses -/

/-- What stands between single quotes: doubled quotes and escapes are no end. -/
inductive StringBody : List Char → Prop where
  | nil : StringBody []
  | pair {body : List Char} (behind : StringBody body) : StringBody ('\'' :: '\'' :: body)
  | escape (c : Char) {body : List Char} (behind : StringBody body) : StringBody ('\\' :: c :: body)
  | plain {c : Char} {body : List Char} (unquoted : c ≠ '\'') (bare : c ≠ '\\') (behind : StringBody body) : StringBody (c :: body)

theorem stringBody_content (text : List Char) : StringBody (content text) := by
  induction text with
  | nil => exact .nil
  | cons c text ih =>
    rw [content_cons]
    obtain ⟨-, shape⟩ | ⟨-, letter, -, shape⟩ | ⟨unquoted, bare, shape⟩ := escaped_cases c
    · rw [shape]
      exact .pair ih
    · rw [shape]
      exact .escape letter ih
    · rw [shape]
      exact .plain unquoted (fun same => bare (.inl same)) ih

def identifierContent (name : List Char) : List Char := name.flatMap fun c => if c = '\x60' then ['\x60', '\x60'] else [c]

def identifierText (name : List Char) : List Char := '\x60' :: (identifierContent name ++ ['\x60'])

/-- A character that neither quotes nor opens or closes anything. -/
def Ordinary (c : Char) : Prop := c ∉ ['\'', '"', '\x60', '(', ')']

instance (c : Char) : Decidable (Ordinary c) := inferInstanceAs (Decidable (_ ∉ _))

/-- Definitions of columns, keys and constraints, with any names, strings and nested parentheses. -/
inductive Listed : List Char → Prop where
  | nil : Listed []
  | plain {c : Char} {text : List Char} (ordinary : Ordinary c) (behind : Listed text) : Listed (c :: text)
  | string {body text : List Char} (isBody : StringBody body) (apart : text.head? ≠ some '\'') (behind : Listed text) :
      Listed ('\'' :: (body ++ '\'' :: text))
  | identifier (name : List Char) {text : List Char} (behind : Listed text) : Listed (identifierText name ++ text)
  | group {inner text : List Char} (inside : Listed inner) (behind : Listed text) : Listed ('(' :: (inner ++ ')' :: text))

theorem listed_plain {front text : List Char} (ordinary : ∀ c ∈ front, Ordinary c) (behind : Listed text) : Listed (front ++ text) := by
  induction front with
  | nil => exact behind
  | cons c front ih =>
    obtain ⟨first, later⟩ := List.forall_mem_cons.mp ordinary
    exact .plain first (ih later)

/-! ### The end of the list -/

theorem behindList_string {body rest : List Char} (isBody : StringBody body) (apart : rest.head? ≠ some '\'') (depth : Nat) :
    behindList depth (some '\'') false (body ++ '\'' :: rest) = behindList depth none false rest := by
  induction isBody with
  | nil => simp [behindList, apart]
  | pair behind ih => simpa [behindList] using ih
  | escape c behind ih => simpa [behindList] using ih
  | plain unquoted bare behind ih => simpa [behindList, unquoted, bare] using ih

theorem behindList_identifier (name : List Char) (rest : List Char) (depth : Nat) :
    behindList depth (some '\x60') false (identifierContent name ++ '\x60' :: rest) = behindList depth none false rest := by
  induction name with
  | nil => simp [identifierContent, behindList]
  | cons c name ih =>
    rw [identifierContent, List.flatMap_cons, ← identifierContent, List.append_assoc]
    by_cases quote : c = '\x60'
    · subst c
      simpa [behindList] using ih
    · simpa [behindList, quote] using ih

/-- Inside of its parentheses the list is skipped. -/
theorem behindList_listed {text : List Char} (listed : Listed text) {rest : List Char} (apart : rest.head? ≠ some '\'') (depth : Nat) :
    behindList (depth + 1) none false (text ++ rest) = behindList (depth + 1) none false rest := by
  induction listed generalizing rest depth with
  | nil => rfl
  | @plain c text ordinary behind ih =>
    simp only [Ordinary, List.mem_cons, List.not_mem_nil, or_false, not_or] at ordinary
    simpa [behindList, ordinary] using ih apart depth
  | @string body text isBody before behind ih =>
    have outside : (text ++ rest).head? ≠ some '\'' := by
      cases text with
      | nil => exact apart
      | cons c text => exact before
    have opened : behindList (depth + 1) none false ('\'' :: (body ++ '\'' :: text) ++ rest) =
        behindList (depth + 1) (some '\'') false (body ++ '\'' :: (text ++ rest)) := by
      simp [behindList]
    rw [opened, behindList_string isBody outside]
    exact ih apart depth
  | @identifier name text behind ih =>
    have opened : behindList (depth + 1) none false (identifierText name ++ text ++ rest) =
        behindList (depth + 1) (some '\x60') false (identifierContent name ++ '\x60' :: (text ++ rest)) := by
      simp [identifierText, behindList]
    rw [opened, behindList_identifier]
    exact ih apart depth
  | @group inner text inside behind ih ih' =>
    have opened : behindList (depth + 1) none false ('(' :: (inner ++ ')' :: text) ++ rest) =
        behindList (depth + 1 + 1) none false (inner ++ ')' :: (text ++ rest)) := by
      simp [behindList]
    have closed : behindList (depth + 1 + 1) none false (')' :: (text ++ rest)) = behindList (depth + 1) none false (text ++ rest) := by
      simp [behindList]
    rw [opened, ih (by simp) (depth + 1), closed]
    exact ih' apart depth

/-! ### Statements -/

/-- `COMMENT\s*=\s*'` in any case. -/
def commentStart : List Regex := [anyCase "COMMENT", spaces foldedClasses, symbol '=', spaces foldedClasses, symbol '\'']

/-- A statement as SHOW CREATE TABLE prints it: no option in front of the comment is a comment
itself, and a comment is printed only when there is one. -/
structure PrintedTable where
  name : String
  list : List Char
  options : List Char
  comment : String
  partitions : List Char
  listed : Listed list
  clear : Regex.isMatch (.all commentStart) options = false
  apart : partitions.head? ≠ some '\''

namespace PrintedTable

/-- The option of the comment. -/
def commentOption (table : PrintedTable) : List Char :=
  if table.comment = "" then [] else ' ' :: ("COMMENT=".toList ++ literal table.comment.toList)

def suffix (table : PrintedTable) : List Char := table.options ++ (table.commentOption ++ table.partitions)

def text (table : PrintedTable) : String :=
  String.ofList ("CREATE TABLE ".toList ++ (identifierText table.name.toList ++ ' ' :: '(' :: (table.list ++ ')' :: table.suffix)))

theorem text_toList (table : PrintedTable) : table.text.toList =
    "CREATE TABLE ".toList ++ (identifierText table.name.toList ++ ' ' :: '(' :: (table.list ++ ')' :: table.suffix)) :=
  String.toList_ofList

end PrintedTable

theorem dropWhile_before {front rest : List Char} (free : '(' ∉ front) :
    (front ++ '(' :: rest).dropWhile (· ≠ '(') = '(' :: rest := by
  rw [List.dropWhile_append_of_pos]
  · simp
  · intro c member
    simpa using ne_of_mem_of_not_mem member free

theorem identifier_free {name : List Char} (free : '(' ∉ name) : '(' ∉ identifierText name := by
  have inside : '(' ∉ identifierContent name := by
    intro member
    obtain ⟨c, listed, doubled⟩ := List.mem_flatMap.mp member
    split at doubled
    next same =>
      subst same
      simp at doubled
    next =>
      obtain rfl := List.mem_singleton.mp doubled
      exact free listed
  simp [identifierText, inside]

/-- With no parenthesis in the name the options are what stands behind the list. -/
theorem extractCreateTableOptions_text {table : PrintedTable} (free : '(' ∉ table.name.toList) :
    extractCreateTableOptions table.text = table.suffix := by
  have front : '(' ∉ "CREATE TABLE ".toList ++ (identifierText table.name.toList ++ [' ']) := by
    have keywords : '(' ∉ "CREATE TABLE ".toList := by decide
    simp only [List.mem_append, not_or]
    exact ⟨keywords, identifier_free free, by simp⟩
  have shape : table.text.toList = ("CREATE TABLE ".toList ++ (identifierText table.name.toList ++ [' '])) ++
      '(' :: (table.list ++ ')' :: table.suffix) := by
    rw [PrintedTable.text_toList, List.append_assoc, List.append_assoc, List.singleton_append]
  have opened : behindList 0 none false ('(' :: (table.list ++ ')' :: table.suffix)) =
      behindList 1 none false (table.list ++ ')' :: table.suffix) := by
    simp [behindList]
  rw [extractCreateTableOptions, shape, dropWhile_before front, opened, behindList_listed table.listed (by simp) 0]
  simp [behindList]

/-! ### The search for the comment -/

/-- The words that start a comment option. -/
structure StartWord (word : List Char) : Prop where
  shape : ∃ letters blanks blanks', word = letters ++ (blanks ++ '=' :: (blanks' ++ ['\''])) ∧ letters.length = 7 ∧
    (∀ c ∈ letters ++ (blanks ++ '=' :: blanks'), c ≠ '\'') ∧ (∀ c ∈ blanks ++ blanks', foldedClasses.space c = true)

theorem startWord_of_spells {word : List Char} (spells : Regex.Spells (.all commentStart) word) : StartWord word := by
  obtain ⟨letters, _, named, behind, rfl⟩ := Regex.spells_seq.mp spells
  obtain ⟨blanks, _, spaced, behind', rfl⟩ := Regex.spells_seq.mp behind
  obtain ⟨mark, _, equals, behind'', rfl⟩ := Regex.spells_seq.mp behind'
  obtain ⟨blanks', _, spaced', last, rfl⟩ := Regex.spells_seq.mp behind''
  obtain ⟨quote, _, quoted, ended, rfl⟩ := Regex.spells_seq.mp last
  obtain rfl := Regex.spells_empty.mp ended
  obtain ⟨c, isEquals, rfl⟩ := Regex.spells_char.mp equals
  obtain ⟨c', isQuote, rfl⟩ := Regex.spells_char.mp quoted
  obtain rfl := eq_of_beq isEquals
  obtain rfl := eq_of_beq isQuote
  have folded := Regex.spells_spelled.mp named
  have white := Regex.spells_star.mp spaced
  have white' := Regex.spells_star.mp spaced'
  have unquoted (c : Char) (blank : foldedClasses.space c = true) : c ≠ '\'' := by
    rintro rfl
    cases blank
  refine ⟨letters, blanks, blanks', by simp, by rw [← folded.length_eq]; rfl, ?_, ?_⟩
  · have lettered : ∀ c ∈ letters, c ≠ '\'' := by
      have none : ∀ c ∈ "COMMENT".toList, folds c '\'' = false := @of_decide_eq_true _ (List.decidableBAll _ _) rfl
      refine named.within (Regex.within_spelled fun c listed other same => ?_)
      rintro rfl
      rw [none c listed] at same
      cases same
    simp only [List.forall_mem_append, List.forall_mem_cons]
    exact ⟨lettered, fun c member => unquoted c (white c member), by decide, fun c member => unquoted c (white' c member)⟩
  · exact List.forall_mem_append.mpr ⟨white, white'⟩

theorem plain_commentStart : (Regex.all commentStart).Plain :=
  ⟨Regex.plain_spelled _ _, trivial, trivial, trivial, trivial, trivial⟩

/-- A text without such a word has none at any place. -/
theorem clear_words {text left word rest : List Char} (clear : Regex.isMatch (.all commentStart) text = false)
    (split : text = left ++ (word ++ rest)) : ¬Regex.Spells (.all commentStart) word := by
  intro spells
  have reached := @Regex.run_finds _ plain_commentStart word rest (left.reverse ++ []) spells
  have inside := Regex.mem_positions left (word ++ rest) []
  rw [← split] at inside
  have nonempty := List.any_eq_false.mp clear _ inside
  simp only [Bool.not_eq_true, Bool.not_eq_false', List.isEmpty_iff] at nonempty
  rw [nonempty] at reached
  cases reached

theorem blanks_end {front blanks front' : List Char} {c : Char} (spaced : ∀ c ∈ blanks, foldedClasses.space c = true)
    (visible : foldedClasses.space c = false) (same : front ++ blanks = front' ++ [c]) : blanks = [] := by
  obtain rfl | ⟨blanks, last, rfl⟩ := List.eq_nil_or_concat' blanks
  · rfl
  · rw [← List.append_assoc] at same
    obtain ⟨-, ending⟩ := List.append_inj' same rfl
    obtain rfl := List.singleton_inj.mp ending
    have blank := spaced last (by simp)
    rw [visible] at blank
    cases blank

theorem before_quote {front front' rest rest' : List Char} (free : '\'' ∉ front) (free' : '\'' ∉ front')
    (same : front ++ '\'' :: rest = front' ++ '\'' :: rest') : front = front' := by
  have taken {front : List Char} (free : '\'' ∉ front) (rest : List Char) : (front ++ '\'' :: rest).takeWhile (· ≠ '\'') = front := by
    rw [List.takeWhile_append_of_pos]
    · simp
    · intro c member
      simpa using ne_of_mem_of_not_mem member free
  rw [← taken free rest, same, taken free']

/-- Nothing that begins in front of the option reads as its start. -/
theorem StartWord.aligned {word right back tail rest : List Char} (starts : StartWord word) (overlap : word = right ++ back)
    (reaches : back ≠ []) (whole : "COMMENT=".toList ++ '\'' :: tail = back ++ rest) : right = [] := by
  obtain ⟨letters, blanks, blanks', shape, seven, unquoted, spaced⟩ := starts.shape
  obtain rfl | ⟨back, last, rfl⟩ := List.eq_nil_or_concat' back
  · exact absurd rfl reaches
  obtain ⟨white, white'⟩ := List.forall_mem_append.mp spaced
  have cut : (letters ++ (blanks ++ '=' :: blanks')) ++ ['\''] = (right ++ back) ++ [last] := by
    rw [List.append_assoc right, ← overlap, shape]
    simp
  obtain ⟨same, quote⟩ := List.append_inj' cut rfl
  obtain rfl := List.singleton_inj.mp quote
  have free : '\'' ∉ back := by
    intro member
    refine unquoted '\'' ?_ rfl
    rw [same]
    exact List.mem_append_right _ member
  obtain rfl : "COMMENT=".toList = back := by
    apply before_quote (by decide) free
    rw [whole, List.append_assoc]
    rfl
  have keyword : "COMMENT=".toList = "COMMENT".toList ++ ['='] := by decide
  have ended : (letters ++ blanks ++ ['=']) ++ blanks' = (right ++ "COMMENT".toList) ++ ['='] := by
    rw [List.append_assoc right, ← keyword, ← same]
    simp
  obtain rfl := blanks_end white' (by decide) ended
  rw [List.append_nil] at ended
  obtain ⟨named, -⟩ := List.append_inj' ended rfl
  have keyword' : "COMMENT".toList = "COMMEN".toList ++ ['T'] := by decide
  have ended' : letters ++ blanks = (right ++ "COMMEN".toList) ++ ['T'] := by
    rw [named, keyword', List.append_assoc]
  have visible : foldedClasses.space 'T' = false := by decide
  obtain rfl := blanks_end white visible ended'
  have lengths := congrArg List.length named
  rw [List.append_nil, seven, List.length_append] at lengths
  have counted : "COMMENT".toList.length = 7 := by decide
  exact List.length_eq_zero_iff.mp (by omega)

/-! ### The option itself -/

/-- A round of what the group repeats. -/
def quotedRound : Regex := .alt (exactly "''") (.char fun c => c ≠ '\'')

theorem quotedRound_parts : quotedRound =
    .alt (.seq (.char ('\'' == ·)) (.seq (.char ('\'' == ·)) .empty)) (.char fun c => c ≠ '\'') := rfl

theorem round_plain {c : Char} (unquoted : c ≠ '\'') (before rest : List Char) :
    Regex.run quotedRound ⟨before, c :: rest⟩ = [⟨c :: before, rest⟩] := by
  simp [quotedRound_parts, Regex.run, unquoted, Ne.symm unquoted]

theorem round_doubled (before rest : List Char) :
    Regex.run quotedRound ⟨before, '\'' :: '\'' :: rest⟩ = [⟨'\'' :: '\'' :: before, rest⟩] := by
  simp [quotedRound_parts, Regex.run]

theorem round_quote {rest : List Char} (apart : rest.head? ≠ some '\'') (before : List Char) :
    Regex.run quotedRound ⟨before, '\'' :: rest⟩ = [] := by
  cases rest with
  | nil => simp [quotedRound_parts, Regex.run]
  | cons c rest =>
    have other : '\'' ≠ c := fun same => apart (congrArg some same.symm)
    simp [quotedRound_parts, Regex.run, other]

/-- The group takes the whole printed comment, and stops at the quote behind it. -/
theorem iterate_content (text : List Char) {before rest : List Char} (apart : rest.head? ≠ some '\'') {fuel : Nat}
    (enough : (content text).length ≤ fuel) :
    (Regex.iterate (Regex.run quotedRound) fuel ⟨before, content text ++ '\'' :: rest⟩).head? =
      some ⟨(content text).reverse ++ before, '\'' :: rest⟩ := by
  induction text generalizing before fuel with
  | nil =>
    have ended : content [] ++ '\'' :: rest = '\'' :: rest := rfl
    cases fuel with
    | zero => rfl
    | succ fuel =>
      rw [ended, Regex.iterate, round_quote apart]
      rfl
  | cons c text ih =>
    rw [content_cons, List.append_assoc, List.reverse_append, List.append_assoc]
    rw [content_cons, List.length_append] at enough
    obtain ⟨-, shape⟩ | ⟨-, letter, listed, shape⟩ | ⟨unquoted, -, shape⟩ := escaped_cases c
    · rw [shape] at enough ⊢
      obtain ⟨fuel, rfl⟩ : ∃ less, fuel = less + 1 := ⟨fuel - 1, by simp at enough; omega⟩
      apply Regex.iterate_once (round_doubled before _)
      · simp only [List.length_cons]
        omega
      · exact ih (by simp at enough; omega)
    · rw [shape] at enough ⊢
      obtain ⟨fuel, rfl⟩ : ∃ less, fuel = less + 2 := ⟨fuel - 2, by simp at enough; omega⟩
      have plain : letter ≠ '\'' := by
        have all : ∀ pair ∈ [('\\', '\\'), ('\x00', '0'), ('\n', 'n'), ('\r', 'r')], pair.2 ≠ '\'' := by decide
        exact all _ listed
      apply Regex.iterate_once (round_plain (by decide) before _)
      · simp
      apply Regex.iterate_once (round_plain plain _ _)
      · simp
      · exact ih (by simp at enough; omega)
    · rw [shape] at enough ⊢
      obtain ⟨fuel, rfl⟩ : ∃ less, fuel = less + 1 := ⟨fuel - 1, by simp at enough; omega⟩
      apply Regex.iterate_once (round_plain unquoted before _)
      · simp
      · exact ih (by simp at enough; omega)

theorem run_optionStart (before rest : List Char) :
    Regex.run (.all (.boundary isFoldedWord :: commentStart)) ⟨' ' :: before, "COMMENT=".toList ++ '\'' :: rest⟩ =
      [⟨('\'' :: "=TNEMMOC".toList) ++ ' ' :: before, rest⟩] := by
  rfl

/-- Behind a blank the option is read, with what stands between its quotes. -/
theorem captures_option (comment before : List Char) {partitions : List Char} (apart : partitions.head? ≠ some '\'') :
    ∃ front back, (Regex.captures tableCommentParts ⟨' ' :: before, "COMMENT=".toList ++ (literal comment ++ partitions)⟩).head? =
      some [front, content comment, back] := by
  have shape : literal comment ++ partitions = '\'' :: (content comment ++ '\'' :: partitions) := by
    simp [literal]
  have enough : (content comment).length ≤ (content comment ++ '\'' :: partitions).length := by
    rw [List.length_append]
    exact Nat.le_add_right _ _
  have first := congrArg List.head? (run_optionStart before (content comment ++ '\'' :: partitions))
  have inner : (Regex.run (.star quotedRound) ⟨('\'' :: "=TNEMMOC".toList) ++ ' ' :: before, content comment ++ '\'' :: partitions⟩).head? =
      some ⟨(content comment).reverse ++ (('\'' :: "=TNEMMOC".toList) ++ ' ' :: before), '\'' :: partitions⟩ :=
    iterate_content comment apart enough
  have closing (before : List Char) :
      (Regex.captures [symbol '\''] ⟨before, '\'' :: partitions⟩).head? =
        some [Regex.between ⟨before, '\'' :: partitions⟩ ⟨'\'' :: before, partitions⟩] := rfl
  have found := Regex.captures_head first (Regex.captures_head inner (closing _))
  have body : Regex.between ⟨('\'' :: "=TNEMMOC".toList) ++ ' ' :: before, content comment ++ '\'' :: partitions⟩
      ⟨(content comment).reverse ++ (('\'' :: "=TNEMMOC".toList) ++ ' ' :: before), '\'' :: partitions⟩ = content comment := by
    simp [Regex.between]
  rw [body] at found
  rw [shape]
  exact ⟨_, _, found⟩

/-! ### What is undone of the escapes -/

theorem decodeMysqlQuotedString_cons {c : Char} (unquoted : c ≠ '\'') (rest : List Char) :
    decodeMysqlQuotedString (c :: rest) = c :: decodeMysqlQuotedString rest := by
  rw [decodeMysqlQuotedString]
  exact fun later same => absurd same unquoted

/-- Every printed escape leaves one character too many. -/
theorem decodeMysqlQuotedString_length (text : List Char) :
    (decodeMysqlQuotedString (content text)).length = text.length + text.countP (Escapes ·) := by
  induction text with
  | nil => rfl
  | cons c text ih =>
    rw [content_cons]
    obtain ⟨rfl, shape⟩ | ⟨escapes, letter, listed, shape⟩ | ⟨unquoted, bare, shape⟩ := escaped_cases c
    · have plain : ¬(decide (Escapes '\'') = true) := by decide
      rw [shape, List.countP_cons, if_neg plain, List.length_cons]
      change (decodeMysqlQuotedString (content text)).length + 1 = _
      omega
    · have plain : letter ≠ '\'' := by
        have all : ∀ pair ∈ [('\\', '\\'), ('\x00', '0'), ('\n', 'n'), ('\r', 'r')], pair.2 ≠ '\'' := by decide
        exact all _ listed
      rw [shape, List.countP_cons, if_pos (decide_eq_true escapes), List.length_cons, List.cons_append, List.singleton_append,
        decodeMysqlQuotedString_cons (by decide), decodeMysqlQuotedString_cons plain, List.length_cons, List.length_cons, ih]
      omega
    · rw [shape, List.countP_cons, if_neg (by simpa using bare), List.length_cons, List.singleton_append,
        decodeMysqlQuotedString_cons unquoted, List.length_cons, ih]
      omega

theorem decodeMysqlQuotedString_plain {text : List Char} (plain : ∀ c ∈ text, ¬Escapes c) :
    decodeMysqlQuotedString (content text) = text := by
  induction text with
  | nil => rfl
  | cons c text ih =>
    obtain ⟨first, later⟩ := List.forall_mem_cons.mp plain
    rw [content_cons]
    obtain ⟨rfl, shape⟩ | ⟨escapes, -⟩ | ⟨unquoted, -, shape⟩ := escaped_cases c
    · rw [shape]
      exact congrArg ('\'' :: ·) (ih later)
    · exact absurd escapes first
    · rw [shape, List.singleton_append, decodeMysqlQuotedString_cons unquoted, ih later]

/-- Only a text without escapes is read back. -/
theorem decodeMysqlQuotedString_iff {text : List Char} :
    decodeMysqlQuotedString (content text) = text ↔ ∀ c ∈ text, ¬Escapes c := by
  constructor
  · intro same
    have lengths := congrArg List.length same
    rw [decodeMysqlQuotedString_length] at lengths
    have none : text.countP (Escapes ·) = 0 := by omega
    intro c member
    simpa using List.countP_eq_zero.mp none c member
  · exact decodeMysqlQuotedString_plain

/-! ### The comment -/

/-- What the search for a comment finds in some options. -/
def foundComment (options : List Char) : Option (List (List Char)) :=
  (Regex.positions [] options).findSome? fun position => (Regex.captures tableCommentParts position).head?

/-- The first `COMMENT = '…'` of a text stands there with a text of its own. -/
def NamesComment (options : List Char) : Prop := ∃ front body back, body ≠ [] ∧ foundComment options = some [front, body, back]

theorem foundComment_length {options : List Char} {found : List (List Char)} (isFound : foundComment options = some found) :
    ∃ front body back, found = [front, body, back] := by
  obtain ⟨position, -, first⟩ := List.exists_of_findSome?_eq_some isFound
  exact List.length_eq_three.mp (Regex.captures_length (List.mem_of_head? first))

/-- No match begins in front of the option. -/
theorem captures_front {table : PrintedTable} {left right tail : List Char} (split : table.options ++ [' '] = left ++ right)
    (present : right ≠ []) :
    (Regex.captures tableCommentParts ⟨left.reverse ++ [], right ++ ("COMMENT=".toList ++ '\'' :: tail)⟩).head? = none := by
  rw [List.head?_eq_none_iff, Regex.captures_eq_nil_iff, List.eq_nil_iff_forall_not_mem]
  intro last found
  obtain ⟨next, started, -⟩ := List.mem_flatMap.mp found
  obtain ⟨_, taken, spelled⟩ := Regex.run_spells _ started
  obtain ⟨_, word, edge, spells, rfl⟩ := Regex.spells_seq.mp spelled
  cases edge
  have starts := startWord_of_spells spells
  have whole : right ++ ("COMMENT=".toList ++ '\'' :: tail) = word ++ next.ahead := taken.1
  have inFront {behind : List Char} (inside : right = word ++ behind) : False := by
    obtain ⟨letters, blanks, blanks', shape, -⟩ := starts.shape
    obtain rfl | ⟨behind, blank, rfl⟩ := List.eq_nil_or_concat' behind
    · have ending : table.options ++ [' '] = (left ++ (letters ++ (blanks ++ '=' :: blanks'))) ++ ['\''] := by
        rw [split, inside, shape]
        simp
      obtain ⟨-, same⟩ := List.append_inj' ending rfl
      exact absurd (List.singleton_inj.mp same) (by decide)
    · have ending : table.options ++ [' '] = (left ++ (word ++ behind)) ++ [blank] := by
        rw [split, inside]
        simp
      obtain ⟨earlier, -⟩ := List.append_inj' ending rfl
      exact clear_words table.clear earlier spells
  obtain ⟨back, overlap, reached⟩ | ⟨behind, inside, -⟩ := List.append_eq_append_iff.mp whole
  · by_cases reaches : back = []
    · rw [reaches, List.append_nil] at overlap
      exact @inFront [] (by rw [overlap, List.append_nil])
    · exact present (starts.aligned overlap reaches reached)
  · exact inFront inside

theorem parseCreateTableComment_found (table : PrintedTable) (free : '(' ∉ table.name.toList) :
    parseCreateTableComment table.text = match foundComment table.suffix with
      | some [_, body, _] => String.ofList (decodeMysqlQuotedString body)
      | _ => "" := by
  rw [parseCreateTableComment, extractCreateTableOptions_text free]
  rfl

/-- Where there is a comment, it is what the search finds. -/
theorem foundComment_comment {table : PrintedTable} (commented : table.comment ≠ "") :
    ∃ front back, foundComment table.suffix = some [front, content table.comment.toList, back] := by
  have shape : table.suffix =
      (table.options ++ [' ']) ++ ("COMMENT=".toList ++ (literal table.comment.toList ++ table.partitions)) := by
    rw [PrintedTable.suffix, PrintedTable.commentOption, if_neg commented]
    simp
  obtain ⟨front, back, option⟩ := captures_option table.comment.toList table.options.reverse table.apart
  refine ⟨front, back, ?_⟩
  rw [foundComment, shape, Regex.findSome_positions]
  · apply Regex.findSome_here
    simpa using option
  · intro left right split present
    have quoted : literal table.comment.toList = '\'' :: (content table.comment.toList ++ ['\'']) := rfl
    rw [quoted, List.cons_append]
    exact captures_front split present

theorem parseCreateTableComment_comment {table : PrintedTable} (free : '(' ∉ table.name.toList) (commented : table.comment ≠ "") :
    parseCreateTableComment table.text = String.ofList (decodeMysqlQuotedString (content table.comment.toList)) := by
  obtain ⟨front, back, found⟩ := foundComment_comment commented
  rw [parseCreateTableComment_found table free, found]

theorem parseCreateTableComment_none {table : PrintedTable} (free : '(' ∉ table.name.toList) (uncommented : table.comment = "") :
    parseCreateTableComment table.text = "" ↔ ¬NamesComment (table.options ++ table.partitions) := by
  have shape : table.suffix = table.options ++ table.partitions := by
    rw [PrintedTable.suffix, PrintedTable.commentOption, if_pos uncommented, List.nil_append]
  rw [parseCreateTableComment_found table free, shape]
  cases isFound : foundComment (table.options ++ table.partitions) with
  | none => simp [NamesComment, isFound]
  | some found =>
    obtain ⟨front, body, back, rfl⟩ := foundComment_length isFound
    cases body with
    | nil => simp [NamesComment, isFound, decodeMysqlQuotedString]
    | cons c body =>
      have named : NamesComment (table.options ++ table.partitions) := ⟨front, c :: body, back, List.cons_ne_nil _ _, isFound⟩
      have filled : decodeMysqlQuotedString (c :: body) ≠ [] := by
        rw [decodeMysqlQuotedString.eq_def]
        split <;> simp_all
      simp [named, filled]

/-- The comment is read back exactly when none of its characters is printed with a backslash and,
where it is empty, nothing behind the list is taken for it. -/
theorem parseCreateTableComment_iff (table : PrintedTable) (free : '(' ∉ table.name.toList) :
    parseCreateTableComment table.text = table.comment ↔
      (∀ c ∈ table.comment.toList, ¬Escapes c) ∧ (table.comment = "" → ¬NamesComment (table.options ++ table.partitions)) := by
  by_cases uncommented : table.comment = ""
  · rw [uncommented, parseCreateTableComment_none free uncommented]
    simp
  · rw [parseCreateTableComment_comment free uncommented, ← decodeMysqlQuotedString_iff]
    constructor
    · intro same
      refine ⟨?_, fun empty => absurd empty uncommented⟩
      rw [← String.toList_inj, String.toList_ofList] at same
      exact same
    · intro ⟨same, _⟩
      rw [same, String.ofList_toList]

/-- One column whose comment closes a parenthesis. -/
def oneColumn : List Char :=
  "\n  ".toList ++ (identifierText "id".toList ++ (" int COMMENT ".toList ++ '\'' :: (content "a)'".toList ++ '\'' :: ['\n'])))

theorem listed_oneColumn : Listed oneColumn := by
  apply listed_plain (@of_decide_eq_true _ (List.decidableBAll _ _) rfl)
  apply Listed.identifier
  apply listed_plain (@of_decide_eq_true _ (List.decidableBAll _ _) rfl)
  apply Listed.string (stringBody_content _) (by decide)
  exact .plain (by decide) .nil

def oneColumnTable (name comment : String) (partitions : List Char) (apart : partitions.head? ≠ some '\'') : PrintedTable :=
  { name, list := oneColumn, options := " ENGINE=InnoDB".toList, comment, partitions,
    listed := listed_oneColumn, clear := by decide +kernel, apart }

def partitionText : List Char := "\n/*!50100 PARTITION BY KEY () (PARTITION p0 COMMENT = 'p' ENGINE = InnoDB) */".toList

theorem parseCreateTableComment_quotes :
    parseCreateTableComment (oneColumnTable "orders" "it's (new)" [] (by decide)).text = "it's (new)" :=
  (parseCreateTableComment_iff (oneColumnTable "orders" "it's (new)" [] (by decide)) (by decide)).mpr
    ⟨@of_decide_eq_true _ (List.decidableBAll _ _) rfl, fun empty => absurd empty (by decide)⟩

/-- A backslash stays doubled, a parenthesis in the name hides the comment, and the comment of a
partition is taken for the table's. -/
theorem parseCreateTableComment_misread :
    parseCreateTableComment (oneColumnTable "orders" "a\\b" [] (by decide)).text = "a\\\\b" ∧
    parseCreateTableComment (oneColumnTable "a(b" "new" [] (by decide)).text = "" ∧
    parseCreateTableComment (oneColumnTable "orders" "" partitionText (by decide)).text = "p" := by
  refine ⟨?_, ?_, ?_⟩
  · rw [parseCreateTableComment_comment (by decide) (by decide)]
    exact congrArg String.ofList (by decide : decodeMysqlQuotedString (content ['a', '\\', 'b']) = ['a', '\\', '\\', 'b'])
  · decide +kernel
  · rw [parseCreateTableComment_found _ (by decide)]
    decide +kernel

end Pipa.TableSql
