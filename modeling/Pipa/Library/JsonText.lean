import Pipa.Library.Scanner
import Mathlib.Data.List.ReduceOption

/-! The texts of JSON: their lexemes, the grammar of documents, and a machine with a stack
of open brackets that accepts exactly the documents. Text is a list of scalar values, and
strings hold UTF-16 units. -/

namespace JsonText

inductive Token where
  | literal
  | number (text : List Nat)
  | string (units : List Nat)
  | openArray
  | closeArray
  | openObject
  | closeObject
  | comma
  | colon
deriving DecidableEq, Repr

/-! ### Lexemes -/

def isSpace (unit : Nat) : Bool := unit == 32 || unit == 9 || unit == 10 || unit == 13

def isDigit (unit : Nat) : Bool := 48 ≤ unit && unit ≤ 57

def hexDigit (unit : Nat) : Option Nat :=
  if 48 ≤ unit ∧ unit ≤ 57 then some (unit - 48)
  else if 65 ≤ unit ∧ unit ≤ 70 then some (unit - 55)
  else if 97 ≤ unit ∧ unit ≤ 102 then some (unit - 87)
  else none

def hexUnit (first second third fourth : Nat) : Option Nat := do
  let first ← hexDigit first
  let second ← hexDigit second
  let third ← hexDigit third
  let fourth ← hexDigit fourth
  return ((first * 16 + second) * 16 + third) * 16 + fourth

def utf16 (scalar : Nat) : List Nat :=
  if scalar < 65536 then [scalar] else [55296 + (scalar - 65536) / 1024, 56320 + (scalar - 65536) % 1024]

/-- What a letter behind a backslash stands for. -/
def escaped (unit : Nat) : Option Nat :=
  if unit = 34 ∨ unit = 92 ∨ unit = 47 then some unit
  else if unit = 98 then some 8
  else if unit = 102 then some 12
  else if unit = 110 then some 10
  else if unit = 114 then some 13
  else if unit = 116 then some 9
  else none

/-- The units of a string up to its quote, and what follows it. -/
def closeString : List Nat → Option (List Nat × List Nat)
  | [] => none
  | 34 :: after => some ([], after)
  | [92] => none
  | 92 :: 117 :: first :: second :: third :: fourth :: rest => do
    let unit ← hexUnit first second third fourth
    let (units, after) ← closeString rest
    return (unit :: units, after)
  | 92 :: unit :: rest => do
    let unit ← escaped unit
    let (units, after) ← closeString rest
    return (unit :: units, after)
  | unit :: rest =>
    if unit < 32 then none else (closeString rest).map fun (units, after) => (utf16 unit ++ units, after)

/-- No leading zeros. -/
def integerPart : List Nat → Option (List Nat × List Nat)
  | [] => none
  | unit :: rest =>
    if unit = 48 then some ([unit], rest)
    else if isDigit unit then some (unit :: rest.takeWhile isDigit, rest.dropWhile isDigit)
    else none

def fractionPart : List Nat → List Nat × List Nat
  | 46 :: unit :: rest =>
    if isDigit unit then (46 :: unit :: rest.takeWhile isDigit, rest.dropWhile isDigit) else ([], 46 :: unit :: rest)
  | text => ([], text)

def exponentPart : List Nat → List Nat × List Nat
  | unit :: rest =>
    let sign := rest.take 1 |>.filter fun next => next = 43 ∨ next = 45
    let digits := (rest.drop sign.length).takeWhile isDigit
    if (unit = 101 ∨ unit = 69) ∧ digits ≠ [] then (unit :: (sign ++ digits), (rest.drop sign.length).dropWhile isDigit)
    else ([], unit :: rest)
  | [] => ([], [])

/-- The longest number at the start of a text. -/
def numeral (text : List Nat) : Option (List Nat × List Nat) := do
  let sign := text.take 1 |>.filter (· = 45)
  let (whole, after) ← integerPart (text.drop sign.length)
  let (fraction, after) := fractionPart after
  let (exponent, after) := exponentPart after
  return (sign ++ whole ++ fraction ++ exponent, after)

/-- A token, or nothing for a blank. -/
def lexeme (unit : Nat) (rest : List Nat) : Option (Option Token × List Nat) :=
  if isSpace unit then some (none, rest)
  else if unit = 91 then some (some .openArray, rest)
  else if unit = 93 then some (some .closeArray, rest)
  else if unit = 123 then some (some .openObject, rest)
  else if unit = 125 then some (some .closeObject, rest)
  else if unit = 44 then some (some .comma, rest)
  else if unit = 58 then some (some .colon, rest)
  else if unit = 34 then (closeString rest).map fun (units, after) => (some (.string units), after)
  else
    match ["true", "false", "null"].findSome? fun name => (unit :: rest).dropPrefix? (name.toList.map Char.toNat) with
    | some after => some (some .literal, after)
    | none => (numeral (unit :: rest)).map fun (text, after) => (some (.number text), after)

def tokens (text : List Nat) : Option (List Token) := (Scanner.scan lexeme text).map List.reduceOption

/-! ### Documents -/

mutual
/-- A value. -/
inductive Value : List Token → Prop
  | literal : Value [.literal]
  | number (text : List Nat) : Value [.number text]
  | string (units : List Nat) : Value [.string units]
  | emptyArray : Value [.openArray, .closeArray]
  | array {items : List Token} (inside : Items items) : Value (.openArray :: (items ++ [.closeArray]))
  | emptyObject : Value [.openObject, .closeObject]
  | object {members : List Token} (inside : Members members) : Value (.openObject :: (members ++ [.closeObject]))

/-- Values between commas. -/
inductive Items : List Token → Prop
  | last {value : List Token} (only : Value value) : Items value
  | more {value items : List Token} (first : Value value) (others : Items items) : Items (value ++ .comma :: items)

/-- Names and values between commas. -/
inductive Members : List Token → Prop
  | last (name : List Nat) {value : List Token} (only : Value value) : Members (.string name :: .colon :: value)
  | more (name : List Nat) {value members : List Token} (first : Value value) (others : Members members) :
      Members (.string name :: .colon :: (value ++ .comma :: members))
end

/-- What the machine waits for: a value, an item or the end of the array, a member or the end of
the object, a name, a colon, or what may stand behind a value. -/
inductive Expect where
  | value | item | member | name | colon | rest
deriving DecidableEq, Repr

/-- A token at which a value begins; the stack holds the open brackets, true for objects. -/
def begun (stack : List Bool) : Token → Option (Expect × List Bool)
  | .literal | .number _ | .string _ => some (.rest, stack)
  | .openArray => some (.item, false :: stack)
  | .openObject => some (.member, true :: stack)
  | _ => none

def step : Expect × List Bool → Token → Option (Expect × List Bool)
  | (.value, stack), token => begun stack token
  | (.item, stack), token =>
    if token = .closeArray then (if stack.head? = some false then some (.rest, stack.tail) else none) else begun stack token
  | (.member, stack), token =>
    match token with
    | .closeObject => if stack.head? = some true then some (.rest, stack.tail) else none
    | .string _ => some (.colon, stack)
    | _ => none
  | (.name, stack), token =>
    match token with
    | .string _ => some (.colon, stack)
    | _ => none
  | (.colon, stack), token => if token = .colon then some (.value, stack) else none
  | (.rest, []), _ => none
  | (.rest, false :: stack), token =>
    match token with
    | .comma => some (.value, false :: stack)
    | .closeArray => some (.rest, stack)
    | _ => none
  | (.rest, true :: stack), token =>
    match token with
    | .comma => some (.name, true :: stack)
    | .closeObject => some (.rest, stack)
    | _ => none

def accepts (tokens : List Token) : Bool := tokens.foldlM step (.value, []) == some (.rest, [])

/-! ### What is accepted is a document -/

/-- What may stand behind a value inside of these brackets. -/
def Rest : List Bool → List Token → Prop
  | [], tokens => tokens = []
  | false :: stack, tokens =>
    (∃ later, tokens = .closeArray :: later ∧ Rest stack later) ∨
      ∃ items later, tokens = .comma :: (items ++ .closeArray :: later) ∧ Items items ∧ Rest stack later
  | true :: stack, tokens =>
    (∃ later, tokens = .closeObject :: later ∧ Rest stack later) ∨
      ∃ members later, tokens = .comma :: (members ++ .closeObject :: later) ∧ Members members ∧ Rest stack later

/-- A value and what stands behind it. -/
def Led (stack : List Bool) (tokens : List Token) : Prop :=
  ∃ value later, tokens = value ++ later ∧ Value value ∧ Rest stack later

/-- What the machine still accepts. -/
def Owed : Expect → List Bool → List Token → Prop
  | .value, stack, tokens => Led stack tokens
  | .item, stack, tokens =>
    (∃ outer later, stack = false :: outer ∧ tokens = .closeArray :: later ∧ Rest outer later) ∨ Led stack tokens
  | .member, stack, tokens =>
    (∃ outer later, stack = true :: outer ∧ tokens = .closeObject :: later ∧ Rest outer later) ∨
      ∃ name more, tokens = .string name :: .colon :: more ∧ Led stack more
  | .name, stack, tokens => ∃ name more, tokens = .string name :: .colon :: more ∧ Led stack more
  | .colon, stack, tokens => ∃ more, tokens = .colon :: more ∧ Led stack more
  | .rest, stack, tokens => Rest stack tokens

theorem items_of_led {stack : List Bool} {tokens : List Token} (led : Led (false :: stack) tokens) :
    ∃ items later, tokens = items ++ .closeArray :: later ∧ Items items ∧ Rest stack later := by
  obtain ⟨value, behind, rfl, isValue, ⟨later, rfl, rest⟩ | ⟨items, later, rfl, areItems, rest⟩⟩ := led
  · exact ⟨value, later, rfl, .last isValue, rest⟩
  · refine ⟨value ++ .comma :: items, later, ?_, .more isValue areItems, rest⟩
    rw [List.append_assoc, List.cons_append]

theorem members_of_led {stack : List Bool} {tokens : List Token} (name : List Nat) (led : Led (true :: stack) tokens) :
    ∃ members later, .string name :: .colon :: tokens = members ++ .closeObject :: later ∧ Members members ∧ Rest stack later := by
  obtain ⟨value, behind, rfl, isValue, ⟨later, rfl, rest⟩ | ⟨members, later, rfl, areMembers, rest⟩⟩ := led
  · exact ⟨_, later, rfl, .last name isValue, rest⟩
  · refine ⟨.string name :: .colon :: (value ++ .comma :: members), later, ?_, .more name isValue areMembers, rest⟩
    simp only [List.cons_append, List.append_assoc]

theorem led_of_begun {stack : List Bool} {token : Token} {rest : List Token} {next : Expect × List Bool}
    (begins : begun stack token = some next) (owed : Owed next.1 next.2 rest) : Led stack (token :: rest) := by
  cases token with
  | literal =>
    obtain rfl := Option.some.inj begins
    exact ⟨[.literal], rest, rfl, .literal, owed⟩
  | number text =>
    obtain rfl := Option.some.inj begins
    exact ⟨[.number text], rest, rfl, .number text, owed⟩
  | string units =>
    obtain rfl := Option.some.inj begins
    exact ⟨[.string units], rest, rfl, .string units, owed⟩
  | openArray =>
    obtain rfl := Option.some.inj begins
    obtain ⟨outer, later, same, rfl, behind⟩ | led := owed
    · obtain rfl := (List.cons.inj same).2
      exact ⟨[.openArray, .closeArray], later, rfl, .emptyArray, behind⟩
    · obtain ⟨items, later, rfl, areItems, behind⟩ := items_of_led led
      refine ⟨.openArray :: (items ++ [.closeArray]), later, ?_, .array areItems, behind⟩
      rw [List.cons_append, List.append_assoc, List.singleton_append]
  | openObject =>
    obtain rfl := Option.some.inj begins
    obtain ⟨outer, later, same, rfl, behind⟩ | ⟨name, more, rfl, led⟩ := owed
    · obtain rfl := (List.cons.inj same).2
      exact ⟨[.openObject, .closeObject], later, rfl, .emptyObject, behind⟩
    · obtain ⟨members, later, same, areMembers, behind⟩ := members_of_led name led
      refine ⟨.openObject :: (members ++ [.closeObject]), later, ?_, .object areMembers, behind⟩
      rw [same, List.cons_append, List.append_assoc, List.singleton_append]
  | closeArray | closeObject | comma | colon => cases begins

/-- One token of what a state still accepts. -/
theorem owed_step {state next : Expect × List Bool} {token : Token} {rest : List Token} (steps : step state token = some next)
    (owed : Owed next.1 next.2 rest) : Owed state.1 state.2 (token :: rest) := by
  obtain ⟨expect, stack⟩ := state
  cases expect with
  | value => exact led_of_begun steps owed
  | item =>
    rw [step] at steps
    split at steps
    next closes =>
      split at steps
      next inside =>
        obtain rfl := Option.some.inj steps
        obtain ⟨outer, rfl⟩ := List.head?_eq_some_iff.mp inside
        exact .inl ⟨outer, rest, rfl, by rw [closes], owed⟩
      next => cases steps
    next => exact .inr (led_of_begun steps owed)
  | member =>
    cases token with
    | closeObject =>
      rw [step] at steps
      split at steps
      next inside =>
        obtain rfl := Option.some.inj steps
        obtain ⟨outer, rfl⟩ := List.head?_eq_some_iff.mp inside
        exact .inl ⟨outer, rest, rfl, rfl, owed⟩
      next => cases steps
    | string units =>
      obtain rfl := Option.some.inj steps
      obtain ⟨more, rfl, led⟩ := owed
      exact .inr ⟨units, more, rfl, led⟩
    | literal | number | openArray | closeArray | openObject | comma | colon => cases steps
  | name =>
    cases token with
    | string units =>
      obtain rfl := Option.some.inj steps
      obtain ⟨more, rfl, led⟩ := owed
      exact ⟨units, more, rfl, led⟩
    | literal | number | openArray | closeArray | openObject | closeObject | comma | colon => cases steps
  | colon =>
    rw [step] at steps
    split at steps
    next colon =>
      obtain rfl := Option.some.inj steps
      exact ⟨rest, by rw [colon], owed⟩
    next => cases steps
  | rest =>
    cases stack with
    | nil => cases steps
    | cons inner stack =>
      cases inner with
      | false =>
        cases token with
        | comma =>
          obtain rfl := Option.some.inj steps
          obtain ⟨items, later, rfl, areItems, behind⟩ := items_of_led owed
          exact .inr ⟨items, later, rfl, areItems, behind⟩
        | closeArray =>
          obtain rfl := Option.some.inj steps
          exact .inl ⟨rest, rfl, owed⟩
        | literal | number | string | openArray | openObject | closeObject | colon => cases steps
      | true =>
        cases token with
        | comma =>
          obtain rfl := Option.some.inj steps
          obtain ⟨name, more, rfl, led⟩ := owed
          obtain ⟨members, later, same, areMembers, behind⟩ := members_of_led name led
          exact .inr ⟨members, later, by rw [same], areMembers, behind⟩
        | closeObject =>
          obtain rfl := Option.some.inj steps
          exact .inl ⟨rest, rfl, owed⟩
        | literal | number | string | openArray | openObject | closeArray | colon => cases steps

theorem owed_run {state : Expect × List Bool} {tokens : List Token} (runs : tokens.foldlM step state = some (.rest, [])) :
    Owed state.1 state.2 tokens := by
  induction tokens generalizing state with
  | nil =>
    obtain rfl := Option.some.inj runs
    exact rfl
  | cons token tokens ih =>
    rw [List.foldlM_cons] at runs
    obtain ⟨next, steps, later⟩ := Option.bind_eq_some_iff.mp runs
    exact owed_step steps (ih later)

/-! ### Every document is accepted -/

theorem value_starts {value : List Token} (isValue : Value value) :
    ∃ token rest, value = token :: rest ∧ token ≠ .closeArray := by
  cases isValue <;> exact ⟨_, _, rfl, nofun⟩

theorem items_start {items : List Token} (areItems : Items items) : ∃ token rest, items = token :: rest ∧ token ≠ .closeArray := by
  cases areItems with
  | last only => exact value_starts only
  | more first others =>
    obtain ⟨token, rest, rfl, opens⟩ := value_starts first
    exact ⟨token, _, rfl, opens⟩

theorem item_run {items : List Token} (areItems : Items items) (stack : List Bool) (later : List Token) :
    (items ++ later).foldlM step (.item, stack) = (items ++ later).foldlM step (.value, stack) := by
  obtain ⟨token, rest, rfl, opens⟩ := items_start areItems
  have same : step (.item, stack) token = step (.value, stack) token := if_neg opens
  rw [List.cons_append, List.foldlM_cons, List.foldlM_cons, same]

theorem member_run {members : List Token} (areMembers : Members members) (stack : List Bool) (later : List Token) :
    (members ++ later).foldlM step (.member, stack) = (members ++ later).foldlM step (.name, stack) := by
  cases areMembers <;> rfl

mutual
theorem value_run {value : List Token} (isValue : Value value) (stack : List Bool) (later : List Token) :
    (value ++ later).foldlM step (.value, stack) = later.foldlM step (.rest, stack) :=
  match isValue with
  | .literal | .number _ | .string _ | .emptyArray | .emptyObject => rfl
  | .array inside => by
    rw [List.cons_append, List.append_assoc, List.foldlM_cons]
    exact (item_run inside (false :: stack) _).trans (items_run inside stack later)
  | .object inside => by
    rw [List.cons_append, List.append_assoc, List.foldlM_cons]
    exact (member_run inside (true :: stack) _).trans (members_run inside stack later)

theorem items_run {items : List Token} (areItems : Items items) (stack : List Bool) (later : List Token) :
    (items ++ ([Token.closeArray] ++ later)).foldlM step (.value, false :: stack) = later.foldlM step (.rest, stack) :=
  match areItems with
  | .last only => value_run only (false :: stack) _
  | .more first others => by
    rw [List.append_assoc]
    exact (value_run first (false :: stack) _).trans (items_run others stack later)

theorem members_run {members : List Token} (areMembers : Members members) (stack : List Bool) (later : List Token) :
    (members ++ ([Token.closeObject] ++ later)).foldlM step (.name, true :: stack) = later.foldlM step (.rest, stack) :=
  match areMembers with
  | .last name only => value_run only (true :: stack) _
  | .more name first others => by
    rw [List.cons_append, List.cons_append, List.append_assoc]
    exact (value_run first (true :: stack) _).trans (members_run others stack later)
end

/-- The machine accepts the documents. -/
theorem accepts_iff (tokens : List Token) : accepts tokens = true ↔ Value tokens := by
  rw [accepts, beq_iff_eq]
  constructor
  · intro runs
    obtain ⟨value, later, rfl, isValue, ended⟩ := owed_run runs
    rw [Rest] at ended
    rw [ended, List.append_nil]
    exact isValue
  · intro isValue
    have runs := value_run isValue [] []
    rw [List.append_nil] at runs
    exact runs

/-! ### What limits look at -/

/-- The greatest number of brackets that are open at once. -/
def deepest : Nat → List Token → Nat
  | depth, [] => depth
  | depth, token :: tokens =>
    max depth (deepest
      (match token with
      | .openArray | .openObject => depth + 1
      | .closeArray | .closeObject => depth - 1
      | _ => depth) tokens)

/-- No surrogate without its other half. -/
def paired : List Nat → Bool
  | [] => true
  | unit :: rest =>
    if 55296 ≤ unit ∧ unit < 56320 then
      match rest with
      | [] => false
      | low :: later => decide (56320 ≤ low ∧ low < 57344) && paired later
    else !decide (56320 ≤ unit ∧ unit < 57344) && paired rest

end JsonText
