import Pipa.Library.JsonLexemes
import Mathlib.Data.List.Nodup

/-! The values of JSON documents. Numbers keep their text, and the members of an object
their order and their duplicates. -/

namespace JsonText

inductive Json where
  | null
  | boolean (value : Bool)
  | number (text : List Nat)
  | string (units : List Nat)
  | array (items : List Json)
  | object (members : List (List Nat × Json))

/-- The value of the last member with a name. -/
def Json.member (name : List Nat) : Json → Option Json
  | .object members => members.reverse.lookup name
  | _ => none

/-- The value of a lexeme that is a document alone. -/
def scalar (written : Lexeme) : Option Json :=
  match written.token with
  | .literal =>
    if written.text = [116, 114, 117, 101] then some (.boolean true)
    else if written.text = [102, 97, 108, 115, 101] then some (.boolean false)
    else some .null
  | .number text => some (.number text)
  | .string units => some (.string units)
  | _ => none

/-! ### Parsing -/

abbrev Parser (α : Type) := List Lexeme → Option (α × List Lexeme)

/-- One or more items up to a closing bracket. -/
def sequence {α : Type} (closing : Token) (item : Parser α) : Nat → Parser (List α)
  | 0, _ => none
  | fuel + 1, read =>
    (item read).bind fun first =>
      match first.2 with
      | [] => none
      | next :: rest =>
        if next.token = .comma then (sequence closing item fuel rest).map fun others => (first.1 :: others.1, others.2)
        else if next.token = closing then some ([first.1], rest)
        else none

/-- A name, a colon and a value. -/
def memberOf (value : Parser Json) : Parser (List Nat × Json)
  | name :: colon :: rest =>
    match name.token with
    | .string units => if colon.token = .colon then (value rest).map fun found => ((units, found.1), found.2) else none
    | _ => none
  | _ => none

def value : Nat → Parser Json
  | 0, _ => none
  | _, [] => none
  | fuel + 1, first :: rest =>
    match first.token with
    | .openArray =>
      if rest.head?.any (·.token = .closeArray) then some (.array [], rest.tail)
      else (sequence .closeArray (value fuel) (rest.length + 1) rest).map fun found => (.array found.1, found.2)
    | .openObject =>
      if rest.head?.any (·.token = .closeObject) then some (.object [], rest.tail)
      else (sequence .closeObject (memberOf (value fuel)) (rest.length + 1) rest).map fun found => (.object found.1, found.2)
    | _ => (scalar first).map fun found => (found, rest)

example (fuel : Nat) : value fuel [] = none := by cases fuel <;> simp [value]

/-- The value of a text that is one document. -/
def parse (text : List Nat) : Option Json :=
  (lexemes text).bind fun written =>
    (value (written.length + 1) written).bind fun found => if found.2 = [] then some found.1 else none

/-! ### What the lexemes of a document mean -/

mutual
/-- These lexemes are a document with this value. -/
inductive Means : List Lexeme → Json → Prop
  | scalar {first : Lexeme} {found : Json} (read : scalar first = some found) : Means [first] found
  | emptyArray {first last : Lexeme} (opens : first.token = .openArray) (closes : last.token = .closeArray) :
      Means [first, last] (.array [])
  | array {first last : Lexeme} {items : List Lexeme} {values : List Json} (opens : first.token = .openArray)
      (inside : ItemsMean items values) (closes : last.token = .closeArray) : Means (first :: (items ++ [last])) (.array values)
  | emptyObject {first last : Lexeme} (opens : first.token = .openObject) (closes : last.token = .closeObject) :
      Means [first, last] (.object [])
  | object {first last : Lexeme} {members : List Lexeme} {values : List (List Nat × Json)} (opens : first.token = .openObject)
      (inside : MembersMean members values) (closes : last.token = .closeObject) :
      Means (first :: (members ++ [last])) (.object values)

/-- Values between commas. -/
inductive ItemsMean : List Lexeme → List Json → Prop
  | last {written : List Lexeme} {found : Json} (only : Means written found) : ItemsMean written [found]
  | more {written items : List Lexeme} {comma : Lexeme} {found : Json} {values : List Json} (first : Means written found)
      (isComma : comma.token = .comma) (others : ItemsMean items values) : ItemsMean (written ++ comma :: items) (found :: values)

/-- Names and values between commas. -/
inductive MembersMean : List Lexeme → List (List Nat × Json) → Prop
  | last {name colon : Lexeme} {units : List Nat} {written : List Lexeme} {found : Json} (isName : name.token = .string units)
      (isColon : colon.token = .colon) (only : Means written found) : MembersMean (name :: colon :: written) [(units, found)]
  | more {name colon comma : Lexeme} {units : List Nat} {written members : List Lexeme} {found : Json}
      {values : List (List Nat × Json)} (isName : name.token = .string units) (isColon : colon.token = .colon)
      (first : Means written found) (isComma : comma.token = .comma) (others : MembersMean members values) :
      MembersMean (name :: colon :: (written ++ comma :: members)) ((units, found) :: values)
end

theorem scalar_kind {first : Lexeme} {found : Json} (read : scalar first = some found) :
    first.token ≠ .openArray ∧ first.token ≠ .openObject ∧ first.token ≠ .closeArray ∧ first.token ≠ .closeObject := by
  rw [scalar] at read
  refine ⟨?_, ?_, ?_, ?_⟩
  all_goals
    intro same
    rw [same] at read
    cases read

theorem means_start {written : List Lexeme} {found : Json} (means : Means written found) :
    ∃ first rest, written = first :: rest ∧ first.token ≠ .closeArray := by
  cases means with
  | scalar read => exact ⟨_, _, rfl, (scalar_kind read).2.2.1⟩
  | emptyArray opens closes | array opens inside closes | emptyObject opens closes | object opens inside closes =>
    refine ⟨_, _, rfl, ?_⟩
    rw [opens]
    exact Token.noConfusion

theorem itemsMean_start {items : List Lexeme} {values : List Json} (inside : ItemsMean items values) :
    ∃ first rest, items = first :: rest ∧ first.token ≠ .closeArray := by
  cases inside with
  | last only => exact means_start only
  | more head isComma others =>
    obtain ⟨first, rest, rfl, starts⟩ := means_start head
    exact ⟨first, _, rfl, starts⟩

theorem membersMean_start {members : List Lexeme} {values : List (List Nat × Json)} (inside : MembersMean members values) :
    ∃ first rest, members = first :: rest ∧ first.token ≠ .closeObject := by
  cases inside with
  | last isName isColon only | more isName isColon first isComma others =>
    refine ⟨_, _, rfl, ?_⟩
    rw [isName]
    exact Token.noConfusion

section Sequence
variable {α : Type} {closing : Token} {item : Parser α} {steps : Nat} {first : α} {read rest : List Lexeme}

theorem sequence_more {comma : Lexeme} (here : item read = some (first, comma :: rest)) (isComma : comma.token = .comma) :
    sequence closing item (steps + 1) read =
      (sequence closing item steps rest).map fun others => (first :: others.1, others.2) := by
  rw [sequence, here]
  exact if_pos isComma

theorem sequence_last {last : Lexeme} (here : item read = some (first, last :: rest)) (closes : last.token = closing)
    (other : closing ≠ .comma) : sequence closing item (steps + 1) read = some ([first], rest) := by
  rw [sequence, here]
  change (if last.token = .comma then _ else _) = _
  rw [if_neg (closes ▸ other), if_pos closes]

end Sequence

theorem memberOf_read {item : Parser Json} {name colon : Lexeme} {units : List Nat} {read rest : List Lexeme} {found : Json}
    (isName : name.token = .string units) (isColon : colon.token = .colon) (here : item read = some (found, rest)) :
    memberOf item (name :: colon :: read) = some ((units, found), rest) := by
  simp only [memberOf, isName, if_pos isColon, here]
  rfl

section Value
variable {fuel : Nat} {first last : Lexeme} {rest after : List Lexeme}

theorem value_scalar {found : Json} (read : scalar first = some found) : value (fuel + 1) (first :: rest) = some (found, rest) := by
  obtain ⟨noArray, noObject, -, -⟩ := scalar_kind read
  rw [value]
  split
  next opens => exact absurd opens noArray
  next opens => exact absurd opens noObject
  next =>
    rw [read]
    rfl

theorem value_emptyArray (opens : first.token = .openArray) (closes : last.token = .closeArray) :
    value (fuel + 1) (first :: last :: rest) = some (.array [], rest) := by
  rw [value, opens]
  simp [closes]

theorem value_emptyObject (opens : first.token = .openObject) (closes : last.token = .closeObject) :
    value (fuel + 1) (first :: last :: rest) = some (.object [], rest) := by
  rw [value, opens]
  simp [closes]

theorem value_array {items : List Lexeme} {values : List Json} (opens : first.token = .openArray) (inside : ItemsMean items values)
    (read : sequence .closeArray (value fuel) ((items ++ rest).length + 1) (items ++ rest) = some (values, after)) :
    value (fuel + 1) (first :: (items ++ rest)) = some (.array values, after) := by
  obtain ⟨next, more, rfl, other⟩ := itemsMean_start inside
  rw [List.cons_append] at read ⊢
  rw [value, opens]
  simp only [List.head?_cons, Option.any_some, other, decide_false]
  rw [read]
  rfl

theorem value_object {members : List Lexeme} {values : List (List Nat × Json)} (opens : first.token = .openObject)
    (inside : MembersMean members values) (read : sequence .closeObject (memberOf (value fuel)) ((members ++ rest).length + 1)
      (members ++ rest) = some (values, after)) : value (fuel + 1) (first :: (members ++ rest)) = some (.object values, after) := by
  obtain ⟨next, more, rfl, other⟩ := membersMean_start inside
  rw [List.cons_append] at read ⊢
  rw [value, opens]
  simp only [List.head?_cons, Option.any_some, other, decide_false]
  rw [read]
  rfl

end Value

theorem exists_succ {fuel size : Nat} (enough : size + 1 ≤ fuel) : ∃ less, fuel = less + 1 ∧ size ≤ less :=
  ⟨fuel - 1, by omega, by omega⟩

mutual
/-- The parser reads the value of a document, whatever comes behind. -/
theorem Means.reads {written : List Lexeme} {found : Json} (means : Means written found) {fuel : Nat} (enough : written.length ≤ fuel)
    (rest : List Lexeme) : value fuel (written ++ rest) = some (found, rest) :=
  match means with
  | .scalar read => by
    obtain ⟨fuel, rfl, -⟩ := exists_succ enough
    exact value_scalar read
  | .emptyArray opens closes => by
    obtain ⟨fuel, rfl, -⟩ := exists_succ enough
    exact value_emptyArray opens closes
  | .array opens inside closes => by
    obtain ⟨fuel, rfl, less⟩ := exists_succ enough
    rw [List.length_append, List.length_singleton] at less
    rw [List.cons_append, List.append_assoc]
    refine value_array opens inside (inside.reads (Nat.le_of_succ_le less) ?_ closes rest)
    rw [List.length_append]
    omega
  | .emptyObject opens closes => by
    obtain ⟨fuel, rfl, -⟩ := exists_succ enough
    exact value_emptyObject opens closes
  | .object opens inside closes => by
    obtain ⟨fuel, rfl, less⟩ := exists_succ enough
    rw [List.length_append, List.length_singleton] at less
    rw [List.cons_append, List.append_assoc]
    refine value_object opens inside (inside.reads (Nat.le_of_succ_le less) ?_ closes rest)
    rw [List.length_append]
    omega

theorem ItemsMean.reads {items : List Lexeme} {values : List Json} (inside : ItemsMean items values) {fuel steps : Nat}
    (enough : items.length ≤ fuel) (enough' : items.length ≤ steps) {last : Lexeme} (closes : last.token = .closeArray)
    (rest : List Lexeme) : sequence .closeArray (value fuel) steps (items ++ last :: rest) = some (values, rest) :=
  match inside with
  | .last only => by
    obtain ⟨first, more, shape, -⟩ := means_start only
    rw [shape, List.length_cons] at enough'
    obtain ⟨steps, rfl, -⟩ := exists_succ enough'
    exact sequence_last (only.reads enough _) closes Token.noConfusion
  | .more first isComma others => by
    rw [List.length_append, List.length_cons] at enough enough'
    obtain ⟨steps, rfl, less⟩ := exists_succ enough'
    have here := first.reads (Nat.le_of_add_right_le enough)
    have later := @ItemsMean.reads _ _ others fuel steps (by omega) (Nat.le_of_add_left_le less) _ closes rest
    rw [List.append_assoc, List.cons_append, sequence_more (here _) isComma, later]
    rfl

theorem MembersMean.reads {members : List Lexeme} {values : List (List Nat × Json)} (inside : MembersMean members values)
    {fuel steps : Nat} (enough : members.length ≤ fuel) (enough' : members.length ≤ steps) {last : Lexeme}
    (closes : last.token = .closeObject) (rest : List Lexeme) :
    sequence .closeObject (memberOf (value fuel)) steps (members ++ last :: rest) = some (values, rest) :=
  match inside with
  | .last isName isColon only => by
    rw [List.length_cons, List.length_cons] at enough enough'
    obtain ⟨steps, rfl, less⟩ := exists_succ enough'
    have here := only.reads (Nat.le_of_add_right_le (Nat.le_of_add_right_le enough))
    exact sequence_last (memberOf_read isName isColon (here _)) closes Token.noConfusion
  | .more isName isColon first isComma others => by
    rw [List.length_cons, List.length_cons, List.length_append, List.length_cons] at enough enough'
    obtain ⟨steps, rfl, less⟩ := exists_succ enough'
    have here := @Means.reads _ _ first fuel (by omega)
    have later := @MembersMean.reads _ _ others fuel steps (by omega) (by omega) _ closes rest
    rw [List.cons_append, List.cons_append, List.append_assoc, List.cons_append,
      sequence_more (memberOf_read isName isColon (here _)) isComma, later]
    rfl
end

/-- A text with the lexemes of a document is parsed as its value. -/
theorem parse_of_means {text : List Nat} {written : List Lexeme} {found : Json} (read : lexemes text = some written)
    (means : Means written found) : parse text = some found := by
  have whole := means.reads (Nat.le_succ _) []
  rw [List.append_nil] at whole
  rw [parse, read, Option.bind_some, whole]
  rfl

/-! ### Every document has a value -/

theorem scalar_some {first : Lexeme} (kind : first.token = .literal ∨ (∃ text, first.token = .number text) ∨
    ∃ units, first.token = .string units) : ∃ found, scalar first = some found := by
  rw [scalar]
  obtain same | ⟨text, same⟩ | ⟨units, same⟩ := kind
  · rw [same]
    simp only
    split
    · exact ⟨_, rfl⟩
    split
    · exact ⟨_, rfl⟩
    · exact ⟨_, rfl⟩
  · rw [same]
    exact ⟨_, rfl⟩
  · rw [same]
    exact ⟨_, rfl⟩

mutual
theorem Value.means {tokens : List Token} (isValue : Value tokens) {written : List Lexeme} (same : written.map (·.token) = tokens) :
    ∃ found, Means written found :=
  match isValue with
  | .literal => by
    obtain ⟨first, _, rfl, kind, ended⟩ := List.map_eq_cons_iff.mp same
    obtain rfl := List.map_eq_nil_iff.mp ended
    obtain ⟨found, read⟩ := scalar_some (.inl kind)
    exact ⟨found, .scalar read⟩
  | .number text => by
    obtain ⟨first, _, rfl, kind, ended⟩ := List.map_eq_cons_iff.mp same
    obtain rfl := List.map_eq_nil_iff.mp ended
    obtain ⟨found, read⟩ := scalar_some (.inr (.inl ⟨text, kind⟩))
    exact ⟨found, .scalar read⟩
  | .string units => by
    obtain ⟨first, _, rfl, kind, ended⟩ := List.map_eq_cons_iff.mp same
    obtain rfl := List.map_eq_nil_iff.mp ended
    obtain ⟨found, read⟩ := scalar_some (.inr (.inr ⟨units, kind⟩))
    exact ⟨found, .scalar read⟩
  | .emptyArray => by
    obtain ⟨first, _, rfl, opens, behind⟩ := List.map_eq_cons_iff.mp same
    obtain ⟨last, _, rfl, closes, ended⟩ := List.map_eq_cons_iff.mp behind
    obtain rfl := List.map_eq_nil_iff.mp ended
    exact ⟨_, .emptyArray opens closes⟩
  | .array inside => by
    obtain ⟨first, _, rfl, opens, behind⟩ := List.map_eq_cons_iff.mp same
    obtain ⟨items, _, rfl, areItems, closing⟩ := List.map_eq_append_iff.mp behind
    obtain ⟨last, _, rfl, closes, ended⟩ := List.map_eq_cons_iff.mp closing
    obtain rfl := List.map_eq_nil_iff.mp ended
    obtain ⟨values, mean⟩ := inside.means areItems
    exact ⟨_, .array opens mean closes⟩
  | .emptyObject => by
    obtain ⟨first, _, rfl, opens, behind⟩ := List.map_eq_cons_iff.mp same
    obtain ⟨last, _, rfl, closes, ended⟩ := List.map_eq_cons_iff.mp behind
    obtain rfl := List.map_eq_nil_iff.mp ended
    exact ⟨_, .emptyObject opens closes⟩
  | .object inside => by
    obtain ⟨first, _, rfl, opens, behind⟩ := List.map_eq_cons_iff.mp same
    obtain ⟨members, _, rfl, areMembers, closing⟩ := List.map_eq_append_iff.mp behind
    obtain ⟨last, _, rfl, closes, ended⟩ := List.map_eq_cons_iff.mp closing
    obtain rfl := List.map_eq_nil_iff.mp ended
    obtain ⟨values, mean⟩ := inside.means areMembers
    exact ⟨_, .object opens mean closes⟩

theorem Items.means {tokens : List Token} (areItems : Items tokens) {written : List Lexeme} (same : written.map (·.token) = tokens) :
    ∃ values, ItemsMean written values :=
  match areItems with
  | .last only => by
    obtain ⟨found, means⟩ := only.means same
    exact ⟨_, .last means⟩
  | .more first others => by
    obtain ⟨front, _, rfl, isFirst, behind⟩ := List.map_eq_append_iff.mp same
    obtain ⟨comma, rest, rfl, isComma, later⟩ := List.map_eq_cons_iff.mp behind
    obtain ⟨found, means⟩ := first.means isFirst
    obtain ⟨values, mean⟩ := others.means later
    exact ⟨_, .more means isComma mean⟩

theorem Members.means {tokens : List Token} (areMembers : Members tokens) {written : List Lexeme}
    (same : written.map (·.token) = tokens) : ∃ values, MembersMean written values :=
  match areMembers with
  | .last units only => by
    obtain ⟨name, _, rfl, isName, behind⟩ := List.map_eq_cons_iff.mp same
    obtain ⟨colon, rest, rfl, isColon, later⟩ := List.map_eq_cons_iff.mp behind
    obtain ⟨found, means⟩ := only.means later
    exact ⟨_, .last isName isColon means⟩
  | .more units first others => by
    obtain ⟨name, _, rfl, isName, behind⟩ := List.map_eq_cons_iff.mp same
    obtain ⟨colon, _, rfl, isColon, later⟩ := List.map_eq_cons_iff.mp behind
    obtain ⟨front, _, rfl, isFirst, behind'⟩ := List.map_eq_append_iff.mp later
    obtain ⟨comma, rest, rfl, isComma, later'⟩ := List.map_eq_cons_iff.mp behind'
    obtain ⟨found, means⟩ := first.means isFirst
    obtain ⟨values, mean⟩ := others.means later'
    exact ⟨_, .more isName isColon means isComma mean⟩
end

/-! ### What is read is a document -/

theorem scalar_value {first : Lexeme} {found : Json} (read : scalar first = some found) : Value [first.token] := by
  rw [scalar] at read
  split at read
  next same =>
    rw [same]
    exact .literal
  next text same =>
    rw [same]
    exact .number text
  next units same =>
    rw [same]
    exact .string units
  next => cases read

mutual
theorem Means.value {written : List Lexeme} {found : Json} (means : Means written found) : Value (written.map (·.token)) :=
  match means with
  | .scalar read => scalar_value read
  | .emptyArray opens closes => by
    rw [List.map_cons, List.map_singleton, opens, closes]
    exact .emptyArray
  | .array opens inside closes => by
    rw [List.map_cons, List.map_append, List.map_singleton, opens, closes]
    exact .array inside.items
  | .emptyObject opens closes => by
    rw [List.map_cons, List.map_singleton, opens, closes]
    exact .emptyObject
  | .object opens inside closes => by
    rw [List.map_cons, List.map_append, List.map_singleton, opens, closes]
    exact .object inside.members

theorem ItemsMean.items {items : List Lexeme} {values : List Json} (inside : ItemsMean items values) :
    Items (items.map (·.token)) :=
  match inside with
  | .last only => .last only.value
  | .more first isComma others => by
    rw [List.map_append, List.map_cons, isComma]
    exact .more first.value others.items

theorem MembersMean.members {members : List Lexeme} {values : List (List Nat × Json)} (inside : MembersMean members values) :
    Members (members.map (·.token)) :=
  match inside with
  | .last isName isColon only => by
    rw [List.map_cons, List.map_cons, isName, isColon]
    exact .last _ only.value
  | .more isName isColon first isComma others => by
    rw [List.map_cons, List.map_cons, List.map_append, List.map_cons, isName, isColon, isComma]
    exact .more _ first.value others.members
end

/-! ### Arrays and objects as they are written -/

def comma : Lexeme := ⟨.comma, [44]⟩

def colon : Lexeme := ⟨.colon, [58]⟩

def arrayOf (items : List (List Lexeme)) : List Lexeme := ⟨.openArray, [91]⟩ :: ([comma].intercalate items ++ [⟨.closeArray, [93]⟩])

def objectOf (members : List (List Lexeme)) : List Lexeme :=
  ⟨.openObject, [123]⟩ :: ([comma].intercalate members ++ [⟨.closeObject, [125]⟩])

theorem means_arrayOf {items : List (List Lexeme)} {values : List Json} (each : List.Forall₂ Means items values)
    (nonempty : items ≠ []) : Means (arrayOf items) (.array values) := by
  refine .array rfl ?_ rfl
  induction each with
  | nil => exact absurd rfl nonempty
  | @cons written found items values first others ih =>
    cases others with
    | nil =>
      rw [List.intercalate_singleton]
      exact .last first
    | cons second others =>
      rw [List.intercalate_cons_cons, List.append_assoc]
      exact .more first rfl (ih (List.cons_ne_nil _ _))

/-- A name and the lexemes of its value. -/
structure MemberMeans (written : List Lexeme) (member : List Nat × Json) : Prop where
  split : ∃ name colon value, written = name :: colon :: value ∧ name.token = .string member.1 ∧ colon.token = .colon ∧
    Means value member.2

theorem means_objectOf {members : List (List Lexeme)} {values : List (List Nat × Json)}
    (each : List.Forall₂ MemberMeans members values) (nonempty : members ≠ []) : Means (objectOf members) (.object values) := by
  refine .object rfl ?_ rfl
  induction each with
  | nil => exact absurd rfl nonempty
  | @cons written found members values first others ih =>
    obtain ⟨name, colon, value, rfl, isName, isColon, means⟩ := first.split
    cases others with
    | nil =>
      rw [List.intercalate_singleton]
      exact .last isName isColon means
    | cons second others =>
      rw [List.intercalate_cons_cons, List.append_assoc]
      exact .more isName isColon means rfl (ih (List.cons_ne_nil _ _))

/-- Where names are distinct, a member is found by its name. -/
theorem member_of_nodup {members : List (List Nat × Json)} (distinct : (members.map Prod.fst).Nodup) {name : List Nat} {found : Json}
    (inside : (name, found) ∈ members) : (Json.object members).member name = some found := by
  have reversed : (members.reverse.map Prod.fst).Nodup := by
    rw [List.map_reverse]
    exact List.nodup_reverse.mpr distinct
  have inside' := List.mem_reverse.mpr inside
  rw [Json.member]
  generalize members.reverse = listed at reversed inside'
  induction listed with
  | nil => cases inside'
  | cons first listed ih =>
    obtain ⟨other, value⟩ := first
    obtain ⟨fresh, later⟩ := List.nodup_cons.mp reversed
    obtain same | behind := List.mem_cons.mp inside'
    · cases same
      rw [List.lookup_cons_self]
    · have different : (name == other) = false := by
        rw [beq_eq_false_iff_ne]
        rintro rfl
        exact fresh (List.mem_map.mpr ⟨(name, found), behind, rfl⟩)
      rw [List.lookup_cons, different]
      exact ih later behind

end JsonText
