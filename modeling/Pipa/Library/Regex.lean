import Mathlib.Data.List.Forall2

/-! Regular expressions with backtracking: every way to match, in order of preference.
Assertions see the character before a position and those ahead of it. -/

inductive Regex where
  | empty
  | char (test : Char → Bool)
  | seq (first second : Regex)
  | alt (first second : Regex)
  | star (inner : Regex)
  | start
  | finish
  | boundary (isWord : Char → Bool)
  | notAhead (test : Char → Bool)

namespace Regex

/-- A place in a text: the characters before it, the last one first, and those ahead. -/
structure Position where
  before : List Char
  ahead : List Char
deriving DecidableEq, Repr

def begin (text : List Char) : Position := ⟨[], text⟩

def optional (inner : Regex) : Regex := alt inner empty

def plus (inner : Regex) : Regex := seq inner (star inner)

def all (parts : List Regex) : Regex := parts.foldr seq empty

/-- The first alternative is preferred. -/
def any : List Regex → Regex
  | [] => char fun _ => false
  | [part] => part
  | part :: parts => alt part (any parts)

/-- Each character of the text under a test of its own. -/
def spelled (test : Char → Char → Bool) (text : String) : Regex := all (text.toList.map fun c => char (test c))

/-- As many rounds as possible are preferred, and every round takes something. -/
def iterate (round : Position → List Position) : Nat → Position → List Position
  | 0, position => [position]
  | fuel + 1, position =>
    ((round position).filter fun next => decide (next.ahead.length < position.ahead.length)).flatMap (iterate round fuel) ++
      [position]

/-- Where a match from a position may end. -/
def run : Regex → Position → List Position
  | empty, position => [position]
  | char test, position =>
    match position.ahead with
    | c :: rest => if test c then [⟨c :: position.before, rest⟩] else []
    | [] => []
  | seq first second, position => (run first position).flatMap (run second)
  | alt first second, position => run first position ++ run second position
  | star inner, position => iterate (run inner) position.ahead.length position
  | start, position => if position.before = [] then [position] else []
  | finish, position => if position.ahead = [] then [position] else []
  | boundary isWord, position =>
    if position.before.head?.any isWord ≠ position.ahead.head?.any isWord then [position] else []
  | notAhead test, position => if position.ahead.head?.any test then [] else [position]

/-- Every position of a text from here on. -/
def positions (before : List Char) : List Char → List Position
  | [] => [⟨before, []⟩]
  | c :: rest => ⟨before, c :: rest⟩ :: positions (c :: before) rest

def isMatch (regex : Regex) (text : List Char) : Bool := (positions [] text).any fun position => !(run regex position).isEmpty

/-- The text between two positions. -/
def between (first last : Position) : List Char := first.ahead.take (first.ahead.length - last.ahead.length)

/-- What a group matches in the first match of it behind a prefix. -/
def capture (leading group : Regex) (text : List Char) : Option (List Char) :=
  ((positions [] text).flatMap fun position =>
    (run leading position).flatMap fun first => (run group first).map fun last => between first last).head?

/-- Every way to match some parts one behind the other, with what each of them matches. -/
def captures : List Regex → Position → List (List (List Char))
  | [], _ => [[]]
  | part :: parts, position => (run part position).flatMap fun next => (captures parts next).map (between position next :: ·)

/-- Every match that takes something is removed, from left to right. -/
def removeFrom (regex : Regex) : Nat → Position → List Char
  | 0, position => position.ahead
  | fuel + 1, position =>
    match (run regex position).head?.filter fun next => decide (next.ahead.length < position.ahead.length) with
    | some next => removeFrom regex fuel next
    | none =>
      match position.ahead with
      | [] => []
      | c :: rest => c :: removeFrom regex fuel ⟨c :: position.before, rest⟩

def removeAll (regex : Regex) (text : List Char) : List Char := removeFrom regex (text.length + 1) (begin text)

/-! ### The words of an expression -/

/-- A word of the language, whatever the assertions say. -/
inductive Spells : Regex → List Char → Prop
  | empty : Spells empty []
  | char {test : Char → Bool} {c : Char} (passes : test c = true) : Spells (char test) [c]
  | seq {first second : Regex} {left right : List Char} (former : Spells first left) (latter : Spells second right) :
      Spells (seq first second) (left ++ right)
  | left {first second : Regex} {word : List Char} (former : Spells first word) : Spells (alt first second) word
  | right {first second : Regex} {word : List Char} (latter : Spells second word) : Spells (alt first second) word
  | done (inner : Regex) : Spells (star inner) []
  | round {inner : Regex} {word rest : List Char} (once : Spells inner word) (more : Spells (star inner) rest) :
      Spells (star inner) (word ++ rest)
  | start : Spells start []
  | finish : Spells finish []
  | boundary (isWord : Char → Bool) : Spells (boundary isWord) []
  | notAhead (test : Char → Bool) : Spells (notAhead test) []

theorem spells_empty {word : List Char} : Spells empty word ↔ word = [] := by
  constructor
  · rintro ⟨⟩
    rfl
  · rintro rfl
    exact .empty

theorem spells_char {test : Char → Bool} {word : List Char} : Spells (char test) word ↔ ∃ c, test c = true ∧ word = [c] := by
  constructor
  · rintro ⟨⟩
    exact ⟨_, ‹_›, rfl⟩
  · rintro ⟨c, passes, rfl⟩
    exact .char passes

theorem spells_seq {first second : Regex} {word : List Char} :
    Spells (seq first second) word ↔ ∃ left right, Spells first left ∧ Spells second right ∧ word = left ++ right := by
  constructor
  · rintro ⟨⟩
    exact ⟨_, _, ‹_›, ‹_›, rfl⟩
  · rintro ⟨left, right, former, latter, rfl⟩
    exact .seq former latter

theorem spells_alt {first second : Regex} {word : List Char} :
    Spells (alt first second) word ↔ Spells first word ∨ Spells second word := by
  constructor
  · rintro ⟨⟩
    exacts [Or.inl ‹_›, Or.inr ‹_›]
  · rintro (former | latter)
    exacts [.left former, .right latter]

theorem spells_assoc {first second third : Regex} {word : List Char} :
    Spells (seq (seq first second) third) word ↔ Spells (seq first (seq second third)) word := by
  constructor
  · intro spells
    obtain ⟨front, behind, former, latter, rfl⟩ := spells_seq.mp spells
    obtain ⟨left, right, once, again, rfl⟩ := spells_seq.mp former
    rw [List.append_assoc]
    exact .seq once (.seq again latter)
  · intro spells
    obtain ⟨front, behind, former, latter, rfl⟩ := spells_seq.mp spells
    obtain ⟨left, right, once, again, rfl⟩ := spells_seq.mp latter
    rw [← List.append_assoc]
    exact .seq (.seq former once) again

theorem spells_optional {inner : Regex} {word : List Char} : Spells (optional inner) word ↔ Spells inner word ∨ word = [] := by
  rw [optional, spells_alt, spells_empty]

theorem spells_any {parts : List Regex} {word : List Char} (spells : Spells (any parts) word) : ∃ part ∈ parts, Spells part word := by
  induction parts using any.induct with
  | case1 =>
    obtain ⟨c, impossible, -⟩ := spells_char.mp spells
    cases impossible
  | case2 part => exact ⟨part, List.mem_cons_self, spells⟩
  | case3 part parts more ih =>
    rw [any] at spells
    · rcases spells_alt.mp spells with here | later
      · exact ⟨part, List.mem_cons_self, here⟩
      · obtain ⟨other, listed, found⟩ := ih later
        exact ⟨other, List.mem_cons_of_mem _ listed, found⟩
    · exact more

theorem spells_any_of_mem {parts : List Regex} {part : Regex} {word : List Char} (listed : part ∈ parts)
    (spells : Spells part word) : Spells (any parts) word := by
  induction parts using any.induct with
  | case1 => cases listed
  | case2 only =>
    obtain rfl := List.mem_singleton.mp listed
    exact spells
  | case3 first parts more ih =>
    rw [any]
    · obtain rfl | later := List.mem_cons.mp listed
      · exact .left spells
      · exact .right (ih later)
    · exact more

theorem spells_chars {tests : List (Char → Bool)} {word : List Char} :
    Spells (all (tests.map char)) word ↔ List.Forall₂ (fun test c => test c = true) tests word := by
  induction tests generalizing word with
  | nil => rw [List.map_nil, all, List.foldr_nil, spells_empty, List.forall₂_nil_left_iff]
  | cons test tests ih =>
    rw [List.map_cons, all, List.foldr_cons, spells_seq, List.forall₂_cons_left_iff]
    constructor
    · rintro ⟨left, right, former, latter, rfl⟩
      obtain ⟨c, passes, rfl⟩ := spells_char.mp former
      exact ⟨c, right, passes, ih.mp latter, rfl⟩
    · rintro ⟨c, right, passes, others, rfl⟩
      exact ⟨[c], right, .char passes, ih.mpr others, rfl⟩

/-- A spelled text is passed character by character. -/
theorem spells_spelled {test : Char → Char → Bool} {text : String} {word : List Char} :
    Spells (spelled test text) word ↔ List.Forall₂ (fun c other => test c other = true) text.toList word := by
  have characters : spelled test text = all ((text.toList.map test).map char) := by
    rw [spelled, List.map_map]
    rfl
  rw [characters, spells_chars, List.forall₂_map_left_iff]

/-- The tests of an expression only let these characters pass. -/
def Within (kind : Char → Prop) : Regex → Prop
  | char test => ∀ c, test c = true → kind c
  | seq first second | alt first second => first.Within kind ∧ second.Within kind
  | star inner => inner.Within kind
  | empty | start | finish | boundary _ | notAhead _ => True

/-- Words are made of characters that pass the tests. -/
theorem Spells.within {kind : Char → Prop} {regex : Regex} {word : List Char} (spells : Spells regex word)
    (inside : regex.Within kind) : ∀ c ∈ word, kind c := by
  induction spells with
  | empty | done | start | finish | boundary | notAhead => simp
  | char passes =>
    intro c member
    exact List.mem_singleton.mp member ▸ inside _ passes
  | seq former latter ih ih' =>
    intro c member
    exact (List.mem_append.mp member).elim (ih inside.1 c) (ih' inside.2 c)
  | left former ih => exact ih inside.1
  | right latter ih => exact ih inside.2
  | round once more ih ih' =>
    intro c member
    exact (List.mem_append.mp member).elim (ih inside c) (ih' inside c)

theorem within_all {kind : Char → Prop} {parts : List Regex} (inside : ∀ part ∈ parts, part.Within kind) :
    (all parts).Within kind := by
  induction parts with
  | nil => trivial
  | cons part parts ih =>
    obtain ⟨first, others⟩ := List.forall_mem_cons.mp inside
    exact ⟨first, ih others⟩

theorem within_any {kind : Char → Prop} {parts : List Regex} (inside : ∀ part ∈ parts, part.Within kind) :
    (any parts).Within kind := by
  induction parts using any.induct with
  | case1 =>
    intro c impossible
    cases impossible
  | case2 part => exact inside part List.mem_cons_self
  | case3 part parts more ih =>
    obtain ⟨first, others⟩ := List.forall_mem_cons.mp inside
    rw [any]
    · exact ⟨first, ih others⟩
    · exact more

theorem within_spelled {kind : Char → Prop} {test : Char → Char → Bool} {text : String}
    (inside : ∀ c ∈ text.toList, ∀ other, test c other = true → kind other) : (spelled test text).Within kind := by
  refine within_all fun part member => ?_
  obtain ⟨c, listed, rfl⟩ := List.mem_map.mp member
  exact inside c listed

theorem spells_star {test : Char → Bool} {word : List Char} : Spells (star (char test)) word ↔ ∀ c ∈ word, test c = true := by
  constructor
  · intro spells
    exact @Spells.within (fun c => test c = true) _ _ spells fun _ passes => passes
  · intro passes
    induction word with
    | nil => exact .done _
    | cons c word ih =>
      have rest := ih fun c member => passes c (List.mem_cons_of_mem _ member)
      exact .round (.char (passes c List.mem_cons_self)) rest

theorem spells_plus {test : Char → Bool} {word : List Char} :
    Spells (plus (char test)) word ↔ word ≠ [] ∧ ∀ c ∈ word, test c = true := by
  rw [plus, spells_seq]
  constructor
  · rintro ⟨once, more, first, rest, rfl⟩
    obtain ⟨c, passes, rfl⟩ := spells_char.mp first
    exact ⟨List.cons_ne_nil _ _, List.forall_mem_cons.mpr ⟨passes, spells_star.mp rest⟩⟩
  · rintro ⟨nonempty, passes⟩
    obtain ⟨c, rest, rfl⟩ := List.exists_cons_of_ne_nil nonempty
    obtain ⟨first, passes⟩ := List.forall_mem_cons.mp passes
    exact ⟨[c], rest, .char first, spells_star.mpr passes, rfl⟩

/-- From one position to another over this word. -/
def Over (word : List Char) (first last : Position) : Prop :=
  first.ahead = word ++ last.ahead ∧ last.before = word.reverse ++ first.before

theorem Over.refl (position : Position) : Over [] position position := ⟨rfl, rfl⟩

theorem Over.trans {word more : List Char} {first middle last : Position} (former : Over word first middle)
    (latter : Over more middle last) : Over (word ++ more) first last := by
  constructor
  · rw [former.1, latter.1, List.append_assoc]
  · rw [latter.2, former.2, List.reverse_append, List.append_assoc]

theorem iterate_spells {inner : Regex} {round : Position → List Position}
    (sound : ∀ {first last}, last ∈ round first → ∃ word, Over word first last ∧ Spells inner word) {fuel : Nat}
    {first last : Position} (found : last ∈ iterate round fuel first) :
    ∃ word, Over word first last ∧ Spells (star inner) word := by
  induction fuel generalizing first with
  | zero =>
    obtain rfl := List.mem_singleton.mp found
    exact ⟨[], .refl last, .done inner⟩
  | succ fuel ih =>
    rcases List.mem_append.mp found with again | stopped
    · obtain ⟨middle, member, later⟩ := List.mem_flatMap.mp again
      obtain ⟨word, taken, once⟩ := sound (List.mem_filter.mp member).1
      obtain ⟨more, rest, rounds⟩ := ih later
      exact ⟨word ++ more, taken.trans rest, .round once rounds⟩
    · obtain rfl := List.mem_singleton.mp stopped
      exact ⟨[], .refl last, .done inner⟩

section Steps
variable {first last : Position}

theorem mem_run_char {test : Char → Bool} :
    last ∈ run (char test) first ↔ ∃ c rest, first.ahead = c :: rest ∧ test c = true ∧ last = ⟨c :: first.before, rest⟩ := by
  obtain ⟨before, ahead⟩ := first
  cases ahead with
  | nil =>
    refine iff_of_false List.not_mem_nil ?_
    rintro ⟨c, rest, impossible, -⟩
    cases impossible
  | cons c rest =>
    show last ∈ (if test c then [⟨c :: before, rest⟩] else []) ↔ _
    split
    next passes =>
      rw [List.mem_singleton]
      constructor
      · rintro rfl
        exact ⟨c, rest, rfl, passes, rfl⟩
      · rintro ⟨d, behind, same, -, rfl⟩
        obtain ⟨rfl, rfl⟩ := List.cons.inj same
        rfl
    next fails =>
      refine iff_of_false List.not_mem_nil ?_
      rintro ⟨d, behind, same, passes, -⟩
      obtain ⟨rfl, rfl⟩ := List.cons.inj same
      exact fails passes

/-- An assertion stays where it is. -/
theorem mem_assertion {holds : Prop} [Decidable holds] : last ∈ (if holds then [first] else []) ↔ holds ∧ last = first := by
  split
  next here => rw [List.mem_singleton, and_iff_right here]
  next not => exact iff_of_false List.not_mem_nil fun both => not both.1

theorem mem_run_start : last ∈ run start first ↔ first.before = [] ∧ last = first := mem_assertion

theorem mem_run_finish : last ∈ run finish first ↔ first.ahead = [] ∧ last = first := mem_assertion

theorem mem_run_boundary {isWord : Char → Bool} :
    last ∈ run (boundary isWord) first ↔ first.before.head?.any isWord ≠ first.ahead.head?.any isWord ∧ last = first := mem_assertion

theorem mem_run_notAhead {test : Char → Bool} :
    last ∈ run (notAhead test) first ↔ first.ahead.head?.any test = false ∧ last = first := by
  show last ∈ (if first.ahead.head?.any test then [] else [first]) ↔ _
  split
  next here => exact iff_of_false List.not_mem_nil fun both => Bool.false_ne_true (both.1.symm.trans here)
  next not => rw [List.mem_singleton, and_iff_right (Bool.eq_false_iff.mpr not)]

end Steps

/-- A match takes a word of the language. -/
theorem run_spells (regex : Regex) {first last : Position} (found : last ∈ run regex first) :
    ∃ word, Over word first last ∧ Spells regex word := by
  induction regex generalizing first last with
  | empty =>
    obtain rfl := List.mem_singleton.mp found
    exact ⟨[], .refl last, .empty⟩
  | char test =>
    obtain ⟨c, rest, ahead, passes, rfl⟩ := mem_run_char.mp found
    exact ⟨[c], ⟨ahead, rfl⟩, .char passes⟩
  | seq regex regex' ih ih' =>
    obtain ⟨middle, former, latter⟩ := List.mem_flatMap.mp found
    obtain ⟨word, taken, spells⟩ := ih former
    obtain ⟨more, rest, spells'⟩ := ih' latter
    exact ⟨word ++ more, taken.trans rest, .seq spells spells'⟩
  | alt regex regex' ih ih' =>
    rcases List.mem_append.mp found with former | latter
    · obtain ⟨word, taken, spells⟩ := ih former
      exact ⟨word, taken, .left spells⟩
    · obtain ⟨word, taken, spells⟩ := ih' latter
      exact ⟨word, taken, .right spells⟩
  | star inner ih => exact iterate_spells (fun member => ih member) found
  | start =>
    obtain ⟨-, rfl⟩ := mem_run_start.mp found
    exact ⟨[], .refl last, .start⟩
  | finish =>
    obtain ⟨-, rfl⟩ := mem_run_finish.mp found
    exact ⟨[], .refl last, .finish⟩
  | boundary isWord =>
    obtain ⟨-, rfl⟩ := mem_run_boundary.mp found
    exact ⟨[], .refl last, .boundary isWord⟩
  | notAhead test =>
    obtain ⟨-, rfl⟩ := mem_run_notAhead.mp found
    exact ⟨[], .refl last, .notAhead test⟩

theorem positions_whole {before text : List Char} {position : Position} (member : position ∈ positions before text) :
    position.before.reverse ++ position.ahead = before.reverse ++ text := by
  induction text generalizing before with
  | nil =>
    obtain rfl := List.mem_singleton.mp member
    rfl
  | cons c text ih =>
    rcases List.mem_cons.mp member with rfl | later
    · rfl
    · simpa using ih later

/-- A word anchored at both ends is the whole text. -/
theorem isMatch_anchored {regex : Regex} {text : List Char} (found : isMatch (seq start (seq regex finish)) text = true) :
    Spells regex text := by
  obtain ⟨position, member, nonempty⟩ := List.any_eq_true.mp found
  obtain ⟨last, reached⟩ := List.exists_mem_of_ne_nil _ (by simpa using nonempty)
  obtain ⟨first, atStart, inside⟩ := List.mem_flatMap.mp reached
  obtain ⟨beginning, rfl⟩ := mem_run_start.mp atStart
  obtain ⟨middle, matched, atEnd⟩ := List.mem_flatMap.mp inside
  obtain ⟨ended, -⟩ := mem_run_finish.mp atEnd
  obtain ⟨word, taken, spells⟩ := run_spells regex matched
  have whole : first.ahead = text := by simpa [beginning] using positions_whole member
  have word_eq : text = word := by rw [← whole, taken.1, ended, List.append_nil]
  exact word_eq ▸ spells

/-- An anchored expression at the start of a text. -/
theorem isMatch_start {regex : Regex} {text : List Char} :
    isMatch (seq start regex) text = true ↔ run regex (begin text) ≠ [] := by
  constructor
  · intro found
    obtain ⟨position, member, nonempty⟩ := List.any_eq_true.mp found
    obtain ⟨last, reached⟩ := List.exists_mem_of_ne_nil _ (by simpa using nonempty)
    obtain ⟨first, atStart, inside⟩ := List.mem_flatMap.mp reached
    obtain ⟨beginning, rfl⟩ := mem_run_start.mp atStart
    have whole : first.ahead = text := by simpa [beginning] using positions_whole member
    have same : first = begin text := by
      cases first
      exact congrArg₂ Position.mk beginning whole
    rw [← same]
    exact List.ne_nil_of_mem inside
  · intro nonempty
    obtain ⟨last, reached⟩ := List.exists_mem_of_ne_nil _ nonempty
    apply List.any_eq_true.mpr
    refine ⟨begin text, ?_, ?_⟩
    · cases text with
      | nil => exact List.mem_singleton_self _
      | cons c rest => exact List.mem_cons_self
    · have ended : last ∈ run (seq start regex) (begin text) :=
        List.mem_flatMap.mpr ⟨begin text, List.mem_singleton_self _, reached⟩
      simpa using List.ne_nil_of_mem ended

/-- A match at the start of a text takes a word of the language from it. -/
theorem isMatch_start_spells {regex : Regex} {text : List Char} (found : isMatch (seq start regex) text = true) :
    ∃ word rest, text = word ++ rest ∧ Spells regex word := by
  obtain ⟨last, reached⟩ := List.exists_mem_of_ne_nil _ (isMatch_start.mp found)
  obtain ⟨word, taken, spells⟩ := run_spells regex reached
  exact ⟨word, last.ahead, taken.1, spells⟩

/-! ### Matching every word -/

/-- An expression without assertions. -/
def Plain : Regex → Prop
  | empty | char _ => True
  | seq first second | alt first second => first.Plain ∧ second.Plain
  | star inner => inner.Plain
  | start | finish | boundary _ | notAhead _ => False

theorem iterate_finds {inner : Regex} {word rest before : List Char} {regex : Regex}
    (starred : regex = star inner) (spells : Spells regex word)
    (complete : ∀ {word rest before}, Spells inner word → ⟨word.reverse ++ before, rest⟩ ∈ run inner ⟨before, word ++ rest⟩)
    {fuel : Nat} (enough : word.length ≤ fuel) :
    ⟨word.reverse ++ before, rest⟩ ∈ iterate (run inner) fuel ⟨before, word ++ rest⟩ := by
  induction spells generalizing before fuel with
  | done =>
    cases fuel with
    | zero => exact List.mem_singleton_self _
    | succ fuel => exact List.mem_append_right _ (List.mem_singleton_self _)
  | @round inner' word more once rounds ih ih' =>
    obtain rfl := Regex.star.inj starred
    by_cases nothing : word = []
    · subst nothing
      exact ih' rfl enough
    · have positive := List.length_pos_of_ne_nil nothing
      rw [List.length_append] at enough
      obtain ⟨fuel, rfl⟩ : ∃ left, fuel = left + 1 := ⟨fuel - 1, by omega⟩
      refine List.mem_append_left _ (List.mem_flatMap.mpr ⟨⟨word.reverse ++ before, more ++ rest⟩, ?_, ?_⟩)
      · refine List.mem_filter.mpr ⟨?_, decide_eq_true ?_⟩
        · rw [List.append_assoc]
          exact complete once
        · simp only [List.length_append]
          omega
      · rw [List.reverse_append, List.append_assoc]
        exact ih' rfl (by omega)
  | _ => cases starred

/-- Without assertions, every word of the language is a match. -/
theorem run_finds {regex : Regex} (plain : regex.Plain) {word rest before : List Char} (spells : Spells regex word) :
    ⟨word.reverse ++ before, rest⟩ ∈ run regex ⟨before, word ++ rest⟩ := by
  induction regex generalizing word rest before with
  | empty =>
    obtain rfl := spells_empty.mp spells
    exact List.mem_singleton_self _
  | char test =>
    obtain ⟨c, passes, rfl⟩ := spells_char.mp spells
    exact mem_run_char.mpr ⟨c, rest, rfl, passes, rfl⟩
  | seq first second ih ih' =>
    obtain ⟨word, more, former, latter, rfl⟩ := spells_seq.mp spells
    refine List.mem_flatMap.mpr ⟨⟨word.reverse ++ before, more ++ rest⟩, ?_, ?_⟩
    · rw [List.append_assoc]
      exact ih plain.1 former
    · rw [List.reverse_append, List.append_assoc]
      exact ih' plain.2 latter
  | alt first second ih ih' =>
    rcases spells_alt.mp spells with former | latter
    · exact List.mem_append_left _ (ih plain.1 former)
    · exact List.mem_append_right _ (ih' plain.2 latter)
  | star inner ih =>
    refine iterate_finds rfl spells (fun once => ih plain once) ?_
    rw [List.length_append]
    exact Nat.le_add_right _ _
  | start | finish | boundary | notAhead => exact plain.elim

theorem isMatch_anchored_iff {regex : Regex} (plain : regex.Plain) {text : List Char} :
    isMatch (seq start (seq regex finish)) text = true ↔ Spells regex text := by
  refine ⟨isMatch_anchored, fun spells => List.any_eq_true.mpr ⟨begin text, ?_, ?_⟩⟩
  · cases text with
    | nil => exact List.mem_singleton_self _
    | cons c rest => exact List.mem_cons_self
  · have matched := @run_finds _ plain _ [] [] spells
    rw [List.append_nil, List.append_nil] at matched
    have ended : ⟨text.reverse, []⟩ ∈ run (seq start (seq regex finish)) (begin text) :=
      List.mem_flatMap.mpr ⟨begin text, List.mem_singleton_self _,
        List.mem_flatMap.mpr ⟨_, matched, List.mem_singleton_self _⟩⟩
    simpa using List.ne_nil_of_mem ended

theorem plain_all {parts : List Regex} (each : ∀ part ∈ parts, part.Plain) : (all parts).Plain := by
  induction parts with
  | nil => trivial
  | cons part parts ih =>
    obtain ⟨first, others⟩ := List.forall_mem_cons.mp each
    exact ⟨first, ih others⟩

theorem plain_any {parts : List Regex} (each : ∀ part ∈ parts, part.Plain) : (any parts).Plain := by
  induction parts using any.induct with
  | case1 => trivial
  | case2 part => exact each part List.mem_cons_self
  | case3 part parts more ih =>
    obtain ⟨first, others⟩ := List.forall_mem_cons.mp each
    rw [any]
    · exact ⟨first, ih others⟩
    · exact more

theorem plain_spelled (test : Char → Char → Bool) (text : String) : (spelled test text).Plain := by
  apply plain_all
  intro part member
  obtain ⟨c, -, rfl⟩ := List.mem_map.mp member
  trivial

/-- What a group captured is a word of it. -/
theorem capture_spells {leading group : Regex} {text word : List Char} (found : capture leading group text = some word) :
    Spells group word := by
  obtain ⟨position, -, inside⟩ := List.mem_flatMap.mp (List.mem_of_head? found)
  obtain ⟨first, -, captured⟩ := List.mem_flatMap.mp inside
  obtain ⟨last, matched, rfl⟩ := List.mem_map.mp captured
  obtain ⟨taken, spans, spells⟩ := run_spells group matched
  have same : between first last = taken := by
    rw [between, spans.1, List.length_append, Nat.add_sub_cancel, List.take_left]
  rw [same]
  exact spells

/-! ### What removals leave -/

/-- A text, and what is left of it when words of an expression are taken out. -/
inductive Leaves (regex : Regex) : List Char → List Char → Prop
  | nothing : Leaves regex [] []
  | keep (c : Char) {text left : List Char} (rest : Leaves regex text left) : Leaves regex (c :: text) (c :: left)
  | take {word text left : List Char} (spells : Spells regex word) (rest : Leaves regex text left) :
      Leaves regex (word ++ text) left

theorem leaves_refl (regex : Regex) (text : List Char) : Leaves regex text text := by
  induction text with
  | nil => exact .nothing
  | cons c text ih => exact .keep c ih

theorem removeFrom_leaves (regex : Regex) (fuel : Nat) (position : Position) :
    Leaves regex position.ahead (removeFrom regex fuel position) := by
  induction fuel generalizing position with
  | zero => exact leaves_refl regex position.ahead
  | succ fuel ih =>
    rw [removeFrom]
    split
    next next found =>
      obtain ⟨first, -⟩ := Option.filter_eq_some_iff.mp found
      obtain ⟨word, covers, spells⟩ := run_spells regex (List.mem_of_head? first)
      rw [covers.1]
      exact .take spells (ih next)
    next =>
      split
      next ahead =>
        rw [ahead]
        exact .nothing
      next c rest ahead =>
        rw [ahead]
        exact .keep c (ih ⟨c :: position.before, rest⟩)

theorem removeAll_leaves (regex : Regex) (text : List Char) : Leaves regex text (removeAll regex text) :=
  removeFrom_leaves regex (text.length + 1) (begin text)

/-- What is left when words of several expressions are taken out in turn. -/
def LeavesAll : List Regex → List Char → List Char → Prop
  | [], text, left => text = left
  | regex :: others, text, left => ∃ between, Leaves regex text between ∧ LeavesAll others between left

theorem foldl_removeAll_leaves (regexes : List Regex) (text : List Char) :
    LeavesAll regexes text (regexes.foldl (fun left regex => regex.removeAll left) text) := by
  induction regexes generalizing text with
  | nil => exact rfl
  | cons regex others ih => exact ⟨regex.removeAll text, removeAll_leaves regex text, ih _⟩

/-! ### Occurrences -/

/-- What a group prefers to match at every place behind a prefix. -/
def occurrences (leading group : Regex) (text : List Char) : List (List Char) :=
  (positions [] text).flatMap fun position =>
    (run leading position).flatMap fun first => ((run group first).map fun last => between first last).take 1

theorem head?_flatMap_congr {α β : Type*} {items : List α} {f g : α → List β} (same : ∀ item ∈ items, (f item).head? = (g item).head?) :
    (items.flatMap f).head? = (items.flatMap g).head? := by
  induction items with
  | nil => rfl
  | cons item items ih =>
    obtain ⟨first, others⟩ := List.forall_mem_cons.mp same
    rw [List.flatMap_cons, List.flatMap_cons, List.head?_append, List.head?_append, first, ih others]

/-- A group captures its first occurrence. -/
theorem capture_eq_head? (leading group : Regex) (text : List Char) :
    capture leading group text = (occurrences leading group text).head? := by
  rw [capture, occurrences]
  apply head?_flatMap_congr
  intro position _
  apply head?_flatMap_congr
  intro first _
  cases run group first <;> rfl

/-! ### Searches -/

theorem mem_positions (left right before : List Char) :
    ⟨left.reverse ++ before, right⟩ ∈ positions before (left ++ right) := by
  induction left generalizing before with
  | nil =>
    cases right with
    | nil => exact List.mem_singleton_self _
    | cons c right => exact List.mem_cons_self
  | cons c left ih =>
    rw [List.reverse_cons, List.append_assoc, List.singleton_append]
    exact List.mem_cons_of_mem _ (ih (c :: before))

/-- Where no search succeeds in front, the first that does is found behind. -/
theorem findSome_positions {β : Type} {search : Position → Option β} {front back before : List Char}
    (fails : ∀ left right, front = left ++ right → right ≠ [] → search ⟨left.reverse ++ before, right ++ back⟩ = none) :
    (positions before (front ++ back)).findSome? search = (positions (front.reverse ++ before) back).findSome? search := by
  induction front generalizing before with
  | nil => rfl
  | cons c front ih =>
    have first : search ⟨before, c :: (front ++ back)⟩ = none := fails [] (c :: front) rfl (List.cons_ne_nil _ _)
    have later := @ih (c :: before) fun left right split present => by
      have behind := fails (c :: left) right (congrArg (c :: ·) split) present
      simpa using behind
    rw [List.cons_append, positions, List.findSome?_cons, first, later]
    simp

theorem findSome_here {β : Type} {search : Position → Option β} {before text : List Char} {found : β}
    (first : search ⟨before, text⟩ = some found) : (positions before text).findSome? search = some found := by
  cases text with
  | nil => rw [positions, List.findSome?_cons, first]
  | cons c text => rw [positions, List.findSome?_cons, first]

theorem captures_eq_nil_iff {parts : List Regex} {position : Position} :
    captures parts position = [] ↔ run (.all parts) position = [] := by
  induction parts generalizing position with
  | nil => exact iff_of_false (List.cons_ne_nil _ _) (List.cons_ne_nil _ _)
  | cons part parts ih =>
    have whole : run (.all (part :: parts)) position = (run part position).flatMap (run (.all parts)) := rfl
    rw [captures, whole, List.flatMap_eq_nil_iff, List.flatMap_eq_nil_iff]
    refine forall_congr' fun next => forall_congr' fun _ => ?_
    rw [List.map_eq_nil_iff]
    exact ih

theorem captures_length {parts : List Regex} {position : Position} {found : List (List Char)}
    (member : found ∈ captures parts position) : found.length = parts.length := by
  induction parts generalizing position found with
  | nil =>
    obtain rfl := List.mem_singleton.mp member
    rfl
  | cons part parts ih =>
    obtain ⟨next, -, inside⟩ := List.mem_flatMap.mp member
    obtain ⟨later, isLater, rfl⟩ := List.mem_map.mp inside
    rw [List.length_cons, List.length_cons, ih isLater]

theorem captures_head {part : Regex} {parts : List Regex} {position next : Position} {found : List (List Char)}
    (first : (run part position).head? = some next) (later : (captures parts next).head? = some found) :
    (captures (part :: parts) position).head? = some (between position next :: found) := by
  obtain ⟨others, ends⟩ := List.head?_eq_some_iff.mp first
  rw [captures, ends, List.flatMap_cons, List.head?_append, List.head?_map, later]
  rfl

theorem iterate_once {round : Position → List Position} {fuel : Nat} {position next last : Position}
    (single : round position = [next]) (shorter : next.ahead.length < position.ahead.length)
    (later : (iterate round fuel next).head? = some last) : (iterate round (fuel + 1) position).head? = some last := by
  have kept : [next].filter (fun next => decide (next.ahead.length < position.ahead.length)) = [next] := by
    simpa using shorter
  rw [iterate, single, kept, List.head?_append, List.flatMap_singleton, later]
  rfl

end Regex
