import Pipa.Proofs.TableFilterReading

/-! What the value of a condition leaves in its predicate: blanks only if the value is
blank, and otherwise more than blanks. So what one compiler makes of a value that is blank
to the other never coincides with what that one makes of any condition. -/

namespace Pipa.TableFilter
open Fallible SqlLexer SqlBoolean Text

def content : Literal → List Nat
  | .string content => content
  | .number sign text => sign.toList ++ text

theorem content_signedNumber (text : List Nat) : content (signedNumber text) = text := by
  cases text with
  | nil => rfl
  | cons sign rest =>
    rw [signedNumber]
    split <;> rfl

/-- What a predicate holds of its condition's value; the wildcards around a substring are
no part of it. -/
def body : Predicate → List Nat
  | .compare _ _ operand => content operand
  | .like _ _ pattern none => pattern
  | .like _ _ pattern (some _) => pattern.filter (· ≠ 37)
  | .member _ _ first others => (first :: others).flatMap content
  | .between _ _ lower upper => content lower ++ content upper
  | .isNull .. => []

/-- A class of blanks that holds no character of the filter's syntax. -/
structure Blanks where
  space : Char → Bool
  plain : ∀ c ∈ ['%', '_', '\\', ','], space c = false

variable (blanks : Blanks)

/-- Nothing but blanks. -/
def Hollow (text : List Nat) : Prop := ∀ unit ∈ text, ∃ c, blanks.space c = true ∧ c.toNat = unit

theorem hollow_units {characters : List Char} :
    Hollow blanks (characters.map Char.toNat) ↔ ∀ c ∈ characters, blanks.space c = true := by
  constructor
  · intro hollow c member
    obtain ⟨other, space, same⟩ := hollow c.toNat (List.mem_map_of_mem member)
    exact Char.toNat_inj.mp same ▸ space
  · intro all unit member
    obtain ⟨c, inside, rfl⟩ := List.mem_map.mp member
    exact ⟨c, all c inside, rfl⟩

theorem hollow_append {front behind : List Nat} : Hollow blanks (front ++ behind) ↔ Hollow blanks front ∧ Hollow blanks behind :=
  List.forall_mem_append

section Values
variable {blanks} {value : String}

theorem escaped_blank (blank : ∀ c ∈ value.toList, blanks.space c = true) : escapeLikeWildcards value = value := by
  have kept : value.toList.flatMap (fun c => if c = '%' ∨ c = '_' ∨ c = '\\' then ['\\', c] else [c]) =
      value.toList.flatMap fun c => [c] := by
    refine List.flatMap_congr fun c member => if_neg fun special => ?_
    have listed : c ∈ ['%', '_', '\\', ','] := by
      rcases special with rfl | rfl | rfl <;> decide
    exact Bool.false_ne_true ((blanks.plain c listed).symm.trans (blank c member))
  rw [escapeLikeWildcards, kept, List.flatMap_singleton', String.ofList_toList]

/-- What is no blank stays behind, escaped if need be. -/
theorem escaped_solid {c : Char} (member : c ∈ value.toList) (solid : blanks.space c = false) :
    ∃ other ∈ (escapeLikeWildcards value).toList, blanks.space other = false ∧ other ≠ '%' := by
  have inside {other : Char} (written : other ∈ if c = '%' ∨ c = '_' ∨ c = '\\' then ['\\', c] else [c]) :
      other ∈ (escapeLikeWildcards value).toList := by
    rw [escapeLikeWildcards, String.toList_ofList]
    exact List.mem_flatMap.mpr ⟨c, member, written⟩
  by_cases special : c = '%' ∨ c = '_' ∨ c = '\\'
  · refine ⟨'\\', inside ?_, blanks.plain _ (by decide), by decide⟩
    rw [if_pos special]
    exact List.mem_cons_self
  · refine ⟨c, inside ?_, solid, fun percent => special (Or.inl percent)⟩
    rw [if_neg special]
    exact List.mem_cons_self

theorem mem_splitFilterListFrom {current rest : List Char} {escaped : Bool} {item : String}
    (listed : item ∈ splitFilterListFrom current escaped rest) {c : Char} (member : c ∈ item.toList) : c ∈ current ∨ c ∈ rest := by
  have moved {current rest : List Char} {next : Char} (inside : c ∈ current ++ [next] ∨ c ∈ rest) :
      c ∈ current ∨ c ∈ next :: rest := by
    rw [List.mem_append, List.mem_singleton, or_assoc, ← List.mem_cons] at inside
    exact inside
  induction rest generalizing current escaped with
  | nil =>
    rw [List.mem_singleton.mp listed, String.toList_ofList] at member
    exact Or.inl member
  | cons next rest ih =>
    rw [splitFilterListFrom] at listed
    split at listed
    · exact moved (ih listed)
    · split at listed
      · exact (ih listed).imp_right (List.mem_cons_of_mem _)
      · split at listed
        · rcases List.mem_cons.mp listed with rfl | later
          · rw [String.toList_ofList] at member
            exact Or.inl member
          · rcases ih later with impossible | inside
            · cases impossible
            · exact Or.inr (List.mem_cons_of_mem _ inside)
        · exact moved (ih listed)

/-- Splitting a list adds no character. -/
theorem splitFilterList_blank (blank : ∀ c ∈ value.toList, blanks.space c = true) {item : String}
    (listed : item ∈ splitFilterList value) : ∀ c ∈ item.toList, blanks.space c = true := by
  intro c member
  rcases mem_splitFilterListFrom listed member with impossible | inside
  · cases impossible
  · exact blank c inside

end Values

/-! ### Operands and predicates -/

section Operands
variable {blanks} {dialect : Dialect} {column : TableFilterColumn} {value : String} {operand : Literal}

/-- A dialect that trims some class of characters. -/
def Dialect.Trims (dialect : Dialect) (space : Char → Bool) : Prop := ∀ text, dialect.trim text = trimMatches space text

theorem operand_hollow {space : Char → Bool} (trims : dialect.Trims space) (blank : ∀ c ∈ value.toList, blanks.space c = true)
    (read : dialect.operand column value = some operand) : Hollow blanks (content operand) := by
  have trimmed : ∀ c ∈ (dialect.trim value).toList, blanks.space c = true := by
    intro c member
    rw [trims] at member
    exact blank c (mem_trimMatches member)
  unfold Dialect.operand at read
  split at read
  · obtain rfl := Option.some.inj (Option.ite_none_right_eq_some.mp read).2
    rw [content_signedNumber]
    exact (hollow_units blanks).mpr trimmed
  · split at read
    · obtain rfl := Option.some.inj (Option.ite_none_left_eq_some.mp read).2
      exact (hollow_units blanks).mpr trimmed
    · obtain rfl := Option.some.inj read
      exact (hollow_units blanks).mpr blank

theorem operand_solid (trims : dialect.Trims blanks.space) (solid : ¬ ∀ c ∈ value.toList, blanks.space c = true)
    (read : dialect.operand column value = some operand) : ¬ Hollow blanks (content operand) := by
  have trimmed : ¬ Hollow blanks (units (dialect.trim value)) := by
    rw [trims]
    obtain ⟨c, member, other⟩ := trimMatches_solid (fun empty => solid (trimMatches_empty_iff.mp empty))
    intro hollow
    exact Bool.false_ne_true (other.symm.trans ((hollow_units blanks).mp hollow c member))
  unfold Dialect.operand at read
  split at read
  · obtain rfl := Option.some.inj (Option.ite_none_right_eq_some.mp read).2
    rwa [content_signedNumber]
  · split at read
    · obtain rfl := Option.some.inj (Option.ite_none_left_eq_some.mp read).2
      exact trimmed
    · obtain rfl := Option.some.inj read
      exact fun hollow => solid ((hollow_units blanks).mp hollow)

end Operands

/-- What a condition can mean. -/
inductive Meant (dialect : Dialect) (column : TableFilterColumn) (condition : TableFilterCondition) : Predicate → Prop
  | null (unary : isUnary condition.operator = true) (negated : Bool) :
    Meant dialect column condition (.isNull negated (units column.name))
  | compare (comparison : Comparison) {operand : Literal} (read : dialect.operand column condition.value = some operand) :
    Meant dialect column condition (.compare (units column.name) comparison operand)
  | like (negated : Bool) : Meant dialect column condition (.like negated (units column.name) (units condition.value) none)
  | substring {front behind : String} (wild : ∀ c ∈ front.toList ++ behind.toList, c = '%') :
    Meant dialect column condition
      (.like false (units column.name) (units (front ++ escapeLikeWildcards condition.value ++ behind)) (some (units "\\")))
  | member (negated : Bool) {first : Literal} {others : List Literal}
      (read : (dialect.items condition.value).mapM (dialect.operand column) = some (first :: others)) :
    Meant dialect column condition (.member negated (units column.name) first others)
  | between {low high : String} {lower upper : Literal} (split : splitFilterList condition.value = [low, high])
      (lower_solid : dialect.trim low ≠ "") (read : dialect.operand column low = some lower)
      (read' : dialect.operand column high = some upper) :
    Meant dialect column condition (.between false (units column.name) lower upper)

section Meanings
variable {dialect : Dialect} {column : TableFilterColumn} {condition : TableFilterCondition} {found : Predicate}

theorem meaning_meant (meant : dialect.meaning column condition = some found) : Meant dialect column condition found := by
  have compared {comparison : Comparison}
      (meant : (dialect.operand column condition.value).map (Predicate.compare (units column.name) comparison) = some found) :
      Meant dialect column condition found := by
    obtain ⟨operand, read, rfl⟩ := Option.map_eq_some_iff.mp meant
    exact .compare comparison read
  have patterned {pattern : Predicate} (meant : (if condition.value = "" then none else some pattern) = some found) :
      pattern = found := Option.some.inj (Option.ite_none_left_eq_some.mp meant).2
  have whole : ∀ text : String, text = "" ++ text ∧ text = text ++ "" := by simp
  unfold Dialect.meaning at meant
  cases operated : condition.operator <;> rw [operated] at meant
  case in_ | notIn =>
    dsimp only at meant
    split at meant
    next first others read =>
      obtain rfl := Option.some.inj meant
      exact .member _ read
    next => cases meant
  case like | notLike =>
    obtain rfl := patterned meant
    exact .like _
  case contains =>
    obtain rfl := patterned meant
    exact .substring (by simp)
  case startsWith =>
    obtain rfl := patterned meant
    have pattern := @Meant.substring dialect column condition "" "%" (by simp)
    rwa [String.empty_append] at pattern
  case endsWith =>
    obtain rfl := patterned meant
    have pattern := @Meant.substring dialect column condition "%" "" (by simp)
    rwa [String.append_empty] at pattern
  case isNull | isNotNull =>
    obtain rfl := Option.some.inj meant
    exact .null (by rw [operated]; rfl) _
  case between =>
    dsimp only at meant
    split at meant
    next low high bounds =>
      obtain ⟨solid, read⟩ := Option.ite_none_left_eq_some.mp meant
      obtain ⟨lower, first, rest⟩ := Option.bind_eq_some_iff.mp read
      obtain ⟨upper, second, same⟩ := Option.bind_eq_some_iff.mp rest
      obtain rfl := Option.some.inj same
      exact .between bounds (not_or.mp solid).1 first second
    next => cases meant
  all_goals exact compared meant

variable {blanks : Blanks}

/-- A value that is blank leaves nothing else in its predicate. -/
theorem body_hollow {space : Char → Bool} (trims : dialect.Trims space)
    (blank : ∀ c ∈ condition.value.toList, blanks.space c = true) (meant : Meant dialect column condition found) :
    Hollow blanks (body found) := by
  cases meant with
  | null => simp [body, Hollow]
  | compare comparison read => exact operand_hollow trims blank read
  | like => exact (hollow_units blanks).mpr blank
  | @substring front behind wild =>
    rw [escaped_blank blank]
    intro unit member
    obtain ⟨listed, other⟩ := List.mem_filter.mp member
    obtain ⟨c, inside, rfl⟩ := List.mem_map.mp listed
    rw [String.toList_append, String.toList_append, List.mem_append, List.mem_append] at inside
    have percent : c ≠ '%' := fun same => by simp [same] at other
    rcases inside with (inside | inside) | inside
    · exact absurd (wild c (List.mem_append_left _ inside)) percent
    · exact ⟨c, blank c inside, rfl⟩
    · exact absurd (wild c (List.mem_append_right _ inside)) percent
  | member negated read =>
    intro unit member
    obtain ⟨operand, listed, inside⟩ := List.mem_flatMap.mp member
    obtain ⟨item, kept, read⟩ := mem_mapM_some read listed
    obtain ⟨part, split, rfl⟩ := List.mem_map.mp (List.mem_filter.mp kept).1
    refine operand_hollow trims (fun c member => ?_) read unit inside
    rw [trims] at member
    exact splitFilterList_blank blank split c (mem_trimMatches member)
  | between split _ read read' =>
    refine (hollow_append blanks).mpr ⟨operand_hollow trims (splitFilterList_blank blank ?_) read,
      operand_hollow trims (splitFilterList_blank blank ?_) read'⟩
    · rw [split]
      exact List.mem_cons_self
    · rw [split]
      exact List.mem_cons_of_mem _ List.mem_cons_self

/-- A value that is more than blank leaves more than blanks. -/
theorem body_solid (trims : dialect.Trims blanks.space) (binary : isUnary condition.operator = false)
    (solid : dialect.trim condition.value ≠ "") (meant : Meant dialect column condition found) : ¬ Hollow blanks (body found) := by
  have some_solid {value : String} (solid : dialect.trim value ≠ "") : ¬ ∀ c ∈ value.toList, blanks.space c = true := by
    rw [trims] at solid
    exact fun all => solid (trimMatches_empty_iff.mpr all)
  cases meant with
  | null unary =>
    rw [binary] at unary
    cases unary
  | compare comparison read => exact operand_solid trims (some_solid solid) read
  | like => exact fun hollow => some_solid solid ((hollow_units blanks).mp hollow)
  | @substring front behind wild =>
    obtain ⟨c, member, other⟩ : ∃ c ∈ condition.value.toList, blanks.space c = false := by
      simpa using some_solid solid
    obtain ⟨kept, inside, more, percent⟩ := escaped_solid member other
    intro hollow
    have present : kept.toNat ∈ (units (front ++ escapeLikeWildcards condition.value ++ behind)).filter (· ≠ 37) := by
      refine List.mem_filter.mpr ⟨List.mem_map_of_mem ?_, decide_eq_true fun same => percent (Char.toNat_inj.mp same)⟩
      rw [String.toList_append, String.toList_append]
      exact List.mem_append_left _ (List.mem_append_right _ inside)
    obtain ⟨c, space, same⟩ := hollow _ present
    rw [Char.toNat_inj.mp same, more] at space
    cases space
  | @member negated first others read =>
    obtain ⟨item, kept, read⟩ := mem_mapM_some read List.mem_cons_self
    obtain ⟨present, nonempty⟩ := List.mem_filter.mp kept
    obtain ⟨part, -, rfl⟩ := List.mem_map.mp present
    have solid : ¬ ∀ c ∈ (dialect.trim part).toList, blanks.space c = true := by
      rw [trims] at nonempty ⊢
      obtain ⟨c, inside, other⟩ := trimMatches_solid (bne_iff_ne.mp nonempty)
      intro all
      rw [all c inside] at other
      cases other
    exact fun hollow => operand_solid trims solid read ((hollow_append blanks).mp hollow).1
  | between split lower_solid read read' =>
    exact fun hollow => operand_solid trims (some_solid lower_solid) read ((hollow_append blanks).mp hollow).1

end Meanings

end Pipa.TableFilter
