import Pipa.RedisCells

/-! Maps of Redis responses as JSON. An object has one member for each entry exactly if the
texts of the keys are distinct, although keys of different types can have one text. -/

namespace Pipa.Redis
open Text

/-- The text of a key that is shown as one. -/
def RespValue.keyText : RespValue → Option String
  | .simple text | .error text | .integer text | .bigNumber text | .double text => some text
  | .bulk (some bytes) | .verbatim bytes => some ((fromUtf8 bytes).getD ("base64:" ++ String.ofList (Base64.encode bytes)))
  | .bulk none | .array _ | .boolean _ | .map _ | .set _ | .null => none

mutual

/-- The JSON has one entry for each entry of every map in the value: a member of an object
under the text of the key, or a pair of a list. -/
def Kept : RespValue → Json → Prop
  | .array (some values), json | .set values, json => ∃ items, json = .array items ∧ KeptAll values items
  | .map entries, json =>
    (∃ members, json = .object members ∧ members.length = entries.length ∧ KeptMembers members entries) ∨
      ∃ pairs, json = .array pairs ∧ KeptPairs entries pairs
  | _, _ => True

def KeptAll : List RespValue → List Json → Prop
  | [], items => items = []
  | value :: values, items => ∃ item rest, items = item :: rest ∧ Kept value item ∧ KeptAll values rest

def KeptMembers (members : List (String × Json)) : List (RespValue × RespValue) → Prop
  | [] => True
  | (key, value) :: entries =>
    (∃ text item, (text, item) ∈ members ∧ key.keyText = some text ∧ Kept value item) ∧ KeptMembers members entries

def KeptPairs : List (RespValue × RespValue) → List Json → Prop
  | [], pairs => pairs = []
  | (key, value) :: entries, pairs =>
    ∃ first second rest, pairs = .array [first, second] :: rest ∧ Kept key first ∧ Kept value second ∧ KeptPairs entries rest

end

mutual

/-- In every map of the value, keys that all are texts have different texts. -/
def Clear : RespValue → Prop
  | .array (some values) | .set values => ClearAll values
  | .map entries =>
    ((∀ entry ∈ entries, entry.1.keyText.isSome = true) → (entries.map fun entry => entry.1.keyText).Nodup) ∧ ClearEntries entries
  | _ => True

def ClearAll : List RespValue → Prop
  | [] => True
  | value :: values => Clear value ∧ ClearAll values

def ClearEntries : List (RespValue × RespValue) → Prop
  | [] => True
  | (key, value) :: entries => Clear key ∧ Clear value ∧ ClearEntries entries

end

theorem responseJson_text {value : RespValue} {text : String} (key : value.keyText = some text) : responseJson value = .string text := by
  cases value with
  | simple | error | integer | bigNumber | double =>
    obtain rfl := Option.some.inj key
    rw [responseJson]
  | bulk bytes =>
    cases bytes with
    | none => cases key
    | some bytes =>
      obtain rfl := Option.some.inj key
      rw [responseJson]
      cases fromUtf8 bytes <;> rfl
  | verbatim bytes =>
    obtain rfl := Option.some.inj key
    rw [responseJson]
    cases fromUtf8 bytes <;> rfl
  | array | boolean | map | set | null => cases key

theorem mapJson_untext (built : MapJson) (entries : List (RespValue × RespValue)) (text : String) :
    mapJson built entries ≠ .string text := by
  induction entries generalizing built with
  | nil =>
    rw [mapJson, MapJson.finish]
    split
    · exact Json.noConfusion
    · exact Json.noConfusion
  | cons entry entries ih =>
    rw [mapJson]
    exact ih _

theorem responseJson_untext {value : RespValue} (key : value.keyText = none) (text : String) : responseJson value ≠ .string text := by
  cases value with
  | simple | error | integer | bigNumber | double | verbatim => cases key
  | bulk bytes =>
    cases bytes with
    | none =>
      rw [responseJson]
      exact Json.noConfusion
    | some bytes => cases key
  | array values =>
    cases values with
    | none =>
      rw [responseJson]
      exact Json.noConfusion
    | some values =>
      rw [responseJson]
      exact Json.noConfusion
  | boolean | set | null =>
    rw [responseJson]
    exact Json.noConfusion
  | map entries =>
    rw [responseJson]
    exact mapJson_untext _ entries text

/-! ### What the loop over a map builds -/

/-- The members for the entries whose keys are texts. -/
def textMembers (entries : List (RespValue × RespValue)) : List (String × Json) :=
  entries.filterMap fun entry => entry.1.keyText.map fun text => (text, responseJson entry.2)

def entryPairs (entries : List (RespValue × RespValue)) : List Json :=
  entries.map fun entry => .array [responseJson entry.1, responseJson entry.2]

def allTexts (entries : List (RespValue × RespValue)) : Bool := entries.all fun entry => entry.1.keyText.isSome

theorem push_text {built : MapJson} {key : RespValue} {text : String} (shown : key.keyText = some text) (value : Json) :
    built.push (responseJson key) value = { built with
      object := SortedEntries.insert text value built.object
      pairs := built.pairs ++ [.array [responseJson key, value]] } := by
  rw [responseJson_text shown]
  rfl

theorem push_untext {built : MapJson} {key : RespValue} (shown : key.keyText = none) (value : Json) :
    built.push (responseJson key) value = { built with
      pairs := built.pairs ++ [.array [responseJson key, value]]
      allTextKeys := false } := by
  have other := responseJson_untext shown
  generalize responseJson key = json at other ⊢
  cases json with
  | string text => exact absurd rfl (other text)
  | null | bool | array | object => rfl

theorem mapJson_built (built : MapJson) (entries : List (RespValue × RespValue)) :
    mapJson built entries = MapJson.finish {
      object := (textMembers entries).foldl (fun map member => SortedEntries.insert member.1 member.2 map) built.object
      pairs := built.pairs ++ entryPairs entries
      allTextKeys := built.allTextKeys && allTexts entries } := by
  induction entries generalizing built with
  | nil =>
    rw [mapJson, entryPairs, List.map_nil, List.append_nil, allTexts, List.all_nil, Bool.and_true]
    rfl
  | cons entry entries ih =>
    obtain ⟨key, value⟩ := entry
    rw [mapJson, ih]
    cases shown : key.keyText with
    | some text =>
      rw [push_text shown]
      simp only [textMembers, entryPairs, allTexts, List.filterMap_cons, shown, Option.map_some, List.foldl_cons, List.map_cons,
        List.append_assoc, List.singleton_append, List.all_cons, Option.isSome_some, Bool.true_and]
    | none =>
      rw [push_untext shown]
      simp only [textMembers, entryPairs, allTexts, List.filterMap_cons, shown, Option.map_none, List.map_cons,
        List.append_assoc, List.singleton_append, List.all_cons, Option.isSome_none, Bool.false_and, Bool.and_false]

/-- A map becomes an object if all its keys are texts, or a list of pairs. -/
theorem mapJson_eq (entries : List (RespValue × RespValue)) :
    mapJson .empty entries =
      if allTexts entries = true then .object (SortedEntries.insertAll (textMembers entries)) else .array (entryPairs entries) := by
  rw [mapJson_built, MapJson.finish]
  rfl

section Texts
variable {entries : List (RespValue × RespValue)} (texts : allTexts entries = true)
include texts

theorem textMembers_keys : (textMembers entries).map (fun member => some member.1) = entries.map fun entry => entry.1.keyText := by
  induction entries with
  | nil => rfl
  | cons entry entries ih =>
    rw [allTexts, List.all_cons, Bool.and_eq_true] at texts
    obtain ⟨text, shown⟩ := Option.isSome_iff_exists.mp texts.1
    rw [textMembers, List.filterMap_cons, shown, Option.map_some, List.map_cons, List.map_cons, shown]
    exact congrArg _ (ih texts.2)

theorem textMembers_length : (textMembers entries).length = entries.length := by
  have lengths := congrArg List.length (textMembers_keys texts)
  rwa [List.length_map, List.length_map] at lengths

/-- The texts of the keys are distinct exactly if the object has a member for each entry. -/
theorem distinct_iff : (entries.map fun entry => entry.1.keyText).Nodup ↔
    (SortedEntries.insertAll (textMembers entries)).length = entries.length := by
  rw [← textMembers_keys texts, ← textMembers_length texts, SortedEntries.length_insertAll]
  have keys : (textMembers entries).map (fun member => some member.1) = ((textMembers entries).map Prod.fst).map some := by
    rw [List.map_map]
    rfl
  rw [keys]
  exact List.nodup_map_iff fun _ _ same => Option.some.inj same

end Texts

theorem mem_textMembers {entries : List (RespValue × RespValue)} {key value : RespValue} {text : String} (member : (key, value) ∈ entries)
    (shown : key.keyText = some text) : (text, responseJson value) ∈ textMembers entries :=
  List.mem_filterMap.mpr ⟨(key, value), member, by rw [shown]; rfl⟩

/-- A key that is a text has no map in it. -/
theorem clear_text {key : RespValue} {text : String} (shown : key.keyText = some text) : Clear key := by
  cases key with
  | simple | error | integer | bigNumber | double | verbatim => trivial
  | bulk => trivial
  | array | boolean | map | set | null => cases shown

/-! ### Nothing is lost -/

mutual

theorem kept_iff : (value : RespValue) → (Kept value (responseJson value) ↔ Clear value)
  | .simple _ | .error _ | .integer _ | .bulk _ | .array none | .boolean _ | .double _ | .bigNumber _ | .verbatim _ | .null =>
    iff_of_true trivial trivial
  | .array (some values) => by
    rw [responseJson, Kept, Clear, ← keptAll_iff values]
    constructor
    · intro ⟨items, same, kept⟩
      obtain rfl := Json.array.inj same
      exact kept
    · exact fun kept => ⟨_, rfl, kept⟩
  | .set values => by
    rw [responseJson, Kept, Clear, ← keptAll_iff values]
    constructor
    · intro ⟨items, same, kept⟩
      obtain rfl := Json.array.inj same
      exact kept
    · exact fun kept => ⟨_, rfl, kept⟩
  | .map entries => by
    rw [responseJson, mapJson_eq, Kept, Clear]
    have every : allTexts entries = true ↔ ∀ entry ∈ entries, entry.1.keyText.isSome = true := List.all_eq_true
    by_cases texts : allTexts entries = true
    · have members (distinct : (entries.map fun entry => entry.1.keyText).Nodup) :
          KeptMembers (SortedEntries.insertAll (textMembers entries)) entries ↔ ClearEntries entries := by
        have whole := (distinct_iff texts).mp distinct
        rw [← textMembers_length texts] at whole
        have keys := (SortedEntries.length_insertAll _).mp whole
        refine keptMembers_iff (SortedEntries.insertAll_sorted _).keys_nodup entries ?_ texts
        intro key value text member shown
        exact (SortedEntries.mem_insertAll _ keys).mpr (mem_textMembers member shown)
      rw [if_pos texts]
      constructor
      · rintro (⟨members', same, whole, kept⟩ | ⟨pairs, same, _⟩)
        · obtain rfl := Json.object.inj same
          have distinct := (distinct_iff texts).mpr whole
          exact ⟨fun _ => distinct, (members distinct).mp kept⟩
        · cases same
      · intro ⟨distinct, clear⟩
        have distinct := distinct (every.mp texts)
        exact .inl ⟨_, rfl, (distinct_iff texts).mp distinct, (members distinct).mpr clear⟩
    · rw [if_neg texts]
      constructor
      · rintro (⟨members, same, _⟩ | ⟨pairs, same, kept⟩)
        · cases same
        · obtain rfl := Json.array.inj same
          exact ⟨fun all => absurd (every.mpr all) texts, (keptPairs_iff entries).mp kept⟩
      · intro ⟨_, clear⟩
        exact .inr ⟨_, rfl, (keptPairs_iff entries).mpr clear⟩

theorem keptAll_iff : (values : List RespValue) → (KeptAll values (responsesJson values) ↔ ClearAll values)
  | [] => iff_of_true rfl trivial
  | value :: values => by
    rw [responsesJson, KeptAll, ClearAll, ← kept_iff value, ← keptAll_iff values]
    constructor
    · intro ⟨item, rest, same, kept, others⟩
      obtain ⟨rfl, rfl⟩ := List.cons.inj same
      exact ⟨kept, others⟩
    · exact fun both => ⟨_, _, rfl, both⟩

theorem keptMembers_iff {members : List (String × Json)} (distinct : (members.map Prod.fst).Nodup) :
    (entries : List (RespValue × RespValue)) →
    (∀ key value text, (key, value) ∈ entries → key.keyText = some text → (text, responseJson value) ∈ members) →
    allTexts entries = true → (KeptMembers members entries ↔ ClearEntries entries)
  | [], _, _ => iff_of_true trivial trivial
  | (key, value) :: entries, listed, texts => by
    rw [allTexts, List.all_cons, Bool.and_eq_true] at texts
    obtain ⟨text, shown⟩ := Option.isSome_iff_exists.mp texts.1
    have here := listed key value text List.mem_cons_self shown
    have others := keptMembers_iff distinct entries (fun key value text member => listed key value text (List.mem_cons_of_mem _ member)) texts.2
    rw [KeptMembers, ClearEntries, others, ← kept_iff value]
    constructor
    · intro ⟨⟨text', item, member, shown', kept⟩, later⟩
      obtain rfl := Option.some.inj (shown.symm.trans shown')
      have same := List.inj_on_of_nodup_map distinct member here rfl
      rw [(Prod.mk.inj same).2] at kept
      exact ⟨clear_text shown, kept, later⟩
    · intro ⟨_, kept, later⟩
      exact ⟨⟨text, _, here, shown, kept⟩, later⟩

theorem keptPairs_iff : (entries : List (RespValue × RespValue)) → (KeptPairs entries (entryPairs entries) ↔ ClearEntries entries)
  | [] => iff_of_true rfl trivial
  | (key, value) :: entries => by
    rw [entryPairs, List.map_cons, KeptPairs, ClearEntries, ← kept_iff key, ← kept_iff value, ← keptPairs_iff entries]
    constructor
    · intro ⟨first, second, rest, same, kept, kept', others⟩
      obtain ⟨pair, rfl⟩ := List.cons.inj same
      obtain ⟨rfl, values⟩ := List.cons.inj (Json.array.inj pair)
      obtain ⟨rfl, -⟩ := List.cons.inj values
      exact ⟨kept, kept', others⟩
    · intro ⟨kept, kept', others⟩
      exact ⟨_, _, _, rfl, kept, kept', others⟩

end

theorem mapJson_kept (entries : List (RespValue × RespValue)) : Kept (.map entries) (mapJson .empty entries) ↔ Clear (.map entries) := by
  have kept := kept_iff (.map entries)
  rwa [responseJson] at kept

/-- The JSON of a map, which its cell shows as text, has an entry for each entry of the map,
at every level, exactly if in every map within it whose keys all are texts the texts are
distinct. -/
theorem maps_kept (parseFinite : String → Option UInt64) (entries : List (RespValue × RespValue)) :
    responseCell parseFinite (.map entries) = .json (mapJson .empty entries).text ∧
      (Kept (.map entries) (mapJson .empty entries) ↔ Clear (.map entries)) :=
  ⟨by rw [responseCell], mapJson_kept entries⟩

mutual

/-- The keys of every map of the value are distinct. -/
def DistinctKeys : RespValue → Prop
  | .array (some values) | .set values => AllDistinctKeys values
  | .map entries => (entries.map Prod.fst).Nodup ∧ EntriesDistinctKeys entries
  | _ => True

def AllDistinctKeys : List RespValue → Prop
  | [] => True
  | value :: values => DistinctKeys value ∧ AllDistinctKeys values

def EntriesDistinctKeys : List (RespValue × RespValue) → Prop
  | [] => True
  | (key, value) :: entries => DistinctKeys key ∧ DistinctKeys value ∧ EntriesDistinctKeys entries

end

/-- A simple and a bulk string with one text are different keys, of one member. -/
theorem maps_kept_collide :
    ¬∀ entries : List (RespValue × RespValue), DistinctKeys (.map entries) → Kept (.map entries) (mapJson .empty entries) := by
  intro keeps
  have distinct : DistinctKeys (.map [(.simple "a", .integer "1"), (.bulk (some [97]), .integer "2")]) := by
    refine ⟨?_, trivial, trivial, trivial, trivial, trivial⟩
    simp
  have clear := (mapJson_kept _).mp (keeps _ distinct)
  rw [Clear] at clear
  exact absurd (clear.1 (by decide +kernel)) (by decide +kernel)

end Pipa.Redis
