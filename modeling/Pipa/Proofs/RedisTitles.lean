import Pipa.RedisWorkspace
import Pipa.WorkspacePersistence
import Mathlib.Data.List.Basic

/-! The database in the title of a key tab: which number a title names first, and when that
is still the number it was made with after the connection has been renamed. -/

namespace Pipa.RedisBrowsing

def gap : List Char := [' ', '·', ' ']

/-- The text goes on with a database number, between the marks of a key title. -/
def Names (text number : List Char) : Prop :=
  ∃ rest, text = gap ++ ('D' :: 'B' :: ' ' :: (number ++ (gap ++ rest))) ∧ number ≠ [] ∧ ∀ c ∈ number, c.isDigit = true

/-- The first place of a text where a database number stands between these marks names it. -/
inductive FirstNames : List Char → List Char → Prop
  | here {text number : List Char} (named : Names text number) : FirstNames text number
  | later {c : Char} {text number : List Char} (unnamed : ∀ other, ¬ Names (c :: text) other) (rest : FirstNames text number) :
    FirstNames (c :: text) number

private theorem digits_taken {number rest : List Char} (digits : ∀ c ∈ number, c.isDigit = true) :
    (number ++ (gap ++ rest)).takeWhile Char.isDigit = number ∧ (number ++ (gap ++ rest)).dropWhile Char.isDigit = gap ++ rest := by
  rw [List.takeWhile_append_of_pos digits, List.dropWhile_append_of_pos digits]
  exact ⟨List.append_nil number, rfl⟩

theorem databaseAt_iff {text : List Char} {number : String} : databaseAt text = some number ↔ Names text number.toList := by
  constructor
  · intro found
    rw [databaseAt] at found
    split at found
    next marks =>
      obtain ⟨opening, nonempty, closing⟩ := marks
      obtain rfl := Option.some.inj found
      rw [String.toList_ofList]
      refine ⟨((text.drop 6).dropWhile Char.isDigit).drop 3, ?_, nonempty, fun c member => ?_⟩
      · have behind := List.take_append_drop 3 ((text.drop 6).dropWhile Char.isDigit)
        have front := List.take_append_drop 6 text
        rw [closing] at behind
        rw [opening, ← List.takeWhile_append_dropWhile (p := Char.isDigit) (l := text.drop 6), ← behind] at front
        exact front.symm
      · exact List.mem_takeWhile_imp member
    next => cases found
  · intro named
    obtain ⟨rest, rfl, nonempty, digits⟩ := named
    obtain ⟨taken, left⟩ := @digits_taken _ rest digits
    have dropped : (gap ++ ('D' :: 'B' :: ' ' :: (number.toList ++ (gap ++ rest)))).drop 6 = number.toList ++ (gap ++ rest) := rfl
    rw [databaseAt, dropped, taken, left, if_pos ⟨rfl, nonempty, rfl⟩, String.ofList_toList]

theorem databaseAt_none {text : List Char} : databaseAt text = none ↔ ∀ number, ¬ Names text number := by
  rw [Option.eq_none_iff_forall_not_mem]
  constructor
  · intro none number named
    refine none (String.ofList number) (databaseAt_iff.mpr ?_)
    rwa [String.toList_ofList]
  · intro none number found
    exact none _ (databaseAt_iff.mp found)

theorem findSome_firstNames {text : List Char} {number : String} :
    text.tails.findSome? databaseAt = some number ↔ FirstNames text number.toList := by
  induction text with
  | nil =>
    constructor
    · intro found
      cases found
    · intro named
      cases named with
      | here named =>
        obtain ⟨rest, impossible, -⟩ := named
        cases impossible
  | cons c text ih =>
    have shape : (c :: text).tails = (c :: text) :: text.tails := rfl
    rw [shape, List.findSome?_cons]
    cases here : databaseAt (c :: text) with
    | none =>
      have unnamed := databaseAt_none.mp here
      dsimp only
      rw [ih]
      constructor
      · exact .later unnamed
      · intro named
        cases named with
        | here named => exact absurd named (unnamed _)
        | later _ rest => exact rest
    | some found =>
      have named := databaseAt_iff.mp here
      dsimp only
      constructor
      · intro same
        obtain rfl := Option.some.inj same
        exact .here named
      · intro first
        cases first with
        | here named' => rw [← here, databaseAt_iff.mpr named']
        | later unnamed _ => exact absurd named (unnamed _)

theorem findSome_of_firstNames {text number : List Char} (first : FirstNames text number) :
    text.tails.findSome? databaseAt = some (String.ofList number) := by
  apply findSome_firstNames.mpr
  rwa [String.toList_ofList]

/-- A place that begins in a name ends before whatever stands behind the name's first mark. -/
theorem names_within {front more number : List Char} (nonempty : front ≠ []) :
    Names (front ++ (gap ++ more)) number ↔ Names (front ++ gap) number := by
  constructor
  · intro named
    obtain ⟨rest, shape, digit, digits⟩ := named
    have split : (front ++ gap) ++ more = (gap ++ ('D' :: 'B' :: ' ' :: (number ++ gap))) ++ rest := by simpa using shape
    obtain ⟨beyond, longer, -⟩ | ⟨left, within, -⟩ := List.append_eq_append_iff.mp split
    · -- both marks of the place have a dot, and the second one is that behind the name
      have beyond_nil : beyond = [] := by
        obtain ⟨c, front, rfl⟩ := List.exists_cons_of_ne_nil nonempty
        obtain ⟨-, longer⟩ := List.cons.inj longer
        cases front with
        | nil => cases longer
        | cons c' front =>
          obtain ⟨-, longer⟩ := List.cons.inj longer
          have dotted : (' ' :: 'D' :: 'B' :: ' ' :: (number ++ [' '])) ++ '·' :: [' '] = (front ++ [' ']) ++ '·' :: (' ' :: beyond) := by
            simpa [gap] using longer
          have undotted : '·' ∉ number := fun member => by cases digits _ member
          have left_free : '·' ∉ ' ' :: 'D' :: 'B' :: ' ' :: (number ++ [' ']) := by simp [undotted]
          have right_free : '·' ∉ [' '] := by decide
          obtain ⟨-, -, ended⟩ := (List.append_cons_inj_of_notMem left_free right_free).mp dotted
          exact (List.cons.inj ended).2.symm
      rw [beyond_nil, List.append_nil] at longer
      exact ⟨[], by simpa using longer.symm, digit, digits⟩
    · exact ⟨left, by simpa using within, digit, digits⟩
  · intro named
    obtain ⟨rest, shape, digit, digits⟩ := named
    refine ⟨rest ++ more, ?_, digit, digits⟩
    rw [← List.append_assoc, shape]
    simp

/-- Behind a name the title names its number, unless the name has named one. -/
theorem findSome_named {more : List Char} {database : String} (marked : databaseAt (gap ++ more) = some database) (name : List Char) :
    (name ++ (gap ++ more)).tails.findSome? databaseAt = ((name ++ gap).tails.findSome? databaseAt).or (some database) := by
  induction name with
  | nil =>
    have shape : (gap ++ more).tails = (gap ++ more) :: (gap ++ more).tail.tails := rfl
    rw [List.nil_append, shape, List.findSome?_cons, marked]
    rfl
  | cons c name ih =>
    have same : databaseAt (c :: name ++ (gap ++ more)) = databaseAt (c :: name ++ gap) := by
      apply Option.ext
      intro number
      rw [databaseAt_iff, databaseAt_iff]
      exact names_within (List.cons_ne_nil c name)
    have shape (text : List Char) : (c :: text).tails = (c :: text) :: text.tails := rfl
    rw [List.cons_append, List.cons_append] at same ⊢
    rw [shape, shape, List.findSome?_cons, List.findSome?_cons, same]
    cases databaseAt (c :: (name ++ gap)) with
    | none => exact ih
    | some found => rfl

/-- A key title gives its database back unless its connection's name, before the mark, names
another one first. -/
theorem redisKeyWorkspaceTitle_database {connectionName database keyName : String} (nonempty : database ≠ "")
    (digits : ∀ c ∈ database.toList, c.isDigit = true) :
    redisDatabaseFromWorkspaceTitle (redisKeyWorkspaceTitle connectionName database keyName) = some database ↔
      ∀ number, FirstNames (connectionName ++ " · ").toList number → number = database.toList := by
  have marked : databaseAt (gap ++ ('D' :: 'B' :: ' ' :: (database.toList ++ (gap ++ keyName.toList)))) = some database :=
    databaseAt_iff.mpr ⟨keyName.toList, rfl, mt String.toList_eq_nil_iff.mp nonempty, digits⟩
  have shape : (redisKeyWorkspaceTitle connectionName database keyName).toList =
      connectionName.toList ++ (gap ++ ('D' :: 'B' :: ' ' :: (database.toList ++ (gap ++ keyName.toList)))) := by
    have marks : " · DB ".toList = gap ++ ['D', 'B', ' '] ∧ " · ".toList = gap := ⟨rfl, rfl⟩
    simp only [redisKeyWorkspaceTitle, String.toList_append, marks, List.append_assoc, List.cons_append, List.nil_append]
  have named : (connectionName ++ " · ").toList = connectionName.toList ++ gap := String.toList_append
  rw [redisDatabaseFromWorkspaceTitle, shape, findSome_named marked, named]
  constructor
  · intro same number first
    rw [findSome_of_firstNames first] at same
    rw [← Option.some.inj same, String.toList_ofList]
  · intro only
    cases found : (connectionName.toList ++ gap).tails.findSome? databaseAt with
    | none => rfl
    | some number =>
      have same := only _ (findSome_firstNames.mp found)
      rw [String.toList_inj.mp same]
      rfl

end Pipa.RedisBrowsing

namespace Pipa.WorkspacePersistence
open RedisBrowsing

section Renames
variable (localeCompare : String → String → Ordering)

/-- A connection is renamed, from the name that it has to each of these in turn. -/
def renames (connectionId : String) : WorkspacePersistence → String → List String → WorkspacePersistence
  | hook, _, [] => hook
  | hook, name, next :: names => renames connectionId (hook.renameConnectionTabTitles localeCompare connectionId name next) next names

/-- The hook refuses every change of its tabs. -/
def Refuses (hook : WorkspacePersistence) : Bool := hook.recoveryBlocked || hook.discarding

/-- The name in the generated titles after these renames: refused ones leave the first. -/
def shownName (hook : WorkspacePersistence) (name : String) (names : List String) : String :=
  if hook.Refuses then name else names.getLastD name

/-- The tab as it was, with this title; its place in the strip is not looked at. -/
structure Retitled (title : String) (tab renamed : WorkspaceTab) : Prop where
  id : renamed.id = tab.id
  connectionId : renamed.connectionId = tab.connectionId
  sqlText : renamed.sqlText = tab.sqlText
  title : renamed.title = title

theorem updateTabs_refuses (hook : WorkspacePersistence) (tabs : List WorkspaceTab) :
    (hook.updateTabs localeCompare tabs).Refuses = hook.Refuses := by
  rw [updateTabs]
  split <;> rfl

theorem rename_refuses (hook : WorkspacePersistence) (connectionId previousName nextName : String) :
    (hook.renameConnectionTabTitles localeCompare connectionId previousName nextName).Refuses = hook.Refuses := by
  rw [renameConnectionTabTitles]
  split
  · rfl
  · dsimp only
    split
    · exact updateTabs_refuses localeCompare hook _
    · rfl

theorem updateTabs_mem {hook : WorkspacePersistence} {tabs : List WorkspaceTab} {tab : WorkspaceTab}
    (accepts : hook.Refuses = false) (listed : tab ∈ tabs) :
    ∃ position, { tab with position } ∈ (hook.updateTabs localeCompare tabs).tabs := by
  have updated : (hook.updateTabs localeCompare tabs).tabs = renumber (sanitizeWorkspaceTabs localeCompare tabs) := by
    rw [Refuses] at accepts
    rw [updateTabs, accepts]
    rfl
  have sorted : tab ∈ sanitizeWorkspaceTabs localeCompare tabs := List.mem_mergeSort.mpr listed
  obtain ⟨position, bound, rfl⟩ := List.mem_iff_getElem.mp sorted
  rw [updated]
  exact ⟨position, List.mem_mapIdx.mpr ⟨position, bound, rfl⟩⟩

theorem title_behind (name database keyName : String) :
    redisKeyWorkspaceTitle name database keyName = name ++ " · " ++ ("DB " ++ database ++ " · " ++ keyName) := by
  have mark : " · DB " = " · " ++ "DB " := rfl
  rw [redisKeyWorkspaceTitle, mark]
  simp only [String.append_assoc]

/-- A rename puts the next name in front of what a generated title says behind its mark. -/
theorem rename_retitles {hook : WorkspacePersistence} {tab : WorkspaceTab} {name database keyName : String} (next : String)
    (accepts : hook.Refuses = false) (listed : tab ∈ hook.tabs) (titled : tab.title = redisKeyWorkspaceTitle name database keyName) :
    ∃ renamed ∈ (hook.renameConnectionTabTitles localeCompare tab.connectionId name next).tabs,
      Retitled (redisKeyWorkspaceTitle next database keyName) tab renamed := by
  have unblocked : hook.recoveryBlocked = false := (Bool.or_eq_false_iff.mp accepts).1
  rw [renameConnectionTabTitles, unblocked, Bool.false_or]
  by_cases same : name = next
  · rw [if_pos (decide_eq_true same)]
    exact ⟨tab, listed, rfl, rfl, rfl, same ▸ titled⟩
  · have shape : tab.title.toList = (name ++ " · ").toList ++ ("DB " ++ database ++ " · " ++ keyName).toList := by
      rw [titled, title_behind, String.toList_append]
    have generated : hasGeneratedTitle tab.connectionId name tab = true := by
      rw [hasGeneratedTitle, decide_eq_true rfl, Bool.true_and, shape]
      exact List.isPrefixOf_iff_prefix.mpr (List.prefix_append _ _)
    have kept : String.ofList (tab.title.toList.drop (name ++ " · ").length) = "DB " ++ database ++ " · " ++ keyName := by
      rw [shape, ← String.length_toList, List.drop_left, String.ofList_toList]
    have mapped := List.mem_map_of_mem (f := fun tab' : WorkspaceTab =>
      if hasGeneratedTitle tab.connectionId name tab' then
        { tab' with title := next ++ " · " ++ String.ofList (tab'.title.toList.drop (name ++ " · ").length) }
      else tab') listed
    rw [if_pos generated, kept, ← title_behind] at mapped
    obtain ⟨position, renamed⟩ := updateTabs_mem localeCompare accepts mapped
    rw [if_neg (by simp [same])]
    dsimp only
    rw [if_pos (List.any_eq_true.mpr ⟨tab, listed, generated⟩)]
    exact ⟨_, renamed, rfl, rfl, rfl, rfl⟩

theorem rename_refused {hook : WorkspacePersistence} (refuses : hook.Refuses = true) (connectionId name next : String) :
    (hook.renameConnectionTabTitles localeCompare connectionId name next).tabs = hook.tabs := by
  rw [Refuses] at refuses
  rw [renameConnectionTabTitles]
  split
  · rfl
  · dsimp only
    split
    · rw [updateTabs, if_pos refuses]
    · rfl

/-- Renames carry a key tab along, with the name that they come to in its title. -/
theorem renames_retitle {hook : WorkspacePersistence} {tab : WorkspaceTab} {name database keyName : String} (names : List String)
    (listed : tab ∈ hook.tabs) (titled : tab.title = redisKeyWorkspaceTitle name database keyName) :
    ∃ renamed ∈ (renames localeCompare tab.connectionId hook name names).tabs,
      Retitled (redisKeyWorkspaceTitle (shownName hook name names) database keyName) tab renamed := by
  cases refuses : hook.Refuses with
  | true =>
    have kept (next : String) (names : List String) (current : WorkspacePersistence) (refuses : current.Refuses = true) :
        (renames localeCompare tab.connectionId current next names).tabs = current.tabs := by
      induction names generalizing current next with
      | nil => rfl
      | cons later names ih =>
        rw [renames, ih _ _ ((rename_refuses localeCompare current tab.connectionId next later).trans refuses)]
        exact rename_refused localeCompare refuses tab.connectionId next later
    rw [kept name names hook refuses, shownName, if_pos refuses]
    exact ⟨tab, listed, rfl, rfl, rfl, titled⟩
  | false =>
    rw [shownName, if_neg (Bool.eq_false_iff.mp refuses)]
    induction names generalizing hook tab name with
    | nil => exact ⟨tab, listed, rfl, rfl, rfl, titled⟩
    | cons next names ih =>
      obtain ⟨renamed, member, once⟩ := rename_retitles localeCompare next refuses listed titled
      obtain ⟨last, found, again⟩ :=
        ih member once.title ((rename_refuses localeCompare hook tab.connectionId name next).trans refuses)
      rw [once.connectionId] at found
      refine ⟨last, found, again.id.trans once.id, again.connectionId.trans once.connectionId, again.sqlText.trans once.sqlText, ?_⟩
      rw [again.title, List.getLastD_cons]

/-- After any renames the database of a key tab is still read from its title if and only if the
name then shown, with the mark behind it, names no other database first. -/
theorem renames_database {hook : WorkspacePersistence} {tab : WorkspaceTab} {name database keyName : String} (names : List String)
    (listed : tab ∈ hook.tabs) (titled : tab.title = redisKeyWorkspaceTitle name database keyName) (nonempty : database ≠ "")
    (digits : ∀ c ∈ database.toList, c.isDigit = true) :
    ∃ renamed ∈ (renames localeCompare tab.connectionId hook name names).tabs,
      Retitled (redisKeyWorkspaceTitle (shownName hook name names) database keyName) tab renamed ∧
      (redisDatabaseFromWorkspaceTitle renamed.title = some database ↔
        ∀ number, FirstNames (shownName hook name names ++ " · ").toList number → number = database.toList) := by
  obtain ⟨renamed, member, retitled⟩ := renames_retitle localeCompare names listed titled
  refine ⟨renamed, member, retitled, ?_⟩
  rw [retitled.title]
  exact redisKeyWorkspaceTitle_database nonempty digits

end Renames

/-- A hook with one tab, of a key in the third database. -/
def keyHook (connectionName : String) : WorkspacePersistence :=
  { start with
    load := .idle
    tabs := [{ id := "tab-1", connectionId := "connection-1", title := redisKeyWorkspaceTitle connectionName "3" "user:1"
               sqlText := "", position := 0 }] }

theorem renames_database_cache :
    ∃ renamed ∈ (renames (fun _ _ => .eq) "connection-1" (keyHook "cache") "cache" ["cache DB 7", "缓存"]).tabs,
      redisDatabaseFromWorkspaceTitle renamed.title = some "3" := by
  have digits : ∀ c ∈ "3".toList, c.isDigit = true := List.all_eq_true.mp (by decide)
  obtain ⟨renamed, member, -, read⟩ := renames_database (fun _ _ => .eq) ["cache DB 7", "缓存"]
    (show _ ∈ (keyHook "cache").tabs from List.mem_singleton_self _) rfl (by decide) digits
  refine ⟨renamed, member, read.mpr fun number first => ?_⟩
  have unnamed : "缓存 · ".toList.tails.findSome? databaseAt = none := by decide +kernel
  have found := findSome_of_firstNames first
  have shown : (shownName (keyHook "cache") "cache" ["cache DB 7", "缓存"] ++ " · ").toList = "缓存 · ".toList := rfl
  rw [shown, unnamed] at found
  cases found

/-- A name that ends like a title of another database takes the tab there. -/
theorem renames_database_elsewhere :
    ∃ renamed ∈ (renames (fun _ _ => .eq) "connection-1" (keyHook "cache") "cache" ["cache · DB 7"]).tabs,
      renamed.id = "tab-1" ∧ redisDatabaseFromWorkspaceTitle renamed.title = some "7" := by
  decide +kernel

end Pipa.WorkspacePersistence
