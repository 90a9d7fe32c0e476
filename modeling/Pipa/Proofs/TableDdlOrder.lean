import Pipa.Proofs.TableDdlExecution

/-! Which plans a table executes to the draft. The drops come first, so something must be
kept; then the drafts take their names in order, so none may take the name that a later
one still holds. -/

namespace Pipa.TableDdl
open SqlLexer NamedTable

variable (tables : RegexTables)

/-- Something is kept, and no draft takes the name of an original that a later draft is
made from. -/
def Sequenced (draftColumns : List TableColumnDefinition) : Prop :=
  (∃ column ∈ draftColumns, column.sourceName ≠ none) ∧
    draftColumns.Pairwise fun earlier later => later.sourceName ≠ some earlier.name

/-- An original as the table holds it. -/
def entry (column : TableColumnDefinition) : List Nat × Definition := (units column.name, .original column)

/-- The original a draft is made from. -/
def sourceOf (originalColumns : List TableColumnDefinition) (column : TableColumnDefinition) :
    Option TableColumnDefinition :=
  column.sourceName.bind fun sourceName => originalColumns.find? (·.name = sourceName)

/-- What a draft asks for: its rendered definition, or its original where nothing changed. -/
def requested (originalColumns : List TableColumnDefinition) (column : TableColumnDefinition) : List Nat × Definition :=
  match (sourceOf originalColumns column).filter (sameColumn · column) with
  | some original => (units column.name, .original original)
  | none => (units column.name, .rendered (units (columnSql tables column)))

/-- The conditions under which a plan is compiled. -/
structure Planned (originalColumns draftColumns : List TableColumnDefinition) : Prop where
  originals : originalColumns ≠ []
  drafts : draftColumns ≠ []
  originalNames : (originalColumns.map (·.name)).Nodup
  draftNames : (draftColumns.map (·.name)).Nodup
  sourceNames : (draftColumns.filterMap (·.sourceName)).Nodup
  named : ∀ sourceName ∈ draftColumns.filterMap (·.sourceName), sourceName ∈ originalColumns.map (·.name)

/-- The table as it stands before the plan. -/
def originalTable (originalColumns : List TableColumnDefinition) (names : (originalColumns.map (·.name)).Nodup)
    (some : originalColumns ≠ []) : Columns where
  columns := originalColumns.map entry
  distinct := by
    have units_names : (originalColumns.map entry).map Prod.fst = (originalColumns.map (·.name)).map units := by
      rw [List.map_map, List.map_map]
      rfl
    rw [units_names]
    exact names.map units_injective
  inhabited := by rwa [ne_eq, List.map_eq_nil_iff]

/-! ### The drafts one by one -/

/-- What the plan does for a draft that it accepts. -/
theorem draftAction_ok {originalColumns : List TableColumnDefinition} {column : TableColumnDefinition}
    {action : Option DdlAction} (accepted : draftAction tables originalColumns column = .ok action) :
    (column.sourceName = none ∧ columnTypeValidationError tables column.columnType = none ∧ action = some (.addColumn column)) ∨
      (column.sourceName ≠ none ∧ sourceOf originalColumns column = none ∧ action = none) ∨
      (∃ original, sourceOf originalColumns column = some original ∧ sameColumn original column = true ∧ action = none) ∨
      (∃ sourceName original, column.sourceName = some sourceName ∧ sourceOf originalColumns column = some original ∧
        sameColumn original column = false ∧ columnTypeValidationError tables column.columnType = none ∧
        action = some (.changeColumn sourceName column)) := by
  unfold draftAction at accepted
  cases source : column.sourceName with
  | none =>
    rw [source] at accepted
    dsimp only at accepted
    split at accepted
    next valid => exact Or.inl ⟨rfl, valid, (Except.ok.inj accepted).symm⟩
    next => cases accepted
  | some sourceName =>
    have looked : sourceOf originalColumns column = originalColumns.find? (·.name = sourceName) := by
      rw [sourceOf, source]
      rfl
    rw [source] at accepted
    dsimp only at accepted
    split at accepted
    next missing =>
      exact Or.inr (Or.inl ⟨Option.some_ne_none _, looked.trans missing, (Except.ok.inj accepted).symm⟩)
    next original found =>
      by_cases same : sameColumn original column = true
      · rw [if_pos same] at accepted
        exact Or.inr (Or.inr (Or.inl ⟨original, looked.trans found, same, (Except.ok.inj accepted).symm⟩))
      · rw [if_neg same] at accepted
        by_cases fixed : isStructureColumnEditable tables original = false
        · rw [if_pos fixed] at accepted
          cases accepted
        · rw [if_neg fixed] at accepted
          split at accepted
          next => cases accepted
          next valid =>
            exact Or.inr (Or.inr (Or.inr ⟨sourceName, original, rfl, looked.trans found, Bool.eq_false_iff.mpr same, valid,
              (Except.ok.inj accepted).symm⟩))

theorem sourceOf_name {originalColumns : List TableColumnDefinition} {column original : TableColumnDefinition}
    (found : sourceOf originalColumns column = some original) :
    column.sourceName = some original.name ∧ original ∈ originalColumns := by
  obtain ⟨sourceName, source, found⟩ := Option.bind_eq_some_iff.mp found
  have named := List.find?_some found
  rw [decide_eq_true_eq] at named
  exact ⟨named ▸ source, List.mem_of_find?_eq_some found⟩

theorem requested_name (originalColumns : List TableColumnDefinition) (column : TableColumnDefinition) :
    (requested tables originalColumns column).1 = units column.name := by
  unfold requested
  split <;> rfl

theorem names_requested (originalColumns draftColumns : List TableColumnDefinition) :
    names (draftColumns.map (requested tables originalColumns)) = (draftColumns.map (·.name)).map units := by
  rw [names, List.map_map, List.map_map]
  exact List.map_congr_left fun column _ => requested_name tables originalColumns column

theorem name_mem_units {columns : List TableColumnDefinition} {name : String} :
    units name ∈ (columns.map (·.name)).map units ↔ name ∈ columns.map (·.name) :=
  List.mem_map_of_injective units_injective

theorem sourceOf_named {originalColumns : List TableColumnDefinition} {column : TableColumnDefinition} {sourceName : String}
    (source : column.sourceName = some sourceName) (named : sourceName ∈ originalColumns.map (·.name)) :
    ∃ original, sourceOf originalColumns column = some original ∧ original.name = sourceName := by
  obtain ⟨original, present, rfl⟩ := List.mem_map.mp named
  have found : (originalColumns.find? fun other => decide (other.name = original.name)).isSome = true :=
    List.find?_isSome.mpr ⟨original, present, decide_eq_true rfl⟩
  obtain ⟨other, looked⟩ := Option.isSome_iff_exists.mp found
  have same := List.find?_some looked
  rw [decide_eq_true_eq] at same
  refine ⟨other, ?_, same⟩
  rw [sourceOf, source]
  exact looked

section Behind
variable {originalColumns later : List TableColumnDefinition}

/-- The drafts behind a point hold the names of their sources. -/
theorem name_mem_sources (named : ∀ sourceName ∈ later.filterMap (·.sourceName), sourceName ∈ originalColumns.map (·.name))
    {name : String} :
    units name ∈ names ((later.filterMap (sourceOf originalColumns)).map entry) ↔
      ∃ column ∈ later, column.sourceName = some name := by
  simp only [names, List.map_map, List.mem_map, List.mem_filterMap, Function.comp_apply, entry]
  constructor
  · rintro ⟨original, ⟨column, listed, found⟩, same⟩
    have source := (sourceOf_name found).1
    exact ⟨column, listed, units_injective same ▸ source⟩
  · rintro ⟨column, listed, source⟩
    obtain ⟨original, found, rfl⟩ := sourceOf_named source (named _ (List.mem_filterMap.mpr ⟨column, listed, source⟩))
    exact ⟨original, ⟨column, listed, found⟩, rfl⟩

/-- Between the drafts that are done and those behind it, a draft's name is free exactly
if none behind it holds it. -/
theorem name_free {done : List TableColumnDefinition} {column : TableColumnDefinition}
    (distinct : ((done ++ column :: later).map (·.name)).Nodup)
    (named : ∀ sourceName ∈ later.filterMap (·.sourceName), sourceName ∈ originalColumns.map (·.name)) :
    units column.name ∈ names (done.map (requested tables originalColumns) ++
        (later.filterMap (sourceOf originalColumns)).map entry) ↔
      ∃ other ∈ later, other.sourceName = some column.name := by
  have absent : column.name ∉ done.map (·.name) := by
    rw [List.map_append, List.map_cons] at distinct
    exact fun before => List.disjoint_of_nodup_append distinct before List.mem_cons_self
  rw [names, List.map_append, List.mem_append, ← names, ← names, names_requested, name_mem_units, name_mem_sources named]
  exact or_iff_right absent

end Behind

/-- One draft is executed exactly if no other column has its name. -/
theorem applyAll_draft {originalColumns : List TableColumnDefinition} {column : TableColumnDefinition} {table : Columns}
    {rest : List (List Nat × Definition)} {action : Option DdlAction}
    (named : ∀ sourceName, column.sourceName = some sourceName → sourceName ∈ originalColumns.map (·.name))
    (accepted : draftAction tables originalColumns column = .ok action)
    (columns : table.columns.Perm ((sourceOf originalColumns column).toList.map entry ++ rest)) :
    (units column.name ∉ names rest → ∃ next, table.applyAll (action.toList.map (DdlAction.alteration tables)) = some next ∧
        next.columns.Perm (requested tables originalColumns column :: rest)) ∧
      (units column.name ∈ names rest → table.applyAll (action.toList.map (DdlAction.alteration tables)) = none) := by
  have single (alteration : Alteration (List Nat) Definition) : table.applyAll [alteration] = table.apply alteration := by
    rw [applyAll_cons]
    exact Option.bind_fun_some _
  rcases draftAction_ok tables accepted with ⟨source, -, rfl⟩ | ⟨source, missing, -⟩ |
    ⟨original, found, same, rfl⟩ | ⟨sourceName, original, source, found, changed, -, rfl⟩
  · -- an added column
    have missing : sourceOf originalColumns column = none := by
      rw [sourceOf, source]
      rfl
    rw [missing] at columns
    have request : requested tables originalColumns column = (units column.name, .rendered (units (columnSql tables column))) := by
      rw [requested, missing]
      rfl
    have held : units column.name ∈ names table.columns ↔ units column.name ∈ names rest :=
      (columns.map Prod.fst).mem_iff
    rw [Option.toList_some, List.map_singleton, single, request]
    constructor
    · intro free
      obtain ⟨next, applied, columns'⟩ := apply_add (mt held.mp free)
      exact ⟨next, applied, columns'.trans (columns.cons _)⟩
    · exact fun taken => apply_add_taken (held.mpr taken)
  · -- a source that is no original
    obtain ⟨sourceName, source⟩ := Option.ne_none_iff_exists'.mp source
    obtain ⟨original, found, -⟩ := sourceOf_named source (named sourceName source)
    rw [missing] at found
    cases found
  · -- an unchanged original
    rw [found] at columns
    have name : original.name = column.name := by
      simp only [sameColumn, Bool.and_eq_true, beq_iff_eq] at same
      exact same.1.1.1.1.1.1.1.1.1
    have request : requested tables originalColumns column = entry original := by
      rw [requested, found, Option.filter_some, if_pos same, entry, name]
    rw [request]
    refine ⟨fun _ => ⟨table, rfl, columns⟩, fun taken => ?_⟩
    have distinct := (columns.map Prod.fst).nodup_iff.mp table.distinct
    rw [← name] at taken
    exact absurd taken (List.nodup_cons.mp distinct).1
  · -- a changed original
    rw [found] at columns
    have name : sourceName = original.name := Option.some.inj (source.symm.trans (sourceOf_name found).1)
    have request : requested tables originalColumns column = (units column.name, .rendered (units (columnSql tables column))) := by
      rw [requested, found, Option.filter_some, if_neg (Bool.eq_false_iff.mp changed)]
    rw [Option.toList_some, List.map_singleton, single, request, DdlAction.alteration, name]
    exact ⟨apply_change columns, apply_change_taken columns⟩

/-- The alterations that the drafts ask for. -/
def draftAlterations (originalColumns draftColumns : List TableColumnDefinition) : List (Alteration (List Nat) Definition) :=
  (draftColumns.filterMap fun column => (draftAction tables originalColumns column).toOption.join).map
    (DdlAction.alteration tables)

theorem draftAlterations_cons {originalColumns : List TableColumnDefinition} {column : TableColumnDefinition}
    {action : Option DdlAction} (accepted : draftAction tables originalColumns column = .ok action)
    (later : List TableColumnDefinition) :
    draftAlterations tables originalColumns (column :: later) =
      action.toList.map (DdlAction.alteration tables) ++ draftAlterations tables originalColumns later := by
  rw [draftAlterations, List.filterMap_cons, accepted]
  cases action <;> rfl

/-- Executing the drafts behind a point, when those in front of it are done. -/
theorem applyAll_drafts {originalColumns done remaining : List TableColumnDefinition} {table : Columns}
    (distinct : ((done ++ remaining).map (·.name)).Nodup)
    (named : ∀ sourceName ∈ remaining.filterMap (·.sourceName), sourceName ∈ originalColumns.map (·.name))
    (accepted : ∀ column ∈ remaining, ∃ action, draftAction tables originalColumns column = .ok action)
    (columns : table.columns.Perm (done.map (requested tables originalColumns) ++
      (remaining.filterMap (sourceOf originalColumns)).map entry)) :
    (remaining.Pairwise (fun earlier later => later.sourceName ≠ some earlier.name) →
        ∃ final, table.applyAll (draftAlterations tables originalColumns remaining) = some final ∧
          final.columns.Perm ((done ++ remaining).map (requested tables originalColumns))) ∧
      (¬ remaining.Pairwise (fun earlier later => later.sourceName ≠ some earlier.name) →
        table.applyAll (draftAlterations tables originalColumns remaining) = none) := by
  induction remaining generalizing done table with
  | nil =>
    refine ⟨fun _ => ⟨table, rfl, ?_⟩, fun unordered => absurd List.Pairwise.nil unordered⟩
    simpa using columns
  | cons column later ih =>
    have named' : ∀ sourceName ∈ later.filterMap (·.sourceName), sourceName ∈ originalColumns.map (·.name) := by
      intro sourceName listed
      obtain ⟨other, behind, source⟩ := List.mem_filterMap.mp listed
      exact named sourceName (List.mem_filterMap.mpr ⟨other, List.mem_cons_of_mem _ behind, source⟩)
    have accepted' : ∀ other ∈ later, ∃ action, draftAction tables originalColumns other = .ok action :=
      fun other behind => accepted other (List.mem_cons_of_mem _ behind)
    have distinct' : ((done ++ [column] ++ later).map (·.name)).Nodup := by
      rwa [List.append_assoc, List.singleton_append]
    let rest := done.map (requested tables originalColumns) ++ (later.filterMap (sourceOf originalColumns)).map entry
    have free : units column.name ∉ names rest ↔ ∀ other ∈ later, other.sourceName ≠ some column.name := by
      rw [name_free tables distinct named']
      push Not
      rfl
    have front : table.columns.Perm ((sourceOf originalColumns column).toList.map entry ++ rest) := by
      refine columns.trans ?_
      rw [List.filterMap_cons]
      cases sourceOf originalColumns column with
      | none => exact .refl _
      | some original => exact List.perm_middle
    obtain ⟨action, ok⟩ := accepted column List.mem_cons_self
    have source : ∀ sourceName, column.sourceName = some sourceName → sourceName ∈ originalColumns.map (·.name) :=
      fun sourceName source => named sourceName (List.mem_filterMap.mpr ⟨column, List.mem_cons_self, source⟩)
    obtain ⟨works, fails⟩ := applyAll_draft tables source ok front
    rw [draftAlterations_cons tables ok, applyAll_append, List.pairwise_cons]
    by_cases able : units column.name ∈ names rest
    · rw [fails able]
      exact ⟨fun ordered => absurd able (free.mpr ordered.1), fun _ => rfl⟩
    · obtain ⟨next, applied, columns'⟩ := works able
      have shifted : next.columns.Perm ((done ++ [column]).map (requested tables originalColumns) ++
          (later.filterMap (sourceOf originalColumns)).map entry) := by
        rw [List.map_append, List.append_assoc]
        exact columns'.trans List.perm_middle.symm
      obtain ⟨works', fails'⟩ := ih distinct' named' accepted' shifted
      rw [List.append_assoc, List.singleton_append] at works'
      rw [applied, Option.bind_some]
      exact ⟨fun ordered => works' ordered.2, fun unordered => fails' fun ordered => unordered ⟨free.mp able, ordered⟩⟩

/-! ### The plan as a whole -/

section Kept
variable {originalColumns draftColumns : List TableColumnDefinition}

theorem sourceNames_of_sources
    (named : ∀ sourceName ∈ draftColumns.filterMap (·.sourceName), sourceName ∈ originalColumns.map (·.name)) :
    (draftColumns.filterMap (sourceOf originalColumns)).map (·.name) = draftColumns.filterMap (·.sourceName) := by
  rw [List.map_filterMap]
  refine List.filterMap_congr fun column listed => ?_
  cases source : column.sourceName with
  | none =>
    rw [sourceOf, source]
    rfl
  | some sourceName =>
    obtain ⟨original, found, rfl⟩ := sourceOf_named source (named sourceName (List.mem_filterMap.mpr ⟨column, listed, source⟩))
    rw [found, Option.map_some]

/-- What the drafts keep of the originals. -/
theorem kept_perm (planned : Planned originalColumns draftColumns) :
    (originalColumns.filter fun column => column.name ∈ draftColumns.filterMap (·.sourceName)).Perm
      (draftColumns.filterMap (sourceOf originalColumns)) := by
  have sourceNames := planned.sourceNames
  rw [← sourceNames_of_sources planned.named] at sourceNames
  refine (List.perm_ext_iff_of_nodup (planned.originalNames.of_map.filter _) sourceNames.of_map).mpr fun original => ?_
  rw [List.mem_filter, decide_eq_true_eq, List.mem_filterMap, List.mem_filterMap]
  constructor
  · rintro ⟨present, column, listed, source⟩
    obtain ⟨other, found, same⟩ := sourceOf_named source (List.mem_map_of_mem present)
    have here : other = original :=
      List.inj_on_of_nodup_map planned.originalNames (sourceOf_name found).2 present same
    exact ⟨column, listed, here ▸ found⟩
  · rintro ⟨column, listed, found⟩
    obtain ⟨source, present⟩ := sourceOf_name found
    exact ⟨present, column, listed, source⟩

theorem accepted_actions {database table : String}
    (accepted : (buildTableDdlPlan tables database table originalColumns draftColumns).errors = []) :
    ∀ column ∈ draftColumns, ∃ action, draftAction tables originalColumns column = .ok action := by
  intro column listed
  cases outcome : draftAction tables originalColumns column with
  | ok action => exact ⟨action, rfl⟩
  | error error =>
    have reported : error ∈ (buildTableDdlPlan tables database table originalColumns draftColumns).errors := by
      refine List.mem_eraseDups.mpr (List.mem_filterMap.mpr ⟨column, listed, ?_⟩)
      rw [outcome]
    rw [accepted] at reported
    cases reported

end Kept

/-- A plan without errors executes to the draft exactly if it is sequenced. -/
theorem plan_executes (database table : String) {originalColumns draftColumns : List TableColumnDefinition}
    (planned : Planned originalColumns draftColumns)
    (accepted : (buildTableDdlPlan tables database table originalColumns draftColumns).errors = []) :
    (∃ final, execute database table (originalTable originalColumns planned.originalNames planned.originals)
        (buildTableDdlPlan tables database table originalColumns draftColumns).statements = some final ∧
      final.columns.Perm (draftColumns.map (requested tables originalColumns))) ↔ Sequenced draftColumns := by
  let start := originalTable originalColumns planned.originalNames planned.originals
  let dropped := originalColumns.filter fun column => column.name ∉ draftColumns.filterMap (·.sourceName)
  let kept := draftColumns.filterMap (sourceOf originalColumns)
  have parted : start.columns.Perm (dropped.map entry ++ kept.map entry) := by
    rw [← List.map_append]
    refine List.Perm.map entry ?_
    have halves := List.filter_append_perm (fun column => column.name ∈ draftColumns.filterMap (·.sourceName)) originalColumns
    simp only [← decide_not] at halves
    exact (halves.symm.trans List.perm_append_comm).trans ((kept_perm planned).append_left dropped)
  have run : execute database table start (buildTableDdlPlan tables database table originalColumns draftColumns).statements =
      (start.applyAll ((dropped.map entry).map fun column => .drop column.1)).bind fun next =>
        next.applyAll (draftAlterations tables originalColumns draftColumns) := by
    have actions : (planActions tables originalColumns draftColumns).map (DdlAction.alteration tables) =
        (dropped.map entry).map (fun column => .drop column.1) ++ draftAlterations tables originalColumns draftColumns := by
      rw [planActions, List.map_append, dropActions, List.map_map, List.map_map]
      rfl
    rw [← applyAll_append, ← actions]
    exact execute_actions tables database table start _
  have keeps : kept.map entry ≠ [] ↔ ∃ column ∈ draftColumns, column.sourceName ≠ none := by
    have same := sourceNames_of_sources planned.named
    rw [ne_eq, List.map_eq_nil_iff, ← @List.map_eq_nil_iff _ _ TableColumnDefinition.name, same, List.filterMap_eq_nil_iff]
    push Not
    rfl
  obtain ⟨remain, empty⟩ := applyAll_drops parted
  rw [Sequenced, ← keeps, run]
  by_cases more : kept.map entry = []
  · rw [empty more]
    refine ⟨?_, fun sequenced => absurd more sequenced.1⟩
    rintro ⟨final, applied, -⟩
    cases applied
  · obtain ⟨next, applied, columns⟩ := remain more
    have distinct : (([] ++ draftColumns : List TableColumnDefinition).map (·.name)).Nodup := planned.draftNames
    obtain ⟨works, fails⟩ := applyAll_drafts tables distinct planned.named (accepted_actions tables accepted) columns
    rw [applied, Option.bind_some]
    constructor
    · rintro ⟨final, reached, -⟩
      refine ⟨more, Classical.byContradiction fun unordered => ?_⟩
      rw [fails unordered] at reached
      cases reached
    · exact fun sequenced => works sequenced.2

/-- An integer column, made from a source if one is given. -/
def intColumn (sourceName : Option String) (name : String) : TableColumnDefinition where
  sourceName := sourceName
  name := name
  columnType := "int"
  nullable := true
  defaultValue := none
  defaultExpression := false
  comment := ""
  primary := false
  extra := ""
  characterSet := none
  collation := none
  generationExpression := ""

/-- Columns that exchange their names are planned without errors, but the first rename
finds its name taken. -/
theorem swapped_names_fail :
    Planned [intColumn none "a", intColumn none "b"] [intColumn (some "a") "b", intColumn (some "b") "a"] ∧
      (buildTableDdlPlan asciiTables "shop" "items" [intColumn none "a", intColumn none "b"]
        [intColumn (some "a") "b", intColumn (some "b") "a"]).errors = [] ∧
      (execute "shop" "items" (originalTable [intColumn none "a", intColumn none "b"] (by decide) (by decide))
        (buildTableDdlPlan asciiTables "shop" "items" [intColumn none "a", intColumn none "b"]
          [intColumn (some "a") "b", intColumn (some "b") "a"]).statements).isNone = true :=
  ⟨⟨by decide, by decide, by decide, by decide, by decide, by decide⟩, by decide +kernel, by decide +kernel⟩

/-- One column is dropped, another takes its name, and one is added. -/
theorem plan_executes_renamed :
    ∃ final, execute "shop" "items"
        (originalTable [intColumn none "a", intColumn none "b"] (by decide) (by decide))
        (buildTableDdlPlan asciiTables "shop" "items" [intColumn none "a", intColumn none "b"]
          [intColumn (some "b") "a", intColumn none "c"]).statements = some final ∧
      final.columns.Perm ([intColumn (some "b") "a", intColumn none "c"].map
        (requested asciiTables [intColumn none "a", intColumn none "b"])) :=
  (plan_executes asciiTables "shop" "items" ⟨by decide, by decide, by decide, by decide, by decide, by decide⟩
    (by decide +kernel)).mpr ⟨⟨_, List.mem_cons_self, by decide⟩, by simp [intColumn]⟩

end Pipa.TableDdl
