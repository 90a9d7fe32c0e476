import Pipa.Library.RowStore
import Pipa.Proofs.BinlogPages
import Pipa.Proofs.ResetSqlMeaning

/-! The reset of a filtered transaction. A filter drops changes before the inverse
is built, so an inverse finds its row only where the dropped later changes left it. -/

namespace Pipa.ResetSql
open RowStore Undo BinlogRepository

section Ledgers
open scoped Classical
variable {schema : TableName → List String} {V : Type}

/-- A DELETE and an UPDATE find a row to act on. -/
def FindsRow (denotes : String → V) (statement : ResetStatement) (store : Store (TableRow schema V)) : Prop :=
  match statement with
  | .delete database table predicates => ∃ row ∈ store (database, table), Fits denotes predicates row
  | .update database table _ predicates => ∃ row ∈ store (database, table), Fits denotes predicates row
  | .insert _ _ _ => True

/-- The mutation takes this row out of its table. -/
def Takes (recorded : BinlogCell → V) (mutation : BinlogChange × BinlogRowChange)
    (item : Σ table, TableRow schema V table) : Prop :=
  (mutation.1.operation = .update ∨ mutation.1.operation = .delete) ∧
    (mutation.1.database, mutation.1.table) = item.1 ∧
    ∃ image, mutation.2.before = some image ∧ Shows recorded image item.2

/-- The mutation puts this row into its table. -/
def Puts (recorded : BinlogCell → V) (mutation : BinlogChange × BinlogRowChange)
    (item : Σ table, TableRow schema V table) : Prop :=
  (mutation.1.operation = .insert ∨ mutation.1.operation = .update) ∧
    (mutation.1.database, mutation.1.table) = item.1 ∧
    ∃ image, mutation.2.after = some image ∧ Shows recorded image item.2

/-- The copies of every row in the store, and those a mutation takes and puts. -/
noncomputable def rowLedger (schema : TableName → List String) (recorded : BinlogCell → V) :
    Undo.Ledger (Store (TableRow schema V)) (BinlogChange × BinlogRowChange) (Σ table, TableRow schema V table) where
  held := copies
  taken := fun mutation item => if Takes recorded mutation item then 1 else 0
  put := fun mutation item => if Puts recorded mutation item then 1 else 0

variable {recorded : BinlogCell → V}

theorem Shows.unique {table : TableName} {image : RowImage} {first second : TableRow schema V table}
    (left : Shows recorded image first) (right : Shows recorded image second) : first = second := by
  funext column
  obtain ⟨cell, held, value⟩ := left column
  obtain ⟨cell', held', value'⟩ := right column
  obtain rfl := Option.some.inj (held.symm.trans held')
  rw [value, value']

/-- A full image shows a row. -/
theorem exists_shown {change : BinlogChange} (full : Full schema change) {row : BinlogRowChange}
    (member : row ∈ change.rows) {image : RowImage} (held : row.before = some image ∨ row.after = some image) :
    ∃ shown : TableRow schema V (change.database, change.table), Shows recorded image shown := by
  have every (column : {column // column ∈ schema (change.database, change.table)}) :
      ∃ cell, image[column.1]? = some cell := by
    have usable := full.images row member image held column.1 ((full.columns column.1).mpr column.2)
    cases cell : image[column.1]? with
    | none => simp [cell, isSqlValue] at usable
    | some value => exact ⟨value, rfl⟩
  choose cell known using every
  exact ⟨fun column => recorded (cell column), fun column => ⟨cell column, known column, rfl⟩⟩

/-- The copies that an image stands for: one of the row it shows. -/
theorem copies_of_image {table : TableName} {image : RowImage} {held : Option RowImage} {shown : TableRow schema V table}
    (same : held = some image) (shows_ : Shows recorded image shown) (row : TableRow schema V table) :
    (if ∃ image, held = some image ∧ Shows recorded image row then 1 else 0) =
      occurrences {shown} row := by
  refine occurrences_singleton ?_
  constructor
  · intro known
    obtain ⟨image', same', shows'⟩ := known
    obtain rfl := Option.some.inj (same.symm.trans same')
    exact shows'.unique shows_
  · intro equal
    exact ⟨image, same, equal ▸ shows_⟩

section Entries
variable {change : BinlogChange} {row : BinlogRowChange}

/-- The edit of a mutation is what its operation takes and puts in its own table. -/
theorem enters_edit {removed added : Multiset (TableRow schema V (change.database, change.table))}
    (taken : ∀ shown, (if (change.operation = .update ∨ change.operation = .delete) ∧
      ∃ image, row.before = some image ∧ Shows recorded image shown then 1 else 0) = occurrences removed shown)
    (put : ∀ shown, (if (change.operation = .insert ∨ change.operation = .update) ∧
      ∃ image, row.after = some image ∧ Shows recorded image shown then 1 else 0) = occurrences added shown) :
    Enters (rowLedger schema recorded) (change, row) ⟨(change.database, change.table), removed, added⟩ where
  held := rfl
  taken := fun shown => by simpa [rowLedger, Takes, occurrences] using taken shown
  put := fun shown => by simpa [rowLedger, Puts, occurrences] using put shown
  elsewhere := fun item other => by simp [rowLedger, Takes, Puts, Ne.symm other]

theorem enters_insert (operation : change.operation = .insert) {image : RowImage} (after : row.after = some image)
    {added : TableRow schema V (change.database, change.table)} (shows_ : Shows recorded image added) :
    Enters (rowLedger schema recorded) (change, row) ⟨(change.database, change.table), 0, {added}⟩ := by
  refine enters_edit ?_ ?_
  · simp [operation]
  · intro shown
    simpa only [operation, true_or, true_and] using copies_of_image after shows_ shown

theorem enters_delete (operation : change.operation = .delete) {image : RowImage} (before : row.before = some image)
    {removed : TableRow schema V (change.database, change.table)} (shows_ : Shows recorded image removed) :
    Enters (rowLedger schema recorded) (change, row) ⟨(change.database, change.table), {removed}, 0⟩ := by
  refine enters_edit ?_ ?_
  · intro shown
    simpa only [operation, or_true, true_and] using copies_of_image before shows_ shown
  · simp [operation]

theorem enters_update (operation : change.operation = .update) {old new : RowImage} (before : row.before = some old)
    (after : row.after = some new) {removed added : TableRow schema V (change.database, change.table)}
    (showsOld : Shows recorded old removed) (showsNew : Shows recorded new added) :
    Enters (rowLedger schema recorded) (change, row) ⟨(change.database, change.table), {removed}, {added}⟩ := by
  refine enters_edit ?_ ?_
  · intro shown
    simpa only [operation, true_or, true_and] using copies_of_image before showsOld shown
  · intro shown
    simpa only [operation, or_true, true_and] using copies_of_image after showsNew shown

/-- A mutation takes rows that are there, and its books balance. -/
theorem mutates_books (mutation : BinlogChange × BinlogRowChange) :
    (rowLedger schema recorded).Books (Mutates recorded) mutation := by
  obtain ⟨change, row⟩ := mutation
  intro start final mutates
  cases operation : change.operation with
  | insert =>
    simp only [Mutates, operation] at mutates
    obtain ⟨image, added, after, shows_, applies⟩ := mutates
    exact (enters_insert operation after shows_).balance applies
  | update =>
    simp only [Mutates, operation] at mutates
    obtain ⟨old, new, removed, added, before, after, showsOld, showsNew, applies⟩ := mutates
    exact (enters_update operation before after showsOld showsNew).balance applies
  | delete =>
    simp only [Mutates, operation] at mutates
    obtain ⟨image, removed, before, shows_, applies⟩ := mutates
    exact (enters_delete operation before shows_).balance applies
  | ddl => simp [Mutates, operation] at mutates

variable {denotes : String → V} {codec : ResetCodec}
  (faithful : ∀ cell literal, cellLiteral codec cell = .ok literal → denotes literal = recorded cell)
include faithful

/-- A predicate that pins all columns finds a row exactly if the recorded row is there. -/
theorem found_iff {table : TableName} {image : RowImage} {columns : List String} {pairs : List (String × String)}
    (pins : Pins codec image columns pairs) (every : ∀ column, column ∈ columns ↔ column ∈ schema table)
    {shown : TableRow schema V table} (shows_ : Shows recorded image shown) (store : Store (TableRow schema V)) :
    (∃ other ∈ store table, Fits denotes pairs other) ↔ {shown} ≤ store table := by
  rw [Multiset.singleton_le]
  constructor
  · intro found
    obtain ⟨other, present, fits⟩ := found
    exact (fits_iff faithful pins every shows_ other).mp fits ▸ present
  · intro present
    exact ⟨shown, present, (fits_iff faithful pins every shows_ shown).mpr rfl⟩

/-- The statement that reverses a full row mutation reverts what the ledger enters for it. -/
theorem reverses_reverts {statement : ResetStatement} (full : Full schema change) (member : row ∈ change.rows)
    (reverses : Reverses codec (change, row) statement) :
    (rowLedger schema recorded).Reverts (FindsRow denotes) (Executes denotes) (change, row) statement := by
  cases operation : change.operation with
  | insert =>
    simp only [Reverses, operation] at reverses
    obtain ⟨image, predicates, after, rfl, pins, -⟩ := reverses
    obtain ⟨added, shows_⟩ := @exists_shown _ V recorded _ full _ member _ (Or.inr after)
    rw [recordedColumns_full (full.images row member image (Or.inr after))] at pins
    refine (enters_insert operation after shows_).reverts ?_ ?_
    · exact found_iff faithful pins full.columns shows_
    · intro start next present
      exact deleteOne_iff (fits_iff faithful pins full.columns shows_) (Multiset.singleton_le.mp present)
  | update =>
    simp only [Reverses, operation] at reverses
    obtain ⟨old, new, assignments, predicates, before, after, rfl, restores, pins, -⟩ := reverses
    obtain ⟨removed, showsOld⟩ := @exists_shown _ V recorded _ full _ member _ (Or.inl before)
    obtain ⟨added, showsNew⟩ := @exists_shown _ V recorded _ full _ member _ (Or.inr after)
    have usable := full.images row member new (Or.inr after)
    have current : ∀ column ∈ change.columns, (overlay (overlay ∅ old) new)[column]? = new[column]? := by
      intro column listed
      rw [getElem?_overlay, if_pos (usable column listed)]
    rw [recordedColumns_full (full.images row member old (Or.inl before))] at restores
    rw [recordedColumns_full (fun column listed => current column listed ▸ usable column listed)] at pins
    have showsCurrent : Shows recorded (overlay (overlay ∅ old) new) added := by
      intro column
      rw [current column.1 ((full.columns column.1).mpr column.2)]
      exact showsNew column
    refine (enters_update operation before after showsOld showsNew).reverts ?_ ?_
    · exact found_iff faithful pins full.columns showsCurrent
    · intro start next present
      exact updateOne_iff (fits_iff faithful pins full.columns showsCurrent)
        (assigns_iff faithful restores full.columns showsOld added) (Multiset.singleton_le.mp present)
  | delete =>
    simp only [Reverses, operation] at reverses
    obtain ⟨image, values, before, rfl, pins⟩ := reverses
    obtain ⟨removed, shows_⟩ := @exists_shown _ V recorded _ full _ member _ (Or.inl before)
    refine (enters_delete operation before shows_).reverts ?_ ?_
    · intro start
      exact (iff_true_intro (Multiset.zero_le _)).symm
    · intro start next _
      exact insertOne_iff (fits_iff faithful pins full.columns shows_)
  | ddl => exact absurd operation full.rowChange

end Entries

/-- A projection keeps the changes that its filter matches. -/
theorem projectTransaction_changes {transaction projected : BinlogTransaction} {filter : BinlogTransactionFilter}
    (projection : projectTransaction transaction filter = some projected) :
    projected.changes = transaction.changes.filter (changeMatches filter) := by
  by_cases open_ : unfiltered filter = true
  · rw [projectTransaction, if_pos open_] at projection
    obtain rfl := Option.some.inj projection
    obtain ⟨database, table, operation⟩ := unfiltered_iff.mp open_
    refine (List.filter_eq_self.mpr fun change _ => changeMatches_iff.mpr ⟨?_, ?_, ?_⟩).symm
    · rcases database with none | blank <;> simp_all
    · rcases table with none | blank <;> simp_all
    · simp [operation]
  · simp only [projectTransaction, if_neg open_] at projection
    split at projection
    · cases projection
    · obtain rfl := Option.some.inj projection
      rfl

theorem mutations_filter (changes : List BinlogChange) (keep : BinlogChange → Bool) :
    mutations (changes.filter keep) = (mutations changes).filter fun mutation => keep mutation.1 := by
  induction changes with
  | nil => rfl
  | cons change changes ih =>
    cases kept : keep change <;> simp_all [mutations, List.filter_append, List.filter_map, Function.comp_def]

/-- The statements for a filtered transaction each find their row, whichever of the
matching rows the earlier ones took, exactly if what every kept INSERT and UPDATE
wrote outlasts the later changes that the filter drops. -/
theorem filtered_targets_iff {denotes : String → V} {codec : ResetCodec}
    (faithful : ∀ cell literal, cellLiteral codec cell = .ok literal → denotes literal = recorded cell)
    {transaction projected : BinlogTransaction} {filter : BinlogTransactionFilter}
    (full : ∀ change ∈ transaction.changes, Full schema change)
    (projection : projectTransaction transaction filter = some projected)
    (complete : (generateTransactionResetSql codec projected).complete = true)
    {before after : Store (TableRow schema V)}
    (committed : Steps (Mutates recorded) (mutations transaction.changes) before after) :
    EachActs (FindsRow denotes) (Executes denotes) (rewind codec projected).statements after ↔
      (rowLedger schema recorded).Outlasts (fun mutation => changeMatches filter mutation.1)
        (mutations transaction.changes) (copies before) := by
  have reversed := List.forall₂_reverse_iff.mpr (rewind_complete complete)
  rw [List.reverse_reverse, projectTransaction_changes projection, mutations_filter] at reversed
  have paired : List.Forall₂ ((rowLedger schema recorded).Reverts (FindsRow denotes) (Executes denotes))
      ((mutations transaction.changes).filter fun mutation => changeMatches filter mutation.1)
      (rewind codec projected).statements.reverse := by
    have known : ∀ mutation ∈ (mutations transaction.changes).filter fun mutation => changeMatches filter mutation.1,
        Full schema mutation.1 ∧ mutation.2 ∈ mutation.1.rows := by
      intro mutation kept
      obtain ⟨change, listed, inside⟩ := List.mem_flatMap.mp (List.mem_of_mem_filter kept)
      obtain ⟨row, present, rfl⟩ := List.mem_map.mp inside
      exact ⟨full change listed, present⟩
    refine ((List.forall₂_and_left _ _).mpr ⟨known, reversed⟩).imp ?_
    intro mutation statement pair
    obtain ⟨⟨fullChange, member⟩, reverses⟩ := pair
    exact reverses_reverts faithful fullChange member reverses
  have each := Undo.Ledger.eachActs_iff paired (fun mutation _ => mutates_books mutation) committed
  rwa [List.reverse_reverse] at each

/-- A filter without an operation keeps or drops a table as a whole, so nothing is used up. -/
theorem outlasts_of_no_operation {filter : BinlogTransactionFilter} (whole : filter.operation = none)
    (changes : List BinlogChange) (before : Store (TableRow schema V)) :
    (rowLedger schema recorded).Outlasts (fun mutation => changeMatches filter mutation.1)
      (mutations changes) (copies before) := by
  refine Undo.Ledger.outlasts_of_apart ?_ _
  intro event _ other _ keep drop item puts
  have put : Puts recorded event item := by
    by_contra none_
    simp [rowLedger, none_] at puts
  refine if_neg fun taken => ?_
  obtain ⟨sameDatabase, sameTable⟩ := Prod.mk.inj (taken.2.1.trans put.2.1.symm)
  have kept : changeMatches filter other.1 = true := by
    rw [changeMatches, sameDatabase, sameTable]
    simpa [changeMatches, whole, optionalOperationMatch] using keep
  simp [kept] at drop

end Ledgers

def newImage : RowImage := .ofList [("id", textCell "7"), ("status", textCell "new")]

/-- One row change of the orders table. -/
def orderChange (operation : BinlogOperation) (row : BinlogRowChange) : BinlogChange where
  database := "shop"
  table := "orders"
  operation
  rowCount := 1
  columns := ["id", "status"]
  rows := [row]
  tableConfidence := .exact
  sql := none

/-- A committed transaction that inserted an order and then changed its status. -/
def changedOrder : BinlogTransaction :=
  { insertedOrder newImage with
    endPosition := 300
    rowChangeCount := 2
    changes := [orderChange .insert ⟨none, some newImage⟩, orderChange .update ⟨some newImage, some fullImage⟩] }

def onlyOperation (operation : BinlogOperation) : BinlogTransactionFilter := ⟨none, none, some operation, none, none⟩

theorem faithful_literalText (cell : BinlogCell) (literal : String) (rendered : cellLiteral textCodec cell = .ok literal) :
    id literal = literalText cell := by
  simp [literalText, rendered, Except.toOption]

theorem orderChange_full {operation : BinlogOperation} {row : BinlogRowChange} (rowChange : operation ≠ .ddl)
    (images : ∀ image, row.before = some image ∨ row.after = some image → image = newImage ∨ image = fullImage) :
    Full ordersSchema (orderChange operation row) := by
  refine ⟨rowChange, by simp [orderChange, ordersSchema], by simp [orderChange], ?_⟩
  intro row' inside image held
  obtain rfl := List.mem_singleton.mp inside
  rcases images image held with rfl | rfl
  · show ∀ column ∈ ["id", "status"], isSqlValue newImage[column]? = true
    decide
  · show ∀ column ∈ ["id", "status"], isSqlValue fullImage[column]? = true
    decide

theorem changedOrder_full : ∀ change ∈ changedOrder.changes, Full ordersSchema change := by
  intro change member
  rcases List.mem_pair.mp member with rfl | rfl
  · exact orderChange_full (by decide) (by simp)
  · exact orderChange_full (by decide) (by simp [eq_comm])

/-- The orders row with this literal as its status. -/
def orderRow (status : String) : TableRow ordersSchema String ("shop", "orders") :=
  fun column => if column.1 = "id" then "'7'" else status

theorem shows_order {image : RowImage} {status : String} {cell : BinlogCell}
    (id_ : image["id"]? = some (textCell "7")) (held : image["status"]? = some cell) (value : status = literalText cell) :
    Shows literalText image (orderRow status) := by
  intro column
  obtain ⟨column, inside⟩ := column
  obtain rfl | rfl : column = "id" ∨ column = "status" := by simpa [ordersSchema] using inside
  · have literal : "'7'" = literalText (textCell "7") := by decide
    exact ⟨textCell "7", id_, literal⟩
  · exact ⟨cell, held, value⟩

theorem changedOrder_committed : Steps (@Mutates ordersSchema String literalText) (mutations changedOrder.changes)
    (fun _ => 0) paidOrder := by
  have newStatus : newImage["status"]? = some (textCell "new") := by decide
  have paidStatus : fullImage["status"]? = some (textCell "paid") := by decide
  have new : Shows literalText newImage (orderRow "'new'") := shows_order (by decide) newStatus (by decide)
  have paid : Shows literalText fullImage (orderRow "'paid'") := shows_order (by decide) paidStatus (by decide)
  refine ⟨Function.update (fun _ => 0) ("shop", "orders") {orderRow "'new'"}, ⟨newImage, _, rfl, new, 0, rfl, rfl⟩, ?_⟩
  refine (steps_single ..).mpr ⟨newImage, fullImage, _, _, rfl, rfl, new, paid, 0, ?_, ?_⟩
  · exact Function.update_self ..
  · exact (Function.update_idem ..).symm

/-- The same transaction with only one of its changes. -/
def onlyChange (change : BinlogChange) : BinlogTransaction := { changedOrder with rowChangeCount := 1, changes := [change] }

theorem filtered_targets_iff_changedOrder :
    EachActs (FindsRow id) (Executes id)
        (rewind textCodec (onlyChange (orderChange .update ⟨some newImage, some fullImage⟩))).statements paidOrder ↔
      (rowLedger ordersSchema literalText).Outlasts (fun mutation => changeMatches (onlyOperation .update) mutation.1)
        (mutations changedOrder.changes) (copies fun _ => 0) := by
  have projection : projectTransaction changedOrder (onlyOperation .update) =
      some (onlyChange (orderChange .update ⟨some newImage, some fullImage⟩)) := rfl
  exact filtered_targets_iff faithful_literalText changedOrder_full projection (by decide) changedOrder_committed

/-- With the UPDATE filtered out, the DELETE that undoes the INSERT looks for the row
as it was inserted, which the UPDATE has replaced. -/
theorem insert_filter_misses :
    ∃ projected, projectTransaction changedOrder (onlyOperation .insert) = some projected ∧
      (generateTransactionResetSql textCodec projected).complete = true ∧
      (∀ change ∈ changedOrder.changes, Full ordersSchema change) ∧
      Steps (@Mutates ordersSchema String literalText) (mutations changedOrder.changes) (fun _ => 0) paidOrder ∧
      ¬ EachActs (FindsRow id) (Executes id) (rewind textCodec projected).statements paidOrder := by
  refine ⟨onlyChange (orderChange .insert ⟨none, some newImage⟩), rfl, by decide, changedOrder_full,
    changedOrder_committed, ?_⟩
  have statements : (rewind textCodec (onlyChange (orderChange .insert ⟨none, some newImage⟩))).statements =
      [.delete "shop" "orders" [("id", "'7'"), ("status", "'new'")]] := by decide
  rw [statements, eachActs_single]
  intro found
  obtain ⟨row, present, fits⟩ := found
  have single : paidOrder ("shop", "orders") = {orderRow "'paid'"} := Function.update_self ..
  obtain rfl := Multiset.mem_singleton.mp (single ▸ present)
  obtain ⟨inside, value⟩ := fits ("status", "'new'") (by simp)
  simp [orderRow] at value

end Pipa.ResetSql
