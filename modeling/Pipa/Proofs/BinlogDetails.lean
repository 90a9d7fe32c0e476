import Pipa.BinlogParser
import Pipa.Proofs.AssemblerConservation
import Pipa.Proofs.BinlogPages

/-! A timeline row and the transaction that it opens. The row is the projection of the
transaction without its changes, and the repository finds it again by its sequence. -/

namespace Pipa.BinlogRepository

/-- What a transaction carries beside its changes. -/
def rowOf (transaction : BinlogTransaction) : BinlogTransactionSummary where
  id := transaction.id
  sequence := transaction.sequence
  timestamp := transaction.timestamp
  gtid := transaction.gtid
  xid := transaction.xid
  serverId := transaction.serverId
  fileName := transaction.fileName
  startPosition := transaction.startPosition
  endPosition := transaction.endPosition
  status := transaction.status
  rowChangeCount := transaction.rowChangeCount
  tables := transaction.tables

/-- The row count is the sum over the changes. -/
def Counted (transaction : BinlogTransaction) : Prop :=
  transaction.rowChangeCount = (transaction.changes.map BinlogChange.rowCount).sum

/-- The two views select alike and show the same. -/
theorem summarizeTransaction_eq (transaction : BinlogTransaction) (filter : BinlogTransactionFilter) :
    summarizeTransaction transaction filter = (projectTransaction transaction filter).map rowOf := by
  rw [summarizeTransaction, matchingRowChangeCount, projectTransaction]
  by_cases all : unfiltered filter = true
  · rw [if_pos all, if_pos all]
    rfl
  · rw [if_neg all, if_neg all]
    by_cases none : (transaction.changes.filter (changeMatches filter)).isEmpty = true
    · simp only [none, if_true]
      rfl
    · simp only [none]
      rfl

/-- A filtered projection is counted afresh, an unfiltered one as it came. -/
theorem projectTransaction_counted {transaction opened : BinlogTransaction} {filter : BinlogTransactionFilter}
    (projected : projectTransaction transaction filter = some opened) :
    Counted opened ↔ (unfiltered filter = true → Counted transaction) := by
  rw [projectTransaction] at projected
  by_cases all : unfiltered filter = true
  · rw [if_pos all] at projected
    obtain rfl := Option.some.inj projected
    exact ⟨fun counted _ => counted, fun counted => counted all⟩
  · rw [if_neg all] at projected
    obtain ⟨-, same⟩ := Option.ite_none_left_eq_some.mp projected
    obtain rfl := Option.some.inj same
    exact ⟨fun _ unrestricted => absurd unrestricted all, fun _ => rfl⟩

/-- The repository as the imports fill it: with the transactions that an assembler made. -/
inductive Filled : InMemoryAnalysisRepository → Prop
  | empty : Filled fun _ => none
  | created {sessions : InMemoryAnalysisRepository} (filled : Filled sessions) (summary : BinlogSummary) :
      Filled (create sessions summary).2
  | replaced {sessions : InMemoryAnalysisRepository} (filled : Filled sessions) (summary : BinlogSummary)
      (analysisId : Uuid) (events : List AssemblerEvent) :
      Filled (replace sessions summary (assemble analysisId events)).2
  | closed {sessions : InMemoryAnalysisRepository} (filled : Filled sessions) (analysisId : Uuid) :
      Filled (close sessions analysisId)

/-- What the sessions of a filled repository hold. -/
structure Retained (transactions : List BinlogTransaction) : Prop where
  counted : ∀ transaction ∈ transactions, Counted transaction
  distinct : (transactions.map BinlogTransaction.sequence).Nodup

theorem assemble_retained (analysisId : Uuid) (events : List AssemblerEvent) : Retained (assemble analysisId events) := by
  refine ⟨fun _ => assemble_counted, ?_⟩
  rw [assemble_sequences]
  exact List.nodup_range'

/-- Setting one session keeps the others. -/
private theorem retained_update {sessions : InMemoryAnalysisRepository}
    (retained : ∀ analysisId session, sessions analysisId = some session → Retained session.transactions)
    {key : Uuid} {stored : Option AnalysisSession} (fresh : ∀ session, stored = some session → Retained session.transactions)
    (analysisId : Uuid) (session : AnalysisSession)
    (found : Function.update sessions key stored analysisId = some session) : Retained session.transactions := by
  by_cases same : analysisId = key
  · subst same
    rw [Function.update_self] at found
    exact fresh session found
  · rw [Function.update_of_ne same] at found
    exact retained analysisId session found

theorem Filled.retained {sessions : InMemoryAnalysisRepository} (filled : Filled sessions) :
    ∀ analysisId session, sessions analysisId = some session → Retained session.transactions := by
  induction filled with
  | empty =>
    intro analysisId session found
    cases found
  | @created sessions _ summary ih =>
    rw [create]
    by_cases known : (sessions summary.analysisId).isSome = true
    · rw [if_pos known]
      exact ih
    · rw [if_neg known]
      apply retained_update ih
      intro session stored
      obtain rfl := Option.some.inj stored
      exact ⟨nofun, List.nodup_nil⟩
  | @replaced sessions _ summary assembledId events ih =>
    rw [replace]
    by_cases known : (sessions summary.analysisId).isSome = true
    · rw [if_pos known]
      apply retained_update ih
      intro session stored
      obtain rfl := Option.some.inj stored
      exact assemble_retained assembledId events
    · rw [if_neg known]
      exact ih
  | closed _ closedId ih =>
    apply retained_update ih
    intro session stored
    cases stored

/-- A page shows rows of transactions that it was asked about. -/
theorem mem_paginateTransactions {transactions : List BinlogTransaction} {filter : BinlogTransactionFilter}
    {page : BinlogTransactionPage} (listed : paginateTransactions transactions filter = .ok page)
    {row : BinlogTransactionSummary} (shown : row ∈ page.items) :
    ∃ transaction ∈ transactions, summarizeTransaction transaction filter = some row := by
  have cut {after : Nat} {matching : List BinlogTransactionSummary} {limit : Nat}
      (front : matching = ((transactions.filter (fun transaction => after < transaction.sequence)).filterMap
        (summarizeTransaction · filter)).take limit) (member : row ∈ matching) :
      ∃ transaction ∈ transactions, summarizeTransaction transaction filter = some row := by
    rw [front] at member
    obtain ⟨transaction, behind, summarized⟩ := List.mem_filterMap.mp (List.mem_of_mem_take member)
    exact ⟨transaction, List.mem_of_mem_filter behind, summarized⟩
  have within {matching : List BinlogTransactionSummary} {more : Prop} [Decidable more]
      (member : row ∈ if more then matching.dropLast else matching) : row ∈ matching := by
    split at member
    · exact List.dropLast_subset _ member
    · exact member
  rw [paginateTransactions] at listed
  cases cursor : filter.cursor with
  | none =>
    rw [cursor] at listed
    obtain rfl := Except.ok.inj listed
    exact cut rfl (within shown)
  | some text =>
    rw [cursor] at listed
    cases parsed : Text.parseU64 text with
    | none =>
      simp only [parsed] at listed
      cases listed
    | some sequence =>
      simp only [parsed] at listed
      obtain rfl := Except.ok.inj listed
      exact cut rfl (within shown)

theorem find_sequence {transactions : List BinlogTransaction} (distinct : (transactions.map BinlogTransaction.sequence).Nodup)
    {transaction : BinlogTransaction} (member : transaction ∈ transactions) :
    transactions.find? (·.sequence == transaction.sequence) = some transaction := by
  induction transactions with
  | nil => cases member
  | cons first transactions ih =>
    obtain ⟨other, distinct⟩ := List.nodup_cons.mp distinct
    rcases List.mem_cons.mp member with rfl | later
    · exact List.find?_cons_of_pos (beq_self_eq_true _)
    · have different : first.sequence ≠ transaction.sequence := by
        intro same
        exact other (List.mem_map.mpr ⟨transaction, later, same.symm⟩)
      rw [List.find?_cons_of_neg (by simpa using different)]
      exact ih distinct later

/-- The transaction of a row is found by the sequence of the row, whatever page is asked for. -/
theorem find_opened {transactions : List BinlogTransaction} (retained : Retained transactions)
    {filter : BinlogTransactionFilter} {transaction : BinlogTransaction} (member : transaction ∈ transactions)
    {row : BinlogTransactionSummary} (summarized : summarizeTransaction transaction filter = some row)
    (cursor : Option String) (limit : Option Nat) :
    ∃ opened, (transactions.find? (·.sequence == row.sequence)).bind
        (projectTransaction · { filter with cursor, limit }) = some opened ∧ rowOf opened = row ∧ Counted opened := by
  have first : transactions.find? (·.sequence == row.sequence) = some transaction := by
    rw [summarizeTransaction_sequence summarized]
    exact find_sequence retained.distinct member
  rw [summarizeTransaction_eq] at summarized
  obtain ⟨opened, projected, same⟩ := Option.map_eq_some_iff.mp summarized
  refine ⟨opened, by rw [first]; exact projected, same, ?_⟩
  apply (projectTransaction_counted projected).mpr
  intro _
  exact retained.counted transaction member

/-- Timeline rows and details agree: a filter summarises exactly the transactions that it
projects, to the same data; the count of an assembled transaction is the sum over the
projected changes; and every row of a page opens, under the same filter, as what it shows. -/
theorem timeline_opens :
    (∀ transaction filter, summarizeTransaction transaction filter = (projectTransaction transaction filter).map rowOf) ∧
    (∀ analysisId events, ∀ transaction ∈ assemble analysisId events, ∀ filter opened,
      projectTransaction transaction filter = some opened →
        opened.rowChangeCount = (opened.changes.map BinlogChange.rowCount).sum) ∧
    ∀ sessions, Filled sessions → ∀ analysisId filter page, listTransactions sessions analysisId filter = .ok page →
      ∀ row ∈ page.items, ∀ cursor limit, ∃ opened,
        getTransaction sessions analysisId row.sequence { filter with cursor, limit } = .ok opened ∧ rowOf opened = row ∧
        row.rowChangeCount = (opened.changes.map BinlogChange.rowCount).sum := by
  refine ⟨summarizeTransaction_eq, ?_, ?_⟩
  · intro analysisId events transaction member filter opened projected
    apply (projectTransaction_counted projected).mpr
    intro _
    exact (assemble_retained analysisId events).counted transaction member
  · intro sessions filled analysisId filter page listed row shown cursor limit
    rw [listTransactions] at listed
    cases known : sessions analysisId with
    | none =>
      rw [known] at listed
      cases listed
    | some session =>
      rw [known] at listed
      obtain ⟨transaction, member, summarized⟩ := mem_paginateTransactions listed shown
      obtain ⟨opened, found, same, counted⟩ := find_opened (filled.retained analysisId session known) member summarized cursor limit
      refine ⟨opened, ?_, same, ?_⟩
      · simp only [getTransaction, known, found]
      · rw [← same]
        exact counted

/-- The analysis of an empty transaction, stored and listed. -/
def onlyStored : InMemoryAnalysisRepository :=
  (replace (create (fun _ => none) (BinlogParser.initialSummary ⟨"run"⟩ [] "")).2 (BinlogParser.initialSummary ⟨"run"⟩ [] "")
    (assemble ⟨"run"⟩ [.xid 7 ⟨"2024-01-01T00:00:00Z", 1, "mysql-bin.000001", 4, 120⟩])).2

theorem timeline_opens_only :
    ∃ page, listTransactions onlyStored ⟨"run"⟩ ⟨none, some "", none, none, none⟩ = .ok page ∧ page.items ≠ [] ∧
      ∀ row ∈ page.items, ∃ opened, getTransaction onlyStored ⟨"run"⟩ row.sequence ⟨none, some "", none, none, none⟩ = .ok opened ∧
        rowOf opened = row ∧ row.rowChangeCount = (opened.changes.map BinlogChange.rowCount).sum := by
  have filled : Filled onlyStored := ((Filled.empty.created _).replaced _ _ _)
  refine ⟨_, rfl, List.cons_ne_nil _ _, ?_⟩
  intro row shown
  exact timeline_opens.2.2 onlyStored filled ⟨"run"⟩ ⟨none, some "", none, none, none⟩ _ rfl row shown none none

end Pipa.BinlogRepository
