import Pipa.Library.Fallible
import Pipa.Redis

/-! Every successful read takes a prefix of the stream and counts exactly its bytes
against the budget. -/

namespace Pipa.Redis
open Text Fallible

/-- The bytes taken from the stream are those taken from the budget, which covers them. -/
def Consumes (before after : Input) : Prop :=
  ∃ taken, before.stream = taken ++ after.stream ∧ before.remaining = after.remaining + taken.length

theorem Consumes.refl (input : Input) : Consumes input input := ⟨[], by simp, by simp⟩

theorem Consumes.trans {first second third : Input} (earlier : Consumes first second) (later : Consumes second third) :
    Consumes first third := by
  obtain ⟨taken, stream, remaining⟩ := earlier
  obtain ⟨taken', stream', remaining'⟩ := later
  refine ⟨taken ++ taken', ?_, ?_⟩
  · rw [stream, stream', List.append_assoc]
  · rw [remaining, remaining', List.length_append]
    omega

/-- Whatever the reader returns, it has consumed what it took. -/
def Accounts {α : Type} (reader : Input → Except AppError (α × Input)) : Prop :=
  ∀ {input value after}, reader input = .ok (value, after) → Consumes input after

theorem readUntil_append (stop : UInt8) (stream : List UInt8) :
    (readUntil stop stream).1 ++ (readUntil stop stream).2 = stream := by
  induction stream with
  | nil => rfl
  | cons byte bytes ih =>
    rw [readUntil]
    split
    · rfl
    · simpa using ih

theorem readProtocolLine_accounts : Accounts readProtocolLine := by
  intro input line after read
  simp only [readProtocolLine] at read
  split at read
  · cases read
  next within =>
    obtain ⟨rfl, rfl⟩ := Prod.mk.inj (Except.ok.inj read)
    refine ⟨(readUntil 10 input.stream).1, (readUntil_append 10 input.stream).symm, ?_⟩
    change input.remaining = input.remaining - _ + _
    omega

theorem readProtocolBytes_accounts (length : Nat) : Accounts (readProtocolBytes length) := by
  intro input bytes after read
  simp only [readProtocolBytes] at read
  split at read
  · cases read
  next allowed =>
    split at read
    · cases read
    next present =>
      split at read
      · cases read
      · obtain ⟨rfl, rfl⟩ := Prod.mk.inj (Except.ok.inj read)
        refine ⟨input.stream.take (length + 2), (List.take_append_drop _ _).symm, ?_⟩
        rw [List.length_take]
        change input.remaining = input.remaining - (length + 2) + _
        omega

section Nested
variable {reader : Input → Except AppError (RespValue × Input)}

theorem readValues_accounts (accounts : Accounts reader) (count : Nat) : Accounts (readValues reader count) := by
  induction count with
  | zero =>
    intro input values after read
    obtain ⟨-, rfl⟩ := Prod.mk.inj (Except.ok.inj read)
    exact .refl input
  | succ count ih =>
    intro input values after read
    simp only [readValues, bind_ok, pure_ok] at read
    obtain ⟨⟨value, next⟩, first, ⟨others, last⟩, later, same⟩ := read
    obtain ⟨-, rfl⟩ := Prod.mk.inj same
    exact (accounts first).trans (ih later)

theorem readEntries_accounts (accounts : Accounts reader) (count : Nat) : Accounts (readEntries reader count) := by
  induction count with
  | zero =>
    intro input entries after read
    obtain ⟨-, rfl⟩ := Prod.mk.inj (Except.ok.inj read)
    exact .refl input
  | succ count ih =>
    intro input entries after read
    simp only [readEntries, bind_ok, pure_ok] at read
    obtain ⟨⟨key, next⟩, first, ⟨value, third⟩, second, ⟨others, last⟩, later, same⟩ := read
    obtain ⟨-, rfl⟩ := Prod.mk.inj same
    exact ((accounts first).trans (accounts second)).trans (ih later)

theorem readCollection_accounts (accounts : Accounts reader) (length : Nat) : Accounts (readCollection reader length) := by
  intro input values after read
  rw [readCollection] at read
  split at read
  · cases read
  · exact readValues_accounts accounts length read

theorem readBulk_accounts (tag : UInt8) (payload : List UInt8) : Accounts (readBulk tag payload) := by
  intro input value after read
  obtain ⟨length, -, read⟩ := (bind_ok _ _ _).mp read
  split at read
  · obtain ⟨-, rfl⟩ := Prod.mk.inj (Except.ok.inj read)
    exact .refl input
  · obtain ⟨⟨bytes, last⟩, taken, read⟩ := (bind_ok _ _ _).mp read
    have consumed := readProtocolBytes_accounts _ taken
    dsimp only at read
    have same : last = after := by
      split at read
      · exact (Prod.mk.inj (Except.ok.inj read)).2
      · split at read <;> exact (Prod.mk.inj (Except.ok.inj read)).2
    exact same ▸ consumed

theorem readAggregate_accounts (accounts : Accounts reader) (tag : UInt8) (payload : List UInt8) :
    Accounts (readAggregate reader tag payload) := by
  intro input value after read
  obtain ⟨length, -, read⟩ := (bind_ok _ _ _).mp read
  split at read
  · obtain ⟨-, rfl⟩ := Prod.mk.inj (Except.ok.inj read)
    exact .refl input
  · obtain ⟨⟨values, last⟩, taken, read⟩ := (bind_ok _ _ _).mp read
    have consumed := readCollection_accounts accounts _ taken
    dsimp only at read
    have same : last = after := by
      split at read <;> exact (Prod.mk.inj (Except.ok.inj read)).2
    exact same ▸ consumed

theorem readMap_accounts (accounts : Accounts reader) (tag : UInt8) (payload : List UInt8) :
    Accounts (readMap reader tag payload) := by
  intro input value after read
  obtain ⟨length, -, read⟩ := (bind_ok _ _ _).mp read
  split at read
  · cases read
  split at read
  · cases read
  obtain ⟨⟨entries, next⟩, taken, read⟩ := (bind_ok _ _ _).mp read
  have consumed := readEntries_accounts accounts _ taken
  dsimp only at read
  split at read
  · exact consumed.trans (accounts read)
  · obtain ⟨-, rfl⟩ := Prod.mk.inj (Except.ok.inj read)
    exact consumed

theorem readTagged_accounts (accounts : Accounts reader) (tag : UInt8) (payload : List UInt8) :
    Accounts (readTagged reader tag payload) := by
  intro input value after read
  rw [readTagged] at read
  split at read
  · exact readBulk_accounts tag payload read
  split at read
  · exact readAggregate_accounts accounts tag payload read
  split at read
  · exact readMap_accounts accounts tag payload read
  cases found : lineValue tag payload with
  | error error =>
    rw [found] at read
    cases read
  | ok result =>
    rw [found] at read
    obtain ⟨-, rfl⟩ := Prod.mk.inj (Except.ok.inj read)
    exact .refl input

end Nested

/-- A successful read takes from the budget exactly the bytes it takes from the stream. -/
theorem readResponse_accounts (depth : Nat) : Accounts (readResponse depth) := by
  induction level : maxResponseDepth + 1 - depth generalizing depth with
  | zero =>
    intro input value after read
    rw [readResponse, if_pos (by omega)] at read
    cases read
  | succ level ih =>
    intro input value after read
    rw [readResponse, if_neg (by omega)] at read
    obtain ⟨⟨line, next⟩, first, read⟩ := (bind_ok _ _ _).mp read
    have consumed := readProtocolLine_accounts first
    cases line with
    | nil => cases read
    | cons tag payload => exact consumed.trans (readTagged_accounts (ih (depth + 1) (by omega)) tag payload read)

end Pipa.Redis
