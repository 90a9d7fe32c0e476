import Mathlib.Data.List.Basic
import Pipa.QueryRegistry

/-! Safety of the running-query registry over all interleavings: the map holds the
token of exactly the queries whose forwarder has not ended, and a forwarder passes on
at most one terminal event. -/

namespace Pipa

namespace Forwarder

def terminal : Forwarder → Bool
  | .receiving => false
  | .leaving terminal | .removing terminal | .ended terminal => terminal

/-- The forwarder has not removed its registration. -/
def Live : Forwarder → Prop
  | .receiving | .leaving _ | .removing _ => True
  | .ended _ => False

/-- The forwarder dealt with the token without having forwarded a terminal event. -/
def LeftOpen : Forwarder → Prop
  | .receiving | .leaving _ => False
  | .removing terminal | .ended terminal => terminal = false

end Forwarder

namespace QueryRegistry

variable {Row : Type}

/-- One terminal event was forwarded once the forwarder says so, and none before. -/
def Once (query : RunningQuery Row) : Prop :=
  query.forwarded.countP QueryEvent.isTerminal = if query.forwarder.terminal then 1 else 0

/-- The map holds the tokens of the queries that live, each under its own id. A query
that was left open has its token cancelled. -/
structure Sound (state : QueryRegistry Row) : Prop where
  registered : ∀ (index : Nat) (query : RunningQuery Row), state.queries[index]? = some query →
    (query.forwarder.Live ↔ state.cancellations query.queryId = some index)
  owned : ∀ (id : Uuid) (index : Nat), state.cancellations id = some index → ∃ query, state.queries[index]? = some query ∧ query.queryId = id
  once : ∀ (index : Nat) (query : RunningQuery Row), state.queries[index]? = some query → Once query
  closed : ∀ (index : Nat) (query : RunningQuery Row), state.queries[index]? = some query → query.forwarder.LeftOpen → index ∈ state.cancelled

theorem Sound.initial : Sound (new : QueryRegistry Row) := by
  refine ⟨?_, ?_, ?_, ?_⟩ <;> simp [new]

/-- An edit of one query that the registration does not depend on. -/
structure Keeps (before after : RunningQuery Row) : Prop where
  queryId : after.queryId = before.queryId
  live : after.forwarder.Live ↔ before.forwarder.Live
  once : Once before → Once after
  left : after.forwarder.LeftOpen → before.forwarder.LeftOpen

theorem Keeps.refl (query : RunningQuery Row) : Keeps query query := ⟨rfl, Iff.rfl, id, id⟩

/-- The adapter task does not touch what the forwarder has done. -/
theorem Keeps.same {before after : RunningQuery Row} (queryId : after.queryId = before.queryId)
    (forwarder : after.forwarder = before.forwarder) (forwarded : after.forwarded = before.forwarded) : Keeps before after :=
  ⟨queryId, by rw [forwarder], fun once => by rw [Once, forwarded, forwarder]; exact once, fun left => forwarder ▸ left⟩

theorem push_keeps (query : RunningQuery Row) (event : QueryEvent Row) (after : AdapterTask) : Keeps query (query.push event after) := by
  unfold RunningQuery.push
  split
  · exact .same rfl rfl rfl
  all_goals
    split
    · exact .same rfl rfl rfl
    · exact .refl query

theorem send_keeps (event : QueryEvent Row) (query : RunningQuery Row) : Keeps query (query.send event) := by
  unfold RunningQuery.send
  split
  · exact push_keeps query event .running
  all_goals exact .refl query

theorem finish_keeps (result : Except AppError Unit) (query : RunningQuery Row) : Keeps query (query.finish result) := by
  unfold RunningQuery.finish
  split <;> exact .same rfl rfl rfl

theorem fail_keeps (query : RunningQuery Row) : Keeps query query.fail := by
  unfold RunningQuery.fail
  split
  · exact push_keeps query _ .done
  all_goals exact .refl query

/-- The loop of the forwarder counts the terminal event that it leaves behind. -/
theorem forward_keeps (delivered : Bool) (query : RunningQuery Row) : Keeps query (query.forward delivered) := by
  obtain ⟨queryId, engine, adapter, channel, forwarder, forwarded⟩ := query
  cases forwarder with
  | leaving _ | removing _ | ended _ => exact .refl _
  | receiving =>
    cases channel with
    | nil =>
      simp only [RunningQuery.forward]
      split
      · exact ⟨rfl, Iff.rfl, id, fun left => left⟩
      · exact .refl _
    | cons event channel =>
      cases delivered with
      | false => exact ⟨rfl, Iff.rfl, id, fun left => left⟩
      | true =>
        cases terminal : event.isTerminal with
        | false =>
          simp only [RunningQuery.forward, terminal]
          refine ⟨rfl, Iff.rfl, fun once => ?_, fun left => left⟩
          simpa [Once, terminal] using once
        | true =>
          simp only [RunningQuery.forward, terminal]
          refine ⟨rfl, Iff.rfl, fun once => ?_, fun left => left⟩
          have none_before : forwarded.countP QueryEvent.isTerminal = 0 := once
          simp [Once, Forwarder.terminal, terminal, none_before]

section Steps
variable {state : QueryRegistry Row}

theorem modify_some {queries : List (RunningQuery Row)} {index other : Nat} {edit : RunningQuery Row → RunningQuery Row}
    {query : RunningQuery Row} (found : (queries.modify index edit)[other]? = some query) :
    ∃ old, queries[other]? = some old ∧ query = if index = other then edit old else old := by
  rw [List.getElem?_modify] at found
  obtain ⟨old, present, rfl⟩ := Option.map_eq_some_iff.mp found
  exact ⟨old, present, rfl⟩

theorem Sound.modify (sound : Sound state) {edit : RunningQuery Row → RunningQuery Row} (keeps : ∀ query, Keeps query (edit query))
    (index : Nat) : Sound (state.modify index edit) := by
  have kept {other : Nat} {query : RunningQuery Row} (found : (state.modify index edit).queries[other]? = some query) :
      ∃ old, state.queries[other]? = some old ∧ Keeps old query := by
    obtain ⟨old, present, rfl⟩ := modify_some found
    refine ⟨old, present, ?_⟩
    split
    · exact keeps old
    · exact .refl old
  constructor
  · intro other query found
    obtain ⟨old, present, keeps⟩ := kept found
    rw [keeps.live, keeps.queryId]
    exact sound.registered other old present
  · intro id other registered
    obtain ⟨query, present, rfl⟩ := sound.owned id other registered
    refine ⟨if index = other then edit query else query, ?_, ?_⟩
    · change (state.queries.modify index edit)[other]? = _
      rw [List.getElem?_modify, present]
      rfl
    · split
      · exact (keeps query).queryId
      · rfl
  · intro other query found
    obtain ⟨old, present, keeps⟩ := kept found
    exact keeps.once (sound.once other old present)
  · intro other query found left
    obtain ⟨old, present, keeps⟩ := kept found
    exact sound.closed other old present (keeps.left left)

theorem Sound.cancel (sound : Sound state) (queryId : Uuid) : Sound (state.cancelQuery queryId).2 := by
  unfold cancelQuery
  split
  · exact ⟨sound.registered, sound.owned, sound.once,
      fun index query found left => List.mem_cons_of_mem _ (sound.closed index query found left)⟩
  · exact sound

/-- A new query takes an id that no live one has, and an index of its own. -/
theorem Sound.run (sound : Sound state) (store : QueryRunner.LocalStore) (request : QueryRequest) :
    Sound (state.runQuery store request).2 := by
  unfold runQuery
  split
  · exact sound
  case h_2 profile _ =>
  split
  · exact sound
  case isFalse unregistered =>
  have free : state.cancellations request.queryId = none := by simpa using unregistered
  have split {index : Nat} {query added : RunningQuery Row} (found : (state.queries ++ [added])[index]? = some query) :
      (index < state.queries.length ∧ state.queries[index]? = some query) ∨ (index = state.queries.length ∧ query = added) := by
    rcases Nat.lt_trichotomy index state.queries.length with less | rfl | greater
    · exact Or.inl ⟨less, by rwa [List.getElem?_append_left less] at found⟩
    · exact Or.inr ⟨rfl, by simpa using found.symm⟩
    · rw [List.getElem?_eq_none (by simp; omega)] at found
      cases found
  constructor
  · intro index query found
    rcases split found with ⟨less, present⟩ | ⟨rfl, rfl⟩
    · rw [sound.registered index query present]
      change _ ↔ Function.update state.cancellations request.queryId (some state.queries.length) query.queryId = some index
      by_cases same : query.queryId = request.queryId
      · rw [same, Function.update_self, free]
        simp only [Option.some.injEq, reduceCtorEq, false_iff]
        omega
      · rw [Function.update_of_ne same]
    · exact iff_of_true trivial (Function.update_self ..)
  · intro id index registered
    change Function.update state.cancellations request.queryId (some state.queries.length) id = some index at registered
    by_cases same : id = request.queryId
    · rw [same, Function.update_self] at registered
      obtain rfl := Option.some.inj registered
      exact ⟨_, List.getElem?_concat_length .., same.symm⟩
    · rw [Function.update_of_ne same] at registered
      obtain ⟨query, present, owner⟩ := sound.owned id index registered
      exact ⟨query, by rw [List.getElem?_append_left (List.getElem?_eq_some_iff.mp present).1, present], owner⟩
  · intro index query found
    rcases split found with ⟨_, present⟩ | ⟨rfl, rfl⟩
    · exact sound.once index query present
    · rfl
  · intro index query found left
    rcases split found with ⟨_, present⟩ | ⟨rfl, rfl⟩
    · exact sound.closed index query present left
    · exact left.elim

/-- A forwarder behind its loop cancels only its own token, and the registration it
removes is its own. -/
theorem Sound.release (sound : Sound state) (index : Nat) : Sound (state.release index) := by
  unfold QueryRegistry.release
  split
  case h_2 => exact sound
  case h_1 query present =>
  split
  case h_1 terminal forwarder =>
    have others {other : Nat} {later : RunningQuery Row}
        (found : (state.queries.modify index fun query => { query with forwarder := .removing terminal })[other]? = some later) :
        ∃ old, state.queries[other]? = some old ∧ later.queryId = old.queryId ∧ (later.forwarder.Live ↔ old.forwarder.Live) ∧
          (Once old → Once later) ∧ (later.forwarder.LeftOpen → old.forwarder.LeftOpen ∨ (other = index ∧ terminal = false)) := by
      obtain ⟨old, there, rfl⟩ := modify_some found
      refine ⟨old, there, ?_⟩
      split
      case isTrue same =>
        subst same
        obtain rfl := Option.some.inj (present.symm.trans there)
        rw [forwarder]
        exact ⟨rfl, Iff.rfl, fun once => by rw [Once, forwarder] at once; exact once, fun left => Or.inr ⟨rfl, left⟩⟩
      case isFalse => exact ⟨rfl, Iff.rfl, fun once => once, Or.inl⟩
    constructor
    · intro other later found
      obtain ⟨old, there, id, live, _⟩ := others found
      rw [id, live]
      exact sound.registered other old there
    · intro id other registered
      obtain ⟨old, there, owner⟩ := sound.owned id other registered
      refine ⟨_, by rw [List.getElem?_modify, there]; rfl, ?_⟩
      split <;> exact owner
    · intro other later found
      obtain ⟨old, there, _, _, once, _⟩ := others found
      exact once (sound.once other old there)
    · intro other later found left
      obtain ⟨old, there, _, _, _, opened⟩ := others found
      rcases opened left with before | ⟨rfl, rfl⟩
      · have earlier := sound.closed other old there before
        change other ∈ if terminal then state.cancelled else index :: state.cancelled
        split
        · exact earlier
        · exact List.mem_cons_of_mem _ earlier
      · exact List.mem_cons_self ..
  case h_2 terminal forwarder =>
    have mine : state.cancellations query.queryId = some index :=
      (sound.registered index query present).mp (by rw [forwarder]; trivial)
    constructor
    · intro other later found
      obtain ⟨old, there, rfl⟩ := modify_some found
      change _ ↔ Function.update state.cancellations query.queryId none _ = some other
      by_cases same : index = other
      · subst same
        obtain rfl := Option.some.inj (present.symm.trans there)
        rw [if_pos rfl, Function.update_self]
        exact iff_of_false (fun live => live) (fun impossible => nomatch impossible)
      · rw [if_neg same, sound.registered other old there]
        by_cases shared : old.queryId = query.queryId
        · rw [shared, Function.update_self, mine, Option.some.injEq]
          exact iff_of_false same (fun impossible => nomatch impossible)
        · rw [Function.update_of_ne shared]
    · intro id other registered
      change Function.update state.cancellations query.queryId none id = some other at registered
      by_cases same : id = query.queryId
      · rw [same, Function.update_self] at registered
        cases registered
      · rw [Function.update_of_ne same] at registered
        obtain ⟨old, there, owner⟩ := sound.owned id other registered
        refine ⟨_, by rw [List.getElem?_modify, there]; rfl, ?_⟩
        split <;> exact owner
    · intro other later found
      obtain ⟨old, there, rfl⟩ := modify_some found
      have before := sound.once other old there
      split
      case isTrue same =>
        subst same
        obtain rfl := Option.some.inj (present.symm.trans there)
        rw [Once, forwarder] at before
        exact before
      case isFalse => exact before
    · intro other later found left
      obtain ⟨old, there, rfl⟩ := modify_some found
      refine sound.closed other old there ?_
      split at left
      case isTrue same =>
        subst same
        obtain rfl := Option.some.inj (present.symm.trans there)
        rw [forwarder]
        exact left
      case isFalse => exact left
  all_goals exact sound

theorem Sound.step (sound : Sound state) (event : Step Row) : Sound (state.step event) := by
  cases event with
  | runQuery store request => exact sound.run store request
  | cancelQuery queryId => exact sound.cancel queryId
  | send index event => exact sound.modify (send_keeps event) index
  | finish index result => exact sound.modify (finish_keeps result) index
  | fail index => exact sound.modify fail_keeps index
  | forward index delivered => exact sound.modify (forward_keeps delivered) index
  | release index => exact sound.release index

theorem run_sound (events : List (Step Row)) : Sound (Runs.run step new events) :=
  Runs.run_preserves step Sound.initial (fun _ event sound => sound.step event) events

end Steps

/-- In every run: a query whose forwarder has not ended is registered with its own
token and one whose forwarder has ended is not; a run with the id of a live query is
refused and changes nothing; cancelling an id cancels the token registered for it and
no other; the only other step that cancels a token is that of its own forwarder; one
terminal event at most is forwarded; and without one the token ends up cancelled. -/
theorem registry_safe (events : List (Step Row)) :
    let state := Runs.run step (new : QueryRegistry Row) events
    (∀ (index : Nat) (query : RunningQuery Row), state.queries[index]? = some query →
      (query.forwarder.Live → state.cancellations query.queryId = some index) ∧
      (¬ query.forwarder.Live → state.cancellations query.queryId ≠ some index ∧
        ((∀ event ∈ query.forwarded, event.isTerminal = false) → index ∈ state.cancelled)) ∧
      query.forwarded.countP QueryEvent.isTerminal ≤ 1 ∧
      (query.forwarder.Live → ∀ store request, request.queryId = query.queryId →
        (∃ error, state.runQuery store request = (.error error, state)))) ∧
    (∀ id index, index ∈ (state.cancelQuery id).2.cancelled → index ∈ state.cancelled ∨ state.cancellations id = some index) ∧
    ∀ event index, index ∈ (state.step event).cancelled → index ∈ state.cancelled ∨
      (∃ id, event = .cancelQuery id ∧ state.cancellations id = some index) ∨
      (event = .release index ∧ ∃ query, state.queries[index]? = some query ∧ query.forwarder = .leaving false) := by
  intro state
  have sound : Sound state := run_sound events
  have cancels (id : Uuid) (index : Nat) (now : index ∈ (state.cancelQuery id).2.cancelled) :
      index ∈ state.cancelled ∨ state.cancellations id = some index := by
    unfold cancelQuery at now
    split at now
    case h_1 other registered =>
      rcases List.mem_cons.mp now with rfl | earlier
      · exact Or.inr registered
      · exact Or.inl earlier
    case h_2 => exact Or.inl now
  refine ⟨?_, cancels, ?_⟩
  · intro index query present
    have registered := sound.registered index query present
    have once := sound.once index query present
    refine ⟨registered.mp, fun ended => ⟨fun still => ended (registered.mpr still), fun none_forwarded => ?_⟩, ?_, ?_⟩
    · refine sound.closed index query present ?_
      have uncounted : query.forwarded.countP QueryEvent.isTerminal = 0 := by
        rw [List.countP_eq_zero]
        intro event member
        rw [none_forwarded event member]
        exact Bool.false_ne_true
      rw [Once, uncounted] at once
      cases forwarder : query.forwarder with
      | receiving | leaving _ | removing _ => exact absurd (by rw [forwarder]; trivial) ended
      | ended terminal =>
        rw [forwarder] at once
        cases terminal with
        | false => rfl
        | true => cases once
    · rw [once]
      split <;> omega
    · rintro live store request same
      unfold runQuery
      split
      case h_1 error _ => exact ⟨error, rfl⟩
      case h_2 =>
        rw [if_pos (by rw [same, registered.mp live]; rfl)]
        exact ⟨alreadyRunning, rfl⟩
  · intro event index now
    cases event with
    | runQuery store request =>
      left
      change index ∈ (state.runQuery store request).2.cancelled at now
      unfold runQuery at now
      split at now
      · exact now
      · split at now <;> exact now
    | cancelQuery id =>
      rcases cancels id index now with earlier | registered
      · exact Or.inl earlier
      · exact Or.inr (Or.inl ⟨id, rfl, registered⟩)
    | send _ _ | finish _ _ | fail _ | forward _ _ => exact Or.inl now
    | release other =>
      change index ∈ (state.release other).cancelled at now
      unfold release at now
      split at now
      case h_2 => exact Or.inl now
      case h_1 query present =>
        split at now
        case h_1 terminal forwarder =>
          cases terminal with
          | true => exact Or.inl now
          | false =>
            rcases List.mem_cons.mp now with rfl | earlier
            · exact Or.inr (Or.inr ⟨rfl, query, present, forwarder⟩)
            · exact Or.inl earlier
        all_goals exact Or.inl now

end QueryRegistry

end Pipa
