import Pipa.ConnectionDrawer
import Pipa.Proofs.QuerySessionCoalescing

/-! Lists are filed under the schema they were read from as long as the schema is not
switched while a list of another one is shown, loading or about to be asked for. -/

namespace Pipa.ConnectionDrawer
open QuerySession

namespace Drawer

variable {Row : Type} (profileId : Uuid) (cellText : Row → String) {drawer : Drawer Row}

/-- The names are those of a whole list that a query for the schema delivered. -/
def ReadFrom (drawer : Drawer Row) (database : String) (names : List String) : Prop :=
  ∃ rows, (database, rows) ∈ drawer.results ∧ names = tableNames cellText rows

/-- Whatever was handed on, and whatever is filed, was read from its own schema. -/
def Filed (drawer : Drawer Row) : Prop :=
  (∀ entry ∈ drawer.handed, drawer.ReadFrom cellText entry.1 entry.2) ∧
    ∀ database names, drawer.tableCatalog database = some names → drawer.ReadFrom cellText database names

/-- A schema is selected only where no list of another one is shown, loading or about to be
asked for. -/
def Unhurried (drawer : Drawer Row) (event : Event Row) : Prop :=
  ∀ activeDatabase database, event = .select activeDatabase → chosen activeDatabase = some database →
    (∀ seen ∈ drawer.rendered, chosen seen.activeDatabase = none ∨ chosen seen.activeDatabase = some database) ∧
      ∀ listing ∈ drawer.listing, listing.schema = database ∨ drawer.tables.session.state.error ≠ none

/-- A finished list is on show. -/
def Finished (state : QuerySessionState Row) : Prop := state.queryId ≠ none ∧ state.running = false ∧ state.error = none

/-- How the session stands to the list query it was asked. -/
structure Listed (drawer : Drawer Row) : Prop where
  active : ∀ queryId, drawer.tables.activeQueryId = some queryId →
    drawer.tables.session.state.queryId = some queryId ∧ drawer.tables.session.state.running = true ∧ drawer.listing ≠ none
  rows : ∀ listing ∈ drawer.listing, (settled drawer.tables.session).rows = listing.rows
  finished : Finished drawer.tables.session.state → drawer.tables.session.pendingRows = none ∧
    ∃ listing ∈ drawer.listing, (listing.schema, listing.rows) ∈ drawer.results

/-- The list query and what was rendered agree with the schema that is selected. -/
structure Attributed (drawer : Drawer Row) : Prop where
  listing : ∀ listing ∈ drawer.listing, ∀ database, chosen drawer.activeDatabase = some database →
    listing.schema = database ∨ drawer.tables.session.state.error ≠ none
  rendered : ∀ seen ∈ drawer.rendered, ∀ database, chosen drawer.activeDatabase = some database →
    chosen seen.activeDatabase = none ∨ chosen seen.activeDatabase = some database
  shown : ∀ seen ∈ drawer.rendered, ∀ database, Finished seen.state → chosen seen.activeDatabase = some database →
    (database, seen.state.rows) ∈ drawer.results

/-! ### The session -/

theorem settled_fields (session : Session Row) :
    (settled session).queryId = session.state.queryId ∧ (settled session).running = session.state.running ∧
      (settled session).error = session.state.error := by
  cases waits : session.pendingRows with
  | none =>
    rw [settled_none waits]
    exact ⟨rfl, rfl, rfl⟩
  | some pending =>
    rw [settled_some waits, querySessionReducer]
    split <;> exact ⟨rfl, rfl, rfl⟩

/-- A list query is refused, or begins anew. -/
theorem run_cases (drawer : Drawer Row) (queryId : Uuid) (database : String) :
    drawer.run profileId queryId database = drawer ∨
      drawer.run profileId queryId database =
        { drawer with
          tables :=
            { session := { drawer.tables.session with pendingRows := none, flushScheduled := false }.dispatch
                (.begin queryId profileId (buildShowTablesStatement database))
              activeQueryId := some queryId
              cancelRequested := false }
          listing := some { schema := database, rows := [] } } := by
  by_cases refused : drawer.tables.activeQueryId.isSome = true ∨ Text.jsTrim (buildShowTablesStatement database) = ""
  · left
    have kept : hookStep profileId drawer.tables (.run queryId (buildShowTablesStatement database)) = drawer.tables := by
      rw [hookStep, reaches, if_pos refused]
    have idle : ¬(drawer.tables.activeQueryId = none ∧ drawer.tables.activeQueryId = some queryId) := by
      intro both
      cases both.1.symm.trans both.2
    rw [run, kept, if_neg idle]
  · right
    have idle : drawer.tables.activeQueryId = none := by
      cases active : drawer.tables.activeQueryId with
      | none => rfl
      | some other => exact absurd (.inl (by rw [active]; rfl)) refused
    rw [run, hookStep, reaches, if_neg refused]
    dsimp only
    rw [if_pos ⟨idle, rfl⟩]
    rfl

theorem run_listed (listed : drawer.Listed) (queryId : Uuid) (database : String) :
    (drawer.run profileId queryId database).Listed := by
  obtain same | same := run_cases profileId drawer queryId database
  · rw [same]
    exact listed
  · rw [same]
    refine ⟨?_, ?_, ?_⟩
    · intro active known
      obtain rfl := Option.some.inj known
      exact ⟨rfl, rfl, Option.some_ne_none _⟩
    · intro listing known
      obtain rfl := Option.some.inj known
      rfl
    · intro finished
      exact absurd finished.2.1 Bool.noConfusion

theorem receives_session (drawer : Drawer Row) (event : QueryEvent Row) :
    (drawer.receives profileId event).tables.session = QuerySession.step drawer.tables.session (.message event) := by
  show (hookStep profileId drawer.tables (.message event)).session = _
  rw [hookStep, reaches]
  dsimp only
  split <;> rfl

theorem receives_active {event : QueryEvent Row} (active : drawer.tables.activeQueryId = some event.queryId) :
    (drawer.receives profileId event).tables.activeQueryId = if isTerminal event then none else some event.queryId := by
  show (hookStep profileId drawer.tables (.message event)).activeQueryId = _
  rw [hookStep, reaches]
  dsimp only
  cases isTerminal event with
  | true =>
    rw [if_pos ⟨rfl, active⟩]
    rfl
  | false =>
    rw [if_neg fun both => Bool.false_ne_true both.1]
    exact active

/-- A message of the query that the reducer shows. -/
theorem settled_message {session : Session Row} {event : QueryEvent Row} (current : session.state.queryId = some event.queryId) :
    settled (QuerySession.step session (.message event)) = received (settled session) event := by
  have keeps : KeepsRows session (.message event) := by
    intro queryId rows pending same _ apart shown
    obtain rfl := QuerySession.Event.message.inj same
    exact absurd (Option.some.inj (shown.trans current)) apart
  rw [(settled_step_iff session (.message event)).mpr keeps, reduce]
  show querySessionReducer (settled session) (.event event) = _
  rw [querySessionReducer, if_neg (not_not.mpr (settled_queryId.trans current).symm)]

theorem received_queryId (state : QuerySessionState Row) (event : QueryEvent Row) :
    (received state event).queryId = state.queryId := by
  cases event <;> rfl

/-- An error stays until the next query. -/
theorem received_error {state : QuerySessionState Row} (failed : state.error ≠ none) (event : QueryEvent Row) :
    (received state event).error ≠ none := by
  cases event with
  | failed => exact Option.some_ne_none _
  | started | schema | batch | completed | canceled => exact failed

/-- A message of the active query. -/
theorem receives_listed (listed : drawer.Listed) {event : QueryEvent Row}
    (active : drawer.tables.activeQueryId = some event.queryId) (kept : isCanceled event = false) :
    (drawer.receives profileId event).Listed := by
  obtain ⟨current, running, present⟩ := listed.active _ active
  obtain ⟨listing, known⟩ := Option.ne_none_iff_exists'.mp present
  have rows := listed.rows listing known
  obtain ⟨-, runs, -⟩ := settled_fields drawer.tables.session
  obtain ⟨newQueryId, newRunning, newError⟩ := settled_fields (QuerySession.step drawer.tables.session (.message event))
  rw [settled_message current] at newQueryId newRunning newError
  rw [received_queryId, settled_queryId] at newQueryId
  refine ⟨?_, ?_, ?_⟩
  · intro queryId
    rw [receives_active profileId active, receives_session, ← newRunning, ← newQueryId]
    intro same
    cases event with
    | completed | canceled | failed => cases same
    | started => exact ⟨current.trans same, rfl, present⟩
    | schema => exact ⟨current.trans same, runs.trans running, present⟩
    | batch =>
      refine ⟨current.trans same, runs.trans running, ?_⟩
      simp only [receives, known, Option.map_some]
      exact Option.some_ne_none _
  · intro later
    rw [receives_session, settled_message current]
    cases event with
    | batch queryId more =>
      intro same
      simp only [receives, known, Option.map_some, Option.mem_def, Option.some.injEq] at same
      subst same
      exact congrArg (· ++ more) rows
    | started | schema | completed | canceled | failed =>
      intro same
      obtain rfl := Option.some.inj (known.symm.trans same)
      exact rows
  · rw [receives_session]
    intro finished
    obtain ⟨-, stopped, clean⟩ := finished
    rw [← newRunning] at stopped
    rw [← newError] at clean
    cases event with
    | started => cases stopped
    | schema | batch => cases (stopped.symm.trans runs).trans running
    | canceled => cases kept
    | failed => cases clean
    | completed queryId affectedRows =>
      refine ⟨flushPendingRows_pendingRows, listing, known, ?_⟩
      simp only [receives, known, Option.toList_some, List.map_cons, List.map_nil]
      exact List.mem_append_right _ List.mem_cons_self

/-- Flushing moves rows that are counted already. -/
theorem frame_listed (listed : drawer.Listed) : (drawer.step profileId cellText .frame).Listed := by
  have session : (drawer.step profileId cellText .frame).tables.session = QuerySession.step drawer.tables.session .frame := rfl
  have active : (drawer.step profileId cellText .frame).tables.activeQueryId = drawer.tables.activeQueryId := rfl
  have same : settled (QuerySession.step drawer.tables.session .frame) = settled drawer.tables.session :=
    (settled_step_iff _ .frame).mpr fun _ _ _ other => nomatch other
  obtain ⟨oldQueryId, oldRunning, oldError⟩ := settled_fields drawer.tables.session
  obtain ⟨queryId, running, error⟩ := settled_fields (QuerySession.step drawer.tables.session .frame)
  rw [same] at queryId running error
  refine ⟨?_, ?_, ?_⟩
  · rw [active, session, ← queryId, ← running, oldQueryId, oldRunning]
    exact listed.active
  · rw [session, same]
    exact listed.rows
  · rw [session, Finished, ← queryId, ← running, ← error, oldQueryId, oldRunning, oldError]
    intro finished
    obtain ⟨waits, found⟩ := listed.finished finished
    refine ⟨?_, found⟩
    rw [QuerySession.step]
    split
    · exact flushPendingRows_pendingRows
    · exact waits

theorem rejected_session {queryId : Uuid} (active : drawer.tables.activeQueryId = some queryId) (error : AppError) :
    drawer.step profileId cellText (.rejected error) =
      { drawer with
        tables :=
          { session := QuerySession.step drawer.tables.session (.startFailed queryId error)
            activeQueryId := none
            cancelRequested := false } } := by
  rw [step, active, Option.elim_some, hookStep, reaches, if_pos active]

theorem rejected_listed (listed : drawer.Listed) (error : AppError) :
    (drawer.step profileId cellText (.rejected error)).Listed := by
  cases active : drawer.tables.activeQueryId with
  | none =>
    rw [step, active]
    exact listed
  | some queryId =>
    rw [rejected_session profileId cellText active]
    have current : some queryId = drawer.tables.session.state.queryId := (listed.active queryId active).1.symm
    have fails : (QuerySession.step drawer.tables.session (.startFailed queryId error)).state.error = some error := by
      show (querySessionReducer drawer.tables.session.state (.startFailed queryId error)).error = some error
      rw [querySessionReducer, if_pos current]
    have same : settled (QuerySession.step drawer.tables.session (.startFailed queryId error)) =
        querySessionReducer (settled drawer.tables.session) (.startFailed queryId error) :=
      (settled_step_iff _ (.startFailed queryId error)).mpr fun _ _ _ other => by cases other
    refine ⟨?_, ?_, ?_⟩
    · intro other nothing
      cases nothing
    · intro listing known
      show (settled (QuerySession.step drawer.tables.session (.startFailed queryId error))).rows = listing.rows
      rw [same, querySessionReducer, if_pos (current.trans settled_queryId.symm)]
      exact listed.rows listing known
    · intro finished
      cases fails.symm.trans finished.2.2

/-! ### The schema -/

/-- The window's catalog and all that was handed on were read from their schemas, and the drawer
knows which schema its list and its rendering belong to. -/
structure Sound (drawer : Drawer Row) : Prop where
  listed : drawer.Listed
  attributed : drawer.Attributed
  filed : drawer.Filed cellText

variable {cellText} {seen : Rendered Row}

theorem Filed.keeps {after : Drawer Row} (filed : drawer.Filed cellText)
    (grows : ∀ result ∈ drawer.results, result ∈ after.results) (handed : after.handed = drawer.handed)
    (catalog : after.tableCatalog = drawer.tableCatalog) : after.Filed cellText := by
  have still {database : String} {names : List String} (read : drawer.ReadFrom cellText database names) :
      after.ReadFrom cellText database names := by
    obtain ⟨rows, found, same⟩ := read
    exact ⟨rows, grows _ found, same⟩
  rw [Filed, handed, catalog]
  exact ⟨fun entry held => still (filed.1 entry held), fun database names held => still (filed.2 database names held)⟩

theorem Attributed.keeps {after : Drawer Row} (attributed : drawer.Attributed)
    (selected : after.activeDatabase = drawer.activeDatabase) (rendered : after.rendered = drawer.rendered)
    (grows : ∀ result ∈ drawer.results, result ∈ after.results)
    (listing : ∀ later ∈ after.listing, ∃ listing ∈ drawer.listing, listing.schema = later.schema)
    (failed : drawer.tables.session.state.error ≠ none → after.tables.session.state.error ≠ none) : after.Attributed := by
  refine ⟨?_, ?_, ?_⟩
  · intro later known database
    obtain ⟨listing, held, same⟩ := listing later known
    rw [selected, ← same]
    intro chosen
    exact (attributed.listing listing held database chosen).imp_right failed
  · rw [rendered, selected]
    exact attributed.rendered
  · rw [rendered]
    intro seen held database finished chosen
    exact grows _ (attributed.shown seen held database finished chosen)

/-- A query that is asked for the schema of the rendering. -/
theorem run_sound (sound : drawer.Sound cellText) (known : drawer.rendered = some seen) {database : String}
    (selected : chosen seen.activeDatabase = some database) (queryId : Uuid) :
    (drawer.run profileId queryId database).Sound cellText := by
  refine ⟨run_listed profileId sound.listed queryId database, ?_, ?_⟩
  · obtain same | same := run_cases profileId drawer queryId database
    · rw [same]
      exact sound.attributed
    · rw [same]
      refine ⟨?_, sound.attributed.rendered, sound.attributed.shown⟩
      intro listing begun other wanted
      obtain rfl := Option.some.inj begun
      obtain absent | agrees := sound.attributed.rendered seen known other wanted
      · cases absent.symm.trans selected
      · exact .inl (Option.some.inj (selected.symm.trans agrees))
  · exact sound.filed.keeps (fun _ held => held) rfl rfl

theorem handsTables_sound (sound : drawer.Sound cellText) (known : drawer.rendered = some seen) :
    (drawer.handsTables cellText seen).Sound cellText := by
  rw [handsTables]
  cases selected : chosen seen.activeDatabase with
  | none => exact sound
  | some database =>
    dsimp only
    split
    case isTrue => exact sound
    case isFalse ready =>
      obtain ⟨present, stopped, clean⟩ : seen.state.queryId ≠ none ∧ seen.state.running ≠ true ∧ seen.state.error = none := by
        simpa only [not_or, not_not] using ready
      have shown := sound.attributed.shown seen known database ⟨present, Bool.eq_false_iff.mpr stopped, clean⟩ selected
      have read : drawer.ReadFrom cellText database (tableNames cellText seen.state.rows) := ⟨_, shown, rfl⟩
      refine ⟨⟨sound.listed.active, sound.listed.rows, sound.listed.finished⟩,
        ⟨sound.attributed.listing, sound.attributed.rendered, sound.attributed.shown⟩, ?_, ?_⟩
      · intro entry held
        obtain earlier | last := List.mem_append.mp held
        · exact sound.filed.1 entry earlier
        · obtain rfl := List.mem_singleton.mp last
          exact read
      · intro other names
        rw [handleTablesLoaded]
        dsimp only
        split
        · exact sound.filed.2 other names
        · intro held
          by_cases same : other = database
          · rw [same, Function.update_self] at held
            rw [same, ← Option.some.inj held]
            exact read
          · rw [Function.update_of_ne same] at held
            exact sound.filed.2 other names held

theorem discoversTables_sound (sound : drawer.Sound cellText) (known : drawer.rendered = some seen) (queryId : Uuid) :
    (drawer.discoversTables profileId queryId seen).Sound cellText := by
  rw [discoversTables]
  cases selected : chosen seen.activeDatabase with
  | none => exact sound
  | some database =>
    dsimp only
    split
    · exact run_sound profileId sound known selected queryId
    · exact sound

theorem refreshesTables_sound (sound : drawer.Sound cellText) (known : drawer.rendered = some seen) (queryId : Uuid) :
    (drawer.refreshesTables profileId queryId seen).Sound cellText := by
  rw [refreshesTables]
  cases selected : chosen seen.activeDatabase with
  | none => exact sound
  | some database =>
    dsimp only
    split
    · exact sound
    · have kept : { drawer with tableCatalogRefreshVersionRef := seen.tableCatalogRefreshVersion }.Sound cellText :=
        ⟨⟨sound.listed.active, sound.listed.rows, sound.listed.finished⟩,
          ⟨sound.attributed.listing, sound.attributed.rendered, sound.attributed.shown⟩, sound.filed⟩
      exact run_sound profileId kept known selected queryId

theorem switchesTables_sound (sound : drawer.Sound cellText) (known : drawer.rendered = some seen) (queryId : Uuid) :
    (drawer.switchesTables profileId queryId seen).Sound cellText := by
  rw [switchesTables]
  cases selected : chosen seen.activeDatabase with
  | none => exact sound
  | some database =>
    dsimp only
    split
    · exact sound
    · have kept : { drawer with loadedDatabaseRef := some database }.Sound cellText :=
        ⟨⟨sound.listed.active, sound.listed.rows, sound.listed.finished⟩,
          ⟨sound.attributed.listing, sound.attributed.rendered, sound.attributed.shown⟩, sound.filed⟩
      exact run_sound profileId kept known selected queryId

variable (cellText) in
theorem handsTables_rendered (drawer : Drawer Row) (seen : Rendered Row) :
    (drawer.handsTables cellText seen).rendered = drawer.rendered := by
  rw [handsTables]
  cases chosen seen.activeDatabase with
  | none => rfl
  | some database =>
    dsimp only
    split <;> rfl

theorem discoversTables_rendered (drawer : Drawer Row) (queryId : Uuid) (seen : Rendered Row) :
    (drawer.discoversTables profileId queryId seen).rendered = drawer.rendered := by
  rw [discoversTables]
  cases chosen seen.activeDatabase with
  | none => rfl
  | some database =>
    dsimp only
    split <;> rfl

theorem refreshesTables_rendered (drawer : Drawer Row) (queryId : Uuid) (seen : Rendered Row) :
    (drawer.refreshesTables profileId queryId seen).rendered = drawer.rendered := by
  rw [refreshesTables]
  cases chosen seen.activeDatabase with
  | none => rfl
  | some database =>
    dsimp only
    split <;> rfl

theorem effects_sound (sound : drawer.Sound cellText) (known : drawer.rendered = some seen) (queryId : Uuid) :
    (drawer.effects profileId cellText queryId seen).Sound cellText := by
  have handed := handsTables_sound sound known
  have handedKnown := (handsTables_rendered cellText drawer seen).trans known
  have discovered := discoversTables_sound profileId handed handedKnown queryId
  have discoveredKnown := (discoversTables_rendered profileId _ queryId seen).trans handedKnown
  have refreshed := refreshesTables_sound profileId discovered discoveredKnown queryId
  have refreshedKnown := (refreshesTables_rendered profileId _ queryId seen).trans discoveredKnown
  have switched := switchesTables_sound profileId refreshed refreshedKnown queryId
  refine ⟨⟨switched.listed.active, switched.listed.rows, switched.listed.finished⟩,
    ⟨switched.attributed.listing, ?_, ?_⟩, switched.filed⟩
  · intro later held
    exact absurd held (Option.not_mem_none later)
  · intro later held
    exact absurd held (Option.not_mem_none later)

/-- What is rendered of a finished list was read from the selected schema. -/
theorem render_sound (sound : drawer.Sound cellText) : (drawer.step profileId cellText .render).Sound cellText := by
  rw [step]
  split
  · exact sound
  · refine ⟨⟨sound.listed.active, sound.listed.rows, sound.listed.finished⟩, ⟨sound.attributed.listing, ?_, ?_⟩, sound.filed⟩
    · intro seen same database wanted
      obtain rfl := Option.some.inj same
      exact .inr wanted
    · intro seen same database finished wanted
      obtain rfl := Option.some.inj same
      obtain ⟨drained, listing, held, delivered⟩ := sound.listed.finished finished
      have rows := sound.listed.rows listing held
      rw [settled_none drained] at rows
      obtain agrees | failed := sound.attributed.listing listing held database wanted
      · rw [agrees, ← rows] at delivered
        exact delivered
      · exact absurd finished.2.2 failed

theorem receives_sound (sound : drawer.Sound cellText) {event : QueryEvent Row}
    (active : drawer.tables.activeQueryId = some event.queryId) (kept : isCanceled event = false) :
    (drawer.receives profileId event).Sound cellText := by
  have grows : ∀ result ∈ drawer.results, result ∈ (drawer.receives profileId event).results := by
    intro result held
    cases event with
    | completed => exact List.mem_append_left _ held
    | started | schema | batch | canceled | failed => exact held
  refine ⟨receives_listed profileId sound.listed active kept, ?_, sound.filed.keeps grows rfl rfl⟩
  refine sound.attributed.keeps ?_ ?_ grows ?_ ?_
  · rfl
  · rfl
  · intro later held
    cases event with
    | batch =>
      obtain ⟨listing, known, same⟩ := Option.map_eq_some_iff.mp held
      refine ⟨listing, known, ?_⟩
      rw [← same]
    | started | schema | completed | canceled | failed => exact ⟨later, held, rfl⟩
  · intro failed
    obtain ⟨-, -, before⟩ := settled_fields drawer.tables.session
    obtain ⟨-, -, after⟩ := settled_fields (QuerySession.step drawer.tables.session (.message event))
    rw [settled_message (sound.listed.active _ active).1] at after
    rw [receives_session, ← after]
    exact received_error (before ▸ failed) event

theorem frame_sound (sound : drawer.Sound cellText) : (drawer.step profileId cellText .frame).Sound cellText := by
  refine ⟨frame_listed profileId cellText sound.listed, ?_, sound.filed.keeps (fun _ held => held) rfl rfl⟩
  refine sound.attributed.keeps ?_ ?_ (fun _ held => held) (fun later held => ⟨later, held, rfl⟩) ?_
  · rfl
  · rfl
  obtain ⟨-, -, before⟩ := settled_fields drawer.tables.session
  obtain ⟨-, -, after⟩ := settled_fields (QuerySession.step drawer.tables.session .frame)
  have same : settled (QuerySession.step drawer.tables.session .frame) = settled drawer.tables.session :=
    (settled_step_iff _ .frame).mpr fun _ _ _ other => nomatch other
  show _ → (QuerySession.step drawer.tables.session .frame).state.error ≠ none
  rw [← after, same, before]
  exact id

theorem rejected_sound (sound : drawer.Sound cellText) (error : AppError) :
    (drawer.step profileId cellText (.rejected error)).Sound cellText := by
  have listed := rejected_listed profileId cellText sound.listed error
  cases active : drawer.tables.activeQueryId with
  | none =>
    rw [step, active]
    exact sound
  | some queryId =>
    rw [rejected_session profileId cellText active] at listed ⊢
    refine ⟨listed, ?_, sound.filed.keeps (fun _ held => held) rfl rfl⟩
    refine sound.attributed.keeps ?_ ?_ (fun _ held => held) (fun later held => ⟨later, held, rfl⟩) ?_
    · rfl
    · rfl
    intro failed
    show (querySessionReducer drawer.tables.session.state (.startFailed queryId error)).error ≠ none
    rw [querySessionReducer]
    split
    · exact Option.some_ne_none _
    · exact failed

theorem fresh_listed (idle : drawer.tables.activeQueryId = none) (asked : drawer.listing = none)
    (fresh : drawer.tables.session.state.queryId = none) : drawer.Listed := by
  refine ⟨?_, ?_, fun finished => absurd fresh finished.1⟩
  · intro queryId active
    cases idle.symm.trans active
  · intro listing held
    cases asked.symm.trans held

theorem fresh_attributed (asked : drawer.listing = none) (shown : drawer.rendered = none) : drawer.Attributed := by
  refine ⟨?_, ?_, ?_⟩
  · intro listing held
    cases asked.symm.trans held
  · intro seen held
    cases shown.symm.trans held
  · intro seen held
    cases shown.symm.trans held

/-- Only a selection can come at the wrong moment. -/
theorem step_sound (event : Event Row) (unhurried : drawer.Unhurried event) (sound : drawer.Sound cellText) :
    (drawer.step profileId cellText event).Sound cellText := by
  cases event with
  | remount => exact ⟨fresh_listed rfl rfl rfl, fresh_attributed rfl rfl, sound.filed⟩
  | select activeDatabase =>
    refine ⟨⟨sound.listed.active, sound.listed.rows, sound.listed.finished⟩, ⟨?_, ?_, sound.attributed.shown⟩, sound.filed⟩
    · intro listing held database wanted
      exact (unhurried activeDatabase database rfl wanted).2 listing held
    · intro seen held database wanted
      exact (unhurried activeDatabase database rfl wanted).1 seen held
  | discover | refresh =>
    exact ⟨⟨sound.listed.active, sound.listed.rows, sound.listed.finished⟩,
      ⟨sound.attributed.listing, sound.attributed.rendered, sound.attributed.shown⟩, sound.filed⟩
  | render => exact render_sound profileId sound
  | effects queryId =>
    rw [step]
    cases known : drawer.rendered with
    | none => exact sound
    | some seen => exact effects_sound profileId sound known queryId
  | message event =>
    rw [step]
    split
    case isTrue both => exact receives_sound profileId sound both.1 both.2
    case isFalse => exact sound
  | frame => exact frame_sound profileId sound
  | rejected error => exact rejected_sound profileId sound error

theorem mounted_sound (activeDatabase : Option String) : (mounted activeDatabase : Drawer Row).Sound cellText := by
  refine ⟨fresh_listed rfl rfl rfl, fresh_attributed rfl rfl, ?_, ?_⟩
  · intro entry held
    exact absurd held List.not_mem_nil
  · intro database names held
    cases held

/-- In a run whose selections are all unhurried, every list that is handed on and every entry of
the catalog was read from the schema it is filed under. -/
theorem run_filed (activeDatabase : Option String) (events : List (Event Row))
    (unhurried : Runs.Permitted (step profileId cellText) Unhurried (mounted activeDatabase) events) :
    (Runs.run (step profileId cellText) (mounted activeDatabase) events).Filed cellText := by
  have sound := @Runs.permitted_preserves _ _ (step profileId cellText) Unhurried (mounted activeDatabase) (Sound cellText)
    (mounted_sound activeDatabase) (fun _ event allowed => step_sound profileId event allowed) events unhurried
  exact sound.filed

end Drawer

/-! Rows are table names. -/

/-- The list of the schema is asked for, read and handed on. -/
def reading (queryId : Uuid) (names : List String) : List (Event String) :=
  [.render, .effects queryId, .message (.started queryId), .message (.batch queryId names), .message (.completed queryId 0),
    .render, .effects queryId]

def shopDrawer : Drawer String :=
  Runs.run (Drawer.step ⟨"p"⟩ id) (mounted none) (.select (some "shop") :: reading ⟨"q"⟩ ["orders"])

theorem run_filed_reading : shopDrawer.Filed id ∧ shopDrawer.handed = [("shop", ["orders"])] := by
  refine ⟨?_, by decide +kernel⟩
  apply Drawer.run_filed
  rw [Runs.permitted_cons]
  refine ⟨fun _ _ _ _ => ⟨?_, ?_⟩, ?_⟩
  · intro seen held
    exact absurd held (Option.not_mem_none seen)
  · intro listing held
    exact absurd held (Option.not_mem_none listing)
  · intro before event after same database _ selects
    have member : event ∈ reading ⟨"q"⟩ ["orders"] := same ▸ List.mem_append_right before List.mem_cons_self
    have silent : ∀ event ∈ reading ⟨"q"⟩ ["orders"], (match event with | .select _ => false | _ => true) = true := by decide
    have selected := silent event member
    rw [selects] at selected
    cases selected

/-- The list of one schema is on show when the next one is selected, and is filed under it; the
query that would replace it fails. -/
theorem run_filed_switching :
    ¬∀ (activeDatabase : Option String) (events : List (Event String)),
      (Runs.run (Drawer.step ⟨"p"⟩ id) (mounted activeDatabase) events).Filed id := by
  intro always
  have filed := (always (some "shop") (reading ⟨"q"⟩ ["orders"] ++
    [.select (some "audit"), .render, .effects ⟨"r"⟩, .message (.failed ⟨"r"⟩ ⟨.permission, "denied", none, false⟩)])).2
    "audit" ["orders"] (by decide +kernel)
  obtain ⟨rows, found, -⟩ := filed
  have delivered : (Runs.run (Drawer.step ⟨"p"⟩ id) (mounted (some "shop")) (reading ⟨"q"⟩ ["orders"] ++
    [.select (some "audit"), .render, .effects ⟨"r"⟩,
      .message (.failed ⟨"r"⟩ ⟨.permission, "denied", none, false⟩)])).results = [("shop", ["orders"])] := by decide +kernel
  rw [delivered] at found
  have same : "audit" = "shop" := congrArg Prod.fst (List.mem_singleton.mp found)
  exact absurd same (by decide)

end Pipa.ConnectionDrawer
