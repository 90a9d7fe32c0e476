import Pipa.Proofs.RedisGrammar
import Pipa.Proofs.RedisWorkspaceDatabases
import Pipa.RedisWorkspace

/-! The key that the Redis browser acts on is the one that it shows as text. The commands
for a selected row carry the key of the row exactly if that one is text. -/

namespace Pipa.Redis
open Text

theorem arguments_grow {state final : ParseState} {text : List Char} (parsed : parseCharacters state text = .ok final) :
    state.arguments <+: final.arguments := by
  apply parseCharacters_run (motive := fun state _ => state.arguments <+: final.arguments) _ _ parsed
  · exact List.prefix_refl _
  · intro state unit next rest iteration later
    cases iteration with
    | blank =>
      refine List.IsPrefix.trans ?_ later
      rw [ParseState.finish]
      split
      · exact List.prefix_append _ _
      · exact List.prefix_refl _
    | closed | opened | plain | character | hex => exact later

/-- A word that needs no quotes. -/
def Bare (word : String) : Prop := word ≠ "" ∧ ∀ c ∈ word.toList, isWhitespace c = false ∧ ¬IsQuote c ∧ c ≠ '\\'

instance (word : String) : Decidable (Bare word) := @instDecidableAnd _ _ inferInstance (List.decidableBAll _ _)

theorem bare_sequence {word : String} (bare : Bare word) : Sequence ArgumentUnit word.toList (utf8 word) := by
  have all (characters : List Char) (plain : ∀ c ∈ characters, isWhitespace c = false ∧ ¬IsQuote c ∧ c ≠ '\\') :
      Sequence ArgumentUnit characters (characters.flatMap String.utf8EncodeChar) := by
    induction characters using List.reverseRecOn with
    | nil => exact .nil
    | append_singleton characters last ih =>
      obtain ⟨visible, noQuote, noEscape⟩ := plain last (List.mem_append_right _ (List.mem_singleton_self _))
      rw [List.flatMap_append, List.flatMap_singleton]
      exact (ih fun c member => plain c (List.mem_append_left _ member)).snoc (.plain visible noQuote noEscape)
  have bytes : utf8 word = word.toList.flatMap String.utf8EncodeChar := by rw [← utf8_ofList, String.ofList_toList]
  rw [bytes]
  exact all word.toList bare.2

/-- A command with these bare words in front of one quoted argument. -/
structure Worded (words : List String) (value command : String) : Prop where
  bare : ∀ word ∈ words, Bare word
  shape : ∃ tail, (tail = [] ∨ ∃ rest, tail = ' ' :: rest) ∧
    command.toList = words.flatMap (fun word => word.toList ++ [' ']) ++ ((quoteRedisArgument value).toList ++ tail)

theorem words_separated {words : List String} (bare : ∀ word ∈ words, Bare word) :
    Separated (words.flatMap fun word => word.toList ++ [' ']) (words.map utf8) := by
  induction words using List.reverseRecOn with
  | nil => exact .nil
  | append_singleton words last ih =>
    rw [List.flatMap_append, List.flatMap_singleton, List.map_append, List.map_singleton]
    have here := bare last (List.mem_append_right _ (List.mem_singleton_self _))
    have present : last.toList ≠ [] := fun none => here.1 (String.toList_inj.mp none)
    exact (ih fun word member => bare word (List.mem_append_left _ member)).argument (bare_sequence here) present (by decide)

/-- However such a command goes on, the quoted argument is the one behind the words. -/
theorem Worded.parsed {words : List String} {value command : String} (worded : Worded words value command)
    {arguments : List (List UInt8)} (parsed : parseCommand command = .ok arguments) :
    ∃ more, arguments = words.map utf8 ++ utf8 value :: more := by
  obtain ⟨state, read, -, rfl, -⟩ := (parseCommand_ok (parseCommand_small parsed) arguments).mp parsed
  obtain ⟨tail, next, shape⟩ := worded.shape
  rw [shape, (words_separated worded.bare).read, (quoteRedisArgument_spells value).read] at read
  have front : words.map utf8 ++ [utf8 value] <+: state.finish.arguments := by
    rcases next with rfl | ⟨rest, rfl⟩
    · rw [parseCharacters] at read
      obtain rfl := Except.ok.inj read
      exact List.prefix_refl _
    · rw [parseCharacters_blank] at read
      refine (arguments_grow read).trans ?_
      rw [ParseState.finish]
      split
      · exact List.prefix_append _ _
      · exact List.prefix_refl _
  obtain ⟨more, same⟩ := front
  exact ⟨more, by rw [← same, List.append_assoc, List.singleton_append]⟩

/-- The command that asks for the type of a key is refused for its size alone. -/
theorem typeCommand_parsed {key : String} (small : (utf8 ("TYPE " ++ quoteRedisArgument key)).length ≤ maxCommandBytes) :
    parseCommand ("TYPE " ++ quoteRedisArgument key) = .ok [utf8 "TYPE", utf8 key] := by
  have bare : ∀ word ∈ ["TYPE"], Bare word := by decide +kernel
  have front : "TYPE ".toList = ["TYPE"].flatMap fun word => word.toList ++ [' '] := by decide
  have read : parseCharacters (between []) ("TYPE " ++ quoteRedisArgument key).toList = .ok (behind [utf8 "TYPE"] (utf8 key)) := by
    rw [String.toList_append, front, (words_separated bare).read, ← List.append_nil (quoteRedisArgument key).toList,
      (quoteRedisArgument_spells key).read]
    rfl
  apply (parseCommand_ok small _).mpr
  exact ⟨_, read, rfl, rfl, List.cons_ne_nil _ _⟩

theorem utf8_fromUtf8 {bytes : List UInt8} {text : String} (valid : fromUtf8 bytes = some text) : utf8 text = bytes := by
  rw [fromUtf8, String.fromUTF8?] at valid
  split at valid
  · obtain rfl := Option.some.inj valid
    rw [utf8]
    rfl
  · cases valid

end Pipa.Redis

namespace Pipa.RedisBrowsing
open Redis Text Runs

section Shown
variable (js : Builtins) (parseFinite : String → Option UInt64)

/-- The text under which a key of these bytes is listed. -/
def shownKey (bytes : List UInt8) : String := cellText js (some (bytesCell bytes))

/-- The text of a key is the key exactly if the key is text. -/
theorem shownKey_bytes (bytes : List UInt8) : utf8 (shownKey js bytes) = bytes ↔ (fromUtf8 bytes).isSome = true := by
  rw [shownKey, bytesCell]
  cases valid : fromUtf8 bytes with
  | some text => exact iff_of_true (utf8_fromUtf8 valid) rfl
  | none =>
    refine iff_of_false ?_ Bool.false_ne_true
    intro same
    rw [← same, fromUtf8_utf8] at valid
    cases valid

theorem shownKey_empty {bytes : List UInt8} (empty : shownKey js bytes = "") : bytes = [] := by
  rw [shownKey, bytesCell] at empty
  cases valid : fromUtf8 bytes with
  | some text =>
    rw [valid] at empty
    obtain rfl : text = "" := empty
    rw [← utf8_fromUtf8 valid]
    rfl
  | none =>
    rw [valid] at empty
    have start := congrArg String.toList empty
    change ("base64:" ++ _ : String).toList = [] at start
    rw [String.toList_append] at start
    exact absurd (List.append_eq_nil_iff.mp start).1 (by decide)

/-- The reply to SCAN: a cursor and keys. -/
def scanReply (cursor : RespValue) (keys : List (List UInt8)) : RespValue :=
  .array (some [cursor, .array (some (keys.map fun key => .bulk (some key)))])

/-- What the query channel delivers for a response. -/
def scanResult (reply : RespValue) : QueryExecutionResult where
  columns := (responseTable parseFinite "SCAN" reply).1
  rows := (responseTable parseFinite "SCAN" reply).2
  affectedRows := 0

/-- A page of SCAN lists its keys under their texts, but for the empty one. -/
theorem pageKeys_scan (cursor : RespValue) (keys : List (List UInt8)) :
    pageKeys js (scanResult parseFinite (scanReply cursor keys)) = (keys.map (shownKey js)).filter (· ≠ "") := by
  have table : responseTable parseFinite "SCAN" (scanReply cursor keys) =
      singleScanTable parseFinite "key" (responseCell parseFinite cursor) (keys.map fun key => .bulk (some key)) := rfl
  rw [pageKeys, scanResult, table, singleScanTable]
  dsimp only
  cases keys with
  | nil => rfl
  | cons key keys =>
    refine congrArg (List.filter _) ?_
    rw [List.map_cons, List.isEmpty_cons, if_neg Bool.false_ne_true, List.map_cons, List.map_cons, List.map_map, List.map_map]
    rfl

theorem listed_scan (cursor : RespValue) (keys : List (List UInt8)) (current : List String) (replace : Bool) {bytes : List UInt8}
    (member : bytes ∈ keys) (nonempty : bytes ≠ []) :
    shownKey js bytes ∈ listedKeys current (pageKeys js (scanResult parseFinite (scanReply cursor keys))) replace := by
  have paged : shownKey js bytes ∈ pageKeys js (scanResult parseFinite (scanReply cursor keys)) := by
    rw [pageKeys_scan]
    refine List.mem_filter.mpr ⟨List.mem_map_of_mem member, decide_eq_true ?_⟩
    exact fun empty => nonempty (shownKey_empty js empty)
  rw [listedKeys, List.mem_eraseDups]
  split
  · exact paged
  · exact List.mem_append_right _ paged

end Shown

/-! ### The commands for a key -/

/-- The key argument of the commands that the browser sends, as Redis reads them. -/
def keyArgument (arguments : List (List UInt8)) : Option (List UInt8) :=
  if arguments.head? = some (utf8 "MEMORY") then arguments[2]? else arguments[1]?

/-- A command whose key argument is quoted from this text. -/
inductive OnKey (key command : String) : Prop
  | named {name : String} (other : utf8 name ≠ utf8 "MEMORY") (worded : Worded [name] key command)
  | memory (worded : Worded ["MEMORY", "USAGE"] key command)

theorem OnKey.argument {key command : String} (onKey : OnKey key command) {arguments : List (List UInt8)}
    (parsed : parseCommand command = .ok arguments) : keyArgument arguments = some (utf8 key) := by
  cases onKey with
  | @named name other worded =>
    obtain ⟨more, rfl⟩ := worded.parsed parsed
    rw [keyArgument, if_neg]
    · rfl
    · exact fun same => other (Option.some.inj same)
  | memory worded =>
    obtain ⟨more, rfl⟩ := worded.parsed parsed
    exact (if_pos rfl).trans rfl

/-- The name of a command other than MEMORY, and the text with which the command starts. -/
structure Starts (name front : String) : Prop where
  bare : Bare name
  other : utf8 name ≠ utf8 "MEMORY"
  spaced : front.toList = name.toList ++ [' ']

instance (name front : String) : Decidable (Starts name front) :=
  decidable_of_iff (Bare name ∧ utf8 name ≠ utf8 "MEMORY" ∧ front.toList = name.toList ++ [' '])
    ⟨fun starts => ⟨starts.1, starts.2.1, starts.2.2⟩, fun starts => ⟨starts.bare, starts.other, starts.spaced⟩⟩

section Shapes
variable {key : String} (name : String) {front : String} (starts : Starts name front)
include starts

theorem Starts.worded : ∀ word ∈ [name], Bare word := by
  intro word member
  rw [List.mem_singleton.mp member]
  exact starts.bare

/-- A name and the quoted key. -/
theorem onKey_alone : OnKey key (front ++ quoteRedisArgument key) := by
  refine .named starts.other ⟨starts.worded, [], .inl rfl, ?_⟩
  rw [String.toList_append, starts.spaced, List.flatMap_singleton, List.append_nil]

/-- A name, the quoted key, and what follows it behind a blank. -/
theorem onKey_more (tail : String) (next : tail.toList.head? = some ' ') : OnKey key (front ++ (quoteRedisArgument key ++ tail)) := by
  refine .named starts.other ⟨starts.worded, tail.toList, .inr ⟨tail.toList.tail, ?_⟩, ?_⟩
  · exact (List.cons_head?_tail next).symm
  · rw [String.toList_append, String.toList_append, starts.spaced, List.flatMap_singleton]

end Shapes

theorem head_blank (text : String) : (" " ++ text).toList.head? = some ' ' := by
  rw [String.toList_append]
  rfl

section Commands
variable (js : Builtins)

theorem valueCommand_onKey {type key command : String} (sent : valueCommand js type key = some command) : OnKey key command := by
  unfold valueCommand at sent
  dsimp only at sent
  split at sent
  · rw [← Option.some.inj sent]
    exact onKey_alone "GET" (by decide)
  split at sent
  · rw [← Option.some.inj sent, String.append_assoc]
    exact onKey_more "HSCAN" (by decide) _ (by decide)
  split at sent
  · rw [← Option.some.inj sent, String.append_assoc]
    exact onKey_more "LRANGE" (by decide) _ (by decide)
  split at sent
  · rw [← Option.some.inj sent, String.append_assoc]
    exact onKey_more "SSCAN" (by decide) _ (by decide)
  split at sent
  · rw [← Option.some.inj sent, String.append_assoc]
    exact onKey_more "ZSCAN" (by decide) _ (by decide)
  split at sent
  · rw [← Option.some.inj sent, String.append_assoc]
    exact onKey_more "XRANGE" (by decide) _ (by decide)
  split at sent
  · rw [← Option.some.inj sent]
    exact onKey_alone "JSON.GET" (by decide)
  cases sent

theorem memory_onKey (key : String) : OnKey key ("MEMORY USAGE " ++ quoteRedisArgument key) := by
  refine .memory ⟨?_, [], .inl rfl, ?_⟩
  · decide +kernel
  · have front : "MEMORY USAGE ".toList = ["MEMORY", "USAGE"].flatMap fun word => word.toList ++ [' '] := by decide
    rw [String.toList_append, List.append_nil, front]

theorem detailCommands_onKey {type key command : String} (sent : command ∈ detailCommands js type key) : OnKey key command := by
  have typeCommand : OnKey key ("TYPE " ++ quoteRedisArgument key) := onKey_alone "TYPE" (by decide)
  unfold detailCommands at sent
  dsimp only at sent
  split at sent
  · rw [List.mem_singleton.mp sent]
    exact typeCommand
  · rcases List.mem_append.mp sent with inspection | value
    · rcases List.mem_cons.mp inspection with rfl | inspection
      · exact typeCommand
      rcases List.mem_cons.mp inspection with rfl | inspection
      · exact onKey_alone "TTL" (by decide)
      · rw [List.mem_singleton.mp inspection]
        exact memory_onKey key
    · exact valueCommand_onKey js (Option.mem_toList.mp value)

/-- A plan whose commands are all on the key. -/
def PlansOn (key : String) (plan : MutationPlan) : Prop := ∀ command ∈ plan.commands, OnKey key command

theorem plansOn_single {key command : String} {plan : MutationPlan} (single : plan.commands = [command]) (onKey : OnKey key command) :
    PlansOn key plan := by
  intro other member
  rw [single] at member
  rw [List.mem_singleton.mp member]
  exact onKey

theorem saveScalarValue_plansOn {details : RedisKeyDetails} {draft : String} {binary : Bool} {plan : MutationPlan}
    (plans : saveScalarValue js details draft binary = .ok plan) : PlansOn details.key plan := by
  unfold saveScalarValue at plans
  dsimp only at plans
  split at plans
  · cases plans
  next value quoted =>
    split at plans
    · cases plans
    · rw [← Except.ok.inj plans]
      refine plansOn_single rfl ?_
      split
      · simp only [String.append_assoc]
        exact onKey_more "JSON.SET" (by decide) _ (by rw [String.toList_append]; rfl)
      · simp only [String.append_assoc]
        exact onKey_more "SET" (by decide) _ (head_blank _)

theorem collectionEntryCommand_onKey {details : RedisKeyDetails} {primary secondary command : String} {left : Bool}
    (sent : collectionEntryCommand js details primary secondary left = some (.ok command)) : OnKey details.key command := by
  unfold collectionEntryCommand at sent
  dsimp only at sent
  split at sent
  · replace sent := Option.some.inj sent
    split at sent
    · cases sent
    · rw [← Except.ok.inj sent]
      simp only [String.append_assoc]
      exact onKey_more "HSET" (by decide) _ (head_blank _)
  split at sent
  · rw [← Except.ok.inj (Option.some.inj sent)]
    simp only [String.append_assoc]
    split
    · exact onKey_more "LPUSH" (by decide +kernel : Starts "LPUSH" "LPUSH ") _ (head_blank _)
    · exact onKey_more "RPUSH" (by decide +kernel : Starts "RPUSH" "RPUSH ") _ (head_blank _)
  split at sent
  · rw [← Except.ok.inj (Option.some.inj sent)]
    simp only [String.append_assoc]
    exact onKey_more "SADD" (by decide) _ (head_blank _)
  split at sent
  · replace sent := Option.some.inj sent
    split at sent
    · cases sent
    · rw [← Except.ok.inj sent]
      simp only [String.append_assoc]
      exact onKey_more "ZADD" (by decide) _ (head_blank _)
  split at sent
  · replace sent := Option.some.inj sent
    split at sent
    · cases sent
    · rw [← Except.ok.inj sent]
      simp only [String.append_assoc]
      exact onKey_more "XADD" (by decide) _ (by rw [String.toList_append]; rfl)
  cases sent

theorem deleteCollectionEntry_plansOn {details : RedisKeyDetails} {primary : CellValue} {plan : MutationPlan}
    (plans : deleteCollectionEntry js details primary = .ok plan) : PlansOn details.key plan := by
  unfold deleteCollectionEntry at plans
  dsimp only at plans
  split at plans
  · cases plans
  next argument quoted =>
    rw [← Except.ok.inj plans]
    refine plansOn_single rfl ?_
    rw [String.append_assoc, String.append_assoc]
    split
    · exact onKey_more "HDEL" (by decide) _ (head_blank _)
    split
    · exact onKey_more "SREM" (by decide) _ (head_blank _)
    · exact onKey_more "ZREM" (by decide) _ (head_blank _)

/-- Every command of a plan of a control is on the key whose details are shown. -/
theorem plan_plansOn {details : RedisKeyDetails} {drafts : Drafts} {binary : Bool} {control : Control} {plan : MutationPlan}
    (plans : control.plan js details drafts binary = some (.ok plan)) : PlansOn details.key plan := by
  cases control with
  | delete =>
    rw [← Except.ok.inj (Option.some.inj plans)]
    exact plansOn_single rfl (onKey_alone "DEL" (by decide))
  | saveScalarValue => exact saveScalarValue_plansOn js (Option.some.inj plans)
  | saveCollectionEntry left =>
    obtain ⟨command, sent, same⟩ := Option.map_eq_some_iff.mp plans
    cases command with
    | error message => cases same
    | ok command =>
      rw [← Except.ok.inj same]
      exact plansOn_single rfl (collectionEntryCommand_onKey js sent)
  | deleteCollectionEntry primary => exact deleteCollectionEntry_plansOn js (Option.some.inj plans)
  | setTtl =>
    replace plans := Option.some.inj plans
    cases ttl : js.positiveInteger drafts.ttlDraft with
    | none =>
      rw [ttl] at plans
      cases plans
    | some ttl' =>
      rw [ttl] at plans
      rw [← Except.ok.inj plans]
      refine plansOn_single rfl ?_
      simp only [String.append_assoc]
      exact onKey_more "EXPIRE" (by decide) _ (head_blank _)
  | persist =>
    unfold Control.plan at plans
    dsimp only at plans
    split at plans
    · cases plans
    · rw [← Except.ok.inj (Option.some.inj plans)]
      exact plansOn_single rfl (onKey_alone "PERSIST" (by decide))
  | rename =>
    unfold Control.plan at plans
    dsimp only at plans
    split at plans
    · cases plans
    · rw [← Except.ok.inj (Option.some.inj plans)]
      refine plansOn_single rfl ?_
      simp only [String.append_assoc]
      exact onKey_more "RENAME" (by decide) _ (head_blank _)

end Commands

/-! ### The selected key -/

theorem readDetails_key (js : Builtins) {key : String} {replies : DetailReplies} {details : RedisKeyDetails} {scalar : Option CellValue}
    (read : readDetails js key replies = .ok (details, scalar)) : details.key = key := by
  unfold readDetails at read
  cases typeReply : replies.type with
  | error error =>
    rw [typeReply] at read
    cases read
  | ok result =>
    rw [typeReply] at read
    simp only [Bind.bind, Except.bind] at read
    split at read
    · cases read
    · split at read
      · split at read
        · cases read
        · exact (congrArg RedisKeyDetails.key (Prod.mk.inj (Except.ok.inj read)).1).symm
      · exact (congrArg RedisKeyDetails.key (Prod.mk.inj (Except.ok.inj read)).1).symm

namespace Workspace

/-- The shown details are those of the selected key, and so are the ones to come; what waits
and runs was planned before. -/
structure Acts (was : PlannedMutation → Prop) (workspace : Workspace) : Prop where
  bounded : ∀ load ∈ workspace.loads, load.requestId ≤ workspace.detailRequestId
  shown : ∀ details, workspace.shownDetails = some details → workspace.selectedKey = some details.content.key
  latest : ∀ load ∈ workspace.loads, load.requestId = workspace.detailRequestId → workspace.selectedKey = some load.key
  pending : ∀ planned, workspace.pendingMutation = some planned → was planned
  running : ∀ running, workspace.runningMutation = some running →
    was running.planned ∧ ∀ command ∈ running.remaining, command ∈ running.planned.plan.commands

variable {was : PlannedMutation → Prop} {workspace : Workspace}

theorem Acts.mono (acts : workspace.Acts was) {more : PlannedMutation → Prop} (mono : ∀ planned, was planned → more planned) :
    workspace.Acts more :=
  ⟨acts.bounded, acts.shown, acts.latest, fun planned waits => mono planned (acts.pending planned waits),
    fun running inFlight => (acts.running running inFlight).imp_left (mono _)⟩

theorem Acts.loadDetails (acts : workspace.Acts was) (database key : String) : (workspace.loadDetails database key).Acts was := by
  refine ⟨?_, (by rintro _ ⟨⟩), ?_, acts.pending, acts.running⟩
  · intro load member
    rcases List.mem_append.mp member with old | new
    · exact (acts.bounded load old).trans (Nat.le_succ _)
    · obtain rfl := List.mem_singleton.mp new
      exact Nat.le_refl _
  · intro load member latest
    rcases List.mem_append.mp member with old | new
    · have bounded := acts.bounded load old
      change load.requestId = workspace.detailRequestId + 1 at latest
      omega
    · obtain rfl := List.mem_singleton.mp new
      rfl

theorem Acts.clearDetails (acts : workspace.Acts was) : workspace.clearDetails.Acts was := by
  refine ⟨fun load member => (acts.bounded load member).trans (Nat.le_succ _), ?_, ?_, acts.pending, acts.running⟩
  · intro details shown
    unfold shownDetails at shown
    split at shown <;> cases shown
  · intro load member latest
    have bounded := acts.bounded load member
    change load.requestId = workspace.detailRequestId + 1 at latest
    omega

/-- Another mutation in flight, or none. -/
theorem Acts.goesOn (acts : workspace.Acts was) (next : Option RunningMutation)
    (running : ∀ running, next = some running →
      was running.planned ∧ ∀ command ∈ running.remaining, command ∈ running.planned.plan.commands) :
    { workspace with runningMutation := next }.Acts was :=
  ⟨acts.bounded, acts.shown, acts.latest, acts.pending, running⟩

theorem Acts.idle (acts : workspace.Acts was) : { workspace with runningMutation := none }.Acts was :=
  acts.goesOn none (by rintro _ ⟨⟩)

theorem Acts.received (js : Builtins) (acts : workspace.Acts was) {load : DetailLoad}
    (selected : workspace.selectedKey = some load.key) (replies : DetailReplies) : (workspace.received js load replies).Acts was := by
  unfold Workspace.received
  split
  · exact ⟨acts.bounded, (by rintro _ ⟨⟩), acts.latest, acts.pending, acts.running⟩
  next details scalar read =>
    refine ⟨acts.bounded, ?_, acts.latest, acts.pending, acts.running⟩
    intro shown same
    cases same
    exact selected.trans (congrArg some (readDetails_key js read).symm)

theorem Acts.readEnds (acts : workspace.Acts was) (requestId : Nat) : (workspace.readEnds requestId).Acts was := by
  unfold Workspace.readEnds
  split
  · exact acts.idle
  · exact acts

theorem Acts.detailsReplied (js : Builtins) (acts : workspace.Acts was) (requestId : Nat) (replies : DetailReplies) :
    (workspace.detailsReplied js requestId replies).Acts was := by
  unfold Workspace.detailsReplied
  split
  · exact acts
  next load found =>
    have known : load.requestId = requestId := by simpa using List.find?_some found
    have answered : { workspace with loads := workspace.loads.filter (·.requestId ≠ requestId) }.Acts was :=
      ⟨fun load member => acts.bounded load (List.mem_of_mem_filter member), acts.shown,
        fun load member => acts.latest load (List.mem_of_mem_filter member), acts.pending, acts.running⟩
    split
    next latest =>
      have selected := acts.latest load (List.mem_of_find?_eq_some found) (known.trans latest.symm)
      exact (answered.received js selected replies).readEnds requestId
    · exact answered.readEnds requestId

theorem Acts.commandsDone (acts : workspace.Acts was) {running : RunningMutation}
    (planned : was running.planned ∧ ∀ command ∈ running.remaining, command ∈ running.planned.plan.commands) :
    (workspace.commandsDone running).Acts was := by
  have done := acts.idle
  unfold Workspace.commandsDone
  split
  · exact done.clearDetails
  · split
    · exact done
    next key chosen =>
      split
      · exact done
      · refine (done.loadDetails running.database key).goesOn _ ?_
        intro waiting started
        cases started
        exact planned

theorem Acts.nextCommand (acts : workspace.Acts was) {running : RunningMutation}
    (planned : was running.planned ∧ ∀ command ∈ running.remaining, command ∈ running.planned.plan.commands) :
    (workspace.nextCommand running).Acts was := by
  unfold Workspace.nextCommand
  split
  next command remaining more =>
    apply acts.goesOn
    intro waiting started
    cases started
    exact ⟨planned.1, fun other member => planned.2 other (by rw [more]; exact List.mem_cons_of_mem _ member)⟩
  · have succeeded : { workspace with feedback := some (running.planned.plan.title ++ "成功") }.Acts was :=
      ⟨acts.bounded, acts.shown, acts.latest, acts.pending, acts.running⟩
    dsimp only
    split
    · apply succeeded.goesOn
      intro waiting started
      cases started
      exact planned
    · exact succeeded.commandsDone planned

theorem Acts.executeMutation (acts : workspace.Acts was) (database : String) {planned : PlannedMutation} (was' : was planned) :
    (workspace.executeMutation database planned).Acts was := by
  unfold Workspace.executeMutation
  split
  · exact acts
  · have started : { workspace with pendingMutation := none, error := none, feedback := none }.Acts was :=
      ⟨acts.bounded, acts.shown, acts.latest, (by rintro _ ⟨⟩), acts.running⟩
    exact started.nextCommand ⟨was', fun _ member => member⟩

theorem Acts.commandReplied (acts : workspace.Acts was) (failure : Option AppError) : (workspace.commandReplied failure).Acts was := by
  unfold Workspace.commandReplied
  split
  · exact acts
  next running inFlight =>
    split
    · exact acts
    · cases failure with
      | some error =>
        have done := acts.idle
        exact ⟨done.bounded, done.shown, done.latest, done.pending, (by rintro _ ⟨⟩)⟩
      | none => exact acts.nextCommand (acts.running running inFlight)

theorem Acts.keysReplied (acts : workspace.Acts was) : workspace.keysReplied.Acts was := by
  unfold Workspace.keysReplied
  split
  · exact acts
  next running inFlight =>
    split
    · exact acts.commandsDone (acts.running running inFlight)
    · exact acts

end Workspace

namespace App
variable {js : Builtins} {was : PlannedMutation → Prop} {app : App}

theorem effects_acts (acts : app.workspace.Acts was) : app.effects.workspace.Acts was := by
  have redrafted : { app.workspace with databaseDraft := app.database }.Acts was :=
    ⟨acts.bounded, acts.shown, acts.latest, acts.pending, acts.running⟩
  unfold effects
  dsimp only
  split
  · exact redrafted
  · split
    · exact redrafted
    · exact redrafted.loadDetails _ _

theorem rendered_acts (acts : app.workspace.Acts was) (previous : String) : (app.rendered previous).workspace.Acts was := by
  unfold rendered
  split
  · exact acts
  · exact effects_acts acts

theorem requestPlanned_acts (acts : app.workspace.Acts was) {planned : PlannedMutation} (was' : was planned) :
    (app.requestPlanned planned).workspace.Acts was := by
  unfold requestPlanned
  dsimp only
  split
  · refine ⟨acts.bounded, acts.shown, acts.latest, ?_, acts.running⟩
    intro waiting held
    cases held
    exact was'
  · exact acts.executeMutation _ was'

theorem commitDatabaseDraft_acts (acts : app.workspace.Acts was) : (app.commitDatabaseDraft js).workspace.Acts was := by
  unfold App.commitDatabaseDraft
  split
  · exact acts
  · split
    · exact ⟨acts.bounded, acts.shown, acts.latest, acts.pending, acts.running⟩
    next normalized natural =>
      have drafted : { app.workspace with databaseDraft := normalized }.Acts was :=
        ⟨acts.bounded, acts.shown, acts.latest, acts.pending, acts.running⟩
      dsimp only
      split
      · exact drafted
      · rw [(select_keeps _ _ _).1]
        exact drafted.clearDetails

/-- A step keeps the details with the selected key; what a control plans meets what is said of plans. -/
theorem step_acts (event : Event) (acts : app.workspace.Acts was)
    (planned : ∀ control planned, app.planned js control = some (.ok planned) → was planned)
    (created : ∀ plan, was { plan, readFrom := none }) : (step js app event).workspace.Acts was := by
  cases event with
  | connectionsSaved connections title =>
    apply rendered_acts
    unfold App.connectionsSaved
    dsimp only
    split <;> exact acts
  | selectRedisDatabase connectionId database =>
    apply rendered_acts
    rw [(select_keeps app connectionId database).1]
    exact acts
  | openRedisKey connectionId database =>
    apply rendered_acts
    unfold handleOpenRedisKey
    split <;> exact acts
  | selectQueryTab connectionId title =>
    apply rendered_acts
    unfold handleSelectQueryTab
    split
    · exact acts
    · split <;> exact acts
  | commitDatabaseDraft => exact rendered_acts (commitDatabaseDraft_acts acts) _
  | editDatabaseDraft text => exact ⟨acts.bounded, acts.shown, acts.latest, acts.pending, acts.running⟩
  | cliRunningChange running => exact ⟨acts.bounded, acts.shown, acts.latest, acts.pending, acts.running⟩
  | editDrafts drafts => exact ⟨acts.bounded, acts.shown, acts.latest, acts.pending, acts.running⟩
  | loadDetails key => exact acts.loadDetails _ key
  | detailsReplied requestId replies => exact acts.detailsReplied js requestId replies
  | requestMutation control =>
    simp only [step, App.requestMutation]
    split
    · exact acts
    · exact ⟨acts.bounded, acts.shown, acts.latest, acts.pending, acts.running⟩
    next plan plans => exact requestPlanned_acts acts (planned control plan plans)
  | createKey form =>
    simp only [step, App.createKey]
    split
    · exact acts
    · split
      · exact ⟨acts.bounded, acts.shown, acts.latest, acts.pending, acts.running⟩
      · exact requestPlanned_acts acts (created _)
  | cancelMutation =>
    simp only [step, App.cancelMutation]
    split
    · exact acts
    · exact ⟨acts.bounded, acts.shown, acts.latest, (fun _ waits => by cases waits), acts.running⟩
  | confirmMutation =>
    simp only [step, App.confirmMutation]
    split
    · exact acts
    next plan waiting => exact acts.executeMutation _ (acts.pending plan waiting)
  | commandReplied failure => exact acts.commandReplied failure
  | keysReplied => exact acts.keysReplied

theorem initial_acts (connections : List SavedConnection) (selectedRedisDatabases : Uuid → Option String)
    (connectionId : Uuid) (title sqlText : String) :
    (initial connections selectedRedisDatabases connectionId title sqlText).workspace.Acts was := by
  have fresh : (mounted connections selectedRedisDatabases connectionId title sqlText).workspace.Acts was := by
    refine ⟨fun load member => absurd member List.not_mem_nil, ?_, fun load member => absurd member List.not_mem_nil, ?_, ?_⟩
    · intro details shown
      cases shown
    · intro planned waits
      cases waits
    · intro running inFlight
      cases inFlight
  exact effects_acts fresh

variable (js) in
/-- A control planned this mutation in a state that the run went through. -/
def PlannedIn (start : App) (events : List Event) (planned : PlannedMutation) : Prop :=
  ∃ earlier, earlier <+: events ∧ ∃ control, (run (step js) start earlier).planned js control = some (.ok planned)

theorem PlannedIn.mono {start : App} {events more : List Event} {planned : PlannedMutation} (was : PlannedIn js start events planned)
    (longer : events <+: more) : PlannedIn js start more planned := by
  obtain ⟨earlier, before, control, plans⟩ := was
  exact ⟨earlier, before.trans longer, control, plans⟩

/-- In every run the details are those of the selected key, and what waits and runs was planned in it. -/
theorem run_acts {start : App} (initial : ∀ was, start.workspace.Acts was) (events : List Event) :
    (run (step js) start events).workspace.Acts fun planned => planned.readFrom = none ∨ PlannedIn js start events planned := by
  apply @run_history _ _ (step js) start fun events app =>
    app.workspace.Acts fun planned => planned.readFrom = none ∨ PlannedIn js start events planned
  · exact initial _
  · intro history event acts
    have longer : history <+: history ++ [event] := List.prefix_append _ _
    have earlier := acts.mono fun planned was => was.imp_right fun was => was.mono longer
    apply step_acts event earlier
    · intro control planned plans
      exact .inr ⟨history, longer, control, plans⟩
    · exact fun plan => .inl rfl

theorem starts_command {planned : PlannedMutation} {execution : Execution} (starts : app.starts planned = some execution) :
    execution.command ∈ planned.plan.commands ∧ execution.readFrom = planned.readFrom := by
  unfold App.starts at starts
  split at starts
  · cases starts
  · obtain ⟨command, first, rfl⟩ := Option.map_eq_some_iff.mp starts
    exact ⟨List.mem_of_head? first, rfl⟩

theorem startsUnconfirmed_command {planned : PlannedMutation} {execution : Execution}
    (starts : app.startsUnconfirmed planned = some execution) :
    execution.command ∈ planned.plan.commands ∧ execution.readFrom = planned.readFrom := by
  unfold App.startsUnconfirmed at starts
  split at starts
  · cases starts
  · exact starts_command starts

/-- A command that is sent belongs to a plan of a control, or to one for a new key. -/
theorem executes_planned (acts : app.workspace.Acts was) {event : Event} {execution : Execution}
    (executed : app.executes js event = some execution)
    (planned : ∀ control planned, app.planned js control = some (.ok planned) → was planned)
    (created : ∀ plan, was { plan, readFrom := none }) :
    ∃ planned, was planned ∧ execution.command ∈ planned.plan.commands ∧ execution.readFrom = planned.readFrom := by
  cases event with
  | requestMutation control =>
    simp only [executes] at executed
    split at executed
    next plan plans => exact ⟨plan, planned control plan plans, startsUnconfirmed_command executed⟩
    · cases executed
  | createKey form =>
    simp only [executes] at executed
    split at executed
    next plan _ => exact ⟨_, created plan, startsUnconfirmed_command executed⟩
    · cases executed
  | confirmMutation =>
    obtain ⟨plan, waiting, starts⟩ := Option.bind_eq_some_iff.mp executed
    exact ⟨plan, acts.pending plan waiting, starts_command starts⟩
  | commandReplied failure =>
    cases failure with
    | some error => cases executed
    | none =>
      obtain ⟨running, inFlight, sends⟩ := Option.bind_eq_some_iff.mp executed
      obtain ⟨was', remaining⟩ := acts.running running inFlight
      split at sends
      · obtain ⟨command, first, rfl⟩ := Option.map_eq_some_iff.mp sends
        exact ⟨running.planned, was', remaining command (List.mem_of_head? first), rfl⟩
      · cases sends
  | _ => cases executed

variable (js) in
/-- The commands that the workspace has for a key: those that read its details, and those of
the plans of its controls. -/
def Issues (app : App) (key command : String) : Prop :=
  (∃ type, command ∈ detailCommands js type key) ∨
    ∃ control planned, app.planned js control = some (.ok planned) ∧ command ∈ planned.plan.commands

theorem Issues.onKey (acts : app.workspace.Acts was) {key command : String} (issues : Issues js app key command)
    (selected : app.workspace.selectedKey = some key) : OnKey key command := by
  obtain ⟨type, sent⟩ | ⟨control, planned, plans, member⟩ := issues
  · exact detailCommands_onKey js sent
  · unfold App.planned at plans
    obtain ⟨details, shown, plans⟩ := Option.bind_eq_some_iff.mp plans
    obtain ⟨plan, planOf, plans⟩ := Option.bind_eq_some_iff.mp plans
    have same : details.content.key = key := Option.some.inj ((acts.shown details shown).symm.trans selected)
    split at plans
    · cases plans
    · cases plan with
      | error message => cases plans
      | ok plan =>
        obtain rfl := Except.ok.inj (Option.some.inj plans)
        rw [← same]
        exact plan_plansOn js planOf command member

variable (js) in
/-- A key that SCAN finds is listed, but for the empty one. In every run the commands that the
workspace has for a listed key carry the bytes of the key exactly if these are text, the
first of them is parsed unless it is too long, and the mutations were planned in the run. -/
theorem run_actsOnKeys (parseFinite : String → Option UInt64) (connections : List SavedConnection)
    (selectedRedisDatabases : Uuid → Option String) (connectionId : Uuid) (title sqlText : String) :
    (∀ cursor keys current replace, ∀ bytes ∈ keys, bytes ≠ [] →
      shownKey js bytes ∈ listedKeys current (pageKeys js (scanResult parseFinite (scanReply cursor keys))) replace) ∧
    (∀ events bytes,
      (run (step js) (initial connections selectedRedisDatabases connectionId title sqlText) events).workspace.selectedKey =
        some (shownKey js bytes) →
      ∀ command,
        Issues js (run (step js) (initial connections selectedRedisDatabases connectionId title sqlText) events)
          (shownKey js bytes) command →
        ∀ arguments, parseCommand command = .ok arguments →
          (keyArgument arguments = some bytes ↔ (fromUtf8 bytes).isSome = true)) ∧
    (∀ bytes, (utf8 ("TYPE " ++ quoteRedisArgument (shownKey js bytes))).length ≤ maxCommandBytes →
      ∃ arguments, parseCommand ("TYPE " ++ quoteRedisArgument (shownKey js bytes)) = .ok arguments) ∧
    ∀ events event execution,
      (run (step js) (initial connections selectedRedisDatabases connectionId title sqlText) events).executes js event =
        some execution →
      execution.readFrom.isSome = true →
      ∃ planned, PlannedIn js (initial connections selectedRedisDatabases connectionId title sqlText) events planned ∧
        execution.command ∈ planned.plan.commands := by
  have acts (events : List Event) :
      (run (step js) (initial connections selectedRedisDatabases connectionId title sqlText) events).workspace.Acts fun planned =>
        planned.readFrom = none ∨ PlannedIn js (initial connections selectedRedisDatabases connectionId title sqlText) events planned :=
    run_acts (fun was => initial_acts connections selectedRedisDatabases connectionId title sqlText) events
  refine ⟨?_, ?_, ?_, ?_⟩
  · intro cursor keys current replace bytes member nonempty
    exact listed_scan js parseFinite cursor keys current replace member nonempty
  · intro events bytes selected command issues arguments parsed
    rw [(issues.onKey (acts events) selected).argument parsed, ← shownKey_bytes js bytes]
    exact ⟨fun same => Option.some.inj same, fun same => congrArg some same⟩
  · intro bytes small
    exact ⟨_, typeCommand_parsed small⟩
  · intro events event execution executed read
    have planned (control : Control) (planned : PlannedMutation)
        (plans : (run (step js) (initial connections selectedRedisDatabases connectionId title sqlText) events).planned js control =
          some (.ok planned)) :
        planned.readFrom = none ∨
          PlannedIn js (initial connections selectedRedisDatabases connectionId title sqlText) events planned :=
      .inr ⟨events, List.prefix_refl _, control, plans⟩
    obtain ⟨planned, was, member, same⟩ := executes_planned (acts events) executed planned fun plan => .inl rfl
    rcases was with unread | was
    · rw [same, unread] at read
      cases read
    · exact ⟨planned, was, member⟩

/-- A key is selected, and its details are read. -/
def keySelected (key : String) : List Event := [.loadDetails key, .detailsReplied 1 (stringReplies "ada")]

/-- The deletion of the key with this text. -/
def shownKeyDeleted : PlannedMutation where
  plan := {
    title := "删除键"
    summary := "永久删除“base64:/w==”。此操作无法撤销。"
    commands := ["DEL \"base64:/w==\""]
    destructive := true
    nextKey := some none
    refreshKeys := true }
  readFrom := some "0"

/-- A key that is text: its deletion is planned for its bytes. -/
theorem run_actsOnKeys_text :
    (run (step plainTexts) (initial [cacheConnection] (fun _ => none) cacheConnection.profile.id "cache · 查询 1" "PING")
        (keySelected "base64:/w==")).planned plainTexts .delete = some (.ok shownKeyDeleted) ∧
      ∀ arguments, parseCommand "DEL \"base64:/w==\"" = .ok arguments → keyArgument arguments = some (utf8 "base64:/w==") := by
  have planned : (run (step plainTexts)
      (initial [cacheConnection] (fun _ => none) cacheConnection.profile.id "cache · 查询 1" "PING")
      (keySelected "base64:/w==")).planned plainTexts .delete = some (.ok shownKeyDeleted) := by decide +kernel
  refine ⟨planned, ?_⟩
  intro arguments parsed
  have acts := (run_actsOnKeys plainTexts (fun _ => none) [cacheConnection] (fun _ => none) cacheConnection.profile.id
    "cache · 查询 1" "PING").2.1 (keySelected "base64:/w==") (utf8 "base64:/w==") (by decide +kernel) "DEL \"base64:/w==\""
    (.inr ⟨.delete, shownKeyDeleted, planned, List.mem_singleton_self _⟩) arguments parsed
  exact acts.mpr (by decide +kernel)

/-- A key of one byte is listed under the text of its Base64, and deleted under it. -/
theorem run_actsOnKeys_binary :
    shownKey plainTexts [255] ∈
        listedKeys [] (pageKeys plainTexts (scanResult (fun _ => none) (scanReply (.bulk (some [48])) [[255]]))) true ∧
      (run (step plainTexts) (initial [cacheConnection] (fun _ => none) cacheConnection.profile.id "cache · 查询 1" "PING")
        (keySelected (shownKey plainTexts [255]))).planned plainTexts .delete = some (.ok shownKeyDeleted) ∧
      parseCommand "DEL \"base64:/w==\"" = .ok [utf8 "DEL", utf8 "base64:/w=="] ∧
      keyArgument [utf8 "DEL", utf8 "base64:/w=="] ≠ some [255] := by
  refine ⟨?_, ?_, ?_, ?_⟩
  · decide +kernel
  · decide +kernel
  · decide +kernel
  · decide +kernel

end App

end Pipa.RedisBrowsing
