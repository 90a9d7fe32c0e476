import Pipa.ColumnPatterns
import Pipa.Library.Runs
import Pipa.Library.TextLines
import Pipa.Shortcuts

/-! Which bindings one key press can match together, and when the settings keep every key
press to one action. -/

namespace Pipa.Shortcuts
open Runs Text

/-- What is known of the case conversions of any host: English letters, except that a locale may
have its own lower case of `I`, and that no plus sign comes out of them. -/
structure Lawful (js : CaseMapping) : Prop where
  lower : ∀ text : String, (∀ c ∈ text.toList, c.toNat < 128 ∧ c ≠ 'I') →
    js.toLocaleLowerCase text = String.ofList (text.toList.map Char.toLower)
  upper : ∀ text : String, (∀ c ∈ text.toList, c.toNat < 128) → js.toUpperCase text = toAsciiUppercase text
  plusless : ∀ text : String, '+' ∉ text.toList → '+' ∉ (js.toUpperCase text).toList

/-- What a binding asks of a key press. -/
structure Chord where
  key : Option String
  usesMod : Bool
  expectsCtrl : Bool
  expectsAlt : Bool
  expectsShift : Bool
deriving DecidableEq, Repr

def chordOf (normalizedBinding : String) : Chord :=
  let tokens := split '+' normalizedBinding
  { key := tokens.getLast?
    usesMod := tokens.contains "Mod"
    expectsCtrl := tokens.contains "Ctrl"
    expectsAlt := tokens.contains "Alt"
    expectsShift := tokens.contains "Shift" }

/-- Both ask for the same key with the same Alt and Shift, and both or neither for Ctrl or Mod. -/
def Chord.Overlaps (chord other : Chord) : Prop :=
  chord.key = other.key ∧ chord.expectsAlt = other.expectsAlt ∧ chord.expectsShift = other.expectsShift ∧
    (chord.usesMod || chord.expectsCtrl) = (other.usesMod || other.expectsCtrl)

instance (chord other : Chord) : Decidable (chord.Overlaps other) := by
  unfold Chord.Overlaps
  infer_instance

/-- What Meta and Ctrl must be. -/
def Chord.held (chord : Chord) (metaKey ctrlKey : Bool) : Bool :=
  (if chord.usesMod then metaKey || ctrlKey else !metaKey) &&
    (if chord.usesMod then if chord.expectsCtrl then ctrlKey else !(metaKey && ctrlKey) else ctrlKey == chord.expectsCtrl)

section
variable (js : CaseMapping)

/-- The chord that a binding is matched as. -/
def chord (binding : String) : Option Chord := (normalizeShortcut js binding).map chordOf

/-- Two bindings whose chords overlap. -/
def Overlaps (binding other : String) : Prop :=
  ∃ first second, chord js binding = some first ∧ chord js other = some second ∧ first.Overlaps second

theorem matchesShortcut_iff (event : KeyboardShortcutEvent) (binding : String) :
    matchesShortcut js event binding = true ↔ ∃ found, chord js binding = some found ∧
      found.key = normalizePrimaryKey js event.key ∧ found.held event.metaKey event.ctrlKey = true ∧
      event.altKey = found.expectsAlt ∧ event.shiftKey = found.expectsShift := by
  rw [matchesShortcut, chord]
  cases normalizeShortcut js binding with
  | none =>
    refine iff_of_false Bool.false_ne_true fun asked => ?_
    obtain ⟨found, impossible, -⟩ := asked
    cases impossible
  | some normalized =>
    rw [Option.map_some]
    dsimp only
    by_cases same : (split '+' normalized).getLast? = normalizePrimaryKey js event.key
    · rw [if_neg (not_not_intro same), Bool.and_eq_true, Bool.and_eq_true, beq_iff_eq, beq_iff_eq]
      constructor
      · intro asked
        exact ⟨chordOf normalized, rfl, same, asked.1.1, asked.1.2, asked.2⟩
      · intro asked
        obtain ⟨found, chosen, -, held, alt, shift⟩ := asked
        obtain rfl := Option.some.inj chosen
        exact ⟨⟨held, alt⟩, shift⟩
    · rw [if_pos same]
      refine iff_of_false Bool.false_ne_true fun asked => ?_
      obtain ⟨found, chosen, key, -⟩ := asked
      obtain rfl := Option.some.inj chosen
      exact same key

theorem held_agree {chord other : Chord} {metaKey ctrlKey : Bool} (held : chord.held metaKey ctrlKey = true)
    (held' : other.held metaKey ctrlKey = true) : (chord.usesMod || chord.expectsCtrl) = (other.usesMod || other.expectsCtrl) := by
  have one (chord : Chord) (held : chord.held metaKey ctrlKey = true) :
      (chord.usesMod || chord.expectsCtrl) = (metaKey || ctrlKey) := by
    obtain ⟨key, usesMod, expectsCtrl, expectsAlt, expectsShift⟩ := chord
    cases usesMod <;> cases expectsCtrl <;> cases metaKey <;> cases ctrlKey <;> first | rfl | cases held
  rw [one chord held, one other held']

/-- Ctrl alone is held for a chord exactly where it asks for Ctrl or Mod. -/
theorem held_ctrl (chord : Chord) : chord.held false (chord.usesMod || chord.expectsCtrl) = true := by
  obtain ⟨key, usesMod, expectsCtrl, expectsAlt, expectsShift⟩ := chord
  cases usesMod <;> cases expectsCtrl <;> rfl

/-- Bindings that one key press matches have overlapping chords. -/
theorem overlaps_of_matches {event : KeyboardShortcutEvent} {binding other : String}
    (matched : matchesShortcut js event binding = true) (matched' : matchesShortcut js event other = true) :
    Overlaps js binding other := by
  obtain ⟨first, found, key, held, alt, shift⟩ := (matchesShortcut_iff js event binding).mp matched
  obtain ⟨second, found', key', held', alt', shift'⟩ := (matchesShortcut_iff js event other).mp matched'
  exact ⟨first, second, found, found', key.trans key'.symm, alt.symm.trans alt', shift.symm.trans shift', held_agree held held'⟩

/-- No key press matches the bindings of two actions. -/
def Exclusive (bindings : ShortcutBindings) : Prop :=
  ∀ event first second, matchesShortcut js event (bindings first) = true → matchesShortcut js event (bindings second) = true →
    first = second

/-- A call that passes the checks of the settings gives an action no binding that overlaps
another action's. -/
def Permits (bindings : ShortcutBindings) : Call → Prop
  | .updateShortcutBinding actionId binding => ∀ normalized, normalizeShortcut js binding = some normalized →
      isSafeShortcutBinding js normalized = true → hasConflict js bindings actionId (some normalized) = false →
      ∀ other, other ≠ actionId → ¬ Overlaps js normalized (bindings other)
  | .resetShortcutBinding actionId =>
    hasConflict js bindings actionId (normalizeShortcut js (getDefaultShortcutBindings actionId)) = false →
      ∀ other, other ≠ actionId → ¬ Overlaps js (getDefaultShortcutBindings actionId) (bindings other)
  | .resetAllShortcutBindings => True

variable {js}

/-! ### The tokens of a normal form -/

theorem normalizePrimaryKey_plusless (lawful : Lawful js) {token key : String} (plusless : '+' ∉ token.toList)
    (normal : normalizePrimaryKey js token = some key) : '+' ∉ key.toList := by
  have constant (text : String) (named : some text = some key) (plain : '+' ∉ text.toList) : '+' ∉ key.toList :=
    Option.some.inj named ▸ plain
  rw [normalizePrimaryKey] at normal
  by_cases modifier : token = "" ∨ modifierKeys.contains token
  · rw [if_pos modifier] at normal
    cases normal
  rw [if_neg modifier] at normal
  by_cases blank : token = " "
  · exact constant "Space" ((if_pos blank).symm.trans normal) (by decide)
  rw [if_neg blank] at normal
  by_cases escape : token = "Esc"
  · exact constant "Escape" ((if_pos escape).symm.trans normal) (by decide)
  rw [if_neg escape] at normal
  by_cases bar : token = "Spacebar"
  · exact constant "Space" ((if_pos bar).symm.trans normal) (by decide)
  rw [if_neg bar] at normal
  by_cases delete : token = "Del"
  · exact constant "Delete" ((if_pos delete).symm.trans normal) (by decide)
  rw [if_neg delete] at normal
  by_cases arrow : token = "ArrowUp" ∨ token = "ArrowDown" ∨ token = "ArrowLeft" ∨ token = "ArrowRight"
  · exact constant token ((if_pos arrow).symm.trans normal) plusless
  rw [if_neg arrow] at normal
  cases characters : token.toList with
  | nil =>
    rw [characters] at normal
    cases normal
  | cons first rest =>
    rw [characters] at normal plusless
    have parts : '+' ≠ first ∧ '+' ∉ rest := by simpa using plusless
    dsimp only at normal
    split at normal
    · obtain rfl := Option.some.inj normal
      rwa [characters]
    · split at normal
      · obtain rfl := Option.some.inj normal
        split
        · exact lawful.plusless _ (characters ▸ plusless)
        · rwa [characters]
      · obtain rfl := Option.some.inj normal
        rw [String.toList_append, List.mem_append, not_or, String.toList_ofList]
        refine ⟨lawful.plusless _ ?_, parts.2⟩
        rw [String.toList_singleton, List.mem_singleton]
        exact parts.1

theorem rawTokens_plusless {binding token : String} (listed : token ∈ rawTokens binding) : '+' ∉ token.toList := by
  obtain ⟨piece, inside, rfl⟩ := List.mem_map.mp (List.mem_filter.mp listed).1
  obtain ⟨characters, split_, rfl⟩ := List.mem_map.mp inside
  intro plus
  have kept := mem_trimMatches plus
  rw [String.toList_ofList] at kept
  exact TextLines.free_of_mem_splitOn split_ kept

/-- The last token of a normal form is the key of some press. -/
theorem chord_key (lawful : Lawful js) {binding : String} {found : Chord} (asked : chord js binding = some found) :
    ∃ key, found.key = normalizePrimaryKey js key := by
  obtain ⟨normalized, normal, rfl⟩ := Option.map_eq_some_iff.mp asked
  unfold normalizeShortcut at normal
  split at normal
  · cases normal
  next token primary =>
    obtain ⟨key, named, rfl⟩ := Option.map_eq_some_iff.mp normal
    have named := (Option.filter_eq_some_iff.mp named).1
    refine ⟨token, ?_⟩
    have plusless : ∀ token ∈ modifiers js binding ++ [key], '+' ∉ token.toList := by
      intro token member
      rcases List.mem_append.mp member with modifier | last
      · have plain : ∀ modifier ∈ modifierOrder, '+' ∉ modifier.1.toList := by decide
        obtain ⟨modifier, listed, rfl⟩ := List.mem_map.mp modifier
        exact plain _ (List.mem_filter.mp listed).1
      · obtain rfl := List.mem_singleton.mp last
        exact normalizePrimaryKey_plusless lawful (rawTokens_plusless (List.mem_of_find?_eq_some primary)) named
    have mark : "+" = String.singleton '+' := rfl
    rw [chordOf, mark, split_intercalate (by simp) plusless, List.getLast?_concat, named]

/-- Some key press matches both of two bindings whose chords overlap. -/
theorem matches_of_overlaps (lawful : Lawful js) {binding other : String} (overlaps : Overlaps js binding other) :
    ∃ event, matchesShortcut js event binding = true ∧ matchesShortcut js event other = true := by
  obtain ⟨first, second, found, found', key, alt, shift, held⟩ := overlaps
  obtain ⟨pressed, keyed⟩ := chord_key lawful found
  refine ⟨⟨first.expectsAlt, first.usesMod || first.expectsCtrl, pressed, false, first.expectsShift⟩, ?_, ?_⟩
  · exact (matchesShortcut_iff js _ binding).mpr ⟨first, found, keyed, held_ctrl first, rfl, rfl⟩
  · apply (matchesShortcut_iff js _ other).mpr
    exact ⟨second, found', key.symm.trans keyed, held ▸ held_ctrl second, alt, shift⟩

/-! ### Changes -/

theorem exclusive_iff (lawful : Lawful js) {bindings : ShortcutBindings} :
    Exclusive js bindings ↔ ∀ first second, first ≠ second → ¬ Overlaps js (bindings first) (bindings second) := by
  constructor
  · intro exclusive first second other overlaps
    obtain ⟨event, matched, matched'⟩ := matches_of_overlaps lawful overlaps
    exact other (exclusive event first second matched matched')
  · intro apart event first second matched matched'
    exact Classical.byContradiction fun other => apart first second other (overlaps_of_matches js matched matched')

theorem Overlaps.symm {binding other : String} (overlaps : Overlaps js binding other) : Overlaps js other binding := by
  obtain ⟨first, second, found, found', key, alt, shift, held⟩ := overlaps
  exact ⟨second, first, found', found, key.symm, alt.symm, shift.symm, held.symm⟩

/-- A new binding keeps the actions apart exactly where it overlaps no other action's. -/
theorem exclusive_update (lawful : Lawful js) {bindings : ShortcutBindings} (exclusive : Exclusive js bindings)
    (actionId : ShortcutActionId) (binding : String) :
    Exclusive js (Function.update bindings actionId binding) ↔ ∀ other, other ≠ actionId → ¬ Overlaps js binding (bindings other) := by
  rw [exclusive_iff lawful] at exclusive ⊢
  constructor
  · intro apart other different overlaps
    have updated := apart actionId other different.symm
    rw [Function.update_self, Function.update_of_ne different] at updated
    exact updated overlaps
  · intro apart first second different overlaps
    by_cases here : first = actionId
    · subst here
      rw [Function.update_self, Function.update_of_ne different.symm] at overlaps
      exact apart second different.symm overlaps
    · rw [Function.update_of_ne here] at overlaps
      by_cases there : second = actionId
      · subst there
        rw [Function.update_self] at overlaps
        exact apart first here overlaps.symm
      · rw [Function.update_of_ne there] at overlaps
        exact exclusive first second different overlaps

theorem shortcutDefinition_default (actionId : ShortcutActionId) :
    ∃ definition, shortcutDefinition actionId = some definition ∧
      definition.defaultBinding = getDefaultShortcutBindings actionId := by
  cases actionId <;> exact ⟨_, rfl, rfl⟩

/-! ### The defaults -/

/-- A host without a locale. -/
def ascii : CaseMapping := ⟨fun text => String.ofList (text.toList.map Char.toLower), toAsciiUppercase⟩

def Plain (text : String) : Prop := ∀ c ∈ text.toList, c.toNat < 128 ∧ c ≠ 'I'

instance (text : String) : Decidable (Plain text) := List.decidableBAll _ text.toList

theorem normalizePrimaryKey_ascii (lawful : Lawful js) {key : String} (plain : Plain key) :
    normalizePrimaryKey js key = normalizePrimaryKey ascii key := by
  have whole : js.toUpperCase key = ascii.toUpperCase key := lawful.upper key fun c member => (plain c member).1
  rw [normalizePrimaryKey, normalizePrimaryKey, whole]
  cases characters : key.toList with
  | nil => rfl
  | cons first rest =>
    have initial : js.toUpperCase (String.singleton first) = ascii.toUpperCase (String.singleton first) := by
      apply lawful.upper
      intro c member
      rw [String.toList_singleton, List.mem_singleton] at member
      exact member ▸ (plain first (by simp [characters])).1
    dsimp only
    rw [initial]

theorem normalizeShortcut_ascii (lawful : Lawful js) {binding : String} (plain : ∀ token ∈ rawTokens binding, Plain token) :
    normalizeShortcut js binding = normalizeShortcut ascii binding := by
  have lower : ∀ token ∈ rawTokens binding, js.toLocaleLowerCase token = ascii.toLocaleLowerCase token :=
    fun token listed => lawful.lower token (plain token listed)
  have primary : ((rawTokens binding).find? fun token => !modifierNames.contains (js.toLocaleLowerCase token)) =
      (rawTokens binding).find? fun token => !modifierNames.contains (ascii.toLocaleLowerCase token) := by
    rw [← List.head?_filter, ← List.head?_filter]
    apply congrArg List.head?
    apply List.filter_congr
    intro token listed
    rw [lower token listed]
  have same : modifiers js binding = modifiers ascii binding := by
    apply congrArg (List.map Prod.fst)
    apply List.filter_congr
    intro modifier _
    rw [Bool.eq_iff_iff, List.any_eq_true, List.any_eq_true]
    apply exists_congr
    intro token
    apply and_congr_right
    intro listed
    rw [lower token listed]
  unfold normalizeShortcut
  rw [primary, same]
  cases found : (rawTokens binding).find? fun token => !modifierNames.contains (ascii.toLocaleLowerCase token) with
  | none => rfl
  | some token =>
    dsimp only
    rw [normalizePrimaryKey_ascii lawful (plain token (List.mem_of_find?_eq_some found))]

theorem default_chords : ∀ definition ∈ shortcutDefinitions, ∀ other ∈ shortcutDefinitions, definition.id ≠ other.id →
    ∀ first ∈ chord ascii definition.defaultBinding, ∀ second ∈ chord ascii other.defaultBinding, ¬ first.Overlaps second := by
  decide +kernel

theorem default_plain : ∀ definition ∈ shortcutDefinitions, ∀ token ∈ rawTokens definition.defaultBinding, Plain token := by
  decide +kernel

/-- The defaults keep every key press to one action, in every locale. -/
theorem default_exclusive (lawful : Lawful js) : Exclusive js getDefaultShortcutBindings := by
  rw [exclusive_iff lawful]
  intro first second different overlaps
  obtain ⟨definition, defined, same⟩ := shortcutDefinition_default first
  obtain ⟨definition', defined', same'⟩ := shortcutDefinition_default second
  obtain ⟨one, other, found, found', overlap⟩ := overlaps
  have listed := List.mem_of_find?_eq_some defined
  have listed' := List.mem_of_find?_eq_some defined'
  have named : definition.id = first := by simpa using List.find?_some defined
  have named' : definition'.id = second := by simpa using List.find?_some defined'
  have plain (definition : ShortcutDefinition) (listed : definition ∈ shortcutDefinitions) :
      chord js definition.defaultBinding = chord ascii definition.defaultBinding := by
    rw [chord, chord, normalizeShortcut_ascii lawful (default_plain definition listed)]
  rw [← same, plain definition listed] at found
  rw [← same', plain definition' listed'] at found'
  exact default_chords definition listed definition' listed' (named ▸ named' ▸ different) one found other found' overlap

/-! ### Runs -/

/-- A call keeps every key press to one action exactly when it is permitted. -/
theorem step_exclusive (lawful : Lawful js) (bindings : ShortcutBindings) (call : Call) (exclusive : Exclusive js bindings) :
    Exclusive js (step js bindings call) ↔ Permits js bindings call := by
  cases call with
  | updateShortcutBinding actionId binding =>
    obtain ⟨definition, defined, -⟩ := shortcutDefinition_default actionId
    rw [step, Permits, updateShortcutBinding, defined]
    cases normalizeShortcut js binding with
    | none => exact iff_of_true exclusive fun _ impossible => absurd impossible.symm (Option.some_ne_none _)
    | some normalized =>
      dsimp only
      split
      next refused =>
        refine iff_of_true exclusive fun other same safe free => ?_
        obtain rfl := Option.some.inj same
        rcases refused with unsafe_ | conflict
        · rw [safe] at unsafe_
          cases unsafe_
        · rw [free] at conflict
          cases conflict
      next accepted =>
        obtain ⟨safe, free⟩ := not_or.mp accepted
        rw [exclusive_update lawful exclusive]
        constructor
        · intro apart other same _ _
          obtain rfl := Option.some.inj same
          exact apart
        · intro permitted
          exact permitted normalized rfl (eq_true_of_ne_false safe) (eq_false_of_ne_true free)
  | resetShortcutBinding actionId =>
    obtain ⟨definition, defined, same⟩ := shortcutDefinition_default actionId
    rw [step, Permits, resetShortcutBinding, defined]
    dsimp only
    rw [same]
    split
    next conflict =>
      refine iff_of_true exclusive fun free => ?_
      rw [conflict] at free
      cases free
    next free =>
      rw [exclusive_update lawful exclusive]
      exact ⟨fun apart _ => apart, fun permitted => permitted (eq_false_of_ne_true free)⟩
  | resetAllShortcutBindings => exact iff_of_true (default_exclusive lawful) trivial

/-- From the defaults on, no key press ever matches two actions if and only if no call that passes
the checks gives an action a binding that overlaps another action's. -/
theorem run_exclusive (lawful : Lawful js) (calls : List Call) :
    (∀ before after, calls = before ++ after → ∀ event first second,
      matchesShortcut js event (run (step js) getDefaultShortcutBindings before first) = true →
      matchesShortcut js event (run (step js) getDefaultShortcutBindings before second) = true → first = second) ↔
    Permitted (step js) (Permits js) getDefaultShortcutBindings calls :=
  @permitted_iff _ _ (step js) (Permits js) getDefaultShortcutBindings (Exclusive js) (default_exclusive lawful)
    (step_exclusive lawful) calls

theorem ascii_lawful : Lawful ascii where
  lower _ _ := rfl
  upper _ _ := rfl
  plusless text plusless := by
    have shape : (ascii.toUpperCase text).toList = text.toList.map Char.toUpper := String.toList_ofList
    rw [shape, List.mem_map]
    intro raised
    obtain ⟨c, member, same⟩ := raised
    have code := congrArg Char.toNat same
    have plus : '+'.toNat = 43 := rfl
    rw [ColumnPatterns.toUpper_toNat, plus] at code
    have unchanged : c.toNat = 43 := by
      split at code <;> omega
    exact plusless (Char.toNat_inj.mp (unchanged.trans plus.symm) ▸ member)

theorem run_exclusive_search :
    Exclusive ascii (run (step ascii) getDefaultShortcutBindings [.updateShortcutBinding .find "mod+g"]) := by
  have apart : ∀ definition ∈ shortcutDefinitions, ∀ first ∈ chord ascii "Mod+G",
      ∀ second ∈ chord ascii definition.defaultBinding, ¬ first.Overlaps second := by
    decide +kernel
  have permitted : Permits ascii getDefaultShortcutBindings (.updateShortcutBinding .find "mod+g") := by
    intro normalized normal _ _ other _ overlaps
    have shape : normalizeShortcut ascii "mod+g" = some "Mod+G" := by decide +kernel
    obtain rfl := Option.some.inj (shape.symm.trans normal)
    obtain ⟨definition, defined, same⟩ := shortcutDefinition_default other
    obtain ⟨one, another, found, found', overlap⟩ := overlaps
    exact apart definition (List.mem_of_find?_eq_some defined) one found another (same ▸ found') overlap
  exact (run_exclusive ascii_lawful [.updateShortcutBinding .find "mod+g"]).mpr
    ((permitted_cons (step ascii)).mpr ⟨permitted, permitted_nil (step ascii) _ _⟩) _ [] rfl

/-- Ctrl also fires a binding with Mod, and a key by its other name escapes the comparison of texts. -/
theorem run_exclusive_collisions :
    (∃ event first second, first ≠ second ∧
      matchesShortcut ascii event (run (step ascii) getDefaultShortcutBindings [.updateShortcutBinding .find "Ctrl+T"] first) = true ∧
      matchesShortcut ascii event (run (step ascii) getDefaultShortcutBindings [.updateShortcutBinding .find "Ctrl+T"] second) = true) ∧
    ∃ event first second, first ≠ second ∧
      matchesShortcut ascii event (run (step ascii) getDefaultShortcutBindings
        [.updateShortcutBinding .find "Alt+Escape", .updateShortcutBinding .selectSql "alt+esc"] first) = true ∧
      matchesShortcut ascii event (run (step ascii) getDefaultShortcutBindings
        [.updateShortcutBinding .find "Alt+Escape", .updateShortcutBinding .selectSql "alt+esc"] second) = true := by
  constructor
  · refine ⟨⟨false, true, "t", false, false⟩, .newQuery, .find, ?_⟩
    decide +kernel
  · refine ⟨⟨true, false, "Escape", false, false⟩, .find, .selectSql, ?_⟩
    decide +kernel

end

end Pipa.Shortcuts
