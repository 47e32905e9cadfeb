import Mathlib.Data.List.Induction
import Mathlib.Data.List.TakeWhile
import SwiftTuples.Settings.Load
/-!
# Settings grow

A change of settings is a list of entries that are taken over one after the other, up to the first
that is no good: the lines of a directory before its text, the sections of a text before its
patterns, and patterns that include before those that exclude. What a change does, stopped or not,
is read off its entries (`takes_apply`), and what a run of changes keeps is read off one entry.
-/

namespace SwiftTuples

/-! ## A decoded rule has a limit of errors -/

namespace Decode

variable {α : Type} {P : α → Prop} {fields : List (String × Setter α)} {a b : α}

/-- What every setter keeps, a table keeps. -/
theorem fromTable_keeps (hfields : ∀ f ∈ fields, ∀ a v b, f.2 a v = .ok b → P a → P b)
    {strict : Bool} {entries : List (String × Toml.Value)}
    (h : fromTable fields strict a entries = .ok b) (ha : P a) : P b := by
  induction entries generalizing a with
  | nil =>
    cases h
    exact ha
  | cons entry rest ih =>
    obtain ⟨key, v⟩ := entry
    rw [fromTable] at h
    split at h
    · next setter hlookup =>
      obtain ⟨before, after, rfl, -⟩ := List.lookup_eq_some_iff.1 hlookup
      cases hset : setter a v with
      | error e =>
        rw [hset] at h
        cases h
      | ok c =>
        rw [hset] at h
        exact ih h (hfields (key, setter) (by simp) a v c hset ha)
    · split at h
      · cases h
      · exact ih h ha

/-- What every setter keeps, an array keeps. -/
theorem fromArray_keeps (hfields : ∀ f ∈ fields, ∀ a v b, f.2 a v = .ok b → P a → P b)
    {items : List Toml.Value} (h : fromArray fields a items = .ok b) (ha : P a) : P b := by
  induction fields generalizing a items with
  | nil =>
    cases h
    exact ha
  | cons field fields ih =>
    cases items with
    | nil =>
      cases h
      exact ha
    | cons v rest =>
      rw [fromArray] at h
      cases hset : field.2 a v with
      | error e =>
        rw [hset] at h
        cases h
      | ok c =>
        rw [hset] at h
        exact ih (fun f hf => hfields f (List.mem_cons_of_mem _ hf)) h
          (hfields field List.mem_cons_self a v c hset ha)

/-- What every setter keeps, a record keeps, whatever it is read from. -/
theorem record_keeps (hfields : ∀ f ∈ fields, ∀ a v b, f.2 a v = .ok b → P a → P b)
    {name : String} {strict : Bool} {v : Toml.Value} (h : record name fields strict a v = .ok b)
    (ha : P a) : P b := by
  cases v with
  | table entries | date text => exact fromTable_keeps hfields h ha
  | array items => exact fromArray_keeps hfields h ha
  | string | integer | float | boolean => cases h

/-- A setter that puts a decoded value in its place. -/
theorem eq_ok_of_put {β : Type} {x : Decoded β} {put : β → α}
    (h : (do return put (← x) : Decoded α) = .ok b) : ∃ c, x = .ok c ∧ put c = b := by
  cases x with
  | error e => cases h
  | ok c => exact ⟨c, rfl, Except.ok.inj h⟩

/-- No setter of the rule's section takes the limit of errors away. -/
theorem isSome_error_of_tupleFields {f : String × Setter TupleSettings} (hf : f ∈ tupleFields)
    {s t : TupleSettings} {v : Toml.Value} (h : f.2 s v = .ok t) (hs : s.error.isSome) :
    t.error.isSome := by
  simp only [tupleFields, List.mem_cons, List.not_mem_nil, or_false] at hf
  rcases hf with rfl | rfl | rfl | rfl
  all_goals obtain ⟨c, -, rfl⟩ := eq_ok_of_put h
  · exact hs
  · rfl
  · exact hs
  · exact hs

theorem isSome_error_of_tuples {v : Toml.Value} {s : TupleSettings} (h : tuples v = .ok s) :
    s.error.isSome :=
  record_keeps (P := fun s : TupleSettings => s.error.isSome)
    (fun _ hf _ _ _ => isSome_error_of_tupleFields hf) h rfl

theorem isSome_error_of_sections {entries : List (String × Toml.Value)} {found : Sections}
    (h : sections entries = .ok found) : found.tuples.error.isSome := by
  refine fromTable_keeps (P := fun s : Sections => s.tuples.error.isSome) ?_ h rfl
  intro f hf s v t hset hs
  simp only [sectionFields, List.mem_cons, List.not_mem_nil, or_false] at hf
  rcases hf with rfl | rfl
  all_goals obtain ⟨c, hc, rfl⟩ := eq_ok_of_put hset
  · exact isSome_error_of_tuples hc
  · exact hs

/-- **A text that is decoded sets a limit of errors**, if only that of the defaults. -/
theorem isSome_error_of_text {source : Text} {found : Sections} (h : text source = .ok found) :
    found.tuples.error.isSome := by
  unfold text at h
  split at h
  · exact isSome_error_of_sections h
  · cases h

end Decode

namespace Settings

/-! ## Changes and their entries -/

/-- What can be done to settings once they are there. -/
inductive Change where
  /-- Leaves out what a line says. -/
  | line (line : Text)
  /-- Takes over what a settings text says. -/
  | text (source : Text)
  /-- Takes over what the files of a directory say. -/
  | directory (w : Workspace) (place : Path)

/-- The step that a change is. -/
def Change.apply (s : Settings) : Change → Step
  | line l => s.ignore [l]
  | text source => s.applyText source
  | directory w place => s.applyDirectory w place

/-- The settings after a run of changes, some of which may have been stopped. -/
def after (changes : List Change) : Settings := changes.foldl (fun s c => (c.apply s).settings) {}

/-- One thing that a change says. -/
inductive Entry where
  /-- A file that cannot be read, or a text that cannot be decoded. -/
  | unusable (cause : SettingsError)
  /-- What the sections of a text say beside patterns. -/
  | sections (tuples : TupleSettings) (verbose : Bool)
  /-- The text of a pattern that paths have to match. -/
  | inclusion (pattern : String)
  /-- The text of a pattern that paths must not match. -/
  | exclusion (pattern : String)

namespace Entry

/-- Why an entry is no good. -/
def fault? : Entry → Option SettingsError
  | unusable cause => some cause
  | sections .. => none
  | inclusion text | exclusion text =>
    match Pattern.ofText? text with
    | none => some (.badPattern text)
    | some _ => none

/-- The settings with an entry that is good. -/
def enter (s : Settings) : Entry → Settings
  | unusable _ => s
  | sections tuples verbose => { s with tuples, verbose := s.verbose || verbose }
  | inclusion text => { s with includes := s.includes ++ (Pattern.ofText? text).toList }
  | exclusion text => { s with excludes := s.excludes ++ (Pattern.ofText? text).toList }

/-- The entries of lines that say what to leave out. -/
def ofLines (lines : List Text) : List Entry := (lines.filterMap ignoredPattern?).map exclusion

/-- The entries of a settings text. -/
def ofText (source : Text) : List Entry :=
  match Decode.text source with
  | .error cause => [unusable (.undecodable cause)]
  | .ok found =>
    sections found.tuples found.scan.verbose ::
      (found.scan.includes.map inclusion ++ found.scan.excludes.map exclusion)

/-- The entries of a file, if there is one. -/
def ofFile (w : Workspace) (path : Path) (read : Text → List Entry) : List Entry :=
  if w.isFile path then
    match w.read path with
    | .error cause => [unusable (.unreadable path cause)]
    | .ok source => read source
  else []

end Entry

/-- The entries of the lines of a directory. -/
def lineEntries (w : Workspace) (place : Path) : List Entry :=
  Entry.ofFile w (place.join ignoreName) fun source => Entry.ofLines source.lines

/-- What a change says, in the order in which it is taken over. -/
def Change.entries : Change → List Entry
  | line l => Entry.ofLines [l]
  | text source => Entry.ofText source
  | directory w place => lineEntries w place ++ Entry.ofFile w (place.join fileName) Entry.ofText

/-- The step takes over the entries up to the first that is no good, and is stopped by that one. -/
structure Takes (s : Settings) (entries : List Entry) (a : Step) : Prop where
  settings : a.settings = (entries.takeWhile (·.fault?.isNone)).foldl Entry.enter s
  stopped : a.stopped = entries.findSome? Entry.fault?

namespace Takes

variable {s : Settings} {entries more : List Entry} {a : Step}

theorem all_good (h : Takes s entries a) (hstopped : a.stopped = none) :
    ∀ e ∈ entries, e.fault?.isNone := by
  rw [h.stopped, List.findSome?_eq_none_iff] at hstopped
  exact fun e he => by rw [hstopped e he]; rfl

theorem unstopped (h : Takes s entries a) (hstopped : a.stopped = none) :
    a.settings = entries.foldl Entry.enter s := by
  rw [h.settings, List.takeWhile_eq_self_iff.2 (h.all_good hstopped)]

/-- Entries before one that is no good are all that is taken over. -/
theorem exists_split (h : Takes s entries a) : ∃ taken left, entries = taken ++ left ∧
    (∀ e ∈ taken, e.fault? = none) ∧ a.settings = taken.foldl Entry.enter s ∧
    a.stopped = left.head?.bind Entry.fault? ∧ (a.stopped = none → left = []) := by
  cases hstopped : a.stopped with
  | none =>
    have hgood := h.all_good hstopped
    refine ⟨entries, [], (List.append_nil _).symm, fun e he => ?_, h.unstopped hstopped, rfl,
      fun _ => rfl⟩
    exact Option.isNone_iff_eq_none.1 (hgood e he)
  | some cause =>
    have hfault : entries.findSome? Entry.fault? = some cause := by rw [← h.stopped, hstopped]
    obtain ⟨taken, bad, left, rfl, hbad, hgood⟩ := List.findSome?_eq_some_iff.1 hfault
    refine ⟨taken, bad :: left, rfl, hgood, ?_, hbad.symm, fun hnone => by cases hnone⟩
    rw [h.settings, List.takeWhile_append_of_pos fun x hx => by rw [hgood x hx]; rfl,
      List.takeWhile_cons_of_neg (by simp [hbad]), List.append_nil]

/-- A step that goes on takes over the entries of both parts. -/
theorem andThen {next : Settings → Step} (h : Takes s entries a)
    (hnext : ∀ t, Takes t more (next t)) : Takes s (entries ++ more) (a.andThen next) := by
  unfold Step.andThen
  cases hstopped : a.stopped with
  | some e =>
    -- an entry of the first part is no good, so the second part is not reached
    have hfault : entries.findSome? Entry.fault? = some e := by rw [← h.stopped, hstopped]
    obtain ⟨good, bad, left, rfl, hbad, hgood⟩ := List.findSome?_eq_some_iff.1 hfault
    have hall : ∀ x ∈ good, x.fault?.isNone := fun x hx => by rw [hgood x hx]; rfl
    refine ⟨?_, ?_⟩
    · rw [h.settings, List.append_assoc, List.takeWhile_append_of_pos hall,
        List.takeWhile_append_of_pos hall, List.cons_append,
        List.takeWhile_cons_of_neg (by simp [hbad]), List.takeWhile_cons_of_neg (by simp [hbad])]
    · rw [hstopped, List.findSome?_append, hfault]
      rfl
  | none =>
    have hall := h.all_good hstopped
    obtain ⟨hsettings, hnextStopped⟩ := hnext a.settings
    refine ⟨?_, ?_⟩
    · rw [List.takeWhile_append_of_pos hall, List.foldl_append, ← h.unstopped hstopped]
      exact hsettings
    · rw [List.findSome?_append, ← h.stopped, hstopped]
      exact hnextStopped

end Takes

/-! ## What a change takes over -/

theorem settings_andThen (a : Step) (next : Settings → Step) : (a.andThen next).settings =
    match a.stopped with
    | some _ => a.settings
    | none => (next a.settings).settings := by
  unfold Step.andThen
  cases a.stopped <;> rfl

/-- Patterns are taken over up to the first that is none, wherever they are put. -/
theorem takes_patterns (entry : String → Entry) (put : Settings → List Pattern → Settings)
    (hfault : ∀ t, (entry t).fault? = (Entry.exclusion t).fault?)
    (henter : ∀ s t, (entry t).enter s = put s (Pattern.ofText? t).toList)
    (hnil : ∀ s, put s [] = s) (happend : ∀ s ps qs, put (put s ps) qs = put s (ps ++ qs))
    (s : Settings) (texts : List String) :
    Takes s (texts.map entry)
      { settings := put s (patterns texts).1, stopped := (patterns texts).2 } := by
  induction texts generalizing s with
  | nil => exact ⟨hnil s, rfl⟩
  | cons text texts ih =>
    cases hp : Pattern.ofText? text with
    | none =>
      have hbad : (entry text).fault? = some (.badPattern text) := by
        rw [hfault, Entry.fault?, hp]
      constructor <;> simp [patterns, hp, hbad, hnil]
    | some p =>
      have hgood : (entry text).fault? = none := by rw [hfault, Entry.fault?, hp]
      obtain ⟨hsettings, hstopped⟩ := ih (put s [p])
      have hput : put s (p :: (patterns texts).1) = put (put s [p]) (patterns texts).1 :=
        (happend s [p] _).symm
      constructor
      · simpa [patterns, hp, hgood, henter, hput] using hsettings
      · simpa [patterns, hp, hgood] using hstopped

theorem takes_addIncludes (s : Settings) (texts : List String) :
    Takes s (texts.map .inclusion) (s.addIncludes texts) :=
  takes_patterns .inclusion (fun s ps => { s with includes := s.includes ++ ps }) (fun _ => rfl)
    (fun _ _ => rfl) (fun _ => by simp) (fun _ _ _ => by simp) s texts

theorem takes_addExcludes (s : Settings) (texts : List String) :
    Takes s (texts.map .exclusion) (s.addExcludes texts) :=
  takes_patterns .exclusion (fun s ps => { s with excludes := s.excludes ++ ps }) (fun _ => rfl)
    (fun _ _ => rfl) (fun _ => by simp) (fun _ _ _ => by simp) s texts

theorem takes_ignore (s : Settings) (lines : List Text) :
    Takes s (Entry.ofLines lines) (s.ignore lines) :=
  takes_addExcludes s _

theorem takes_applyText (s : Settings) (source : Text) :
    Takes s (Entry.ofText source) (s.applyText source) := by
  unfold applyText Entry.ofText
  cases Decode.text source with
  | error cause => exact ⟨rfl, rfl⟩
  | ok found =>
    -- the sections are good, so the patterns are taken over into the settings that have them
    have hpatterns := (takes_addIncludes
      { s with tuples := found.tuples, verbose := s.verbose || found.scan.verbose }
      found.scan.includes).andThen fun t => takes_addExcludes t found.scan.excludes
    exact ⟨hpatterns.settings, hpatterns.stopped⟩

/-- What is told beside a step does not change what it takes over. -/
theorem takes_applyFile {w : Workspace} {path : Path} {source : Text} (s : Settings)
    (h : w.read path = .ok source) : Takes s (Entry.ofText source) (s.applyFile w path) := by
  unfold applyFile
  rw [h]
  have htold : ∀ t : Settings, Takes t []
      { settings := t, notices := if t.verbose then [.loaded path] else [] } := fun _ => ⟨rfl, rfl⟩
  have htext := (takes_applyText s source).andThen htold
  rwa [List.append_nil] at htext

theorem takes_ifFile {w : Workspace} {path : Path} {step : Settings → Step}
    {read : Text → List Entry} (s : Settings)
    (hread : ∀ source, w.read path = .ok source → Takes s (read source) (step s))
    (hfail : ∀ cause, w.read path = .error cause →
      step s = { settings := s, stopped := some (.unreadable path cause) }) :
    Takes s (Entry.ofFile w path read) (ifFile w path step s) := by
  unfold ifFile Entry.ofFile
  split
  · cases h : w.read path with
    | error cause =>
      rw [hfail cause h]
      exact ⟨rfl, rfl⟩
    | ok source => exact hread source h
  · exact ⟨rfl, rfl⟩

theorem takes_lines (w : Workspace) (place : Path) (s : Settings) :
    Takes s (lineEntries w place)
      (ifFile w (place.join ignoreName) (·.ignoreFile w (place.join ignoreName)) s) := by
  refine takes_ifFile s (fun source h => ?_) fun cause h => ?_
  · rw [ignoreFile, h]
    exact takes_ignore s source.lines
  · rw [ignoreFile, h]

/-- **A change takes over its entries** up to the first that is no good. -/
theorem takes_apply (s : Settings) (c : Change) : Takes s c.entries (c.apply s) := by
  cases c with
  | line l => exact takes_ignore s [l]
  | text source => exact takes_applyText s source
  | directory w place =>
    refine (takes_lines w place s).andThen fun t => ?_
    refine takes_ifFile t (fun source h => takes_applyFile t h) fun cause h => ?_
    rw [applyFile, h]

/-! ## What entries keep -/

/-- Patterns have only been added at the end, and what was to be told still is. -/
structure Grown (s t : Settings) : Prop where
  includes : s.includes <+: t.includes
  excludes : s.excludes <+: t.excludes
  verbose : s.verbose → t.verbose

theorem Grown.refl (s : Settings) : Grown s s :=
  ⟨List.prefix_rfl, List.prefix_rfl, id⟩

theorem Grown.trans {s t u : Settings} (h : Grown s t) (h' : Grown t u) : Grown s u :=
  ⟨h.includes.trans h'.includes, h.excludes.trans h'.excludes, fun hs => h'.verbose (h.verbose hs)⟩

theorem grown_enter (s : Settings) (e : Entry) : Grown s (e.enter s) := by
  cases e with
  | unusable cause => exact .refl s
  | sections tuples verbose =>
    exact ⟨List.prefix_rfl, List.prefix_rfl, fun hs => by simp [Entry.enter, hs]⟩
  | inclusion text => exact ⟨List.prefix_append _ _, List.prefix_rfl, id⟩
  | exclusion text => exact ⟨List.prefix_rfl, List.prefix_append _ _, id⟩

theorem grown_foldl (s : Settings) (entries : List Entry) :
    Grown s (entries.foldl Entry.enter s) := by
  induction entries generalizing s with
  | nil => exact .refl s
  | cons e entries ih => exact (grown_enter s e).trans (ih (e.enter s))

/-- Only sections say what the rule is. -/
def Entry.IsSections : Entry → Prop
  | sections .. => True
  | _ => False

theorem tuples_foldl {s : Settings} {entries : List Entry} (h : ∀ e ∈ entries, ¬ e.IsSections) :
    (entries.foldl Entry.enter s).tuples = s.tuples := by
  induction entries generalizing s with
  | nil => rfl
  | cons e entries ih =>
    rw [List.foldl_cons, ih fun x hx => h x (List.mem_cons_of_mem e hx)]
    have he := h e List.mem_cons_self
    cases e with
    | sections => exact absurd trivial he
    | unusable | inclusion | exclusion => rfl

theorem not_isSections_of_mem_lineEntries {w : Workspace} {place : Path} {e : Entry}
    (h : e ∈ lineEntries w place) : ¬ e.IsSections := by
  unfold lineEntries Entry.ofFile at h
  split at h
  · split at h
    · rw [List.mem_singleton.1 h]
      exact id
    · obtain ⟨text, -, rfl⟩ := List.mem_map.1 h
      exact id
  · cases h

/-! ## The rule of the last text -/

/-- The text of a file, if there is one that can be read. -/
def textOf (w : Workspace) (path : Path) : List Text :=
  if w.isFile path then (w.read path).toOption.toList else []

/-- The settings texts that a change comes to decode. That of a directory is not reached if its
lines stop the change. -/
def Change.texts : Change → List Text
  | line _ => []
  | text source => [source]
  | directory w place =>
    if (lineEntries w place).all (·.fault?.isNone) then textOf w (place.join fileName) else []

/-- What the last of the texts that can be decoded says of the rule, or `initial` if none can. -/
def lastTuples (initial : TupleSettings) (texts : List Text) : TupleSettings :=
  ((texts.filterMap fun t => (Decode.text t).toOption).getLast?.map (·.tuples)).getD initial

theorem lastTuples_append (initial : TupleSettings) (texts more : List Text) :
    lastTuples initial (texts ++ more) = lastTuples (lastTuples initial texts) more := by
  unfold lastTuples
  rw [List.filterMap_append, List.getLast?_append]
  cases (more.filterMap fun t => (Decode.text t).toOption).getLast? <;> rfl

theorem tuples_takes_ofText {s : Settings} {source : Text} {a : Step}
    (h : Takes s (Entry.ofText source) a) : a.settings.tuples = lastTuples s.tuples [source] := by
  rw [h.settings]
  unfold Entry.ofText lastTuples
  cases hsource : Decode.text source with
  | error cause => simp [Entry.fault?, hsource, Except.toOption]
  | ok found =>
    rw [List.takeWhile_cons_of_pos rfl, List.foldl_cons, tuples_foldl]
    · simp [hsource, Entry.enter, Except.toOption]
    · intro e he
      have hmem := (List.takeWhile_prefix _).subset he
      simp only [List.mem_append, List.mem_map] at hmem
      obtain ⟨text, -, rfl⟩ | ⟨text, -, rfl⟩ := hmem <;> exact id

theorem tuples_takes_lines {w : Workspace} {place : Path} {s : Settings} {a : Step}
    (h : Takes s (lineEntries w place) a) : a.settings.tuples = s.tuples := by
  rw [h.settings]
  exact tuples_foldl fun e he =>
    not_isSections_of_mem_lineEntries ((List.takeWhile_prefix _).subset he)

theorem tuples_applyFile (w : Workspace) (path : Path) (s : Settings) :
    (ifFile w path (·.applyFile w path) s).settings.tuples =
      lastTuples s.tuples (textOf w path) := by
  unfold ifFile textOf
  split
  · cases hread : w.read path with
    | error cause =>
      dsimp only
      rw [applyFile, hread]
      rfl
    | ok source => exact tuples_takes_ofText (takes_applyFile s hread)
  · rfl

/-- A change sets the rule as the texts say that it comes to decode. -/
theorem tuples_apply (s : Settings) (c : Change) :
    (c.apply s).settings.tuples = lastTuples s.tuples c.texts := by
  cases c with
  | line l =>
    rw [(takes_apply s (.line l)).settings]
    refine tuples_foldl fun e he => ?_
    obtain ⟨text, -, rfl⟩ := List.mem_map.1 ((List.takeWhile_prefix _).subset he)
    exact id
  | text source => exact tuples_takes_ofText (takes_applyText s source)
  | directory w place =>
    have hlines := takes_lines w place s
    have htuples := tuples_takes_lines hlines
    rw [Change.apply, applyDirectory, settings_andThen, Change.texts]
    split
    · next cause hstopped =>
      have hbad : ¬ (lineEntries w place).all (·.fault?.isNone) := by
        obtain ⟨e, he, hfault⟩ := List.exists_of_findSome?_eq_some (hlines.stopped ▸ hstopped)
        exact fun hall => by simpa [hfault] using List.all_eq_true.1 hall e he
      rw [if_neg hbad]
      exact htuples
    · next hstopped =>
      rw [if_pos (List.all_eq_true.2 (hlines.all_good hstopped)), ← htuples]
      exact tuples_applyFile w _ _

/-! ## Runs of changes -/

theorem after_concat (changes : List Change) (c : Change) :
    after (changes ++ [c]) = (c.apply (after changes)).settings := by
  rw [after, List.foldl_append]
  rfl

/-- A run of changes sets the rule as its last text says that can be decoded. -/
theorem tuples_after (changes : List Change) :
    (after changes).tuples = lastTuples {} (changes.flatMap Change.texts) := by
  induction changes using List.reverseRecOn with
  | nil => rfl
  | append_singleton changes c ih =>
    rw [after_concat, tuples_apply, ih, ← lastTuples_append, List.flatMap_append,
      List.flatMap_singleton]

theorem isSome_error_lastTuples (texts : List Text) : (lastTuples {} texts).error.isSome := by
  unfold lastTuples
  cases hlast : (texts.filterMap fun t => (Decode.text t).toOption).getLast? with
  | none => rfl
  | some found =>
    obtain ⟨source, -, hsource⟩ := List.mem_filterMap.1 (List.mem_of_getLast? hlast)
    cases hdecoded : Decode.text source with
    | error cause =>
      rw [hdecoded] at hsource
      cases hsource
    | ok decoded =>
      rw [hdecoded] at hsource
      cases hsource
      exact Decode.isSome_error_of_text hdecoded

/-- The tiers are the given ones, or the limit of errors before that of warnings. -/
theorem thresholds_lastTuples (texts : List Text) : ∃ limit,
    (lastTuples {} texts).error = some limit ∧ (lastTuples {} texts).thresholds =
      (lastTuples {} texts).tiers.getD
        [⟨.error, limit⟩, ⟨.warning, (lastTuples {} texts).warning⟩] := by
  obtain ⟨limit, hlimit⟩ := Option.isSome_iff_exists.1 (isSome_error_lastTuples texts)
  refine ⟨limit, hlimit, ?_⟩
  unfold TupleSettings.thresholds
  rw [hlimit]
  cases (lastTuples {} texts).tiers <;> rfl

theorem apply_line_of_stopped {s : Settings} {line : Text}
    (h : (Change.apply s (.line line)).stopped.isSome) :
    (Change.apply s (.line line)).settings = s := by
  have htakes := takes_apply s (.line line)
  obtain ⟨cause, hcause⟩ := Option.isSome_iff_exists.1 h
  rw [htakes.stopped] at hcause
  rw [htakes.settings]
  -- a line has one entry at most
  cases hline : ignoredPattern? line with
  | none => simp [Change.entries, Entry.ofLines, hline]
  | some text =>
    simp only [Change.entries, Entry.ofLines, List.filterMap_cons, hline, List.filterMap_nil,
      List.map_cons, List.map_nil, List.findSome?_singleton] at hcause ⊢
    simp [hcause]

theorem applyText_of_undecodable {s : Settings} {source : Text} {cause : DecodeError}
    (h : Decode.text source = .error cause) :
    s.applyText source = { settings := s, stopped := some (.undecodable cause) } := by
  rw [applyText, h]

/-- A directory whose text cannot be decoded changes what its lines change. -/
theorem settings_applyDirectory_of_undecodable {s : Settings} {w : Workspace} {place : Path}
    {source : Text} {cause : DecodeError} (hread : w.read (place.join fileName) = .ok source)
    (h : Decode.text source = .error cause) : (s.applyDirectory w place).settings =
      (ifFile w (place.join ignoreName) (·.ignoreFile w (place.join ignoreName)) s).settings := by
  rw [applyDirectory, settings_andThen]
  split
  · rfl
  · rw [ifFile]
    split
    · rw [applyFile, hread]
      dsimp only
      rw [settings_andThen, applyText_of_undecodable h]
    · rfl

/-- **What runs of changes keep.** A change `c`, stopped or not, of settings that other changes have
made only adds patterns at the end and does not take back that more is to be told. The rule is as a
whole that of the last text that was decoded, or the default one, and it has a limit of errors. The
change takes over what it says up to the first entry that is no good, and nothing from there on; a
line that is no good and a text that cannot be decoded change nothing. -/
theorem changes_accumulate (changes : List Change) (c : Change) :
    let s := after changes
    let a := c.apply s
    after (changes ++ [c]) = a.settings ∧ Grown s a.settings ∧
    a.settings.tuples = lastTuples {} ((changes ++ [c]).flatMap Change.texts) ∧
    (∃ limit, a.settings.tuples.error = some limit ∧ a.settings.tuples.thresholds =
      a.settings.tuples.tiers.getD [⟨.error, limit⟩, ⟨.warning, a.settings.tuples.warning⟩]) ∧
    (∃ taken left, c.entries = taken ++ left ∧ (∀ e ∈ taken, e.fault? = none) ∧
      a.settings = taken.foldl Entry.enter s ∧ a.stopped = left.head?.bind Entry.fault? ∧
      (a.stopped = none → left = [])) ∧
    (∀ line, c = .line line → a.stopped.isSome → a.settings = s) ∧
    (∀ source cause, c = .text source → Decode.text source = .error cause →
      a.settings = s ∧ a.stopped = some (.undecodable cause)) ∧
    (∀ w place source cause, c = .directory w place →
      w.read (place.join fileName) = .ok source → Decode.text source = .error cause →
      a.settings =
        (ifFile w (place.join ignoreName) (·.ignoreFile w (place.join ignoreName))
          s).settings) := by
  intro s a
  have htakes : Takes s c.entries a := takes_apply s c
  have hafter : after (changes ++ [c]) = a.settings := after_concat changes c
  have htuples := tuples_after (changes ++ [c])
  rw [hafter] at htuples
  refine ⟨hafter, ?_, htuples, ?_, htakes.exists_split, ?_, ?_, ?_⟩
  · rw [htakes.settings]
    exact grown_foldl s _
  · rw [htuples]
    exact thresholds_lastTuples _
  · rintro line rfl hstopped
    exact apply_line_of_stopped hstopped
  · rintro source cause rfl hsource
    have ha : a = _ := applyText_of_undecodable hsource
    rw [ha]
    exact ⟨rfl, rfl⟩
  · rintro w place source cause rfl hread hsource
    exact settings_applyDirectory_of_undecodable hread hsource

/-- The pattern before the one that is no good is kept, and so are the sections. -/
example :
    let source := "[scan]\ninclude = [\"a\", \"(\"]\n[large_tuple]\nerror = 9".toList
    let a := Change.apply {} (.text source)
    a.settings.includes.length = 1 ∧ a.settings.tuples.error = some 9 ∧ a.stopped.isSome := by
  decide +kernel

end Settings

end SwiftTuples
