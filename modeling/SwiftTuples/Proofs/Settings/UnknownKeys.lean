import Mathlib
import SwiftTuples.Settings.Load
/-!
# Unknown keys

A settings text says a table of entries, and keys are looked for in four kinds of tables: the text
as a whole, its two sections, and the tiers. A key that none of them knows is passed over in the
text and in the section of the scan, and refused in the section of the rule and in tiers. So a key
added to a text that can be decoded either changes nothing or stops the text from being taken over
at all (`unknown_keys_and_sections`). What a text sets of the rule is what its section of the rule
says, and what it sets beside the rule is what its section of the scan says.
-/

namespace SwiftTuples

open Toml (Value)

namespace Decode

variable {α β : Type} {fields : List (String × Setter α)} {strict : Bool} {key : String}
  {v v' : Value} {a b : α} {before after : List (String × Value)} {cause : DecodeError}

/-! ## Tables -/

theorem bind_eq_ok {x : Decoded α} {f : α → Decoded β} {b : β} :
    x >>= f = .ok b ↔ ∃ a, x = .ok a ∧ f a = .ok b := by
  cases x with
  | error e => exact ⟨fun h => (nomatch h), fun ⟨_, h, _⟩ => (nomatch h)⟩
  | ok a => exact ⟨fun h => ⟨a, rfl, h⟩, fun ⟨_, hx, h⟩ => by cases hx; exact h⟩

/-- Entries are read one after the other. -/
theorem fromTable_append (fields : List (String × Setter α)) (strict : Bool) (a : α)
    (before after : List (String × Value)) : fromTable fields strict a (before ++ after) =
      fromTable fields strict a before >>= fun b => fromTable fields strict b after := by
  induction before generalizing a with
  | nil => rfl
  | cons entry before ih =>
    obtain ⟨key, v⟩ := entry
    rw [List.cons_append, fromTable, fromTable]
    cases fields.lookup key with
    | some setter =>
      dsimp only
      cases setter a v with
      | error e => rfl
      | ok b => exact ih b
    | none =>
      cases strict with
      | true => rfl
      | false => exact ih a

theorem lookup_eq_none (h : key ∉ fields.map (·.1)) : fields.lookup key = none := by
  rw [List.lookup_eq_none_iff]
  intro f hf
  have hne : key ≠ f.1 := fun heq => h (heq ▸ List.mem_map_of_mem hf)
  simpa using hne

/-- A lenient table passes over an unknown key. -/
theorem fromTable_of_unknown (fields : List (String × Setter α)) (h : key ∉ fields.map (·.1))
    (before after : List (String × Value)) (a : α) (v : Value) :
    fromTable fields false a (before ++ (key, v) :: after) =
      fromTable fields false a (before ++ after) := by
  have hkey : ∀ b,
      fromTable fields false b ((key, v) :: after) = fromTable fields false b after := by
    intro b
    rw [fromTable, lookup_eq_none h]
    rfl
  rw [fromTable_append, fromTable_append]
  simp only [hkey]

/-- A strict table that could be read refuses an unknown key. -/
theorem fromTable_refuses (fields : List (String × Setter α)) (h : key ∉ fields.map (·.1))
    (hread : fromTable fields true a (before ++ after) = .ok b) (v : Value) :
    fromTable fields true a (before ++ (key, v) :: after) =
      .error (.unknownField key (fields.map (·.1))) := by
  rw [fromTable_append] at hread
  obtain ⟨c, hbefore, -⟩ := bind_eq_ok.1 hread
  rw [fromTable_append, hbefore]
  change fromTable fields true c ((key, v) :: after) = _
  rw [fromTable, lookup_eq_none h]
  rfl

section known

variable {setter : Setter α}

theorem fromTable_cons_of_known (h : fields.lookup key = some setter) (a : α) (v : Value)
    (rest : List (String × Value)) : fromTable fields strict a ((key, v) :: rest) =
      setter a v >>= fun b => fromTable fields strict b rest := by
  rw [fromTable, h]

/-- A value may be replaced by another that its field takes alike. -/
theorem fromTable_congr (fields : List (String × Setter α))
    (h : fields.lookup key = some setter) (hv : ∀ a, setter a v' = setter a v)
    (a : α) : fromTable fields strict a (before ++ (key, v') :: after) =
      fromTable fields strict a (before ++ (key, v) :: after) := by
  rw [fromTable_append, fromTable_append]
  simp only [fromTable_cons_of_known h, hv]

/-- A table that could be read fails as one of its fields fails. -/
theorem fromTable_fails (fields : List (String × Setter α))
    (h : fields.lookup key = some setter)
    (hread : fromTable fields strict a (before ++ (key, v) :: after) = .ok b)
    (hv : ∀ a b, setter a v = .ok b → setter a v' = .error cause) :
    fromTable fields strict a (before ++ (key, v') :: after) = .error cause := by
  rw [fromTable_append] at hread
  obtain ⟨c, hbefore, hread⟩ := bind_eq_ok.1 hread
  rw [fromTable_cons_of_known h] at hread
  obtain ⟨d, hset, -⟩ := bind_eq_ok.1 hread
  rw [fromTable_append, hbefore]
  change fromTable fields strict c ((key, v') :: after) = _
  rw [fromTable_cons_of_known h, hv c d hset]
  rfl

end known

/-- A list fails as one of its items fails, if those before it are good. -/
theorem mapM_fails {item : Value → Decoded α} {done more : List Value} {as : List α}
    (hread : (done ++ v :: more).mapM item = .ok as)
    (hv : ∀ a, item v = .ok a → item v' = .error cause) :
    (done ++ v' :: more).mapM item = .error cause := by
  induction done generalizing as with
  | nil =>
    rw [List.nil_append, List.mapM_cons] at hread
    obtain ⟨a, ha, -⟩ := bind_eq_ok.1 hread
    rw [List.nil_append, List.mapM_cons, hv a ha]
    rfl
  | cons u done ih =>
    rw [List.cons_append, List.mapM_cons] at hread
    obtain ⟨a, ha, hread⟩ := bind_eq_ok.1 hread
    obtain ⟨as, has, -⟩ := bind_eq_ok.1 hread
    rw [List.cons_append, List.mapM_cons, ha]
    change (done ++ v' :: more).mapM item >>= _ = _
    rw [ih has]
    rfl

/-! ## Keys that are added -/

/-- The tables in which keys are looked for. -/
inductive Place where
  /-- The document as a whole. -/
  | document
  /-- Its section of the scan. -/
  | scan
  /-- Its section of the rule. -/
  | tuples
  /-- A tier in the section of the rule. -/
  | tier
deriving DecidableEq

/-- The keys that are known at a place. -/
def Place.names : Place → List String
  | document => ["large_tuple", "scan"]
  | scan => ["include", "exclude", "verbose"]
  | tuples => ["warning", "error", "tiers", "label_exemption"]
  | tier => ["severity", "limit"]

/-- The second table is the first with an entry put in. -/
inductive Added (key : String) (v : Value) :
    List (String × Value) → List (String × Value) → Prop where
  | mk (before after : List (String × Value)) :
      Added key v (before ++ after) (before ++ (key, v) :: after)

/-- The second document is the first with an entry put in at a place. A section that was not there
is put in with the entry alone. -/
inductive AddedAt (key : String) (v : Value) :
    Place → List (String × Value) → List (String × Value) → Prop where
  | document {entries entries' : List (String × Value)} (h : Added key v entries entries') :
      AddedAt key v .document entries entries'
  | scan (before after : List (String × Value)) {table table' : List (String × Value)}
      (h : Added key v table table') :
      AddedAt key v .scan (before ++ ("scan", .table table) :: after)
        (before ++ ("scan", .table table') :: after)
  | newScan {entries entries' : List (String × Value)} (habsent : "scan" ∉ entries.map (·.1))
      (h : Added "scan" (.table [(key, v)]) entries entries') : AddedAt key v .scan entries entries'
  | tuples (before after : List (String × Value)) {table table' : List (String × Value)}
      (h : Added key v table table') :
      AddedAt key v .tuples (before ++ ("large_tuple", .table table) :: after)
        (before ++ ("large_tuple", .table table') :: after)
  | newTuples {entries entries' : List (String × Value)}
      (habsent : "large_tuple" ∉ entries.map (·.1))
      (h : Added "large_tuple" (.table [(key, v)]) entries entries') :
      AddedAt key v .tuples entries entries'
  | tier (before after inside below : List (String × Value)) (done more : List Value)
      {table table' : List (String × Value)} (h : Added key v table table') :
      AddedAt key v .tier
        (before ++ ("large_tuple", .table (inside ++
          ("tiers", .array (done ++ .table table :: more)) :: below)) :: after)
        (before ++ ("large_tuple", .table (inside ++
          ("tiers", .array (done ++ .table table' :: more)) :: below)) :: after)

/-! ## What sections say -/

/-- What a document says under a name; it says no name twice. -/
def said (name : String) (entries : List (String × Value)) : List Value :=
  (entries.filter (·.1 = name)).map (·.2)

section said

variable {entries : List (String × Value)} {found found' s t : Sections}

/-- Each part of what a document says is what it says under the name of that part. -/
theorem said_sections (h : fromTable sectionFields false s entries = .ok t) :
    (said "large_tuple" entries).foldlM (fun _ v => tuples v) s.tuples = .ok t.tuples ∧
      (said "scan" entries).foldlM (fun _ v => scan v) s.scan = .ok t.scan := by
  induction entries generalizing s with
  | nil =>
    cases h
    exact ⟨rfl, rfl⟩
  | cons entry entries ih =>
    obtain ⟨name, v⟩ := entry
    by_cases htuples : name = "large_tuple"
    · subst htuples
      rw [fromTable_cons_of_known rfl] at h
      obtain ⟨u, hset, h⟩ := bind_eq_ok.1 h
      obtain ⟨read, hread, hu⟩ := bind_eq_ok.1 hset
      cases hu
      obtain ⟨hrule, hscan⟩ := ih h
      refine ⟨?_, hscan⟩
      change tuples v >>= _ = _
      rw [hread]
      exact hrule
    by_cases hscan : name = "scan"
    · subst hscan
      rw [fromTable_cons_of_known rfl] at h
      obtain ⟨u, hset, h⟩ := bind_eq_ok.1 h
      obtain ⟨read, hread, hu⟩ := bind_eq_ok.1 hset
      cases hu
      obtain ⟨hrule, hrest⟩ := ih h
      refine ⟨hrule, ?_⟩
      change scan v >>= _ = _
      rw [hread]
      exact hrest
    · have hunknown : name ∉ sectionFields.map (·.1) := by simp [sectionFields, htuples, hscan]
      have hpassed := fromTable_of_unknown sectionFields hunknown [] entries s v
      rw [List.nil_append, List.nil_append] at hpassed
      have hsaid : ∀ other, name ≠ other →
          said other ((name, v) :: entries) = said other entries := by
        intro other hne
        rw [said, List.filter_cons_of_neg (by simpa using hne), said]
      rw [hsaid _ htuples, hsaid _ hscan]
      exact ih (hpassed ▸ h)

theorem said_eq_nil {name : String} (h : name ∉ entries.map (·.1)) : said name entries = [] := by
  rw [said, List.map_eq_nil_iff, List.filter_eq_nil_iff]
  intro e he
  have hne : e.1 ≠ name := fun heq => h (heq ▸ List.mem_map_of_mem he)
  simpa using hne

/-- The section of the rule decides what is read of the rule. -/
theorem tuples_congr {entries' : List (String × Value)} (h : sections entries = .ok found)
    (h' : sections entries' = .ok found')
    (hsaid : said "large_tuple" entries = said "large_tuple" entries') :
    found.tuples = found'.tuples := by
  have hrule := (said_sections h).1
  rw [hsaid, (said_sections h').1] at hrule
  exact (Except.ok.inj hrule).symm

/-- The section of the scan decides what is read beside the rule. -/
theorem scan_congr {entries' : List (String × Value)} (h : sections entries = .ok found)
    (h' : sections entries' = .ok found') (hsaid : said "scan" entries = said "scan" entries') :
    found.scan = found'.scan := by
  have hscan := (said_sections h).2
  rw [hsaid, (said_sections h').2] at hscan
  exact (Except.ok.inj hscan).symm

end said

/-! ## Keys that are added to a document -/

section added

variable {entries entries' table table' : List (String × Value)} {found : Sections}

theorem scan_of_added (hkey : key ∉ Place.names .scan) (h : Added key v table table') :
    scan (.table table') = scan (.table table) := by
  obtain ⟨before, after⟩ := h
  exact fromTable_of_unknown scanFields hkey before after _ v

theorem tuples_of_added (hkey : key ∉ Place.names .tuples) (h : Added key v table table')
    {s : TupleSettings} (hread : tuples (.table table) = .ok s) :
    tuples (.table table') = .error (.unknownField key (Place.names .tuples)) := by
  obtain ⟨before, after⟩ := h
  exact fromTable_refuses tupleFields hkey hread v

theorem tier_of_added (hkey : key ∉ Place.names .tier) (h : Added key v table table')
    {t : Tier} (hread : tier (.table table) = .ok t) :
    tier (.table table') = .error (.unknownField key (Place.names .tier)) := by
  obtain ⟨before, after⟩ := h
  obtain ⟨both, hboth, -⟩ := bind_eq_ok.1 hread
  have hrefused : record "SeverityThreshold" tierFields true (none, none)
      (.table (before ++ (key, v) :: after)) = .error (.unknownField key (Place.names .tier)) :=
    fromTable_refuses tierFields hkey hboth v
  rw [tier, hrefused]
  rfl

/-- A section of the rule in which a tier has an unknown key fails as that tier does. -/
theorem tuples_of_added_tier (hkey : key ∉ Place.names .tier) (h : Added key v table table')
    {done more : List Value} {s : TupleSettings}
    (hread : tuples (.table (before ++ ("tiers", .array (done ++ .table table :: more)) :: after)) =
      .ok s) :
    tuples (.table (before ++ ("tiers", .array (done ++ .table table' :: more)) :: after)) =
      .error (.unknownField key (Place.names .tier)) := by
  refine fromTable_fails tupleFields rfl hread fun s t hset => ?_
  obtain ⟨tiers, htiers, -⟩ := bind_eq_ok.1 hset
  have hlist : list tier (.array (done ++ .table table' :: more)) =
      .error (.unknownField key (Place.names .tier)) :=
    mapM_fails htiers fun t ht => tier_of_added hkey h ht
  change list tier _ >>= _ = _
  rw [hlist]
  rfl

/-- A section of the rule that fails after a change makes the document fail. -/
theorem sections_fails (hread : sections (before ++ ("large_tuple", v) :: after) = .ok found)
    (hv : ∀ s, tuples v = .ok s → tuples v' = .error cause) :
    sections (before ++ ("large_tuple", v') :: after) = .error cause := by
  refine fromTable_fails sectionFields rfl hread fun s t hset => ?_
  obtain ⟨rule, hrule, -⟩ := bind_eq_ok.1 hset
  rw [hv rule hrule]
  rfl

/-- **An unknown key in the document or in its section of the scan is passed over.** -/
theorem sections_of_addedAt {place : Place} (hplace : place = .document ∨ place = .scan)
    (hread : sections entries = .ok found) (h : AddedAt key v place entries entries')
    (hkey : key ∉ place.names) : sections entries' = .ok found := by
  cases h with
  | document h =>
    obtain ⟨before, after⟩ := h
    exact (fromTable_of_unknown sectionFields hkey before after _ v).trans hread
  | scan before after h =>
    refine (fromTable_congr sectionFields rfl (fun s => ?_) _).trans hread
    rw [scan_of_added hkey h]
  | newScan habsent h =>
    obtain ⟨before, after⟩ := h
    rw [sections, fromTable_append] at hread
    obtain ⟨s, hbefore, hafter⟩ := bind_eq_ok.1 hread
    have hempty : scan (.table [(key, v)]) = .ok {} :=
      scan_of_added hkey (Added.mk [] [])
    have hnone : "scan" ∉ before.map (·.1) := by
      rw [List.map_append, List.mem_append, not_or] at habsent
      exact habsent.1
    -- what the new section says is what there was without it
    have hdefault : s.scan = {} := by
      have hscan := (said_sections hbefore).2
      rw [said_eq_nil hnone] at hscan
      exact (Except.ok.inj hscan).symm
    rw [sections, fromTable_append, hbefore]
    change fromTable sectionFields false s (("scan", .table [(key, v)]) :: after) = _
    rw [fromTable_cons_of_known rfl]
    change (scan _ >>= fun read => pure { s with scan := read }) >>= _ = _
    rw [hempty]
    change fromTable sectionFields false { s with scan := {} } after = _
    rw [← hdefault]
    exact hafter
  | tuples | newTuples | tier => simp at hplace

/-- **An unknown key in the section of the rule or in a tier is refused.** -/
theorem sections_refuses_addedAt {place : Place} (hplace : place = .tuples ∨ place = .tier)
    (hread : sections entries = .ok found) (h : AddedAt key v place entries entries')
    (hkey : key ∉ place.names) :
    sections entries' = .error (.unknownField key place.names) := by
  cases h with
  | document | scan | newScan => simp at hplace
  | tuples before after h => exact sections_fails hread fun s hs => tuples_of_added hkey h hs
  | newTuples habsent h =>
    obtain ⟨before, after⟩ := h
    rw [sections, fromTable_append] at hread
    obtain ⟨s, hbefore, -⟩ := bind_eq_ok.1 hread
    have hrefused : tuples (.table [(key, v)]) =
        .error (.unknownField key (Place.names .tuples)) :=
      tuples_of_added hkey (Added.mk [] []) (s := {}) rfl
    rw [sections, fromTable_append, hbefore]
    change fromTable sectionFields false s (("large_tuple", .table [(key, v)]) :: after) = _
    rw [fromTable_cons_of_known rfl]
    rw [hrefused]
    rfl
  | tier before after inside below done more h =>
    exact sections_fails hread fun s hs => tuples_of_added_tier hkey h hs

end added

end Decode

namespace Settings

open Decode

variable {s t : Settings} {source source' : Text} {entries entries' : List (String × Value)}
  {found found' : Sections}

/-! ## Settings texts -/

theorem text_eq (hparse : Toml.parse? source = some entries) :
    Decode.text source = sections entries := by
  rw [Decode.text, hparse]

/-- The settings after a text that can be decoded, and what stopped it. -/
theorem applyText_of_sections (hparse : Toml.parse? source = some entries)
    (hread : sections entries = .ok found) : s.applyText source =
      (addIncludes { s with tuples := found.tuples, verbose := s.verbose || found.scan.verbose }
        found.scan.includes).andThen (·.addExcludes found.scan.excludes) := by
  rw [applyText, text_eq hparse, hread]

/-- Texts of one decoding are taken over alike. -/
theorem applyText_congr (hparse : Toml.parse? source = some entries)
    (hparse' : Toml.parse? source' = some entries') (hread : sections entries = .ok found)
    (hread' : sections entries' = .ok found) : s.applyText source' = s.applyText source := by
  rw [applyText_of_sections hparse hread, applyText_of_sections hparse' hread']

/-- Patterns leave the rule alone. -/
theorem tuples_applyText (hparse : Toml.parse? source = some entries)
    (hread : sections entries = .ok found) :
    (s.applyText source).settings.tuples = found.tuples := by
  rw [applyText_of_sections hparse hread, Step.andThen]
  cases (addIncludes { s with tuples := found.tuples, verbose := s.verbose || found.scan.verbose }
    found.scan.includes).stopped <;> rfl

/-- The settings beside the rule are the same. -/
structure SameScan (s t : Settings) : Prop where
  includes : s.includes = t.includes
  excludes : s.excludes = t.excludes
  verbose : s.verbose = t.verbose

/-- Sections that say the same of the scan add the same to settings, and stop alike. -/
theorem sameScan_applyText (hparse : Toml.parse? source = some entries)
    (hparse' : Toml.parse? source' = some entries') (hread : sections entries = .ok found)
    (hread' : sections entries' = .ok found') (hscan : found.scan = found'.scan)
    (hst : SameScan s t) : (s.applyText source).stopped = (t.applyText source').stopped ∧
      SameScan (s.applyText source).settings (t.applyText source').settings := by
  obtain ⟨hincludes, hexcludes, hverbose⟩ := hst
  rw [applyText_of_sections hparse hread, applyText_of_sections hparse' hread', hscan,
    Step.andThen, Step.andThen]
  simp only [addIncludes, addExcludes, hincludes, hexcludes, hverbose]
  cases (patterns found'.scan.includes).2 <;> exact ⟨rfl, rfl, rfl, rfl⟩

/-- **Unknown keys.** Added to a text that can be decoded, an unknown key in the document or in its
section of the scan changes nothing. In the section of the rule or in a tier it stops the text,
which then leaves all settings as they were. **Sections.** What a text leaves of the rule is decided
by its section of the rule, whatever the settings were; what it leaves beside the rule, and whether
one of its patterns stops it, is decided by its section of the scan and what was there before. -/
theorem unknown_keys_and_sections {source : Text} {entries : List (String × Value)}
    {found : Sections} (hparse : Toml.parse? source = some entries)
    (hread : sections entries = .ok found) (s : Settings) (source' : Text)
    (entries' : List (String × Value)) (hparse' : Toml.parse? source' = some entries') :
    (∀ key v place, AddedAt key v place entries entries' → key ∉ place.names →
      (place = .document ∨ place = .scan → s.applyText source' = s.applyText source) ∧
      (place = .tuples ∨ place = .tier → s.applyText source' =
        { settings := s, stopped := some (.undecodable (.unknownField key place.names)) })) ∧
    ∀ found' t, sections entries' = .ok found' →
      (said "large_tuple" entries = said "large_tuple" entries' →
        (s.applyText source).settings.tuples = (t.applyText source').settings.tuples) ∧
      (said "scan" entries = said "scan" entries' → SameScan s t →
        (s.applyText source).stopped = (t.applyText source').stopped ∧
          SameScan (s.applyText source).settings (t.applyText source').settings) := by
  refine ⟨fun key v place hadded hkey => ⟨fun hplace => ?_, fun hplace => ?_⟩,
    fun found' t hread' => ⟨fun hsaid => ?_, fun hsaid hst => ?_⟩⟩
  · have hread' := sections_of_addedAt hplace hread hadded hkey
    exact applyText_congr hparse hparse' hread hread'
  · have hrefused := sections_refuses_addedAt hplace hread hadded hkey
    rw [applyText, text_eq hparse', hrefused]
  · rw [tuples_applyText hparse hread, tuples_applyText hparse' hread']
    exact tuples_congr hread hread' hsaid
  · exact sameScan_applyText hparse hparse' hread hread' (scan_congr hread hread' hsaid) hst

/-- A misspelt limit is refused beside a good one, and whatever was set stays. -/
theorem misspelt_limit_refused : ∃ entries entries' found,
    Toml.parse? "[large_tuple]\nwarning = 4".toList = some entries ∧
    Toml.parse? "[large_tuple]\nwarning = 4\nerorr = 9".toList = some entries' ∧
    sections entries = .ok found ∧ AddedAt "erorr" (.integer 9) .tuples entries entries' ∧
    ∀ s : Settings, s.applyText "[large_tuple]\nwarning = 4\nerorr = 9".toList =
      { settings := s, stopped := some (.undecodable (.unknownField "erorr"
        ["warning", "error", "tiers", "label_exemption"])) } := by
  have hparse : Toml.parse? "[large_tuple]\nwarning = 4".toList =
      some [("large_tuple", .table [("warning", .integer 4)])] := by cbv
  have hparse' : Toml.parse? "[large_tuple]\nwarning = 4\nerorr = 9".toList =
      some [("large_tuple", .table [("warning", .integer 4), ("erorr", .integer 9)])] := by cbv
  have hread : sections [("large_tuple", .table [("warning", .integer 4)])] =
      .ok { tuples := { warning := 4 } } := rfl
  have hadded : AddedAt "erorr" (.integer 9) .tuples
      [("large_tuple", .table [("warning", .integer 4)])]
      [("large_tuple", .table [("warning", .integer 4), ("erorr", .integer 9)])] :=
    .tuples [] [] (.mk [("warning", .integer 4)] [])
  refine ⟨_, _, _, hparse, hparse', hread, hadded, fun s => ?_⟩
  exact ((unknown_keys_and_sections hparse hread s _ _ hparse').1 _ _ _ hadded (by decide)).2
    (.inl rfl)

end Settings

end SwiftTuples
