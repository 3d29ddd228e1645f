import Mathlib.Data.List.Induction
import Mathlib.Order.Bounds.Defs
import ReleaseLag.Paging.Client
import ReleaseLag.Proofs.Lagging.Statement
import ReleaseLag.Settings.File

/-!
# `ReleaseLag.Proofs.Settings.Serviceable`: settings that requests are served with

Settings come from a document, from a file, or from changes made by hand, and
each way ends with one check. What passes it is listed by `InBounds`
(`settingsCheck_eq_ok_iff`), and this is all that the other parts of the program
rely on: a client makes the same check again, and a request of the default page
size is within the client's bounds because the default is.

Changes are made one by one, and settings in between may break the conditions.
`foldl_apply` says that the last call of each setter decides: `final` looks
for it among the calls of this setter alone, so calls of other setters may
stand anywhere between them.
-/

set_option autoImplicit false

namespace ReleaseLag.Proofs.Settings

open ReleaseLag.Settings (Change Span)
open ReleaseLag.Proofs.Lagging

/-! ### The conditions -/

/-- The conditions on settings. -/
structure InBounds (s : Settings) : Prop where
  one_le_maxConnections : 1 ≤ s.maxConnections
  one_le_defaultPageSize : 1 ≤ s.defaultPageSize
  defaultPageSize_le : s.defaultPageSize ≤ s.maxPageSize
  one_le_timeout : ∀ secs, s.queryTimeoutSecs = some secs → 1 ≤ secs

/-- The conditions, as the check asks for them. -/
theorem inBounds_iff {s : Settings} :
    InBounds s ↔ s.maxConnections ≠ 0 ∧ s.defaultPageSize ≠ 0
      ∧ ¬s.maxPageSize < s.defaultPageSize ∧ s.queryTimeoutSecs ≠ some 0 := by
  constructor
  · rintro ⟨hconnections, hdefault, hmax, htimeout⟩
    exact ⟨by omega, by omega, by omega, fun hzero => absurd (htimeout 0 hzero) (by omega)⟩
  · rintro ⟨hconnections, hdefault, hmax, htimeout⟩
    refine ⟨by omega, by omega, by omega, fun secs hsecs => ?_⟩
    have hne : secs ≠ 0 := fun hzero => htimeout (hzero ▸ hsecs)
    omega

/-- Settings pass the check if they keep the conditions. -/
theorem settingsCheck_eq_ok_iff {s : Settings} {u : Unit} : s.check = .ok u ↔ InBounds s := by
  rw [inBounds_iff, Settings.check]
  by_cases hconnections : s.maxConnections = 0
  · simp [hconnections]
  · by_cases hdefault : s.defaultPageSize = 0
    · simp [hconnections, hdefault]
    · by_cases hmax : s.maxPageSize < s.defaultPageSize
      · simp [hconnections, hdefault, hmax]
      · by_cases htimeout : s.queryTimeoutSecs = some 0
        · simp [hconnections, hdefault, hmax, htimeout]
        · simp [hconnections, hdefault, hmax, htimeout]

/-! ### Settings that were loaded -/

/-- The settings of a document pass the check. -/
theorem check_of_ofToml {document : Text} {s : Settings} (h : Settings.ofToml document = .ok s) :
    s.check = .ok () := by
  rw [Settings.ofToml] at h
  split at h
  · cases h
  · obtain ⟨read, -, h⟩ := bind_eq_ok_iff.mp h
    obtain ⟨_, hcheck, h⟩ := bind_eq_ok_iff.mp h
    cases h
    exact hcheck

/-- The settings of a file pass the check. -/
theorem check_of_load {file : Settings.FileContent} {s : Settings}
    (h : Settings.load file = .ok s) : s.check = .ok () := by
  obtain ⟨document, -, h⟩ := bind_eq_ok_iff.mp h
  exact check_of_ofToml h

/-- The user's own settings pass the check, and the default ones do. -/
theorem check_of_loadUser {file : Settings.FileContent} {s : Settings}
    (h : Settings.loadUser file = .ok s) : s.check = .ok () := by
  cases file with
  | missing =>
    cases h
    rfl
  | unreadable reason => exact check_of_load h
  | bytes content => exact check_of_load h

/-! ### Clients -/

/-- There is a client for settings that pass the check, and it keeps to their
limits. -/
theorem ofSettings_of_check {s : Settings} (h : s.check = .ok ()) :
    Client.ofSettings s = .ok ⟨s.maxPageSize, s.queryTimeoutSecs.map (· * 1000)⟩ := by
  rw [Client.ofSettings, h, template_eq]
  rfl

/-- What settings are good for:

1. `inBounds`: there is a connection, the default page size is between one and
   the largest, and a page may take at least a second;
2. `accepted`: there is a client for them;
3. `served`: a request of the default page size has a statement, if nothing
   else is wrong with it. -/
structure Serviceable (s : Settings) : Prop where
  inBounds : InBounds s
  accepted : ∃ client, Client.ofSettings s = .ok client
  served : ∀ client r, Client.ofSettings s = .ok client → r.pageSize = s.defaultPageSize →
    r.checkBrowsers = .ok () → r.window.check = .ok () → (∃ cursor, r.cursor = .ok cursor) →
    ∃ statement, client.statement r = .ok statement

/-- Settings that pass the check are good for all of it. -/
theorem serviceable_of_check {s : Settings} (h : s.check = .ok ()) : Serviceable s := by
  have hclient := ofSettings_of_check h
  have hbounds := settingsCheck_eq_ok_iff.mp h
  refine ⟨hbounds, ⟨_, hclient⟩, ?_⟩
  rintro client r hmade hsize hbrowsers hwindow ⟨cursor, hcursor⟩
  rw [hclient] at hmade
  cases hmade
  have hone : 1 ≤ r.pageSize := hsize ▸ hbounds.one_le_defaultPageSize
  have hmax : r.pageSize ≤ s.maxPageSize := hsize ▸ hbounds.defaultPageSize_le
  obtain ⟨htarget, hsome, hnamed, hnodup, hnot⟩ := checkBrowsers_eq_ok_iff.mp hbrowsers
  have hacceptable : Acceptable r s.maxPageSize :=
    ⟨htarget, hsome, hnamed, hnodup, hnot, hone, hmax, windowCheck_eq_ok_iff.mp hwindow⟩
  exact ⟨built r cursor,
    statement_eq_ok_iff.mpr ⟨hacceptable, cursor, cursor_eq_ok_iff.mp hcursor, rfl⟩⟩

/-! ### Changes -/

/-- The argument of a call that sets the database URL. -/
def database? : Change → Option Text
  | .database url => some url
  | _ => none

/-- The argument of a call that sets the number of connections. -/
def maxConnections? : Change → Option Nat
  | .maxConnections n => some n
  | _ => none

/-- The argument of a call that sets the default page size. -/
def defaultPageSize? : Change → Option Nat
  | .defaultPageSize n => some n
  | _ => none

/-- The argument of a call that sets the largest page size. -/
def maxPageSize? : Change → Option Nat
  | .maxPageSize n => some n
  | _ => none

/-- The argument of a call that sets how long a page may take. -/
def queryTimeout? : Change → Option (Option Span)
  | .queryTimeout limit => some limit
  | _ => none

/-- The argument of the last call of a setter. -/
def lastCall {α : Type} (argument? : Change → Option α) (changes : List Change) : Option α :=
  (changes.filterMap argument?).getLast?

/-- The settings that the last call of each setter says, with the default ones
for setters that are not called. -/
def final (changes : List Change) : Settings where
  databaseUrl := (lastCall database? changes).elim Settings.default.databaseUrl some
  maxConnections := (lastCall maxConnections? changes).getD Settings.default.maxConnections
  defaultPageSize := (lastCall defaultPageSize? changes).getD Settings.default.defaultPageSize
  maxPageSize := (lastCall maxPageSize? changes).getD Settings.default.maxPageSize
  queryTimeoutSecs := (lastCall queryTimeout? changes).elim Settings.default.queryTimeoutSecs
    fun limit => limit.map Span.wholeSecs

/-- One more call is the last, if it is of the same setter. -/
theorem lastCall_concat {α : Type} (argument? : Change → Option α) (changes : List Change)
    (c : Change) :
    lastCall argument? (changes ++ [c]) = (argument? c).or (lastCall argument? changes) := by
  rw [lastCall, List.filterMap_append, List.getLast?_append]
  cases h : argument? c <;> simp [h, lastCall]

/-- One more change sets what its setter sets. -/
theorem final_concat (changes : List Change) (c : Change) :
    final (changes ++ [c]) = (final changes).apply c := by
  simp only [final, lastCall_concat]
  -- Each change is a call of one setter, and the other fields look past it.
  cases c <;> rfl

/-- Changes come to what the last call of each setter says. -/
theorem foldl_apply (changes : List Change) :
    changes.foldl Settings.apply Settings.default = final changes := by
  induction changes using List.reverseRecOn with
  | nil => rfl
  | append_singleton changes c ih =>
    rw [List.foldl_append, ih, final_concat]
    rfl

/-- Settings that are built are those of the last calls, and pass the check. -/
theorem build_eq_ok_iff {changes : List Change} {s : Settings} :
    Settings.build changes = .ok s ↔ s = final changes ∧ InBounds s := by
  rw [Settings.build, foldl_apply, bind_eq_ok_iff]
  constructor
  · rintro ⟨u, hcheck, h⟩
    cases h
    exact ⟨rfl, settingsCheck_eq_ok_iff.mp hcheck⟩
  · rintro ⟨rfl, hbounds⟩
    exact ⟨(), settingsCheck_eq_ok_iff.mpr hbounds, rfl⟩

/-- Building fails if what the last calls say breaks a condition. -/
theorem build_fails_iff {changes : List Change} :
    (∃ e, Settings.build changes = .error e) ↔ ¬InBounds (final changes) := by
  cases h : Settings.build changes with
  | error e =>
    refine iff_of_true ⟨e, rfl⟩ fun hbounds => ?_
    rw [build_eq_ok_iff.mpr ⟨rfl, hbounds⟩] at h
    cases h
  | ok s =>
    obtain ⟨rfl, hbounds⟩ := build_eq_ok_iff.mp h
    exact iff_of_false (fun ⟨e, he⟩ => by cases he) fun hnot => hnot hbounds

/-- Two sequences of changes hold the same calls of each setter in the same
order. Calls of different setters may stand in any order. -/
structure SameCalls (changes other : List Change) : Prop where
  database : changes.filterMap database? = other.filterMap database?
  maxConnections : changes.filterMap maxConnections? = other.filterMap maxConnections?
  defaultPageSize : changes.filterMap defaultPageSize? = other.filterMap defaultPageSize?
  maxPageSize : changes.filterMap maxPageSize? = other.filterMap maxPageSize?
  queryTimeout : changes.filterMap queryTimeout? = other.filterMap queryTimeout?

/-- Sequences with the same calls of each setter come to the same. -/
theorem final_of_sameCalls {changes other : List Change} (h : SameCalls changes other) :
    final changes = final other := by
  simp only [final, lastCall, h.database, h.maxConnections, h.defaultPageSize, h.maxPageSize,
    h.queryTimeout]

/-- The whole seconds of a span are the least that are no shorter. -/
theorem isLeast_wholeSecs (span : Span) :
    IsLeast {secs | span.totalNanos ≤ secs * 1000000000} span.wholeSecs :=
  ⟨(span.wholeSecs_le_iff _).mp (Nat.le_refl _),
    fun secs hsecs => (span.wholeSecs_le_iff secs).mpr hsecs⟩

/-! ### Settings from anywhere -/

/-- The ways to settings. -/
inductive Obtained : Settings → Prop
  | document {document : Text} {s : Settings} : Settings.ofToml document = .ok s → Obtained s
  | file {file : Settings.FileContent} {s : Settings} : Settings.load file = .ok s → Obtained s
  | userFile {file : Settings.FileContent} {s : Settings} :
      Settings.loadUser file = .ok s → Obtained s
  | built {changes : List Change} {s : Settings} : Settings.build changes = .ok s → Obtained s

theorem check_of_obtained {s : Settings} (h : Obtained s) : s.check = .ok () := by
  cases h with
  | document h => exact check_of_ofToml h
  | file h => exact check_of_load h
  | userFile h => exact check_of_loadUser h
  | built h => exact settingsCheck_eq_ok_iff.mpr (build_eq_ok_iff.mp h).2

/-- What changes come to:

1. `ok_iff`: settings that are built are those of the last call of each setter;
2. `fails_iff`: building fails exactly if these break one of the conditions,
   whatever the changes before came to;
3. `interleaved`: it makes no difference how the calls of different setters
   stand among each other;
4. `timeout`: the limit is the least number of seconds that is no shorter than
   the span that was asked for. -/
structure Decided (changes : List Change) : Prop where
  ok_iff : ∀ s, Settings.build changes = .ok s ↔ s = final changes ∧ InBounds (final changes)
  fails_iff : (∃ e, Settings.build changes = .error e) ↔ ¬InBounds (final changes)
  interleaved : ∀ other, SameCalls changes other → Settings.build other = Settings.build changes
  timeout : ∀ span, lastCall queryTimeout? changes = some (some span) →
    ∃ secs, (final changes).queryTimeoutSecs = some secs
      ∧ IsLeast {n | span.totalNanos ≤ n * 1000000000} secs

/-- Settings are good for any request of their default page size, however they
were obtained, and changes come to what the last call of each setter says. -/
theorem settings_serviceable :
    (∀ s, Obtained s → Serviceable s) ∧ ∀ changes, Decided changes := by
  refine ⟨fun s hobtained => serviceable_of_check (check_of_obtained hobtained), fun changes => ?_⟩
  constructor
  case ok_iff =>
    intro s
    rw [build_eq_ok_iff]
    exact and_congr_right fun heq => heq ▸ Iff.rfl
  case fails_iff => exact build_fails_iff
  case interleaved =>
    intro other hsame
    rw [Settings.build, Settings.build, foldl_apply, foldl_apply, final_of_sameCalls hsame]
  case timeout =>
    intro span hlast
    refine ⟨span.wholeSecs, ?_, isLeast_wholeSecs span⟩
    rw [final, hlast]
    rfl

/-- The default page size is too large for a while, and half a second is kept
as a whole one. -/
example : Settings.build [.defaultPageSize 2000, .queryTimeout (some ⟨0, 500000000⟩),
      .maxPageSize 3000]
    = .ok { Settings.default with
        defaultPageSize := 2000, maxPageSize := 3000, queryTimeoutSecs := some 1 } := rfl

end ReleaseLag.Proofs.Settings
