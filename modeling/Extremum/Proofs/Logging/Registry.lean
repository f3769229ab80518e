import Extremum.Logging.Basic
import Extremum.Proofs.Perform
import Mathlib.Data.List.Nodup

/-!
# The registry of loggers

The level of the known loggers is kept three times: in each logger, in its handler, and for the loggers to come. All
calls keep the three equal, and they keep one handler in each known logger. A level that is none is refused by the
first logger that is to take it, and as the library knows some loggers from the beginning, nothing has been changed
by then. Main statement: `orderly_after`.
-/

namespace Extremum

open Logging

/-! ## Full names -/

namespace Logging

theorem startsWith_rootName_append (s : String) : (rootName ++ s).startsWith rootName = true := by
  rw [String.startsWith_string_iff, String.toList_append]
  exact List.prefix_append _ _

theorem fullName_of_startsWith {s : String} (h : s.startsWith rootName = true) : fullName (some s) = s :=
  if_pos h

theorem fullName_of_not_startsWith {s : String} (h : ¬s.startsWith rootName = true) :
    fullName (some s) = rootName ++ "." ++ s :=
  if_neg h

theorem startsWith_fullName (name : Option String) : (fullName name).startsWith rootName = true := by
  cases name with
  | none => exact startsWith_rootName_append ""
  | some s =>
    by_cases h : s.startsWith rootName = true
    · rwa [fullName_of_startsWith h]
    · rw [fullName_of_not_startsWith h, String.append_assoc]
      exact startsWith_rootName_append _

/-- A full name stands for itself. -/
@[simp] theorem fullName_fullName (name : Option String) : fullName (some (fullName name)) = fullName name :=
  fullName_of_startsWith (startsWith_fullName name)

/-- A name that is none of the library's stands for the one that it has below the common name. -/
theorem fullName_below {s : String} (h : ¬s.startsWith rootName = true) :
    fullName (some (rootName ++ "." ++ s)) = fullName (some s) := by
  rw [← fullName_of_not_startsWith h, fullName_fullName]

end Logging

/-! ## Calls -/

/-- A call that concerns loggers. -/
inductive LogCall
  | ask (name : Option String)
  | setLevel (level : LevelPart)
  | configure (level : LevelPart) (template : Option String) (stream : Logging.Stream)

def LogCall.run : LogCall → Log.Change Unit
  | ask name => modify (·.ask name)
  | setLevel level => Log.setLevel level
  | configure level template stream => Log.configure level template stream

namespace Log

variable {log log' : Log} {name : String} {n : Int} {level : LevelPart} {change : Int → Logger → Logger}

def next (log : Log) (c : LogCall) : Log :=
  (perform c.run log).2

def after (log : Log) (calls : List LogCall) : Log :=
  calls.foldl next log

/-! ## Changes of one logger after the other -/

/-- Changing a logger changes no other one. -/
theorem logger_changeLogger (log : Log) (name other : String) (f : Logger → Logger) :
    (log.changeLogger name f).logger other = if other = name then f (log.logger name) else log.logger other := by
  unfold changeLogger logger
  split
  · rename_i h
    rw [h, Table.get?_insert_self]
    rfl
  · rename_i h
    dsimp only
    rw [Table.get?_insert_of_ne _ _ h]

def changeEach (log : Log) (names : List String) (f : Logger → Logger) : Log :=
  names.foldl (fun log name ↦ log.changeLogger name f) log

theorem changeEach_cons (log : Log) (names : List String) (f : Logger → Logger) :
    log.changeEach (name :: names) f = (log.changeLogger name f).changeEach names f := rfl

@[simp] theorem known_changeEach (log : Log) (names : List String) (f : Logger → Logger) :
    (log.changeEach names f).known = log.known := by
  induction names generalizing log with
  | nil => rfl
  | cons name rest ih => exact ih (log.changeLogger name f)

/-- Each of the names is changed once, since there is none twice. -/
theorem logger_changeEach {names : List String} (hnames : names.Nodup) (log : Log) (f : Logger → Logger)
    (other : String) : (log.changeEach names f).logger other =
      if other ∈ names then f (log.logger other) else log.logger other := by
  induction names generalizing log with
  | nil => rfl
  | cons name rest ih =>
    rw [List.nodup_cons] at hnames
    rw [changeEach_cons, ih hnames.2, logger_changeLogger]
    by_cases h : other = name
    · subst h
      rw [if_neg hnames.1, if_pos rfl, if_pos List.mem_cons_self]
    · rw [if_neg h]
      refine if_congr ?_ rfl rfl
      rw [List.mem_cons, or_iff_right h]

theorem perform_adjust_of_ok (hlevel : readLevel level = .ok n) (name : String) (log : Log) :
    perform (adjust level change name) log = (.ok (), log.changeLogger name (change n)) := by
  unfold adjust
  rw [hlevel]
  rfl

theorem perform_adjust_of_error {e : Error Float} (hlevel : readLevel level = .error e) (name : String) (log : Log) :
    perform (adjust level change name) log = (.error e, log) := by
  unfold adjust
  rw [hlevel]
  rfl

/-- A level that can be read is given to one logger after the other. -/
theorem perform_forM_adjust (hlevel : readLevel level = .ok n) (names : List String) (log : Log) :
    perform (names.forM (adjust level change)) log = (.ok (), log.changeEach names (change n)) := by
  induction names generalizing log with
  | nil => rfl
  | cons name rest ih =>
    change perform (adjust level change name >>= fun _ ↦ rest.forM (adjust level change)) log = _
    rw [perform_bind_of_ok (perform_adjust_of_ok hlevel name log), ih, changeEach_cons]

/-- A log whose known loggers have been changed to a level. -/
def adjusted (log : Log) (level : Int) (f : Logger → Logger) : Log :=
  { log.changeEach log.known f with level }

@[simp] theorem known_adjusted (log : Log) (level : Int) (f : Logger → Logger) :
    (log.adjusted level f).known = log.known :=
  known_changeEach log log.known f

theorem logger_adjusted (hdistinct : log.known.Nodup) (level : Int) (f : Logger → Logger) (name : String) :
    (log.adjusted level f).logger name =
      if name ∈ log.known then f (log.logger name) else log.logger name :=
  logger_changeEach hdistinct log f name

/-- All known loggers take a level that is one. -/
theorem perform_adjustAll_of_ok (hlevel : readLevel level = .ok n) (log : Log) :
    perform (adjustAll level change) log = (.ok (), log.adjusted n (change n)) := by
  unfold adjustAll
  rw [perform_bind_of_ok (perform_get log), perform_bind_of_ok (perform_forM_adjust hlevel log.known log), hlevel]
  rfl

/-- The first known logger refuses a level that is none, and nothing has been changed by then. -/
theorem perform_adjustAll_of_error {e : Error Float} (hlevel : readLevel level = .error e) (hknown : log.known ≠ []) :
    perform (adjustAll level change) log = (.error e, log) := by
  obtain ⟨name, rest, hnames⟩ := List.exists_cons_of_ne_nil hknown
  have hfirst : perform ((name :: rest).forM (adjust level change)) log = (.error e, log) :=
    perform_bind_of_error (perform_adjust_of_error hlevel name log) _
  unfold adjustAll
  rw [perform_bind_of_ok (perform_get log), hnames, perform_bind_of_error hfirst]

/-- A template that mentions a field is taken over by all known loggers. -/
theorem perform_configure_of_mentions {template : Option String} (level : LevelPart) (stream : Logging.Stream)
    (h : mentionsField (chosenTemplate template).toList = true) (log : Log) :
    perform (configure level template stream) log =
      perform (adjustAll level fun level l ↦ configured level (chosenTemplate template) stream l.propagates) log := by
  unfold configure
  dsimp only
  rw [if_pos h]

/-- A template without a field is refused before anything is changed. -/
theorem perform_configure_of_not_mentions {template : Option String} (level : LevelPart) (stream : Logging.Stream)
    (h : ¬mentionsField (chosenTemplate template).toList = true) (log : Log) :
    perform (configure level template stream) log = (.error (.unfit .value), log) := by
  unfold configure
  dsimp only
  rw [if_neg h]
  rfl

/-! ## What a call can do -/

/-- A call sets the level of all known loggers to a number, by a change that each of them goes through. -/
inductive Sets : LogCall → Int → (Logger → Logger) → Prop
  | setLevel {level : LevelPart} {n : Int} (hlevel : readLevel level = .ok n) : Sets (.setLevel level) n (leveled n)
  | configure {level : LevelPart} {n : Int} {template : Option String} {stream : Logging.Stream}
    (hlevel : readLevel level = .ok n) (htemplate : mentionsField (chosenTemplate template).toList = true) :
    Sets (.configure level template stream) n fun l ↦ configured n (chosenTemplate template) stream l.propagates

/-- A call asks for a logger, sets the level, or is refused and does nothing. -/
theorem run_cases (hknown : log.known ≠ []) (c : LogCall) :
    (∃ name, c = .ask name ∧ perform c.run log = (.ok (), log.ask name)) ∨
    (∃ n f, Sets c n f ∧ perform c.run log = (.ok (), log.adjusted n f)) ∨
    (∃ e, perform c.run log = (.error e, log)) := by
  cases c with
  | ask name => exact .inl ⟨name, rfl, rfl⟩
  | setLevel level =>
    cases hlevel : readLevel level with
    | ok n => exact .inr (.inl ⟨n, _, .setLevel hlevel, perform_adjustAll_of_ok hlevel log⟩)
    | error e => exact .inr (.inr ⟨e, perform_adjustAll_of_error hlevel hknown⟩)
  | configure level template stream =>
    by_cases htemplate : mentionsField (chosenTemplate template).toList = true
    · have hrun := perform_configure_of_mentions level stream htemplate log
      cases hlevel : readLevel level with
      | ok n =>
        exact .inr (.inl ⟨n, _, .configure hlevel htemplate, hrun.trans (perform_adjustAll_of_ok hlevel log)⟩)
      | error e => exact .inr (.inr ⟨e, hrun.trans (perform_adjustAll_of_error hlevel hknown)⟩)
    · exact .inr (.inr ⟨_, perform_configure_of_not_mentions level stream htemplate log⟩)

/-! ## Asking -/

section Asking

variable {name : Option String}

theorem ask_of_mem (h : fullName name ∈ log.known) : log.ask name = log := by
  unfold ask
  exact if_pos (List.contains_iff_mem.2 h)

/-- A logger that becomes known is configured if it has no handlers. -/
theorem ask_of_not_mem (h : fullName name ∉ log.known) :
    log.ask name = { log.changeLogger (fullName name) fun old ↦
      if old.handlers.isEmpty then configured log.level defaultTemplate .standardError false else old with
        known := log.known ++ [fullName name] } := by
  have hunknown : ¬log.known.contains (fullName name) = true := fun hmem ↦ h (List.contains_iff_mem.1 hmem)
  unfold ask
  exact if_neg hunknown

theorem ask_congr {other : Option String} (h : fullName name = fullName other) : log.ask name = log.ask other := by
  unfold ask
  rw [h]

@[simp] theorem level_ask (log : Log) (name : Option String) : (log.ask name).level = log.level := by
  by_cases h : fullName name ∈ log.known
  · rw [ask_of_mem h]
  · rw [ask_of_not_mem h]
    rfl

theorem known_ask_of_not_mem (h : fullName name ∉ log.known) : (log.ask name).known = log.known ++ [fullName name] := by
  rw [ask_of_not_mem h]

theorem known_ask_congr (h : log.known = log'.known) (name : Option String) :
    (log.ask name).known = (log'.ask name).known := by
  by_cases hmem : fullName name ∈ log.known
  · rw [ask_of_mem hmem, ask_of_mem (h ▸ hmem), h]
  · rw [known_ask_of_not_mem hmem, known_ask_of_not_mem (h ▸ hmem), h]

theorem mem_known_ask (log : Log) (name : Option String) : fullName name ∈ (log.ask name).known := by
  by_cases h : fullName name ∈ log.known
  · rwa [ask_of_mem h]
  · rw [known_ask_of_not_mem h]
    exact List.mem_append_right _ (List.mem_singleton_self _)

/-- A logger that nobody has touched is configured when it is asked for first. -/
theorem logger_ask_of_not_mem (h : fullName name ∉ log.known) (hfresh : log.logger (fullName name) = {})
    (other : String) : (log.ask name).logger other =
      if other = fullName name then configured log.level defaultTemplate .standardError false
      else log.logger other := by
  have hlogger := logger_changeLogger log (fullName name) other fun old ↦
    if old.handlers.isEmpty then configured log.level defaultTemplate .standardError false else old
  rw [hfresh] at hlogger
  rw [ask_of_not_mem h]
  exact hlogger

end Asking

/-! ## Invariant -/

/-- The known loggers are configured, at the level of the loggers to come; the others are as they are made. -/
structure Consistent (log : Log) : Prop where
  distinct : log.known.Nodup
  configured : ∀ name ∈ log.known, ∃ template stream,
    log.logger name = Log.configured log.level template stream false
  fresh : ∀ name ∉ log.known, log.logger name = {}

namespace Consistent

/-- A request makes one logger known and configures it, at the level of the loggers to come. -/
theorem ask (h : log.Consistent) (name : Option String) : (log.ask name).Consistent := by
  by_cases hmem : fullName name ∈ log.known
  · rwa [ask_of_mem hmem]
  have hlogger := logger_ask_of_not_mem hmem (h.fresh _ hmem)
  constructor
  case distinct =>
    rw [known_ask_of_not_mem hmem]
    exact List.nodup_append'.2 ⟨h.distinct, List.nodup_singleton _, List.disjoint_singleton.2 hmem⟩
  case configured =>
    intro other hother
    rw [known_ask_of_not_mem hmem] at hother
    rw [hlogger, level_ask]
    rcases List.mem_append.1 hother with hold | hnew
    · have hne : other ≠ fullName name := by
        rintro rfl
        exact hmem hold
      rw [if_neg hne]
      exact h.configured other hold
    · rw [if_pos (List.mem_singleton.1 hnew)]
      exact ⟨_, _, rfl⟩
  case fresh =>
    intro other hother
    rw [known_ask_of_not_mem hmem, List.mem_append, List.mem_singleton, not_or] at hother
    rw [hlogger, if_neg hother.2]
    exact h.fresh other hother.1

/-- What sets the level of known loggers sets that of the loggers to come. -/
theorem adjusted (h : log.Consistent) {c : LogCall} {f : Logger → Logger} (hsets : Sets c n f) :
    (log.adjusted n f).Consistent := by
  constructor
  case distinct =>
    rw [known_adjusted]
    exact h.distinct
  case configured =>
    intro name hname
    rw [known_adjusted] at hname
    obtain ⟨template, stream, hconfigured⟩ := h.configured name hname
    rw [logger_adjusted h.distinct, if_pos hname, hconfigured]
    cases hsets with
    | setLevel hlevel => exact ⟨template, stream, rfl⟩
    | configure hlevel htemplate => exact ⟨_, _, rfl⟩
  case fresh =>
    intro name hname
    rw [known_adjusted] at hname
    rw [logger_adjusted h.distinct, if_neg hname]
    exact h.fresh name hname

end Consistent

/-- A log that is consistent, and in which some logger is known that can refuse a level. -/
structure Sound (log : Log) : Prop extends Consistent log where
  some_known : log.known ≠ []

namespace Sound

theorem ask (h : log.Consistent) (name : Option String) : (log.ask name).Sound :=
  ⟨h.ask name, List.ne_nil_of_mem (mem_known_ask log name)⟩

/-- One call keeps the registry sound, whether it fails or not. -/
theorem next (h : log.Sound) (c : LogCall) : (log.next c).Sound := by
  unfold Log.next
  obtain ⟨name, -, hrun⟩ | ⟨n, f, hsets, hrun⟩ | ⟨e, hrun⟩ := run_cases h.some_known c
  · rw [hrun]
    exact .ask h.toConsistent name
  · rw [hrun]
    refine ⟨h.adjusted hsets, ?_⟩
    rw [known_adjusted]
    exact h.some_known
  · rw [hrun]
    exact h

theorem after (h : log.Sound) (calls : List LogCall) : (log.after calls).Sound := by
  induction calls generalizing log with
  | nil => exact h
  | cons c rest ih => exact ih (h.next c)

end Sound

/-- At the beginning the loggers of the library's own modules have been asked for, and nothing else has been done. -/
theorem start_of_ask {p : Log → Prop} {level : Int} (hempty : p { level })
    (hask : ∀ log name, p log → p (log.ask name)) : p (start level) := by
  have hnames : ∀ (names : List String) (log : Log), p log →
      p (names.foldl (fun log name ↦ log.ask (some name)) log) := by
    intro names
    induction names with
    | nil => exact fun _ h ↦ h
    | cons name rest ih => exact fun log h ↦ ih _ (hask log (some name) h)
  exact hnames ownNames { level } hempty

/-- Which loggers are known after requests depends on which ones were known before. -/
theorem known_foldl_ask_congr (h : log.known = log'.known) (names : List String) :
    (names.foldl (fun log name ↦ log.ask (some name)) log).known =
      (names.foldl (fun log name ↦ log.ask (some name)) log').known := by
  induction names generalizing log log' with
  | nil => exact h
  | cons name rest ih => exact ih (known_ask_congr h (some name))

/-- The names are computed at one level, since the others make no difference to them. -/
theorem known_start (level : Int) : (start level).known = ownNames := by
  have hwarning : (start warning).known = ownNames := by decide +kernel
  have hlevels : ({ level } : Log).known = ({ level := warning } : Log).known := rfl
  rw [← hwarning]
  exact known_foldl_ask_congr hlevels ownNames

theorem consistent_empty (level : Int) : ({ level } : Log).Consistent :=
  ⟨List.nodup_nil, fun _ hname ↦ absurd hname List.not_mem_nil, fun _ _ ↦ rfl⟩

theorem sound_start (level : Int) : (start level).Sound := by
  refine ⟨start_of_ask (consistent_empty level) fun _ name h ↦ h.ask name, ?_⟩
  rw [known_start]
  exact List.cons_ne_nil _ _

/-! ## Main statement -/

/-- What is always true of loggers. -/
structure Orderly (log : Log) : Prop where
  /-- A known logger has one handler, which has the level of the logger, and that of the loggers to come; it keeps its
  records to itself. -/
  handler : ∀ name ∈ log.known, ∃ h, (log.logger name).handlers = [h] ∧ h.level = (log.logger name).level ∧
    (log.logger name).level = log.level ∧ (log.logger name).propagates = false
  /-- Whoever asks gets a logger of that level, which is known from then on, once only. -/
  asked : ∀ name, ((log.ask name).logger (fullName name)).level = log.level ∧
    (log.ask name).known.count (fullName name) = 1
  distinct : log.known.Nodup
  /-- Asking again, for the same full name, gives the same logger. -/
  again : ∀ name other, fullName other = fullName name → (log.ask name).ask other = log.ask name
  /-- A short name stands for the one below the common name. -/
  short : ∀ s : String, s.startsWith rootName = false →
    fullName (some (rootName ++ "." ++ s)) = fullName (some s) ∧
      log.ask (some (rootName ++ "." ++ s)) = log.ask (some s)
  /-- The name of a logger stands for that logger. -/
  own : ∀ name, fullName (some (fullName name)) = fullName name ∧
    (log.ask name).ask (some (fullName name)) = log.ask name
  /-- Calls that fail change nothing. -/
  refused : ∀ (c : LogCall) e t, perform c.run log = (.error e, t) → t = log

/-- A sound registry is in order. -/
theorem Sound.orderly (h : log.Sound) : log.Orderly where
  handler name hname := by
    obtain ⟨template, stream, hconfigured⟩ := h.configured name hname
    rw [hconfigured]
    exact ⟨_, rfl, rfl, rfl, rfl⟩
  asked name := by
    have hasked := h.toConsistent.ask name
    have hmem := mem_known_ask log name
    obtain ⟨template, stream, hconfigured⟩ := hasked.configured _ hmem
    rw [hconfigured, List.count_eq_one_of_mem hasked.distinct hmem, ← level_ask log name]
    exact ⟨rfl, rfl⟩
  distinct := h.distinct
  again name other hsame := ask_of_mem (hsame ▸ mem_known_ask log name)
  short s hs := by
    have hshort : ¬s.startsWith rootName = true := by
      rw [hs]
      exact Bool.false_ne_true
    exact ⟨fullName_below hshort, ask_congr (fullName_below hshort)⟩
  own name := by
    refine ⟨fullName_fullName name, ask_of_mem ?_⟩
    rw [fullName_fullName]
    exact mem_known_ask log name
  refused c e t hrefused := by
    obtain ⟨name, -, hrun⟩ | ⟨n, f, hsets, hrun⟩ | ⟨e', hrun⟩ := run_cases h.some_known c
    · cases hrun.symm.trans hrefused
    · cases hrun.symm.trans hrefused
    · cases hrun.symm.trans hrefused
      rfl

/-- Whatever is called from the beginning on, at whatever level, and whether it fails or not, the loggers are in
order. -/
theorem orderly_after (level : Int) (calls : List LogCall) : ((start level).after calls).Orderly :=
  ((sound_start level).after calls).orderly

end Log

end Extremum
