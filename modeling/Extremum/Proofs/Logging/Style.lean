import Extremum.Proofs.Logging.Registry

/-!
# The style of a logger

A logger has the level that was set last, whenever somebody asked for it first. The template and the stream are those
that were set last *since* somebody asked for it first: configuring reaches the known loggers only, and a logger is
always made with the style of new ones. So programs that configure logging in the same way obtain loggers of one
level, but not of one style. Main statement: `obtained_of_accepts`.
-/

namespace Extremum

open Logging

/-! ## What calls ask for -/

namespace LogCall

/-- Whether a call changes the configuration, and is not only a request for a logger. -/
def configures : LogCall → Bool
  | ask _ => false
  | setLevel _ | configure _ _ _ => true

/-- Whether a call requests the logger with a full name. -/
def requests (full : String) : LogCall → Bool
  | ask name => fullName name == full
  | setLevel _ | configure _ _ _ => false

def level? : LogCall → Option Int
  | ask _ => none
  | setLevel level | configure level _ _ => (readLevel level).toOption

def style? : LogCall → Option (String × Logging.Stream)
  | ask _ | setLevel _ => none
  | configure _ template stream => some (Log.chosenTemplate template, stream)

/-- Requests set no style. -/
theorem style?_of_requests {full : String} (c : LogCall) (h : c.requests full = true) : c.style? = none := by
  cases c with
  | ask name => rfl
  | setLevel level => rfl
  | configure level template stream => cases h

end LogCall

namespace Log

variable {log : Log} {name : Option String} {full : String} {c : LogCall} {calls others : List LogCall}
  {style : String × Logging.Stream} {level : Int}

def newStyle : String × Logging.Stream :=
  (defaultTemplate, .standardError)

def lastLevel (level : Int) (calls : List LogCall) : Int :=
  (calls.filterMap LogCall.level?).getLastD level

def lastStyle (style : String × Logging.Stream) (calls : List LogCall) : String × Logging.Stream :=
  (calls.filterMap LogCall.style?).getLastD style

/-- The calls from the first on that requests a logger; the library itself has requested its own before. -/
def sinceRequest (name : Option String) (calls : List LogCall) : List LogCall :=
  if fullName name ∈ ownNames then calls else calls.dropWhile fun c ↦ !c.requests (fullName name)

def styled (level : Int) (style : String × Logging.Stream) : Logger :=
  configured level style.1 style.2 false

/-- The logger that somebody obtains who asks for it. -/
def obtained (log : Log) (name : Option String) : Logger :=
  (log.ask name).logger (fullName name)

/-- All calls succeed, one after the other. -/
def Accepts (log : Log) : List LogCall → Prop
  | [] => True
  | c :: rest => (perform c.run log).1 = .ok () ∧ (log.next c).Accepts rest

/-! ## The last level and the last style -/

theorem lastLevel_cons (level : Int) (c : LogCall) (rest : List LogCall) :
    lastLevel level (c :: rest) = lastLevel (c.level?.getD level) rest := by
  unfold lastLevel
  cases h : c.level? with
  | none => rw [List.filterMap_cons_none h, Option.getD_none]
  | some n => rw [List.filterMap_cons_some h, List.getLastD_cons, Option.getD_some]

theorem lastStyle_cons (style : String × Logging.Stream) (c : LogCall) (rest : List LogCall) :
    lastStyle style (c :: rest) = lastStyle (c.style?.getD style) rest := by
  unfold lastStyle
  cases h : c.style? with
  | none => rw [List.filterMap_cons_none h, Option.getD_none]
  | some s => rw [List.filterMap_cons_some h, List.getLastD_cons, Option.getD_some]

/-- Requests for loggers do not count for what was set last. -/
theorem filterMap_filter_configures {α : Type} {f : LogCall → Option α} (hf : ∀ name, f (.ask name) = none)
    (calls : List LogCall) : (calls.filter LogCall.configures).filterMap f = calls.filterMap f := by
  rw [List.filterMap_filter]
  congr 1
  funext c
  cases c with
  | ask name => exact (hf name).symm
  | setLevel level => rfl
  | configure level template stream => rfl

/-- Requests set no level. -/
theorem lastLevel_congr (h : calls.filter LogCall.configures = others.filter LogCall.configures) (level : Int) :
    lastLevel level calls = lastLevel level others := by
  unfold lastLevel
  rw [← filterMap_filter_configures (fun _ ↦ rfl) calls, h, filterMap_filter_configures (fun _ ↦ rfl)]

/-- The style of some calls and more is the style of the later ones, begun with that of the earlier ones. -/
theorem lastStyle_append (style : String × Logging.Stream) (front back : List LogCall) :
    lastStyle style (front ++ back) = lastStyle (lastStyle style front) back := by
  induction front generalizing style with
  | nil => rfl
  | cons c rest ih => rw [List.cons_append, lastStyle_cons, lastStyle_cons, ih]

theorem lastStyle_of_forall_eq_none (h : ∀ c ∈ calls, c.style? = none) (style : String × Logging.Stream) :
    lastStyle style calls = style := by
  unfold lastStyle
  rw [List.filterMap_eq_nil_iff.2 h]
  rfl

/-- Calls that set a style leave the same one behind, whatever it was before. -/
theorem lastStyle_of_exists_isSome (h : ∃ c ∈ calls, c.style?.isSome) (style other : String × Logging.Stream) :
    lastStyle style calls = lastStyle other calls := by
  obtain ⟨c, hc, hstyle⟩ := h
  obtain ⟨s, hs⟩ := Option.isSome_iff_exists.1 hstyle
  have hmem : s ∈ calls.filterMap LogCall.style? := List.mem_filterMap.2 ⟨c, hc, hs⟩
  obtain ⟨first, rest, hstyles⟩ := List.exists_cons_of_ne_nil (List.ne_nil_of_mem hmem)
  unfold lastStyle
  rw [hstyles, List.getLastD_cons, List.getLastD_cons]

/-- The last calls alone leave the style behind that all of them do if they set one, or if that is the old one. -/
theorem lastStyle_eq_append_iff (style : String × Logging.Stream) (front back : List LogCall) :
    lastStyle style back = lastStyle style (front ++ back) ↔
      (∃ c ∈ back, c.style?.isSome) ∨ lastStyle style (front ++ back) = style := by
  rw [lastStyle_append]
  by_cases h : ∃ c ∈ back, c.style?.isSome
  · exact iff_of_true (lastStyle_of_exists_isSome h _ _) (.inl h)
  · have hnone : ∀ c ∈ back, c.style? = none := fun c hc ↦
      Option.not_isSome_iff_eq_none.1 fun hsome ↦ h ⟨c, hc, hsome⟩
    rw [lastStyle_of_forall_eq_none hnone, lastStyle_of_forall_eq_none hnone, or_iff_right h]
    exact eq_comm

/-! ## One call -/

section Next

/-- A call that succeeds asks for a logger or sets the level. -/
theorem next_cases (h : log.Sound) (hok : (perform c.run log).1 = .ok ()) :
    (∃ name, c = .ask name ∧ log.next c = log.ask name) ∨ (∃ n f, Sets c n f ∧ log.next c = log.adjusted n f) := by
  unfold next
  obtain ⟨name, hc, hrun⟩ | ⟨n, f, hsets, hrun⟩ | ⟨e, hrun⟩ := run_cases h.some_known c
  · exact .inl ⟨name, hc, congrArg Prod.snd hrun⟩
  · exact .inr ⟨n, f, hsets, congrArg Prod.snd hrun⟩
  · rw [hrun] at hok
    cases hok

theorem Sets.level? {n : Int} {f : Logger → Logger} (h : Sets c n f) : c.level? = some n := by
  cases h with
  | setLevel hlevel => exact congrArg Except.toOption hlevel
  | configure hlevel htemplate => exact congrArg Except.toOption hlevel

theorem Sets.requests {n : Int} {f : Logger → Logger} (h : Sets c n f) (full : String) : c.requests full = false := by
  cases h <;> rfl

/-- A call that sets the level sets the style that it asks for, if any. -/
theorem Sets.styled {n : Int} {f : Logger → Logger} (h : Sets c n f) (level : Int) (style : String × Logging.Stream) :
    f (styled level style) = styled n (c.style?.getD style) := by
  cases h <;> rfl

/-- A call sets the level that it asks for, if any. -/
theorem level_next (h : log.Sound) (hok : (perform c.run log).1 = .ok ()) :
    (log.next c).level = c.level?.getD log.level := by
  obtain ⟨name, rfl, hnext⟩ | ⟨n, f, hsets, hnext⟩ := next_cases h hok
  · rw [hnext, level_ask]
    rfl
  · rw [hnext, hsets.level?]
    rfl

/-- Nothing but a request makes a logger known. -/
theorem mem_known_next (h : log.Sound) (hok : (perform c.run log).1 = .ok ()) :
    full ∈ (log.next c).known ↔ full ∈ log.known ∨ c.requests full = true := by
  obtain ⟨name, rfl, hnext⟩ | ⟨n, f, hsets, hnext⟩ := next_cases h hok
  · rw [hnext]
    change _ ↔ _ ∨ (fullName name == full) = true
    rw [beq_iff_eq]
    by_cases hmem : fullName name ∈ log.known
    · rw [ask_of_mem hmem]
      exact ⟨.inl, fun hor ↦ hor.elim id fun (heq : fullName name = full) ↦ heq ▸ hmem⟩
    · rw [known_ask_of_not_mem hmem, List.mem_append, List.mem_singleton, eq_comm]
  · rw [hnext, known_adjusted, hsets.requests]
    simp

/-- A known logger takes over what a call sets. -/
theorem logger_next_of_mem (h : log.Sound) (hok : (perform c.run log).1 = .ok ()) (hmem : full ∈ log.known)
    (hlogger : log.logger full = styled log.level style) :
    (log.next c).logger full = styled (log.next c).level (c.style?.getD style) := by
  rw [level_next h hok]
  obtain ⟨name, rfl, hnext⟩ | ⟨n, f, hsets, hnext⟩ := next_cases h hok
  · rw [hnext]
    by_cases hasked : fullName name ∈ log.known
    · rw [ask_of_mem hasked]
      exact hlogger
    · have hne : full ≠ fullName name := by
        rintro rfl
        exact hasked hmem
      rw [logger_ask_of_not_mem hasked (h.fresh _ hasked), if_neg hne]
      exact hlogger
  · rw [hnext, logger_adjusted h.distinct, if_pos hmem, hlogger, hsets.styled, hsets.level?]
    rfl

/-- A logger that becomes known has the style of new ones. -/
theorem logger_next_of_requests (h : log.Sound) (hmem : full ∉ log.known) (hrequests : c.requests full = true) :
    (log.next c).logger full = styled (log.next c).level newStyle := by
  cases c with
  | ask name =>
    have hfull : fullName name = full := beq_iff_eq.1 hrequests
    subst hfull
    change (log.ask name).logger _ = styled (log.ask name).level newStyle
    rw [logger_ask_of_not_mem hmem (h.fresh _ hmem), if_pos rfl, level_ask]
    rfl
  | setLevel level => cases hrequests
  | configure level template stream => cases hrequests

end Next

/-! ## All calls -/

/-- The level of the loggers to come is the one that was set last. -/
theorem level_after (h : log.Sound) (haccepts : log.Accepts calls) :
    (log.after calls).level = lastLevel log.level calls := by
  induction calls generalizing log with
  | nil => rfl
  | cons c rest ih =>
    obtain ⟨hok, hrest⟩ := haccepts
    change ((log.next c).after rest).level = _
    rw [ih (h.next c) hrest, level_next h hok, lastLevel_cons]

/-- A known logger has the style that was set last. -/
theorem obtained_after_of_mem (h : log.Sound) (haccepts : log.Accepts calls) (hmem : fullName name ∈ log.known)
    (hlogger : log.logger (fullName name) = styled log.level style) :
    (log.after calls).obtained name = styled (log.after calls).level (lastStyle style calls) := by
  induction calls generalizing log style with
  | nil =>
    unfold obtained
    rw [after, List.foldl_nil, ask_of_mem hmem]
    exact hlogger
  | cons c rest ih =>
    obtain ⟨hok, hrest⟩ := haccepts
    have hknown := (mem_known_next h hok).2 (.inl hmem)
    rw [lastStyle_cons]
    exact ih (h.next c) hrest hknown (logger_next_of_mem h hok hmem hlogger)

/-- A logger that is not known has the style that was set last since somebody requested it. -/
theorem obtained_after_of_not_mem (h : log.Sound) (haccepts : log.Accepts calls) (hmem : fullName name ∉ log.known) :
    (log.after calls).obtained name = styled (log.after calls).level
      (lastStyle newStyle (calls.dropWhile fun c ↦ !c.requests (fullName name))) := by
  induction calls generalizing log with
  | nil =>
    unfold obtained
    rw [after, List.foldl_nil, logger_ask_of_not_mem hmem (h.fresh _ hmem), if_pos rfl]
    rfl
  | cons c rest ih =>
    obtain ⟨hok, hrest⟩ := haccepts
    cases hrequests : c.requests (fullName name) with
    | true =>
      have hknown := (mem_known_next h hok).2 (.inr hrequests)
      rw [List.dropWhile_cons_of_neg (by simp [hrequests]), lastStyle_cons, c.style?_of_requests hrequests]
      exact obtained_after_of_mem (h.next c) hrest hknown (logger_next_of_requests h hmem hrequests)
    | false =>
      have hunknown : fullName name ∉ (log.next c).known := by
        rw [mem_known_next h hok, hrequests]
        simpa using hmem
      rw [List.dropWhile_cons_of_pos (by simp [hrequests])]
      exact ih (h.next c) hrest hunknown

/-! ## From the beginning on -/

/-- A log in which nothing has been set since it had a level. -/
structure Unset (level : Int) (log : Log) : Prop extends Consistent log where
  level_eq : log.level = level
  plain : ∀ full ∈ log.known, log.logger full = styled log.level newStyle

theorem Unset.ask (h : Unset level log) (name : Option String) : Unset level (log.ask name) := by
  refine ⟨h.toConsistent.ask name, (level_ask log name).trans h.level_eq, fun full hfull ↦ ?_⟩
  by_cases hmem : fullName name ∈ log.known
  · rw [ask_of_mem hmem] at hfull ⊢
    exact h.plain full hfull
  · rw [known_ask_of_not_mem hmem, List.mem_append, List.mem_singleton] at hfull
    rw [logger_ask_of_not_mem hmem (h.fresh _ hmem), level_ask]
    split
    · rfl
    · rename_i hne
      exact h.plain full (hfull.resolve_right hne)

theorem unset_start (level : Int) : Unset level (start level) :=
  start_of_ask ⟨consistent_empty level, rfl, fun _ hname ↦ absurd hname List.not_mem_nil⟩ fun _ name h ↦ h.ask name

/-- The logger that somebody obtains has the level that was set last, and the style that was set last since somebody
requested it. -/
theorem obtained_after (haccepts : (start level).Accepts calls) (name : Option String) :
    ((start level).after calls).obtained name =
      styled (lastLevel level calls) (lastStyle newStyle (sinceRequest name calls)) := by
  have hlevel := level_after (sound_start level) haccepts
  rw [(unset_start level).level_eq] at hlevel
  rw [← hlevel]
  unfold sinceRequest
  by_cases h : fullName name ∈ ownNames
  · rw [if_pos h]
    rw [← known_start level] at h
    exact obtained_after_of_mem (sound_start level) haccepts h ((unset_start level).plain _ h)
  · rw [if_neg h]
    rw [← known_start level] at h
    exact obtained_after_of_not_mem (sound_start level) haccepts h

/-- The calls since the first request are the last ones. -/
theorem sinceRequest_suffix (name : Option String) (calls : List LogCall) : sinceRequest name calls <:+ calls := by
  unfold sinceRequest
  split
  · exact List.suffix_rfl
  · exact List.dropWhile_suffix _

/-- A logger shows its style. -/
theorem styled_inj {n : Int} {s t : String × Logging.Stream} : styled n s = styled n t ↔ s = t := by
  refine ⟨fun h ↦ ?_, congrArg (styled n)⟩
  have hsink : some s = some t := congrArg (fun l : Logger ↦ l.handlers.head?.bind (·.sink)) h
  exact Option.some.inj hsink

/-- Programs that configure logging in the same way obtain loggers of one level. The loggers are the same just if the
calls since the first request leave one style behind in both; and a logger is as it was configured last just if it has
been configured since the first request, or if it was given the style of new loggers. -/
theorem obtained_of_accepts (name : Option String) (hcalls : (start level).Accepts calls)
    (hothers : (start level).Accepts others)
    (hsame : calls.filter LogCall.configures = others.filter LogCall.configures) :
    (((start level).after calls).obtained name).level = (((start level).after others).obtained name).level ∧
    (((start level).after calls).obtained name = ((start level).after others).obtained name ↔
      lastStyle newStyle (sinceRequest name calls) = lastStyle newStyle (sinceRequest name others)) ∧
    (((start level).after calls).obtained name = styled (lastLevel level calls) (lastStyle newStyle calls) ↔
      (∃ c ∈ sinceRequest name calls, c.style?.isSome) ∨ lastStyle newStyle calls = newStyle) := by
  obtain ⟨front, hfront⟩ := sinceRequest_suffix name calls
  have hlast := lastStyle_eq_append_iff newStyle front (sinceRequest name calls)
  rw [hfront] at hlast
  rw [obtained_after hcalls, obtained_after hothers, lastLevel_congr hsame]
  exact ⟨rfl, styled_inj, styled_inj.trans hlast⟩

section Late

/-- A call that has everything captured. -/
def captureAll : LogCall :=
  .configure (.number Logging.debug) none (.capture 0)

theorem run_captureAll (log : Log) : (perform captureAll.run log).1 = .ok () := by
  have hmentions : mentionsField (chosenTemplate none).toList = true := by decide
  have hrun := (perform_configure_of_mentions (.number Logging.debug) (.capture 0) hmentions log).trans
    (perform_adjustAll_of_ok rfl log)
  exact congrArg Prod.fst hrun

theorem accepts_captureAll_ask (log : Log) : log.Accepts [captureAll, .ask (some "late")] :=
  ⟨run_captureAll log, rfl, trivial⟩

theorem accepts_ask_captureAll (log : Log) : log.Accepts [.ask (some "late"), captureAll] :=
  ⟨rfl, run_captureAll _, trivial⟩

/-- A logger that is asked for after everything is captured, and one that is asked for before: the levels are the same,
but the loggers are not. -/
theorem obtained_of_accepts_late :
    let log := start warning
    let calls := [captureAll, .ask (some "late")]
    let others := [.ask (some "late"), captureAll]
    log.Accepts calls ∧ log.Accepts others ∧
      calls.filter LogCall.configures = others.filter LogCall.configures ∧
      ((log.after calls).obtained (some "late")).level = ((log.after others).obtained (some "late")).level ∧
      (log.after calls).obtained (some "late") ≠ (log.after others).obtained (some "late") := by
  intro log calls others
  have hcalls : log.Accepts calls := accepts_captureAll_ask log
  have hothers : log.Accepts others := accepts_ask_captureAll log
  obtain ⟨hlevel, hstyle, -⟩ := obtained_of_accepts (some "late") hcalls hothers rfl
  refine ⟨hcalls, hothers, rfl, hlevel, fun h ↦ ?_⟩
  exact absurd (hstyle.1 h) (by decide)

/-- The loggers that somebody obtains depend on when somebody asked for them first. -/
theorem not_obtained_of_configures : ¬∀ (name : Option String) (calls others : List LogCall),
    (start warning).Accepts calls → (start warning).Accepts others →
    calls.filter LogCall.configures = others.filter LogCall.configures →
    ((start warning).after calls).obtained name = ((start warning).after others).obtained name := by
  intro h
  have hsame := h (some "late") _ _ (accepts_captureAll_ask _) (accepts_ask_captureAll _) rfl
  rw [obtained_after (accepts_captureAll_ask _), obtained_after (accepts_ask_captureAll _)] at hsame
  exact absurd (styled_inj.1 hsame) (by decide)

end Late

end Log

end Extremum
