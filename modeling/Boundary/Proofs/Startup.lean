import Boundary.Startup

/-!
A process that starts up and goes on. Main statement: the first entry sets up the log for good, and what
the log shows from then on has passed its filter.
-/

namespace Boundary

/-- The lenient reading of a level for the library lets through what the library writes at that level or
a less talkative one. -/
def FilterReader.KnowsLevels (filters : FilterReader) : Prop :=
  ∀ level, ∃ filter, filters.ofLevel level = .ok filter ∧
    ∀ event, filter.passes event = decide (event.level.verbosity ≤ level.verbosity)

namespace Startup

variable {toml : Toml.Format} {filters : FilterReader} {start before middle after : Startup}

/-- What becomes of a process: it stays where it is, a log that is there stays with its files, and the
log only grows, by events that its filter lets through. -/
structure Follows (before after : Startup) : Prop where
  environment : after.environment = before.environment
  directory : after.directory = before.directory
  log : ∀ logger, before.logger = some logger →
    after.logger = some logger ∧ after.tree = before.tree
  probed : before.probed = true → after.probed = true
  shown : ∃ events, after.shown = before.shown ++ events ∧
    ∀ event ∈ events, ∃ logger, after.logger = some logger ∧ logger.filter.passes event = true

namespace Follows

theorem refl (startup : Startup) : Follows startup startup where
  environment := rfl
  directory := rfl
  log _ there := ⟨there, rfl⟩
  probed := id
  shown := ⟨[], by simp⟩

theorem trans (first : Follows before middle) (second : Follows middle after) :
    Follows before after where
  environment := second.environment.trans first.environment
  directory := second.directory.trans first.directory
  log logger there := by
    obtain ⟨still, tree⟩ := first.log logger there
    obtain ⟨again, same⟩ := second.log logger still
    exact ⟨again, same.trans tree⟩
  probed done := second.probed (first.probed done)
  shown := by
    obtain ⟨events, shown, passed⟩ := first.shown
    obtain ⟨further, all, passing⟩ := second.shown
    refine ⟨events ++ further, by rw [all, shown, List.append_assoc], fun event member => ?_⟩
    rcases List.mem_append.1 member with earlier | later
    · obtain ⟨logger, there, passes⟩ := passed event earlier
      exact ⟨logger, (second.log logger there).1, passes⟩
    · exact passing event later

end Follows

theorem write_follows (startup : Startup) (events : List Event) :
    Follows startup (startup.write events) := by
  unfold write
  split
  · exact .refl startup
  · rename_i logger there
    refine ⟨rfl, rfl, fun other same => ⟨same, rfl⟩, id, _, rfl, fun event member => ?_⟩
    exact ⟨logger, there, (List.mem_filter.1 member).2⟩

theorem probe_follows (startup : Startup) : Follows startup startup.probe := by
  unfold probe
  split
  · exact .refl startup
  · have written := startup.write_follows [.probed Platform.current.integerTag]
    exact ⟨written.environment, written.directory, written.log, fun _ => rfl, written.shown⟩

theorem use_follows {result : Type} (startup : Startup) (action : Action result) (state : State) :
    Follows startup (startup.use action state) :=
  startup.probe_follows.trans (startup.probe.write_follows _)

section Install

variable {settings : LogSettings}

theorem install_of_logger {logger : Logger} (there : before.logger = some logger) :
    before.install filters settings = .ok before := by
  rw [install, there]

theorem exists_of_install (fresh : before.logger = none)
    (installed : before.install filters settings = .ok after) :
    ∃ filter tree, filters.choose before.environment settings.level = .ok filter ∧
      settings.openFile before.tree before.directory = .ok tree ∧
      after = { before with logger := some ⟨filter, settings.json⟩, tree := tree } := by
  rw [install, fresh] at installed
  cases chosen : filters.choose before.environment settings.level with
  | error cause =>
      rw [chosen] at installed
      cases installed
  | ok filter =>
      cases opened : settings.openFile before.tree before.directory with
      | error cause =>
          rw [chosen, opened] at installed
          cases installed
      | ok tree =>
          rw [chosen, opened] at installed
          cases installed
          exact ⟨filter, tree, rfl, rfl, rfl⟩

theorem install_follows (installed : before.install filters settings = .ok after) :
    Follows before after ∧ after.isInitialized = true := by
  cases there : before.logger with
  | some logger =>
      rw [install_of_logger there] at installed
      cases installed
      exact ⟨.refl before, by rw [isInitialized, there]; rfl⟩
  | none =>
      obtain ⟨filter, tree, _, _, rfl⟩ := exists_of_install there installed
      refine ⟨⟨rfl, rfl, fun logger same => ?_, id, [], by simp, by simp⟩, rfl⟩
      rw [there] at same
      cases same

theorem Follows.isInitialized (follows : Follows before after)
    (initialized : before.isInitialized = true) : after.isInitialized = true := by
  obtain ⟨logger, there⟩ := Option.isSome_iff_exists.1 initialized
  exact Option.isSome_iff_exists.2 ⟨logger, (follows.log logger there).1⟩

end Install

/-- One entry: whatever the way in, the log is set up afterwards. -/
theorem enter_follows {entry : EntryPoint} (entered : before.enter toml filters entry = .ok after) :
    Follows before after ∧ after.isInitialized = true := by
  cases entry with
  | environment => exact install_follows entered
  | settings settings => exact install_follows entered
  | native =>
      rw [enter] at entered
      generalize Config.discover toml before.tree { parts := before.directory } = discovered at entered
      obtain ⟨config, reports⟩ := discovered
      dsimp only at entered
      cases installed : (before.write reports).install filters
          (config.logSettings before.environment) with
      | error cause =>
          rw [installed] at entered
          cases entered
      | ok set =>
          rw [installed] at entered
          cases entered
          obtain ⟨follows, initialized⟩ := install_follows installed
          have later := set.probe_follows.trans
            (set.probe.write_follows [.ready Platform.current.integerTag])
          exact ⟨((before.write_follows reports).trans follows).trans later,
            later.isInitialized initialized⟩

/-- Any entries and uses, one after the other. An entry that panics is not survived. -/
inductive Run (toml : Toml.Format) (filters : FilterReader) (start : Startup) : Startup → Prop
  | refl : Run toml filters start start
  | enter {before after : Startup} (entry : EntryPoint) : Run toml filters start before →
      before.enter toml filters entry = .ok after → Run toml filters start after
  | use {before : Startup} {result : Type} (action : Action result) (state : State) :
      Run toml filters start before → Run toml filters start (before.use action state)

theorem Run.follows (run : Run toml filters start after) : Follows start after := by
  induction run with
  | refl => exact .refl start
  | enter entry _ entered ih => exact ih.trans (enter_follows entered).1
  | use action state _ ih => exact ih.trans (use_follows _ action state)

/-- Once the log is set up, entering again changes neither the log nor its files, and does nothing at all
except for the native way in, which goes on to report. -/
theorem log_set_up_once {logger : Logger} (there : start.logger = some logger)
    (run : Run toml filters start after) :
    after.logger = some logger ∧ after.tree = start.tree ∧ start.shown <+: after.shown ∧
      (∀ event ∈ after.shown, event ∈ start.shown ∨ logger.filter.passes event = true) ∧
      ∀ entry : EntryPoint, entry ≠ .native → after.enter toml filters entry = .ok after := by
  have follows := run.follows
  obtain ⟨still, tree⟩ := follows.log logger there
  obtain ⟨events, shown, passed⟩ := follows.shown
  refine ⟨still, tree, ⟨events, shown.symm⟩, fun event member => ?_, fun entry other => ?_⟩
  · rw [shown] at member
    rcases List.mem_append.1 member with earlier | later
    · exact .inl earlier
    · obtain ⟨other, same, passes⟩ := passed event later
      rw [still] at same
      cases same
      exact .inr passes
  · cases entry with
    | native => exact absurd rfl other
    | environment => exact install_of_logger still
    | settings settings => exact install_of_logger still

/-- Where no variable names a filter, the level of the settings decides what is shown, for as long as the
process runs. -/
theorem log_keeps_to_level (knows : filters.KnowsLevels) (fresh : start.logger = none)
    (unnamed : start.environment.text? "RUST_LOG" = none) {settings : LogSettings}
    (entered : start.enter toml filters (.settings settings) = .ok before)
    (run : Run toml filters before after) :
    ∀ event ∈ after.shown, event ∈ start.shown ∨
      event.level.verbosity ≤ settings.level.verbosity := by
  obtain ⟨filter, tree, chosen, _, rfl⟩ := exists_of_install fresh entered
  obtain ⟨known, read, passes⟩ := knows settings.level
  have same : filter = known := by
    simp only [FilterReader.choose, unnamed, bind, Except.bind, read] at chosen
    exact (Except.ok.inj chosen).symm
  intro event member
  rcases (log_set_up_once rfl run).2.2.2.1 event member with earlier | passed
  · exact .inl earlier
  · rw [same, passes] at passed
    exact .inr (of_decide_eq_true passed)

end Startup

end Boundary
