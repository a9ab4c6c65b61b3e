import CcsTrans.App.AppService
import CcsTrans.Config.FieldDescriptor

/-!
What the descriptors say of a change, and what a reload makes of it.

Which settings a server takes in place is written down twice: as the impact in the descriptor of
each field, and as the comparison in a reload. The two agree on every field but the level of the
log, for which the descriptor promises a reload where the server asks for a restart.
-/

namespace CcsTrans.App

open CcsTrans.Text CcsTrans.Config

/-- Some field differs whose descriptor says that the service has to be restarted. -/
def RestartDeclared (old new : ApplicationSettings) : Prop :=
  ∃ d ∈ applicationFieldDescriptors, d.applyImpact = .serviceRestart ∧
    readApplicationField old d ≠ readApplicationField new d

/-- What of the settings those fields are. -/
def restartFields (a : ApplicationSettings) : List ConfigurationFieldValue :=
  [.text a.listener.host, .number a.listener.port.toUInt64,
    .number a.runtime.workerThreads.toUInt64, .number a.runtime.maxInflightBytes,
    .number a.runtime.metricsIntervalMs.toUInt64, .number a.logging.queueCapacity,
    .number a.logging.maxTotalSize, .number a.logging.flushIntervalMs.toUInt64]

lemma read_restartFields (a : ApplicationSettings) :
    ((applicationFieldDescriptors.filter fun d => d.applyImpact = .serviceRestart).map
      (readApplicationField a)) = (restartFields a).map .ok := by
  rfl

section Declared

variable {old new : ApplicationSettings}

lemma restartDeclared_iff : RestartDeclared old new ↔ restartFields old ≠ restartFields new := by
  have hmap : restartFields old = restartFields new ↔
      (restartFields old).map (Except.ok (ε := Bytes)) = (restartFields new).map .ok :=
    (List.map_injective_iff.mpr fun _ _ h => Except.ok.inj h).eq_iff.symm
  rw [ne_eq, hmap, ← read_restartFields, ← read_restartFields, List.map_inj_left]
  simp [RestartDeclared]

/-- What a reload compares, but for the level. -/
lemma restartFields_eq_iff : restartFields old = restartFields new ↔
    listenerChanged old new = false ∧ executionChanged old new = false ∧
      old.logging.queueCapacity = new.logging.queueCapacity ∧
      old.logging.maxTotalSize = new.logging.maxTotalSize ∧
      old.logging.flushIntervalMs = new.logging.flushIntervalMs := by
  have h16 : ∀ a b : UInt16, a.toUInt64 = b.toUInt64 ↔ a = b := by
    intro a b
    rw [← UInt64.toNat_inj, ← UInt16.toNat_inj]
    simp
  have h32 : ∀ a b : UInt32, a.toUInt64 = b.toUInt64 ↔ a = b := by
    intro a b
    rw [← UInt64.toNat_inj, ← UInt32.toNat_inj]
    simp
  simp only [restartFields, List.cons.injEq, ConfigurationFieldValue.text.injEq,
    ConfigurationFieldValue.number.injEq, h16, h32, and_true, listenerChanged, executionChanged,
    Bool.or_eq_false_iff, decide_eq_false_iff_not, ne_eq, not_not]
  constructor
  · rintro ⟨hhost, hport, hworkers, hinflight, hmetrics, hqueue, htotal, hflush⟩
    exact ⟨⟨hhost, hport⟩, ⟨⟨hworkers, hmetrics⟩, hinflight⟩, hqueue, htotal, hflush⟩
  · rintro ⟨⟨hhost, hport⟩, ⟨⟨hworkers, hmetrics⟩, hinflight⟩, hqueue, htotal, hflush⟩
    exact ⟨hhost, hport, hworkers, hinflight, hmetrics, hqueue, htotal, hflush⟩

/-- **What a reload on the same log path compares**: the fields with that impact, and the level. -/
lemma restartNeeded_iff {old new : RuntimeSnapshot} (hpath : old.logPath = new.logPath) :
    restartNeeded old new = true ↔ RestartDeclared old.application new.application ∨
      old.application.logging.level ≠ new.application.logging.level := by
  rw [← not_iff_not, not_or, restartDeclared_iff, not_not, not_not, restartFields_eq_iff,
    Bool.not_eq_true]
  simp only [restartNeeded, hpath, sameLogWriterSettings, decide_true, Bool.true_and,
    Bool.or_eq_false_iff, Bool.not_eq_false', Bool.and_eq_true, decide_eq_true_eq]
  tauto

end Declared

/-- The server asks for a restart of the service. -/
def RestartRequired (s : Server) (snapshot : RuntimeSnapshot) (o : ReloadOutcome) : Prop :=
  ∃ error, (s.reload snapshot o).1 = .returned .restartRequired error

lemma restartRequired_iff {s : Server} {snapshot : RuntimeSnapshot} {o : ReloadOutcome}
    (hroutes : snapshot.routes.size ≠ 0) (ho : o.announced = none) :
    RestartRequired s snapshot o ↔ restartNeeded s.runtime snapshot = true := by
  unfold RestartRequired Server.reload
  rw [if_neg hroutes, ho]
  by_cases h : restartNeeded s.runtime snapshot = true
  · rw [if_pos h]
    exact iff_of_true ⟨_, rfl⟩ h
  · rw [if_neg h]
    refine iff_of_false ?_ h
    have hswap : ∀ error, (s.swap snapshot o).1 ≠ .returned .restartRequired error := by
      intro error
      unfold Server.swap
      split
      · nofun
      · split <;> nofun
    rintro ⟨error, herror⟩
    split_ifs at herror
    · exact hswap error herror
    · split at herror
      · exact hswap error herror
      all_goals cases herror

/-- **When the descriptors tell the truth of a reload.** On the same log path a complete snapshot
is answered with a restart exactly when a field differs that is said to need one: unless the level
differs and no such field does. -/
theorem descriptors_truthful_iff (s : Server) (snapshot : RuntimeSnapshot) (o : ReloadOutcome)
    (hroutes : snapshot.routes.size ≠ 0) (hpath : s.runtime.logPath = snapshot.logPath)
    (ho : o.announced = none) :
    (RestartRequired s snapshot o ↔
      RestartDeclared s.runtime.application snapshot.application) ↔
    (s.runtime.application.logging.level = snapshot.application.logging.level ∨
      RestartDeclared s.runtime.application snapshot.application) := by
  rw [restartRequired_iff hroutes ho, restartNeeded_iff hpath]
  tauto

/-- A configuration with one route that logs from a level on. -/
def loggingFrom (level : String) (queueCapacity : UInt64) : RuntimeSnapshot where
  application := { logging := { level := str level, queueCapacity := queueCapacity } }
  logPath := str "/srv/logs/ccs-trans.log"
  protocols := {}
  rules := {}
  routes := { size := 1 }

/-- The queue of the log is made smaller. -/
theorem descriptors_truthful_iff_queue :
    RestartRequired ⟨loggingFrom "info" 65536⟩ (loggingFrom "info" 32768) {} ↔
      RestartDeclared (loggingFrom "info" 65536).application
        (loggingFrom "info" 32768).application :=
  (descriptors_truthful_iff ⟨loggingFrom "info" 65536⟩ (loggingFrom "info" 32768) {}
    (by decide) rfl rfl).mpr (.inl rfl)

/-- Another level needs a restart, which its descriptor does not say. -/
theorem level_needs_restart :
    ¬ ∀ (s : Server) (snapshot : RuntimeSnapshot),
      validateApplicationSettings s.runtime.application = .ok () →
      validateApplicationSettings snapshot.application = .ok () →
      snapshot.routes.size ≠ 0 → s.runtime.logPath = snapshot.logPath →
      (RestartRequired s snapshot {} ↔
        RestartDeclared s.runtime.application snapshot.application) := by
  intro h
  have hlevel := h ⟨loggingFrom "info" 65536⟩ (loggingFrom "debug" 65536) (by decide)
    (by decide) (by decide) rfl
  have hrestart : RestartRequired ⟨loggingFrom "info" 65536⟩ (loggingFrom "debug" 65536) {} :=
    (restartRequired_iff (by decide) rfl).mpr (by decide)
  exact restartDeclared_iff.mp (hlevel.mp hrestart) rfl

end CcsTrans.App
