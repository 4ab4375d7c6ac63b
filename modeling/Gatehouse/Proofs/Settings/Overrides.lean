import Gatehouse.Settings
import Gatehouse.Proofs.Settings.Texts

/-!
# Variables that override settings

Every setting has a variable of its own. Variables are applied in the order of the
settings, each to its setting only, up to the first whose text stands for no value. Hence a
variable that is well written changes nothing but its setting, variables of other names
change nothing, and variables that are applied again change nothing either.
-/

namespace Gatehouse

namespace Setting

theorem nodup_all : all.Nodup := by decide

/-- No two settings share a variable. -/
theorem variableName_injective {a b : Setting} (same : a.variableName = b.variableName) :
    a = b := by
  have distinct : ∀ a ∈ all, ∀ b ∈ all, a.variableName = b.variableName → a = b := by
    decide +kernel
  exact distinct a a.mem_all b b.mem_all same

/-- The variables in the order in which they are applied. -/
example : all.map variableName =
    ["WARDEN_APP_NAME", "WARDEN_APP_HOST", "WARDEN_APP_PORT", "WARDEN_APP_SECRET",
      "WARDEN_AUTH_ACCESS_TTL_SECS", "WARDEN_AUTH_REFRESH_TTL_SECS", "WARDEN_AUTH_LEEWAY_SECS",
      "WARDEN_AUTH_TRACK_SESSIONS", "WARDEN_INTERCEPTOR_ORDER",
      "WARDEN_INTERCEPTOR_ON_LOOKUP_FAILURE", "WARDEN_INTERCEPTOR_SINGLE_FLIGHT",
      "WARDEN_INTERCEPTOR_AUDIT", "WARDEN_INTERCEPTOR_AUDIT_QUEUE_CAPACITY",
      "WARDEN_CACHE_BACKEND", "WARDEN_CACHE_REDIS_URL", "WARDEN_CACHE_PERMISSIONS_TTL_SECS",
      "WARDEN_CACHE_STORE_TIMEOUT_MS", "WARDEN_DATABASE_URL", "WARDEN_LOG_FILTER",
      "WARDEN_LOG_JSON"] := by decide +kernel

end Setting

/-- If the variable of a setting is set, its text stands for a value. -/
def Environment.IsWellWritten (environment : Environment) (setting : Setting) : Prop :=
  ∀ text, environment setting.variableName = some text → ∃ value, setting.Denotes text value

namespace Settings

variable {environment : Environment} {before next after : Settings} {setting : Setting}
  {rest : List Setting}

/-- A setting has the value that its variable stands for, and without one its former value. -/
def Follows (environment : Environment) (before after : Settings) (setting : Setting) : Prop :=
  match environment setting.variableName with
  | none => after.get setting = before.get setting
  | some text => setting.Denotes text (after.get setting)

/-! ## One variable -/

theorem set_get_self (settings : Settings) (setting : Setting) :
    settings.set setting (settings.get setting) = settings := by
  ext other
  by_cases same : setting = other
  · subst same
    exact get_set_self ..
  · exact get_set_of_ne _ _ same

/-- A variable that is well written is applied to its setting only, whatever comes next. -/
structure Applies (environment : Environment) (setting : Setting) (before next : Settings) :
    Prop where
  goesOn : ∀ rest, override environment (setting :: rest) before = override environment rest next
  follows : Follows environment before next setting
  keeps : ∀ other, setting ≠ other → next.get other = before.get other

theorem exists_applies (written : environment.IsWellWritten setting) (before : Settings) :
    ∃ next, Applies environment setting before next := by
  cases found : environment setting.variableName with
  | none =>
      exact ⟨before, fun rest => by rw [override, found], by rw [Follows, found],
        fun _ _ => rfl⟩
  | some text =>
      obtain ⟨value, denoted⟩ := written text found
      have read := Setting.ofText_eq_ok_iff.mpr denoted
      refine ⟨before.set setting value, fun rest => by simp only [override, found, read], ?_,
        fun other apart => get_set_of_ne _ _ apart⟩
      rw [Follows, found, get_set_self]
      exact denoted

/-- A variable that is not well written ends the application. -/
theorem override_of_not_isWellWritten (ill : ¬ environment.IsWellWritten setting)
    (rest : List Setting) (before : Settings) :
    ∃ text reason, environment setting.variableName = some text ∧
      (∀ value, ¬ setting.Denotes text value) ∧ setting.kind.ofText text = .error reason ∧
        override environment (setting :: rest) before =
          (before, some (.variable setting.variableName reason)) := by
  obtain ⟨text, blamed⟩ := Classical.not_forall.mp ill
  obtain ⟨found, unread⟩ := Classical.not_imp.mp blamed
  have undenoted : ∀ value, ¬ setting.Denotes text value := not_exists.mp unread
  cases read : setting.kind.ofText text with
  | ok value => exact absurd (Setting.ofText_eq_ok_iff.mp read) (undenoted value)
  | error reason =>
      exact ⟨text, reason, found, undenoted, read, by simp only [override, found, read]⟩

/-- A variable that was applied is applied again without effect. -/
theorem override_cons_of_follows (follows : Follows environment before after setting) :
    override environment (setting :: rest) after = override environment rest after := by
  rw [Follows] at follows
  split at follows
  · next absent => rw [override, absent]
  · next text found =>
      simp only [override, found, Setting.ofText_eq_ok_iff.mpr follows, set_get_self]

/-! ## All variables -/

theorem get_override_of_not_mem {order : List Setting} (aside : setting ∉ order)
    (before : Settings) :
    (override environment order before).1.get setting = before.get setting := by
  induction order generalizing before with
  | nil => rfl
  | cons head rest ih =>
      obtain ⟨apart, later⟩ := not_or.mp (mt List.mem_cons.mpr aside)
      by_cases written : environment.IsWellWritten head
      · obtain ⟨next, applies⟩ := exists_applies written before
        rw [applies.goesOn, ih later, applies.keeps setting (Ne.symm apart)]
      · obtain ⟨_, _, _, _, _, stopped⟩ := override_of_not_isWellWritten written rest before
        rw [stopped]

/-- The variables of some settings are applied in their order, all of them or those in front
of the first that is not well written. -/
inductive Course (environment : Environment) (order : List Setting) (before : Settings) :
    Settings × Option SettingsFault → Prop
  | accepted {after : Settings}
      (follow : ∀ setting ∈ order, Follows environment before after setting) :
      Course environment order before (after, none)
  | refused {after : Settings} {early late : List Setting} {failing : Setting} {text : String}
      {reason : ValueFault}
      (split : order = early ++ failing :: late)
      (follow : ∀ setting ∈ early, Follows environment before after setting)
      (found : environment failing.variableName = some text)
      (undenoted : ∀ value, ¬ failing.Denotes text value)
      (blamed : failing.kind.ofText text = .error reason)
      (keep : ∀ setting ∈ failing :: late, after.get setting = before.get setting) :
      Course environment order before (after, some (.variable failing.variableName reason))

theorem Follows.congr {before' after' : Settings}
    (follows : Follows environment before after setting)
    (start : before'.get setting = before.get setting)
    (result : after'.get setting = after.get setting) :
    Follows environment before' after' setting := by
  rw [Follows, start, result]
  exact follows

theorem Follows.isWellWritten (follows : Follows environment before after setting) :
    environment.IsWellWritten setting := by
  intro text found
  rw [Follows, found] at follows
  exact ⟨_, follows⟩

theorem Course.cons {result : Settings × Option SettingsFault}
    (applies : Applies environment setting before next) (fresh : setting ∉ rest)
    (stays : result.1.get setting = next.get setting)
    (course : Course environment rest next result) :
    Course environment (setting :: rest) before result := by
  have later {other : Setting} (among : other ∈ rest) : before.get other = next.get other :=
    (applies.keeps other fun same => fresh (same ▸ among)).symm
  have first := applies.follows.congr rfl stays
  cases course with
  | accepted follow =>
      exact .accepted (List.forall_mem_cons.mpr
        ⟨first, fun other among => (follow other among).congr (later among) rfl⟩)
  | @refused after early late failing text reason split follow found undenoted blamed keep =>
      subst split
      refine .refused rfl (List.forall_mem_cons.mpr ⟨first, fun other among => ?_⟩) found
        undenoted blamed fun other among => ?_
      · exact (follow other among).congr (later (List.mem_append_left _ among)) rfl
      · rw [keep other among, later (List.mem_append_right _ among)]

theorem course {order : List Setting} (distinct : order.Nodup) (before : Settings) :
    Course environment order before (override environment order before) := by
  induction order generalizing before with
  | nil => exact .accepted nofun
  | cons head rest ih =>
      obtain ⟨fresh, distinct⟩ := List.nodup_cons.mp distinct
      by_cases written : environment.IsWellWritten head
      · obtain ⟨next, applies⟩ := exists_applies written before
        rw [applies.goesOn]
        exact (ih distinct next).cons applies fresh (get_override_of_not_mem fresh next)
      · obtain ⟨text, reason, found, undenoted, blamed, stopped⟩ :=
          override_of_not_isWellWritten written rest before
        rw [stopped]
        exact .refused (List.nil_append _).symm nofun found undenoted blamed fun _ _ => rfl

theorem Course.accepted_iff {order : List Setting} {result : Settings × Option SettingsFault}
    (course : Course environment order before result) :
    result.2 = none ↔ ∀ setting ∈ order, environment.IsWellWritten setting := by
  cases course with
  | accepted follow =>
      exact ⟨fun _ setting among => (follow setting among).isWellWritten, fun _ => rfl⟩
  | refused split _ found undenoted =>
      refine ⟨nofun, fun written => ?_⟩
      obtain ⟨value, denoted⟩ := written _ (split ▸ List.mem_append_cons_self) _ found
      exact absurd denoted (undenoted value)

/-! ## Other environments -/

/-- Settings differ in the value of one setting at most. -/
def AgreeBut (setting : Setting) (a b : Settings) : Prop :=
  ∀ other, setting ≠ other → a.get other = b.get other

theorem AgreeBut.set {field : Setting} {a b : Settings} (agree : AgreeBut field a b)
    (setting : Setting) (value : setting.Value) :
    AgreeBut field (a.set setting value) (b.set setting value) := by
  intro other apart
  by_cases same : setting = other
  · subst same
    rw [get_set_self, get_set_self]
  · rw [get_set_of_ne _ _ same, get_set_of_ne _ _ same, agree other apart]

/-- Two environments with the same variables but one, which is well written in both, are
applied alike but for the setting of this one. -/
theorem override_agreeBut {other : Environment}
    (same : ∀ name, name ≠ setting.variableName → other name = environment name)
    (written : environment.IsWellWritten setting) (rewritten : other.IsWellWritten setting)
    (order : List Setting) {a b : Settings} (agree : AgreeBut setting a b) :
    (override other order a).2 = (override environment order b).2 ∧
      AgreeBut setting (override other order a).1 (override environment order b).1 := by
  induction order generalizing a b with
  | nil => exact ⟨rfl, agree⟩
  | cons head rest ih =>
      by_cases own : head = setting
      · subst own
        obtain ⟨nextA, appliesA⟩ := exists_applies rewritten a
        obtain ⟨nextB, appliesB⟩ := exists_applies written b
        rw [appliesA.goesOn, appliesB.goesOn]
        refine ih fun other apart => ?_
        rw [appliesA.keeps other apart, appliesB.keeps other apart, agree other apart]
      · have alike := same head.variableName fun shared =>
          own (Setting.variableName_injective shared)
        cases found : environment head.variableName with
        | none =>
            simp only [override, alike, found]
            exact ih agree
        | some text =>
            cases read : head.kind.ofText text with
            | ok value =>
                simp only [override, alike, found, read]
                exact ih (agree.set head value)
            | error reason =>
                simp only [override, alike, found, read, true_and]
                exact agree

theorem override_congr {other : Environment} {order : List Setting}
    (same : ∀ setting ∈ order, other setting.variableName = environment setting.variableName)
    (before : Settings) : override other order before = override environment order before := by
  induction order generalizing before with
  | nil => rfl
  | cons head rest ih =>
      obtain ⟨first, later⟩ := List.forall_mem_cons.mp same
      simp only [override, first, ih later]

/-! ## Once more -/

theorem override_append_of_follow {early : List Setting}
    (follow : ∀ setting ∈ early, Follows environment before after setting)
    (rest : List Setting) :
    override environment (early ++ rest) after = override environment rest after := by
  induction early with
  | nil => rfl
  | cons head more ih =>
      obtain ⟨first, later⟩ := List.forall_mem_cons.mp follow
      rw [List.cons_append, override_cons_of_follows first, ih later]

theorem Course.again {order : List Setting} {result : Settings × Option SettingsFault}
    (course : Course environment order before result) :
    override environment order result.1 = result := by
  cases course with
  | accepted follow =>
      have done := override_append_of_follow follow []
      rwa [List.append_nil, override] at done
  | refused split follow found undenoted blamed =>
      rw [split, override_append_of_follow follow]
      simp only [override, found, blamed]

/-! ## A single variable -/

theorem Follows.get_eq {other : Settings} (follows : Follows environment before after setting)
    (also : Follows environment before other setting) : after.get setting = other.get setting := by
  rw [Follows] at follows also
  split at follows
  · next absent =>
      rw [absent] at also
      exact follows.trans also.symm
  · next text found =>
      rw [found] at also
      exact follows.unique also

/-- The settings that follow an environment are what comes of applying it. -/
theorem applyOverrides_of_follow
    (follow : ∀ setting, Follows environment before after setting) :
    before.applyOverrides environment = (after, none) := by
  have run : Course environment Setting.all before (before.applyOverrides environment) :=
    course Setting.nodup_all before
  generalize before.applyOverrides environment = result at run
  cases run with
  | accepted applied =>
      congr
      ext setting
      exact (applied setting setting.mem_all).get_eq (follow setting)
  | refused _ _ found undenoted =>
      obtain ⟨value, denoted⟩ := (follow _).isWellWritten _ found
      exact absurd denoted (undenoted value)

/-- The environment with one variable, that of a setting. -/
def onlyVariable (setting : Setting) (text : String) : Environment := fun name =>
  if name = setting.variableName then some text else none

theorem applyOverrides_onlyVariable {text : String} {value : setting.Value}
    (denoted : setting.Denotes text value) (settings : Settings) :
    settings.applyOverrides (onlyVariable setting text) = (settings.set setting value, none) := by
  refine applyOverrides_of_follow fun other => ?_
  by_cases same : setting = other
  · subst same
    rw [Follows, onlyVariable, if_pos rfl, get_set_self]
    exact denoted
  · have apart : other.variableName ≠ setting.variableName := fun shared =>
      same (Setting.variableName_injective shared).symm
    rw [Follows, onlyVariable, if_neg apart]
    exact get_set_of_ne _ _ same

/-! ## What an environment does -/

/-- What the variables of an environment do to settings: they are applied if all of them are
well written, and else those in front of the first that is not. A variable that is well
written has an effect on its setting only, other variables than those of the settings have
none, and the same variables have none a second time. -/
structure IsOverriddenBy (settings : Settings) (environment : Environment) : Prop where
  accepted_iff : (settings.applyOverrides environment).2 = none ↔
    ∀ setting, environment.IsWellWritten setting
  course : Course environment Setting.all settings (settings.applyOverrides environment)
  frame : ∀ (setting : Setting) (other : Environment),
    (∀ name, name ≠ setting.variableName → other name = environment name) →
      environment.IsWellWritten setting → other.IsWellWritten setting →
        (settings.applyOverrides other).2 = (settings.applyOverrides environment).2 ∧
          AgreeBut setting (settings.applyOverrides other).1 (settings.applyOverrides environment).1
  unrelated : ∀ other : Environment,
    (∀ setting : Setting, other setting.variableName = environment setting.variableName) →
      settings.applyOverrides other = settings.applyOverrides environment
  again : (settings.applyOverrides environment).1.applyOverrides environment =
    settings.applyOverrides environment

/-- Every setting has a variable of its own, and all variables are applied as they should,
whatever the settings were before. -/
theorem isOverriddenBy_environment :
    (∀ a b : Setting, a.variableName = b.variableName → a = b) ∧
      ∀ (settings : Settings) (environment : Environment),
        settings.IsOverriddenBy environment := by
  refine ⟨fun _ _ => Setting.variableName_injective, fun settings environment => ?_⟩
  have run : Course environment Setting.all settings (settings.applyOverrides environment) :=
    course Setting.nodup_all settings
  exact {
    accepted_iff := run.accepted_iff.trans
      ⟨fun written setting => written setting setting.mem_all,
        fun written setting _ => written setting⟩
    course := run
    frame := fun setting other same written rewritten =>
      override_agreeBut same written rewritten Setting.all fun _ _ => rfl
    unrelated := fun other same => override_congr (fun setting _ => same setting) settings
    again := run.again }

end Settings

end Gatehouse
