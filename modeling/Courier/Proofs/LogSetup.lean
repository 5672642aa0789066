/-
**Setting up the log again and again.**

A name of a level counts in any letter case, and a name that is none means the usual level. Two
names stand for forms of lines instead. Settings with one of these are refused, and then nothing is
changed: the level is the first thing that is set. Whatever handlers there are and however often the
log is set up, it is as the last settings that were not refused ask for, as if they had been the
only ones.

* `Log.Setup.levelOf_of_isLevelName`, `Log.Setup.levelOf_eq_error_iff`: the levels that names mean,
  and the names that are refused.
* `Log.Setup.quieten_setUpAll`: what calls leave of the levels of single loggers.
* `Log.Setup.last_settings_count`: what any calls leave.
-/
import Courier.Log.Setup
import Courier.Proofs.HeaderLines
namespace Courier

/-! ### Letter case -/

namespace CodePoint

/-- A code point without case is told by its small letter, and so is an ASCII capital. -/
theorem toAsciiUpper?_of_toAsciiLower {c d : CodePoint} (ascii : d.val < 0x61)
    (same : c.toAsciiLower = d.toAsciiLower) : c.toAsciiUpper? = some [d] := by
  have values := congrArg val same
  rw [toAsciiLower_val, toAsciiLower_val] at values
  have plain : c.isAscii = true := by
    simp only [isAscii, decide_eq_true_eq]
    split at values <;> split at values <;> omega
  unfold toAsciiUpper?
  rw [if_pos plain]
  congr 2
  split
  case isTrue small =>
    apply ext_val
    show c.val - 0x20 = d.val
    split at values <;> split at values <;> omega
  case isFalse other =>
    apply ext_val
    split at values <;> split at values <;> omega

end CodePoint

/-- A name in capitals is found in any text that is the same up to the case of ASCII letters. -/
theorem Text.toAsciiUpper?_of_toAsciiLower {t name : Text} (capital : ∀ c ∈ name, c.val < 0x61)
    (same : t.toAsciiLower = name.toAsciiLower) : t.toAsciiUpper? = some name := by
  unfold toAsciiLower at same
  unfold toAsciiUpper?
  induction t generalizing name with
  | nil =>
    cases name with
    | nil => rfl
    | cons d others => cases same
  | cons c rest ih =>
    cases name with
    | nil => cases same
    | cons d others =>
      rw [List.map_cons, List.map_cons, List.cons.injEq] at same
      obtain ⟨first, later⟩ := List.forall_mem_cons.mp capital
      obtain ⟨pieces, read, joined⟩ := Option.map_eq_some_iff.mp (ih later same.2)
      rw [List.mapM_cons, CodePoint.toAsciiUpper?_of_toAsciiLower first same.1, read]
      show some ([d] :: pieces).flatten = _
      rw [List.flatten_cons, joined, List.singleton_append]

namespace Log.Setup

/-! ### Levels -/

/-- The level that a name means: that of a level with this name in some letter case, or else the
usual one. -/
inductive Means (name : Text) : Int → Prop
  | named {spelled : Text} {level : Int} (listed : (spelled, level) ∈ namedLevels)
    (same : name.toAsciiUpper? = some spelled) : Means name level
  | unnamed (other : ∀ entry ∈ namedLevels, name.toAsciiUpper? ≠ some entry.1) :
    Means name usualLevel

/-- What stands for a form of lines, and why that is no level. -/
def forms : List (Text × LevelFault) :=
  [(formName, .unknown formText), (formsName, .unusable formsText)]

/-- The name stands, in some letter case, for a form of lines, which is no level for this reason. -/
def StandsForForm (name : Text) (fault : LevelFault) : Prop :=
  ∃ entry ∈ forms, name.toAsciiUpper? = some entry.1 ∧ fault = entry.2

/-- The name stands for no form of lines. -/
def IsLevelName (name : Text) : Prop :=
  ∀ entry ∈ forms, name.toAsciiUpper? ≠ some entry.1

instance (name : Text) : Decidable (IsLevelName name) :=
  inferInstanceAs (Decidable (∀ entry ∈ forms, _))

theorem not_isLevelName_iff {name : Text} :
    ¬ IsLevelName name ↔ ∃ fault, StandsForForm name fault := by
  unfold IsLevelName StandsForForm
  constructor
  · intro other
    simp only [not_forall, not_not] at other
    obtain ⟨entry, listed, same⟩ := other
    exact ⟨entry.2, entry, listed, same, rfl⟩
  · rintro ⟨fault, entry, listed, same, -⟩ other
    exact other entry listed same

theorem lookup_eq_some_iff {name : Text} {level : Int} :
    namedLevels.lookup name = some level ↔ (name, level) ∈ namedLevels := by
  constructor
  · intro found
    obtain ⟨before, after, shape, -⟩ := List.lookup_eq_some_iff.mp found
    rw [shape]
    exact List.mem_append_right _ List.mem_cons_self
  · intro listed
    have each : ∀ entry ∈ namedLevels, namedLevels.lookup entry.1 = some entry.2 := by decide
    exact each (name, level) listed

theorem levelOf_of_isLevelName {name : Text} (plain : IsLevelName name) :
    ∃ level, levelOf name = .ok level ∧ Means name level := by
  obtain ⟨form, others⟩ := List.forall_mem_cons.mp plain
  obtain ⟨table, -⟩ := List.forall_mem_cons.mp others
  unfold levelOf
  cases upper : name.toAsciiUpper? with
  | none => exact ⟨_, rfl, .unnamed fun entry _ => by rw [upper]; nofun⟩
  | some spelled =>
    rw [upper] at form table
    -- The two names that stand for forms are looked for before the levels.
    simp only [if_neg (fun same => form (congrArg some same)),
      if_neg (fun same => table (congrArg some same))]
    cases found : namedLevels.lookup spelled with
    | some level => exact ⟨level, rfl, .named (lookup_eq_some_iff.mp found) upper⟩
    | none =>
      refine ⟨usualLevel, rfl, .unnamed fun entry listed same => ?_⟩
      rw [upper, Option.some.injEq] at same
      rw [same, lookup_eq_some_iff.mpr listed] at found
      cases found

theorem levelOf_of_standsForForm {name : Text} {fault : LevelFault}
    (stands : StandsForForm name fault) : levelOf name = .error fault := by
  obtain ⟨entry, listed, upper, rfl⟩ := stands
  unfold levelOf
  rw [upper]
  rcases List.mem_cons.mp listed with rfl | last
  · rfl
  · obtain rfl := List.mem_singleton.mp last
    rfl

/-- Exactly the names of forms are refused. -/
theorem levelOf_eq_error_iff {name : Text} {fault : LevelFault} :
    levelOf name = .error fault ↔ StandsForForm name fault := by
  refine ⟨fun refused => ?_, levelOf_of_standsForForm⟩
  by_cases plain : IsLevelName name
  · obtain ⟨level, means, -⟩ := levelOf_of_isLevelName plain
    rw [means] at refused
    cases refused
  · obtain ⟨other, stands⟩ := not_isLevelName_iff.mp plain
    rw [levelOf_of_standsForForm stands, Except.error.injEq] at refused
    exact refused ▸ stands

/-- A name means one level. -/
theorem Means.unique {name : Text} {first second : Int} (left : Means name first)
    (right : Means name second) : first = second := by
  cases left with
  | named listed same =>
    cases right with
    | named listed' same' =>
      rw [same, Option.some.injEq] at same'
      subst same'
      exact Option.some.inj
        ((lookup_eq_some_iff.mpr listed).symm.trans (lookup_eq_some_iff.mpr listed'))
    | unnamed other => exact absurd same (other _ listed)
  | unnamed other =>
    cases right with
    | named listed same => exact absurd same (other _ listed)
    | unnamed _ => rfl

/-- The letters of a level's name may be capital or small. -/
theorem Means.of_toAsciiLower {name spelled : Text} {level : Int}
    (listed : (spelled, level) ∈ namedLevels)
    (same : name.toAsciiLower = spelled.toAsciiLower) : Means name level := by
  have capital : ∀ entry ∈ namedLevels, ∀ c ∈ entry.1, c.val < 0x61 := by decide
  exact .named listed (Text.toAsciiUpper?_of_toAsciiLower (capital _ listed) same)

/-! ### Calls -/

section

variable {settings : Settings} {before : Configuration}

/-- A call that is refused changes nothing. -/
theorem setUp_of_standsForForm {fault : LevelFault}
    (stands : StandsForForm settings.logLevel fault) (before : Configuration) :
    setUp settings before = ⟨before, some fault⟩ := by
  unfold setUp
  rw [levelOf_of_standsForForm stands]

theorem setUp_of_isLevelName (plain : IsLevelName settings.logLevel) (before : Configuration) :
    ∃ level, Means settings.logLevel level ∧ setUp settings before =
      ⟨⟨level, [.lines level settings.logJson], quieten before.loggers⟩, none⟩ := by
  obtain ⟨level, means, meant⟩ := levelOf_of_isLevelName plain
  exact ⟨level, meant, setUp_of_level means before⟩

theorem refused_iff (fault : LevelFault) :
    (setUp settings before).refused = some fault ↔ StandsForForm settings.logLevel fault := by
  by_cases plain : IsLevelName settings.logLevel
  · obtain ⟨level, -, after⟩ := setUp_of_isLevelName plain before
    rw [after]
    refine iff_of_false nofun fun stands => ?_
    exact not_isLevelName_iff.mpr ⟨fault, stands⟩ plain
  · obtain ⟨other, stands⟩ := not_isLevelName_iff.mp plain
    rw [setUp_of_standsForForm stands, ← levelOf_eq_error_iff, levelOf_of_standsForForm stands,
      Except.error.injEq]
    exact Option.some_inj

/-- Loggers that are kept quiet stay as they are if they are kept quiet again. -/
theorem quieten_quieten (loggers : Keyed Text Int) :
    quieten (quieten loggers) = quieten loggers := by
  have other : ("httpx" : Text) ≠ "httpcore" := by decide
  have present :
      (Keyed.get? ("httpx" : Text) (Keyed.put ("httpx" : Text) quietLevel loggers)).isSome := by
    rw [Keyed.get?_put_same]
    rfl
  unfold quieten
  -- The second writes meet keys that are there, so they change no places.
  rw [Keyed.put_comm other quietLevel quietLevel present, Keyed.put_put, Keyed.put_put]

/-- The configuration after several calls, refused or not. -/
def setUpAll (calls : List Settings) (before : Configuration) : Configuration :=
  calls.foldl (fun configuration settings => (setUp settings configuration).configuration) before

theorem setUpAll_append (first second : List Settings) (before : Configuration) :
    setUpAll (first ++ second) before = setUpAll second (setUpAll first before) :=
  List.foldl_append

/-- One call touches the levels of no loggers but those that it keeps quiet. -/
theorem quieten_setUp (settings : Settings) (before : Configuration) :
    quieten (setUp settings before).configuration.loggers = quieten before.loggers := by
  by_cases plain : IsLevelName settings.logLevel
  · obtain ⟨level, -, after⟩ := setUp_of_isLevelName plain before
    rw [after]
    exact quieten_quieten _
  · obtain ⟨fault, stands⟩ := not_isLevelName_iff.mp plain
    rw [setUp_of_standsForForm stands]

theorem quieten_setUpAll (calls : List Settings) (before : Configuration) :
    quieten (setUpAll calls before).loggers = quieten before.loggers := by
  -- Kept from call to call is not what the levels are, but what they are once the client is quiet.
  induction calls generalizing before with
  | nil => rfl
  | cons settings rest ih => exact (ih _).trans (quieten_setUp settings before)

/-- Calls that are refused leave no trace. -/
theorem setUpAll_of_refused {calls : List Settings}
    (refused : ∀ settings ∈ calls, ¬ IsLevelName settings.logLevel) (before : Configuration) :
    setUpAll calls before = before := by
  induction calls with
  | nil => rfl
  | cons settings rest ih =>
    obtain ⟨first, later⟩ := List.forall_mem_cons.mp refused
    obtain ⟨fault, stands⟩ := not_isLevelName_iff.mp first
    show setUpAll rest (setUp settings before).configuration = before
    rw [setUp_of_standsForForm stands]
    exact ih later

/-- After a call that is not refused it does not matter what went before. -/
theorem setUp_setUpAll (plain : IsLevelName settings.logLevel) (earlier : List Settings)
    (before : Configuration) :
    setUp settings (setUpAll earlier before) = setUp settings before := by
  obtain ⟨level, means, -⟩ := levelOf_of_isLevelName plain
  -- The levels of single loggers are all that a call takes over from before.
  rw [setUp_of_level means, setUp_of_level means, quieten_setUpAll]

end

/-- The log is as settings ask for, with nothing left of the handlers before. -/
structure IsAsAsked (settings : Settings) (before after : Configuration) : Prop where
  /-- The level of the root logger is the one that is named, or the usual one. -/
  level : Means settings.logLevel after.level
  /-- A level is named by the letters of its name in any case. -/
  anyCase : ∀ entry ∈ namedLevels, settings.logLevel.toAsciiLower = entry.1.toAsciiLower →
    after.level = entry.2
  /-- One handler is left: it has the same level, and writes lines of the form that is asked for. -/
  handler : after.handlers = [.lines after.level settings.logJson]
  /-- The loggers of the client are quiet. -/
  quiet : Keyed.get? ("httpx" : Text) after.loggers = some quietLevel ∧
    Keyed.get? ("httpcore" : Text) after.loggers = some quietLevel
  /-- No other logger has another level than before. -/
  spared : ∀ name : Text, name ≠ ("httpx" : Text) → name ≠ ("httpcore" : Text) →
    Keyed.get? name after.loggers = Keyed.get? name before.loggers

theorem isAsAsked_of_isLevelName {settings : Settings} (plain : IsLevelName settings.logLevel)
    (before : Configuration) : IsAsAsked settings before (setUp settings before).configuration := by
  obtain ⟨level, meant, after⟩ := setUp_of_isLevelName plain before
  rw [after]
  refine ⟨meant, fun entry listed same => ?_, rfl, ⟨?_, ?_⟩, fun name first second => ?_⟩
  · exact meant.unique (.of_toAsciiLower listed same)
  · show Keyed.get? ("httpx" : Text) (quieten before.loggers) = _
    unfold quieten
    rw [Keyed.get?_put, if_neg (by decide), Keyed.get?_put_same]
  · exact Keyed.get?_put_same _ _ _
  · show Keyed.get? name (quieten before.loggers) = _
    unfold quieten
    rw [Keyed.get?_put, if_neg second, Keyed.get?_put, if_neg first]

/-- What calls leave behind. -/
structure IsSettled (calls : List Settings) (before after : Configuration) : Prop where
  /-- A call is refused exactly if its level stands for a form of lines, whatever there is. -/
  refuses : ∀ settings ∈ calls, ∀ configuration fault,
    (setUp settings configuration).refused = some fault ↔ StandsForForm settings.logLevel fault
  /-- It then changes nothing. -/
  unchanged : ∀ settings ∈ calls, ∀ configuration, ¬ IsLevelName settings.logLevel →
    (setUp settings configuration).configuration = configuration
  /-- The last call that is not refused decides, as if it had been the only one. -/
  decided : ∀ earlier settings later, calls = earlier ++ settings :: later →
    IsLevelName settings.logLevel → (∀ other ∈ later, ¬ IsLevelName other.logLevel) →
      after = (setUp settings before).configuration ∧ IsAsAsked settings before after
  /-- If all are refused everything is as before. -/
  kept : (∀ settings ∈ calls, ¬ IsLevelName settings.logLevel) → after = before

/-- **The last settings count**, whatever handlers there were and however often the log was set up
before; but settings whose level stands for a form of lines are refused. -/
theorem last_settings_count (calls : List Settings) (before : Configuration) :
    IsSettled calls before (setUpAll calls before) where
  refuses settings _ configuration fault := refused_iff fault
  unchanged settings _ configuration other := by
    obtain ⟨fault, stands⟩ := not_isLevelName_iff.mp other
    rw [setUp_of_standsForForm stands]
  decided earlier settings later split plain refused := by
    have last : setUpAll calls before = (setUp settings before).configuration := by
      calc setUpAll calls before
          = setUpAll later (setUp settings (setUpAll earlier before)).configuration := by
            rw [split, setUpAll_append]
            rfl
        _ = (setUp settings (setUpAll earlier before)).configuration :=
            setUpAll_of_refused refused _
        _ = (setUp settings before).configuration := by rw [setUp_setUpAll plain]
    rw [last]
    exact ⟨rfl, isAsAsked_of_isLevelName plain before⟩
  kept refused := setUpAll_of_refused refused before

/-- Settings whose level stands for the usual form of a line. -/
def formed : Settings :=
  { logLevel := "basic_format" }

/-- They are refused, and the handler that was there is left. -/
theorem formed_refused : setUp formed (.initial [.foreign 1]) =
    ⟨.initial [.foreign 1], some (.unknown formText)⟩ := by
  decide +kernel

end Log.Setup

end Courier
