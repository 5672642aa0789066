/-
**The check of the settings.**

Settings pass the check if nothing is wrong with them, and otherwise the program ends with a text
that has one line for each thing that is wrong, in the order of the settings. A timeout that is no
number compares with nothing, so it is never wrong. And a fault of the data source name that is no
verdict on it goes through the check unlisted.

* `Binary64.le_zero_iff`, `Binary64.lt_zero_iff`: what the comparisons of a timeout refuse.
* `Settings.mem_problems_iff`: what is listed is what is wrong.
* `Settings.check_lists`: when settings pass, and what is listed if they do not.
-/
import Courier.Proofs.ClockOrder
import Courier.Proofs.DsnFaults
import Courier.Proofs.JsonTokens
import Courier.Proofs.Results
namespace Courier

namespace Binary64

/-! ### Timeouts -/

theorem le_iff_not_lt {x y : Binary64} (left : x ≠ nan) (right : y ≠ nan) : x ≤ y ↔ ¬ y < x := by
  rw [le_iff, lt_iff]
  simp only [left, right, ne_eq, not_false_eq_true, true_and]
  omega

theorem zero_ne_nan : (0 : Binary64) ≠ nan := by
  rw [zero_eq]
  exact nofun

/-- What is no number is refused by no comparison; anything else is, unless it is positive. -/
theorem le_zero_iff (x : Binary64) : x ≤ 0 ↔ x ≠ nan ∧ ¬ 0 < x := by
  by_cases number : x = nan
  · rw [number, le_iff]
    simp
  · rw [le_iff_not_lt number zero_ne_nan]
    simp [number]

theorem lt_zero_iff (x : Binary64) : x < 0 ↔ x ≠ nan ∧ ¬ 0 ≤ x := by
  by_cases number : x = nan
  · rw [number, lt_iff]
    simp
  · rw [le_iff_not_lt zero_ne_nan number]
    simp [number]

end Binary64

namespace Text

/-! ### Messages on one line -/

/-- No hexadecimal digit is a control character. -/
theorem visible_toDigits (n : Nat) : ∀ c ∈ Nat.toDigits 16 n, 0x20 ≤ c.toNat := by
  induction n using Nat.strongRecOn with
  | ind n ih =>
    rw [Nat.toDigits_eq_if (by decide)]
    split
    · rename_i small
      exact List.forall_mem_singleton.mpr (Json.digitChar_val_ge small)
    · rename_i large
      refine List.forall_mem_append.mpr ⟨ih (n / 16) (by omega), ?_⟩
      exact List.forall_mem_singleton.mpr (Json.digitChar_val_ge (Nat.mod_lt n (by decide)))

theorem visible_ofHex (width n : Nat) : ∀ c ∈ ofHex width n, 0x20 ≤ c.val := by
  intro c member
  rcases List.mem_append.mp member with fill | digits
  · rw [List.eq_of_mem_replicate fill]
    decide
  · obtain ⟨d, listed, rfl⟩ := List.mem_map.mp digits
    rw [CodePoint.val_ofChar]
    exact visible_toDigits n d listed

theorem visible_byNumber (c : CodePoint) : ∀ d ∈ c.byNumber, 0x20 ≤ d.val := by
  unfold CodePoint.byNumber
  split
  · exact List.forall_mem_append.mpr ⟨by decide, visible_ofHex 2 _⟩
  split
  · exact List.forall_mem_append.mpr ⟨by decide, visible_ofHex 4 _⟩
  · exact List.forall_mem_append.mpr ⟨by decide, visible_ofHex 8 _⟩

theorem visible_quotedIn {c mark : CodePoint} (visible : 0x20 ≤ mark.val) :
    ∀ d ∈ c.quotedIn mark, 0x20 ≤ d.val := by
  unfold CodePoint.quotedIn
  split
  · rename_i marks
    simp only [Bool.or_eq_true, decide_eq_true_eq] at marks
    refine List.forall_mem_cons.mpr ⟨by decide, List.forall_mem_singleton.mpr ?_⟩
    rcases marks with rfl | rfl
    · exact visible
    · decide
  split
  · decide
  split
  · decide
  split
  · decide
  split
  · exact visible_byNumber c
  rename_i control
  split
  · simp only [Bool.or_eq_true, decide_eq_true_eq, not_or] at control
    exact List.forall_mem_singleton.mpr (Nat.not_lt.mp control.1)
  · exact visible_byNumber c

/-- A quoted text holds no control character. -/
theorem visible_quoted (t : Text) : ∀ c ∈ t.quoted, 0x20 ≤ c.val := by
  have mark : 0x20 ≤ t.quotationMark.val := by
    unfold quotationMark
    split
    · decide
    · decide
  unfold quoted
  refine List.forall_mem_append.mpr ⟨List.forall_mem_cons.mpr ⟨mark, ?_⟩,
    List.forall_mem_singleton.mpr mark⟩
  intro c member
  obtain ⟨d, -, inside⟩ := List.mem_flatMap.mp member
  exact visible_quotedIn mark c inside

end Text

/-! ### Problems -/

theorem Url.Invalid.visible_message (reason : Url.Invalid) :
    ∀ c ∈ reason.message, 0x20 ≤ c.val := by
  have digits : ∀ n, ∀ c ∈ Text.ofNat n, 0x20 ≤ c.val := by
    intro n c member
    have bounds := Json.bounds_of_isAsciiDigit (Json.ofNat_isAsciiDigit n c member)
    omega
  cases reason with
  | tooLong | pathWithoutSlash | pathWithSlashes | pathWithColon => decide
  | unprintable point position =>
    unfold message
    simp only [List.forall_mem_append]
    exact ⟨⟨⟨⟨by decide, Text.visible_quoted _⟩, by decide⟩, digits position⟩, by decide⟩
  | ipv4 host | ipv6 host | hostName host | port text =>
    exact List.forall_mem_append.mpr ⟨by decide, Text.visible_quoted _⟩

theorem Dsn.Invalid.visible_message (reason : Dsn.Invalid) :
    ∀ c ∈ reason.message, 0x20 ≤ c.val := by
  cases reason with
  | noPublicKey | noHost => decide
  | scheme name | project name =>
    exact List.forall_mem_append.mpr ⟨by decide, Text.visible_quoted _⟩
  | url value reason =>
    unfold message
    simp only [List.forall_mem_append]
    exact ⟨⟨⟨by decide, Text.visible_quoted _⟩, by decide⟩, reason.visible_message⟩

namespace Settings

/-- The line above the problems. -/
def heading : Text :=
  "Configuration errors:"

/-- The line on which a problem is listed. -/
def Problem.line (problem : Problem) : Text :=
  "  - " ++ problem.message

/-- Where the setting that a problem is about stands among the settings that are checked. -/
def Problem.place : Problem → Nat
  | noDsn | badDsn _ => 0
  | noCapacity => 1
  | noRequestTime => 2
  | negativeShutdownTime => 3

/-- What is wrong with settings. A timeout that is no number is not. -/
def Violates (settings : Settings) : Problem → Prop
  | .noDsn => settings.dsn = []
  | .badDsn reason => settings.dsn ≠ [] ∧ Dsn.parse settings.dsn = .error (.invalid reason)
  | .noCapacity => ¬ 1 ≤ settings.queueCapacity
  | .noRequestTime => settings.requestTimeout ≠ .nan ∧ ¬ 0 < settings.requestTimeout
  | .negativeShutdownTime => settings.shutdownTimeout ≠ .nan ∧ ¬ 0 ≤ settings.shutdownTimeout

/-- The data source name is missing, read or said to be none. -/
def IsJudged (settings : Settings) : Prop :=
  settings.dsn = [] ∨ Dsn.Judged (Dsn.parse settings.dsn)

theorem Problem.visible_line (problem : Problem) : ∀ c ∈ problem.line, 0x20 ≤ c.val := by
  unfold line
  refine List.forall_mem_append.mpr ⟨by decide, ?_⟩
  cases problem with
  | badDsn reason => exact List.forall_mem_append.mpr ⟨by decide, reason.visible_message⟩
  | noDsn | noCapacity | noRequestTime | negativeShutdownTime => decide

/-- The lines of the text are a heading and the lines of the problems. -/
theorem splitOn_problemsText {problems : List Problem} (some : problems ≠ []) :
    Text.splitOn '\n' (problemsText problems) = heading :: problems.map Problem.line := by
  have clean : ∀ piece ∈ heading :: problems.map Problem.line,
      CodePoint.ofChar '\n' ∉ piece := by
    refine List.forall_mem_cons.mpr ⟨by decide, ?_⟩
    intro piece listed member
    obtain ⟨problem, -, rfl⟩ := List.mem_map.mp listed
    exact absurd (problem.visible_line _ member) (by decide)
  rw [← Text.splitOn_join (List.cons_ne_nil _ _) clean]
  congr 1
  obtain ⟨first, others, rfl⟩ := List.exists_cons_of_ne_nil some
  have led := Text.join_map_append "\n" "  - "
    (List.cons_ne_nil first.message (others.map Problem.message))
  show heading ++ ("\n" ++ "  - ") ++ Text.join ("\n" ++ "  - ") _ = _
  rw [List.append_assoc, List.append_assoc, List.map_cons, led, ← List.map_cons, List.map_map]
  exact (List.append_assoc _ _ _).symm

/-- A list holds what is wrong with the settings in some places, in their order. -/
structure Lists (settings : Settings) (low high : Nat) (found : List Problem) : Prop where
  holds : ∀ problem, problem ∈ found ↔
    (low ≤ problem.place ∧ problem.place < high) ∧ settings.Violates problem
  ordered : found.Pairwise fun first second => first.place < second.place

variable {settings : Settings} {low middle high : Nat}

theorem Lists.append {first second : List Problem} (start : settings.Lists low middle first)
    (rest : settings.Lists middle high second) (lower : low ≤ middle) (upper : middle ≤ high) :
    settings.Lists low high (first ++ second) where
  holds problem := by
    rw [List.mem_append, start.holds, rest.holds, ← or_and_right]
    refine and_congr_left fun _ => ?_
    omega
  ordered := by
    refine List.pairwise_append.mpr ⟨start.ordered, rest.ordered, ?_⟩
    intro problem here later there
    have before := ((start.holds problem).mp here).1
    have after := ((rest.holds later).mp there).1
    omega

/-- One problem, alone in its place. -/
theorem Lists.single {place : Nat} {problem : Problem} {wrong : Prop} [Decidable wrong]
    (alone : ∀ other : Problem, other.place = place ↔ other = problem)
    (violates : wrong ↔ settings.Violates problem) :
    settings.Lists place (place + 1) (if wrong then [problem] else []) where
  holds other := by
    have here : place ≤ other.place ∧ other.place < place + 1 ↔ other = problem := by
      rw [← alone]
      omega
    rw [here]
    split
    · rename_i is
      rw [List.mem_singleton]
      exact ⟨fun same => ⟨same, same ▸ violates.mp is⟩, And.left⟩
    · rename_i not
      exact iff_of_false List.not_mem_nil fun ⟨same, is⟩ => not (violates.mpr (same ▸ is))
  ordered := by
    split
    · exact List.pairwise_singleton _ _
    · exact List.Pairwise.nil

theorem lists_dsnProblems {found : List Problem} (named : settings.dsnProblems = .ok found) :
    settings.Lists 0 1 found := by
  have place : ∀ problem : Problem, 0 ≤ problem.place ∧ problem.place < 1 ↔
      problem = .noDsn ∨ ∃ reason, problem = .badDsn reason := by
    intro problem
    cases problem <;> simp [Problem.place]
  unfold dsnProblems at named
  by_cases empty : settings.dsn = []
  · simp only [empty, List.isEmpty_nil, if_true, Except.ok.injEq] at named
    subst named
    refine ⟨fun problem => ?_, List.pairwise_singleton _ _⟩
    rw [place, List.mem_singleton]
    cases problem <;> simp [Violates, empty]
  · simp only [List.isEmpty_eq_false_iff.mpr empty, Bool.false_eq_true, if_false] at named
    cases read : Dsn.parse settings.dsn with
    | ok dsn =>
      simp only [read, Except.ok.injEq] at named
      subst named
      refine ⟨fun problem => ?_, List.Pairwise.nil⟩
      rw [place]
      cases problem <;> simp [Violates, empty, read]
    | error fault =>
      cases fault with
      | invalid reason =>
        simp only [read, Except.ok.injEq] at named
        subst named
        refine ⟨fun problem => ?_, List.pairwise_singleton _ _⟩
        rw [place, List.mem_singleton]
        cases problem <;> simp [Violates, empty, read, eq_comm]
      | unencodable reason =>
        rw [read] at named
        cases named
      | hostName reason =>
        rw [read] at named
        cases named

theorem lists_numberProblems (settings : Settings) :
    settings.Lists 1 4 settings.numberProblems := by
  have capacity : settings.Lists 1 2 (if settings.queueCapacity < 1 then [.noCapacity] else []) :=
    .single (fun other => by cases other <;> simp [Problem.place]) Int.not_le.symm
  have request : settings.Lists 2 3
      (if settings.requestTimeout ≤ 0 then [.noRequestTime] else []) :=
    .single (fun other => by cases other <;> simp [Problem.place]) (Binary64.le_zero_iff _)
  have shutdown : settings.Lists 3 4
      (if settings.shutdownTimeout < 0 then [.negativeShutdownTime] else []) :=
    .single (fun other => by cases other <;> simp [Problem.place]) (Binary64.lt_zero_iff _)
  exact (capacity.append request (by decide) (by decide)).append shutdown (by decide) (by decide)

/-- What is listed is what is wrong, in the order of the settings. -/
theorem lists_problems {found : List Problem} (checked : settings.problems = .ok found) :
    settings.Lists 0 4 found := by
  obtain ⟨first, named, rfl⟩ := map_eq_ok_iff.mp checked
  exact (lists_dsnProblems named).append settings.lists_numberProblems (by decide) (by decide)

theorem mem_problems_iff {found : List Problem} (checked : settings.problems = .ok found)
    (problem : Problem) : problem ∈ found ↔ settings.Violates problem := by
  rw [(lists_problems checked).holds]
  refine and_iff_right ⟨Nat.zero_le _, ?_⟩
  cases problem <;> simp [Problem.place]

theorem check_of_problems {found : List Problem} (checked : settings.problems = .ok found) :
    settings.check = if found.isEmpty then .ok () else .error (.exit (problemsText found)) := by
  unfold check
  rw [checked]

theorem check_eq_ok_iff : settings.check = .ok () ↔ settings.problems = .ok [] := by
  cases checked : settings.problems with
  | error fault =>
    unfold check
    rw [checked]
    exact iff_of_false nofun nofun
  | ok found =>
    rw [check_of_problems checked]
    cases found with
    | nil => exact iff_of_true rfl rfl
    | cons problem others => exact iff_of_false nofun nofun

theorem check_eq_exit_iff {text : Text} : settings.check = .error (.exit text) ↔
    ∃ found, settings.problems = .ok found ∧ found ≠ [] ∧ problemsText found = text := by
  cases checked : settings.problems with
  | error fault =>
    unfold check
    rw [checked]
    exact iff_of_false nofun nofun
  | ok found =>
    rw [check_of_problems checked]
    cases found with
    | nil => simp
    | cons problem others => simp

theorem check_eq_fault_iff {fault : Dsn.Fault} :
    settings.check = .error (.fault fault) ↔ settings.problems = .error fault := by
  cases checked : settings.problems with
  | error other =>
    unfold check
    rw [checked]
    simp
  | ok found =>
    rw [check_of_problems checked]
    cases found with
    | nil => exact iff_of_false nofun nofun
    | cons problem others => exact iff_of_false nofun nofun

/-- How settings are checked. -/
structure IsChecked (settings : Settings) : Prop where
  /-- They pass exactly if the data source name can be read, the queue has a place, and no timeout
  is refused; one that is no number never is. -/
  passes : settings.check = .ok () ↔
    (settings.dsn ≠ [] ∧ ∃ dsn, Dsn.parse settings.dsn = .ok dsn) ∧ 1 ≤ settings.queueCapacity ∧
      (settings.requestTimeout = .nan ∨ 0 < settings.requestTimeout) ∧
      (settings.shutdownTimeout = .nan ∨ 0 ≤ settings.shutdownTimeout)
  /-- The program ends exactly if something is wrong and the data source name is judged. -/
  exits : (∃ text, settings.check = .error (.exit text)) ↔
    settings.IsJudged ∧ ∃ problem, settings.Violates problem
  /-- Anything else is raised exactly if the data source name is not judged. -/
  stops : (∃ fault, settings.check = .error (.fault fault)) ↔ ¬ settings.IsJudged
  /-- The text has a line for each thing that is wrong, in the order of the settings. -/
  lists : ∀ text, settings.check = .error (.exit text) → ∃ violated : List Problem,
    Text.splitOn '\n' text = heading :: violated.map Problem.line ∧
      (∀ problem, problem ∈ violated ↔ settings.Violates problem) ∧
      violated.Pairwise fun first second => first.place < second.place

/-- **Every problem is listed once**, and settings without one pass. -/
theorem check_lists (settings : Settings) : settings.IsChecked where
  passes := by
    have request := Binary64.le_zero_iff settings.requestTimeout
    have shutdown := Binary64.lt_zero_iff settings.shutdownTimeout
    rw [check_eq_ok_iff, problems_eq_nil_iff, request, shutdown, not_and_not_right,
      not_and_not_right, ← or_iff_not_imp_left, ← or_iff_not_imp_left]
  exits := by
    unfold IsJudged
    rw [← Dsn.problems_isOk_iff]
    simp only [check_eq_exit_iff]
    constructor
    · rintro ⟨text, found, checked, occupied, -⟩
      obtain ⟨problem, listed⟩ := List.exists_mem_of_ne_nil found occupied
      exact ⟨⟨found, checked⟩, problem, (mem_problems_iff checked problem).mp listed⟩
    · rintro ⟨⟨found, checked⟩, problem, wrong⟩
      have listed := (mem_problems_iff checked problem).mpr wrong
      exact ⟨_, found, checked, List.ne_nil_of_mem listed, rfl⟩
  stops := by
    unfold IsJudged
    rw [← Dsn.problems_isOk_iff]
    simp only [check_eq_fault_iff]
    cases settings.problems <;> simp
  lists := by
    intro text ends
    obtain ⟨found, checked, occupied, rfl⟩ := check_eq_exit_iff.mp ends
    exact ⟨found, splitOn_problemsText occupied, mem_problems_iff checked,
      (lists_problems checked).ordered⟩

/-- A request may take no number of seconds. -/
def untimed : Settings :=
  { dsn := "https://public@ingest.example.com/42", requestTimeout := .nan }

/-- They pass although the timeout is not positive. -/
theorem untimed_passes : untimed.check = .ok () ∧ ¬ 0 < untimed.requestTimeout := by
  decide +kernel

end Settings

end Courier
