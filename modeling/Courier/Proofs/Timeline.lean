/-
**The timeline of a run.**

A run is told by its moves; its timeline adds to each move the session in which it was made, so that
one can speak of the moments of a run and of their order. A property of all runs is proved from the
opening session on, one move at a time (`Session.run_induction`).

* `Session.run_snoc`: a longer run is a run and one move more.
* `Session.timeline_snoc`: its timeline ends with that move.
* `Session.run_to_timeline`: its moments are those that shorter runs lead to.
* `Session.run_from_timeline`: and a run goes on from each of them.
-/
import Courier.Worker.Session
import Mathlib.Data.List.Induction
namespace Courier.Session

variable {φ ρ : Type} {submitter : Submitter φ ρ}

/-- A moment of a timeline: a session and the move that is made in it. -/
abbrev Entry (φ ρ : Type) :=
  Session φ × Move ρ

/-- The moves of a run, each with the session in which it was made. -/
def timeline (submitter : Submitter φ ρ) : List (Move ρ) → Session φ → List (Session φ × Move ρ)
  | [], _ => []
  | move :: moves, session =>
    match session.step submitter move with
    | none => []
    | some after => (session, move) :: timeline submitter moves after

theorem run_singleton (move : Move ρ) (session : Session φ) :
    run submitter [move] session = session.step submitter move := by
  rw [run]
  cases session.step submitter move <;> rfl

theorem run_snoc {moves : List (Move ρ)} {move : Move ρ} {start after : Session φ}
    (ran : run submitter (moves ++ [move]) start = some after) :
    ∃ session, run submitter moves start = some session ∧
      session.step submitter move = some after := by
  rw [run_append] at ran
  obtain ⟨session, first, last⟩ := Option.bind_eq_some_iff.mp ran
  rw [run_singleton] at last
  exact ⟨session, first, last⟩

/-- What holds of the opening session, and is kept by each move of a run, holds after every run. -/
theorem run_induction {start : Session φ} {motive : List (Move ρ) → Session φ → Prop}
    (opening : motive [] start)
    (step : ∀ moves session move after, run submitter moves start = some session →
      session.step submitter move = some after → motive moves session →
      motive (moves ++ [move]) after)
    (moves : List (Move ρ)) (session : Session φ)
    (ran : run submitter moves start = some session) : motive moves session := by
  induction moves using List.reverseRecOn generalizing session with
  | nil =>
    cases ran
    exact opening
  | append_singleton moves move ih =>
    obtain ⟨before, earlier, moved⟩ := run_snoc ran
    exact step moves before move session earlier moved (ih before earlier)

theorem timeline_snoc {moves : List (Move ρ)} {move : Move ρ} {start session after : Session φ}
    (ran : run submitter moves start = some session)
    (moved : session.step submitter move = some after) :
    timeline submitter (moves ++ [move]) start =
      timeline submitter moves start ++ [(session, move)] := by
  induction moves generalizing start with
  | nil =>
    cases ran
    simp only [List.nil_append, timeline, moved]
  | cons first rest ih =>
    obtain ⟨next, stepped, later⟩ := Option.bind_eq_some_iff.mp ran
    simp only [List.cons_append, timeline, stepped]
    rw [ih later]

/-- Every moment of a shorter run is one of the longer run, and in the same order. -/
theorem timeline_sublist {moves : List (Move ρ)} {move : Move ρ} {start session after : Session φ}
    (ran : run submitter moves start = some session)
    (moved : session.step submitter move = some after) :
    (timeline submitter moves start).Sublist (timeline submitter (moves ++ [move]) start) := by
  rw [timeline_snoc ran moved]
  exact List.sublist_append_left _ _

/-- Each moment of a run is what a first part of the run leads to. -/
theorem run_to_timeline {moves : List (Move ρ)} {start moment : Session φ} {move : Move ρ}
    {before after : List (Entry φ ρ)}
    (split : timeline submitter moves start = before ++ (moment, move) :: after) :
    ∃ first rest, moves = first ++ move :: rest ∧ run submitter first start = some moment ∧
      timeline submitter first start = before := by
  induction moves generalizing start before with
  | nil =>
    have empty : ([] : List (Entry φ ρ)) = before ++ (moment, move) :: after := split
    simp at empty
  | cons head tail ih =>
    unfold timeline at split
    split at split
    · simp at split
    · rename_i next stepped
      cases before with
      | nil =>
        cases split
        exact ⟨[], tail, rfl, rfl, rfl⟩
      | cons entry others =>
        obtain ⟨same, told⟩ := List.cons.inj split
        obtain ⟨first, rest, parts, ran, moments⟩ := ih told
        refine ⟨head :: first, rest, ?_, ?_, ?_⟩
        · rw [parts, List.cons_append]
        · rw [run, stepped, Option.bind_some]
          exact ran
        · simp only [timeline, stepped]
          rw [moments, same]

theorem run_of_timeline {moves : List (Move ρ)} {start moment : Session φ} {move : Move ρ}
    (made : (moment, move) ∈ timeline submitter moves start) :
    ∃ before rest, moves = before ++ move :: rest ∧ run submitter before start = some moment := by
  obtain ⟨before, after, split⟩ := List.append_of_mem made
  obtain ⟨first, rest, parts, ran, -⟩ := run_to_timeline split
  exact ⟨first, rest, parts, ran⟩

/-- A run goes on from each of its moments. -/
theorem run_from_timeline {moves : List (Move ρ)} {start session moment : Session φ} {move : Move ρ}
    {before after : List (Entry φ ρ)} (ran : run submitter moves start = some session)
    (split : timeline submitter moves start = before ++ (moment, move) :: after) :
    ∃ next rest, moment.step submitter move = some next ∧
      run submitter rest next = some session ∧ timeline submitter rest next = after := by
  induction moves generalizing start before with
  | nil =>
    have empty : ([] : List (Entry φ ρ)) = before ++ (moment, move) :: after := split
    simp at empty
  | cons first rest ih =>
    obtain ⟨next, stepped, later⟩ := Option.bind_eq_some_iff.mp ran
    have told : (start, first) :: timeline submitter rest next =
        before ++ (moment, move) :: after := by
      rw [← split]
      simp only [timeline, stepped]
    cases before with
    | nil =>
      cases told
      exact ⟨next, rest, stepped, later, rfl⟩
    | cons entry others =>
      obtain ⟨-, tail⟩ := List.cons.inj told
      exact ih later tail

end Courier.Session
