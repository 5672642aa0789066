/-
**A header of limits in several lines.**

A server may send its limits in several headers of the same name, which the client joins with
commas. That makes no difference: at one time, a joined header does what its lines do one after
another. To read a header once more at the same time does nothing, since each category already has
the instant of its last entry.

* `Limits.writeAll_writeAll`: the same writes a second time change nothing.
* `Limits.afterHeader_join`: a joined header against its lines.
* `Limits.header_acts_by_lines`: the same for a whole response.
-/
import Courier.Proofs.HeaderEntries
import Courier.Proofs.HeaderNames
import Courier.Proofs.LimitHistory
namespace Courier

/-! ### Setting keys in another order -/

namespace Keyed

variable {κ α : Type} [DecidableEq κ]

theorem put_put (key : κ) (first second : α) (entries : Keyed κ α) :
    put key second (put key first entries) = put key second entries := by
  induction entries with
  | nil => simp [put]
  | cons entry rest ih =>
    by_cases same : entry.1 = key
    · simp [put, same]
    · simp [put, same, ih]

/-- A key that is present can be set before or after another one. -/
theorem put_comm {key other : κ} (differ : key ≠ other) (value content : α)
    {entries : Keyed κ α} (present : (get? key entries).isSome) :
    put key value (put other content entries) = put other content (put key value entries) := by
  induction entries with
  | nil => cases present
  | cons entry rest ih =>
    obtain ⟨first, before⟩ := entry
    unfold get? at present
    by_cases own : first = key
    · subst own
      simp [put, differ]
    · rw [if_neg own] at present
      by_cases same : first = other
      · subst same
        simp [put, own]
      · simp [put, own, same, ih present]

end Keyed

namespace Limits

section Writes

variable {τ : Type} {category other : Category} {limits : Limits τ}

theorem write_write (category : Category) (first second : τ) (limits : Limits τ) :
    (limits.write category first).write category second = limits.write category second :=
  congrArg Limits.mk (Keyed.put_put ..)

theorem write_comm (differ : category ≠ other) (first second : τ)
    (present : (limits.reset? category).isSome) :
    (limits.write other second).write category first =
      (limits.write category first).write other second :=
  congrArg Limits.mk (Keyed.put_comm differ first second present)

theorem isSome_reset?_write (first : τ) (present : (limits.reset? category).isSome) :
    ((limits.write other first).reset? category).isSome := by
  rw [reset?_write]
  split
  · rfl
  · exact present

/-- A category that is written has an instant afterwards. -/
theorem isSome_reset?_writeAll {writes : List (Category × τ)} {write : Category × τ}
    (listed : write ∈ writes) (limits : Limits τ) :
    ((limits.writeAll writes).reset? write.1).isSome := by
  induction writes using List.reverseRecOn with
  | nil => cases listed
  | append_singleton writes last ih =>
    rw [writeAll_append]
    show (((limits.writeAll writes).write last.1 last.2).reset? write.1).isSome
    rcases List.mem_append.mp listed with before | now
    · exact isSome_reset?_write last.2 (ih before)
    · rw [List.mem_singleton.mp now, reset?_write, if_pos rfl]
      rfl

/-- Where every category that is written has an instant already, a write does not count if the same
category is written at the end. -/
theorem write_writeAll_write {writes : List (Category × τ)}
    (present : ∀ write ∈ writes, (limits.reset? write.1).isSome) (first last : τ) :
    ((limits.write category first).writeAll writes).write category last =
      (limits.writeAll writes).write category last := by
  induction writes generalizing limits first with
  | nil => exact write_write ..
  | cons write rest ih =>
    obtain ⟨here, others⟩ := List.forall_mem_cons.mp present
    have later : ∀ other ∈ rest, ((limits.write write.1 write.2).reset? other.1).isSome :=
      fun other member => isSome_reset?_write write.2 (others other member)
    show (((limits.write category first).write write.1 write.2).writeAll rest).write category last =
      ((limits.write write.1 write.2).writeAll rest).write category last
    by_cases same : write.1 = category
    · rw [same, write_write]
    · rw [write_comm same write.2 first here, ih later]

/-- **The same writes a second time** change nothing. -/
theorem writeAll_writeAll (writes : List (Category × τ)) (limits : Limits τ) :
    (limits.writeAll writes).writeAll writes = limits.writeAll writes := by
  -- The last write comes again at the very end, so what it did the first time does not count.
  induction writes using List.reverseRecOn with
  | nil => rfl
  | append_singleton writes last ih =>
    have whole : limits.writeAll (writes ++ [last]) =
        (limits.writeAll writes).write last.1 last.2 := writeAll_append ..
    rw [whole, writeAll_append]
    show (((limits.writeAll writes).write last.1 last.2).writeAll writes).write last.1 last.2 =
      (limits.writeAll writes).write last.1 last.2
    rw [write_writeAll_write fun write listed => isSome_reset?_writeAll listed limits, ih]

end Writes

/-! ### Lines -/

section

variable {τ : Type} [TimeScale τ]

/-- An entry does the same with other blanks around it. -/
theorem enter_of_strip {first second : Text} (same : first.strip = second.strip) (now : τ)
    (limits : Limits τ) :
    enter now limits (Entry.ofText first) = enter now limits (Entry.ofText second) := by
  unfold Entry.ofText
  rw [same]
  simp only
  split <;> rfl

/-- A blank before a header does nothing. -/
theorem afterHeader_blank (now : τ) (header : Text) (limits : Limits τ) :
    limits.afterHeader now (CodePoint.ofChar ' ' :: header) = limits.afterHeader now header := by
  have other : CodePoint.ofChar ' ' ≠ CodePoint.ofChar ',' := by decide
  obtain ⟨piece, pieces, split, longer⟩ := Text.splitOn_cons other header
  have blank : Text.strip (CodePoint.ofChar ' ' :: piece) = Text.strip piece := by
    unfold Text.strip Text.trim Text.trimLeft
    rw [List.dropWhile_cons_of_pos (by decide)]
  unfold afterHeader entries
  rw [longer, split, List.map_cons, List.map_cons, List.foldl_cons, List.foldl_cons,
    enter_of_strip blank]

/-- Two headers joined as the client joins them act like one after the other. -/
theorem afterHeader_comma (now : τ) (first second : Text) (limits : Limits τ) :
    limits.afterHeader now (first ++ ", " ++ second) =
      (limits.afterHeader now first).afterHeader now second := by
  have shape : first ++ ", " ++ second =
      first ++ CodePoint.ofChar ',' :: CodePoint.ofChar ' ' :: second := by
    rw [List.append_assoc]
    rfl
  rw [shape, afterHeader_append, afterHeader_blank]

/-- **A joined header** does what its lines do, one after another. -/
theorem afterHeader_join (now : τ) {lines : List Text} (some : lines ≠ []) (limits : Limits τ) :
    limits.afterHeader now (Text.join ", " lines) =
      lines.foldl (fun limits line => limits.afterHeader now line) limits := by
  induction lines generalizing limits with
  | nil => exact absurd rfl some
  | cons line rest ih =>
    cases rest with
    | nil => rfl
    | cons next others =>
      show limits.afterHeader now (line ++ ", " ++ Text.join ", " (next :: others)) = _
      rw [afterHeader_comma, ih (List.cons_ne_nil _ _)]
      rfl

/-- A header that is read again at the same time does nothing. -/
theorem afterHeader_afterHeader (now : τ) (header : Text) (limits : Limits τ) :
    (limits.afterHeader now header).afterHeader now header = limits.afterHeader now header := by
  simp only [afterHeader_eq_writeAll]
  exact writeAll_writeAll ..

/-! ### Responses -/

/-- The name of the header is plain, and in small letters. -/
theorem limitsHeader_plain : Signal.limitsHeader.IsPlainName ∧
    Signal.limitsHeader.toLower = Signal.limitsHeader := by
  have plain : ∀ c ∈ Signal.limitsHeader, c.val < 0x80 ∧ c.val ≠ 0x6B := by decide
  exact ⟨plain, by decide +kernel⟩

/-- A response that limits categories says what its lines say, joined. -/
theorem signal_of_lines {response : Response} (some : response.lines Signal.limitsHeader ≠ []) :
    response.signal = .limits (Text.join ", " (response.lines Signal.limitsHeader)) := by
  refine Signal.ofResponse_limits ?_
  rw [Response.value?_fields limitsHeader_plain.1 limitsHeader_plain.2, if_neg some]

/-- How limits read headers, at one time. -/
structure ReadsByLines (now : τ) (limits : Limits τ) : Prop where
  /-- Two headers that are joined act like one after the other. -/
  joined : ∀ first second : Text, limits.afterHeader now (first ++ ", " ++ second) =
    (limits.afterHeader now first).afterHeader now second
  /-- A response that has the header in any number of lines acts like its lines, in order. -/
  lines : ∀ (response : Response) (wall : Int), response.lines Signal.limitsHeader ≠ [] →
    limits.apply now wall response.signal =
      .ok ((response.lines Signal.limitsHeader).foldl
        (fun limits line => limits.afterHeader now line) limits)
  /-- The same header a second time does nothing. -/
  again : ∀ header : Text,
    (limits.afterHeader now header).afterHeader now header = limits.afterHeader now header

/-- **A header acts by its lines**, whatever they are and whatever was limited before: the tables
are the same, to the order of their categories. -/
theorem header_acts_by_lines (now : τ) (limits : Limits τ) : ReadsByLines now limits where
  joined first second := afterHeader_comma now first second limits
  lines response wall some := by
    rw [signal_of_lines some]
    exact congrArg Except.ok (afterHeader_join now some limits)
  again header := afterHeader_afterHeader now header limits

/-- Lines are told apart from other headers in any letter case of the name. -/
example :
    let header (name value : Text) := (name.flatMap CodePoint.utf8, value.flatMap CodePoint.utf8)
    Response.lines Signal.limitsHeader ⟨200, [header "X-Sentry-Rate-Limits" "60:error",
        header "Server" "", header "x-SENTRY-rate-limits" "5"], [], none⟩ = ["60:error", "5"] := by
  decide +kernel

end

end Limits

end Courier
