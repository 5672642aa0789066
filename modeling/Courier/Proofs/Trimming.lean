/-
**Trimming and cutting.**

Trimming only takes from the ends, and a mark that is not trimmed stays where it is. So whether a
text is trimmed before it is cut at such a mark makes no difference to its pieces, once these are
trimmed themselves.

* `Text.trimRight_cons`: trimming the end, told from the front.
* `Text.words_join`: words with single spaces between them are read back.
* `Text.map_strip_splitOn`: the pieces of a text are those of the trimmed text.
* `Text.splitOn_eq_cut`: the first piece is what stands before the first mark.
* `Text.splitOn_join`: pieces that were joined are cut apart again.
-/
import Courier.Text.Blank
import Mathlib.Data.List.DropRight
namespace Courier

namespace Text

/-! ### Trimming -/

section Trimming

variable {p : CodePoint → Bool}

/-- The end of a text reaches to its front only where nothing else is left. -/
theorem trimRight_cons (c : CodePoint) (t : Text) :
    trimRight p (c :: t) = if trimRight p t = [] ∧ p c = true then [] else c :: trimRight p t := by
  unfold trimRight
  rw [List.reverse_cons, List.dropWhile_append]
  cases rest : t.reverse.dropWhile p with
  | nil =>
    cases first : p c with
    | true => simp [first]
    | false => simp [first]
  | cons d others => simp

theorem trimLeft_trimRight (t : Text) :
    trimLeft p (trimRight p t) = trimRight p (trimLeft p t) := by
  induction t with
  | nil => rfl
  | cons c rest ih =>
    unfold trimLeft at ih ⊢
    rw [trimRight_cons]
    cases blank : p c with
    | true =>
      rw [List.dropWhile_cons_of_pos blank, ← ih]
      split
      · rename_i nothing
        rw [nothing.1]
      · exact List.dropWhile_cons_of_pos blank
    | false =>
      have solid : ¬ p c = true := by simp [blank]
      rw [List.dropWhile_cons_of_neg solid, if_neg (by simp), List.dropWhile_cons_of_neg solid,
        trimRight_cons, if_neg (by simp [blank])]

theorem trim_trim (t : Text) : trim p (trim p t) = trim p t := by
  have left : trimLeft p (trimLeft p t) = trimLeft p t := List.dropWhile_idempotent p t
  have right : ∀ u, trimRight p (trimRight p u) = trimRight p u := List.rdropWhile_idempotent p
  unfold trim
  rw [trimLeft_trimRight, left, right]

/-- What is trimmed may as well have been left out at the end. -/
theorem trimRight_append {after : Text} (trimmed : ∀ c ∈ after, p c) (t : Text) :
    trimRight p (t ++ after) = trimRight p t := by
  unfold trimRight
  rw [List.reverse_append, List.dropWhile_append_of_pos]
  exact fun c member => trimmed c (List.mem_reverse.mp member)

/-- A text that ends in what is not trimmed stays. -/
theorem trimRight_eq_self {t : Text} (last : ∀ c ∈ t.getLast?, p c = false) :
    trimRight p t = t := by
  refine List.rdropWhile_eq_self_iff.mpr fun some => ?_
  simp [last _ (List.getLast?_eq_getLast_of_ne_nil some)]

end Trimming

theorem strip_strip (t : Text) : t.strip.strip = t.strip :=
  trim_trim t

/-- A text without blanks at its ends stays. -/
theorem strip_of_ends {t : Text} (first : ∀ c ∈ t.head?, c.isBlank = false)
    (last : ∀ c ∈ t.getLast?, c.isBlank = false) : t.strip = t := by
  have left : t.trimLeft CodePoint.isBlank = t := by
    unfold trimLeft
    cases t with
    | nil => rfl
    | cons c rest => exact List.dropWhile_cons_of_neg (by simp [first c rfl])
  unfold strip trim
  rw [left]
  exact trimRight_eq_self last

/-- A text without blanks stays. -/
theorem strip_of_solid {t : Text} (solid : ∀ c ∈ t, c.isBlank = false) : t.strip = t :=
  strip_of_ends (fun c first => solid c (List.mem_of_mem_head? first))
    fun c last => solid c (List.mem_of_mem_getLast? last)

/-- Blanks around a text make no difference to what remains of it. -/
theorem strip_surrounded {before after : Text} (front : ∀ c ∈ before, c.isBlank)
    (back : ∀ c ∈ after, c.isBlank) (t : Text) : (before ++ t ++ after).strip = t.strip := by
  have left : trimLeft CodePoint.isBlank (before ++ t) = trimLeft CodePoint.isBlank t :=
    List.dropWhile_append_of_pos front
  unfold strip trim
  rw [← trimLeft_trimRight, trimRight_append back, trimLeft_trimRight, left]

/-- A text without blanks is what remains between blanks. -/
theorem strip_between {before t after : Text} (front : ∀ c ∈ before, c.isBlank)
    (back : ∀ c ∈ after, c.isBlank) (solid : ∀ c ∈ t, c.isBlank = false) :
    (before ++ t ++ after).strip = t :=
  (strip_surrounded front back t).trans (strip_of_solid solid)

/-- Trimming takes only blanks away. -/
theorem mem_strip_or_blank {t : Text} {c : CodePoint} (member : c ∈ t) :
    c ∈ t.strip ∨ c.isBlank := by
  have left : c ∈ t.trimLeft CodePoint.isBlank ∨ c.isBlank := by
    rw [← List.takeWhile_append_dropWhile (p := CodePoint.isBlank) (l := t)] at member
    rcases List.mem_append.mp member with front | rest
    · exact .inr (List.mem_takeWhile_imp front)
    · exact .inl rest
  rcases left with rest | blank
  · unfold strip trim trimRight
    rw [← List.mem_reverse, ← List.takeWhile_append_dropWhile (p := CodePoint.isBlank)
      (l := (t.trimLeft CodePoint.isBlank).reverse)] at rest
    rcases List.mem_append.mp rest with back | middle
    · exact .inr (List.mem_takeWhile_imp back)
    · exact .inl (List.mem_reverse.mpr middle)
  · exact .inr blank

theorem strip_eq_nil_iff {t : Text} : t.strip = [] ↔ ∀ c ∈ t, c.isBlank := by
  unfold strip trim
  rw [← trimLeft_trimRight]
  unfold trimLeft
  rw [List.dropWhile_eq_nil_iff]
  constructor
  · intro each
    by_contra other
    have left : t.rdropWhile CodePoint.isBlank ≠ [] := by
      rwa [ne_eq, List.rdropWhile_eq_nil_iff]
    exact List.rdropWhile_last_not _ _ left (each _ (List.getLast_mem left))
  · intro each c member
    exact each c ((List.rdropWhile_prefix _ _).subset member)

/-! ### Joining -/

theorem join_cons_cons (separator first second : Text) (others : List Text) :
    join separator (first :: second :: others) =
      first ++ separator ++ join separator (second :: others) :=
  rfl

/-- Joining one more piece puts the separator before it, unless it is the first. -/
theorem join_concat (separator piece : Text) (pieces : List Text) :
    join separator (pieces ++ [piece]) =
      if pieces = [] then piece else join separator pieces ++ separator ++ piece := by
  induction pieces with
  | nil => rfl
  | cons first rest ih =>
    cases rest with
    | nil => rfl
    | cons second others =>
      rw [if_neg (List.cons_ne_nil _ _)] at ih ⊢
      show first ++ separator ++ join separator (second :: others ++ [piece]) =
        first ++ separator ++ join separator (second :: others) ++ separator ++ piece
      rw [ih]
      simp

theorem mem_join {separator : Text} {parts : List Text} {c : CodePoint}
    (member : c ∈ join separator parts) : c ∈ separator ∨ ∃ part ∈ parts, c ∈ part := by
  induction parts with
  | nil => cases member
  | cons part rest ih =>
    cases rest with
    | nil => exact .inr ⟨part, List.mem_singleton_self _, member⟩
    | cons next others =>
      rw [join_cons_cons] at member
      rcases List.mem_append.mp member with inside | later
      · rcases List.mem_append.mp inside with first | between
        · exact .inr ⟨part, List.mem_cons_self .., first⟩
        · exact .inl between
      · rcases ih later with between | ⟨other, listed, inside⟩
        · exact .inl between
        · exact .inr ⟨other, List.mem_cons_of_mem _ listed, inside⟩

/-- All that was joined satisfies what its separator does, exactly if each part does. -/
theorem forall_mem_join_iff {p : CodePoint → Prop} {separator : Text}
    (clean : ∀ c ∈ separator, p c) (parts : List Text) :
    (∀ c ∈ join separator parts, p c) ↔ ∀ part ∈ parts, ∀ c ∈ part, p c := by
  induction parts with
  | nil => simp [join]
  | cons part others ih =>
    cases others with
    | nil => simp [join]
    | cons next more =>
      rw [join_cons_cons, List.forall_mem_append, List.forall_mem_append, ih]
      simp only [List.forall_mem_cons]
      exact and_congr_left fun _ => and_iff_left clean

/-- What stands before each piece may stand in the separator. -/
theorem join_map_append (separator lead : Text) {pieces : List Text} (some : pieces ≠ []) :
    lead ++ join (separator ++ lead) pieces = join separator (pieces.map (lead ++ ·)) := by
  induction pieces with
  | nil => exact absurd rfl some
  | cons piece others ih =>
    cases others with
    | nil => rfl
    | cons next more =>
      rw [List.map_cons, List.map_cons, join_cons_cons, join_cons_cons, ← List.map_cons,
        ← ih (List.cons_ne_nil _ _)]
      simp only [List.append_assoc]

theorem map_join (f : CodePoint → CodePoint) (separator : Text) (parts : List Text) :
    (join separator parts).map f = join (separator.map f) (parts.map (List.map f)) := by
  induction parts with
  | nil => rfl
  | cons part rest ih =>
    cases rest with
    | nil => rfl
    | cons next others =>
      rw [join_cons_cons, List.map_append, List.map_append, ih]
      rfl

/-! ### Words -/

theorem wordsFrom_append {piece : Text} (solid : ∀ c ∈ piece, c.isBlank = false)
    (word rest : Text) :
    wordsFrom word (piece ++ rest) = wordsFrom (piece.reverse ++ word) rest := by
  induction piece generalizing word with
  | nil => rfl
  | cons c others ih =>
    obtain ⟨here, later⟩ := List.forall_mem_cons.mp solid
    rw [List.cons_append, wordsFrom, if_neg (by simp [here]), ih later]
    simp

/-- A text that is not empty and holds no blanks. -/
def IsSolid (t : Text) : Prop :=
  t ≠ [] ∧ ∀ c ∈ t, c.isBlank = false

/-- Words with single spaces between them are read back. -/
theorem words_join {pieces : List Text} (solid : ∀ piece ∈ pieces, IsSolid piece) :
    words (join " " pieces) = pieces := by
  unfold words
  induction pieces with
  | nil => rfl
  | cons piece others ih =>
    obtain ⟨⟨some, clean⟩, later⟩ := List.forall_mem_cons.mp solid
    have word : ¬ (piece.reverse ++ []).isEmpty := by simpa using some
    cases others with
    | nil =>
      show wordsFrom [] piece = [piece]
      rw [← List.append_nil piece, wordsFrom_append clean, wordsFrom, if_neg word]
      simp
    | cons next more =>
      have space : CodePoint.isBlank ' ' = true := by decide
      have shape : join " " (piece :: next :: more) =
          piece ++ CodePoint.ofChar ' ' :: join " " (next :: more) := by
        rw [join_cons_cons, List.append_assoc]
        rfl
      rw [shape, wordsFrom_append clean, wordsFrom, if_pos space, if_neg word, ih later]
      simp

/-- Words that are joined neither start nor end with blanks. -/
theorem strip_join {pieces : List Text} (solid : ∀ piece ∈ pieces, IsSolid piece) :
    (join " " pieces).strip = join " " pieces := by
  refine strip_of_ends ?_ ?_
  · cases pieces with
    | nil => exact nofun
    | cons piece others =>
      obtain ⟨some, clean⟩ := solid piece List.mem_cons_self
      obtain ⟨c, rest, rfl⟩ := List.exists_cons_of_ne_nil some
      rw [join_cons_head]
      exact fun _ first => Option.some.inj first ▸ clean c List.mem_cons_self
  · rcases List.eq_nil_or_concat pieces with rfl | ⟨others, piece, rfl⟩
    · exact nofun
    · rw [List.concat_eq_append] at solid ⊢
      obtain ⟨some, clean⟩ := solid piece (List.mem_append_right _ (List.mem_singleton_self _))
      intro c last
      rw [join_concat] at last
      split at last
      · exact clean c (List.mem_of_mem_getLast? last)
      · rw [List.getLast?_append_of_ne_nil _ some] at last
        exact clean c (List.mem_of_mem_getLast? last)

/-! ### Starts -/

theorem dropStart?_append (start t : Text) : dropStart? start (start ++ t) = some t := by
  unfold dropStart?
  rw [if_pos (List.isPrefixOf_iff_prefix.mpr (List.prefix_append start t)), List.drop_left]

theorem dropStart?_eq_some {start t rest : Text} (starts : dropStart? start t = some rest) :
    t = start ++ rest := by
  unfold dropStart? at starts
  split at starts
  · rename_i front
    obtain ⟨others, rfl⟩ := List.isPrefixOf_iff_prefix.mp front
    rw [List.drop_left] at starts
    rw [Option.some.inj starts]
  · cases starts

/-! ### Cutting -/

section Cutting

variable {p : CodePoint → Bool} {mark : CodePoint}

theorem splitOn_cons_self (mark : CodePoint) (t : Text) :
    splitOn mark (mark :: t) = [] :: splitOn mark t := by
  rw [splitOn, if_pos rfl]

/-- A code point that is no mark belongs to the first piece. -/
theorem splitOn_cons {c : CodePoint} (other : c ≠ mark) (t : Text) :
    ∃ piece pieces, splitOn mark t = piece :: pieces ∧
      splitOn mark (c :: t) = (c :: piece) :: pieces := by
  obtain ⟨piece, pieces, split⟩ := List.exists_cons_of_ne_nil (splitOn_ne_nil mark t)
  refine ⟨piece, pieces, split, ?_⟩
  rw [splitOn, if_neg other, split]

/-- The pieces are the same where the front is trimmed first. -/
theorem map_trimLeft_splitOn (solid : p mark = false) (t : Text) :
    (splitOn mark (trimLeft p t)).map (trimLeft p) = (splitOn mark t).map (trimLeft p) := by
  unfold trimLeft
  induction t with
  | nil => rfl
  | cons c rest ih =>
    cases blank : p c with
    | false => rw [List.dropWhile_cons_of_neg (by simp [blank])]
    | true =>
      have other : c ≠ mark := by
        rintro rfl
        rw [solid] at blank
        cases blank
      obtain ⟨piece, pieces, split, longer⟩ := splitOn_cons other rest
      rw [List.dropWhile_cons_of_pos blank, ih, longer, split, List.map_cons, List.map_cons,
        List.dropWhile_cons_of_pos blank]

/-- The pieces are the same where the end is trimmed first. -/
theorem map_trimRight_splitOn (solid : p mark = false) (t : Text) :
    (splitOn mark (trimRight p t)).map (trimRight p) = (splitOn mark t).map (trimRight p) := by
  induction t with
  | nil => rfl
  | cons c rest ih =>
    by_cases same : c = mark
    · subst same
      rw [trimRight_cons, if_neg (by simp [solid]), splitOn_cons_self, splitOn_cons_self,
        List.map_cons, List.map_cons, ih]
    -- Where nothing but blanks is left, the whole text is one piece, and so is the trimmed one.
    obtain ⟨piece, pieces, split, longer⟩ := splitOn_cons same rest
    obtain ⟨trimmed, others, split', longer'⟩ := splitOn_cons same (trimRight p rest)
    rw [split, split', List.map_cons, List.map_cons, List.cons.injEq] at ih
    rw [trimRight_cons, longer]
    split
    · rename_i nothing
      rw [nothing.1] at split'
      cases split'
      rw [List.map_cons, trimRight_cons, ← ih.1, ← ih.2, if_pos ⟨rfl, nothing.2⟩]
      rfl
    · rw [longer', List.map_cons, List.map_cons, trimRight_cons, trimRight_cons, ih.1, ih.2]

/-- The trimmed pieces of a text are those of the trimmed text. -/
theorem map_trim_splitOn (solid : p mark = false) (t : Text) :
    (splitOn mark (trim p t)).map (trim p) = (splitOn mark t).map (trim p) := by
  have swap : trim p = trimLeft p ∘ trimRight p := funext fun u => (trimLeft_trimRight u).symm
  calc (splitOn mark (trim p t)).map (trim p)
      = ((splitOn mark (trimRight p (trimLeft p t))).map (trimRight p)).map (trimLeft p) := by
        rw [List.map_map, ← swap]
        rfl
    _ = (splitOn mark (trimLeft p t)).map (trim p) := by
        rw [map_trimRight_splitOn solid, List.map_map, ← swap]
    _ = ((splitOn mark (trimLeft p t)).map (trimLeft p)).map (trimRight p) := by
        rw [List.map_map]
        rfl
    _ = (splitOn mark t).map (trim p) := by
        rw [map_trimLeft_splitOn solid, List.map_map]
        rfl

theorem map_strip_splitOn (solid : mark.isBlank = false) (t : Text) :
    (splitOn mark t.strip).map strip = (splitOn mark t).map strip :=
  map_trim_splitOn solid t

theorem cut_cons (c : CodePoint) (t : Text) :
    cut mark (c :: t) =
      if c = mark then ([], some t) else (c :: (cut mark t).1, (cut mark t).2) := by
  unfold cut
  by_cases same : c = mark
  · simp [same]
  · rw [if_neg same, List.dropWhile_cons_of_pos (by simpa using same),
      List.takeWhile_cons_of_pos (by simpa using same)]
    split <;> rfl

theorem cut_of_notMem {t : Text} (absent : mark ∉ t) : cut mark t = (t, none) := by
  induction t with
  | nil => rfl
  | cons c rest ih =>
    simp only [List.mem_cons, not_or] at absent
    rw [cut_cons, if_neg (Ne.symm absent.1), ih absent.2]

theorem cut_append {t : Text} (absent : mark ∉ t) (rest : Text) :
    cut mark (t ++ mark :: rest) = (t, some rest) := by
  induction t with
  | nil => exact (cut_cons ..).trans (if_pos rfl)
  | cons c others ih =>
    simp only [List.mem_cons, not_or] at absent
    rw [List.cons_append, cut_cons, if_neg (Ne.symm absent.1), ih absent.2]

theorem cutLast_of_notMem {t : Text} (absent : mark ∉ t) : cutLast mark t = (none, t) := by
  unfold cutLast
  rw [cut_of_notMem (List.mem_reverse.not.mpr absent)]
  simp only [List.reverse_reverse]

theorem cutLast_append {after : Text} (absent : mark ∉ after) (before : Text) :
    cutLast mark (before ++ mark :: after) = (some before, after) := by
  have shape : (before ++ mark :: after).reverse = after.reverse ++ mark :: before.reverse := by
    simp
  unfold cutLast
  rw [shape, cut_append (List.mem_reverse.not.mpr absent)]
  simp only [List.reverse_reverse]

/-- A text is cut at its first mark, if it holds one. -/
theorem cut_cases (mark : CodePoint) (t : Text) :
    (mark ∉ t ∧ cut mark t = (t, none)) ∨
      ∃ before after, mark ∉ before ∧ t = before ++ mark :: after ∧
        cut mark t = (before, some after) := by
  by_cases present : mark ∈ t
  · obtain ⟨before, after, shape, absent⟩ := List.eq_append_cons_of_mem present
    exact .inr ⟨before, after, absent, shape, shape ▸ cut_append absent after⟩
  · exact .inl ⟨present, cut_of_notMem present⟩

theorem cut_eq_none_iff {t : Text} : (cut mark t).2 = none ↔ mark ∉ t := by
  rcases cut_cases mark t with ⟨absent, cut⟩ | ⟨before, after, -, shape, cut⟩
  · exact iff_of_true (congrArg Prod.snd cut) absent
  · exact iff_of_false (by simp [cut]) (by simp [shape])

/-- A text is cut at its last mark, if it holds one. -/
theorem cutLast_cases (mark : CodePoint) (t : Text) :
    (mark ∉ t ∧ cutLast mark t = (none, t)) ∨
      ∃ before after, mark ∉ after ∧ t = before ++ mark :: after ∧
        cutLast mark t = (some before, after) := by
  by_cases present : mark ∈ t
  · obtain ⟨after, before, shape, absent⟩ :=
      List.eq_append_cons_of_mem (List.mem_reverse.mpr present)
    have whole : t = before.reverse ++ mark :: after.reverse := by
      rw [← List.reverse_reverse t, shape, List.reverse_append, List.reverse_cons,
        List.append_assoc, List.singleton_append]
    have clean : mark ∉ after.reverse := List.mem_reverse.not.mpr absent
    exact .inr ⟨_, _, clean, whole, whole ▸ cutLast_append clean _⟩
  · exact .inl ⟨present, cutLast_of_notMem present⟩

/-- The first piece stands before the first mark, and the others are those of what stands after
it. -/
theorem splitOn_eq_cut (mark : CodePoint) (t : Text) :
    splitOn mark t = (cut mark t).1 :: ((cut mark t).2.map (splitOn mark)).getD [] := by
  induction t with
  | nil => rfl
  | cons c rest ih =>
    rw [cut_cons]
    by_cases same : c = mark
    · subst same
      rw [if_pos rfl, splitOn_cons_self]
      rfl
    · obtain ⟨piece, pieces, split, longer⟩ := splitOn_cons same rest
      rw [ih, List.cons.injEq] at split
      rw [if_neg same, longer, ← split.1, ← split.2]

/-- A text without the mark is one piece. -/
theorem splitOn_of_notMem {t : Text} (absent : mark ∉ t) : splitOn mark t = [t] := by
  rw [splitOn_eq_cut, cut_of_notMem absent]
  rfl

/-- A piece without the mark goes before the first piece of what follows it. -/
theorem splitOn_append_left {t : Text} (absent : mark ∉ t) (rest : Text) :
    ∃ piece pieces, splitOn mark rest = piece :: pieces ∧
      splitOn mark (t ++ rest) = (t ++ piece) :: pieces := by
  induction t with
  | nil =>
    obtain ⟨piece, pieces, split⟩ := List.exists_cons_of_ne_nil (splitOn_ne_nil mark rest)
    exact ⟨piece, pieces, split, split⟩
  | cons c others ih =>
    rw [List.mem_cons, not_or] at absent
    obtain ⟨piece, pieces, split, longer⟩ := ih absent.2
    obtain ⟨first, more, split', longer'⟩ := splitOn_cons (Ne.symm absent.1) (others ++ rest)
    rw [longer, List.cons.injEq] at split'
    refine ⟨piece, pieces, split, ?_⟩
    rw [List.cons_append, longer', ← split'.1, ← split'.2, List.cons_append]

/-- Pieces without the mark are cut apart again. -/
theorem splitOn_join {pieces : List Text} (some : pieces ≠ [])
    (clean : ∀ piece ∈ pieces, mark ∉ piece) : splitOn mark (join [mark] pieces) = pieces := by
  induction pieces with
  | nil => exact absurd rfl some
  | cons piece others ih =>
    obtain ⟨here, later⟩ := List.forall_mem_cons.mp clean
    cases others with
    | nil => exact splitOn_of_notMem here
    | cons next more =>
      rw [join_cons_cons, List.append_assoc, List.singleton_append, splitOn_append,
        splitOn_of_notMem here, ih nofun later, List.singleton_append]

/-- The pieces of a text hold its code points, the marks apart. -/
theorem mem_of_mem_splitOn {t piece : Text} (listed : piece ∈ splitOn mark t) {c : CodePoint}
    (member : c ∈ piece) : c ∈ t ∧ c ≠ mark := by
  induction t generalizing piece with
  | nil =>
    rw [splitOn, List.mem_singleton] at listed
    rw [listed] at member
    exact absurd member List.not_mem_nil
  | cons d rest ih =>
    by_cases same : d = mark
    · subst same
      rw [splitOn_cons_self, List.mem_cons] at listed
      rcases listed with rfl | later
      · exact absurd member List.not_mem_nil
      · exact ⟨List.mem_cons_of_mem _ (ih later member).1, (ih later member).2⟩
    · obtain ⟨first, pieces, split, longer⟩ := splitOn_cons same rest
      rw [split] at ih
      rw [longer, List.mem_cons] at listed
      rcases listed with rfl | later
      · rcases List.mem_cons.mp member with rfl | inside
        · exact ⟨List.mem_cons_self .., same⟩
        · exact ⟨List.mem_cons_of_mem _ (ih (List.mem_cons_self ..) inside).1,
            (ih (List.mem_cons_self ..) inside).2⟩
      · have found := ih (List.mem_cons_of_mem _ later) member
        exact ⟨List.mem_cons_of_mem _ found.1, found.2⟩

end Cutting

end Text

end Courier
