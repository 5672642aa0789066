/-
**Punycode is read back.**

The writer passes over the text once for each code point beyond ASCII, in ascending order, and the
reader inserts these code points in the same order. At each moment of a pass for the code point `m`
the reader's text is what was placed so far: the code points up to `m` of the part that was passed,
and those below `m` of the part that lies ahead. The distance that the writer has advanced since
its last number leads the reader from where that number left it to just this code point and place.

* `Punycode.readNumber_writeNumber`: a number is read back, whatever follows it.
* `Punycode.Writer.Stands`: where the writer stands, told by what the reader makes of its numbers.
* `Punycode.Writer.Stands.passes`, `Punycode.Writer.Stands.places`: one pass, and all of them.
* `Punycode.decode?_encode`: every text is read back.
* `Punycode.beyond_of_decode?`: what is read is not ASCII.
-/
import Courier.Idna.Punycode
import Courier.Proofs.Trimming
import Mathlib.Data.List.Induction
import Mathlib.Tactic.Ring
namespace Courier.Punycode

/-! ### Numbers -/

theorem threshold_bounds (k bias : Nat) : 1 ≤ threshold k bias ∧ threshold k bias ≤ 26 := by
  unfold threshold
  omega

theorem digitValue?_digitChar : ∀ d < 36, digitValue? (digitChar d) = some d := by
  decide

/-- A number is read back, whatever follows it. -/
theorem readNumber_writeNumber {fuel n : Nat} (enough : n < fuel) (bias k weight value : Nat)
    (rest : Text) :
    readNumber bias k weight value (writeNumber fuel k bias n ++ rest) =
      some (value + n * weight, rest) := by
  induction fuel generalizing n k weight value with
  | zero => exact absurd enough (Nat.not_lt_zero n)
  | succ fuel ih =>
    obtain ⟨least, most⟩ := threshold_bounds k bias
    unfold writeNumber
    simp only
    by_cases last : n < threshold k bias
    · rw [if_pos last, List.cons_append, readNumber, digitValue?_digitChar n (by omega)]
      simp only [last, if_true]
      rfl
    · have room : 0 < 36 - threshold k bias := by omega
      have rest_lt : (n - threshold k bias) % (36 - threshold k bias) < 36 - threshold k bias :=
        Nat.mod_lt _ room
      have fewer : (n - threshold k bias) / (36 - threshold k bias) < fuel := by
        have smaller := Nat.div_le_self (n - threshold k bias) (36 - threshold k bias)
        omega
      have whole : threshold k bias + (n - threshold k bias) % (36 - threshold k bias) +
          (n - threshold k bias) / (36 - threshold k bias) * (36 - threshold k bias) = n := by
        have split := Nat.mod_add_div' (n - threshold k bias) (36 - threshold k bias)
        omega
      rw [if_neg last, List.cons_append, readNumber, digitValue?_digitChar _ (by omega)]
      simp only
      rw [if_neg (by omega), ih fewer]
      refine congrArg (fun read => some (read, rest)) ?_
      -- The digit has the weight of its place, and all later places together the next weight.
      calc value + (threshold k bias + (n - threshold k bias) % (36 - threshold k bias)) * weight +
            (n - threshold k bias) / (36 - threshold k bias) * (weight * (36 - threshold k bias))
          = value + (threshold k bias + (n - threshold k bias) % (36 - threshold k bias) +
            (n - threshold k bias) / (36 - threshold k bias) * (36 - threshold k bias)) * weight := by
            ring
        _ = value + n * weight := by rw [whole]

theorem writeNumber_ne_nil (fuel k bias n : Nat) : writeNumber (fuel + 1) k bias n ≠ [] := by
  unfold writeNumber
  simp only
  split <;> nofun

/-- The code points that numbers are written with. -/
def IsDigit (c : CodePoint) : Prop :=
  ∃ d < 36, c = digitChar d

theorem isDigit_of_mem_writeNumber {fuel k bias n : Nat} :
    ∀ c ∈ writeNumber fuel k bias n, IsDigit c := by
  induction fuel generalizing k n with
  | zero => nofun
  | succ fuel ih =>
    obtain ⟨least, most⟩ := threshold_bounds k bias
    unfold writeNumber
    simp only
    split
    · exact List.forall_mem_singleton.mpr ⟨n, by omega, rfl⟩
    · have rest_lt := Nat.mod_lt (n - threshold k bias) (show 0 < 36 - threshold k bias by omega)
      exact List.forall_mem_cons.mpr ⟨⟨_, by omega, rfl⟩, ih⟩

/-! ### One insertion -/

/-- The reader inserts a code point as far on as the number says. -/
theorem insertAll_number {fuel point place bias delta k : Nat} {first : Bool} {base : Text}
    {c : CodePoint} (below : point ≤ c.val) (inside : k ≤ base.length)
    (distance : place + delta = (c.val - point) * (base.length + 1) + k) (rest : Text) :
    insertAll (fuel + 1) base point place bias first
        (writeNumber (delta + 1) 0 bias delta ++ rest) =
      insertAll fuel (base.take k ++ c :: base.drop k) c.val (k + 1)
        (adapt delta (base.length + 1) first) false rest := by
  have some : (writeNumber (delta + 1) 0 bias delta ++ rest).isEmpty = false := by
    rw [List.isEmpty_eq_false_iff]
    exact List.append_ne_nil_of_left_ne_nil (writeNumber_ne_nil delta 0 bias delta) _
  have rounds : (place + delta) / (base.length + 1) = c.val - point := by
    rw [distance, Nat.mul_comm, Nat.mul_add_div (Nat.succ_pos _),
      Nat.div_eq_of_lt (Nat.lt_succ_of_le inside), Nat.add_zero]
  have position : (place + delta) % (base.length + 1) = k := by
    rw [distance, Nat.mul_comm, Nat.mul_add_mod, Nat.mod_eq_of_lt (Nat.lt_succ_of_le inside)]
  have reached : point + (c.val - point) = c.val := Nat.add_sub_cancel' below
  have grown : (base.take k ++ c :: base.drop k).length = base.length + 1 := by
    simp only [List.length_append, List.length_take, List.length_cons, List.length_drop]
    omega
  rw [insertAll, some, readNumber_writeNumber (Nat.lt_succ_self delta)]
  simp only [Nat.zero_add, Nat.mul_one, rounds, position, reached, CodePoint.ofNat_val, grown]
  rw [if_neg Bool.false_ne_true, if_neg (Nat.not_lt.mpr (Nat.le_of_lt_succ c.val_lt))]

/-! ### Where the writer stands -/

namespace Writer

variable {start text t : Text} {w : Writer} {m k : Nat}

/-- What is written so far leads the reader to a text, a code point and a place. -/
def Leads (start : Text) (w : Writer) (text : Text) (point place : Nat) : Prop :=
  ∀ (more : Text) (fuel : Nat), (w.written ++ more).length ≤ fuel →
    ∃ less, more.length ≤ less ∧
      insertAll fuel start 0x80 0 72 true (w.written ++ more) =
        insertAll less text point place w.bias w.first more

/-- The writer stands in the pass for a code point at a place of the reader's text: the distance
since its last number leads from where that number left the reader to there. -/
structure Stands (start : Text) (w : Writer) (m : Nat) (text : Text) (k : Nat) : Prop where
  placed : w.placed = text.length
  reached : ∃ point place, point ≤ m ∧
    place + w.delta = (m - point) * (text.length + 1) + k ∧ w.Leads start text point place

theorem stands_start (start : Text) :
    (⟨0, 72, start.length, true, []⟩ : Writer).Stands start 0x80 start 0 :=
  ⟨rfl, 0x80, 0, Nat.le_refl _, by simp, fun more fuel enough => ⟨fuel, enough, rfl⟩⟩

/-- One place further in the same pass. -/
theorem Stands.step (stands : w.Stands start m text k) :
    ({ w with delta := w.delta + 1 } : Writer).Stands start m text (k + 1) := by
  obtain ⟨placed, point, place, below, distance, leads⟩ := stands
  exact ⟨placed, point, place, below, by simp only; omega, leads⟩

/-- Past the end of the text the next pass begins. -/
theorem Stands.turn (stands : w.Stands start m text (text.length + 1)) :
    w.Stands start (m + 1) text 0 := by
  obtain ⟨placed, point, place, below, distance, leads⟩ := stands
  refine ⟨placed, point, place, by omega, ?_, leads⟩
  rw [distance, Nat.succ_sub below, Nat.succ_mul]
  rfl

/-- Passes that place nothing are as long as the text. -/
theorem Stands.skip (stands : w.Stands start m text 0) {p : Nat} (above : m ≤ p) :
    ({ w with delta := w.delta + (p - m) * (w.placed + 1) } : Writer).Stands start p text 0 := by
  obtain ⟨placed, point, place, below, distance, leads⟩ := stands
  refine ⟨placed, point, place, by omega, ?_, leads⟩
  have rounds : p - point = (m - point) + (p - m) := by omega
  rw [placed]
  simp only
  rw [rounds, Nat.add_mul]
  omega

/-- A number is written, and the reader's text grows by the code point. -/
theorem Stands.emit {c : CodePoint} (stands : w.Stands start c.val text k)
    (inside : k ≤ text.length) :
    (w.pass c.val c).Stands start c.val (text.take k ++ c :: text.drop k) (k + 1) := by
  obtain ⟨placed, point, place, below, distance, leads⟩ := stands
  unfold pass
  rw [if_neg (Nat.lt_irrefl _), if_pos rfl]
  refine ⟨?_, c.val, k + 1, Nat.le_refl _, ?_, ?_⟩
  · simp only [placed, List.length_append, List.length_take, List.length_cons, List.length_drop]
    omega
  · simp
  · intro more fuel enough
    simp only at enough ⊢
    rw [List.append_assoc] at enough ⊢
    obtain ⟨less, left, reads⟩ := leads _ fuel enough
    have some := List.length_pos_iff.mpr (writeNumber_ne_nil w.delta 0 w.bias w.delta)
    rw [List.length_append] at left
    obtain ⟨less, rfl⟩ : ∃ fewer, less = fewer + 1 := ⟨less - 1, by omega⟩
    refine ⟨less, by omega, ?_⟩
    rw [reads, insertAll_number below inside distance, placed]

/-- **One pass** places the code points that equal `m`. -/
theorem Stands.passes (ahead : Text) {before : Text}
    (stands : w.Stands start m (before ++ ahead.filter (·.val < m)) before.length) :
    (ahead.foldl (pass m) w).Stands start m (before ++ ahead.filter (·.val ≤ m))
      (before ++ ahead.filter (·.val ≤ m)).length := by
  induction ahead generalizing w before with
  | nil => simpa using stands
  | cons c rest ih =>
    rw [List.foldl_cons]
    rcases Nat.lt_trichotomy c.val m with lower | equal | higher
    · have passed : w.pass m c = { w with delta := w.delta + 1 } := if_pos lower
      have here : before ++ (c :: rest).filter (·.val < m) =
          (before ++ [c]) ++ rest.filter (·.val < m) := by
        simp [lower]
      have after : before ++ (c :: rest).filter (·.val ≤ m) =
          (before ++ [c]) ++ rest.filter (·.val ≤ m) := by
        simp [Nat.le_of_lt lower]
      rw [here] at stands
      rw [passed, after]
      exact ih (by simpa using stands.step)
    · subst equal
      have here : before ++ (c :: rest).filter (·.val < c.val) =
          before ++ rest.filter (·.val < c.val) := by
        simp
      have after : before ++ (c :: rest).filter (·.val ≤ c.val) =
          (before ++ [c]) ++ rest.filter (·.val ≤ c.val) := by
        simp
      rw [here] at stands
      rw [after]
      exact ih (by simpa using stands.emit (by simp))
    · have passed : w.pass m c = w := by
        unfold pass
        rw [if_neg (by omega), if_neg (by omega)]
      have here : before ++ (c :: rest).filter (·.val < m) =
          before ++ rest.filter (·.val < m) := by
        simp [Nat.le_of_lt higher]
      have after : before ++ (c :: rest).filter (·.val ≤ m) =
          before ++ rest.filter (·.val ≤ m) := by
        simp [higher]
      rw [here] at stands
      rw [passed, after]
      exact ih stands

/-- **All passes** place every code point. -/
theorem Stands.places {next : Nat} {points : List Nat} (ascend : points.Pairwise (· < ·))
    (listed : ∀ n, n ∈ points ↔ next ≤ n ∧ ∃ c ∈ t, c.val = n)
    (stands : w.Stands start next (t.filter (·.val < next)) 0) :
    ∃ last, (place t next w points).Stands start last t 0 := by
  induction points generalizing next w with
  | nil =>
    have all : t.filter (·.val < next) = t := by
      refine List.filter_eq_self.mpr fun c member => ?_
      by_contra high
      exact List.not_mem_nil ((listed c.val).mpr ⟨by simpa using high, c, member, rfl⟩)
    rw [all] at stands
    exact ⟨next, stands⟩
  | cons point rest ih =>
    obtain ⟨least, others⟩ := List.pairwise_cons.mp ascend
    have bound : next ≤ point := ((listed point).mp (List.mem_cons_self ..)).1
    -- No code point lies between the last pass and this one.
    have same : t.filter (·.val < next) = t.filter (·.val < point) := by
      refine List.filter_congr fun c member => ?_
      by_cases low : c.val < next
      · simp [low, Nat.lt_of_lt_of_le low bound]
      · have in_points := (listed c.val).mpr ⟨by omega, c, member, rfl⟩
        rcases List.mem_cons.mp in_points with here | later
        · simp [here, bound]
        · have above := least c.val later
          simp [low, Nat.le_of_lt above]
    have below : t.filter (·.val ≤ point) = t.filter (·.val < point + 1) :=
      List.filter_congr fun c _ => decide_eq_decide.mpr Nat.lt_succ_iff.symm
    rw [same] at stands
    have here : Writer.Stands start _ point ([] ++ t.filter (·.val < point)) ([] : Text).length :=
      stands.skip bound
    have passed := here.passes t
    rw [List.nil_append, below] at passed
    refine ih others (fun n => ?_) passed.step.turn
    have mem := listed n
    rw [List.mem_cons] at mem
    constructor
    · intro later
      have above := least n later
      exact ⟨above, (mem.mp (.inr later)).2⟩
    · rintro ⟨above, present⟩
      rcases mem.mpr ⟨by omega, present⟩ with here | later
      · omega
      · exact later

/-- At the end the numbers that are written lead the reader to the whole text. -/
theorem Stands.reads (stands : w.Stands start m text k) :
    insertAll w.written.length start 0x80 0 72 true w.written = some text := by
  obtain ⟨-, point, place, -, -, leads⟩ := stands
  obtain ⟨less, -, reads⟩ := leads [] w.written.length (by simp)
  rw [List.append_nil] at reads
  rw [reads]
  cases less <;> rfl

theorem isDigit_foldl_pass (known : ∀ c ∈ w.written, IsDigit c) (t : Text) :
    ∀ c ∈ (t.foldl (pass m) w).written, IsDigit c := by
  induction t generalizing w with
  | nil => exact known
  | cons d rest ih =>
    rw [List.foldl_cons]
    refine ih ?_
    unfold pass
    split
    · exact known
    split
    · intro c member
      rcases List.mem_append.mp member with before | now
      · exact known c before
      · exact isDigit_of_mem_writeNumber c now
    · exact known

end Writer

theorem isDigit_place {w : Writer} (known : ∀ c ∈ w.written, IsDigit c) (t : Text) (next : Nat)
    (points : List Nat) : ∀ c ∈ (place t next w points).written, IsDigit c := by
  induction points generalizing w next with
  | nil => exact known
  | cons point rest ih =>
    have advanced : ∀ c ∈ ({ w with
        delta := w.delta + (point - next) * (w.placed + 1) } : Writer).written, IsDigit c := known
    have passed := Writer.isDigit_foldl_pass (m := point) advanced t
    exact ih (w := { t.foldl (Writer.pass point) _ with
      delta := (t.foldl (Writer.pass point) _).delta + 1 }) passed _

/-! ### The code points beyond ASCII -/

theorem mem_insertOnce {n m : Nat} {points : List Nat} :
    n ∈ insertOnce m points ↔ n = m ∨ n ∈ points := by
  induction points with
  | nil => simp [insertOnce]
  | cons first rest ih =>
    unfold insertOnce
    split
    · simp
    split
    · rename_i same
      simp [same]
    · simp only [List.mem_cons, ih]
      grind

theorem pairwise_insertOnce {m : Nat} {points : List Nat} (ascend : points.Pairwise (· < ·)) :
    (insertOnce m points).Pairwise (· < ·) := by
  induction points with
  | nil => exact List.pairwise_singleton _ _
  | cons first rest ih =>
    obtain ⟨least, others⟩ := List.pairwise_cons.mp ascend
    unfold insertOnce
    split
    · rename_i below
      refine List.pairwise_cons.mpr ⟨List.forall_mem_cons.mpr ⟨below, fun n member => ?_⟩, ascend⟩
      exact Nat.lt_trans below (least n member)
    split
    · exact ascend
    · refine List.pairwise_cons.mpr ⟨fun n member => ?_, ih others⟩
      rcases mem_insertOnce.mp member with here | later
      · omega
      · exact least n later

/-- The code points beyond ASCII, each once, in ascending order. -/
theorem extended_spec (t : Text) : (extended t).Pairwise (· < ·) ∧
    ∀ n, n ∈ extended t ↔ 0x80 ≤ n ∧ ∃ c ∈ t, c.val = n := by
  induction t using List.reverseRecOn with
  | nil => exact ⟨List.Pairwise.nil, by simp [extended]⟩
  | append_singleton t c ih =>
    obtain ⟨ascend, listed⟩ := ih
    unfold extended at ascend listed ⊢
    rw [List.foldl_append, List.foldl_cons, List.foldl_nil]
    by_cases ascii : c.isAscii
    · rw [if_pos ascii]
      refine ⟨ascend, fun n => (listed n).trans ?_⟩
      have low : c.val < 0x80 := by simpa [CodePoint.isAscii] using ascii
      simp only [List.mem_append, List.mem_singleton, or_and_right, exists_or]
      refine and_congr_right fun high => ⟨.inl, ?_⟩
      rintro (before | ⟨d, rfl, rfl⟩)
      · exact before
      · omega
    · rw [if_neg ascii]
      refine ⟨pairwise_insertOnce ascend, fun n => ?_⟩
      have high : 0x80 ≤ c.val := by simpa [CodePoint.isAscii] using ascii
      rw [mem_insertOnce, listed]
      simp only [List.mem_append, List.mem_singleton, or_and_right, exists_or]
      constructor
      · rintro (rfl | ⟨bound, present⟩)
        · exact ⟨high, .inr ⟨c, rfl, rfl⟩⟩
        · exact ⟨bound, .inl present⟩
      · rintro ⟨bound, present | ⟨d, rfl, rfl⟩⟩
        · exact .inr ⟨bound, present⟩
        · exact .inl rfl

/-! ### Texts -/

/-- The numbers of a text. -/
def numbers (t : Text) : Text :=
  (place t 0x80 ⟨0, 72, (t.filter CodePoint.isAscii).length, true, []⟩ (extended t)).written

theorem encode_eq (t : Text) :
    encode t = if (t.filter CodePoint.isAscii).isEmpty then numbers t
      else t.filter CodePoint.isAscii ++ CodePoint.ofChar '-' :: numbers t := by
  unfold encode numbers
  simp only
  split
  · rfl
  · rw [List.append_assoc]
    rfl

theorem isDigit_of_mem_numbers (t : Text) : ∀ c ∈ numbers t, IsDigit c :=
  isDigit_place (fun _ member => absurd member List.not_mem_nil) t _ _

theorem IsDigit.ne_hyphen {c : CodePoint} (digit : IsDigit c) : c ≠ '-' := by
  obtain ⟨d, small, rfl⟩ := digit
  revert d
  decide

/-- The numbers of a text lead from its ASCII code points to the whole of it. -/
theorem insertAll_numbers (t : Text) :
    insertAll (numbers t).length (t.filter CodePoint.isAscii) 0x80 0 72 true (numbers t) =
      some t := by
  obtain ⟨ascend, listed⟩ := extended_spec t
  obtain ⟨last, stands⟩ := (Writer.stands_start (t.filter CodePoint.isAscii)).places ascend listed
  exact stands.reads

/-- **Every text is read back** from Punycode. -/
theorem decode?_encode (t : Text) : decode? (encode t) = some t := by
  have absent : CodePoint.ofChar '-' ∉ numbers t := fun member =>
    (isDigit_of_mem_numbers t _ member).ne_hyphen rfl
  unfold decode?
  rw [encode_eq]
  by_cases none : (t.filter CodePoint.isAscii).isEmpty
  · rw [if_pos none, Text.cutLast_of_notMem absent]
    have reads := insertAll_numbers t
    rw [List.isEmpty_iff.mp none] at reads
    exact reads
  · rw [if_neg none, Text.cutLast_append absent]
    exact insertAll_numbers t

/-- A text with a code point beyond ASCII has numbers. -/
theorem numbers_ne_nil {t : Text} (beyond : ¬ t.all CodePoint.isAscii) : numbers t ≠ [] := by
  intro nothing
  have reads := insertAll_numbers t
  rw [nothing] at reads
  have same : t.filter CodePoint.isAscii = t := Option.some.inj reads
  exact beyond (List.all_eq_true.mpr (List.filter_eq_self.mp same))

/-- With code points beyond ASCII a text in Punycode does not end in its ASCII part. -/
theorem getLast?_encode {t : Text} (beyond : ¬ t.all CodePoint.isAscii) :
    encode t ≠ [] ∧ (encode t).getLast? ≠ some (CodePoint.ofChar '-') := by
  have some := numbers_ne_nil beyond
  obtain ⟨front, shape⟩ : ∃ front, encode t = front ++ numbers t := by
    rw [encode_eq]
    split
    · exact ⟨[], rfl⟩
    · exact ⟨t.filter CodePoint.isAscii ++ [CodePoint.ofChar '-'], by simp⟩
  rw [shape]
  refine ⟨List.append_ne_nil_of_right_ne_nil front some, fun last => ?_⟩
  rw [List.getLast?_append_of_ne_nil front some] at last
  exact (isDigit_of_mem_numbers t _ (List.mem_of_getLast? last)).ne_hyphen rfl

/-! ### What is read -/

variable {fuel point place bias delta : Nat} {first : Bool} {base t rest text : Text}

/-- A number is read from digits. -/
theorem readNumber_eq_some {k weight value : Nat}
    (read : readNumber bias k weight value t = some (delta, rest)) :
    ∃ front, t = front ++ rest ∧ front ≠ [] ∧ ∀ c ∈ front, (digitValue? c).isSome := by
  induction t generalizing k weight value with
  | nil => cases read
  | cons c after ih =>
    rw [readNumber] at read
    split at read
    · cases read
    rename_i digit known
    have here : (digitValue? c).isSome := known ▸ rfl
    simp only at read
    split at read
    · cases read
      exact ⟨[c], rfl, nofun, List.forall_mem_singleton.mpr here⟩
    · obtain ⟨front, rfl, -, digits⟩ := ih read
      exact ⟨c :: front, rfl, nofun, List.forall_mem_cons.mpr ⟨here, digits⟩⟩

/-- Where numbers are left, the first of them is read and its code point inserted. -/
theorem insertAll_eq_some (left : t ≠ [])
    (read : insertAll (fuel + 1) base point place bias first t = some text) :
    ∃ front rest, t = front ++ rest ∧ front ≠ [] ∧ (∀ c ∈ front, (digitValue? c).isSome) ∧
      ∃ (c : CodePoint) (k bias' : Nat), point ≤ c.val ∧
        insertAll fuel (base.take k ++ c :: base.drop k) c.val (k + 1) bias' false rest =
          some text := by
  rw [insertAll, List.isEmpty_eq_false_iff.mpr left, if_neg Bool.false_ne_true] at read
  split at read
  · cases read
  rename_i delta rest number
  obtain ⟨front, shape, occupied, digits⟩ := readNumber_eq_some number
  simp only at read
  split at read
  · cases read
  rename_i within
  obtain ⟨c, value⟩ : ∃ c : CodePoint, c.val = point + (place + delta) / (base.length + 1) :=
    ⟨⟨_, Nat.lt_succ_of_le (Nat.le_of_not_lt within)⟩, rfl⟩
  rw [← value, CodePoint.ofNat_val] at read
  exact ⟨front, rest, shape, occupied, digits, c, _, _, value ▸ Nat.le_add_right .., read⟩

/-- Insertions keep what is there. -/
theorem mem_insertAll (read : insertAll fuel base point place bias first t = some text)
    {c : CodePoint} (member : c ∈ base) : c ∈ text := by
  induction fuel generalizing base point place bias first t with
  | zero => exact Option.some.inj read ▸ member
  | succ fuel ih =>
    by_cases left : t = []
    · subst left
      exact Option.some.inj read ▸ member
    · obtain ⟨-, rest, -, -, -, d, k, bias', -, reads⟩ := insertAll_eq_some left read
      refine ih reads ?_
      rw [← List.take_append_drop k base, List.mem_append] at member
      rw [List.mem_append, List.mem_cons]
      exact member.imp_right .inr

/-- Numbers bring in a code point beyond ASCII. -/
theorem beyond_of_insertAll (left : t ≠ []) (high : 0x80 ≤ point)
    (read : insertAll t.length base point place bias first t = some text) :
    ∃ c ∈ text, c.isAscii = false := by
  obtain ⟨fuel, length⟩ : ∃ fuel, t.length = fuel + 1 :=
    Nat.exists_eq_succ_of_ne_zero (List.length_pos_iff.mpr left).ne'
  rw [length] at read
  obtain ⟨-, rest, -, -, -, c, k, bias', above, reads⟩ := insertAll_eq_some left read
  refine ⟨c, mem_insertAll reads ?_, decide_eq_false (by omega)⟩
  exact List.mem_append_right _ (List.mem_cons_self ..)

/-- Numbers are read from digits. -/
theorem digits_of_insertAll (enough : t.length ≤ fuel)
    (read : insertAll fuel base point place bias first t = some text) :
    ∀ c ∈ t, (digitValue? c).isSome := by
  induction fuel generalizing base point place bias first t with
  | zero =>
    rw [List.eq_nil_of_length_eq_zero (Nat.le_zero.mp enough)]
    nofun
  | succ fuel ih =>
    by_cases left : t = []
    · rw [left]
      nofun
    · obtain ⟨front, rest, rfl, occupied, digits, c, k, bias', -, reads⟩ :=
        insertAll_eq_some left read
      have shorter := List.length_pos_iff.mpr occupied
      rw [List.length_append] at enough
      exact List.forall_mem_append.mpr ⟨digits, ih (by omega) reads⟩

/-- What is read has a code point beyond ASCII, unless the text ends in its ASCII part. -/
theorem beyond_of_decode? (left : t ≠ []) (ends : t.getLast? ≠ some (CodePoint.ofChar '-'))
    (read : decode? t = some text) : ∃ c ∈ text, c.isAscii = false := by
  unfold decode? at read
  rcases Text.cutLast_cases '-' t with ⟨-, cut⟩ | ⟨before, after, -, shape, cut⟩
  · rw [cut] at read
    exact beyond_of_insertAll left (Nat.le_refl _) read
  · rw [cut] at read
    refine beyond_of_insertAll ?_ (Nat.le_refl _) read
    rintro rfl
    exact ends (shape ▸ List.getLast?_concat ..)

/-- A text that is read consists of code points of what it stands for, hyphens and digits. -/
theorem mem_of_decode? (read : decode? t = some text) :
    ∀ c ∈ t, c ∈ text ∨ c = '-' ∨ (digitValue? c).isSome := by
  unfold decode? at read
  intro c member
  rcases Text.cutLast_cases '-' t with ⟨-, cut⟩ | ⟨before, after, -, shape, cut⟩
  · rw [cut] at read
    exact .inr (.inr (digits_of_insertAll (Nat.le_refl _) read c member))
  · rw [cut] at read
    rw [shape, List.mem_append, List.mem_cons] at member
    rcases member with front | here | back
    · exact .inl (mem_insertAll read front)
    · exact .inr (.inl here)
    · exact .inr (.inr (digits_of_insertAll (Nat.le_refl _) read c back))

end Courier.Punycode
