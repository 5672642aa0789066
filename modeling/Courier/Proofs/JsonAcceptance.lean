/-
**What is read as JSON.**

The reader and the rules of RFC 8259 agree. That what the rules derive is read is an induction on
the derivation, with any text after it that may follow a value. That what is read is derived is an
induction on the fuel, for values, elements and members at once.

* `Json.Derives.accepted`: what the rules derive is read.
* `Json.derives_of_read`: what is read the rules derive.
* `Json.read_dict_iff`: a dictionary is read exactly of the texts that are objects.
-/
import Courier.Proofs.JsonGrammar
import Courier.Proofs.Trimming
namespace Courier

namespace Json

/-! ### What may follow a value -/

/-- What may follow a value: white space, a comma, a closing mark, or nothing. -/
def Follows (rest : Text) : Prop :=
  ∀ c ∈ rest.head?, isSpace c ∨ c = CodePoint.ofChar ',' ∨ c = CodePoint.ofChar ']' ∨
    c = CodePoint.ofChar '\x7d'

/-- White space ends a number. -/
theorem endsNumber_of_isSpace {c : CodePoint} (space : isSpace c) :
    c.isAsciiDigit = false ∧ c ≠ CodePoint.ofChar '.' ∧ c ≠ CodePoint.ofChar 'e' ∧
      c ≠ CodePoint.ofChar 'E' := by
  have low : c.val ≤ 0x20 := by
    unfold isSpace at space
    grind
  have other : ∀ d : CodePoint, 0x20 < d.val → c ≠ d := by
    rintro d high rfl
    omega
  refine ⟨?_, other _ (by decide), other _ (by decide), other _ (by decide)⟩
  rw [Bool.eq_false_iff]
  intro digit
  have bounds := bounds_of_isAsciiDigit digit
  omega

theorem Follows.endsNumber {rest : Text} (follows : Follows rest) : EndsNumber rest := by
  intro c head
  rcases follows c head with space | rfl | rfl | rfl
  · exact endsNumber_of_isSpace space
  · decide
  · decide
  · decide

theorem follows_append {gap rest : Text} (blank : IsBlank gap) (follows : Follows rest) :
    Follows (gap ++ rest) := by
  cases gap with
  | nil => exact follows
  | cons c tail =>
    rintro _ ⟨⟩
    exact .inl (blank c List.mem_cons_self)

theorem follows_cons {c : CodePoint} (mark : c = ',' ∨ c = ']' ∨ c = '\x7d') (rest : Text) :
    Follows (c :: rest) := by
  rintro _ ⟨⟩
  exact .inr mark

/-! ### What the rules derive is read -/

/-- A text that starts, behind white space, with neither a closing mark nor nothing at all. -/
def Starts (t : Text) : Prop :=
  ∃ gap c tail, IsBlank gap ∧ t = gap ++ c :: tail ∧ isSpace c = false ∧
    c ≠ CodePoint.ofChar ']' ∧ c ≠ CodePoint.ofChar '\x7d'

theorem Starts.append {t : Text} (starts : Starts t) (rest : Text) : Starts (t ++ rest) := by
  obtain ⟨gap, c, tail, blank, rfl, solid⟩ := starts
  exact ⟨gap, c, tail ++ rest, blank, List.append_assoc .., solid⟩

theorem Starts.gap {gap t : Text} (starts : Starts t) (blank : IsBlank gap) :
    Starts (gap ++ t) := by
  obtain ⟨more, c, tail, spaces, rfl, solid⟩ := starts
  exact ⟨gap ++ more, c, tail, List.forall_mem_append.mpr ⟨blank, spaces⟩,
    (List.append_assoc ..).symm, solid⟩

theorem Starts.solid {c : CodePoint} (solid : isSpace c = false)
    (bracket : c ≠ CodePoint.ofChar ']') (brace : c ≠ CodePoint.ofChar '\x7d') (tail : Text) :
    Starts (c :: tail) :=
  ⟨[], c, tail, nofun, rfl, solid, bracket, brace⟩

theorem IsQuoted.starts {t : Text} (quoted : IsQuoted t) : Starts t := by
  obtain ⟨inside, -, rfl⟩ := quoted
  exact .solid (by decide) (by decide) (by decide) _

theorem IsNumber.bounds {t : Text} (number : IsNumber t) :
    ∃ c tail, t = c :: tail ∧ 0x2D ≤ c.val ∧ c.val ≤ 0x39 := by
  obtain @⟨negative, whole, fraction, power, starts, -, -⟩ := number
  cases negative with
  | true => exact ⟨_, _, rfl, by decide, by decide⟩
  | false =>
    obtain ⟨c, tail, rfl⟩ := List.exists_cons_of_ne_nil starts.digits.some
    have bounds := bounds_of_isAsciiDigit (starts.digits.digits c List.mem_cons_self)
    exact ⟨c, _, rfl, by omega, by omega⟩

theorem IsNumber.starts {t : Text} (number : IsNumber t) : Starts t := by
  obtain ⟨c, tail, rfl, low, high⟩ := number.bounds
  have other : ∀ d : CodePoint, 0x39 < d.val → c ≠ d := by
    rintro d above rfl
    omega
  refine .solid ?_ (other _ (by decide)) (other _ (by decide)) tail
  unfold isSpace
  grind

theorem Derives.starts {symbol : Symbol} {t : Text} (derives : Derives symbol t) : Starts t := by
  induction derives with
  | null | yes | no => exact .solid (by decide) (by decide) (by decide) _
  | number number => exact number.starts
  | text quoted => exact quoted.starts
  | emptyList | list | emptyObject | members =>
    exact .solid (by decide) (by decide) (by decide) _
  | object _ ih | lastElement _ ih | lastMember _ ih => exact ih
  | element front _ _ ih => exact (ih.gap front).append _
  | moreElements _ _ ih | moreMembers _ _ ih => exact (ih.append _).append _
  | member front quoted _ _ => exact (((quoted.starts.gap front).append _).append _).append _

/-- What the reader makes of what the rules derive. -/
def Accepted : Symbol → Text → Prop
  | .value, t => ∀ fuel rest, t.length ≤ fuel → Follows rest →
    ∃ value, readValue fuel (t ++ rest) = some (value, rest)
  | .object, t => ∀ fuel rest, t.length ≤ fuel →
    ∃ entries, readValue fuel (t ++ rest) = some (.dict entries, rest)
  | .element, t => ∀ fuel rest, t.length ≤ fuel → Follows rest →
    ∃ value left, readValue fuel (t ++ rest) = some (value, left) ∧ skip left = skip rest
  | .elements, t => ∀ fuel rest, t.length < fuel →
    ∃ values, readElements fuel (t ++ CodePoint.ofChar ']' :: rest) = some (values, rest)
  | .member, t => ∀ fuel (mark : CodePoint) (rest : Text), t.length ≤ fuel →
    mark = ',' ∨ mark = '\x7d' →
    ∃ (name : Text) (value : Value), readEntries (fuel + 1) (t ++ (mark :: rest : Text)) =
      if mark = '\x7d' then some ([(.text name, value)], rest)
      else (readEntries fuel rest).map fun (pairs, left) => ((.text name, value) :: pairs, left)
  | .members, t => ∀ fuel rest, t.length < fuel →
    ∃ pairs, readEntries fuel (t ++ CodePoint.ofChar '\x7d' :: rest) = some (pairs, rest)

theorem exists_of_textLeft {t rest : Text} (left : textLeft t = some rest) :
    ∃ read, readText t = some (read, rest) := by
  obtain ⟨⟨read, after⟩, reads, rfl⟩ := Option.map_eq_some_iff.mp left
  exact ⟨read, reads⟩

theorem IsQuoted.exists_readText {name : Text} (quoted : IsQuoted name) (rest : Text) :
    ∃ after read, name ++ rest = CodePoint.ofChar '"' :: after ∧
      readText after = some (read, rest) := by
  obtain ⟨inside, chars, rfl⟩ := quoted
  obtain ⟨read, reads⟩ := exists_of_textLeft (textLeft_of_areChars chars rest)
  exact ⟨_, read, between_append '"' '"' inside rest, reads⟩

theorem readValue_quote (fuel : Nat) (t : Text) :
    readValue (fuel + 1) (CodePoint.ofChar '"' :: t) =
      (readText t).map fun (t, left) => (.text t, left) := by
  rw [readValue, skip_cons (by decide)]
  rfl

theorem readValue_bracket (fuel : Nat) (t : Text) :
    readValue (fuel + 1) (CodePoint.ofChar '[' :: t) =
      match skip t with
      | [] => none
      | d :: after =>
        if d = ']' then some (.list [], after)
        else (readElements fuel (d :: after)).map fun (values, left) => (.list values, left) := by
  rw [readValue, skip_cons (by decide)]
  rfl

theorem readValue_brace (fuel : Nat) (t : Text) :
    readValue (fuel + 1) (CodePoint.ofChar '\x7b' :: t) =
      match skip t with
      | [] => none
      | d :: after =>
        if d = '\x7d' then some (.dict [], after)
        else
          (readEntries fuel (d :: after)).map fun (pairs, left) =>
            (.dict (Value.entriesOf pairs), left) := by
  rw [readValue, skip_cons (by decide)]
  rfl

/-- What follows an opening bracket is read as elements, unless it closes the list. -/
theorem readValue_elements {t : Text} (starts : Starts t) (fuel : Nat) :
    readValue (fuel + 1) (CodePoint.ofChar '[' :: t) =
      (readElements fuel t).map fun (values, left) => (.list values, left) := by
  obtain ⟨gap, c, tail, blank, rfl, solid, bracket, -⟩ := starts
  rw [readElements_append blank, readValue_bracket, skip_append blank, skip_cons solid]
  exact if_neg bracket

/-- What follows an opening brace is read as members, unless it closes the object. -/
theorem readValue_entries {t : Text} (starts : Starts t) (fuel : Nat) :
    readValue (fuel + 1) (CodePoint.ofChar '\x7b' :: t) =
      (readEntries fuel t).map fun (pairs, left) => (.dict (Value.entriesOf pairs), left) := by
  obtain ⟨gap, c, tail, blank, rfl, solid, -, brace⟩ := starts
  rw [readEntries_append blank, readValue_brace, skip_append blank, skip_cons solid]
  exact if_neg brace

theorem Starts.length_pos {t : Text} (starts : Starts t) : 0 < t.length := by
  obtain ⟨gap, c, tail, -, rfl, -⟩ := starts
  rw [List.length_append, List.length_cons]
  omega

theorem comma_append (t rest after : Text) :
    t ++ "," ++ rest ++ after = t ++ CodePoint.ofChar ',' :: (rest ++ after) := by
  rw [List.append_assoc, List.append_assoc]
  rfl

/-- What is read at once is read with any fuel that its length allows. -/
theorem Accepted.leaf {t : Text} (starts : Starts t)
    (reads : ∀ fuel rest, Follows rest →
      ∃ value, readValue (fuel + 1) (t ++ rest) = some (value, rest)) : Accepted .value t := by
  intro fuel rest enough follows
  have positive := starts.length_pos
  obtain ⟨fuel, rfl⟩ : ∃ less, fuel = less + 1 := ⟨fuel - 1, by omega⟩
  exact reads fuel rest follows

theorem Accepted.list {t : Text} (starts : Starts t) (accepted : Accepted .elements t) :
    Accepted .value ("[" ++ t ++ "]") := by
  intro fuel rest enough _
  have shape : "[" ++ t ++ "]" ++ rest = _ := between_append '[' ']' t rest
  have size : ("[" ++ t ++ "]").length = _ := length_between '[' ']' t
  obtain ⟨fuel, rfl⟩ : ∃ less, fuel = less + 1 := ⟨fuel - 1, by omega⟩
  obtain ⟨values, reads⟩ := accepted fuel rest (by omega)
  rw [shape, readValue_elements (starts.append _), reads]
  exact ⟨_, rfl⟩

theorem Accepted.object {t : Text} (starts : Starts t) (accepted : Accepted .members t) :
    Accepted .object ("\x7b" ++ t ++ "\x7d") := by
  intro fuel rest enough
  have shape : "\x7b" ++ t ++ "\x7d" ++ rest = _ := between_append '\x7b' '\x7d' t rest
  have size : ("\x7b" ++ t ++ "\x7d").length = _ := length_between '\x7b' '\x7d' t
  obtain ⟨fuel, rfl⟩ : ∃ less, fuel = less + 1 := ⟨fuel - 1, by omega⟩
  obtain ⟨pairs, reads⟩ := accepted fuel rest (by omega)
  rw [shape, readValue_entries (starts.append _), reads]
  exact ⟨_, rfl⟩

theorem Accepted.emptyObject {gap : Text} (blank : IsBlank gap) :
    Accepted .object ("\x7b" ++ gap ++ "\x7d") := by
  intro fuel rest enough
  have shape : "\x7b" ++ gap ++ "\x7d" ++ rest = _ := between_append '\x7b' '\x7d' gap rest
  have size : ("\x7b" ++ gap ++ "\x7d").length = _ := length_between '\x7b' '\x7d' gap
  obtain ⟨fuel, rfl⟩ : ∃ less, fuel = less + 1 := ⟨fuel - 1, by omega⟩
  refine ⟨[], ?_⟩
  rw [shape, readValue_brace, skip_append blank, skip_cons (by decide)]
  rfl

theorem Accepted.emptyList {gap : Text} (blank : IsBlank gap) :
    Accepted .value ("[" ++ gap ++ "]") := by
  refine .leaf (.solid (by decide) (by decide) (by decide) _) fun fuel rest _ => ⟨.list [], ?_⟩
  have shape : "[" ++ gap ++ "]" ++ rest = _ := between_append '[' ']' gap rest
  rw [shape, readValue_bracket, skip_append blank, skip_cons (by decide)]
  rfl

theorem Accepted.number {t : Text} (number : IsNumber t) : Accepted .value t := by
  refine .leaf number.starts fun fuel rest follows => ?_
  obtain ⟨value, reads⟩ := readNumber_of_isNumber number follows.endsNumber
  obtain ⟨c, tail, rfl, low, high⟩ := number.bounds
  exact ⟨value, (readValue_number low high fuel (tail ++ rest)).trans reads⟩

theorem Accepted.text {t : Text} (quoted : IsQuoted t) : Accepted .value t := by
  refine .leaf quoted.starts fun fuel rest _ => ?_
  obtain ⟨after, read, shape, reads⟩ := quoted.exists_readText rest
  rw [shape, readValue_quote, reads]
  exact ⟨_, rfl⟩

theorem Accepted.element {before t after : Text} (front : IsBlank before)
    (accepted : Accepted .value t) (back : IsBlank after) :
    Accepted .element (before ++ t ++ after) := by
  intro fuel rest enough follows
  simp only [List.length_append] at enough
  obtain ⟨value, reads⟩ := accepted fuel (after ++ rest) (by omega) (follows_append back follows)
  refine ⟨value, after ++ rest, ?_, skip_append back rest⟩
  rw [List.append_assoc, List.append_assoc, readValue_append front, reads]

theorem Accepted.lastElement {t : Text} (accepted : Accepted .element t) :
    Accepted .elements t := by
  intro fuel rest enough
  obtain ⟨fuel, rfl⟩ : ∃ less, fuel = less + 1 := ⟨fuel - 1, by omega⟩
  obtain ⟨value, left, reads, skips⟩ := accepted fuel (CodePoint.ofChar ']' :: rest) (by omega)
    (follows_cons (.inr (.inl rfl)) rest)
  refine ⟨[value], ?_⟩
  rw [readElements, reads, Option.bind_eq_bind, Option.bind_some]
  simp only [skips, skip_cons (by decide : isSpace (CodePoint.ofChar ']') = false)]
  rfl

theorem Accepted.moreElements {t rest : Text} (first : Accepted .element t)
    (others : Accepted .elements rest) : Accepted .elements (t ++ "," ++ rest) := by
  intro fuel after enough
  simp only [List.length_append] at enough
  have comma : (Text.ofString ",").length = 1 := rfl
  obtain ⟨fuel, rfl⟩ : ∃ less, fuel = less + 1 := ⟨fuel - 1, by omega⟩
  obtain ⟨values, reads⟩ := others fuel after (by omega)
  obtain ⟨value, left, start, skips⟩ := first fuel
    (CodePoint.ofChar ',' :: (rest ++ CodePoint.ofChar ']' :: after)) (by omega)
    (follows_cons (.inl rfl) _)
  refine ⟨value :: values, ?_⟩
  rw [comma_append, readElements, start, Option.bind_eq_bind, Option.bind_some]
  simp only [skips, skip_cons (by decide : isSpace (CodePoint.ofChar ',') = false)]
  rw [reads]
  rfl

theorem Accepted.member {before name after t : Text} (front : IsBlank before)
    (quoted : IsQuoted name) (back : IsBlank after) (element : Accepted .element t) :
    Accepted .member (before ++ name ++ after ++ ":" ++ t) := by
  intro fuel mark rest enough marks
  simp only [List.length_append] at enough
  have solid : isSpace mark = false := by
    rcases marks with rfl | rfl
    · decide
    · decide
  have follows : Follows (mark :: rest) := follows_cons (by tauto) rest
  obtain ⟨value, left, reads, skips⟩ := element fuel (mark :: rest) (by omega) follows
  obtain ⟨inside, read, shape, named⟩ :=
    quoted.exists_readText (after ++ CodePoint.ofChar ':' :: (t ++ mark :: rest))
  have whole : before ++ name ++ after ++ ":" ++ t ++ mark :: rest =
      before ++ (name ++ (after ++ CodePoint.ofChar ':' :: (t ++ mark :: rest))) := by
    simp only [List.append_assoc]
    rfl
  refine ⟨read, value, ?_⟩
  rw [whole, readEntries_append front, shape, readEntries, skip_cons (by decide)]
  simp only [if_true, named, Option.bind_eq_bind, Option.bind_some, skip_append back]
  rw [skip_cons (by decide)]
  simp only [if_true, reads, Option.bind_some, skips, skip_cons solid]
  rcases marks with rfl | rfl
  · rw [if_neg (by decide), if_pos rfl, if_neg (by decide), Option.map_eq_bind]
    rfl
  · rw [if_pos rfl, if_pos rfl]
    rfl

theorem Accepted.lastMember {t : Text} (accepted : Accepted .member t) :
    Accepted .members t := by
  intro fuel rest enough
  obtain ⟨fuel, rfl⟩ : ∃ less, fuel = less + 1 := ⟨fuel - 1, by omega⟩
  obtain ⟨name, value, reads⟩ := accepted fuel _ rest (by omega) (.inr rfl)
  exact ⟨_, reads⟩

theorem Accepted.moreMembers {t rest : Text} (first : Accepted .member t)
    (others : Accepted .members rest) : Accepted .members (t ++ "," ++ rest) := by
  intro fuel after enough
  simp only [List.length_append] at enough
  have comma : (Text.ofString ",").length = 1 := rfl
  obtain ⟨fuel, rfl⟩ : ∃ less, fuel = less + 1 := ⟨fuel - 1, by omega⟩
  obtain ⟨pairs, reads⟩ := others fuel after (by omega)
  obtain ⟨name, value, start⟩ := first fuel (CodePoint.ofChar ',')
    (rest ++ CodePoint.ofChar '\x7d' :: after) (by omega) (.inl rfl)
  refine ⟨(.text name, value) :: pairs, ?_⟩
  rw [comma_append, start, reads]
  rfl

/-- The reader accepts what the rules derive. -/
theorem Derives.accepted {symbol : Symbol} {t : Text} (derives : Derives symbol t) :
    Accepted symbol t := by
  have word : ∀ {t : Text} (value : Value), Starts t →
      (∀ fuel rest, readValue (fuel + 1) (t ++ rest) = some (value, rest)) → Accepted .value t :=
    fun _ starts reads => .leaf starts fun fuel rest _ => ⟨_, reads fuel rest⟩
  induction derives with
  | null =>
    refine word .null (.solid (by decide) (by decide) (by decide) _) fun fuel rest => ?_
    rw [readValue]
    rfl
  | yes =>
    refine word (.bool true) (.solid (by decide) (by decide) (by decide) _)
      fun fuel rest => ?_
    rw [readValue]
    rfl
  | no =>
    refine word (.bool false) (.solid (by decide) (by decide) (by decide) _)
      fun fuel rest => ?_
    rw [readValue]
    rfl
  | number number => exact .number number
  | text quoted => exact .text quoted
  | emptyList blank => exact .emptyList blank
  | list inside ih => exact .list inside.starts ih
  | object _ ih =>
    intro fuel rest enough _
    obtain ⟨entries, reads⟩ := ih fuel rest enough
    exact ⟨_, reads⟩
  | emptyObject blank => exact .emptyObject blank
  | members inside ih => exact .object inside.starts ih
  | element front _ back ih => exact .element front ih back
  | lastElement _ ih => exact .lastElement ih
  | moreElements _ _ first others => exact .moreElements first others
  | member front quoted back _ ih => exact .member front quoted back ih
  | lastMember _ ih => exact .lastMember ih
  | moreMembers _ _ first others => exact .moreMembers first others

/-! ### What is read the rules derive -/

/-- The symbol of the rules that a value is read from. -/
def symbolOf : Value → Symbol
  | .dict _ => .object
  | _ => .value

theorem Derives.value {value : Value} {t : Text} (derives : Derives (symbolOf value) t) :
    Derives .value t := by
  cases value with
  | dict entries => exact .object derives
  | _ => exact derives

/-- What is read with some fuel is derived by the rules, up to what is left. -/
structure Sound (fuel : Nat) : Prop where
  value : ∀ {t rest : Text} {value : Value}, readValue fuel t = some (value, rest) →
    ∃ gap body, IsBlank gap ∧ t = gap ++ (body ++ rest) ∧ Derives (symbolOf value) body
  elements : ∀ {t rest : Text} {values : List Value},
    readElements fuel t = some (values, rest) →
      ∃ body, t = body ++ CodePoint.ofChar ']' :: rest ∧ Derives .elements body
  entries : ∀ {t rest : Text} {pairs : List (Value × Value)},
    readEntries fuel t = some (pairs, rest) →
      ∃ body, t = body ++ CodePoint.ofChar '\x7d' :: rest ∧ Derives .members body

theorem exists_skip (t : Text) : ∃ gap, IsBlank gap ∧ t = gap ++ skip t :=
  ⟨t.takeWhile isSpace, fun _ => List.mem_takeWhile_imp,
    List.takeWhile_append_dropWhile.symm⟩

theorem exists_of_skip {t rest : Text} {c : CodePoint} (skips : skip t = c :: rest) :
    ∃ gap, IsBlank gap ∧ t = gap ++ c :: rest := by
  obtain ⟨gap, blank, shape⟩ := exists_skip t
  exact ⟨gap, blank, skips ▸ shape⟩

theorem isSpace_of_skip {t rest : Text} {c : CodePoint} (skips : skip t = c :: rest) :
    isSpace c = false := by
  have solid := List.head?_dropWhile_not isSpace t
  unfold skip at skips
  rw [skips] at solid
  exact Bool.eq_false_iff.mpr (by simpa using solid)

theorem isQuoted_of_readText {t read rest : Text} (reads : readText t = some (read, rest)) :
    ∃ name, CodePoint.ofChar '"' :: t = name ++ rest ∧ IsQuoted name := by
  have left : textLeft t = some rest := Option.map_eq_some_iff.mpr ⟨_, reads, rfl⟩
  obtain ⟨inside, chars, rfl⟩ := closed_of_textLeft left
  exact ⟨_, (between_append '"' '"' inside rest).symm, inside, chars, rfl⟩

theorem Sound.bracket {fuel : Nat} (sound : Sound fuel) {after rest : Text} {value : Value}
    (reads : readValue (fuel + 1) (CodePoint.ofChar '[' :: after) = some (value, rest)) :
    ∃ body, CodePoint.ofChar '[' :: after = body ++ rest ∧ Derives (symbolOf value) body := by
  rw [readValue_bracket] at reads
  split at reads
  · cases reads
  · rename_i d left skips
    obtain ⟨gap, blank, rfl⟩ := exists_of_skip skips
    split at reads
    · rename_i closing
      subst closing
      cases reads
      exact ⟨_, (between_append '[' ']' gap rest).symm, .emptyList blank⟩
    · rw [← readElements_append blank] at reads
      obtain ⟨⟨values, late⟩, elements, same⟩ := Option.map_eq_some_iff.mp reads
      cases same
      obtain ⟨body, shape, derives⟩ := sound.elements elements
      rw [shape]
      exact ⟨_, (between_append '[' ']' body rest).symm, .list derives⟩

theorem Sound.brace {fuel : Nat} (sound : Sound fuel) {after rest : Text} {value : Value}
    (reads : readValue (fuel + 1) (CodePoint.ofChar '\x7b' :: after) = some (value, rest)) :
    ∃ body, CodePoint.ofChar '\x7b' :: after = body ++ rest ∧ Derives (symbolOf value) body := by
  rw [readValue_brace] at reads
  split at reads
  · cases reads
  · rename_i d left skips
    obtain ⟨gap, blank, rfl⟩ := exists_of_skip skips
    split at reads
    · rename_i closing
      subst closing
      cases reads
      exact ⟨_, (between_append '\x7b' '\x7d' gap rest).symm, .emptyObject blank⟩
    · rw [← readEntries_append blank] at reads
      obtain ⟨⟨pairs, late⟩, entries, same⟩ := Option.map_eq_some_iff.mp reads
      cases same
      obtain ⟨body, shape, derives⟩ := sound.entries entries
      rw [shape]
      exact ⟨_, (between_append '\x7b' '\x7d' body rest).symm, .members derives⟩

/-- One of the words, the first letter of which has been seen. -/
theorem exists_of_word {letter : CodePoint} (others : Text) {after rest : Text} (told : Value)
    {value : Value}
    (derives : Derives (symbolOf told) (letter :: others))
    (reads : ((Text.dropStart? others after).map fun left => (told, left)) = some (value, rest)) :
    ∃ body, letter :: after = body ++ rest ∧ Derives (symbolOf value) body := by
  obtain ⟨left, drops, same⟩ := Option.map_eq_some_iff.mp reads
  cases same
  exact ⟨_, congrArg (letter :: ·) (Text.dropStart?_eq_some drops), derives⟩

/-- A value that starts at once is told by its first character. -/
theorem Sound.start {fuel : Nat} (sound : Sound fuel) {c : CodePoint} {after rest : Text}
    (solid : isSpace c = false) {value : Value}
    (reads : readValue (fuel + 1) (c :: after) = some (value, rest)) :
    ∃ body, c :: after = body ++ rest ∧ Derives (symbolOf value) body := by
  by_cases quotes : c = CodePoint.ofChar '"'
  · subst quotes
    rw [readValue_quote] at reads
    obtain ⟨⟨read, left⟩, text, same⟩ := Option.map_eq_some_iff.mp reads
    cases same
    obtain ⟨name, shape, quoted⟩ := isQuoted_of_readText text
    exact ⟨name, shape, .text quoted⟩
  by_cases brace : c = CodePoint.ofChar '\x7b'
  · subst brace
    exact sound.brace reads
  by_cases bracket : c = CodePoint.ofChar '['
  · subst bracket
    exact sound.bracket reads
  rw [readValue, skip_cons solid] at reads
  simp only [if_neg quotes, if_neg brace, if_neg bracket] at reads
  split at reads
  · rename_i mark
    subst mark
    exact exists_of_word "ull" .null .null reads
  split at reads
  · rename_i mark
    subst mark
    exact exists_of_word "rue" (.bool true) .yes reads
  split at reads
  · rename_i mark
    subst mark
    exact exists_of_word "alse" (.bool false) .no reads
  · obtain ⟨number, shape, is⟩ := isNumber_of_readNumber reads
    cases value with
    | dict entries => exact absurd reads readNumber_ne_dict
    | _ => exact ⟨number, shape, .number is⟩

theorem Sound.value_succ {fuel : Nat} (sound : Sound fuel) {t rest : Text} {value : Value}
    (reads : readValue (fuel + 1) t = some (value, rest)) :
    ∃ gap body, IsBlank gap ∧ t = gap ++ (body ++ rest) ∧ Derives (symbolOf value) body := by
  obtain ⟨gap, blank, shape⟩ := exists_skip t
  rw [shape, readValue_append blank] at reads
  cases skips : skip t with
  | nil =>
    rw [skips] at reads
    cases reads
  | cons c after =>
    rw [skips] at reads shape
    obtain ⟨body, same, derives⟩ := sound.start (isSpace_of_skip skips) reads
    exact ⟨gap, body, blank, by rw [shape, same], derives⟩

theorem Sound.elements_succ {fuel : Nat} (sound : Sound fuel) {t rest : Text}
    {values : List Value} (reads : readElements (fuel + 1) t = some (values, rest)) :
    ∃ body, t = body ++ CodePoint.ofChar ']' :: rest ∧ Derives .elements body := by
  rw [readElements, Option.bind_eq_bind] at reads
  obtain ⟨⟨value, left⟩, first, goes⟩ := Option.bind_eq_some_iff.mp reads
  obtain ⟨before, body, front, rfl, derives⟩ := sound.value first
  dsimp only at goes
  split at goes
  · cases goes
  · rename_i mark late skips
    obtain ⟨after, back, rfl⟩ := exists_of_skip skips
    have element := Derives.element front derives.value back
    split at goes
    · rename_i closing
      subst closing
      cases goes
      exact ⟨_, by simp only [List.append_assoc], .lastElement element⟩
    split at goes
    · rename_i comma
      subst comma
      obtain ⟨⟨others, last⟩, more, same⟩ := Option.bind_eq_some_iff.mp goes
      cases same
      obtain ⟨tail, rfl, elements⟩ := sound.elements more
      refine ⟨_, ?_, .moreElements element elements⟩
      rw [comma_append]
      simp only [List.append_assoc]
    · cases goes

theorem Sound.entries_succ {fuel : Nat} (sound : Sound fuel) {t rest : Text}
    {pairs : List (Value × Value)} (reads : readEntries (fuel + 1) t = some (pairs, rest)) :
    ∃ body, t = body ++ CodePoint.ofChar '\x7d' :: rest ∧ Derives .members body := by
  rw [readEntries] at reads
  split at reads
  · cases reads
  rename_i q inside skips
  obtain ⟨before, front, rfl⟩ := exists_of_skip skips
  split at reads
  case isFalse => cases reads
  rename_i quotes
  subst quotes
  obtain ⟨⟨key, left⟩, text, reads⟩ := Option.bind_eq_some_iff.mp reads
  obtain ⟨name, named, quoted⟩ := isQuoted_of_readText text
  rw [named]
  dsimp only at reads
  split at reads
  · cases reads
  rename_i colon content skips
  obtain ⟨after, back, rfl⟩ := exists_of_skip skips
  split at reads
  case isFalse => cases reads
  rename_i colons
  subst colons
  obtain ⟨⟨value, left⟩, first, goes⟩ := Option.bind_eq_some_iff.mp reads
  obtain ⟨gap, body, blank, rfl, derives⟩ := sound.value first
  dsimp only at goes
  split at goes
  · cases goes
  rename_i mark late skips
  obtain ⟨space, behind, rfl⟩ := exists_of_skip skips
  have member := Derives.member front quoted back (.element blank derives.value behind)
  split at goes
  · rename_i closing
    subst closing
    cases goes
    refine ⟨_, ?_, .lastMember member⟩
    simp only [List.append_assoc]
    rfl
  split at goes
  · rename_i comma
    subst comma
    obtain ⟨⟨others, last⟩, more, same⟩ := Option.bind_eq_some_iff.mp goes
    cases same
    obtain ⟨tail, rfl, members⟩ := sound.entries more
    refine ⟨_, ?_, .moreMembers member members⟩
    rw [comma_append]
    simp only [List.append_assoc]
    rfl
  · cases goes

theorem sound (fuel : Nat) : Sound fuel := by
  induction fuel with
  | zero =>
    constructor
    · intro t rest value reads
      rw [readValue] at reads
      cases reads
    · intro t rest values reads
      rw [readElements] at reads
      cases reads
    · intro t rest pairs reads
      rw [readEntries] at reads
      cases reads
  | succ fuel ih => exact ⟨ih.value_succ, ih.elements_succ, ih.entries_succ⟩

/-! ### Whole texts -/

theorem skip_isEmpty_iff {t : Text} : (skip t).isEmpty ↔ IsBlank t := by
  rw [List.isEmpty_iff]
  exact List.dropWhile_eq_nil_iff

theorem read_eq_some_iff {t : Text} {value : Value} :
    read t = some value ↔
      ∃ left, readValue (2 * t.length + 1) t = some (value, left) ∧ IsBlank left := by
  unfold read
  rw [Option.bind_eq_bind, Option.bind_eq_some_iff]
  constructor
  · rintro ⟨⟨told, left⟩, reads, ends⟩
    dsimp only at ends
    split at ends
    · rename_i blank
      cases ends
      exact ⟨left, reads, skip_isEmpty_iff.mp blank⟩
    · cases ends
  · rintro ⟨left, reads, blank⟩
    exact ⟨_, reads, if_pos (skip_isEmpty_iff.mpr blank)⟩

theorem derives_of_read {t : Text} {value : Value} (reads : read t = some value) :
    ∃ before body after, IsBlank before ∧ Derives (symbolOf value) body ∧ IsBlank after ∧
      t = before ++ body ++ after := by
  obtain ⟨after, reads, back⟩ := read_eq_some_iff.mp reads
  obtain ⟨before, body, front, shape, derives⟩ := (sound _).value reads
  exact ⟨before, body, after, front, derives, back, by rw [shape, List.append_assoc]⟩

/-- **The reader makes a dictionary of a text exactly if it is a JSON object.** -/
theorem read_dict_iff (t : Text) : (∃ entries, read t = some (.dict entries)) ↔ IsObject t := by
  constructor
  · rintro ⟨entries, reads⟩
    exact derives_of_read reads
  · rintro ⟨before, body, after, front, derives, back, rfl⟩
    obtain ⟨entries, reads⟩ := derives.accepted (2 * (before ++ body ++ after).length + 1) after
      (by simp only [List.length_append]; omega)
    refine ⟨entries, read_eq_some_iff.mpr ⟨after, ?_, back⟩⟩
    rw [List.append_assoc, readValue_append front, ← List.append_assoc, reads]

end Json

end Courier
