/-
**Files of variables.**

A file of variables has a binding on each line: a name, an equals sign and a value, which may be
quoted and may then span lines. Blank lines and comments bind nothing, and a line that cannot be
read is skipped. A value may refer to variables that are set before it.

* `EnvFile.bindings_nil`: an empty file binds nothing.
* `EnvFile.expand_plain`: a value without a dollar sign is taken as it is.
-/
import Courier.Keyed
import Courier.Text.Blank
namespace Courier.EnvFile

/-! ### Characters and lines -/

/-- The text with a line feed for every end of line; `returned` tells that a carriage return has
just been read. -/
def normalLines (returned : Bool) : Text → Text
  | [] => []
  | c :: rest =>
    if c = '\r' then CodePoint.ofChar '\n' :: normalLines true rest
    else if returned && c = '\n' then normalLines false rest
    else c :: normalLines false rest

/-- A blank within a line. -/
def isGap (c : CodePoint) : Bool :=
  c.isBlank && c != '\n' && c != '\r'

/-- Does not end a line. -/
def inLine (c : CodePoint) : Bool :=
  c != '\n'

/-- Without the blanks at the start of a line. -/
def skipGap (t : Text) : Text :=
  t.dropWhile isGap

/-- The text after the line in which it starts. -/
def skipLine (t : Text) : Text :=
  (t.dropWhile inLine).drop 1

/-! ### The parts of a binding

A part that cannot be read is reported by the text at which reading stopped. -/

/-- Without a leading `export`. -/
def skipExport (t : Text) : Text :=
  match Text.dropStart? "export" t with
  | some (c :: rest) => if isGap c then skipGap rest else t
  | _ => t

/-- A character of a name. -/
def isNameChar (c : CodePoint) : Bool :=
  !(c = '=' || c = '#' || c.isBlank)

/-- The name, and the text after it; a comment has no name. -/
def readName (t : Text) : Except Text (Option Text × Text) :=
  match t with
  | [] => .error t
  | c :: rest =>
    if c = '#' then .ok (none, t)
    else if c = '\'' then
      match Text.cut '\'' rest with
      | (name, some after) => if name.isEmpty then .error t else .ok (some name, after)
      | (_, none) => .error t
    else
      let name := t.takeWhile isNameChar
      if name.isEmpty then .error t else .ok (some name, t.drop name.length)

/-- The text before the first mark without a backslash before it, and the text after it. -/
def cutUnescaped (mark : CodePoint) (escaped : Bool) : Text → Option (Text × Text)
  | [] => none
  | c :: rest =>
    if c = mark && !escaped then some ([], rest)
    else (cutUnescaped mark (c = '\\') rest).map fun (inside, after) => (c :: inside, after)

/-- The text before the closing mark, and the text after it. Where each mark has a backslash before
it, the last one closes. -/
def cutQuoted? (mark : CodePoint) (t : Text) : Option (Text × Text) :=
  match cutUnescaped mark false t with
  | some parts => some parts
  | none =>
    match t.cutLast mark with
    | (some inside, after) => some (inside, after)
    | (none, _) => none

/-- What the characters after a backslash stand for between single quotation marks. -/
def singleEscapes : List (Char × Char) :=
  [('\\', '\\'), ('\'', '\'')]

/-- What the characters after a backslash stand for between double quotation marks. -/
def doubleEscapes : List (Char × Char) :=
  [('\\', '\\'), ('\'', '\''), ('"', '"'), ('a', '\x07'), ('b', '\x08'), ('f', '\x0c'),
    ('n', '\n'), ('r', '\r'), ('t', '\t'), ('v', '\x0b')]

/-- What a character after a backslash stands for. -/
def escaped? (escapes : List (Char × Char)) (c : CodePoint) : Option CodePoint :=
  (escapes.find? fun escape => CodePoint.ofChar escape.1 == c).map fun escape =>
    CodePoint.ofChar escape.2

/-- The text without its escapes; `pending` tells that a backslash has just been read. -/
def unescape (escapes : List (Char × Char)) (pending : Bool) : Text → Text
  | [] => if pending then [CodePoint.ofChar '\\'] else []
  | c :: rest =>
    if pending then
      match escaped? escapes c with
      | some d => d :: unescape escapes false rest
      | none => CodePoint.ofChar '\\' :: c :: unescape escapes false rest
    else if c = '\\' then unescape escapes true rest
    else c :: unescape escapes false rest

/-- The part of a line before a comment that follows a blank. -/
def beforeComment : Text → Text
  | [] => []
  | c :: rest =>
    if c.isBlank && (rest.dropWhile CodePoint.isBlank).head? = some (CodePoint.ofChar '#') then []
    else c :: beforeComment rest

/-- The value after an equals sign, and the text after it. -/
def readValue (t : Text) : Except Text (Text × Text) :=
  match t with
  | [] => .ok ([], [])
  | c :: rest =>
    if c = '\'' || c = '"' then
      match cutQuoted? c rest with
      | none => .error t
      | some (inside, after) =>
        .ok (unescape (if c = '"' then doubleEscapes else singleEscapes) false inside, after)
    else .ok ((beforeComment (t.takeWhile inLine)).stripRight, t.dropWhile inLine)

/-- The text after the end of the line, before which only a comment may stand. -/
def endLine (t : Text) : Except Text Text :=
  let t :=
    if (skipGap t).head? = some (CodePoint.ofChar '#') then t.dropWhile inLine else t
  match skipGap t with
  | [] => .ok []
  | c :: rest => if c = '\n' then .ok rest else .error t

/-! ### Bindings -/

/-- A name with its value; a name alone has none. -/
abbrev Binding := Text × Option Text

/-- The binding at the start of a text, if there is one, and the text after its line. -/
def readBinding (t : Text) : Except Text (Option Binding × Text) := do
  let (name, t) ← readName (skipExport t)
  let t := skipGap t
  let (value, t) ← match t with
    | c :: rest =>
      if c = '=' then (readValue (skipGap rest)).map fun (value, t) => (some value, t)
      else .ok (none, t)
    | [] => .ok (none, [])
  let t ← endLine t
  return (name.map (·, value), t)

/-- The bindings of a text whose lines end in line feeds. -/
def bindings (t : Text) : List Binding :=
  let start := t.dropWhile CodePoint.isBlank
  let (binding, rest) := match readBinding start with
    | .ok read => read
    | .error stop => (none, skipLine stop)
  if _ : rest.length < start.length then binding.toList ++ bindings rest
  else binding.toList
termination_by t.length
decreasing_by
  have trimmed : start.length ≤ t.length :=
    (List.dropWhile_suffix _).length_le
  omega

/-! ### References -/

/-- The name and the fallback of a reference after its opening brace, and the text after it. -/
def reference? (t : Text) : Option (Text × Text × Text) :=
  let name := t.takeWhile fun c : CodePoint => !(c = '\x7d' || c = ':')
  match t.drop name.length with
  | [] => none
  | c :: rest =>
    if c = '\x7d' then some (name, [], rest)
    else
      match Text.dropStart? ":-" (c :: rest) with
      | none => none
      | some rest =>
        match Text.cut '\x7d' rest with
        | (fallback, some after) => some (name, fallback, after)
        | (_, none) => none

/-- A value with its references replaced by what they refer to, or by their fallbacks. -/
def expand (find : Text → Option Text) (t : Text) : Text :=
  match t with
  | [] => []
  | c :: rest =>
    match (if c = '$' then Text.dropStart? "\x7b" rest else none).bind reference? with
    | some (name, fallback, after) =>
      if _ : after.length < (c :: rest).length then (find name).getD fallback ++ expand find after
      else t
    | none => c :: expand find rest
termination_by t.length
decreasing_by
  · assumption
  · simp

/-- The variables after the bindings, in order. A binding may refer to the surrounding variables and
to the bindings before it, which come first; a name alone is bound to nothing. -/
def resolve (surrounding : Keyed Text Text) (bindings : List Binding) :
    Keyed Text (Option Text) :=
  bindings.foldl (fun known (name, value) =>
    let find (name : Text) : Option Text :=
      match Keyed.get? name known with
      | some value => some (value.getD [])
      | none => Keyed.get? name surrounding
    Keyed.put name (value.map (expand find)) known) []

/-- Without a byte order mark at its start. -/
def dropMark (t : Text) : Text :=
  match t with
  | c :: rest => if c.val = 0xFEFF then rest else t
  | [] => []

/-- The variables that a file binds. -/
def read (surrounding : Keyed Text Text) (t : Text) : Keyed Text (Option Text) :=
  resolve surrounding (bindings (normalLines false (dropMark t)))

theorem bindings_nil : bindings [] = [] := by
  rw [bindings]
  rfl

theorem expand_plain (find : Text → Option Text) {t : Text}
    (plain : CodePoint.ofChar '$' ∉ t) : expand find t = t := by
  induction t with
  | nil => rw [expand]
  | cons c rest ih =>
    simp only [List.mem_cons, not_or] at plain
    have other : ¬ c = CodePoint.ofChar '$' := fun same => plain.1 same.symm
    rw [expand]
    simp only [if_neg other, Option.bind_none]
    rw [ih plain.2]

end Courier.EnvFile
