/-
**A plain data source name is read as it was written.**

Where no part of a data source name holds a mark that separates parts, its text is cut apart again
where it was put together. Nothing in a plain name is normalised: the host is in small letters, no
IPv4 address and not encoded, the port is not the one of the scheme, and what is percent-coded in
key and path is decoded again. Of the slashes behind the project none is kept. The secret is not
written, so it is the only part that is lost.

* `Dsn.IsPlain`: the names that are plain.
* `Url.digit_of_looksLikeIpv4`: what looks like an IPv4 address ends in a digit.
* `Text.IsPlainHost.told`: a plain host is read as it is written.
* `Dsn.Tells`, `Dsn.IsPlain.exists_url`: the URL that the text of a plain name stands for.
* `Dsn.parse_toText`: a plain name is read again.
-/
import Courier.Proofs.DsnParts
import Courier.Proofs.WebUrls
namespace Courier

/-! ### Plain texts -/

namespace CodePoint

/-- A small letter of ASCII. -/
def isSmallLetter (c : CodePoint) : Bool :=
  0x61 ≤ c.val && c.val ≤ 0x7A

/-- A small letter, a digit or a hyphen. -/
def isLabelPoint (c : CodePoint) : Bool :=
  c.isSmallLetter || c.isAsciiDigit || c = '-'

/-- A letter, a digit, a hyphen or an underscore. Beyond ASCII only white space and surrogates are
left out, so that the letters and digits of every script are among these. -/
def isWordPoint (c : CodePoint) : Bool :=
  c.isAsciiLetter || c.isAsciiDigit || c = '-' || c = '_' ||
    (!c.isAscii && !c.isBlank && !c.isSurrogate)

/-- The marks that separate the parts of a URL, and those that are resolved or decoded. -/
def urlMarks : Text :=
  "/?#@:%."

/-- Neither trimmed nor refused nor read as a mark, and percent-coded where it has to be. -/
structure IsHarmless (c : CodePoint) : Prop where
  solid : c.isBlank = false
  visible : Url.isControl c = false
  unmarked : c ∉ urlMarks
  scalar : c.isSurrogate = false

theorem isHarmless_of_isWordPoint {c : CodePoint} (word : c.isWordPoint) : c.IsHarmless := by
  by_cases ascii : c.isAscii
  · have each : ∀ n < 0x80, (ofNat n).isWordPoint → (ofNat n).isBlank = false ∧
        Url.isControl (ofNat n) = false ∧ ofNat n ∉ urlMarks ∧ (ofNat n).isSurrogate = false := by
      decide +kernel
    rw [← ofNat_val c] at word ⊢
    obtain ⟨solid, visible, unmarked, scalar⟩ := each c.val (of_decide_eq_true ascii) word
    exact ⟨solid, visible, unmarked, scalar⟩
  have marks : ∀ d ∈ urlMarks, d.isAscii := by decide
  have high : 0x80 ≤ c.val := by simpa [isAscii] using ascii
  have foreign : ¬ Percent.isUnreserved c := mt Percent.isAscii_of_isUnreserved ascii
  simp only [Percent.isUnreserved, Bool.or_eq_true, not_or] at foreign
  obtain ⟨solid, scalar⟩ : c.isBlank = false ∧ c.isSurrogate = false := by
    simpa [isWordPoint, foreign, ascii] using word
  refine ⟨solid, ?_, mt (marks c) ascii, scalar⟩
  simp only [Url.isControl, Bool.or_eq_false_iff, decide_eq_false_iff_not]
  omega

theorem isWordPoint_of_isAsciiDigit {c : CodePoint} (digit : c.isAsciiDigit) : c.isWordPoint := by
  simp [isWordPoint, digit]

/-- Of ASCII, and kept as it is in a host name. -/
structure IsKept (c : CodePoint) : Prop where
  ascii : c.isAscii
  word : c.isWordPoint
  unreserved : Percent.isUnreserved c
  small : c.toAsciiLower = c
  dotless : Idna.isDot c = false

theorem isKept_of_isLabelPoint {c : CodePoint} (point : c.isLabelPoint) : c.IsKept := by
  have each : ∀ n < 0x80, (ofNat n).isLabelPoint → (ofNat n).isAscii ∧ (ofNat n).isWordPoint ∧
      Percent.isUnreserved (ofNat n) ∧ (ofNat n).toAsciiLower = ofNat n ∧
      Idna.isDot (ofNat n) = false := by
    decide +kernel
  have low : c.val < 0x80 := by
    by_cases hyphen : c = '-'
    · rw [hyphen]
      decide
    · simp only [isLabelPoint, isSmallLetter, isAsciiDigit, hyphen, Bool.or_eq_true,
        Bool.and_eq_true, decide_eq_true_eq, or_false] at point
      omega
  rw [← ofNat_val c] at point ⊢
  obtain ⟨ascii, word, unreserved, small, dotless⟩ := each c.val low point
  exact ⟨ascii, word, unreserved, small, dotless⟩

end CodePoint

namespace Text

/-- Letters, digits, hyphens and underscores, and not empty. -/
structure IsWord (t : Text) : Prop where
  occupied : t ≠ []
  points : ∀ c ∈ t, c.isWordPoint

instance (t : Text) : Decidable t.IsWord :=
  decidable_of_iff (t ≠ [] ∧ ∀ c ∈ t, c.isWordPoint)
    ⟨fun both => ⟨both.1, both.2⟩, fun word => ⟨word.occupied, word.points⟩⟩

/-- A label of small letters, digits and hyphens that is not the encoded form of another. -/
structure IsPlainLabel (label : Text) : Prop where
  occupied : label ≠ []
  points : ∀ c ∈ label, c.isLabelPoint
  unmarked : ¬ Text.ofString "xn--" <+: label

instance (label : Text) : Decidable label.IsPlainLabel :=
  decidable_of_iff (label ≠ [] ∧ (∀ c ∈ label, c.isLabelPoint) ∧ ¬ Text.ofString "xn--" <+: label)
    ⟨fun all => ⟨all.1, all.2.1, all.2.2⟩,
      fun plain => ⟨plain.occupied, plain.points, plain.unmarked⟩⟩

/-- One or more plain labels between dots, the last code point a letter. -/
structure IsPlainHost (host : Text) : Prop where
  labels : ∃ labels, labels ≠ [] ∧ (∀ label ∈ labels, IsPlainLabel label) ∧ host = join "." labels
  ending : ∃ c ∈ host.getLast?, c.isSmallLetter

end Text

/-- Every part of the data source name is plain, its secret apart. -/
structure Dsn.IsPlain (dsn : Dsn) : Prop where
  key : dsn.publicKey.IsWord
  host : dsn.host.IsPlainHost
  port : ∀ port ∈ dsn.port, 1 ≤ port ∧ port ≤ 65535 ∧ some port ≠ Url.defaultPort? dsn.scheme.name
  path : ∃ segments : List Text, (∀ segment ∈ segments, segment.IsWord) ∧
    dsn.path = segments.flatMap fun segment => CodePoint.ofChar '/' :: segment
  project : dsn.projectId ≠ [] ∧ ∀ c ∈ dsn.projectId, c.isAsciiDigit

/-! ### Plain hosts -/

/-- What looks like an IPv4 address ends in a digit. -/
theorem Url.digit_of_looksLikeIpv4 {front : Text} {c : CodePoint}
    (like : looksLikeIpv4 (front ++ [c])) : c.isAsciiDigit := by
  unfold looksLikeIpv4 at like
  rw [List.foldl_append, List.foldl_cons, List.foldl_nil, List.contains_iff_mem,
    List.mem_eraseDups, List.mem_flatMap] at like
  obtain ⟨state, -, stepped⟩ := like
  unfold ipv4Step at stepped
  split at stepped
  · split at stepped
    · assumption
    · cases stepped
  · -- The fourth run of digits is entered from an even state only.
    rename_i inside
    rcases List.mem_append.mp stepped with stays | leaves
    · split at stays
      · assumption
      · cases stays
    · split at leaves
      · have last := List.mem_singleton.mp leaves
        omega
      · cases leaves

namespace Text.IsPlainHost

variable {host : Text}

theorem points (plain : host.IsPlainHost) : ∀ c ∈ host, c = '.' ∨ c.isLabelPoint := by
  obtain ⟨labels, -, each, rfl⟩ := plain.labels
  intro c member
  rcases mem_join member with dot | ⟨label, listed, inside⟩
  · exact .inl (List.mem_singleton.mp dot)
  · exact .inr ((each label listed).points c inside)

theorem occupied (plain : host.IsPlainHost) : host ≠ [] := by
  obtain ⟨c, last, -⟩ := plain.ending
  rintro rfl
  cases last

theorem isAscii (plain : host.IsPlainHost) : ∀ c ∈ host, c.isAscii := by
  intro c member
  rcases plain.points c member with rfl | point
  · decide
  · exact (CodePoint.isKept_of_isLabelPoint point).ascii

theorem toLower_eq (plain : host.IsPlainHost) : host.toLower = host := by
  rw [toLower_of_isAscii plain.isAscii]
  refine (List.map_congr_left fun c member => ?_).trans (List.map_id _)
  rcases plain.points c member with rfl | point
  · decide
  · exact (CodePoint.isKept_of_isLabelPoint point).small

theorem unlike (plain : host.IsPlainHost) : ¬ Url.looksLikeIpv4 host := by
  obtain ⟨c, last, letter⟩ := plain.ending
  obtain ⟨front, rfl⟩ := List.getLast?_eq_some_iff.mp last
  intro like
  have digit := Url.digit_of_looksLikeIpv4 like
  simp only [CodePoint.isSmallLetter, CodePoint.isAsciiDigit, Bool.and_eq_true,
    decide_eq_true_eq] at letter digit
  omega

/-- A plain host does not begin with an encoded label. -/
theorem unmarked (plain : host.IsPlainHost) :
    (dropStart? Idna.encodedMark host).isSome = false := by
  obtain ⟨labels, some, each, whole⟩ := plain.labels
  have found : Idna.labels host = (labels, false) := by
    rw [whole]
    exact Idna.labels_hostOf some (fun label listed => (each label listed).occupied)
      (fun label listed c inside =>
        (CodePoint.isKept_of_isLabelPoint ((each label listed).points c inside)).dotless) false
  rw [Bool.eq_false_iff]
  intro marked
  obtain ⟨content, others, first⟩ := Idna.labels_of_encodedMark marked
  rw [found] at first
  exact (each (Idna.encodedMark ++ content) (by simp [show labels = _ from first])).unmarked
    ⟨content, rfl⟩

theorem hostName (plain : host.IsPlainHost) : Url.HostName host := by
  refine .plain (fun c member => Bool.or_eq_true_iff.mpr (.inl ?_)) plain.unmarked
  rcases plain.points c member with rfl | point
  · decide
  · exact (CodePoint.isKept_of_isLabelPoint point).unreserved

theorem noColon (plain : host.IsPlainHost) : CodePoint.ofChar ':' ∉ host := by
  intro colon
  have point := plain.points _ colon
  revert point
  decide

/-- **A plain host is read as it is written.** -/
theorem told (plain : host.IsPlainHost) :
    ∃ normal, Url.normalHost host = .ok normal ∧
      ∀ url : Url, url.host = normal → url.hostName = .ok host := by
  have ascii := List.all_eq_true.mpr plain.isAscii
  let url : Url := ⟨[], [], [], none, [], none, none⟩
  obtain ⟨normal, named, told⟩ :=
    (Url.hostName_normalHost_iff url plain.hostName plain.occupied plain.noColon).mpr
      ⟨fun like => absurd like plain.unlike, plain.toLower_eq, fun beyond => absurd ascii beyond⟩
  refine ⟨normal, named, fun url same => ?_⟩
  rw [← told, Url.hostName, Url.hostName, same]

end Text.IsPlainHost

/-! ### Plain keys -/

/-- A key is percent-coded without a colon, and decoded again. -/
theorem Text.IsWord.userinfo {key : Text} (plain : key.IsWord) :
    ∃ userinfo, Url.encodePart Url.userinfoSafe key = .ok userinfo ∧
      ∀ url : Url, url.userinfo = userinfo → url.username = key ∧ url.password = [] := by
  have visible : ∀ c, Url.userinfoSafe c → c.isAscii := fun _ => Url.visibleExcept_isAscii
  have absent : ∀ c ∈ CodePoint.urlMarks, c ∉ key := fun c mark member =>
    (CodePoint.isHarmless_of_isWordPoint (plain.points c member)).unmarked mark
  obtain ⟨userinfo, wrote⟩ := Percent.exists_encode Url.userinfoSafe fun c member =>
    (CodePoint.isHarmless_of_isWordPoint (plain.points c member)).scalar
  refine ⟨userinfo, Url.encodePart_eq_ok_iff.mpr wrote, fun url same => ?_⟩
  have noColon : CodePoint.ofChar ':' ∉ userinfo := by
    intro colon
    obtain ⟨bytes, writes⟩ := Percent.writes_of_encode wrote
    rcases writes.points _ colon with percent | unreserved | ⟨-, member⟩
    · exact absurd percent (by decide)
    · exact absurd unreserved (by decide)
    · exact absent _ (by decide) member
  have back : Percent.decode userinfo = key :=
    (Percent.decode_encode_eq_iff wrote visible).mpr
      (Percent.not_hasEscape_of_notMem (absent _ (by decide)))
  unfold Url.username Url.password
  rw [same, Text.cut_of_notMem noColon]
  exact ⟨back, rfl⟩

namespace Dsn

variable {dsn : Dsn} {slashes : Text}

/-! ### The text of a plain name -/

/-- The path of the URL that a data source name is written as, with slashes behind it. -/
def writtenPath (dsn : Dsn) (slashes : Text) : Text :=
  dsn.path ++ CodePoint.ofChar '/' :: (dsn.projectId ++ slashes)

theorem toText_eq (dsn : Dsn) (slashes : Text) :
    dsn.toText ++ slashes =
      Url.web dsn.scheme (dsn.publicKey ++ CodePoint.ofChar '@' :: dsn.netloc)
        (dsn.writtenPath slashes) := by
  have at_sign : Text.ofString "@" = [CodePoint.ofChar '@'] := rfl
  have slash : Text.ofString "/" = [CodePoint.ofChar '/'] := rfl
  unfold toText Url.web writtenPath
  rw [at_sign, slash]
  simp

namespace IsPlain

theorem points_of_netloc (plain : dsn.IsPlain) :
    ∀ c ∈ dsn.netloc, c = '.' ∨ c = ':' ∨ c.isWordPoint := by
  have host : ∀ c ∈ dsn.host, c = '.' ∨ c = ':' ∨ c.isWordPoint := fun c member =>
    (plain.host.points c member).imp_right fun point =>
      .inr (CodePoint.isKept_of_isLabelPoint point).word
  have port : ∀ c ∈ CodePoint.ofChar ':' :: Url.writtenPort dsn.port,
      c = '.' ∨ c = ':' ∨ c.isWordPoint := by
    refine List.forall_mem_cons.mpr ⟨.inr (.inl rfl), fun c member => .inr (.inr ?_)⟩
    rcases Url.points_of_writtenPort dsn.port c member with rfl | digit
    · decide
    · exact CodePoint.isWordPoint_of_isAsciiDigit digit
  rcases dsn.netloc_cases with ⟨same, -⟩ | whole
  · rwa [same]
  · rw [whole]
    exact List.forall_mem_append.mpr ⟨host, port⟩

/-- Points, colons and one at-sign stand in the authority, and nothing else that is no word. -/
theorem points_of_authority (plain : dsn.IsPlain) :
    ∀ c ∈ dsn.publicKey ++ CodePoint.ofChar '@' :: dsn.netloc,
      c ∈ Text.ofString ".:@" ∨ c.isWordPoint := by
  refine List.forall_mem_append.mpr ⟨fun c member => .inr (plain.key.points c member),
    List.forall_mem_cons.mpr ⟨.inl (by decide), fun c member => ?_⟩⟩
  rcases plain.points_of_netloc c member with rfl | rfl | word
  · exact .inl (by decide)
  · exact .inl (by decide)
  · exact .inr word

theorem points_of_path (plain : dsn.IsPlain) : ∀ c ∈ dsn.path, c = '/' ∨ c.isWordPoint := by
  obtain ⟨segments, words, whole⟩ := plain.path
  rw [whole]
  intro c member
  obtain ⟨segment, listed, inside⟩ := List.mem_flatMap.mp member
  exact (List.mem_cons.mp inside).imp_right ((words segment listed).points c)

theorem points_of_writtenPath (plain : dsn.IsPlain) (slashed : ∀ c ∈ slashes, c = '/') :
    ∀ c ∈ dsn.writtenPath slashes, c = '/' ∨ c.isWordPoint := by
  refine List.forall_mem_append.mpr ⟨plain.points_of_path, List.forall_mem_cons.mpr ⟨.inl rfl,
    List.forall_mem_append.mpr ⟨fun c member => .inr ?_, fun c member => .inl (slashed c member)⟩⟩⟩
  exact CodePoint.isWordPoint_of_isAsciiDigit (plain.project.2 c member)

/-- Of the marks of a URL only slashes stand in the path. -/
theorem absent_in_writtenPath (plain : dsn.IsPlain) (slashed : ∀ c ∈ slashes, c = '/')
    {c : CodePoint} (mark : c ∈ CodePoint.urlMarks) (other : c ≠ '/') :
    c ∉ dsn.writtenPath slashes := by
  intro member
  rcases plain.points_of_writtenPath slashed c member with slash | word
  · exact other slash
  · exact (CodePoint.isHarmless_of_isWordPoint word).unmarked mark

theorem writtenPath_slash (plain : dsn.IsPlain) :
    ∃ rest, dsn.writtenPath slashes = CodePoint.ofChar '/' :: rest := by
  obtain ⟨segments, -, whole⟩ := plain.path
  unfold writtenPath
  rw [whole]
  cases segments with
  | nil => exact ⟨_, rfl⟩
  | cons segment others => exact ⟨_, rfl⟩

theorem noDots (plain : dsn.IsPlain) (slashed : ∀ c ∈ slashes, c = '/') :
    ∀ segment ∈ Text.splitOn '/' (dsn.writtenPath slashes), ¬ Url.IsDots segment := by
  intro segment listed dots
  have dot : CodePoint.ofChar '.' ∈ segment := by
    rcases dots with rfl | rfl <;> decide
  exact plain.absent_in_writtenPath slashed (by decide) (by decide)
    (Text.mem_of_mem_splitOn listed dot).1

/-- Nothing in the text is trimmed, and nothing is refused as a control character. -/
theorem visible (plain : dsn.IsPlain) (slashed : ∀ c ∈ slashes, c = '/') :
    ∀ c ∈ dsn.toText ++ slashes, c.isBlank = false ∧ Url.isControl c = false := by
  have word (c : CodePoint) (point : c.isWordPoint) :
      c.isBlank = false ∧ Url.isControl c = false :=
    have harmless := CodePoint.isHarmless_of_isWordPoint point
    ⟨harmless.solid, harmless.visible⟩
  have start : ∀ c ∈ Text.ofString dsn.scheme.name ++ Text.ofString "://",
      c.isBlank = false ∧ Url.isControl c = false := by
    cases dsn.scheme <;> decide
  have marks : ∀ c ∈ Text.ofString ".:@/", c.isBlank = false ∧ Url.isControl c = false := by
    decide
  obtain ⟨scheme, between⟩ := List.forall_mem_append.mp start
  rw [toText_eq, Url.web]
  refine List.forall_mem_append.mpr ⟨scheme, List.forall_mem_append.mpr ⟨between,
    List.forall_mem_append.mpr ⟨fun c member => ?_, fun c member => ?_⟩⟩⟩
  · rcases plain.points_of_authority c member with mark | point
    · exact marks c (List.mem_append_left _ mark)
    · exact word c point
  · rcases plain.points_of_writtenPath slashed c member with rfl | point
    · exact marks _ (by decide)
    · exact word c point

/-! ### The URL of a plain name -/

theorem inside_authority (plain : dsn.IsPlain) :
    ∀ c ∈ dsn.publicKey ++ CodePoint.ofChar '@' :: dsn.netloc, c ∉ Url.authorityEnds := by
  have ends : ∀ c ∈ Url.authorityEnds, c ∈ CodePoint.urlMarks ∧ c ∉ Text.ofString ".:@" := by
    decide
  intro c member closes
  rcases plain.points_of_authority c member with mark | word
  · exact (ends c closes).2 mark
  · exact (CodePoint.isHarmless_of_isWordPoint word).unmarked (ends c closes).1

theorem cutAuthorityParts (plain : dsn.IsPlain) :
    Url.cutAuthorityParts (dsn.publicKey ++ CodePoint.ofChar '@' :: dsn.netloc) =
      (dsn.publicKey, dsn.host, Url.writtenPort dsn.port) := by
  have user : CodePoint.ofChar '@' ∉ dsn.netloc := fun member =>
    absurd (plain.points_of_netloc _ member) (by decide)
  have unbracketed : dsn.netloc.head? ≠ some (CodePoint.ofChar '[') := fun first =>
    absurd (plain.points_of_netloc _ (List.mem_of_head? first)) (by decide)
  rw [Url.cutAuthorityParts_user user, cutAuthorityParts_netloc user unbracketed plain.host.noColon]

theorem normalPort (plain : dsn.IsPlain) :
    Url.normalPort dsn.scheme.name (Url.writtenPort dsn.port) = .ok dsn.port := by
  have five : 5 ≤ Integer.maxDigits := by decide
  have room : 65536 ≤ 10 ^ Integer.maxDigits :=
    Nat.le_trans (by decide) (Nat.pow_le_pow_right (by decide) five)
  rw [Url.normalPort_writtenPort_iff]
  · cases known : dsn.port with
    | none => cases dsn.scheme <;> decide
    | some port =>
      obtain ⟨positive, -, other⟩ := plain.port port known
      refine ⟨fun zero => ?_, other⟩
      have same := Option.some.inj zero
      omega
  · intro port known
    obtain ⟨positive, small, -⟩ := plain.port port known
    omega

end IsPlain

/-- A URL says what a data source name does, with slashes behind the project. -/
structure Tells (url : Url) (dsn : Dsn) (slashes : Text) : Prop where
  scheme : url.scheme = dsn.scheme.name
  key : url.username = dsn.publicKey
  noSecret : url.password = []
  host : url.hostName = .ok dsn.host
  port : url.port = dsn.port
  path : url.decodedPath = dsn.writtenPath slashes

namespace IsPlain

/-- **The text of a plain name stands for a URL that says what the name does.** -/
theorem exists_url (plain : dsn.IsPlain) (slashed : ∀ c ∈ slashes, c = '/') :
    ∃ url, Url.Normal (Url.cutParts (dsn.toText ++ slashes)) url ∧ Tells url dsn slashes := by
  have absent : ∀ c ∈ CodePoint.urlMarks, c ≠ '/' → c ∉ dsn.writtenPath slashes :=
    fun c mark other => plain.absent_in_writtenPath slashed mark other
  have scalar : ∀ c ∈ dsn.writtenPath slashes, c.isSurrogate = false := by
    intro c member
    rcases plain.points_of_writtenPath slashed c member with rfl | word
    · decide
    · exact (CodePoint.isHarmless_of_isWordPoint word).scalar
  obtain ⟨userinfo, user_coded, named_by⟩ := plain.key.userinfo
  obtain ⟨host, named, told⟩ := plain.host.told
  obtain ⟨path, path_coded, read⟩ := Url.exists_path plain.writtenPath_slash scalar
    (plain.noDots slashed) (Percent.not_hasEscape_of_notMem (absent _ (by decide) (by decide)))
  have normal := Url.normal_web plain.inside_authority plain.writtenPath_slash
    ⟨absent _ (by decide) (by decide), absent _ (by decide) (by decide)⟩ plain.cutAuthorityParts
    user_coded named plain.normalPort path_coded
  rw [← toText_eq] at normal
  exact ⟨_, normal, rfl, (named_by _ rfl).1, (named_by _ rfl).2, told _ rfl, rfl, read _ rfl⟩

/-- Of the path only the slashes at its end are lost, and it is cut before the project. -/
theorem cutLast_writtenPath (plain : dsn.IsPlain) (slashed : ∀ c ∈ slashes, c = '/') :
    ((dsn.writtenPath slashes).trimRight (· = CodePoint.ofChar '/')).cutLast '/' =
      (some dsn.path, dsn.projectId) := by
  have project : CodePoint.ofChar '/' ∉ dsn.projectId := fun slash =>
    absurd (plain.project.2 _ slash) (by decide)
  have shape : dsn.writtenPath slashes =
      dsn.path ++ CodePoint.ofChar '/' :: dsn.projectId ++ slashes := by
    unfold writtenPath
    simp
  rw [shape, Text.trimRight_append (by simpa using slashed), Text.trimRight_eq_self,
    Text.cutLast_append project]
  intro c last
  have ends : (dsn.path ++ CodePoint.ofChar '/' :: dsn.projectId).getLast? =
      dsn.projectId.getLast? := by
    rw [List.append_cons, List.getLast?_append_of_ne_nil _ plain.project.1]
  rw [ends] at last
  exact decide_eq_false fun same => project (same ▸ List.mem_of_getLast? last)

theorem ofUrl_of_tells {url : Url} (plain : dsn.IsPlain) (slashed : ∀ c ∈ slashes, c = '/')
    (tells : Tells url dsn slashes) : ofUrl url = .ok { dsn with secretKey := [] } := by
  have web : Scheme.ofName? (Text.ofString dsn.scheme.name) = some dsn.scheme := by
    cases dsn.scheme <;> decide
  have key : dsn.publicKey.isEmpty = false := List.isEmpty_eq_false_iff.mpr plain.key.occupied
  have host : dsn.host.isEmpty = false := List.isEmpty_eq_false_iff.mpr plain.host.occupied
  have digits : dsn.projectId.isDigits := by
    refine Bool.and_eq_true_iff.mpr ⟨by simpa using plain.project.1, List.all_eq_true.mpr ?_⟩
    intro c member
    simp [CodePoint.isDigit, CodePoint.isDecimalDigit,
      CodePoint.decimalDigit?_asciiDigit (plain.project.2 c member)]
  unfold ofUrl
  rw [tells.scheme, web]
  simp only [tells.key, key, tells.host, host, tells.path, plain.cutLast_writtenPath slashed,
    digits, tells.noSecret, tells.port]
  rfl

end IsPlain

/-- **A plain data source name is read again**, without its secret, whatever blanks surround its
text and however many slashes follow it, exactly if the text keeps the limit on the length of a
URL. -/
theorem parse_toText (plain : dsn.IsPlain) {before after : Text} (front : ∀ c ∈ before, c.isBlank)
    (back : ∀ c ∈ after, c.isBlank) (slashed : ∀ c ∈ slashes, c = '/') :
    parse (before ++ (dsn.toText ++ slashes) ++ after) = .ok { dsn with secretKey := [] } ↔
      (dsn.toText ++ slashes).length ≤ Url.maxLength := by
  have visible := plain.visible slashed
  have stripped := Text.strip_between front back fun c member => (visible c member).1
  constructor
  · intro read
    obtain ⟨url, url_read, -⟩ := accepted_of_parse read
    rw [stripped] at url_read
    exact Url.parse_short url_read
  · intro short
    obtain ⟨url, normal, tells⟩ := plain.exists_url slashed
    have read : Url.parse (dsn.toText ++ slashes) = .ok url :=
      Url.parse_eq_ok_iff.mpr ⟨short, fun c member => (visible c member).2, normal⟩
    unfold parse
    rw [stripped, read]
    exact plain.ofUrl_of_tells slashed tells

/-- A data source name with a secret, and with numbers before its project. -/
def dated : Dsn where
  scheme := .https
  publicKey := "a-b_9"
  host := "o1.ingest.example.com"
  projectId := "42"
  port := some 9000
  path := "/2024/07"
  secretKey := "hush"

/-- This one is read again between blanks and with slashes behind it. -/
theorem dated_read_again :
    IsPlain dated ∧
      parse "\t https://a-b_9@o1.ingest.example.com:9000/2024/07/42// \n" =
        .ok { dated with secretKey := [] } := by
  have plain : IsPlain dated :=
    { key := by decide
      host :=
        { labels := ⟨["o1", "ingest", "example", "com"].map Text.ofString, by decide⟩
          ending := by decide }
      port := by decide
      path := ⟨["2024", "07"].map Text.ofString, by decide⟩
      project := by decide }
  have text : Text.ofString "\t https://a-b_9@o1.ingest.example.com:9000/2024/07/42// \n" =
      Text.ofString "\t " ++ (dated.toText ++ Text.ofString "//") ++ Text.ofString " \n" := by
    decide +kernel
  rw [text]
  exact ⟨plain, (parse_toText plain (by decide) (by decide) (by decide)).mpr (by decide)⟩

end Dsn

end Courier
