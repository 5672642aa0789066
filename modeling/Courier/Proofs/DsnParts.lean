/-
**What a data source name is made of.**

The parts of a data source name come from a URL that was read. So its host is an address, a name in
ASCII that stands in the URL as it is, or a decoded one; its port is a number that can be written
again; its path is empty or starts with a slash; its project is made of digits; and no surrogate is
left in what was decoded.

* `CodePoint.isAsciiDigit_or_beyond`: what digits there are.
* `Url.decodedPath_spec`: what the decoded path of a URL is.
* `Dsn.accepted_of_parse`: the parts of a data source name that is read.
-/
import Courier.Dsn.Reading
import Courier.Proofs.PathsAndPorts
import Courier.Proofs.UrlHosts
namespace Courier

/-- A digit is one of ASCII or stands beyond it. -/
theorem CodePoint.isAsciiDigit_or_beyond {c : CodePoint} (digit : c.isDigit) :
    c.isAsciiDigit ∨ c.isAscii = false := by
  have zeros : ∀ start ∈ decimalZeros, start = 0x30 ∨ 0x80 ≤ start := by decide
  have standalone : ∀ range ∈ standaloneDigitRanges, 0x80 ≤ range.1 := by decide
  simp only [isAsciiDigit, isAscii, Bool.and_eq_true, decide_eq_true_eq, decide_eq_false_iff_not]
  rcases Bool.or_eq_true_iff.mp digit with decimal | other
  · obtain ⟨value, known⟩ := Option.isSome_iff_exists.mp decimal
    obtain ⟨start, found, -⟩ := Option.map_eq_some_iff.mp known
    have inside := List.find?_some found
    simp only [Bool.and_eq_true, decide_eq_true_eq] at inside
    have listed := zeros start (List.mem_of_find?_eq_some found)
    omega
  · obtain ⟨range, listed, inside⟩ := List.any_eq_true.mp other
    simp only [Bool.and_eq_true, decide_eq_true_eq] at inside
    have high := standalone range listed
    omega

namespace Url

/-! ### Ports -/

/-- The port of a URL has not too many digits. -/
theorem natAbs_lt_of_normalPort {scheme written : Text} {port : Option Int} {number : Int}
    (normal : normalPort scheme written = .ok port) (known : port = some number) :
    number.natAbs < 10 ^ Integer.maxDigits := by
  subst known
  unfold normalPort at normal
  split at normal
  · cases normal
  split at normal
  · cases normal
  rename_i value read
  split at normal
  · cases normal
  · cases normal
    exact Integer.natAbs_lt_of_parse? read

/-! ### Paths -/

/-- The path of a URL with a host starts with a slash, once decoded, and holds no surrogate. -/
theorem decodedPath_spec {parts : Parts} {url : Url} (normal : Normal parts url)
    (host : url.host ≠ []) :
    (∃ rest, url.decodedPath = CodePoint.ofChar '/' :: rest) ∧
      ∀ c ∈ url.decodedPath, c.isSurrogate = false := by
  have visible : ∀ c, pathSafe c → c.isAscii := fun _ => visibleExcept_isAscii
  have authority : hasAuthority url.userinfo url.host url.port = true := by
    simp [hasAuthority, host]
  have resolved : parts.resolved (hasAuthority url.userinfo url.host url.port) =
      resolveDots parts.path := by
    unfold Parts.resolved
    rw [authority, Bool.or_true, if_pos rfl]
  have path := normal.path
  rw [resolved, encodePart_eq_ok_iff] at path
  obtain ⟨bytes, writes⟩ := Percent.writes_of_encode path
  have ascii := writes.isAscii visible
  unfold decodedPath
  by_cases empty : url.path = []
  · rw [empty]
    exact ⟨⟨[], rfl⟩, fun c => Percent.scalar_of_mem_decode (by decide)⟩
  rw [if_neg (by simpa using empty)]
  refine ⟨?_, fun c => Percent.scalar_of_mem_decode ascii⟩
  have start : resolveDots parts.path = [] ∨
      ∃ more, resolveDots parts.path = CodePoint.ofChar '/' :: more := by
    have placed := normal.placed
    rw [authority] at placed
    cases written : parts.path with
    | nil => exact .inl rfl
    | cons c rest =>
      rw [written] at placed
      by_cases first : c = '/'
      · rw [first]
        exact resolveDots_slash rest
      · simp [checkPath, first] at placed
  rcases start with nothing | ⟨more, first⟩
  · rw [nothing] at path
    exact absurd (Except.ok.inj path).symm empty
  · have front : resolveDots parts.path = [CodePoint.ofChar '/'] ++ more := first
    rw [front] at writes
    obtain ⟨coded, shape⟩ := writes.start_of_kept (by decide)
    rw [List.singleton_append] at shape
    rw [shape] at ascii ⊢
    refine ⟨_, Percent.decode_cons ascii ?_⟩
    rintro ⟨a, b, after, starts, -⟩
    exact absurd (List.cons.inj starts).1 (by decide)

end Url

namespace Dsn

/-- What the parts of a data source name are, and how they follow from its URL. -/
structure Accepted (url : Url) (dsn : Dsn) : Prop where
  scheme : url.scheme = dsn.scheme.name
  told : url.hostName = .ok dsn.host
  port : url.port = dsn.port
  host : Url.HostName dsn.host
  occupied : dsn.host ≠ []
  /-- The port can be written and read again. -/
  digits : ∀ port ∈ dsn.port, port.natAbs < 10 ^ Integer.maxDigits
  path : dsn.path = [] ∨ ∃ rest, dsn.path = CodePoint.ofChar '/' :: rest
  project : ∀ c ∈ dsn.projectId, c.isDigit
  scalar : ∀ c ∈ dsn.path ++ dsn.projectId, c.isSurrogate = false

theorem ofUrl_eq_ok {url : Url} {dsn : Dsn} (made : ofUrl url = .ok dsn) :
    url.scheme = dsn.scheme.name ∧ url.hostName = .ok dsn.host ∧ dsn.host ≠ [] ∧
      url.port = dsn.port ∧ ∃ path,
        (url.decodedPath.trimRight (· = CodePoint.ofChar '/')).cutLast '/' = (path, dsn.projectId) ∧
          dsn.path = path.getD [] ∧ dsn.projectId.isDigits := by
  unfold ofUrl at made
  split at made
  · cases made
  rename_i scheme web
  split at made
  · cases made
  split at made
  · cases made
  rename_i host told
  split at made
  · cases made
  rename_i occupied
  simp only at made
  split at made
  · rename_i digits
    cases made
    refine ⟨?_, told, by simpa using occupied, rfl, _, rfl, rfl, digits⟩
    unfold Scheme.ofName? at web
    split at web
    · cases web
      assumption
    split at web
    · cases web
      assumption
    · cases web
  · cases made

/-- What stands before the last slash of a trimmed path is empty or starts with a slash. -/
theorem path_of_cutLast {t rest project : Text} {path : Option Text}
    (slash : t = CodePoint.ofChar '/' :: rest)
    (cut : (t.trimRight (· = CodePoint.ofChar '/')).cutLast '/' = (path, project)) :
    (path.getD [] = [] ∨ ∃ more, path.getD [] = CodePoint.ofChar '/' :: more) ∧
      ∀ c ∈ path.getD [] ++ project, c ∈ t := by
  generalize trimmed : t.trimRight (· = CodePoint.ofChar '/') = front at cut
  have within : ∀ c ∈ front, c ∈ t := by
    rw [← trimmed]
    exact fun c member => (List.rdropWhile_prefix _ _).subset member
  have first : ∀ c more, front = c :: more → c = CodePoint.ofChar '/' := by
    intro c more shape
    rw [← trimmed, slash, Text.trimRight_cons] at shape
    split at shape
    · cases shape
    · exact (List.cons.inj shape).1.symm
  rcases Text.cutLast_cases '/' front with ⟨-, same⟩ | ⟨before, after, -, shape, same⟩
  · rw [same] at cut
    cases cut
    exact ⟨.inl rfl, within⟩
  · rw [same] at cut
    cases cut
    rw [shape] at within first
    refine ⟨?_, fun c member => within c ?_⟩
    · cases before with
      | nil => exact .inl rfl
      | cons c more => exact .inr ⟨more, by rw [Option.getD_some, first c _ rfl]⟩
    · rw [Option.getD_some, List.mem_append] at member
      exact List.mem_append.mpr (member.imp_right (List.mem_cons_of_mem _))

/-- The parts of a data source name that is read. -/
theorem accepted_of_parse {value : Text} {dsn : Dsn} (read : parse value = .ok dsn) :
    ∃ url, Url.parse value.strip = .ok url ∧ Accepted url dsn := by
  obtain ⟨url, url_read, made⟩ : ∃ url, Url.parse value.strip = .ok url ∧ ofUrl url = .ok dsn := by
    unfold parse at read
    split at read
    · cases read
    · cases read
    · exact ⟨_, by assumption, read⟩
  obtain ⟨scheme, told, occupied, port, path, cut, same, project⟩ := ofUrl_eq_ok made
  have normal := (Url.parse_eq_ok_iff.mp url_read).2.2
  have named := Url.hostOf_of_normalHost normal.host
  have host : url.host ≠ [] := by
    intro none
    unfold Url.hostName at told
    rw [none] at told
    exact occupied (Except.ok.inj told).symm
  obtain ⟨⟨rest, slash⟩, scalar⟩ := Url.decodedPath_spec normal host
  obtain ⟨shape, within⟩ := path_of_cutLast slash cut
  rw [← same] at shape within
  refine ⟨url, url_read, scheme, told, port,
    Url.hostName_of_told named (Url.not_hostEnds_of_cutParts value.strip) told, occupied, ?_, shape,
    ?_, fun c member => scalar c (within c member)⟩
  · intro number known
    exact Url.natAbs_lt_of_normalPort normal.port (port.trans known)
  · exact fun c member => List.all_eq_true.mp (Bool.and_eq_true_iff.mp project).2 c member

end Dsn

end Courier
