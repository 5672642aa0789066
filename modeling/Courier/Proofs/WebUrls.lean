/-
**URLs of the web, put together.**

A scheme, an authority and a path that are written one after another are taken apart again as they
were put together, if none of them holds a mark that ends it; and so is an authority that was put
together from user information, a host and a port. A path is read as it is written if nothing in it
is resolved and nothing looks like an escape.

* `Url.normalPort_writtenPort_iff`: the ports that are read as they are written.
* `Url.normal_web`: the URL that is read from what was put together.
* `Url.exists_path`: the paths that are read as they are written.
* `Dsn.cutAuthorityParts_netloc`: host and port of a data source name are found again.
-/
import Courier.Dsn.Basic
import Courier.Proofs.PathsAndPorts
import Courier.Proofs.UrlHosts
namespace Courier

namespace Url

/-! ### Ports -/

/-- The port as the endpoint has it: zero is left out. -/
def writtenPort : Option Int → Text
  | none => []
  | some port => if port = 0 then [] else Text.ofInt port

theorem points_of_writtenPort (port : Option Int) :
    ∀ c ∈ writtenPort port, c = '-' ∨ c.isAsciiDigit := by
  unfold writtenPort
  split
  · nofun
  · split
    · nofun
    · exact Integer.points_of_ofInt _

/-- **A port is read as it is written** if it is neither zero nor the one of its scheme. -/
theorem normalPort_writtenPort_iff (scheme : Scheme) {port : Option Int}
    (digits : ∀ number ∈ port, number.natAbs < 10 ^ Integer.maxDigits) :
    normalPort scheme.name (writtenPort port) = .ok port ↔
      port ≠ some 0 ∧ port ≠ defaultPort? scheme.name := by
  cases port with
  | none =>
    have other : (none : Option Int) ≠ defaultPort? scheme.name := by cases scheme <;> decide
    exact iff_of_true rfl ⟨nofun, other⟩
  | some number =>
    by_cases zero : number = 0
    · rw [zero]
      exact iff_of_false nofun fun both => both.1 rfl
    have written : writtenPort (some number) = Text.ofInt number := if_neg zero
    have some : (Text.ofInt number).isEmpty = false :=
      List.isEmpty_eq_false_iff.mpr (Json.ofInt_ne_nil number)
    rw [written, normalPort, some, if_neg Bool.false_ne_true,
      Integer.parse?_ofInt (digits number rfl)]
    simp [zero]

/-- No port is written with a colon. -/
theorem noColon_of_normalPort {scheme written : Text} {port : Option Int}
    (normal : normalPort scheme written = .ok port) : CodePoint.ofChar ':' ∉ written := by
  intro colon
  unfold normalPort at normal
  split at normal
  · rename_i none
    rw [List.isEmpty_iff.mp none] at colon
    cases colon
  split at normal
  · cases normal
  rename_i number read
  have point := Integer.points_of_parse? read _ colon
  revert point
  decide

/-! ### Authorities -/

section Authority

variable {t : Text}

theorem cutHost_plain (plain : t.head? ≠ some (CodePoint.ofChar '[')) :
    cutHost t =
      (t.takeWhile (· != CodePoint.ofChar ':'), t.dropWhile (· != CodePoint.ofChar ':')) := by
  cases t with
  | nil => rfl
  | cons c rest =>
    exact if_neg fun same => plain (congrArg some same)

theorem cutAuthorityParts_plain (user : CodePoint.ofChar '@' ∉ t)
    (plain : t.head? ≠ some (CodePoint.ofChar '[')) (noColon : CodePoint.ofChar ':' ∉ t) :
    cutAuthorityParts t = ([], t, []) := by
  have solid : ∀ c ∈ t, (c != CodePoint.ofChar ':') = true := fun c member =>
    bne_iff_ne.mpr fun same => noColon (same ▸ member)
  unfold cutAuthorityParts
  rw [Text.cutLast_of_notMem user]
  simp only [cutHost_plain plain, List.takeWhile_eq_self_iff.mpr solid,
    List.dropWhile_eq_nil_iff.mpr solid]
  rfl

/-- The host reaches to the first colon, and the port follows it. -/
theorem cutAuthorityParts_colon {host port : Text}
    (user : CodePoint.ofChar '@' ∉ host ++ CodePoint.ofChar ':' :: port)
    (plain : (host ++ CodePoint.ofChar ':' :: port).head? ≠ some (CodePoint.ofChar '['))
    (noColon : CodePoint.ofChar ':' ∉ host) :
    cutAuthorityParts (host ++ CodePoint.ofChar ':' :: port) = ([], host, port) := by
  have solid : ∀ c ∈ host, (c != CodePoint.ofChar ':') = true := fun c member =>
    bne_iff_ne.mpr fun same => noColon (same ▸ member)
  unfold cutAuthorityParts
  rw [Text.cutLast_of_notMem user]
  simp only [cutHost_plain plain, List.takeWhile_append_of_pos solid,
    List.dropWhile_append_of_pos solid]
  simp

/-- User information reaches to the last at-sign. -/
theorem cutAuthorityParts_user (clean : CodePoint.ofChar '@' ∉ t) (user : Text) :
    cutAuthorityParts (user ++ CodePoint.ofChar '@' :: t) = (user, (cutAuthorityParts t).2) := by
  unfold cutAuthorityParts
  rw [Text.cutLast_append clean, Text.cutLast_of_notMem clean]
  rfl

end Authority

/-! ### Scheme, authority and path -/

/-- The text of a URL of the web. -/
def web (scheme : Scheme) (authority path : Text) : Text :=
  Text.ofString scheme.name ++ ("://" ++ (authority ++ path))

/-- The marks that end an authority. -/
def authorityEnds : Text :=
  "/?#"

section Web

variable {scheme : Scheme} {authority path : Text}

theorem cutParts_web (clean : ∀ c ∈ authority, c ∉ authorityEnds)
    (slash : ∃ rest, path = CodePoint.ofChar '/' :: rest) :
    cutParts (web scheme authority path) =
      { scheme := scheme.name
        authority := authority
        path := ((path.cut '#').1.cut '?').1
        query := ((path.cut '#').1.cut '?').2
        fragment := (path.cut '#').2 } := by
  have first : cutScheme (web scheme authority path) =
      (Text.ofString scheme.name, "//" ++ (authority ++ path)) := by
    unfold web
    cases scheme <;> rfl
  have second : cutAuthority ("//" ++ (authority ++ path)) = (authority, path) := by
    have inside : ∀ c ∈ authority, (!(c = CodePoint.ofChar '/' || c = CodePoint.ofChar '?' ||
        c = CodePoint.ofChar '#')) = true := by
      intro c member
      have other := clean c member
      simp only [authorityEnds, Text.ofString] at other
      simp_all
    obtain ⟨rest, rfl⟩ := slash
    unfold cutAuthority
    rw [Text.dropStart?_append]
    simp only [List.takeWhile_append_of_pos inside, List.dropWhile_append_of_pos inside]
    simp
  unfold cutParts
  rw [first]
  simp only [second]

theorem small_name (scheme : Scheme) :
    (Text.ofString scheme.name).toAsciiLower = Text.ofString scheme.name := by
  cases scheme <;> decide

/-- The path of a URL with a scheme is resolved. -/
theorem resolved_eq (scheme : Scheme) {parts : Parts} (same : parts.scheme = scheme.name)
    (authority : Bool) : parts.resolved authority = resolveDots parts.path := by
  have web : (!(Text.ofString scheme.name).toAsciiLower.isEmpty) = true := by
    cases scheme <;> decide
  unfold Parts.resolved
  rw [same, web, Bool.true_or, if_pos rfl]

/-- **A URL of the web is read part by part**, if no mark in its path ends it. -/
theorem normal_web {user name userinfo host written : Text} {port : Option Int}
    (clean : ∀ c ∈ authority, c ∉ authorityEnds)
    (slash : ∃ rest, path = CodePoint.ofChar '/' :: rest)
    (noMarks : CodePoint.ofChar '?' ∉ path ∧ CodePoint.ofChar '#' ∉ path)
    (parts : cutAuthorityParts authority = (user, name, writtenPort port))
    (user_coded : encodePart userinfoSafe user = .ok userinfo) (named : normalHost name = .ok host)
    (numbered : normalPort scheme.name (writtenPort port) = .ok port)
    (path_coded : encodePart pathSafe (resolveDots path) = .ok written) :
    Normal (cutParts (web scheme authority path))
      ⟨scheme.name, userinfo, host, port, written, none, none⟩ := by
  rw [cutParts_web clean slash, Text.cut_of_notMem noMarks.2, Text.cut_of_notMem noMarks.1]
  refine ⟨(small_name scheme).symm, ?_, ?_, ?_, ?_, ?_, rfl, rfl⟩
  · rw [parts]
    exact user_coded
  · rw [parts]
    exact named
  · rw [parts]
    exact numbered
  · obtain ⟨rest, rfl⟩ := slash
    rw [small_name]
    cases scheme <;> simp [checkPath, Scheme.name, Text.ofString]
  · rw [resolved_eq scheme rfl]
    exact path_coded

/-- **A path is read as it is written** if nothing in it is resolved and nothing is an escape. -/
theorem exists_path (slash : ∃ rest, path = CodePoint.ofChar '/' :: rest)
    (scalar : ∀ c ∈ path, c.isSurrogate = false)
    (noDots : ∀ segment ∈ Text.splitOn '/' path, ¬ IsDots segment)
    (noEscape : ¬ Percent.HasEscape path) :
    ∃ written, encodePart pathSafe (resolveDots path) = .ok written ∧
      ∀ url : Url, url.path = written → url.decodedPath = path := by
  have resolved := resolveDots_of_plain noDots
  obtain ⟨written, wrote⟩ := exists_encodePart pathSafe (not_holdsSurrogate_iff.mpr scalar)
  rw [← resolved] at wrote
  have back := (decode_resolveDots_eq_iff wrote).mpr ⟨noDots, noEscape⟩
  refine ⟨written, wrote, fun url same => ?_⟩
  have filled : written ≠ [] := by
    rintro rfl
    obtain ⟨rest, rfl⟩ := slash
    exact absurd back.symm (by simp [Percent.decode])
  unfold decodedPath
  rw [same, if_neg (by simpa using filled), back]

end Web

end Url

namespace Dsn

/-! ### Host and port of a data source name -/

theorem netloc_cases (dsn : Dsn) :
    (dsn.netloc = dsn.host ∧ Url.writtenPort dsn.port = []) ∨
      dsn.netloc = dsn.host ++ CodePoint.ofChar ':' :: Url.writtenPort dsn.port := by
  unfold netloc Url.writtenPort
  cases dsn.port with
  | none => exact .inl ⟨rfl, rfl⟩
  | some port =>
    by_cases zero : port = 0
    · exact .inl ⟨if_pos zero, if_pos zero⟩
    · refine .inr ?_
      simp only [if_neg zero, List.append_assoc]
      rfl

/-- **Host and port are found again** where the host holds no colon. -/
theorem cutAuthorityParts_netloc {dsn : Dsn} (user : CodePoint.ofChar '@' ∉ dsn.netloc)
    (unbracketed : dsn.netloc.head? ≠ some (CodePoint.ofChar '['))
    (noColon : CodePoint.ofChar ':' ∉ dsn.host) :
    Url.cutAuthorityParts dsn.netloc = ([], dsn.host, Url.writtenPort dsn.port) := by
  rcases dsn.netloc_cases with ⟨same, noPort⟩ | whole
  · rw [same] at user unbracketed ⊢
    rw [noPort, Url.cutAuthorityParts_plain user unbracketed noColon]
  · rw [whole] at user unbracketed ⊢
    exact Url.cutAuthorityParts_colon user unbracketed noColon

end Dsn

end Courier
