/-
**What is no verdict on a data source name.**

A text that is no data source name is said to be invalid, and the check of the settings lists that
among the problems. Two faults are no such verdict. A surrogate in a part of the URL that is
percent-coded has no bytes, and the coding itself fails. And the host name is told only when the
name is put together, after the URL was read: written in ASCII as an encoded one, it may stand for
nothing. A host name that is written in its own letters is encoded while the URL is read, so it can
always be told.

* `Dsn.StraySurrogate`, `Dsn.Misnamed`: the texts with such a fault.
* `Dsn.parse_judges`: all other texts are read or said to be invalid, and only these stop the check
  of the settings.
-/
import Courier.Dsn.Reading
import Courier.Proofs.UrlParts
import Courier.Settings.Basic
namespace Courier.Dsn

/-- The host of a URL as it is written. -/
def writtenHost (t : Text) : Text :=
  (Url.cutAuthorityParts (Url.cutParts t).authority).2.1

/-- A surrogate stands where the URL is percent-coded, and nothing is refused before it. -/
structure StraySurrogate (t : Text) : Prop where
  short : t.length ≤ Url.maxLength
  visible : ∀ c ∈ t, Url.isControl c = false
  trips : Url.Trips (Url.cutParts t)

/-- The host is written in ASCII as an encoded name, which stands for none, in a URL that has a
scheme of the web and a user name. -/
structure Misnamed (t : Text) (url : Url) : Prop where
  read : Url.parse t = .ok url
  web : (Scheme.ofName? url.scheme).isSome
  named : url.username ≠ []
  ascii : ∀ c ∈ writtenHost t, c.isAscii
  marked : (Text.dropStart? Idna.encodedMark (writtenHost t).toAsciiLower).isSome
  untold : ∃ reason, Idna.decode url.host = .error reason

/-- Told to be a data source name, or to be none. -/
def Judged (outcome : Except Fault Dsn) : Prop :=
  (∃ dsn, outcome = .ok dsn) ∨ ∃ reason, outcome = .error (.invalid reason)

theorem judged_ofUrl_iff (url : Url) :
    Judged (ofUrl url) ↔ ¬ ((Scheme.ofName? url.scheme).isSome ∧ url.username ≠ [] ∧
      ∃ reason, url.hostName = .error reason) := by
  unfold ofUrl Judged
  cases web : Scheme.ofName? url.scheme with
  | none => simp
  | some scheme =>
    by_cases named : url.username = []
    · simp [named]
    simp only [List.isEmpty_eq_false_iff.mpr named, Bool.false_eq_true, if_false]
    cases told : url.hostName with
    | error reason => simp [named]
    | ok host =>
      refine iff_of_true ?_ (fun ⟨_, _, reason, untold⟩ => nomatch untold)
      simp only
      split
      · exact .inr ⟨_, rfl⟩
      split
      · exact .inl ⟨_, rfl⟩
      · exact .inr ⟨_, rfl⟩

theorem misnamed_iff {t : Text} {url : Url} (read : Url.parse t = .ok url) :
    Misnamed t url ↔ (Scheme.ofName? url.scheme).isSome ∧ url.username ≠ [] ∧
      ∃ reason, url.hostName = .error reason := by
  have host : Url.HostOf (writtenHost t) url.host :=
    Url.hostOf_of_normalHost (Url.parse_eq_ok_iff.mp read).2.2.host
  rw [Url.hostName_error_iff host]
  exact ⟨fun ⟨_, web, named, ascii, marked, untold⟩ => ⟨web, named, ascii, marked, untold⟩,
    fun ⟨web, named, ascii, marked, untold⟩ => ⟨read, web, named, ascii, marked, untold⟩⟩

theorem straySurrogate_iff {t : Text} :
    StraySurrogate t ↔ ∃ reason, Url.parse t = .error (.unencodable reason) := by
  rw [Url.parse_refused_iff]
  exact ⟨fun ⟨short, visible, trips⟩ => ⟨short, visible, trips⟩,
    fun ⟨short, visible, trips⟩ => ⟨short, visible, trips⟩⟩

/-- Exactly the texts with one of the two faults are not judged. -/
theorem judged_iff (value : Text) :
    Judged (parse value) ↔
      ¬ (StraySurrogate value.strip ∨ ∃ url, Misnamed value.strip url) := by
  rw [straySurrogate_iff]
  unfold parse
  cases read : Url.parse value.strip with
  | ok url =>
    have single : (∃ other, Misnamed value.strip other) ↔ Misnamed value.strip url := by
      refine ⟨fun ⟨other, misnamed⟩ => ?_, fun misnamed => ⟨url, misnamed⟩⟩
      have same := misnamed.read
      rw [read] at same
      exact Except.ok.inj same ▸ misnamed
    simp only [single, misnamed_iff read, judged_ofUrl_iff]
    simp
  | error fault =>
    have unread : ¬ ∃ url, Misnamed value.strip url := fun ⟨url, misnamed⟩ => by
      have other := misnamed.read
      rw [read] at other
      cases other
    cases fault with
    | invalid reason => exact iff_of_true (.inr ⟨_, rfl⟩) (by simp [unread])
    | unencodable reason => exact iff_of_false (by simp [Judged]) (by simp)

theorem problems_isOk_iff (settings : Settings) :
    (∃ problems, settings.problems = .ok problems) ↔
      settings.dsn = [] ∨ Judged (parse settings.dsn) := by
  unfold Settings.problems Settings.dsnProblems Judged
  by_cases empty : settings.dsn = []
  · simp [empty, Except.map]
  · simp only [List.isEmpty_eq_false_iff.mpr empty, Bool.false_eq_true, if_false, empty, false_or]
    cases parse settings.dsn with
    | ok dsn => simp [Except.map]
    | error fault => cases fault <;> simp [Except.map]

theorem badDsn_listed_iff (settings : Settings) (reason : Invalid) :
    (∃ problems, settings.problems = .ok problems ∧ Settings.Problem.badDsn reason ∈ problems) ↔
      settings.dsn ≠ [] ∧ parse settings.dsn = .error (.invalid reason) := by
  have numbers : Settings.Problem.badDsn reason ∉ settings.numberProblems := by
    unfold Settings.numberProblems
    simp only [List.mem_append, not_or]
    refine ⟨⟨?_, ?_⟩, ?_⟩
    all_goals split <;> simp
  unfold Settings.problems Settings.dsnProblems
  by_cases empty : settings.dsn = []
  · simp [empty, Except.map, numbers]
  · simp only [List.isEmpty_eq_false_iff.mpr empty, Bool.false_eq_true, if_false, ne_eq, empty,
      not_false_eq_true, true_and]
    cases parse settings.dsn with
    | ok dsn => simp [Except.map, numbers]
    | error fault =>
      cases fault <;> simp [Except.map, numbers, eq_comm]

/-- **Every text is judged, two faults apart**: it is read as a data source name or said to be none
unless a surrogate stands where its URL is percent-coded or its host is an encoded name for nothing.
The check of the settings ends with a list of problems exactly then, and lists what is said. -/
theorem parse_judges (value : Text) (settings : Settings) :
    (Judged (parse value) ↔
      ¬ (StraySurrogate value.strip ∨ ∃ url, Misnamed value.strip url)) ∧
    ((∃ problems, { settings with dsn := value }.problems = .ok problems) ↔
      value = [] ∨ ¬ (StraySurrogate value.strip ∨ ∃ url, Misnamed value.strip url)) ∧
    ∀ reason,
      (∃ problems, { settings with dsn := value }.problems = .ok problems ∧
        Settings.Problem.badDsn reason ∈ problems) ↔
      value ≠ [] ∧ parse value = .error (.invalid reason) := by
  refine ⟨judged_iff value, ?_, badDsn_listed_iff { settings with dsn := value }⟩
  rw [problems_isOk_iff, judged_iff]

/-- A host name with nothing encoded in it, and half of a surrogate pair in the path. -/
theorem unjudged :
    ¬ Judged (parse "https://public@xn--/42") ∧
      ¬ Judged (parse ("https://k@h/" ++ [CodePoint.ofNat 0xD800] ++ "/42")) := by
  have untold : parse "https://public@xn--/42" = .error (.hostName .nothingEncoded) := by
    decide +kernel
  have stray : parse ("https://k@h/" ++ [CodePoint.ofNat 0xD800] ++ "/42") =
      .error (.unencodable ⟨"utf-8", CodePoint.ofNat 0xD800, 0, 1, "surrogates not allowed"⟩) := by
    decide +kernel
  constructor
  · rw [untold]
    simp [Judged]
  · rw [stray]
    simp [Judged]

end Courier.Dsn
