/-
**Where the endpoint leads.**

The endpoint is put together from the parts of a data source name, which have been decoded, and
nothing is encoded again. As a URL it leads where the name says exactly if every part is read as it
was pasted: the host is no IPv6 address, which would need its brackets, and is written in the small
letters that it is read in; the port is neither zero, which is left out, nor the one that its scheme
stands for; the path holds nothing that ends a path, nothing that is resolved and nothing that looks
like an escape. Anything else leads elsewhere, or is no URL at all.

* `Dsn.Accepted.cutParts_endpoint`: the parts of the endpoint.
* `Dsn.Leads`, `Dsn.Pasteable`: an endpoint that leads where the name says, and the names that have
  such a one.
* `Dsn.endpoint_leads`: these are all of them.
-/
import Courier.Proofs.DsnParts
import Courier.Proofs.WebUrls
namespace Courier

namespace Dsn

variable {url : Url} {dsn : Dsn}

/-! ### The parts of the endpoint -/

/-- The path of the endpoint. -/
def endpointPath (dsn : Dsn) : Text :=
  dsn.path ++ "/api/" ++ dsn.projectId ++ "/envelope/"

/-- What follows the path and a slash. -/
def endpointTail (dsn : Dsn) : Text :=
  "api/" ++ dsn.projectId ++ "/envelope/"

theorem endpointPath_eq (dsn : Dsn) :
    dsn.endpointPath = dsn.path ++ CodePoint.ofChar '/' :: dsn.endpointTail := by
  have first : Text.ofString "/api/" = CodePoint.ofChar '/' :: Text.ofString "api/" := rfl
  unfold endpointPath endpointTail
  rw [first]
  simp

theorem endpoint_eq (dsn : Dsn) :
    dsn.endpoint = Url.web dsn.scheme dsn.netloc dsn.endpointPath := by
  unfold endpoint endpointPath Url.web
  simp only [List.append_assoc]

namespace Accepted

/-- What follows the path are digits, letters and slashes. -/
theorem points_of_tail (accepted : Accepted url dsn) :
    ∀ c ∈ dsn.endpointTail, c.isAscii = false ∨ c = '/' ∨ Percent.isUnreserved c ∧ c ≠ '.' := by
  have before : ∀ c ∈ Text.ofString "api/", c = '/' ∨ Percent.isUnreserved c ∧ c ≠ '.' := by decide
  have after : ∀ c ∈ Text.ofString "/envelope/", c = '/' ∨ Percent.isUnreserved c ∧ c ≠ '.' := by
    decide
  intro c member
  unfold endpointTail at member
  rcases List.mem_append.mp member with front | last
  · rcases List.mem_append.mp front with first | project
    · exact .inr (before c first)
    · rcases CodePoint.isAsciiDigit_or_beyond (accepted.project c project) with digit | beyond
      · refine .inr (.inr ⟨by simp [Percent.isUnreserved, digit], ?_⟩)
        rintro rfl
        exact absurd digit (by decide)
      · exact .inl beyond
  · exact .inr (after c last)

theorem points_of_netloc (accepted : Accepted url dsn) : ∀ c ∈ dsn.netloc, c ∉ Url.hostEnds := by
  have port : ∀ c ∈ CodePoint.ofChar ':' :: Url.writtenPort dsn.port, c ∉ Url.hostEnds := by
    refine List.forall_mem_cons.mpr ⟨by decide, fun c member ends => ?_⟩
    have others : ∀ d ∈ Url.hostEnds, d ≠ '-' ∧ ¬ d.isAsciiDigit := by decide
    exact (Url.points_of_writtenPort dsn.port c member).elim (others c ends).1 (others c ends).2
  rcases dsn.netloc_cases with ⟨same, -⟩ | whole
  · rw [same]
    exact accepted.host.clean
  · rw [whole]
    exact List.forall_mem_append.mpr ⟨accepted.host.clean, port⟩

theorem endpointPath_slash (accepted : Accepted url dsn) :
    ∃ rest, dsn.endpointPath = CodePoint.ofChar '/' :: rest := by
  rw [endpointPath_eq]
  rcases accepted.path with empty | ⟨rest, first⟩
  · exact ⟨_, by rw [empty]; rfl⟩
  · exact ⟨_, by rw [first]; rfl⟩

theorem inside_authority (accepted : Accepted url dsn) :
    ∀ c ∈ dsn.netloc, c ∉ Url.authorityEnds := by
  have fewer : ∀ c ∈ Url.authorityEnds, c ∈ Url.hostEnds := by decide
  exact fun c member ends => accepted.points_of_netloc c member (fewer c ends)

/-- The parts of the endpoint. -/
theorem cutParts_endpoint (accepted : Accepted url dsn) :
    Url.cutParts dsn.endpoint =
      { scheme := dsn.scheme.name
        authority := dsn.netloc
        path := ((dsn.endpointPath.cut '#').1.cut '?').1
        query := ((dsn.endpointPath.cut '#').1.cut '?').2
        fragment := (dsn.endpointPath.cut '#').2 } := by
  rw [endpoint_eq]
  exact Url.cutParts_web accepted.inside_authority accepted.endpointPath_slash

/-- The host of the endpoint is the one of the name, and its port the one that is written, unless
the host holds a colon: then another one is read as part of the port. -/
theorem authority_endpoint (accepted : Accepted url dsn) :
    (CodePoint.ofChar ':' ∉ dsn.host →
      Url.cutAuthorityParts dsn.netloc = ([], dsn.host, Url.writtenPort dsn.port)) ∧
    (CodePoint.ofChar ':' ∈ dsn.host →
      CodePoint.ofChar ':' ∈ (Url.cutAuthorityParts dsn.netloc).2.2) := by
  have user : CodePoint.ofChar '@' ∉ dsn.netloc := fun member =>
    accepted.points_of_netloc _ member (by decide)
  have start : ∀ rest, (dsn.host ++ rest).head? ≠ some (CodePoint.ofChar '[') := by
    intro rest
    rw [List.head?_append_of_ne_nil _ accepted.occupied]
    exact accepted.host.unbracketed
  obtain ⟨more, whole⟩ : ∃ more, dsn.netloc = dsn.host ++ more := by
    rcases dsn.netloc_cases with ⟨same, -⟩ | whole
    · exact ⟨[], by rw [same, List.append_nil]⟩
    · exact ⟨_, whole⟩
  constructor
  · exact cutAuthorityParts_netloc user (whole ▸ start more)
  · intro colon
    obtain ⟨address, -⟩ := accepted.host.points.resolve_right fun points =>
      absurd (points _ colon) (by decide)
    obtain ⟨first, rest, shape, clean, second, -⟩ := Url.start_of_isIpv6 address
    have plain := start more
    rw [shape, List.append_assoc, List.cons_append] at whole plain
    rw [whole] at user ⊢
    rw [Url.cutAuthorityParts_colon user plain clean]
    exact List.mem_append_left _ second

/-! ### The path of the endpoint -/

/-- No other mark of ASCII stands in what follows the path. -/
theorem absent_in_tail (accepted : Accepted url dsn) {c : CodePoint} (ascii : c.isAscii)
    (other : c ≠ '/' ∧ ¬ (Percent.isUnreserved c ∧ c ≠ '.')) : c ∉ dsn.endpointTail := by
  intro member
  rcases accepted.points_of_tail c member with beyond | slash | plain
  · exact Bool.false_ne_true (beyond.symm.trans ascii)
  · exact other.1 slash
  · exact other.2 plain

theorem scalar_of_path (accepted : Accepted url dsn) :
    ∀ c ∈ dsn.endpointPath, c.isSurrogate = false := by
  have texts : ∀ c ∈ Text.ofString "/api/" ++ Text.ofString "/envelope/",
      c.isSurrogate = false := by
    decide
  obtain ⟨path, project⟩ := List.forall_mem_append.mp accepted.scalar
  obtain ⟨before, after⟩ := List.forall_mem_append.mp texts
  unfold endpointPath
  simp only [List.forall_mem_append]
  exact ⟨⟨⟨path, before⟩, project⟩, after⟩

/-- A mark that ends a path stands in the path of the endpoint exactly if it does in that of the
name. -/
theorem mem_endpointPath_iff (accepted : Accepted url dsn) {c : CodePoint} (ascii : c.isAscii)
    (other : c ≠ '/' ∧ ¬ (Percent.isUnreserved c ∧ c ≠ '.')) :
    c ∈ dsn.endpointPath ↔ c ∈ dsn.path := by
  rw [endpointPath_eq, List.mem_append, List.mem_cons, or_iff_left]
  rintro (slash | tail)
  · exact other.1 slash
  · exact accepted.absent_in_tail ascii other tail

theorem hasEscape_endpointPath_iff (accepted : Accepted url dsn) :
    Percent.HasEscape dsn.endpointPath ↔ Percent.HasEscape dsn.path := by
  rw [endpointPath_eq, Percent.hasEscape_append_slash, or_iff_left]
  exact Percent.not_hasEscape_of_notMem (accepted.absent_in_tail (by decide) (by decide))

theorem dots_endpointPath_iff (accepted : Accepted url dsn) :
    (∀ segment ∈ Text.splitOn '/' dsn.endpointPath, ¬ Url.IsDots segment) ↔
      ∀ segment ∈ Text.splitOn '/' dsn.path, ¬ Url.IsDots segment := by
  rw [endpointPath_eq, Text.splitOn_append, List.forall_mem_append, and_iff_left]
  intro segment listed dots
  have dot : CodePoint.ofChar '.' ∈ segment := by
    rcases dots with rfl | rfl <;> decide
  exact accepted.absent_in_tail (by decide) (by decide) (Text.mem_of_mem_splitOn listed dot).1

end Accepted

/-- A path that is read as the one of the endpoint is not empty. -/
theorem decode_of_decodedPath {target : Url} (path : target.decodedPath = dsn.endpointPath) :
    Percent.decode target.path = dsn.endpointPath := by
  unfold Url.decodedPath at path
  split at path
  · have length := congrArg List.length path
    have one : (Percent.decode "/").length = 1 := by decide
    rw [one, endpointPath_eq, endpointTail] at length
    have letters : (Text.ofString "api/").length = 4 := rfl
    simp only [List.length_append, List.length_cons] at length
    omega
  · exact path

/-! ### Where the endpoint leads -/

/-- A URL is what the endpoint says, and leads where the name says. -/
structure Leads (url target : Url) (dsn : Dsn) : Prop where
  read : Url.parse dsn.endpoint = .ok target
  scheme : target.scheme = url.scheme
  host : target.hostName = url.hostName
  port : target.port = url.port
  path : target.decodedPath = dsn.path ++ "/api/" ++ dsn.projectId ++ "/envelope/"
  query : target.query = none
  fragment : target.fragment = none
  userinfo : target.userinfo = []

/-- Every part is read in the endpoint as it was pasted. -/
structure Pasteable (dsn : Dsn) : Prop where
  /-- No IPv6 address, which would need its brackets. -/
  noColon : CodePoint.ofChar ':' ∉ dsn.host
  address : Url.looksLikeIpv4 dsn.host → Address.isIpv4 dsn.host
  small : dsn.host.toLower = dsn.host
  encodable : ¬ dsn.host.all CodePoint.isAscii → ∃ encoded, Idna.encode dsn.host = .ok encoded
  /-- Zero is not written, and the port of the scheme is not read. -/
  port : dsn.port ≠ some 0 ∧ dsn.port ≠ Url.defaultPort? dsn.scheme.name
  noMarks : CodePoint.ofChar '?' ∉ dsn.path ∧ CodePoint.ofChar '#' ∉ dsn.path
  visible : ∀ c ∈ dsn.path, Url.isControl c = false
  /-- Nothing would be resolved. -/
  noDots : ∀ segment ∈ Text.splitOn '/' dsn.path, ¬ Url.IsDots segment
  /-- Nothing would be decoded once more. -/
  noEscape : ¬ Percent.HasEscape dsn.path
  short : dsn.endpoint.length ≤ Url.maxLength

namespace Accepted

theorem pasteable_of_leads (accepted : Accepted url dsn) {target : Url}
    (leads : Leads url target dsn) : Pasteable dsn := by
  obtain ⟨short, visible, normal⟩ := Url.parse_eq_ok_iff.mp leads.read
  rw [accepted.cutParts_endpoint] at normal
  -- A host with a colon leaves another one in the port, which is then no number.
  have noColon : CodePoint.ofChar ':' ∉ dsn.host := fun colon =>
    Url.noColon_of_normalPort normal.port (accepted.authority_endpoint.2 colon)
  have authority := accepted.authority_endpoint.1 noColon
  have host := normal.host
  have port := normal.port
  simp only [authority, leads.port, accepted.port] at host port
  have told := leads.host.trans accepted.told
  obtain ⟨address, small, encodable⟩ :=
    (Url.hostName_normalHost_iff target accepted.host accepted.occupied noColon).mp
      ⟨target.host, host, told⟩
  have fragment : CodePoint.ofChar '#' ∉ dsn.endpointPath := by
    have none := normal.fragment
    rw [leads.fragment] at none
    exact Text.cut_eq_none_iff.mp (Url.eq_none_of_encodeOptional none)
  have query : CodePoint.ofChar '?' ∉ dsn.endpointPath := by
    have none := normal.query
    rw [leads.query, Text.cut_of_notMem fragment] at none
    exact Text.cut_eq_none_iff.mp (Url.eq_none_of_encodeOptional none)
  -- With neither mark in it, all that follows the authority is the path.
  have wrote := normal.path
  rw [Url.resolved_eq dsn.scheme rfl, Text.cut_of_notMem fragment, Text.cut_of_notMem query] at wrote
  have back := decode_of_decodedPath leads.path
  obtain ⟨dots, escape⟩ := (Url.decode_resolveDots_eq_iff wrote).mp back
  refine ⟨noColon, address, small, encodable,
    (Url.normalPort_writtenPort_iff dsn.scheme accepted.digits).mp port, ⟨?_, ?_⟩, ?_,
    accepted.dots_endpointPath_iff.mp dots, mt accepted.hasEscape_endpointPath_iff.mpr escape,
    short⟩
  · exact mt (accepted.mem_endpointPath_iff (by decide) (by decide)).mpr query
  · exact mt (accepted.mem_endpointPath_iff (by decide) (by decide)).mpr fragment
  · intro c member
    refine visible c ?_
    rw [endpoint_eq, Url.web, endpointPath]
    simp [member]

/-- The endpoint holds no control character: no part but the path could bring one. -/
theorem visible (accepted : Accepted url dsn) (pasteable : Pasteable dsn) :
    ∀ c ∈ dsn.endpoint, Url.isControl c = false := by
  have point : ∀ c, Url.isHostPoint c → Url.isControl c = false := fun _ =>
    Url.not_isControl_of_isHostPoint
  have scheme : ∀ c ∈ Text.ofString dsn.scheme.name, Url.isControl c = false := by
    cases dsn.scheme <;> decide
  have slashes : ∀ c ∈ Text.ofString "://", Url.isControl c = false := by decide
  have host : ∀ c ∈ dsn.host, Url.isControl c = false := by
    rcases accepted.host.points with ⟨address, -⟩ | points
    · exact absurd (Url.colon_of_isIpv6 address) pasteable.noColon
    · exact fun c member => point c (points c member)
  have port : ∀ c ∈ CodePoint.ofChar ':' :: Url.writtenPort dsn.port, Url.isControl c = false := by
    refine List.forall_mem_cons.mpr ⟨by decide, fun c member => ?_⟩
    rcases Url.points_of_writtenPort dsn.port c member with rfl | digit
    · decide
    · exact point c (by simp [Url.isHostPoint, Percent.isUnreserved, digit])
  have netloc : ∀ c ∈ dsn.netloc, Url.isControl c = false := by
    rcases dsn.netloc_cases with ⟨same, -⟩ | whole
    · rwa [same]
    · rw [whole]
      exact List.forall_mem_append.mpr ⟨host, port⟩
  have tail : ∀ c ∈ CodePoint.ofChar '/' :: dsn.endpointTail, Url.isControl c = false := by
    refine List.forall_mem_cons.mpr ⟨by decide, fun c member => ?_⟩
    rcases accepted.points_of_tail c member with beyond | rfl | ⟨plain, -⟩
    · exact point c (by simp [Url.isHostPoint, beyond])
    · decide
    · exact point c (by simp [Url.isHostPoint, plain])
  rw [endpoint_eq, Url.web, endpointPath_eq]
  simp only [List.forall_mem_append]
  exact ⟨scheme, slashes, netloc, pasteable.visible, tail⟩

theorem leads_of_pasteable (accepted : Accepted url dsn) (pasteable : Pasteable dsn) :
    ∃ target, Leads url target dsn := by
  obtain ⟨host, named, told⟩ :=
    (Url.hostName_normalHost_iff url accepted.host accepted.occupied pasteable.noColon).mpr
      ⟨pasteable.address, pasteable.small, pasteable.encodable⟩
  have port := (Url.normalPort_writtenPort_iff dsn.scheme accepted.digits).mpr pasteable.port
  have query := mt (accepted.mem_endpointPath_iff (by decide) (by decide)).mp pasteable.noMarks.1
  have fragment := mt (accepted.mem_endpointPath_iff (by decide) (by decide)).mp pasteable.noMarks.2
  obtain ⟨path, wrote, read⟩ := Url.exists_path accepted.endpointPath_slash accepted.scalar_of_path
    (accepted.dots_endpointPath_iff.mpr pasteable.noDots)
    (mt accepted.hasEscape_endpointPath_iff.mp pasteable.noEscape)
  have normal := Url.normal_web accepted.inside_authority accepted.endpointPath_slash
    ⟨query, fragment⟩ (accepted.authority_endpoint.1 pasteable.noColon) rfl named port wrote
  rw [← endpoint_eq] at normal
  exact ⟨_, Url.parse_eq_ok_iff.mpr ⟨pasteable.short, accepted.visible pasteable, normal⟩,
    accepted.scheme.symm, told.trans accepted.told.symm, accepted.port.symm, read _ rfl, rfl, rfl,
    rfl⟩

/-- **The endpoint leads where the name says** exactly if every part is read in it as it was
pasted. -/
theorem leads_iff (accepted : Accepted url dsn) :
    (∃ target, Leads url target dsn) ↔ Pasteable dsn :=
  ⟨fun ⟨_, leads⟩ => accepted.pasteable_of_leads leads, accepted.leads_of_pasteable⟩

end Accepted

/-- **Where the endpoint of a data source name leads**: it is a URL with the scheme, the host and
the port of the name's own URL, with the path, and with nothing else, exactly if every part of the
name is read in it as it was pasted. -/
theorem endpoint_leads {value : Text} {dsn : Dsn} (read : parse value = .ok dsn) :
    ∃ url, Url.parse value.strip = .ok url ∧
      ((∃ target, Leads url target dsn) ↔ Pasteable dsn) := by
  obtain ⟨url, url_read, accepted⟩ := accepted_of_parse read
  exact ⟨url, url_read, accepted.leads_iff⟩

/-- A data source name with a port and a path. -/
def nested : Dsn where
  scheme := .https
  publicKey := "public"
  host := "ingest.example.com"
  projectId := "42"
  port := some 9000
  path := "/sub/path"
  secretKey := []

/-- The endpoint of this one leads where it says. -/
theorem nested_leads :
    ∃ url target, Url.parse "https://public@ingest.example.com:9000/sub/path/42" = .ok url ∧
      Leads url target nested := by
  have read : parse "https://public@ingest.example.com:9000/sub/path/42" = .ok nested := by
    decide +kernel
  have pasteable : Pasteable nested :=
    ⟨by decide, by decide, by decide +kernel, absurd (by decide), by decide, by decide, by decide,
      by decide, Percent.not_hasEscape_of_notMem (by decide), by decide⟩
  obtain ⟨url, url_read, leads⟩ := endpoint_leads read
  obtain ⟨target, there⟩ := leads.mpr pasteable
  exact ⟨url, target, url_read, there⟩

/-- A text that is read as a data source name, and the endpoint leads elsewhere. -/
def Misleads (value : Text) : Prop :=
  ∃ url dsn, Url.parse value.strip = .ok url ∧ parse value = .ok dsn ∧
    ¬ ∃ target, Leads url target dsn

theorem misleads_of_not_pasteable {value : Text} {dsn : Dsn} (read : parse value = .ok dsn)
    (unfit : ¬ Pasteable dsn) : Misleads value := by
  obtain ⟨url, url_read, accepted⟩ := accepted_of_parse read
  exact ⟨url, dsn, url_read, read, mt accepted.leads_iff.mp unfit⟩

/-- A question mark that was an escape, an address without its brackets, and port zero. -/
theorem pasted_misleads :
    Misleads "https://public@ingest.example.com/a%3Fb/42" ∧
      Misleads "https://public@[2001:db8::1]:8080/42" ∧
      Misleads "https://public@ingest.example.com:0/42" := by
  have mark : parse "https://public@ingest.example.com/a%3Fb/42" =
      .ok { nested with port := none, path := "/a?b" } := by
    decide +kernel
  have address : parse "https://public@[2001:db8::1]:8080/42" =
      .ok { nested with host := "2001:db8::1", port := some 8080, path := [] } := by
    decide +kernel
  have zero : parse "https://public@ingest.example.com:0/42" =
      .ok { nested with port := some 0, path := [] } := by
    decide +kernel
  exact ⟨misleads_of_not_pasteable mark fun fit => absurd fit.noMarks.1 (by decide),
    misleads_of_not_pasteable address fun fit => absurd fit.noColon (by decide),
    misleads_of_not_pasteable zero fun fit => fit.port.1 rfl⟩

end Dsn

end Courier
