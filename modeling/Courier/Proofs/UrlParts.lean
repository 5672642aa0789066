/-
**What a URL is read from.**

A URL is read if each of its parts can be normalised, so the parts of a URL that was read are known,
and so is where its host comes from: an address of either kind stands as it was written, a name in
ASCII is percent-coded in small letters, and any other name is encoded by IDNA. The first part that
cannot be normalised is the fault.

* `Url.parse_eq_ok_iff`: the parts of a URL that is read.
* `Url.parse_refused_iff`: the texts that are refused because of a surrogate.
* `Url.HostOf`: where a host comes from.
* `Url.hostName_error_iff`: the host names that cannot be told.
-/
import Courier.Proofs.HostNames
import Courier.Proofs.PercentCoding
import Courier.Url.Basic
namespace Courier.Url

/-! ### The parts of a URL -/

/-- Something stands in the authority. -/
def hasAuthority (userinfo host : Text) (port : Option Int) : Bool :=
  !userinfo.isEmpty || !host.isEmpty || port.isSome

/-- The path that is percent-coded: without dot segments, unless nothing stands before it. -/
def Parts.resolved (parts : Parts) (hasAuthority : Bool) : Text :=
  if !parts.scheme.toAsciiLower.isEmpty || hasAuthority then resolveDots parts.path else parts.path

/-- The parts of a text bring about a URL. -/
structure Normal (parts : Parts) (url : Url) : Prop where
  scheme : url.scheme = parts.scheme.toAsciiLower
  userinfo : encodePart userinfoSafe (cutAuthorityParts parts.authority).1 = .ok url.userinfo
  host : normalHost (cutAuthorityParts parts.authority).2.1 = .ok url.host
  port : normalPort parts.scheme (cutAuthorityParts parts.authority).2.2 = .ok url.port
  placed : checkPath (!parts.scheme.toAsciiLower.isEmpty)
    (hasAuthority url.userinfo url.host url.port) parts.path = .ok ()
  path : encodePart pathSafe (parts.resolved (hasAuthority url.userinfo url.host url.port)) =
    .ok url.path
  query : encodeOptional querySafe parts.query = .ok url.query
  fragment : encodeOptional fragmentSafe parts.fragment = .ok url.fragment

theorem ofParts_eq_ok_iff {parts : Parts} {url : Url} :
    ofParts parts = .ok url ↔ Normal parts url := by
  unfold ofParts
  simp only [bind_eq_ok_iff]
  constructor
  · rintro ⟨userinfo, userinfo_eq, host, host_eq, port, port_eq, ⟨⟩, placed, path, path_eq, query,
      query_eq, fragment, fragment_eq, same⟩
    cases same
    exact ⟨rfl, userinfo_eq, host_eq, port_eq, placed, path_eq, query_eq, fragment_eq⟩
  · rintro ⟨scheme, userinfo, host, port, placed, path, query, fragment⟩
    refine ⟨_, userinfo, _, host, _, port, (), placed, _, path, _, query, _, fragment, ?_⟩
    rw [← scheme]
    rfl

/-! ### Surrogates -/

theorem visibleExcept_isAscii {excluded : Text} {c : CodePoint}
    (safe : visibleExcept excluded c) : c.isAscii := by
  simp only [visibleExcept, Bool.and_eq_true, decide_eq_true_eq] at safe
  exact decide_eq_true (by omega)

theorem hostSafe_isAscii {c : CodePoint} (safe : hostSafe c) : c.isAscii := by
  have each : ∀ d ∈ Text.ofString "!$&'()*+,;=\"`\x7b\x7d%|\\", d.isAscii := by decide
  exact each c (List.contains_iff_mem.mp safe)

/-- Holds a surrogate. -/
def HoldsSurrogate (t : Text) : Prop :=
  ∃ c ∈ t, c.isSurrogate

section Coding

variable {safe : CodePoint → Bool} {t : Text}

theorem not_holdsSurrogate_iff : ¬ HoldsSurrogate t ↔ ∀ c ∈ t, c.isSurrogate = false := by
  simp [HoldsSurrogate]

theorem encodePart_eq_ok_iff {coded : Text} :
    encodePart safe t = .ok coded ↔ Percent.encode safe t = .ok coded := by
  unfold encodePart
  cases Percent.encode safe t <;> simp

/-- A part is refused exactly for a surrogate. -/
theorem encodePart_refused_iff (safe : CodePoint → Bool) (ascii : ∀ c, safe c → c.isAscii) :
    (∃ reason, encodePart safe t = .error (.unencodable reason)) ↔ HoldsSurrogate t := by
  have coded := Percent.encode_isOk_iff (t := t) ascii
  rw [← not_holdsSurrogate_iff] at coded
  rw [← not_iff_not, ← coded]
  unfold encodePart
  cases Percent.encode safe t with
  | ok written => simp
  | error reason => simp

theorem encodeOptional_refused_iff (safe : CodePoint → Bool) (ascii : ∀ c, safe c → c.isAscii)
    {part : Option Text} :
    (∃ reason, encodeOptional safe part = .error (.unencodable reason)) ↔
      ∃ t ∈ part, HoldsSurrogate t := by
  cases part with
  | none => simp [encodeOptional]
  | some t =>
    simp only [Option.mem_some_iff, exists_eq_left', ← encodePart_refused_iff safe ascii]
    unfold encodeOptional
    cases coded : encodePart safe t with
    | ok written => simp [Except.map, coded]
    | error fault => simp [Except.map, coded]

theorem exists_encodePart (safe : CodePoint → Bool) (none : ¬ HoldsSurrogate t) :
    ∃ coded, encodePart safe t = .ok coded := by
  obtain ⟨coded, wrote⟩ := Percent.exists_encode safe (not_holdsSurrogate_iff.mp none)
  exact ⟨coded, encodePart_eq_ok_iff.mpr wrote⟩

theorem exists_encodeOptional (safe : CodePoint → Bool) {part : Option Text}
    (none : ¬ ∃ t ∈ part, HoldsSurrogate t) :
    ∃ coded, encodeOptional safe part = .ok coded := by
  cases part with
  | none => exact ⟨_, rfl⟩
  | some t =>
    obtain ⟨coded, wrote⟩ := exists_encodePart safe fun holds => none ⟨t, rfl, holds⟩
    exact ⟨some coded, by rw [encodeOptional, wrote]; rfl⟩

theorem eq_none_of_encodeOptional {part : Option Text}
    (coded : encodeOptional safe part = .ok none) : part = none := by
  cases part with
  | none => rfl
  | some t =>
    obtain ⟨_, -, none⟩ := map_eq_ok_iff.mp coded
    cases none

end Coding

/-- An ASCII host can be coded in small letters. -/
theorem exists_encode_toLower {host : Text} (ascii : ∀ c ∈ host, c.isAscii) :
    ∃ coded, Percent.encode hostSafe host.toLower = .ok coded := by
  rw [Text.toLower_of_isAscii ascii]
  refine Percent.exists_encode _ fun c member => ?_
  obtain ⟨d, inside, rfl⟩ := List.mem_map.mp member
  exact Percent.not_isSurrogate_of_isAscii (CodePoint.isAscii_toAsciiLower (ascii d inside))

/-- No host is refused for a surrogate. -/
theorem normalHost_ne_unencodable {host : Text} {reason : Unencodable} :
    normalHost host ≠ .error (.unencodable reason) := by
  intro refused
  unfold normalHost at refused
  split at refused
  · cases refused
  split at refused
  · split at refused <;> cases refused
  split at refused
  · simp only at refused
    split at refused <;> cases refused
  split at refused
  · rename_i ascii
    obtain ⟨coded, wrote⟩ := exists_encode_toLower (List.all_eq_true.mp ascii)
    rw [wrote] at refused
    cases refused
  · split at refused <;> cases refused

theorem normalPort_ne_unencodable {scheme port : Text} {reason : Unencodable} :
    normalPort scheme port ≠ .error (.unencodable reason) := by
  intro refused
  unfold normalPort at refused
  split at refused
  · cases refused
  · split at refused <;> cases refused

theorem checkPath_ne_unencodable {hasScheme hasAuthority : Bool} {path : Text}
    {reason : Unencodable} :
    checkPath hasScheme hasAuthority path ≠ .error (.unencodable reason) := by
  intro refused
  unfold checkPath at refused
  split at refused
  · cases refused
  split at refused
  · cases refused
  split at refused <;> cases refused

/-- A surrogate stands in a part that is percent-coded, and no part before it is refused. -/
inductive Trips (parts : Parts) : Prop
  | userinfo (holds : HoldsSurrogate (cutAuthorityParts parts.authority).1)
  | later {userinfo host : Text} {port : Option Int}
      (coded : encodePart userinfoSafe (cutAuthorityParts parts.authority).1 = .ok userinfo)
      (named : normalHost (cutAuthorityParts parts.authority).2.1 = .ok host)
      (numbered : normalPort parts.scheme (cutAuthorityParts parts.authority).2.2 = .ok port)
      (placed : checkPath (!parts.scheme.toAsciiLower.isEmpty) (hasAuthority userinfo host port)
        parts.path = .ok ())
      (holds : HoldsSurrogate (parts.resolved (hasAuthority userinfo host port)) ∨
        (∃ query ∈ parts.query, HoldsSurrogate query) ∨
        ∃ fragment ∈ parts.fragment, HoldsSurrogate fragment)

theorem ofParts_refused_iff {parts : Parts} :
    (∃ reason, ofParts parts = .error (.unencodable reason)) ↔ Trips parts := by
  have visible : ∀ {excluded : Text} (c : CodePoint), visibleExcept excluded c → c.isAscii :=
    fun _ => visibleExcept_isAscii
  unfold ofParts
  simp only [bind_eq_error_iff]
  constructor
  · rintro ⟨reason, refused⟩
    rcases refused with refused | ⟨userinfo, coded, refused⟩
    · exact .userinfo ((encodePart_refused_iff _ visible).mp ⟨reason, refused⟩)
    rcases refused with refused | ⟨host, named, refused⟩
    · exact absurd refused normalHost_ne_unencodable
    rcases refused with refused | ⟨port, numbered, refused⟩
    · exact absurd refused normalPort_ne_unencodable
    rcases refused with refused | ⟨⟨⟩, placed, refused⟩
    · exact absurd refused checkPath_ne_unencodable
    refine .later coded named numbered placed ?_
    rcases refused with refused | ⟨_, -, refused⟩
    · exact .inl ((encodePart_refused_iff _ visible).mp ⟨reason, refused⟩)
    rcases refused with refused | ⟨_, -, refused⟩
    · exact .inr (.inl ((encodeOptional_refused_iff _ visible).mp ⟨reason, refused⟩))
    rcases refused with refused | ⟨_, -, refused⟩
    · exact .inr (.inr ((encodeOptional_refused_iff _ visible).mp ⟨reason, refused⟩))
    · cases refused
  · intro trips
    cases trips with
    | userinfo holds =>
      obtain ⟨reason, refused⟩ := (encodePart_refused_iff userinfoSafe visible).mpr holds
      exact ⟨reason, .inl refused⟩
    | @later userinfo host port coded named numbered placed holds =>
      -- The first of the three parts that holds a surrogate is refused.
      suffices ∃ reason, _ from
        this.imp fun _ refused =>
          .inr ⟨_, coded, .inr ⟨_, named, .inr ⟨_, numbered, .inr ⟨(), placed, refused⟩⟩⟩⟩
      by_cases path : HoldsSurrogate (parts.resolved (hasAuthority userinfo host port))
      · obtain ⟨reason, refused⟩ := (encodePart_refused_iff pathSafe visible).mpr path
        exact ⟨reason, .inl refused⟩
      obtain ⟨_, path_coded⟩ := exists_encodePart pathSafe path
      by_cases query : ∃ query ∈ parts.query, HoldsSurrogate query
      · obtain ⟨reason, refused⟩ := (encodeOptional_refused_iff querySafe visible).mpr query
        exact ⟨reason, .inr ⟨_, path_coded, .inl refused⟩⟩
      obtain ⟨_, query_coded⟩ := exists_encodeOptional querySafe query
      have fragment := (holds.resolve_left path).resolve_left query
      obtain ⟨reason, refused⟩ :=
        (encodeOptional_refused_iff fragmentSafe visible).mpr fragment
      exact ⟨reason, .inr ⟨_, path_coded, .inr ⟨_, query_coded, .inl refused⟩⟩⟩

/-! ### Addresses -/

theorem points_of_isIpv4 {t : Text} (address : Address.isIpv4 t) :
    ∀ c ∈ t, c = '.' ∨ c.isAsciiDigit := by
  simp only [Address.isIpv4, Bool.and_eq_true, List.all_eq_true] at address
  intro c member
  rw [← Text.join_splitOn '.' t] at member
  rcases Text.mem_join member with dot | ⟨octet, listed, inside⟩
  · exact .inl (List.mem_singleton.mp dot)
  · have digits := address.2 octet listed
    simp only [Address.isOctet, Bool.and_eq_true, List.all_eq_true] at digits
    exact .inr (digits.1.1.1.2 c inside)

theorem hexDigit_of_isGroup {c : CodePoint} {rest : Text} (group : Address.isGroup (c :: rest)) :
    c.hexDigit?.isSome := by
  simp only [Address.isGroup, Bool.and_eq_true, List.all_eq_true] at group
  exact group.2 c (List.mem_cons_self ..)

/-- The groups start with a gap or with a group. -/
theorem first_of_areGroups {first : Text} {others : List Text}
    (groups : Address.areGroups (first :: others)) : first = [] ∨ Address.isGroup first := by
  by_cases gap : first = []
  · exact .inl gap
  refine .inr ?_
  unfold Address.areGroups at groups
  simp only at groups
  split at groups
  · simp only [Bool.and_eq_true, List.all_eq_true] at groups
    exact groups.2 first (List.mem_cons_self ..)
  · have shown : (!first.isEmpty) = true := by simpa using gap
    have front : (first :: others).takeWhile (fun part => !part.isEmpty) =
        first :: others.takeWhile (fun part => !part.isEmpty) := List.takeWhile_cons_of_pos shown
    simp only [front, List.isEmpty_cons, Bool.false_eq_true, if_false, Bool.and_eq_true,
      List.all_eq_true] at groups
    exact groups.1.2 first (List.mem_cons_self ..)
  · cases groups

/-- The groups start with the first piece before a colon, and there are at least three pieces. -/
theorem groups?_eq_some {t : Text} {parts : List Text} (read : Address.groups? t = some parts) :
    ∃ first second third others more, Text.splitOn ':' t = first :: second :: third :: others ∧
      parts = first :: more := by
  unfold Address.groups? at read
  simp only at read
  split at read
  · cases read
  split at read
  · cases read
  rename_i several
  obtain ⟨first, second, third, others, pieces⟩ : ∃ first second third others,
      Text.splitOn ':' t = first :: second :: third :: others := by
    match pieces : Text.splitOn ':' t with
    | [] => simp [pieces] at several
    | [_] => simp [pieces] at several
    | [_, _] => simp [pieces] at several
    | first :: second :: third :: others => exact ⟨first, second, third, others, rfl⟩
  refine ⟨first, second, third, others, ?_⟩
  rw [pieces] at read ⊢
  split at read
  · split at read
    · cases read
      exact ⟨_, rfl, rfl⟩
    · cases read
  · cases read
    exact ⟨_, rfl, rfl⟩

/-- An IPv6 address starts with a group or a gap and holds at least two colons. -/
theorem start_of_isIpv6 {t : Text} (address : Address.isIpv6 t) :
    ∃ first rest, t = first ++ CodePoint.ofChar ':' :: rest ∧ CodePoint.ofChar ':' ∉ first ∧
      CodePoint.ofChar ':' ∈ rest ∧ (first = [] ∨ Address.isGroup first) := by
  simp only [Address.isIpv6, Bool.and_eq_true] at address
  obtain ⟨-, groups⟩ := address
  split at groups
  · cases groups
  rename_i parts read
  obtain ⟨first, second, third, others, more, pieces, rfl⟩ := groups?_eq_some read
  obtain ⟨zone, whole⟩ : ∃ zone, t = (t.cut '%').1 ++ zone := by
    rcases Text.cut_cases '%' t with ⟨-, cut⟩ | ⟨front, zone, -, shape, cut⟩
    · exact ⟨[], by rw [cut, List.append_nil]⟩
    · exact ⟨CodePoint.ofChar '%' :: zone, by rw [cut]; exact shape⟩
  rcases Text.cut_cases ':' (t.cut '%').1 with ⟨absent, -⟩ | ⟨before, after, clean, shape, cut⟩
  · rw [Text.splitOn_of_notMem absent] at pieces
    cases pieces
  rw [Text.splitOn_eq_cut, cut] at pieces
  obtain ⟨rfl, later⟩ := List.cons.inj pieces
  have colon : CodePoint.ofChar ':' ∈ after := by
    by_contra absent
    simp only [Option.map_some, Option.getD_some, Text.splitOn_of_notMem absent] at later
    cases later
  refine ⟨before, after ++ zone, ?_, clean, List.mem_append_left _ colon,
    first_of_areGroups groups⟩
  rw [whole, shape, List.append_assoc, List.cons_append]

/-- The first code point of an IPv6 address is a colon or a hexadecimal digit. -/
theorem head_of_isIpv6 {c : CodePoint} {rest : Text} (address : Address.isIpv6 (c :: rest)) :
    c = ':' ∨ c.hexDigit?.isSome := by
  obtain ⟨first, others, shape, -, -, group⟩ := start_of_isIpv6 address
  cases first with
  | nil => exact .inl (List.cons.inj shape).1
  | cons d more =>
    rw [(List.cons.inj shape).1]
    exact .inr (hexDigit_of_isGroup (group.resolve_left nofun))

theorem colon_of_isIpv6 {t : Text} (address : Address.isIpv6 t) : CodePoint.ofChar ':' ∈ t := by
  obtain ⟨first, rest, shape, -⟩ := start_of_isIpv6 address
  rw [shape]
  exact List.mem_append_right _ (List.mem_cons_self ..)

/-! ### Hosts -/

theorem eq_of_isBracketed {t : Text} (bracketed : isBracketed t) :
    t = CodePoint.ofChar '[' :: (t.drop 1).dropLast ++ [CodePoint.ofChar ']'] := by
  simp only [isBracketed, Bool.and_eq_true, decide_eq_true_eq] at bracketed
  obtain ⟨⟨long, opening⟩, closing⟩ := bracketed
  obtain ⟨inside, rfl⟩ := List.getLast?_eq_some_iff.mp closing
  cases inside with
  | nil => simp at long
  | cons c rest =>
    rw [List.cons_append, List.head?_cons, Option.some.injEq] at opening
    rw [opening]
    simp

/-- Where the host of a URL comes from. -/
inductive HostOf (written normal : Text) : Prop
  | absent (none : written = []) (same : normal = [])
  | ipv4 (address : Address.isIpv4 written) (same : normal = written)
  | ipv6 (address : Address.isIpv6 normal)
      (bracketed : written = CodePoint.ofChar '[' :: normal ++ [CodePoint.ofChar ']'])
  | ascii (ascii : ∀ c ∈ written, c.isAscii)
      (coded : Percent.encode hostSafe written.toLower = .ok normal)
  | foreign (beyond : ¬ ∀ c ∈ written, c.isAscii)
      (encoded : Idna.encode written.toLower = .ok normal)

theorem hostOf_of_normalHost {written normal : Text} (named : normalHost written = .ok normal) :
    HostOf written normal := by
  unfold normalHost at named
  split at named
  · rename_i none
    cases named
    exact .absent (List.isEmpty_iff.mp none) rfl
  split at named
  · split at named
    · rename_i address
      cases named
      exact .ipv4 address rfl
    · cases named
  split at named
  · rename_i bracketed
    simp only at named
    split at named
    · rename_i address
      cases named
      exact .ipv6 address (eq_of_isBracketed bracketed)
    · cases named
  split at named
  · rename_i ascii
    split at named
    · rename_i coded
      cases named
      exact .ascii (List.all_eq_true.mp ascii) coded
    · cases named
  · rename_i beyond
    split at named
    · rename_i encoded
      cases named
      exact .foreign (fun ascii => beyond (List.all_eq_true.mpr ascii)) encoded
    · cases named

/-- What is percent-coded begins with the mark of an encoded label where what was written does. -/
theorem marked_encode_iff {t coded : Text} (wrote : Percent.encode hostSafe t = .ok coded) :
    (Text.dropStart? Idna.encodedMark coded).isSome ↔
      (Text.dropStart? Idna.encodedMark t).isSome := by
  obtain ⟨bytes, writes⟩ := Percent.writes_of_encode wrote
  simp only [Option.isSome_iff_exists]
  constructor
  · rintro ⟨more, starts⟩
    rw [Text.dropStart?_eq_some starts] at writes
    obtain ⟨rest, rfl⟩ := writes.start (by decide)
    exact ⟨rest, Text.dropStart?_append ..⟩
  · rintro ⟨rest, starts⟩
    rw [Text.dropStart?_eq_some starts] at writes
    obtain ⟨more, rfl⟩ := writes.start_of_kept (by decide)
    exact ⟨more, Text.dropStart?_append ..⟩

theorem encodedMark_head {t : Text} (marked : (Text.dropStart? Idna.encodedMark t).isSome) :
    ∃ rest, t = CodePoint.ofChar 'x' :: rest := by
  obtain ⟨rest, starts⟩ := Option.isSome_iff_exists.mp marked
  exact ⟨_, Text.dropStart?_eq_some starts⟩

/-- Only a name begins with an encoded label: no address does. -/
theorem HostOf.named {written normal : Text} (host : HostOf written normal)
    (marked : (Text.dropStart? Idna.encodedMark normal).isSome) :
    ((∀ c ∈ written, c.isAscii) ∧ Percent.encode hostSafe written.toAsciiLower = .ok normal) ∨
      Idna.encode written.toLower = .ok normal := by
  obtain ⟨rest, first⟩ := encodedMark_head marked
  cases host with
  | absent none same =>
    rw [same] at first
    cases first
  | ipv4 address same =>
    have digit := points_of_isIpv4 address (CodePoint.ofChar 'x') (by simp [← same, first])
    exact absurd digit (by decide)
  | ipv6 address bracketed =>
    rw [first] at address
    exact absurd (head_of_isIpv6 address) (by decide)
  | ascii ascii coded => exact .inl ⟨ascii, Text.toLower_of_isAscii ascii ▸ coded⟩
  | foreign beyond encoded => exact .inr encoded

/-- A host that is written in ASCII with the mark of an encoded label keeps it. -/
theorem HostOf.marked {written normal : Text} (host : HostOf written normal)
    (ascii : ∀ c ∈ written, c.isAscii)
    (marked : (Text.dropStart? Idna.encodedMark written.toAsciiLower).isSome) :
    (Text.dropStart? Idna.encodedMark normal).isSome := by
  obtain ⟨rest, first⟩ := encodedMark_head marked
  obtain ⟨c, others, shape, small⟩ : ∃ c others, written = c :: others ∧ c.toAsciiLower = 'x' := by
    cases written with
    | nil => cases first
    | cons c others => exact ⟨c, others, rfl, (List.cons.inj first).1⟩
  cases host with
  | absent none same =>
    rw [none] at shape
    cases shape
  | ipv4 address same =>
    rcases points_of_isIpv4 address c (by simp [shape]) with rfl | digit
    · exact absurd small (by decide)
    · have value := c.toAsciiLower_val
      simp only [CodePoint.isAsciiDigit, Bool.and_eq_true, decide_eq_true_eq] at digit
      rw [if_neg (by omega), small] at value
      rw [← value] at digit
      exact absurd digit (by decide)
  | ipv6 address bracketed =>
    rw [shape, List.cons_append, List.cons.injEq] at bracketed
    rw [bracketed.1] at small
    exact absurd small (by decide)
  | ascii _ coded =>
    rw [Text.toLower_of_isAscii ascii] at coded
    exact (marked_encode_iff coded).mpr marked
  | foreign beyond _ => exact absurd ascii beyond

/-- The host name of a URL cannot be told exactly if the host was written in ASCII as an encoded
one that stands for none. -/
theorem hostName_error_iff {written : Text} {url : Url} (host : HostOf written url.host) :
    (∃ reason, url.hostName = .error reason) ↔
      (∀ c ∈ written, c.isAscii) ∧
        (Text.dropStart? Idna.encodedMark written.toAsciiLower).isSome ∧
        ∃ reason, Idna.decode url.host = .error reason := by
  unfold hostName
  constructor
  · rintro ⟨reason, untold⟩
    split at untold
    · rename_i marked
      rcases host.named marked with ⟨ascii, coded⟩ | encoded
      · exact ⟨ascii, (marked_encode_iff coded).mp marked, reason, untold⟩
      · obtain ⟨name, told, -⟩ := Idna.decode_encode encoded
        rw [told] at untold
        cases untold
    · cases untold
  · rintro ⟨ascii, marked, reason, untold⟩
    rw [if_pos (host.marked ascii marked)]
    exact ⟨reason, untold⟩

/-! ### Texts -/

/-- A text is cut into parts unless it is too long or holds a control character. -/
theorem parse_eq {t : Text} (short : t.length ≤ maxLength)
    (visible : ∀ c ∈ t, isControl c = false) : parse t = ofParts (cutParts t) := by
  have none : t.dropWhile (fun c => !isControl c) = [] :=
    Utf8.dropWhile_eq_nil_iff.mpr fun c member => by simp [visible c member]
  unfold parse
  rw [if_neg (Nat.not_lt.mpr short), none]

/-- What is refused outright is too long or holds a control character. -/
theorem parse_cases (t : Text) :
    (t.length ≤ maxLength ∧ (∀ c ∈ t, isControl c = false) ∧ parse t = ofParts (cutParts t)) ∨
      (¬ (t.length ≤ maxLength ∧ ∀ c ∈ t, isControl c = false) ∧
        ∃ reason, parse t = .error (.invalid reason)) := by
  by_cases long : maxLength < t.length
  · exact .inr ⟨fun fits => Nat.not_lt.mpr fits.1 long, .tooLong, if_pos long⟩
  by_cases visible : ∀ c ∈ t, isControl c = false
  · exact .inl ⟨Nat.le_of_not_lt long, visible, parse_eq (Nat.le_of_not_lt long) visible⟩
  · refine .inr ⟨fun fits => visible fits.2, ?_⟩
    unfold parse
    rw [if_neg long]
    split
    · exact ⟨_, rfl⟩
    · rename_i none
      refine absurd (fun c member => ?_) visible
      simpa using Utf8.dropWhile_eq_nil_iff.mp none c member

/-- A text is refused for a surrogate exactly if one stands in a part that is percent-coded and
nothing else is refused before. -/
theorem parse_refused_iff {t : Text} :
    (∃ reason, parse t = .error (.unencodable reason)) ↔
      t.length ≤ maxLength ∧ (∀ c ∈ t, isControl c = false) ∧ Trips (cutParts t) := by
  rcases parse_cases t with ⟨short, visible, same⟩ | ⟨unfit, reason, same⟩
  · rw [same, ofParts_refused_iff]
    exact ⟨fun trips => ⟨short, visible, trips⟩, fun ⟨_, _, trips⟩ => trips⟩
  · rw [same]
    exact iff_of_false nofun fun ⟨short, visible, _⟩ => unfit ⟨short, visible⟩

theorem parse_eq_ok_iff {t : Text} {url : Url} :
    parse t = .ok url ↔
      t.length ≤ maxLength ∧ (∀ c ∈ t, isControl c = false) ∧ Normal (cutParts t) url := by
  rcases parse_cases t with ⟨short, visible, same⟩ | ⟨unfit, reason, same⟩
  · rw [same, ofParts_eq_ok_iff]
    exact ⟨fun normal => ⟨short, visible, normal⟩, fun ⟨_, _, normal⟩ => normal⟩
  · rw [same]
    exact iff_of_false nofun fun ⟨short, visible, _⟩ => unfit ⟨short, visible⟩

end Courier.Url
