/-
**Host names of URLs.**

The host name of a URL is an IPv6 address without its brackets, a plain name that stands in the URL
as it is, or a decoded one. Written as the host of another URL it may be read as something else: an
IPv6 address is missed without its brackets, capitals become small, and what looks like an IPv4
address has to be one.

* `Url.HostName`: what the host name of a URL can be.
* `Url.hostName_of_told`: the host name of a URL that is read is one of these.
* `Url.hostName_normalHost_iff`: the host names that are read as they are written.
-/
import Courier.Proofs.JsonTokens
import Courier.Proofs.UrlParts
namespace Courier.Url

/-! ### Host names -/

/-- The marks that end a host, or what stands before it. -/
def hostEnds : Text :=
  "/?#@"

/-- What the host name of a URL can be. -/
inductive HostName (name : Text) : Prop
  | plain (kept : ∀ c ∈ name, (Percent.isUnreserved c || hostSafe c) = true)
      (unmarked : (Text.dropStart? Idna.encodedMark name).isSome = false)
  | ipv6 (address : Address.isIpv6 name) (clean : ∀ c ∈ name, c ∉ hostEnds)
  | decoded {ascii : Text} (marked : (Text.dropStart? Idna.encodedMark ascii).isSome)
      (read : Idna.decode ascii = .ok name)

theorem mem_of_mem_cutHost {t : Text} {c : CodePoint} (member : c ∈ (cutHost t).1) : c ∈ t := by
  cases t with
  | nil => cases member
  | cons first rest =>
    have plain : c ∈ (first :: rest).takeWhile (· != CodePoint.ofChar ':') → c ∈ first :: rest :=
      fun inside => (List.takeWhile_prefix _).subset inside
    unfold cutHost at member
    simp only at member
    split at member
    · split at member
      · rename_i inside after cut
        rcases Text.cutLast_cases ']' (first :: rest) with ⟨-, same⟩ | ⟨before, _, -, shape, same⟩
        · rw [same] at cut
          cases cut
        · rw [same] at cut
          cases cut
          rw [shape]
          rcases List.mem_append.mp member with inner | closing
          · exact List.mem_append_left _ inner
          · rw [List.mem_singleton.mp closing]
            exact List.mem_append_right _ (List.mem_cons_self ..)
      · exact plain member
    · exact plain member

theorem host_cutAuthorityParts (authority : Text) :
    (cutAuthorityParts authority).2.1 = (cutHost (authority.cutLast '@').2).1 :=
  rfl

/-- The host that is cut out of a text holds none of these marks. -/
theorem not_hostEnds_of_cutParts (t : Text) :
    ∀ c ∈ (cutAuthorityParts (cutParts t).authority).2.1, c ∉ hostEnds := by
  intro c member
  rw [host_cutAuthorityParts] at member
  have within := mem_of_mem_cutHost member
  obtain ⟨inside, single⟩ : c ∈ (cutParts t).authority ∧ c ≠ '@' := by
    rcases Text.cutLast_cases '@' (cutParts t).authority with
      ⟨absent, cut⟩ | ⟨before, after, absent, shape, cut⟩
    all_goals rw [cut] at within
    · exact ⟨within, fun same => absent (same ▸ within)⟩
    · rw [shape]
      exact ⟨List.mem_append_right _ (List.mem_cons_of_mem _ within),
        fun same => absent (same ▸ within)⟩
  change c ∈ (cutAuthority (cutScheme t).2).1 at inside
  unfold cutAuthority at inside
  split at inside
  · cases inside
  have held := List.mem_takeWhile_imp inside
  simp only [Bool.not_eq_true', Bool.or_eq_false_iff, decide_eq_false_iff_not] at held
  simp [hostEnds, Text.ofString, held, single]

/-- The encoded form of a host name is plain. -/
theorem isUnreserved_of_mayStand {c : CodePoint} (stands : Idna.mayStand c.toAsciiLower.val)
    (ascii : c.isAscii) : Percent.isUnreserved c := by
  have low : c.toAsciiLower.val < 0x80 := of_decide_eq_true (CodePoint.isAscii_toAsciiLower ascii)
  have plain := (Idna.mayStand_ascii_iff low).mp stands
  rw [CodePoint.toAsciiLower_val] at plain
  by_cases hyphen : c.val = 0x2D
  · rw [show c = '-' from CodePoint.ext_val hyphen]
    decide
  · simp only [Percent.isUnreserved, CodePoint.isAsciiLetter, CodePoint.isAsciiDigit,
      Bool.or_eq_true, Bool.and_eq_true, decide_eq_true_eq]
    split at plain <;> omega

theorem hostName_of_told {written name : Text} {url : Url} (host : HostOf written url.host)
    (clean : ∀ c ∈ written, c ∉ hostEnds) (told : url.hostName = .ok name) : HostName name := by
  unfold hostName at told
  split at told
  · rename_i marked
    exact .decoded marked told
  rename_i unmarked
  cases told
  rw [Bool.not_eq_true] at unmarked
  cases host with
  | absent none same => exact .plain (by simp [same]) unmarked
  | ipv4 address same =>
    refine .plain (fun c member => Bool.or_eq_true_iff.mpr (.inl ?_)) unmarked
    rcases points_of_isIpv4 address c (same ▸ member) with rfl | digit
    · decide
    · simp [Percent.isUnreserved, digit]
  | ipv6 address bracketed =>
    exact .ipv6 address fun c member => clean c (by rw [bracketed]; simp [member])
  | ascii _ coded =>
    obtain ⟨bytes, writes⟩ := Percent.writes_of_encode coded
    refine .plain (fun c member => ?_) unmarked
    rcases writes.points c member with rfl | kept
    · decide
    · exact Bool.or_eq_true_iff.mpr (kept.imp_right And.left)
  | foreign _ encoded =>
    refine .plain (fun c member => Bool.or_eq_true_iff.mpr (.inl ?_)) unmarked
    rcases Idna.points_of_encode encoded c member with rfl | ⟨stands, ascii⟩
    · decide
    · exact isUnreserved_of_mayStand stands ascii

/-! ### Reading back -/

/-- May stand in a host name that is no IPv6 address. -/
def isHostPoint (c : CodePoint) : Bool :=
  Percent.isUnreserved c || hostSafe c || !c.isAscii

theorem not_isControl_of_isHostPoint {c : CodePoint} (point : isHostPoint c) :
    isControl c = false := by
  have each : ∀ n < 0x80, isControl (CodePoint.ofNat n) →
      isHostPoint (CodePoint.ofNat n) = false := by
    decide +kernel
  by_contra control
  rw [Bool.not_eq_false] at control
  have low : c.val < 0x80 := by
    simp only [isControl, Bool.or_eq_true, decide_eq_true_eq] at control
    omega
  rw [← CodePoint.ofNat_val c] at point control
  rw [each c.val low control] at point
  cases point

variable {name : Text}

namespace HostName

/-- A host name consists of such code points unless it is an IPv6 address. -/
theorem points (host : HostName name) :
    (Address.isIpv6 name ∧ ∀ c ∈ name, c ∉ hostEnds) ∨ ∀ c ∈ name, isHostPoint c := by
  cases host with
  | plain kept unmarked => exact .inr fun c member => Bool.or_eq_true_iff.mpr (.inl (kept c member))
  | ipv6 address clean => exact .inl ⟨address, clean⟩
  | decoded marked read =>
    refine .inr fun c member => ?_
    by_cases ascii : c.isAscii
    · refine Bool.or_eq_true_iff.mpr (.inl (Bool.or_eq_true_iff.mpr (.inl ?_)))
      rcases (Idna.decoded_of_decode read).points c member with rfl | stands
      · decide
      · exact isUnreserved_of_mayStand (by rwa [Idna.toAsciiLower_of_mayStand stands]) ascii
    · simp [isHostPoint, ascii]

/-- No host name holds a mark that ends it. -/
theorem clean (host : HostName name) : ∀ c ∈ name, c ∉ hostEnds := by
  have each : ∀ c ∈ hostEnds, isHostPoint c = false := by decide
  rcases host.points with ⟨-, clean⟩ | points
  · exact clean
  · intro c member ends
    have point := points c member
    rw [each c ends] at point
    cases point

theorem unbracketed (host : HostName name) : name.head? ≠ some (CodePoint.ofChar '[') := by
  intro bracket
  obtain ⟨rest, rfl⟩ : ∃ rest, name = CodePoint.ofChar '[' :: rest := by
    cases name with
    | nil => cases bracket
    | cons c rest => exact ⟨rest, by rw [Option.some.inj bracket]⟩
  rcases host.points with ⟨address, -⟩ | points
  · exact absurd (head_of_isIpv6 address) (by decide)
  · exact absurd (points _ (List.mem_cons_self ..)) (by decide)

end HostName

theorem isAscii_of_kept (kept : ∀ c ∈ name, (Percent.isUnreserved c || hostSafe c) = true) :
    ∀ c ∈ name, c.isAscii := fun c member =>
  (Bool.or_eq_true_iff.mp (kept c member)).elim Percent.isAscii_of_isUnreserved hostSafe_isAscii

/-- What looks like an IPv4 address has to be one. -/
theorem normalHost_of_like (occupied : name ≠ []) (like : looksLikeIpv4 name) :
    normalHost name = if Address.isIpv4 name then .ok name else .error (.invalid (.ipv4 name)) := by
  unfold normalHost
  rw [if_neg (by simpa using occupied), if_pos like]

/-- An IPv4 address is told again. -/
theorem hostName_ipv4 (url : Url) (address : Address.isIpv4 name) :
    { url with host := name }.hostName = .ok name ∧ name.toLower = name ∧
      name.all CodePoint.isAscii := by
  have each : ∀ c ∈ name, c.isAscii ∧ c.toAsciiLower = c ∧ c ≠ 'x' := by
    intro c member
    rcases points_of_isIpv4 address c member with rfl | digit
    · decide
    · have bounds := Json.bounds_of_isAsciiDigit digit
      refine ⟨decide_eq_true (by omega), ?_, ?_⟩
      · exact CodePoint.ext_val (by rw [CodePoint.toAsciiLower_val, if_neg (by omega)])
      · rintro rfl
        exact absurd bounds (by decide)
  refine ⟨if_neg fun marked => ?_, ?_, List.all_eq_true.mpr fun c member => (each c member).1⟩
  · obtain ⟨rest, first⟩ := encodedMark_head marked
    exact (each _ (by simp [show name = _ from first])).2.2 rfl
  · rw [Text.toLower_of_isAscii fun c member => (each c member).1]
    exact (List.map_congr_left fun c member => (each c member).2.1).trans (List.map_id _)

/-- A host that is no address is percent-coded or encoded. -/
theorem normalHost_eq_ok_iff {normal : Text} (host : HostName name) (occupied : name ≠ [])
    (unlike : ¬ looksLikeIpv4 name) :
    normalHost name = .ok normal ↔
      (name.all CodePoint.isAscii ∧ Percent.encode hostSafe name.toLower = .ok normal) ∨
        (¬ name.all CodePoint.isAscii ∧ Idna.encode name.toLower = .ok normal) := by
  have bare : isBracketed name = false := by
    simp [isBracketed, host.unbracketed]
  unfold normalHost
  rw [if_neg (by simpa using occupied), if_neg unlike, bare, if_neg Bool.false_ne_true]
  by_cases ascii : name.all CodePoint.isAscii
  · rw [if_pos ascii]
    cases Percent.encode hostSafe name.toLower <;> simp [ascii]
  · rw [if_neg ascii]
    cases Idna.encode name.toLower <;> simp [ascii]

/-- A plain host name is told again if it is in small letters. -/
theorem hostName_plain_iff {url : Url}
    (kept : ∀ c ∈ name, (Percent.isUnreserved c || hostSafe c) = true)
    (unmarked : (Text.dropStart? Idna.encodedMark name).isSome = false)
    (wrote : Percent.encode hostSafe name.toLower = .ok url.host) :
    url.hostName = .ok name ↔ name.toLower = name := by
  have ascii := isAscii_of_kept kept
  unfold hostName
  constructor
  · intro told
    split at told
    · rename_i marked
      have foreign := (Idna.decoded_of_decode told).foreign marked
      exact absurd (List.all_eq_true.mpr ascii) foreign
    · -- The name is what was coded from its small letters, and both are of one length.
      cases told
      rw [Text.toLower_of_isAscii ascii] at wrote ⊢
      obtain ⟨bytes, writes⟩ := Percent.writes_of_encode wrote
      exact (writes.length_le.2 (List.length_map _).symm).symm
  · intro small
    rw [small, Percent.encode_of_kept kept] at wrote
    rw [← Except.ok.inj wrote, unmarked]
    rfl

/-- A decoded host name is told again if it is in small letters. -/
theorem hostName_decoded_iff {url : Url} {ascii : Text}
    (marked : (Text.dropStart? Idna.encodedMark ascii).isSome) (read : Idna.decode ascii = .ok name)
    (wrote : Idna.encode name.toLower = .ok url.host) :
    url.hostName = .ok name ↔ name.toLower = name := by
  have decoded := Idna.decoded_of_decode read
  unfold hostName
  constructor
  · intro told
    split at told
    · exact Idna.toLower_of_decode read wrote told
    · -- What encoding gives is ASCII, so a decoded name cannot stand as it is.
      cases told
      refine absurd (List.all_eq_true.mpr fun c member => ?_) (decoded.foreign marked)
      rcases Idna.points_of_encode wrote c member with rfl | ⟨-, low⟩
      · decide
      · exact low
  · intro small
    rw [small] at wrote
    obtain ⟨label, others, first, beyond⟩ := decoded.beyond marked
    obtain ⟨again, back, same⟩ := Idna.decode_encode wrote
    rw [if_pos (Idna.encodedMark_of_encode wrote first beyond), back,
      same fun label listed _ => decoded.passed label listed, decoded.whole]

/-- **A host name is read as it is written** if it is no IPv6 address, is an IPv4 address where it
looks like one, is in small letters, and can be encoded where it has to be. -/
theorem hostName_normalHost_iff (url : Url) (host : HostName name) (occupied : name ≠ [])
    (noColon : CodePoint.ofChar ':' ∉ name) :
    (∃ normal, normalHost name = .ok normal ∧ { url with host := normal }.hostName = .ok name) ↔
      (looksLikeIpv4 name → Address.isIpv4 name) ∧ name.toLower = name ∧
        (¬ name.all CodePoint.isAscii → ∃ encoded, Idna.encode name = .ok encoded) := by
  by_cases like : looksLikeIpv4 name
  · rw [normalHost_of_like occupied like]
    by_cases address : Address.isIpv4 name
    · obtain ⟨told, small, ascii⟩ := hostName_ipv4 url address
      exact iff_of_true ⟨name, if_pos address, told⟩ ⟨fun _ => address, small, absurd ascii⟩
    · rw [if_neg address]
      exact iff_of_false (fun ⟨_, made, _⟩ => nomatch made) fun ⟨is_address, _⟩ =>
        address (is_address like)
  simp only [normalHost_eq_ok_iff host occupied like]
  cases host with
  | ipv6 address => exact absurd (colon_of_isIpv6 address) noColon
  | plain kept unmarked =>
    have ascii := isAscii_of_kept kept
    have whole := List.all_eq_true.mpr ascii
    obtain ⟨coded, wrote⟩ := exists_encode_toLower ascii
    have told : ({ url with host := coded } : Url).hostName = .ok name ↔ name.toLower = name :=
      hostName_plain_iff kept unmarked wrote
    simp [whole, wrote, told, like]
  | decoded marked read =>
    have foreign := (Idna.decoded_of_decode read).foreign marked
    have told : ∀ {normal : Text}, Idna.encode name.toLower = .ok normal →
        (({ url with host := normal } : Url).hostName = .ok name ↔ name.toLower = name) :=
      fun wrote => hostName_decoded_iff marked read wrote
    constructor
    · rintro ⟨normal, ⟨ascii, -⟩ | ⟨-, wrote⟩, again⟩
      · exact absurd ascii foreign
      · have small := (told wrote).mp again
        exact ⟨fun looks => absurd looks like, small, fun _ => ⟨normal, small ▸ wrote⟩⟩
    · rintro ⟨-, small, encodes⟩
      obtain ⟨normal, wrote⟩ := encodes foreign
      rw [← small] at wrote
      exact ⟨normal, .inr ⟨foreign, wrote⟩, (told wrote).mpr small⟩

end Courier.Url
