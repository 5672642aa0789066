/-
**Host names are read back.**

A label is checked before it is encoded and after it is decoded, so it holds permitted code points
only: no dot, no capital letter of ASCII, no surrogate. With Punycode being read back, the encoded
form of a label stands for just this label, and what stands between the dots stays there. So the
form in which a host name is encoded is never refused where it is decoded.

* `Idna.Sound`: what the rules for a label make sure of.
* `Idna.Decodes`, `Idna.Encodes`: what decoding and encoding a label give.
* `Idna.decode_encode`: an encoded host name is decoded again.
* `Idna.decoded_of_decode`: a decoded host name consists of sound labels.
* `Idna.toLower_of_decode`: small letters of a decoded host name that are still the same name.
-/
import Courier.Idna.HostName
import Courier.Proofs.HeaderNames
import Courier.Proofs.PunycodeRoundTrip
import Courier.Proofs.Results
namespace Courier

/-! ### Small letters -/

/-- Only one run of capitals is in ASCII, and no run of small letters reaches a dot. -/
theorem caseRuns_bounds : ∀ run ∈ caseRuns, (run = (0x41, 0x5A, 1, 0x61) ∨ 0x80 ≤ run.1) ∧
    ∀ dot ∈ [0x2E, 0x3002, 0xFF0E, 0xFF61],
      dot < run.2.2.2 ∨ run.2.2.2 + (run.2.1 - run.1) < dot := by
  decide +kernel

namespace CodePoint

/-- The small letter of a code point that has one of its own. -/
def small (c : CodePoint) : CodePoint :=
  ofNat (smallOf c.val)

theorem small_of_isAscii {c : CodePoint} (ascii : c.isAscii) : c.small = c.toAsciiLower := by
  have low : c.val < 0x80 := of_decide_eq_true ascii
  apply ext_val
  rw [toAsciiLower_val]
  unfold small
  split
  · rename_i capital
    rw [smallOf_asciiCapital capital]
    unfold ofNat
    rw [dif_pos (by omega)]
  · rename_i other
    have none : caseRuns.find? (fun run =>
        run.1 ≤ c.val && c.val ≤ run.2.1 && (c.val - run.1) % run.2.2.1 == 0) = none := by
      refine List.find?_eq_none.mpr fun run listed => ?_
      simp only [Bool.and_eq_true, decide_eq_true_eq]
      rintro ⟨⟨above, below⟩, -⟩
      rcases (caseRuns_bounds run listed).1 with rfl | high
      · exact other ⟨above, below⟩
      · omega
    unfold smallOf
    rw [none]
    exact congrArg val (ofNat_val c)

theorem isAscii_toAsciiLower {c : CodePoint} (ascii : c.isAscii) : c.toAsciiLower.isAscii := by
  have low : c.val < 0x80 := of_decide_eq_true ascii
  refine decide_eq_true ?_
  rw [toAsciiLower_val]
  split <;> omega

end CodePoint

namespace Text

/-- Two code points apart, the small letters of a text are those of its code points. -/
theorem toLower_eq_map {t : Text} (plain : ∀ c ∈ t, c.val ≠ 0x130 ∧ c.val ≠ 0x3A3) :
    t.toLower = t.map CodePoint.small := by
  unfold toLower
  generalize ([] : Text) = before
  induction t generalizing before with
  | nil => rfl
  | cons c rest ih =>
    obtain ⟨here, later⟩ := List.forall_mem_cons.mp plain
    rw [toLowerAfter, if_neg here.1, if_neg here.2, ih later]
    rfl

/-- An ASCII text has no other small letters than those of ASCII. -/
theorem toLower_of_isAscii {t : Text} (ascii : ∀ c ∈ t, c.isAscii) :
    t.toLower = t.toAsciiLower := by
  refine (toLower_eq_map fun c member => ?_).trans
    (List.map_congr_left fun c member => CodePoint.small_of_isAscii (ascii c member))
  have low : c.val < 0x80 := of_decide_eq_true (ascii c member)
  omega

end Text

namespace Idna

/-! ### The code points of a label -/

/-- May stand in a label, outright or in some context. -/
def mayStand (n : Nat) : Bool :=
  isPermitted n || isJoiner n || isContextual n

theorem beyond_ascii :
    ∀ range ∈ permittedBasicRanges.drop 3 ++ permittedSupplementaryRanges, 0x80 ≤ range.1 := by
  have each : (permittedBasicRanges.drop 3 ++ permittedSupplementaryRanges).all
      (fun range => 0x80 ≤ range.1) = true := by
    decide +kernel
  exact fun range listed => of_decide_eq_true (List.all_eq_true.mp each range listed)

/-- In ASCII the hyphen, the digits and the small letters may stand in a label. -/
theorem mayStand_ascii_iff {n : Nat} (ascii : n < 0x80) :
    mayStand n ↔ n = 0x2D ∨ (0x30 ≤ n ∧ n ≤ 0x39) ∨ (0x61 ≤ n ∧ n ≤ 0x7A) := by
  have beyond : ∀ ranges, (∀ range ∈ ranges,
      range ∈ permittedBasicRanges.drop 3 ++ permittedSupplementaryRanges) →
      inRanges ranges n = false := fun ranges among => by
    refine List.any_eq_false.mpr fun range listed => ?_
    have high := beyond_ascii range (among range listed)
    simp only [Bool.and_eq_true, decide_eq_true_eq, not_and]
    omega
  have basic : permittedBasicRanges =
      (0x2D, 0x2D) :: (0x30, 0x39) :: (0x61, 0x7A) :: permittedBasicRanges.drop 3 := rfl
  have later := beyond (permittedBasicRanges.drop 3) fun _ => List.mem_append_left _
  have supplementary := beyond permittedSupplementaryRanges fun _ => List.mem_append_right _
  have joiner : isJoiner n = false := by
    simp only [isJoiner, Bool.and_eq_false_iff, decide_eq_false_iff_not]
    omega
  have contextual : isContextual n = false := by
    simp only [isContextual, Bool.or_eq_false_iff, Bool.and_eq_false_iff, decide_eq_false_iff_not]
    omega
  simp only [mayStand, isPermitted, joiner, contextual, supplementary, Bool.or_false]
  unfold inRanges at later ⊢
  rw [basic]
  simp only [List.any_cons, later, Bool.or_eq_true, Bool.and_eq_true, decide_eq_true_eq,
    Bool.false_eq_true, or_false]
  omega

theorem not_mayStand_dots :
    mayStand 0x3002 = false ∧ mayStand 0xFF0E = false ∧ mayStand 0xFF61 = false := by
  decide +kernel

variable {c : CodePoint}

theorem isDot_of_mayStand (stands : mayStand c.val) : isDot c = false := by
  obtain ⟨first, second, third⟩ := not_mayStand_dots
  by_contra dot
  simp only [isDot, Bool.or_eq_false_iff, decide_eq_false_iff_not, not_and_or, not_not] at dot
  rcases dot with ((rfl | same) | same) | same
  · have ascii := (mayStand_ascii_iff (by decide)).mp stands
    revert ascii
    decide
  all_goals
    rw [same] at stands
    simp_all

theorem toAsciiLower_of_mayStand (stands : mayStand c.val) : c.toAsciiLower = c := by
  unfold CodePoint.toAsciiLower
  split
  · rfl
  split
  · rename_i low high
    have ascii := (mayStand_ascii_iff (by omega)).mp stands
    omega
  · rfl

/-! ### The rules for a label -/

/-- What the rules for a label make sure of. -/
structure Sound (label : Text) : Prop where
  occupied : label ≠ []
  /-- A label that stands for itself is not taken for an encoded one. -/
  unmarked : Text.dropStart? encodedMark label = none
  points : ∀ c ∈ label, mayStand c.val

theorem mayStand_of_checkPoints {label before t : Text}
    (passed : checkPoints label before t = .ok ()) : ∀ c ∈ t, mayStand c.val := by
  induction t generalizing before with
  | nil => nofun
  | cons c after ih =>
    rw [checkPoints] at passed
    unfold mayStand
    refine List.forall_mem_cons.mpr ?_
    split at passed
    · rename_i permitted
      exact ⟨by simp [permitted], ih passed⟩
    split at passed
    · rename_i joiner
      split at passed
      · exact ⟨by simp [joiner], ih passed⟩
      · cases passed
    split at passed
    · rename_i contextual
      split at passed
      · exact ⟨by simp [contextual], ih passed⟩
      · cases passed
    · cases passed

theorem sound_of_checkLabel {label : Text} (passed : checkLabel label = .ok ()) : Sound label := by
  unfold checkLabel at passed
  split at passed
  · cases passed
  rename_i first rest
  split at passed
  · cases passed
  split at passed
  · cases passed
  split at passed
  · cases passed
  rename_i pair
  split at passed
  · cases passed
  split at passed
  · cases passed
  split at passed
  · cases passed
  rename_i points
  refine ⟨List.cons_ne_nil _ _, ?_, mayStand_of_checkPoints points⟩
  by_contra marked
  obtain ⟨content, starts⟩ := Option.ne_none_iff_exists'.mp marked
  rw [Text.dropStart?_eq_some starts] at pair
  exact pair rfl

namespace Sound

variable {label : Text}

theorem dotless (sound : Sound label) : ∀ c ∈ label, isDot c = false := fun c member =>
  isDot_of_mayStand (sound.points c member)

theorem toAsciiLower (sound : Sound label) : label.toAsciiLower = label :=
  (List.map_congr_left fun c member => toAsciiLower_of_mayStand (sound.points c member)).trans
    (List.map_id label)

end Sound

/-! ### Encoded labels -/

/-- The digits of Punycode in small letters may stand in a label. -/
theorem mayStand_digit (digit : (Punycode.digitValue? c).isSome) (small : c.toAsciiLower = c) :
    mayStand c.val := by
  have value := c.toAsciiLower_val
  rw [small] at value
  unfold Punycode.digitValue? at digit
  simp only [Bool.and_eq_true, decide_eq_true_eq, CodePoint.isAsciiDigit] at digit
  have bounds : (0x30 ≤ c.val ∧ c.val ≤ 0x39) ∨ (0x61 ≤ c.val ∧ c.val ≤ 0x7A) := by
    split at digit
    · rename_i capital
      rw [if_pos capital] at value
      omega
    split at digit
    · rename_i letter
      exact .inr letter
    split at digit
    · rename_i number
      exact .inl number
    · cases digit
  exact (mayStand_ascii_iff (by omega)).mpr (.inr bounds)

theorem mayStand_hyphen : mayStand (CodePoint.ofChar '-').val :=
  (mayStand_ascii_iff (by decide)).mpr (.inl rfl)

theorem mayStand_encodedMark : ∀ c ∈ encodedMark, mayStand c.val ∧ c.isAscii := by
  have each : ∀ c ∈ encodedMark, c.val < 0x80 ∧ (c.val = 0x2D ∨ (0x61 ≤ c.val ∧ c.val ≤ 0x7A)) := by
    decide
  intro c member
  obtain ⟨low, plain⟩ := each c member
  exact ⟨(mayStand_ascii_iff low).mpr (plain.imp_right .inr), decide_eq_true low⟩

/-- What decoding a label gives. -/
structure Decodes (ascii label : Text) : Prop where
  passed : checkLabel label = .ok ()
  points : ∀ c ∈ ascii.toAsciiLower, mayStand c.val
  beyond : Text.dropStart? encodedMark ascii.toAsciiLower ≠ none → ∃ c ∈ label, c.isAscii = false

theorem decodes_of_decodeLabel {ascii label : Text} (read : decodeLabel ascii = .ok label) :
    Decodes ascii label := by
  have small : ∀ c ∈ ascii.toAsciiLower, c.toAsciiLower = c := by
    intro c member
    obtain ⟨d, -, rfl⟩ := List.mem_map.mp member
    exact d.toAsciiLower_toAsciiLower
  unfold decodeLabel at read
  simp only at read
  split at read
  · rename_i unmarked
    cases passed : checkLabel ascii.toAsciiLower with
    | error fault =>
      rw [passed] at read
      cases read
    | ok nothing =>
      rw [passed] at read
      cases read
      exact ⟨passed, (sound_of_checkLabel passed).points, absurd unmarked⟩
  · cases read
  rename_i content occupied marked
  split at read
  · cases read
  rename_i ends
  split at read
  · cases read
  rename_i decoded content_read
  cases passed : checkLabel decoded with
  | error fault =>
    rw [passed] at read
    cases read
  | ok nothing =>
    rw [passed] at read
    cases read
    have whole := Text.dropStart?_eq_some marked
    refine ⟨passed, fun c member => ?_, fun _ => ?_⟩
    · have lower := small c member
      rw [whole, List.mem_append] at member
      rcases member with mark | inside
      · exact (mayStand_encodedMark c mark).1
      · rcases Punycode.mem_of_decode? content_read c inside with found | rfl | digit
        · exact (sound_of_checkLabel passed).points c found
        · exact mayStand_hyphen
        · exact mayStand_digit digit lower
    · exact Punycode.beyond_of_decode? occupied ends content_read

/-- A sound label stands for itself. -/
theorem decodeLabel_self {label : Text} (passed : checkLabel label = .ok ()) :
    decodeLabel label = .ok label := by
  have sound := sound_of_checkLabel passed
  unfold decodeLabel
  simp only [sound.toAsciiLower, sound.unmarked, passed]
  rfl

/-- The encoded form of a label consists of ASCII that may stand in a label. -/
theorem mayStand_encoded {label : Text} (sound : Sound label) :
    ∀ c ∈ encodedMark ++ Punycode.encode label, mayStand c.val ∧ c.isAscii := by
  have base : ∀ c ∈ label.filter CodePoint.isAscii, mayStand c.val ∧ c.isAscii := fun c member =>
    ⟨sound.points c (List.mem_of_mem_filter member), List.of_mem_filter member⟩
  have digit : ∀ d < 36, mayStand (Punycode.digitChar d).val ∧ (Punycode.digitChar d).isAscii := by
    decide +kernel
  have numbers : ∀ c ∈ Punycode.numbers label, mayStand c.val ∧ c.isAscii := fun c member => by
    obtain ⟨d, small, rfl⟩ := Punycode.isDigit_of_mem_numbers label c member
    exact digit d small
  refine List.forall_mem_append.mpr ⟨mayStand_encodedMark, ?_⟩
  rw [Punycode.encode_eq]
  split
  · exact numbers
  · exact List.forall_mem_append.mpr
      ⟨base, List.forall_mem_cons.mpr ⟨⟨mayStand_hyphen, by decide⟩, numbers⟩⟩

/-- An encoded label is decoded again. -/
theorem decodeLabel_encoded {label : Text} (passed : checkLabel label = .ok ())
    (beyond : ¬ label.all CodePoint.isAscii) :
    decodeLabel (encodedMark ++ Punycode.encode label) = .ok label := by
  have sound := sound_of_checkLabel passed
  have small : (encodedMark ++ Punycode.encode label).toAsciiLower =
      encodedMark ++ Punycode.encode label :=
    (List.map_congr_left fun c member =>
      toAsciiLower_of_mayStand (mayStand_encoded sound c member).1).trans (List.map_id _)
  obtain ⟨some, ends⟩ := Punycode.getLast?_encode beyond
  unfold decodeLabel
  simp only [small, Text.dropStart?_append]
  rw [if_neg ends, Punycode.decode?_encode]
  simp only [passed]
  rfl

/-- What encoding a label gives: an ASCII label stays, and another one is decoded again. -/
structure Encodes (label encoded : Text) : Prop where
  points : ∀ c ∈ encoded, mayStand c.toAsciiLower.val ∧ c.isAscii
  ascii : label.all CodePoint.isAscii → encoded = label
  marked : ¬ label.all CodePoint.isAscii → ∃ content, encoded = encodedMark ++ content
  decodes : ∃ decoded, decodeLabel encoded = .ok decoded ∧
    (¬ label.all CodePoint.isAscii → decoded = label)

theorem encodes_of_encodeLabel {label encoded : Text} (wrote : encodeLabel label = .ok encoded) :
    Encodes label encoded := by
  unfold encodeLabel at wrote
  split at wrote
  · cases wrote
  split at wrote
  · rename_i ascii
    split at wrote
    · cases wrote
    rename_i decoded read
    split at wrote
    · cases wrote
      refine ⟨fun c member => ⟨?_, List.all_eq_true.mp ascii c member⟩, fun _ => rfl, absurd ascii,
        decoded, read, absurd ascii⟩
      exact (decodes_of_decodeLabel read).points _ (List.mem_map_of_mem member)
    · cases wrote
  · rename_i beyond
    split at wrote
    · cases wrote
    rename_i passed
    simp only at wrote
    split at wrote
    · cases wrote
      refine ⟨fun c member => ?_, (absurd · beyond), fun _ => ⟨_, rfl⟩, label,
        decodeLabel_encoded passed beyond, fun _ => rfl⟩
      have here := mayStand_encoded (sound_of_checkLabel passed) c member
      rwa [toAsciiLower_of_mayStand here.1]
    · cases wrote

namespace Encodes

variable {label encoded : Text}

theorem occupied (encodes : Encodes label encoded) : encoded ≠ [] := by
  rintro rfl
  obtain ⟨decoded, read, -⟩ := encodes.decodes
  cases read

theorem dotless (encodes : Encodes label encoded) : ∀ c ∈ encoded, isDot c = false := by
  intro c member
  obtain ⟨stands, ascii⟩ := encodes.points c member
  by_contra dot
  simp only [isDot, Bool.or_eq_false_iff, decide_eq_false_iff_not, not_and_or, not_not] at dot
  have low : c.val < 0x80 := of_decide_eq_true ascii
  rcases dot with ((rfl | same) | same) | same
  · have plain := (mayStand_ascii_iff (by decide)).mp stands
    revert plain
    decide
  all_goals omega

end Encodes

/-! ### Host names -/

/-- The host name of labels, with a dot at its end or without. -/
def hostOf (pieces : List Text) (final : Bool) : Text :=
  Text.join "." (if final then pieces ++ [[]] else pieces)

theorem mem_hostOf {pieces : List Text} {final : Bool} {c : CodePoint}
    (member : c ∈ hostOf pieces final) : c = '.' ∨ ∃ piece ∈ pieces, c ∈ piece := by
  rcases Text.mem_join member with dot | ⟨piece, listed, inside⟩
  · exact .inl (List.mem_singleton.mp dot)
  · split at listed
    · rcases List.mem_append.mp listed with here | last
      · exact .inr ⟨piece, here, inside⟩
      · rw [List.mem_singleton.mp last] at inside
        cases inside
    · exact .inr ⟨piece, listed, inside⟩

/-- A host name starts with its first label. -/
theorem hostOf_cons (piece : Text) (others : List Text) (final : Bool) :
    ∃ rest, hostOf (piece :: others) final = piece ++ rest := by
  unfold hostOf
  cases final <;> cases others <;> simp [Text.join]

/-- The labels of a host name are found again. -/
theorem labels_hostOf {pieces : List Text} (some : pieces ≠ [])
    (occupied : ∀ piece ∈ pieces, piece ≠ [])
    (dotless : ∀ piece ∈ pieces, ∀ c ∈ piece, isDot c = false) (final : Bool) :
    labels (hostOf pieces final) = (pieces, final) := by
  have same : (hostOf pieces final).map (fun c => if isDot c then CodePoint.ofChar '.' else c) =
      hostOf pieces final := by
    refine (List.map_congr_left fun c member => ?_).trans (List.map_id _)
    rcases mem_hostOf member with rfl | ⟨piece, listed, inside⟩
    · rfl
    · rw [dotless piece listed c inside]
      rfl
  have clean : ∀ piece ∈ pieces, CodePoint.ofChar '.' ∉ piece := fun piece listed member =>
    Bool.false_ne_true ((dotless piece listed _ member).symm.trans rfl)
  unfold labels
  simp only [same]
  cases final with
  | true =>
    have split : Text.splitOn '.' (hostOf pieces true) = pieces ++ [[]] :=
      Text.splitOn_join (List.append_ne_nil_of_left_ne_nil some _)
        (List.forall_mem_append.mpr ⟨clean, List.forall_mem_singleton.mpr List.not_mem_nil⟩)
    rw [split, List.getLast?_concat, if_pos rfl, List.dropLast_concat]
  | false =>
    have split : Text.splitOn '.' (hostOf pieces false) = pieces := Text.splitOn_join some clean
    rw [split, if_neg]
    intro last
    exact occupied _ (List.mem_of_getLast? last) rfl

theorem hostOf_ne_nil {pieces : List Text} (some : pieces ≠ [])
    (occupied : ∀ piece ∈ pieces, piece ≠ []) (final : Bool) : hostOf pieces final ≠ [] := by
  obtain ⟨piece, others, rfl⟩ := List.exists_cons_of_ne_nil some
  obtain ⟨c, rest, rfl⟩ := List.exists_cons_of_ne_nil (occupied piece (List.mem_cons_self ..))
  unfold hostOf
  cases final <;> simp [Text.join_cons_head]

theorem labels_ne_nil {host : Text} (some : host ≠ []) : (labels host).1 ≠ [] := by
  intro none
  have joined := Text.join_splitOn '.'
    (host.map fun c => if isDot c then CodePoint.ofChar '.' else c)
  unfold labels at none
  simp only at none
  split at none
  · rename_i last
    obtain ⟨front, shape⟩ := List.getLast?_eq_some_iff.mp last
    rw [shape, List.dropLast_concat] at none
    have nothing : front = [] := none
    rw [shape, nothing] at joined
    exact some (List.map_eq_nil_iff.mp joined.symm)
  · exact Text.splitOn_ne_nil _ _ none

theorem convert_eq_ok {label : Text → Except Fault Text} {host converted : Text} {final : Bool}
    (made : convert label host = .ok (converted, final)) :
    ∃ pieces, List.Forall₂ (fun piece part => label piece = .ok part) (labels host).1 pieces ∧
      converted = hostOf pieces final ∧ (labels host).2 = final ∧ host ≠ [] := by
  unfold convert at made
  split at made
  · cases made
  split at made
  · cases made
  rename_i occupied
  simp only at made
  split at made
  · cases made
  rename_i pieces each
  cases made
  exact ⟨pieces, mapM_eq_ok_iff.mp each, rfl, rfl, by simpa using occupied⟩

theorem convert_of_each {label : Text → Except Fault Text} {host : Text} {pieces : List Text}
    (short : host.length ≤ 254) (some : host ≠ [])
    (each : List.Forall₂ (fun piece part => label piece = .ok part) (labels host).1 pieces) :
    convert label host = .ok (hostOf pieces (labels host).2, (labels host).2) := by
  unfold convert
  rw [if_neg (Nat.not_lt.mpr short), if_neg (by simpa using some)]
  simp only [mapM_eq_ok_iff.mpr each]
  rfl

/-- What encoding a host name gives. -/
theorem encode_eq_ok {host encoded : Text} (wrote : encode host = .ok encoded) :
    ∃ pieces, List.Forall₂ Encodes (labels host).1 pieces ∧
      encoded = hostOf pieces (labels host).2 ∧ pieces ≠ [] ∧ encoded.length ≤ 254 := by
  unfold encode at wrote
  split at wrote
  · cases wrote
  rename_i converted final made
  have short : converted.length ≤ (if final then 254 else 253) := by
    by_contra long
    rw [if_neg long] at wrote
    cases wrote
  rw [if_pos short] at wrote
  cases wrote
  obtain ⟨pieces, each, shape, rfl, occupied⟩ := convert_eq_ok made
  refine ⟨pieces, each.imp fun _ _ => encodes_of_encodeLabel, shape, ?_, ?_⟩
  · rintro rfl
    exact labels_ne_nil occupied (List.forall₂_nil_right_iff.mp each)
  · split at short <;> omega

/-- An encoded host name consists of letters, digits, hyphens and dots. -/
theorem points_of_encode {host encoded : Text} (wrote : encode host = .ok encoded) :
    ∀ c ∈ encoded, c = '.' ∨ (mayStand c.toAsciiLower.val ∧ c.isAscii) := by
  obtain ⟨pieces, each, rfl, -, -⟩ := encode_eq_ok wrote
  intro c member
  refine (mem_hostOf member).imp_right fun ⟨piece, listed, inside⟩ => ?_
  exact forall_of_forall₂ each (fun _ _ => Encodes.points) piece listed c inside

/-- Encoded labels are decoded one by one. -/
theorem decodes_each {names pieces : List Text} (each : List.Forall₂ Encodes names pieces) :
    ∃ parts, List.Forall₂ (fun piece part => decodeLabel piece = .ok part) pieces parts ∧
      ((∀ label ∈ names, label.all CodePoint.isAscii → checkLabel label = .ok ()) →
        parts = names) := by
  induction each with
  | nil => exact ⟨[], .nil, fun _ => rfl⟩
  | @cons label encoded names pieces encodes each ih =>
    obtain ⟨part, read, back⟩ := encodes.decodes
    obtain ⟨parts, reads, backs⟩ := ih
    refine ⟨part :: parts, .cons read reads, fun sound => ?_⟩
    obtain ⟨here, later⟩ := List.forall_mem_cons.mp sound
    rw [backs later]
    by_cases ascii : label.all CodePoint.isAscii
    · rw [encodes.ascii ascii, decodeLabel_self (here ascii)] at read
      rw [Except.ok.inj read]
    · rw [back ascii]

/-- **An encoded host name is decoded again**, and if its ASCII labels are sound it becomes the
host name that was encoded. -/
theorem decode_encode {host encoded : Text} (wrote : encode host = .ok encoded) :
    ∃ decoded, decode encoded = .ok decoded ∧
      ((∀ label ∈ (labels host).1, label.all CodePoint.isAscii → checkLabel label = .ok ()) →
        decoded = hostOf (labels host).1 (labels host).2) := by
  obtain ⟨pieces, each, rfl, some, short⟩ := encode_eq_ok wrote
  have occupied := forall_of_forall₂ each fun _ _ => Encodes.occupied
  have dotless := forall_of_forall₂ each fun _ _ => Encodes.dotless
  have found := labels_hostOf some occupied dotless (labels host).2
  obtain ⟨parts, reads, back⟩ := decodes_each each
  refine ⟨hostOf parts (labels host).2, ?_, fun sound => by rw [back sound]⟩
  have named : (labels (hostOf pieces (labels host).2)).1 = pieces := congrArg Prod.fst found
  unfold decode
  rw [convert_of_each short (hostOf_ne_nil some occupied _) (named.symm ▸ reads), found]
  rfl

/-- A host name that begins with an encoded label has it as its first label. -/
theorem labels_of_encodedMark {host : Text} (marked : (Text.dropStart? encodedMark host).isSome) :
    ∃ content others, (labels host).1 = (encodedMark ++ content) :: others := by
  obtain ⟨rest, starts⟩ := Option.isSome_iff_exists.mp marked
  have plain : encodedMark.map (fun c => if isDot c then CodePoint.ofChar '.' else c) =
      encodedMark := by
    decide
  have dotless : CodePoint.ofChar '.' ∉ encodedMark := by decide
  obtain ⟨content, others, -, split⟩ := Text.splitOn_append_left dotless
    (rest.map fun c => if isDot c then CodePoint.ofChar '.' else c)
  unfold labels
  rw [Text.dropStart?_eq_some starts]
  simp only [List.map_append, plain, split]
  split
  · rename_i last
    cases others with
    | nil => exact absurd (Option.some.inj last) (List.append_ne_nil_of_left_ne_nil (by decide) _)
    | cons next more => exact ⟨content, (next :: more).dropLast, rfl⟩
  · exact ⟨content, others, rfl⟩

/-- The encoded form of a host name begins with an encoded label if the first label of the name is
not ASCII. -/
theorem encodedMark_of_encode {host encoded label : Text} {others : List Text}
    (wrote : encode host = .ok encoded) (first : (labels host).1 = label :: others)
    (beyond : ¬ label.all CodePoint.isAscii) : (Text.dropStart? encodedMark encoded).isSome := by
  obtain ⟨pieces, each, rfl, -, -⟩ := encode_eq_ok wrote
  rw [first] at each
  obtain ⟨piece, more, encodes, -, rfl⟩ := List.forall₂_cons_left_iff.mp each
  obtain ⟨content, rfl⟩ := encodes.marked beyond
  obtain ⟨rest, whole⟩ := hostOf_cons (encodedMark ++ content) more (labels host).2
  rw [whole, List.append_assoc, Text.dropStart?_append]
  rfl

/-- What decoding a host name gives. -/
structure Decoded (ascii host : Text) : Prop where
  whole : hostOf (labels host).1 (labels host).2 = host
  some : (labels host).1 ≠ []
  passed : ∀ label ∈ (labels host).1, checkLabel label = .ok ()
  /-- Where an encoded label stood first, the first label is not ASCII. -/
  beyond : (Text.dropStart? encodedMark ascii).isSome →
    ∃ label others, (labels host).1 = label :: others ∧ ¬ label.all CodePoint.isAscii

theorem decoded_of_decode {ascii host : Text} (read : decode ascii = .ok host) :
    Decoded ascii host := by
  obtain ⟨⟨converted, final⟩, made, rfl⟩ := map_eq_ok_iff.mp read
  obtain ⟨pieces, each, rfl, -, some⟩ := convert_eq_ok made
  have decodes : List.Forall₂ Decodes (labels ascii).1 pieces :=
    each.imp fun _ _ => decodes_of_decodeLabel
  have passed := forall_of_forall₂ decodes fun _ _ => Decodes.passed
  have occupied : pieces ≠ [] := by
    rintro rfl
    exact labels_ne_nil some (List.forall₂_nil_right_iff.mp each)
  have found := labels_hostOf occupied
    (fun piece listed => (sound_of_checkLabel (passed piece listed)).occupied)
    (fun piece listed => (sound_of_checkLabel (passed piece listed)).dotless) final
  refine ⟨by rw [found], by rwa [found], by rwa [found], fun marked => ?_⟩
  obtain ⟨content, others, first⟩ := labels_of_encodedMark marked
  rw [first] at decodes
  obtain ⟨label, more, first_decodes, -, rfl⟩ := List.forall₂_cons_left_iff.mp decodes
  have lower : (encodedMark ++ content).toAsciiLower = encodedMark ++ content.toAsciiLower :=
    List.map_append
  obtain ⟨c, member, beyond⟩ := first_decodes.beyond
    (by rw [lower, Text.dropStart?_append]; nofun)
  refine ⟨label, more, by rw [found], fun ascii => ?_⟩
  exact Bool.false_ne_true (beyond.symm.trans (List.all_eq_true.mp ascii c member))

namespace Decoded

variable {ascii host : Text}

/-- A decoded host name consists of dots and of what may stand in a label. -/
theorem points (decoded : Decoded ascii host) : ∀ c ∈ host, c = '.' ∨ mayStand c.val := by
  intro c member
  rw [← decoded.whole] at member
  refine (mem_hostOf member).imp_right fun ⟨label, listed, inside⟩ => ?_
  exact (sound_of_checkLabel (decoded.passed label listed)).points c inside

theorem foreign (decoded : Decoded ascii host)
    (marked : (Text.dropStart? encodedMark ascii).isSome) : ¬ host.all CodePoint.isAscii := by
  obtain ⟨label, others, first, beyond⟩ := decoded.beyond marked
  obtain ⟨rest, whole⟩ := hostOf_cons label others (labels host).2
  rw [← decoded.whole, first, whole, List.all_append, Bool.and_eq_true]
  exact fun both => beyond both.1

end Decoded

/-! ### Small letters of labels -/

/-- The two code points with small letters of their own kind, and the Kelvin sign, stand in no
label. -/
theorem not_mayStand_special :
    mayStand 0x130 = false ∧ mayStand 0x3A3 = false ∧ mayStand 0x212A = false := by
  decide +kernel

theorem isDot_of_val (other : ∀ dot ∈ [0x2E, 0x3002, 0xFF0E, 0xFF61], c.val ≠ dot) :
    isDot c = false := by
  have full : c ≠ '.' := fun same => other 0x2E (by decide) (congrArg CodePoint.val same)
  have second := other 0x3002 (by decide)
  have third := other 0xFF0E (by decide)
  have fourth := other 0xFF61 (by decide)
  simp [isDot, full, second, third, fourth]

/-- Small letters of what may stand in a label: ASCII stays, nothing else becomes ASCII or a dot. -/
theorem small_of_mayStand (stands : mayStand c.val) :
    (c.isAscii → c.small = c) ∧ (c.isAscii = false → c.small.isAscii = false) ∧
      isDot c.small = false := by
  unfold CodePoint.small CodePoint.smallOf
  split
  · rename_i run found
    have listed := List.mem_of_find?_eq_some found
    have inside := List.find?_some found
    simp only [Bool.and_eq_true, decide_eq_true_eq] at inside
    obtain ⟨low, apart⟩ := caseRuns_bounds run listed
    have beyond : 0x80 ≤ run.1 := by
      refine low.resolve_left fun capital => ?_
      rw [capital] at inside
      simp only at inside
      have plain := (mayStand_ascii_iff (by omega)).mp stands
      omega
    have high : 0x80 ≤ run.2.2.2 := by
      rcases CodePoint.caseRuns_small run listed with rfl | rfl | high
      · exact absurd beyond (by decide)
      · simp only at inside
        have kelvin : c.val = 0x212A := by omega
        rw [kelvin, not_mayStand_special.2.2] at stands
        cases stands
      · exact high
    have foreign : c.isAscii = false := decide_eq_false (by omega)
    refine ⟨fun ascii => absurd (ascii.symm.trans foreign) nofun, fun _ => ?_, ?_⟩
    all_goals unfold CodePoint.ofNat; split
    · exact decide_eq_false (by simp only; omega)
    · rfl
    · refine isDot_of_val fun dot listed => ?_
      have different := apart dot listed
      simp only
      omega
    · exact isDot_of_val (by decide)
  · rw [CodePoint.ofNat_val]
    exact ⟨fun _ => rfl, id, isDot_of_mayStand stands⟩

theorem toLower_of_mayStand {t : Text} (stands : ∀ c ∈ t, c = '.' ∨ mayStand c.val) :
    t.toLower = t.map CodePoint.small := by
  obtain ⟨dotted, sigma, -⟩ := not_mayStand_special
  refine Text.toLower_eq_map fun c member => ?_
  rcases stands c member with rfl | stands
  · decide
  · constructor
    · intro same
      rw [same, dotted] at stands
      cases stands
    · intro same
      rw [same, sigma] at stands
      cases stands

theorem map_hostOf {f : CodePoint → CodePoint} (dot : f '.' = '.') (pieces : List Text)
    (final : Bool) :
    (hostOf pieces final).map f = hostOf (pieces.map (List.map f)) final := by
  have separator : (Text.ofString ".").map f = Text.ofString "." := congrArg (fun c => [c]) dot
  unfold hostOf
  rw [Text.map_join, separator]
  cases final with
  | true => simp
  | false => rfl

/-- **A decoded host name in small letters is still itself**, if it is once it has been encoded and
decoded again. -/
theorem toLower_of_decode {ascii host encoded : Text} (read : decode ascii = .ok host)
    (wrote : encode host.toLower = .ok encoded) (back : decode encoded = .ok host) :
    host.toLower = host := by
  obtain ⟨whole, some, passed, -⟩ := decoded_of_decode read
  obtain ⟨decoded, again, same⟩ := decode_encode wrote
  have sound : ∀ label ∈ (labels host).1, Sound label := fun label listed =>
    sound_of_checkLabel (passed label listed)
  have stands := (decoded_of_decode read).points
  have lower : host.toLower =
      hostOf ((labels host).1.map (List.map CodePoint.small)) (labels host).2 := by
    rw [toLower_of_mayStand stands, ← map_hostOf (by decide), whole]
  -- Small letters leave the dots, the ASCII labels, and the others beyond ASCII.
  have found : labels host.toLower =
      ((labels host).1.map (List.map CodePoint.small), (labels host).2) := by
    rw [lower]
    refine labels_hostOf (by simpa using some) ?_ ?_ _
    · intro piece listed
      obtain ⟨label, within, rfl⟩ := List.mem_map.mp listed
      simpa using (sound label within).occupied
    · intro piece listed c inside
      obtain ⟨label, within, rfl⟩ := List.mem_map.mp listed
      obtain ⟨d, member, rfl⟩ := List.mem_map.mp inside
      exact (small_of_mayStand ((sound label within).points d member)).2.2
  have kept : ∀ label ∈ (labels host.toLower).1, label.all CodePoint.isAscii →
      checkLabel label = .ok () := by
    rw [found]
    intro piece listed ascii
    obtain ⟨label, within, rfl⟩ := List.mem_map.mp listed
    have same : label.map CodePoint.small = label := by
      refine (List.map_congr_left fun c member => ?_).trans (List.map_id _)
      obtain ⟨low, high, -⟩ := small_of_mayStand ((sound label within).points c member)
      refine low (by_contra fun foreign => ?_)
      have small := List.all_eq_true.mp ascii c.small (List.mem_map_of_mem member)
      rw [high (by simpa using foreign)] at small
      cases small
    rw [same]
    exact passed label within
  have joined : decoded = host.toLower := by
    rw [same kept, found]
    exact lower.symm
  rw [again] at back
  exact joined.symm.trans (Except.ok.inj back)

end Idna

end Courier
