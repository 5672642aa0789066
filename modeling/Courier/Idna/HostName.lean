/-
**Internationalised host names.**

A host name is a sequence of labels between dots, and the last label may be empty. Each label is
encoded or decoded by itself, and the whole is limited in length.
-/
import Courier.Idna.Label
namespace Courier.Idna

/-- The full stop and the three ideographic ones. -/
def isDot (c : CodePoint) : Bool :=
  c = '.' || c.val = 0x3002 || c.val = 0xFF0E || c.val = 0xFF61

/-- The labels of a host name, and whether it ends with a dot. -/
def labels (host : Text) : List Text × Bool :=
  let pieces := Text.splitOn '.' (host.map fun c => if isDot c then CodePoint.ofChar '.' else c)
  if pieces.getLast? = some [] then (pieces.dropLast, true) else (pieces, false)

/-- Converts each label of a host name and puts them together again. -/
def convert (label : Text → Except Fault Text) (host : Text) : Except Fault (Text × Bool) :=
  if 254 < host.length then .error .domainTooLong
  else if host.isEmpty then .error .emptyDomain
  else
    let (pieces, final) := labels host
    match pieces.mapM label with
    | .error fault => .error fault
    | .ok converted =>
      .ok (Text.join "." (if final then converted ++ [[]] else converted), final)

/-- The ASCII form of a host name. -/
def encode (host : Text) : Except Fault Text :=
  match convert encodeLabel host with
  | .error fault => .error fault
  | .ok (encoded, final) =>
    if encoded.length ≤ (if final then 254 else 253) then .ok encoded else .error .domainTooLong

/-- The host name that an ASCII host name stands for. -/
def decode (host : Text) : Except Fault Text :=
  (convert decodeLabel host).map (·.1)

end Courier.Idna
