/-
**Reading a data source name.**

The text, trimmed, has to be a URL with a scheme of the web, a user name, a host, and a path whose
last segment is a number. What precedes the number in the path is kept.

* `Dsn.parse_publicKey`: a name that is read has a key, a host and a project.
-/
import Courier.Dsn.Basic
import Courier.Text.Digit
import Courier.Url.Basic
namespace Courier.Dsn

/-- Why a text is no data source name. -/
inductive Invalid
  | url (value : Text) (reason : Url.Invalid)
  | scheme (name : Text)
  | noPublicKey
  | noHost
  | project (id : Text)
  deriving DecidableEq

/-- The wording for a text that is no data source name. -/
def Invalid.message : Invalid → Text
  | url value reason => "Invalid DSN " ++ value.quoted ++ ": " ++ reason.message
  | scheme name => "Unsupported DSN scheme: " ++ name.quoted
  | noPublicKey => "DSN is missing the public key"
  | noHost => "DSN is missing the host"
  | project id => "DSN has an invalid project id: " ++ id.quoted

/-- Why a data source name cannot be read. -/
inductive Fault
  /-- It is none. -/
  | invalid (reason : Invalid)
  /-- A surrogate in its URL has no escape. -/
  | unencodable (reason : Unencodable)
  /-- Its encoded host name stands for no valid one. -/
  | hostName (reason : Idna.Fault)
  deriving DecidableEq

/-- The wording of a fault. -/
def Fault.message : Fault → Text
  | invalid reason => reason.message
  | unencodable reason => reason.message
  | hostName reason => reason.message

/-- Reads the data source name from its URL. -/
def ofUrl (url : Url) : Except Fault Dsn :=
  match Scheme.ofName? url.scheme with
  | none => .error (.invalid (.scheme url.scheme))
  | some scheme =>
    if url.username.isEmpty then .error (.invalid .noPublicKey)
    else
      match url.hostName with
      | .error reason => .error (.hostName reason)
      | .ok host =>
        if host.isEmpty then .error (.invalid .noHost)
        else
          let trimmed := url.decodedPath.trimRight (· = CodePoint.ofChar '/')
          let (path, project) := trimmed.cutLast '/'
          if project.isDigits then
            .ok
              { scheme, host
                publicKey := url.username
                secretKey := url.password
                port := url.port
                path := path.getD []
                projectId := project }
          else .error (.invalid (.project project))

/-- Reads a data source name. -/
def parse (value : Text) : Except Fault Dsn :=
  match Url.parse value.strip with
  | .error (.invalid reason) => .error (.invalid (.url value reason))
  | .error (.unencodable reason) => .error (.unencodable reason)
  | .ok url => ofUrl url

theorem parse_publicKey {value : Text} {dsn : Dsn} (read : parse value = .ok dsn) :
    dsn.publicKey ≠ [] ∧ dsn.host ≠ [] ∧ dsn.projectId ≠ [] := by
  unfold parse at read
  split at read
  · cases read
  · cases read
  · unfold ofUrl at read
    split at read
    · cases read
    split at read
    · cases read
    rename_i key
    split at read
    · cases read
    split at read
    · cases read
    rename_i host
    simp only at read
    split at read
    · rename_i project
      cases read
      simp only [Text.isDigits, Bool.and_eq_true, Bool.not_eq_true', List.isEmpty_eq_false_iff]
        at project
      exact ⟨by simpa using key, by simpa using host, project.1⟩
    · cases read

end Courier.Dsn
