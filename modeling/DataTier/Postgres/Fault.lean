/-
What a Postgres connection reports when it cannot be made.

Main definitions:

* `DataTier.PostgresFault` — why there is no connection;
* `DataTier.PostgresFault.text` — its wording.
-/

set_option relaxedAutoImplicit false
set_option autoImplicit false

namespace DataTier

/-- Why there is no connection to a Postgres server. -/
inductive PostgresFault where
  /-- The connection string is none. -/
  | invalidString (cause : String)
  /-- The settings contradict each other, or one is missing. -/
  | invalidSettings (cause : String)
  /-- Nobody answers there. -/
  | unreachable
  /-- Encryption is asked for and not to be had. -/
  | noEncryption
  /-- A text that is to be sent holds the character that ends texts. -/
  | unencodable
  /-- The server does not prove that it is the one that was asked for. -/
  | unauthenticated
  /-- The server closed the connection. -/
  | closed
  /-- The server refused. -/
  | refused (cause : String)
  deriving DecidableEq

namespace PostgresFault

/-- The wording of a fault. -/
def text : PostgresFault → String
  | .invalidString cause => "invalid connection string: " ++ cause
  | .invalidSettings cause => "invalid configuration: " ++ cause
  | .unreachable => "error connecting to server"
  | .noEncryption => "error performing TLS handshake: server does not support TLS"
  | .unencodable => "error encoding message to server: string contains embedded null"
  | .unauthenticated => "authentication error: server did not use channel binding"
  | .closed => "connection closed"
  | .refused cause => "db error: " ++ cause

end PostgresFault

end DataTier
