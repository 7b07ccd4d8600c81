/-
Replies of a Redis server.

Main definitions:

* `DataTier.Wire` — a reply, and `Wire.parse?`, which reads one from its bytes;
* `DataTier.Wire.bytes`, `Wire.text` — a reply as an optional value and as a text;
* `DataTier.Wire.acknowledge` — a reply of which only failure counts.
-/

import DataTier.Redis.Fault
import DataTier.Text.Blank
import DataTier.Text.Digits

set_option relaxedAutoImplicit false
set_option autoImplicit false

namespace DataTier

/-- A reply of a Redis server. -/
inductive Wire where
  /-- Nothing. -/
  | nil
  /-- A number. -/
  | int (n : Int)
  /-- Agreement. -/
  | okay
  /-- A short text. -/
  | simple (s : String)
  /-- Bytes. -/
  | bulk (bs : Bytes)
  /-- A list of replies. -/
  | array (items : List Wire)
  /-- A failure: its code, and a detail if there is one. -/
  | failure (code : String) (detail : Option String)

namespace Wire

/-! ### Reading -/

/-- The bytes before the first line end, and those after it. -/
def cutLine : Bytes → Bytes × Bytes
  | [] => ([], [])
  | 0x0D :: 0x0A :: rest => ([], rest)
  | b :: rest =>
    let (line, rest) := cutLine rest
    (b :: line, rest)

/-- The integer of 64 bits that a line spells, between blanks. -/
def integer? (line : Bytes) : Option Int :=
  (Utf8.decode? line).bind fun cs =>
    let cs := Blank.trim cs
    if Digits.isInteger cs then Digits.integer? cs else none

/-- A line cut at its first blank. -/
def failureOf (line : String) : Wire :=
  let cs := line.toList
  match cs.dropWhile (· != ' ') with
  | [] => .failure line none
  | _ :: rest => .failure (String.ofList (cs.takeWhile (· != ' '))) (some (String.ofList rest))

/-- Several replies, one after the other. -/
def readAll (read : Bytes → Option (Wire × Bytes)) : Nat → Bytes → Option (List Wire × Bytes)
  | 0, bs => some ([], bs)
  | n + 1, bs => do
    let (item, bs) ← read bs
    let (items, bs) ← readAll read n bs
    return (item :: items, bs)

/-- A reply in which lists nest less deep than the given number, and the bytes after it. -/
def read : Nat → Bytes → Option (Wire × Bytes)
  | 0, _ => none
  | depth + 1, bs =>
    let (line, rest) := cutLine bs
    match line with
    | 0x2B :: line => (Utf8.text? line).map fun s => (if s = "OK" then .okay else .simple s, rest)
    | 0x2D :: line => (Utf8.text? line).map fun s => (failureOf s, rest)
    | 0x3A :: line => (integer? line).map fun n => (.int n, rest)
    | 0x24 :: line => (integer? line).bind fun n =>
      if n < 0 then some (.nil, rest)
      else if rest.length < n.toNat then none
      else some (.bulk (rest.take n.toNat), rest.drop (n.toNat + 2))
    | 0x2A :: line => (integer? line).bind fun n =>
      if n < 0 then some (.nil, rest)
      else (readAll (read depth) n.toNat rest).map fun (items, rest) => (.array items, rest)
    | _ => none

/-- The reply that bytes begin with. -/
def parse? (bs : Bytes) : Option Wire := (read 100 bs).map Prod.fst

/-! ### What a reply is taken for -/

/-- The kinds of failure that have codes of their own. -/
def kinds : List (String × String) :=
  [("ERR", "ResponseError"), ("EXECABORT", "ExecAbortError"), ("LOADING", "BusyLoadingError"),
    ("NOSCRIPT", "NoScriptError"), ("MOVED", "Moved"), ("ASK", "Ask"), ("TRYAGAIN", "TryAgain"),
    ("CLUSTERDOWN", "ClusterDown"), ("CROSSSLOT", "CrossSlot"), ("MASTERDOWN", "MasterDown"),
    ("READONLY", "ReadOnly"), ("NOTBUSY", "NotBusy")]

/-- The fault that a failure of the server is. -/
def fault (code : String) (detail : Option String) : RedisFault :=
  match kinds.lookup code with
  | some kind => .described kind "An error was signalled by the server" detail
  | none => .server code (some (detail.getD "Unknown extension error encountered"))

/-- Texts with commas between them. -/
def commas : List String → String
  | [] => ""
  | [s] => s
  | s :: rest => s ++ ", " ++ commas rest

mutual

/-- A reply as a developer sees it. -/
def debug : Wire → String
  | .nil => "nil"
  | .int n => "int(" ++ String.ofList (Json.integerChars n) ++ ")"
  | .okay => "ok"
  | .simple s => "simple-string(" ++ Quoted.text s ++ ")"
  | .bulk bs =>
    match Utf8.text? bs with
    | some s => "bulk-string('" ++ Quoted.text s ++ "')"
    | none => "binary-data([" ++ commas (bs.map fun b => toString b.toNat) ++ "])"
  | .array items => "array([" ++ commas (debugAll items) ++ "])"
  | .failure code detail => code ++ detail.elim "" (": " ++ ·)

/-- Replies as a developer sees them. -/
def debugAll : List Wire → List String
  | [] => []
  | item :: items => debug item :: debugAll items

end

/-- A reply of the wrong type. -/
def mistyped (w : Wire) (why : String) : RedisFault :=
  .described "TypeError" "Response was of incompatible type"
    (some (Quoted.text why ++ " (response was " ++ w.debug ++ ")"))

/-- A number cut down to a byte. -/
def byteOfInt (n : Int) : UInt8 := UInt8.ofNat (n % 256).toNat

/-- A reply as one byte of a list. -/
def byte : Wire → Except RedisFault UInt8
  | .int n => .ok (byteOfInt n)
  | .failure code detail => .error (fault code detail)
  | .simple s => ofChars (.simple s) s.toList
  | .bulk bs => ofChars (.bulk bs) ((Utf8.decode? bs).getD [])
  | w => .error (mistyped w "Response type not convertible to numeric.")
where
  /-- A number below 256 in decimal digits. -/
  ofChars (w : Wire) (cs : List Char) : Except RedisFault UInt8 :=
    match Digits.integer? cs with
    | some n =>
      if 0 ≤ n ∧ n < 256 then .ok (byteOfInt n)
      else .error (mistyped w "Could not convert from string.")
    | none => .error (mistyped w "Could not convert from string.")

/-- A reply as bytes, or nothing. -/
def bytes : Wire → Except RedisFault (Option Bytes)
  | .nil => .ok none
  | .bulk bs => .ok (some bs)
  | .array items => (items.mapM byte).map some
  | .failure code detail => .error (fault code detail)
  | w => .error (mistyped w "Response type not vector compatible.")

/-- A reply as a text. -/
def text : Wire → Except RedisFault String
  | .okay => .ok "OK"
  | .simple s => .ok s
  | .int n => .ok (String.ofList (Json.integerChars n))
  | .bulk bs =>
    match Utf8.text? bs with
    | some s => .ok s
    | none => .error (.described "TypeError" "Invalid UTF-8" none)
  | .failure code detail => .error (fault code detail)
  | w => .error (mistyped w "Response type not string compatible.")

/-- A reply of which only failure counts. -/
def acknowledge : Wire → Except RedisFault Unit
  | .failure code detail => .error (fault code detail)
  | _ => .ok ()

end Wire

end DataTier
