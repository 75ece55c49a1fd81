import DurableMqtt.Configuration.Logging
import DurableMqtt.Text.Quoted

/-!
What the daemon prints. Before the log is set up it prints notices of its own; after that,
whatever the log lets through.
-/

namespace DurableMqtt.Daemon

inductive Stream where
  | output
  | error
deriving DecidableEq, Inhabited

structure Line where
  stream : Stream
  text : String
deriving DecidableEq, Inhabited

def levelName (level : LogLevel) : String := level.name.map Char.toUpper

/-- A line printed before there is a log. Errors have their own stream. -/
def notice (level : LogLevel) (text : String) : Line where
  stream := if level = .error then .error else .output
  text := levelName level ++ " " ++ text

structure Record where
  level : LogLevel
  thread : String := "main"
  target : String := "tidewatch"
  message : String
deriving Inhabited

namespace Record

def plain (console : ConsoleConfig) (r : Record) : String :=
  levelName r.level ++ " "
    ++ (if console.showThreadNames then r.thread ++ " " else "")
    ++ (if console.showTarget then r.target ++ ": " else "")
    ++ r.message

def escapeMember : Char → String
  | '"' => "\\\""
  | '\\' => "\\\\"
  | '\n' => "\\n"
  | '\r' => "\\r"
  | '\t' => "\\t"
  | '\x08' => "\\b"
  | '\x0c' => "\\f"
  | c =>
    if c.toNat < 0x20 then
      let digits := Nat.toDigits 16 c.toNat
      "\\u" ++ String.ofList (List.replicate (4 - digits.length) '0' ++ digits)
    else c.toString

def member (name value : String) : String :=
  "\"" ++ name ++ "\":\"" ++ String.join (value.toList.map escapeMember) ++ "\""

/-- The record as an object, its members sorted and its time left open. -/
def object (console : ConsoleConfig) (r : Record) : String :=
  let members :=
    ["\"fields\":\x7b" ++ member "message" r.message ++ "\x7d", member "level" (levelName r.level)]
      ++ (if console.showTarget then [member "target" r.target] else [])
      ++ (if console.showThreadNames then [member "threadName" r.thread] else [])
      ++ ["\"timestamp\":null"]
  "\x7b" ++ ",".intercalate members ++ "\x7d"

def line? (config : LogConfig) (r : Record) : Option Line := do
  let console ← config.console
  let level ← LogLevel.ofText? config.level
  if console.enabled ∧ level.severity ≤ r.level.severity then
    some ⟨.output, if console.format = .json then r.object console else r.plain console⟩
  else none

end Record

end DurableMqtt.Daemon
