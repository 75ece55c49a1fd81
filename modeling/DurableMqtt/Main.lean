import DurableMqtt.Daemon.FreshName
import DurableMqtt.Daemon.Service

/-!
The daemon as a program. It looks around once and prints what its start says. The network is not
part of this program, so its engine refuses every call and the daemon ends with that refusal.
-/

namespace DurableMqtt.Daemon

def fileAt (path : String) : IO (Option File) := do
  match ← (IO.FS.readBinFile path).toBaseIO with
  | .ok content => return some (.regular content)
  | .error (.inappropriateType ..) => return some .directory
  | .error _ => return none

def mentioned (configuration : File) : List String :=
  match configuration with
  | .directory => []
  | .regular content | .device content =>
    match (String.fromUTF8? content).bind (Configuration.ofText? Config.read?) with
    | some config => (config.transport.tls.map TlsConfig.paths).getD []
    | none => []

def lookAround : IO Surroundings := do
  let setPath ← IO.getEnv Config.variableName
  let path := setPath.getD Config.usualPath
  let configuration ← fileAt path
  let others := (configuration.map mentioned).getD []
  let found ← others.mapM fun other => return (other, ← fileAt other)
  return {
    files := fun wanted => (((path, configuration) :: found).lookup wanted).join
    setPath
    journalFault := some "No such file or directory (os error 2)"
    freshName := freshName (← IO.getRandomBytes 16) }

def Line.emit (line : Line) : IO Unit :=
  match line.stream with
  | .output => IO.println line.text
  | .error => IO.eprintln line.text

def severed : Engine := fun _ => .error (.io "Network is unreachable (os error 101)")

def run (around : Surroundings) : UInt8 × List Line :=
  match (start around).run.run [] with
  | (.error code, lines) => (code, lines)
  | (.ok started, lines) =>
    let (answer, _) :=
      (installHooks started.session).connect severed (.waiting ⟨0⟩)
    let (record, next) :=
      afterConnect started.config.transport.endpoint (answer.map fun _ => 0)
    let code := match next with
      | .ok () => 0
      | .error code => code
    (code, lines ++ (record.line? started.config.log).toList)

end DurableMqtt.Daemon

def main : IO UInt32 := do
  let (code, lines) := DurableMqtt.Daemon.run (← DurableMqtt.Daemon.lookAround)
  lines.forM DurableMqtt.Daemon.Line.emit
  return code.toUInt32
