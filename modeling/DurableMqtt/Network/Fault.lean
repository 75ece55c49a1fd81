/-!
How a connection to a broker fails.
-/

namespace DurableMqtt.Network

inductive ConnackCode where
  | accepted
  | unacceptableProtocol
  | badClientId
  | unavailable
  | badCredentials
  | notAuthorized
deriving DecidableEq, Inhabited

def ConnackCode.byte : ConnackCode → UInt8
  | accepted => 0
  | unacceptableProtocol => 1
  | badClientId => 2
  | unavailable => 3
  | badCredentials => 4
  | notAuthorized => 5

def ConnackCode.choices : List (String × ConnackCode) :=
  [("success", accepted), ("refused_protocol_version", unacceptableProtocol),
   ("bad_client_id", badClientId), ("service_unavailable", unavailable),
   ("bad_user_name_password", badCredentials), ("not_authorized", notAuthorized)]

inductive ConnectionFault where
  | networkTimeout
  | flushTimeout
  /-- No request can come any more. -/
  | requestsDone
  /-- The broker answered CONNECT with another packet. -/
  | notConnack
  | tls
  /-- The broker did not answer a ping. -/
  | awaitPing
  | io (reason : String)
  /-- The broker acknowledged what was never sent. -/
  | unsolicited (packet : UInt16)
  | refused (code : ConnackCode)
deriving DecidableEq, Inhabited

def ConnectionFault.plain : List (String × ConnectionFault) :=
  [("network_timeout", networkTimeout), ("flush_timeout", flushTimeout),
   ("requests_done", requestsDone), ("not_connack", notConnack), ("tls", tls),
   ("await_ping", awaitPing)]

/-- Whether trying again is pointless until the configuration changes. A broker that is
unavailable may come back. -/
def ConnectionFault.isFatal : ConnectionFault → Bool
  | tls | notConnack => true
  | refused code => code != .accepted && code != .unavailable
  | _ => false

def trimQuotes (text : String) : String :=
  let cs := text.toList.dropWhile (· == '"')
  String.ofList (cs.reverse.dropWhile (· == '"')).reverse

/-- The innermost of a chain of reasons, the outermost of which comes first. -/
def rootCause (chain : List String) : String := trimQuotes (chain.getLastD "")

end DurableMqtt.Network
