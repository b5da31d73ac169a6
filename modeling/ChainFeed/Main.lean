import ChainFeed.Dump.Run
import ChainFeed.Http.Message
import Std.Async.DNS
import Std.Async.TCP
import Std.Async.Timer

/-!
# The program

Writes the records of a dump to standard output, a line each, and errors to standard error. Requests
go over plain TCP; whatever keeps a response from arriving counts as a server that is not reached.
-/

open ChainFeed Std.Async

namespace ChainFeed.Program

/-- Reads a text file. -/
def readText (path : String) : IO (Except FileError String) := do
  try
    let bytes ← IO.FS.readBinFile path
    match Utf8.decode? bytes.toList with
    | some text => return .ok text
    | none => return .error (.other "stream did not contain valid UTF-8")
  catch e =>
    return .error (match e with
      | .noFileOrDirectory .. => .notFound
      | .inappropriateType .. => .isDirectory
      | e => .other (toString e))

/-- The addresses of a host. -/
def addresses (host : Host) : Async (Array Std.Net.IPAddr) :=
  DNS.getAddrInfo (match host with
    | .ipv6 pieces => Host.renderIpv6 pieces
    | host => host.render) ""

/-- An address with a port. -/
def socketAddress (address : Std.Net.IPAddr) (port : UInt16) : Std.Net.SocketAddress :=
  match address with
  | .v4 address => .v4 ⟨address, port⟩
  | .v6 address => .v6 ⟨address, port⟩

/-- All bytes that a server sends until it closes the connection. -/
partial def receiveAll (client : TCP.Socket.Client) (received : ByteArray) : Async ByteArray := do
  match ← client.recv? 65536 with
  | some bytes => receiveAll client (received ++ bytes)
  | none => return received

/-- Puts a request to one address. -/
def exchangeWith (address : Std.Net.SocketAddress) (bytes : List UInt8) : Async (List UInt8) := do
  let client ← TCP.Socket.Client.mk
  client.connect address
  client.send ⟨bytes.toArray⟩
  return (← receiveAll client .empty).toList

/-- Puts a request to the server of its URL, unless that needs an encrypted connection. -/
def exchange (timeoutSecs : UInt64) : Http.Exchange IO := fun request => do
  match Url.parse? request.url with
  | none => return none
  | some url =>
    match url.scheme, url.host with
    | "http", some host =>
      let work : Async (Option (List UInt8)) := do
        let found ← addresses host
        match found[0]? with
        | none => return none
        | some address =>
          let port := (url.port.getD 80).toUInt16
          return some (← exchangeWith (socketAddress address port) (request.encode url))
      let limit : Async (Option (List UInt8)) := do
        sleep (.ofNat (timeoutSecs.toNat * 1000))
        return none
      try
        return (← (Async.race work limit).block).bind Http.Response.decode?
      catch _ => return none
    | _, _ => return none

/-- The present time. -/
def now : IO Instant := do
  let time ← Std.Time.Timestamp.now
  let nanoseconds := time.toNanosecondsSinceUnixEpoch.val
  return ⟨nanoseconds / 1000000000, (nanoseconds % 1000000000).toNat⟩

/-- The machine that the program runs on. -/
def machine (options : FeedOptions) : Dump.Machine IO where
  readText := readText
  exchange := exchange options.node.timeoutSecs
  now := now
  pause milliseconds := IO.sleep milliseconds.toUInt32
  write record := IO.println record.render

/-- What the environment has for the flags of a dump. -/
def environment : IO (List (String × Option String)) :=
  DumpOptions.flags.mapM fun flag => do
    return (flag.variableName, ← IO.getEnv flag.variableName)

/-- The words for a refused command line. -/
def usage : UsageError → String
  | .valueValidation => "error: invalid value"
  | .unknownArgument => "error: unexpected argument"
  | .invalidValue => "error: a value is required"
  | .argumentConflict => "error: an argument cannot be used multiple times"
  | .tooManyValues => "error: unexpected value"
  | .displayHelp => "Options: " ++ String.intercalate ", " (DumpOptions.flags.map ("--" ++ ·.name))

end ChainFeed.Program

/-- Dumps what the arguments ask for. -/
def main (args : List String) : IO UInt32 := do
  let environment ← Program.environment
  match DumpOptions.parse (fun name => (environment.lookup name).join) args with
  | .error .displayHelp => do
    IO.println (Program.usage .displayHelp)
    return 0
  | .error e => do
    IO.eprintln (Program.usage e)
    return 2
  | .ok options =>
    let result ← (Dump.run (Program.machine options.feed) options).run
    if let .error e := result then IO.eprintln e.message
    return Dump.exitCode result
