import FacetSearch.Command.Run
import FacetSearch.Web.Wire
import Std.Async.DNS
import Std.Async.TCP

/-!
# The program

The host that the program runs on: files, the environment, random words and connections of the
system.  Everything it does with them is decided by `Command.run`.
-/

namespace FacetSearch.Program

open FacetSearch.Web

/-- The number in an error; zero for one of another kind. -/
def signedNumber : IO.Error → UInt32
  | .alreadyExists _ n _ => n
  | .otherError n _ => n
  | .resourceBusy n _ => n
  | .resourceVanished n _ => n
  | .unsupportedOperation n _ => n
  | .hardwareFault n _ => n
  | .unsatisfiedConstraints n _ => n
  | .illegalOperation n _ => n
  | .protocolError n _ => n
  | .timeExpired n _ => n
  | .interrupted _ n _ => n
  | .noFileOrDirectory _ n _ => n
  | .invalidArgument _ n _ => n
  | .permissionDenied _ n _ => n
  | .resourceExhausted _ n _ => n
  | .inappropriateType _ n _ => n
  | .noSuchThing _ n _ => n
  | _ => 0

/-- The number that the system has for an error.  It may come with its sign changed. -/
def errorNumber (e : IO.Error) : Nat :=
  let n := signedNumber e
  (if n < 0x80000000 then n else 0 - n).toNat

/-- Reads a file. -/
def readFile (path : String) : IO (Except FileError (List UInt8)) := do
  if path.toList.contains '\x00' then return .error .nulInName
  try
    return .ok (← IO.FS.readBinFile path).toList
  catch e => return .error (.ofNumber (errorNumber e))

/-- The addresses of a host. -/
def resolve (host service : String) : IO (List Std.Net.IPAddr) :=
  match Std.Net.IPv4Addr.ofString host, Std.Net.IPv6Addr.ofString host with
  | some a, _ => return [.v4 a]
  | none, some a => return [.v6 a]
  | none, none => do
    try
      return (← (Std.Async.DNS.getAddrInfo host service none).block).toList
    catch _ => return []

/-- A service of a host. -/
def socketAddress (address : Std.Net.IPAddr) (service : Nat) : Std.Net.SocketAddress :=
  match address with
  | .v4 a => .v4 ⟨a, service.toUInt16⟩
  | .v6 a => .v6 ⟨a, service.toUInt16⟩

/-- Receives all that comes until the connection ends. -/
partial def receiveAll (client : Std.Async.TCP.Socket.Client) (received : ByteArray) :
    Std.Async.Async ByteArray := do
  match ← client.recv? 65536 with
  | some bytes => if bytes.isEmpty then return received else receiveAll client (received ++ bytes)
  | none => return received

/-- Sends a request to an address, and receives what comes back. -/
def exchange (target : Std.Net.SocketAddress) (request : String) :
    IO (Except Failure (List UInt8)) := do
  let client ← Std.Async.TCP.Socket.Client.mk
  let connected ← try
      (client.connect target).block
      pure none
    catch e => pure (some (errorNumber e))
  match connected with
  | some number => return .error (if number = 111 then .refused else .unreachable)
  | none =>
    try
      (client.sendAll #[request.toUTF8]).block
      return .ok (← (receiveAll client .empty).block).toList
    catch _ => return .error .closed

/-- Sends a request to the first of these addresses that can be reached. -/
def exchangeAny (request : String) :
    List Std.Net.SocketAddress → IO (Except Failure (List UInt8))
  | [] => return .error .unresolved
  | target :: others => do
    match ← exchange target request with
    | .ok bytes => return .ok bytes
    | .error failure =>
      if others.isEmpty then return .error failure else exchangeAny request others

/-- The reply from an address. -/
def get (url : Url) : IO (Except Failure Reply) := do
  if url.scheme != "http" then return .error .needsEncryption
  let addresses ← resolve url.host (toString url.service)
  match ← exchangeAny url.request (addresses.map fun a => socketAddress a url.service) with
  | .error failure => return .error failure
  | .ok bytes => return Reply.ofBytes bytes

/-- The variables of the environment that settings depend on. -/
def environment : IO Settings.Environment := do
  let values ← ["HOME", "USERPROFILE", Settings.serverVariable].mapM fun name => do
    return (name, ← IO.getEnv name)
  return fun name => (values.find? fun v => v.1 == name).bind (·.2)

/-- How many random words a run has. -/
def wordCount : Nat := 64

/-- The word in four bytes of a list, from one place on. -/
def wordAt (bytes : ByteArray) (i : Nat) : UInt32 :=
  (List.range 4).foldl (fun w k => w * 256 + (bytes[i + k]?.getD 0).toUInt32) 0

/-- Random words. -/
def words : IO WordSource := do
  let bytes ← IO.getRandomBytes (USize.ofNat (4 * wordCount))
  return WordSource.ofList ((List.range wordCount).map fun i => wordAt bytes (4 * i))

/-- The system as a host. -/
def host : IO (Command.Host IO) := do
  return ⟨readFile, get, ← environment, ← words⟩

end FacetSearch.Program

/-- Runs the program and ends with its exit code. -/
def main (args : List String) : IO UInt32 := do
  let outcome ← FacetSearch.Command.run (← FacetSearch.Program.host) args
  (← IO.getStdout).putStr outcome.output
  (← IO.getStderr).putStr outcome.errors
  return UInt32.ofNat outcome.code
