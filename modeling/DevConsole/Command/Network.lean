import DevConsole.Command.Action

/-!
# Commands of the network mode

Latency, registrations, addresses and pages. A failed lookup is a line of output, not a refusal, so
that the line before it stays to be seen.
-/

namespace DevConsole

open Net

inductive Networking where
  | ping
  | trace
  | whois
  | scan
  | check
  | curl
  deriving DecidableEq, Repr

namespace Networking

def all : List Networking := [.ping, .trace, .whois, .scan, .check, .curl]

def info : Networking → Info
  | .ping => ⟨"ping", "HTTP ping (e.g., ping google.com)", "ping [host]"⟩
  | .trace => ⟨"trace", "Simulate traceroute", "trace"⟩
  | .whois => ⟨"whois", "WHOIS lookup", "whois <domain>"⟩
  | .scan => ⟨"scan", "Show public IP info", "scan"⟩
  | .check => ⟨"check", "Check port status", "check"⟩
  | .curl => ⟨"curl", "Fetch URL content (e.g., curl https://api.github.com)", "curl <url>"⟩

/-! ## Lines -/

/-- The address to ping for a host. -/
def addressOf (host : String) : String :=
  if "http".toList.isPrefixOf host.toList then host else "https://" ++ host

def replyLine (url : String) : Except Error Nat → Line
  | .ok millis => .plain ("Reply from " ++ url ++ ": time=" ++ toString millis ++ "ms")
  | .error _ => .plain "Request timed out."

def whoisLines (record : WhoisRecord) : List Line :=
  let status := if record.status.isEmpty then "Active" else Text.joinWith ", " record.status
  [.plain ("Domain Name: " ++ record.domain), .plain ("Status: " ++ status),
   .plain ("Port 43: " ++ record.port43.getD "N/A")]

def addressLines (a : AddressDetails) : List Line :=
  [.plain ("Public IP: " ++ a.ip), .plain ("City: " ++ a.city), .plain ("Region: " ++ a.region),
   .plain ("Country: " ++ a.country), .plain ("ISP: " ++ a.org)]

/-- How many characters of a page are shown. -/
def previewLength : Nat := 500

/-- The start of a page, with dots where it goes on. -/
def preview (body : String) : String :=
  String.ofList (body.toList.take previewLength) ++
    if previewLength < body.length then "..." else ""

def pageLines (status : Nat) (body : String) : List Line :=
  (Text.lines (preview body)).map Line.plain ++
    [.system ("Status: " ++ toString status ++ " | Size: " ++ toString body.utf8ByteSize ++
      " bytes")]

/-! ## Actions -/

variable {σ ν : Type} [Client ν]

/-- How often a host is pinged. -/
def probes : Nat := 4

def runPing (args : List String) : Action σ ν Output := do
  let url := addressOf (args.headD "google.com")
  let answers ← (List.replicate probes url).mapM fun url => Action.onNetwork (·.ping url)
  return .lines
    ([.system ("Pinging " ++ url ++ " (HTTP Latency)...")] ++ answers.map (replyLine url) ++
      [.plain "Ping complete."])

def runWhois (args : List String) : Action σ ν Output := do
  let domain ← Action.required args.head? "Usage: whois <domain>"
  let answer ← Action.onNetwork (·.whois domain)
  return .lines
    (.system ("Querying RDAP for " ++ domain ++ "...") ::
      match answer with
      | .ok record => whoisLines record
      | .error _ => [.error "Could not fetch WHOIS data."])

def runScan : Action σ ν Output := do
  let answer ← Action.onNetwork (·.address)
  return .lines
    (.error "Error: Network scanning requires local network access." ::
      .system "Fetching public IP info instead..." ::
      match answer with
      | .ok details => addressLines details
      | .error _ => [.error "Could not fetch IP info."])

def runCurl (args : List String) : Action σ ν Output := do
  let url ← Action.required args.head? "Usage: curl <url>"
  let answer ← Action.onNetwork (·.fetch url)
  return .lines
    (.system ("Fetching " ++ url ++ "...") ::
      match answer with
      | .ok (status, body) => pageLines status body
      | .error e => [.error ("Error: " ++ e.message)])

def run (c : Networking) (call : Call) : Action σ ν Output :=
  match c with
  | .ping => runPing call.args
  | .trace =>
    return .lines
      [.error "Error: 'traceroute' requires raw socket access.",
       .system "Simulating for demonstration:", .plain "1  192.168.1.1  2ms",
       .plain "2  10.0.0.1     15ms", .plain "3  172.217.0.1  24ms"]
  | .whois => runWhois call.args
  | .scan => runScan
  | .check => return .lines [.error "Error: Port checking requires backend proxy."]
  | .curl => runCurl call.args

end Networking

end DevConsole
