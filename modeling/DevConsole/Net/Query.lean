import DevConsole.Decimal.Layout
import DevConsole.Text.Quoted

/-!
# Network queries and replies

A `Query` is what a command asks of the network, a `Reply` a successful answer. `text` writes each
of them out for an error message.
-/

namespace DevConsole.Net

inductive Query where
  /-- The price of a symbol in dollars. -/
  | price (symbol : String)
  /-- The exchange rate between two currencies. -/
  | rate (source target : String)
  /-- The registration of a domain. -/
  | whois (domain : String)
  /-- The public address of this host. -/
  | address
  | weather (city : String)
  /-- The time that a request takes. -/
  | ping (url : String)
  | fetch (url : String)
  deriving DecidableEq, Repr

structure WhoisRecord where
  domain : String
  status : List String
  port43 : Option String
  deriving DecidableEq, Repr

structure AddressDetails where
  ip : String
  city : String
  region : String
  country : String
  org : String
  deriving DecidableEq, Repr

structure WeatherReport where
  celsius : Float
  description : String
  humidity : Nat
  wind : Float
  deriving Repr

inductive Reply where
  | price (dollars : Float)
  | rate (factor : Float)
  | whois (record : WhoisRecord)
  | address (details : AddressDetails)
  | weather (report : WeatherReport)
  | latency (millis : Nat)
  | body (status : Nat) (text : String)
  deriving Repr

/-! ## Texts -/

/-- A name with its fields in braces. -/
def showRecord (name : String) (fields : List (String × String)) : String :=
  name ++ " \x7b " ++ Text.joinWith ", " (fields.map fun f => f.1 ++ ": " ++ f.2) ++ " \x7d"

def Query.text : Query → String
  | .price symbol => showRecord "Price" [("symbol", Text.quoted symbol)]
  | .rate source target =>
    showRecord "ExchangeRate" [("from", Text.quoted source), ("to", Text.quoted target)]
  | .whois domain => showRecord "Whois" [("domain", Text.quoted domain)]
  | .address => "IpInfo"
  | .weather city => showRecord "Weather" [("city", Text.quoted city)]
  | .ping url => showRecord "Ping" [("url", Text.quoted url)]
  | .fetch url => showRecord "Fetch" [("url", Text.quoted url)]

def WhoisRecord.text (w : WhoisRecord) : String :=
  showRecord "WhoisRecord"
    [("domain", Text.quoted w.domain), ("status", Text.quotedList w.status),
     ("port43", match w.port43 with
       | none => "None"
       | some server => "Some(" ++ Text.quoted server ++ ")")]

def AddressDetails.text (a : AddressDetails) : String :=
  showRecord "IpDetails"
    [("ip", Text.quoted a.ip), ("city", Text.quoted a.city), ("region", Text.quoted a.region),
     ("country", Text.quoted a.country), ("org", Text.quoted a.org)]

def WeatherReport.text (w : WeatherReport) : String :=
  showRecord "WeatherReport"
    [("temp_c", Decimal.tagged w.celsius), ("description", Text.quoted w.description),
     ("humidity", toString w.humidity), ("wind_kmh", Decimal.tagged w.wind)]

def Reply.text : Reply → String
  | .price dollars => "Price(" ++ Decimal.tagged dollars ++ ")"
  | .rate factor => "Rate(" ++ Decimal.tagged factor ++ ")"
  | .whois record => "Whois(" ++ record.text ++ ")"
  | .address details => "IpInfo(" ++ details.text ++ ")"
  | .weather report => "Weather(" ++ report.text ++ ")"
  | .latency millis => showRecord "Latency" [("millis", toString millis)]
  | .body status text =>
    showRecord "Body" [("status", toString status), ("body", Text.quoted text)]

end DevConsole.Net
