import DevConsole.Error
import DevConsole.Net.Query

/-!
# Network clients

`Client` is what answers queries; its state may change with every query. A `Network` is a client
together with the queries asked of it so far. The functions for one kind of query give the value
that the reply carries, a reply of another kind is an error that names both.
-/

namespace DevConsole.Net

/-- Something that answers queries. -/
class Client (ν : Type) where
  ask : ν → Query → Except Error Reply × ν

/-- A client, with the queries asked of it so far, in order. -/
structure Network (ν : Type) where
  client : ν
  asked : List Query := []

namespace Network

variable {ν : Type} [Client ν]

def ask (n : Network ν) (q : Query) : Except Error Reply × Network ν :=
  let (answer, client) := Client.ask n.client q
  (answer, ⟨client, n.asked ++ [q]⟩)

/-- The error for a reply of another kind than the query asks for. -/
def unexpected (q : Query) (r : Reply) : Error :=
  .network ("unexpected reply to " ++ q.text ++ ": " ++ r.text)

/-- Asks, and takes out of the reply what `pick?` finds there. -/
def askFor {α : Type} (n : Network ν) (q : Query) (pick? : Reply → Option α) :
    Except Error α × Network ν :=
  let (answer, n) := n.ask q
  (answer.bind fun r =>
    match pick? r with
    | some a => .ok a
    | none => .error (unexpected q r), n)

def price (n : Network ν) (symbol : String) : Except Error Float × Network ν :=
  n.askFor (.price symbol) fun
    | .price dollars => some dollars
    | _ => none

def rate (n : Network ν) (source target : String) : Except Error Float × Network ν :=
  n.askFor (.rate source target) fun
    | .rate factor => some factor
    | _ => none

def whois (n : Network ν) (domain : String) : Except Error WhoisRecord × Network ν :=
  n.askFor (.whois domain) fun
    | .whois record => some record
    | _ => none

def address (n : Network ν) : Except Error AddressDetails × Network ν :=
  n.askFor .address fun
    | .address details => some details
    | _ => none

def weather (n : Network ν) (city : String) : Except Error WeatherReport × Network ν :=
  n.askFor (.weather city) fun
    | .weather report => some report
    | _ => none

/-- The milliseconds that a request takes. -/
def ping (n : Network ν) (url : String) : Except Error Nat × Network ν :=
  n.askFor (.ping url) fun
    | .latency millis => some millis
    | _ => none

/-- The status and the body of a page. -/
def fetch (n : Network ν) (url : String) : Except Error (Nat × String) × Network ν :=
  n.askFor (.fetch url) fun
    | .body status text => some (status, text)
    | _ => none

end Network

end DevConsole.Net
