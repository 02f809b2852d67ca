import DevConsole.Command.Action
import DevConsole.Decimal.Grouped
import DevConsole.Decimal.Reader
import DevConsole.Unicode.Case

/-!
# Commands of the market mode

Prices, returns, a few simulations, and the price alert. A price that cannot be had is a line of
output, not a refusal. Only `alert` changes the scheduler.
-/

namespace DevConsole

open Net

inductive Market where
  | price
  | roi
  | simulate
  | funding
  | spread
  | portfolio
  | alert
  deriving DecidableEq, Repr

namespace Market

def all : List Market := [.price, .roi, .simulate, .funding, .spread, .portfolio, .alert]

def info : Market → Info
  | .price => ⟨"price", "Show real-time price (e.g., price BTC)", "price [symbol]"⟩
  | .roi => ⟨"roi", "Calculate ROI (e.g., roi 100 150)", "roi <initial> <final>"⟩
  | .simulate => ⟨"simulate", "Simulate delta-neutral strategy", "simulate"⟩
  | .funding => ⟨"funding", "Show simulated funding rate", "funding"⟩
  | .spread => ⟨"spread", "Show simulated bid/ask spread", "spread [symbol]"⟩
  | .portfolio => ⟨"portfolio", "Show live portfolio value", "portfolio"⟩
  | .alert =>
    ⟨"alert", "Set price alert (e.g., alert BTC 100000)", "alert <symbol> <target> | alert stop"⟩

/-- The symbol asked for, in capital letters. -/
def symbolOf (args : List String) : String :=
  match args with
  | [] => "BTC"
  | symbol :: _ => Unicode.upper symbol

/-! ## Computations -/

/-- A float with some decimals, the nearest one to the product with a power of ten. -/
def roundTo (scale x : Float) : Float := (x * scale).round / scale

/-- The return on a first amount, in percent. -/
def returnOn (args : List String) : Except Error String :=
  let usage := Error.usage "Usage: roi <initial> <final>"
  match args with
  | first :: last :: _ =>
    match Decimal.read? first, Decimal.read? last with
    | some first, some last =>
      if first == 0 then .error (.usage "Error: Initial value cannot be zero")
      else .ok ("ROI: " ++ Decimal.fixed 2 ((last - first) / first * 100) ++ "%")
    | _, _ => .error usage
  | _ => .error usage

/-- The simulated strategy at a price, with a number from the unit interval drawn for the rate. -/
def strategyLines (price drawn : Float) : List Line :=
  let funding := roundTo 10000 (drawn * 0.02)
  let yearly := funding * 3 * 365
  [.plain ("Current BTC Price: $" ++ Decimal.grouped 3 price),
   .plain "Strategy: Long BTC / Short BTC-Perp",
   .plain "Hedge Ratio: 1.0",
   .plain ("Current Funding Rate (8h): " ++ Decimal.fixed 4 funding ++ "%"),
   .plain ("Estimated APY: " ++ Decimal.fixed 2 yearly ++ "%")]

/-- The two sides of a market around a price, a ten-thousandth apart. -/
def spreadText (symbol : String) (price : Float) : String :=
  let spread := roundTo 100 (price * 0.0001)
  "[" ++ symbol ++ "] Bid: " ++ Decimal.fixed 2 (price - spread / 2) ++ " | Ask: " ++
    Decimal.fixed 2 (price + spread / 2) ++ " | Spread: " ++ Decimal.fixed 2 spread

/-- What the demo portfolio holds. -/
def holdings : List (String × Float) := [("BTC", 0.5), ("ETH", 4.2), ("SOL", 150)]

/-- What it holds in dollars besides. -/
def stableHolding : Float := 5000

/-- The line of a holding and its value. -/
def holdingLine (symbol : String) (amount value : Float) : Line :=
  .plain (Text.padRight 5 (symbol ++ ":") ++ " " ++ Decimal.plain amount ++ " (" ++
    Decimal.dollars value ++ ")")

/-- The portfolio, given the values of the holdings. -/
def portfolioLines (values : List Float) : List Line :=
  let total := values.foldl (· + ·) stableHolding
  [.system "Fetching real-time portfolio value...", .plain "--- Live Portfolio ---"] ++
    (holdings.zip values).map (fun (h, value) => holdingLine h.1 h.2 value) ++
    [.plain ("USDT: " ++ Decimal.grouped 0 stableHolding), .plain "----------------------",
     .success ("Total Value: " ++ Decimal.dollars total)]

/-! ## Actions -/

variable {σ ν : Type} [Client ν]

def runPrice (args : List String) : Action σ ν Output := do
  let symbol := symbolOf args
  let answer ← Action.price symbol
  return .lines
    [.system ("Fetching price for " ++ symbol ++ "..."),
     match answer with
     | .ok dollars => .plain (symbol ++ ": $" ++ Decimal.grouped 3 dollars)
     | .error _ => .error ("Error: Could not fetch price for " ++ symbol)]

def runSimulate : Action σ ν Output := do
  let heading := Line.system "Fetching live data for Delta-Neutral Strategy..."
  match ← Action.price "BTC" with
  | .error _ => return .lines [heading, .error "Error: Could not fetch market data."]
  | .ok dollars =>
    let drawn ← Action.onRandom Random.unit
    return .lines (heading :: strategyLines dollars drawn)

def runSpread (args : List String) : Action σ ν Output := do
  let symbol := symbolOf args
  match ← Action.price symbol with
  | .error _ => return .lines [.error "Error fetching price."]
  | .ok dollars => return .text (spreadText symbol dollars)

/-- The value of a holding; one whose price cannot be had is worth nothing. -/
def valueOf (symbol : String) (amount : Float) : Action σ ν Float := do
  match ← Action.price symbol with
  | .ok dollars => return amount * dollars
  | .error _ => return amount * 0

def runPortfolio : Action σ ν Output := do
  let values ← holdings.mapM fun (symbol, amount) => valueOf symbol amount
  return .lines (portfolioLines values)

def alertUsage : String := "Usage: alert <symbol> <target> | alert stop"

/-- An alert in words. -/
def describe (a : PriceAlert) : String :=
  let side := match a.direction with
    | .above => "above"
    | .below => "below"
  a.symbol ++ " " ++ side ++ " " ++ Decimal.dollars a.target

/-- Sets an alert; its first poll is one interval of the profile from now. -/
def setAlert (symbol : String) (target : Float) (call : Call) : Action σ ν Output := do
  match ← Action.price symbol with
  | .error _ => return .lines [.error ("Error: Could not fetch price for " ++ symbol)]
  | .ok current =>
    let a := PriceAlert.new symbol target current
    let m ← get
    let scheduler ← Action.ofAbort
      (m.scheduler.startWatch a call.now (Instant.second * call.profile.alertInterval))
    set { m with scheduler }
    return .lines
      [.system ("Alert set: " ++ describe a ++ " (current $" ++ Decimal.grouped 3 current ++ ")")]

/-- A target that an alert may have. -/
def readTarget? (text : String) : Option Float :=
  (Decimal.read? text).filter fun t => t.isFinite && 0 < t

def runAlert (call : Call) : Action σ ν Output := do
  match call.args with
  | [] =>
    match (← get).scheduler.alert? with
    | some watched => return .text ("Active alert: " ++ describe watched)
    | none => Action.refuseUsage alertUsage
  | ["stop"] =>
    match ← Action.onScheduler Scheduler.stopWatch with
    | some stopped => return .lines [.system ("Alert for " ++ stopped.symbol ++ " stopped.")]
    | none => return .text "No active alert."
  | [_] => Action.refuseUsage alertUsage
  | symbol :: target :: _ =>
    let target ← Action.required (readTarget? target) alertUsage
    setAlert (Unicode.upper symbol) target call

def run (c : Market) (call : Call) : Action σ ν Output :=
  match c with
  | .price => runPrice call.args
  | .roi => Output.text <$> Action.ofExcept (returnOn call.args)
  | .simulate => runSimulate
  | .funding =>
    return .lines
      [.system "Fetching funding rates...", .plain "BTC-PERP: 0.0100% (8h)",
       .plain "ETH-PERP: 0.0125% (8h)", .plain "SOL-PERP: 0.0085% (8h)"]
  | .spread => runSpread call.args
  | .portfolio => runPortfolio
  | .alert => runAlert call

end Market

end DevConsole
