import DevConsole.Command.Action
import DevConsole.Game.Banner

/-!
# Commands of the novelty mode

Games, pictures made of letters, quotations, and the weather. The balance of blackjack is stored as
a decimal number; a bet is taken off it when the cards are dealt and held by the round in progress.
-/

namespace DevConsole

open Net Blackjack

inductive Novelty where
  | snake
  | matrix
  | cowsay
  | fortune
  | banner
  | weather
  | joke
  | blackjack
  deriving DecidableEq, Repr

namespace Novelty

def all : List Novelty :=
  [.snake, .matrix, .cowsay, .fortune, .banner, .weather, .joke, .blackjack]

def info : Novelty → Info
  | .snake => ⟨"snake", "Play Snake game", "snake"⟩
  | .matrix => ⟨"matrix", "Matrix effect", "matrix"⟩
  | .cowsay => ⟨"cowsay", "Cowsay (e.g., cowsay Hello)", "cowsay [text]"⟩
  | .fortune => ⟨"fortune", "Random quote", "fortune"⟩
  | .banner => ⟨"banner", "ASCII art banner (e.g., banner CODE)", "banner [text]"⟩
  | .weather => ⟨"weather", "Get weather (e.g., weather Paris)", "weather [city]"⟩
  | .joke => ⟨"joke", "Random programming joke", "joke"⟩
  | .blackjack =>
    ⟨"blackjack", "Play blackjack (e.g., blackjack 50)", "blackjack <bet> | hit | stand | balance"⟩

/-- The words of a call, or a text in their place where there are none. -/
def wordsOr (default : String) (args : List String) : String :=
  if args.isEmpty then default else Text.joinWith " " args

/-! ## Texts -/

def fortunes : List String :=
  ["The best code is no code at all.",
   "There are only two hard things: cache invalidation and naming things.",
   "It works on my machine!",
   "To err is human; to really foul things up requires a computer.",
   "Talk is cheap. Show me the code. -- Linus Torvalds",
   "Any sufficiently advanced technology is indistinguishable from magic.",
   "Debugging is twice as hard as writing the code in the first place.",
   "First, solve the problem. Then, write the code.",
   "In theory, there is no difference between theory and practice.",
   "It's not a bug, it's a feature."]

def jokes : List String :=
  ["Why do programmers prefer dark mode? Because light attracts bugs!",
   "How many programmers does it take to change a light bulb? None, that's a hardware problem.",
   "Why do Java developers wear glasses? Because they don't C#.",
   "A SQL query walks into a bar, walks up to two tables and asks... 'Can I join you?'",
   "There are 10 types of people in the world: those who understand binary, and those who don't."]

/-! ## The matrix -/

def matrixGlyphs : List Char := "01アイウエオカキクケコサシスセソタチツテト日月火水木金土".toList

def matrixWidth : Nat := 48
def matrixHeight : Nat := 10

/-- A cell of the matrix; one in four is blank. -/
def drawMatrixCell (r : Random) : Char × Random :=
  let (n, r) := r.below 4
  if n = 0 then (' ', r)
  else
    let (c, r) := r.choose? matrixGlyphs
    (c.getD ' ', r)

def matrixLine (cells : List Char) : Line := .success (Text.trimEnd (String.ofList cells))

/-! ## The weather -/

def weatherLines (w : WeatherReport) : List Line :=
  [.plain ("Temperature: " ++ Decimal.plain w.celsius ++ "°C"),
   .plain ("Condition: " ++ w.description),
   .plain ("Humidity: " ++ toString w.humidity ++ "%"),
   .plain ("Wind: " ++ Decimal.plain w.wind ++ " km/h")]

/-! ## Blackjack -/

def startingBalance : Nat := 1000

variable {σ ν : Type} [Backend σ]

/-- The stored balance; a text that is no number counts as none stored. -/
def loadBalance (s : Store σ) : Nat :=
  ((s.get? Key.blackjackBalance).bind fun text => Text.natural64? (Text.trim text)).getD
    startingBalance

def saveBalance (balance : Nat) : Action σ ν Unit :=
  Action.onStore (·.set Key.blackjackBalance (toString balance))

/-- Sets the round in progress. -/
def putRound (round : Option Round) : Action σ ν Unit :=
  Action.onSession fun s => { s with blackjack := round }

/-- A hand with its value. -/
def handText (hand : List Card) : String :=
  showHand hand ++ " (" ++ toString (handValue hand) ++ ")"

def playerLine (r : Round) : Line := .plain ("Your hand: " ++ handText r.player)

def blackjackUsage : String :=
  "Usage: blackjack <bet> | blackjack hit | blackjack stand | blackjack balance"

/-- Takes the bet off the balance and deals. -/
def deal (bet : Nat) : Action σ ν Output := do
  let m ← get
  let balance := loadBalance m.store
  if m.session.blackjack.isSome then
    Action.refuseUsage "Game in progress! Use blackjack hit or blackjack stand."
  else if balance < bet then Action.refuseUsage "Insufficient balance!"
  else
    saveBalance (balance - bet)
    let round ← Action.onRandom (Round.deal bet)
    putRound (some round)
    let up := (round.dealer.head?.map Card.text).getD ""
    return .lines
      [.system ("Bet placed: $" ++ toString bet), playerLine round,
       .plain ("Dealer shows: " ++ up ++ " ??"),
       .system "Type 'blackjack hit' or 'blackjack stand'."]

/-- Draws one more card for the player; going bust ends the round and loses the bet. -/
def hit : Action σ ν Output := do
  let m ← get
  let round ← Action.required m.session.blackjack "No active game!"
  let (_, round) ← Action.required round.hit "No cards left in the deck!"
  if round.isBust then
    putRound none
    return .lines
      [playerLine round,
       .error ("Bust! You lose $" ++ toString round.bet ++ ". Balance: $" ++
         toString (loadBalance m.store))]
  else
    putRound (some round)
    return .lines [playerLine round]

/-- The line that tells how a round went. -/
def resultLine (outcome : Outcome) (bet balance : Nat) : Line :=
  match outcome with
  | .win => .success ("You win $" ++ toString bet ++ "! Balance: $" ++ toString balance)
  | .push => .system ("Push. Bet returned. Balance: $" ++ toString balance)
  | .lose => .error ("Dealer wins. Balance: $" ++ toString balance)

/-- Lets the dealer play, settles the round and pays out. -/
def stand : Action σ ν Output := do
  let m ← get
  let round ← Action.required m.session.blackjack "No active game!"
  putRound none
  let round := round.playDealer
  let outcome := round.settle
  let payout ← Action.ofAbort (outcome.payout round.bet)
  let balance ← Action.ofAbort (amount (loadBalance m.store + payout))
  saveBalance balance
  return .lines
    [playerLine round, .plain ("Dealer's hand: " ++ handText round.dealer),
     resultLine outcome round.bet balance]

def runBlackjack (args : List String) : Action σ ν Output := do
  match args.head?.getD "balance" with
  | "balance" => return .text ("Balance: $" ++ toString (loadBalance (← get).store))
  | "hit" => hit
  | "stand" => stand
  | bet =>
    let bet ← Action.required ((Text.natural64? bet).filter (0 < ·)) blackjackUsage
    deal bet

/-! ## Actions -/

variable [Client ν]

def runWeather (args : List String) : Action σ ν Output := do
  let city := args.headD "Paris"
  let answer ← Action.onNetwork (·.weather city)
  return .lines
    (.system ("Fetching weather for " ++ city ++ "...") ::
      match answer with
      | .ok report => weatherLines report
      | .error _ => [.error "Could not fetch weather data."])

def run (c : Novelty) (call : Call) : Action σ ν Output :=
  match c with
  | .snake => return .launch .snake
  | .matrix => do
    let rows ← Action.onRandom (Random.times (Random.times drawMatrixCell matrixWidth) matrixHeight)
    return .lines (.success "Entering the Matrix..." :: rows.map matrixLine)
  | .cowsay => return .text (Banner.cowsay (wordsOr "Hello from the terminal!" call.args))
  | .fortune => do return .text ((← Action.onRandom (Random.choose? fortunes)).getD "")
  | .banner => return .text (Banner.banner (wordsOr "CODE" call.args))
  | .weather => runWeather call.args
  | .joke => do return .text ((← Action.onRandom (Random.choose? jokes)).getD "")
  | .blackjack => runBlackjack call.args

end Novelty

end DevConsole
