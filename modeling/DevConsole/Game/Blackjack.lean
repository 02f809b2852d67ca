import DevConsole.Error
import DevConsole.Random
import DevConsole.Text.Lines

/-!
# Blackjack

Cards, the value of a hand, and a round between a player and the dealer. An ace counts eleven, or
one where eleven would take the hand over twenty-one. The dealer draws up to seventeen. Amounts of
money are natural numbers of 64 bits, a payout past them aborts.
-/

namespace DevConsole.Blackjack

inductive Suit where
  | spades
  | hearts
  | diamonds
  | clubs
  deriving DecidableEq, Repr

def Suit.all : List Suit := [.spades, .hearts, .diamonds, .clubs]

def Suit.symbol : Suit → String
  | .spades => "♠"
  | .hearts => "♥"
  | .diamonds => "♦"
  | .clubs => "♣"

/-- A card; the ranks go from one, the ace, to thirteen, the king. -/
structure Card where
  rank : Nat
  suit : Suit
  deriving DecidableEq, Repr

namespace Card

def isAce (c : Card) : Bool := c.rank == 1

/-- What the card counts at most. -/
def points (c : Card) : Nat :=
  if c.rank = 1 then 11
  else if 11 ≤ c.rank ∧ c.rank ≤ 13 then 10
  else c.rank

def text (c : Card) : String :=
  let label := match c.rank with
    | 1 => "A"
    | 11 => "J"
    | 12 => "Q"
    | 13 => "K"
    | n => toString n
  label ++ c.suit.symbol

end Card

/-- The fifty-two cards, suit by suit. -/
def fullDeck : List Card :=
  Suit.all.flatMap fun suit => (List.range 13).map fun n => ⟨n + 1, suit⟩

def shuffledDeck (r : Random) : List Card × Random := r.shuffle fullDeck

/-- Takes ten off a total for one ace after the other as long as it is above twenty-one. -/
def soften (total : Nat) : Nat → Nat
  | 0 => total
  | aces + 1 => if 21 < total then soften (total - 10) aces else total

/-- The points of all cards, every ace counting eleven. -/
def totalPoints : List Card → Nat
  | [] => 0
  | c :: rest => c.points + totalPoints rest

def handValue (hand : List Card) : Nat := soften (totalPoints hand) (hand.countP Card.isAce)

def showHand (hand : List Card) : String := Text.joinWith " " (hand.map Card.text)

inductive Outcome where
  | win
  | push
  | lose
  deriving DecidableEq, Repr

/-- An amount of money that fits into 64 bits. -/
def amount (n : Nat) : Except Abort Nat := if n < UInt64.size then .ok n else .error .amount

/-- What the player gets back for a settled bet. -/
def Outcome.payout (bet : Nat) : Outcome → Except Abort Nat
  | .win => amount (bet * 2)
  | .push => .ok bet
  | .lose => .ok 0

/-- A round in progress. -/
structure Round where
  /-- The cards still to be drawn, the next one first. -/
  deck : List Card
  player : List Card
  dealer : List Card
  bet : Nat
  deriving DecidableEq, Repr

namespace Round

/-- Deals two cards each, as far as there are any; cards are drawn from the end of the deck. -/
def ofDeck (bet : Nat) (deck : List Card) : Round :=
  let cards := deck.reverse
  ⟨cards.drop 4, cards.take 2, (cards.drop 2).take 2, bet⟩

/-- Shuffles and deals. -/
def deal (bet : Nat) (r : Random) : Round × Random :=
  let (deck, r) := shuffledDeck r
  (ofDeck bet deck, r)

def playerValue (r : Round) : Nat := handValue r.player

def dealerValue (r : Round) : Nat := handValue r.dealer

def isBust (r : Round) : Bool := 21 < r.playerValue

/-- Gives the player one more card. -/
def hit (r : Round) : Option (Card × Round) :=
  match r.deck with
  | [] => none
  | card :: deck => some (card, { r with deck, player := r.player ++ [card] })

/-- Draws from the deck until the hand is worth seventeen; gives the rest of the deck and the hand.
-/
def drawTo17 : List Card → List Card → List Card × List Card
  | [], hand => ([], hand)
  | card :: deck, hand =>
    if handValue hand < 17 then drawTo17 deck (hand ++ [card]) else (card :: deck, hand)

def playDealer (r : Round) : Round :=
  let (deck, dealer) := drawTo17 r.deck r.dealer
  { r with deck, dealer }

/-- Compares the hands as they are. -/
def settle (r : Round) : Outcome :=
  if 21 < r.playerValue then .lose
  else if 21 < r.dealerValue ∨ r.dealerValue < r.playerValue then .win
  else if r.playerValue = r.dealerValue then .push
  else .lose

end Round

end DevConsole.Blackjack
