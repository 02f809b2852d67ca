import DevConsole.Error

/-!
# Timers and the price alert

The scheduler keeps countdown timers and at most one price alert. It runs nothing on its own: on
every tick the shell asks what is due. Times are readings of a monotonic clock that ends somewhere,
arming a timer past its end is refused, and an alert whose next poll lies past it aborts.
-/

namespace DevConsole

/-- A reading of the monotonic clock, in nanoseconds. -/
structure Instant where
  nanos : Nat
  deriving DecidableEq, Repr

namespace Instant

/-- The nanoseconds of a second. -/
@[irreducible] def second : Nat := 1000000000

/-- The last second that the clock can show: the greatest signed number of 64 bits. -/
def lastSecond : Nat := 0x7FFFFFFFFFFFFFFF

/-- A span of time later, if the clock reaches it. -/
def add? (t : Instant) (nanos : Nat) : Option Instant :=
  if (t.nanos + nanos) / second ≤ lastSecond then some ⟨t.nanos + nanos⟩ else none

end Instant

/-- The side of the target that an alert waits for. -/
inductive Direction where
  | above
  | below
  deriving DecidableEq, Repr

/-- A target price of one symbol. -/
structure PriceAlert where
  symbol : String
  target : Float
  direction : Direction
  deriving Repr

namespace PriceAlert

/-- The alert that waits for the price to come from where it is now. -/
def new (symbol : String) (target current : Float) : PriceAlert :=
  ⟨symbol, target, if current ≤ target then .above else .below⟩

def isReached (a : PriceAlert) (price : Float) : Bool :=
  match a.direction with
  | .above => a.target ≤ price
  | .below => price ≤ a.target

end PriceAlert

structure Timer where
  due : Instant
  seconds : Nat
  deriving DecidableEq, Repr

/-- An alert with the times of its polls. -/
structure Watch where
  alert : PriceAlert
  /-- Nanoseconds between two polls. -/
  interval : Nat
  nextPoll : Instant
  deriving Repr

structure Scheduler where
  /-- In the order they were set. -/
  timers : List Timer := []
  watch : Option Watch := none
  deriving Repr

namespace Scheduler

/-- Sets a timer; `none` where it would be due past the end of the clock. -/
def addTimer? (s : Scheduler) (now : Instant) (seconds : Nat) : Option Scheduler :=
  (now.add? (Instant.second * seconds)).map fun due =>
    { s with timers := s.timers ++ [⟨due, seconds⟩] }

/-- Drops the timers, and counts them. -/
def cancelTimers (s : Scheduler) : Nat × Scheduler := (s.timers.length, { s with timers := [] })

def pendingTimers (s : Scheduler) : Nat := s.timers.length

/-- Whether a timer is due. -/
def isDue (now : Instant) (t : Timer) : Bool := t.due.nanos ≤ now.nanos

/-- Takes out the timers that are due and gives their durations, the earliest first; of those due at
the same time the one set first. -/
def expireTimers (s : Scheduler) (now : Instant) : List Nat × Scheduler :=
  let due := s.timers.filter (isDue now)
  let pending := s.timers.filter (!isDue now ·)
  let ordered := due.mergeSort fun a b => a.due.nanos ≤ b.due.nanos
  (ordered.map Timer.seconds, { s with timers := pending })

/-- The time of a poll one interval from now. -/
def pollAfter (now : Instant) (interval : Nat) : Except Abort Instant :=
  match now.add? interval with
  | some t => .ok t
  | none => .error .instant

/-- Watches an alert in place of an earlier one. The first poll is one interval from now. -/
def startWatch (s : Scheduler) (alert : PriceAlert) (now : Instant) (interval : Nat) :
    Except Abort Scheduler :=
  (pollAfter now interval).map fun nextPoll =>
    { s with watch := some ⟨alert, interval, nextPoll⟩ }

/-- Stops watching, and gives the alert that was watched. -/
def stopWatch (s : Scheduler) : Option PriceAlert × Scheduler :=
  (s.watch.map Watch.alert, { s with watch := none })

def alert? (s : Scheduler) : Option PriceAlert := s.watch.map Watch.alert

/-- The alert, where it is time to look at its price; the next poll is one interval from now. -/
def pollAlert (s : Scheduler) (now : Instant) : Except Abort (Option PriceAlert × Scheduler) :=
  match s.watch with
  | none => .ok (none, s)
  | some w =>
    if now.nanos < w.nextPoll.nanos then .ok (none, s)
    else
      (pollAfter now w.interval).map fun nextPoll =>
        (some w.alert, { s with watch := some { w with nextPoll } })

end Scheduler

end DevConsole
