/-!
The rate limit for messages to the user. One failing grammar can break many documents at once, so after a
message is shown all others are dropped until a cooldown has passed.
-/

namespace BracketDecoration.Decoration

abbrev Milliseconds : Type := Nat

def errorCooldown : Milliseconds := 3000

/-- A timer and the callbacks that wait in it. All callbacks do the same: they enable a throttle. -/
inductive Timer where
  /-- Callbacks wait until they are fired by hand; their delays are kept. -/
  | manual (pending : List Milliseconds)
  /-- Callbacks wait for a clock to reach their deadlines. -/
  | clock (now : Milliseconds) (deadlines : List Milliseconds)
deriving DecidableEq, Repr

namespace Timer

def byHand : Timer := .manual []

def byClock : Timer := .clock 0 []

def schedule (timer : Timer) (delay : Milliseconds) : Timer :=
  match timer with
  | .manual pending => .manual (pending ++ [delay])
  | .clock now deadlines => .clock now (deadlines ++ [now + delay])

/-- Fires all callbacks by hand; the number of them comes with the timer. A clock cannot be fired. -/
def fire : Timer → Timer × Nat
  | .manual pending => (.manual [], pending.length)
  | .clock now deadlines => (.clock now deadlines, 0)

/-- Moves the clock, which runs all callbacks whose deadline is reached. -/
def advance (timer : Timer) (span : Milliseconds) : Timer × Nat :=
  match timer with
  | .manual pending => (.manual pending, 0)
  | .clock now deadlines =>
    let time := now + span
    (.clock time (deadlines.filter fun deadline => time < deadline),
      (deadlines.filter fun deadline => deadline ≤ time).length)

def pending? : Timer → Option (List Milliseconds)
  | .manual pending => some pending
  | .clock _ _ => none

end Timer

structure Throttle where
  enabled : Bool
  cooldown : Milliseconds
  timer : Timer
deriving DecidableEq, Repr

/-- A time with the largest unit that fits it, without zeros at the end. -/
def durationText (duration : Milliseconds) : String :=
  if duration = 0 then "0ns"
  else if duration < 1000 then toString duration ++ "ms"
  else
    let rest := duration % 1000
    let digits := (Nat.toDigits 10 (1000 + rest)).drop 1
    let fraction := (digits.reverse.dropWhile (· = '0')).reverse
    let decimals := if fraction.isEmpty then "" else "." ++ String.ofList fraction
    toString (duration / 1000) ++ decimals ++ "s"

namespace Throttle

def make (timer : Timer) (cooldown? : Option Milliseconds) : Throttle :=
  ⟨true, cooldown?.getD errorCooldown, timer⟩

/-- Asks to show a message. The answer tells whether it may be shown; then the throttle is disabled for the
cooldown. -/
def report (throttle : Throttle) : Throttle × Bool :=
  if throttle.enabled then
    ({ throttle with enabled := false, timer := throttle.timer.schedule throttle.cooldown }, true)
  else (throttle, false)

def afterCallbacks (throttle : Throttle) (timer : Timer) (count : Nat) : Throttle :=
  { throttle with timer, enabled := throttle.enabled || 0 < count }

def fire (throttle : Throttle) : Throttle × Nat :=
  let (timer, count) := throttle.timer.fire
  (throttle.afterCallbacks timer count, count)

def advance (throttle : Throttle) (span : Milliseconds) : Throttle :=
  let (timer, count) := throttle.timer.advance span
  throttle.afterCallbacks timer count

def summary (throttle : Throttle) : String :=
  "ErrorThrottle \x7b enabled: " ++ (if throttle.enabled then "true" else "false") ++ ", cooldown: " ++
    durationText throttle.cooldown ++ " \x7d"

end Throttle

structure Notice where
  host : Nat
  message : String
deriving DecidableEq, Repr

/-- Throttles in memory, the handles of those who hold them, and all messages that were shown, in order. A handle
is the place of its throttle in memory. -/
structure SharedThrottle where
  memory : List Throttle
  handles : List Nat
  notices : List Notice
deriving DecidableEq, Repr

namespace SharedThrottle

def initial (throttle : Throttle) : SharedThrottle := ⟨[throttle], [0], []⟩

def holders (state : SharedThrottle) : Nat := state.handles.length

/-- The handle of a holder. A number that no holder has stands for the first one. -/
def handleOf (state : SharedThrottle) (holder : Nat) : Nat := state.handles.getD holder 0

def throttleAt (state : SharedThrottle) (handle : Nat) : Throttle :=
  state.memory.getD handle (.make .byHand none)

def throttle (state : SharedThrottle) : Throttle := state.throttleAt (state.handleOf 0)

def report (state : SharedThrottle) (host : Nat) (message : String) (holder : Nat := 0) :
    SharedThrottle × Bool :=
  let handle := state.handleOf holder
  let (throttle, accepted) := (state.throttleAt handle).report
  ({ state with
      memory := state.memory.set handle throttle
      notices := if accepted then state.notices ++ [⟨host, message⟩] else state.notices }, accepted)

def share (state : SharedThrottle) (holder : Nat := 0) : SharedThrottle :=
  { state with handles := state.handles ++ [state.handleOf holder] }

def fire (state : SharedThrottle) : SharedThrottle × Nat :=
  ({ state with memory := state.memory.map fun throttle => throttle.fire.1 },
    state.memory.foldl (fun count throttle => count + throttle.fire.2) 0)

def advance (state : SharedThrottle) (span : Milliseconds) : SharedThrottle :=
  { state with memory := state.memory.map fun throttle => throttle.advance span }

def enabledFlags (state : SharedThrottle) : List Bool :=
  state.handles.map fun handle => (state.throttleAt handle).enabled

def messagesOn (state : SharedThrottle) (host : Nat) : List String :=
  (state.notices.filter fun notice => notice.host = host).map Notice.message

inductive Operation where
  | report (holder host : Nat) (message : String)
  | share (holder : Nat)
  | fire
  | advance (span : Milliseconds)
deriving DecidableEq, Repr

def step (state : SharedThrottle) : Operation → SharedThrottle
  | .report holder host message => (state.report host message holder).1
  | .share holder => state.share holder
  | .fire => state.fire.1
  | .advance span => state.advance span

def run (state : SharedThrottle) (operations : List Operation) : SharedThrottle :=
  operations.foldl step state

end SharedThrottle

end BracketDecoration.Decoration
