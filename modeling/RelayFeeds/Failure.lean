import RelayFeeds.Text.Numeral

/-! # Failures — what went wrong outside, and why

A failure is a message with the messages of its causes behind it, the nearest first. -/

namespace RelayFeeds

/-- A message and the messages of its causes. -/
structure Failure where
  /-- What went wrong. -/
  message : String
  /-- Why, the nearest cause first. -/
  causes : List String := []
  deriving DecidableEq

namespace Failure

/-- The failure of something larger by this one. -/
def within (failure : Failure) (message : String) : Failure where
  message
  causes := failure.message :: failure.causes

/-- A cause with its number where there are several, further lines indented as far. -/
def causeText (number : Option Nat) (cause : String) : List Char :=
  let start := match number with
    | none => "    ".toList
    | some n =>
      let digits := Text.numeral n
      List.replicate (5 - digits.length) ' ' ++ digits ++ [':', ' ']
  let indent := match number with
    | none => "    ".toList
    | some _ => "       ".toList
  '\n' :: start ++ cause.toList.flatMap (fun c => if c == '\n' then '\n' :: indent else [c])

/-- The report of a failure: its message, and its causes on lines of their own. -/
def report (failure : Failure) : String :=
  let causes := match failure.causes with
    | [] => []
    | [cause] => "\n\nCaused by:".toList ++ causeText none cause
    | causes =>
      "\n\nCaused by:".toList ++
        (causes.zipIdx.flatMap (fun entry => causeText (some entry.2) entry.1))
  "Error: " ++ failure.message ++ String.ofList causes

end Failure

end RelayFeeds
