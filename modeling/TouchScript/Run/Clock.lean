namespace TouchScript.Clock

/-- The longest sleep: thirty years of 365 days. -/
def longestSleep : Nat := 30 * 365 * 24 * 60 * 60 * 1000

/-- How long a sleep of `ms` milliseconds lasts. -/
def sleepTime (ms : Nat) : Nat :=
  min ms longestSleep

end TouchScript.Clock
