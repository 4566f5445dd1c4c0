/-!
# Timers

The courier does not measure time.  When it has to rest it asks a timer to wait for the reconnect
delay, and goes on when the timer says so.  How long that really is, the timer decides: a `Timer` is
told the time that it is asked for and answers with the time that passes.  It is a parameter of the
courier and of its rehearsals, so that what is proved about them holds with every timer, and what
depends on the timer is said as a condition on it (`Timer.Keeps`).  The condition speaks of a single
time and of no courier: neither attempts nor connections nor messages occur in it.

Whoever asks a timer to wait expects it to keep the time.  `Timer.standard`, on which rehearsals
run, keeps every time up to thirty years, and wakes its sleepers after thirty years when it is asked
for more (`Timer.keeps_standard_iff`).
-/

namespace SceneEngine.LiveLink

/-- Something that waits.  All that counts of it is how many milliseconds pass when it is asked to
wait for a number of them. -/
structure Timer where
  wait : Nat → Nat

namespace Timer

/-- A timer keeps a time when it waits just as long as it is asked to: what everybody who asks a
timer relies on. -/
def Keeps (timer : Timer) (time : Nat) : Prop := timer.wait time = time

/-- The furthest moment that the standard timer can look ahead to, in milliseconds: thirty years of
365 days. -/
def horizon : Nat := 30 * 365 * 24 * 60 * 60 * 1000

/-- The timer that rehearsals run on.  A wait that would go beyond its horizon ends at the
horizon. -/
def standard : Timer := ⟨fun time => min time horizon⟩

/-- The standard timer keeps just the times up to its horizon. -/
theorem keeps_standard_iff {time : Nat} : standard.Keeps time ↔ time ≤ horizon :=
  ⟨fun h => h ▸ Nat.min_le_right time horizon, Nat.min_eq_left⟩

end Timer

end SceneEngine.LiveLink
