import Nodelet.Go.Program

/-! Points in time and durations of the Go standard library, in nanoseconds.
A time counts from the Unix epoch. Differences saturate at the range of a
signed 64-bit duration. -/
namespace Go.Time

/-- The zero `time.Time`: midnight of January 1 in year 1. -/
def zero : Int := -62135596800 * 1000000000

def unix (t : Int) : Int := t / 1000000000

def maxDuration : Int := 9223372036854775807

def minDuration : Int := -9223372036854775808

/-- `t.Sub(u)`, clamped to the representable durations. -/
def sub (t u : Int) : Int := max minDuration (min maxDuration (t - u))

/-- `time.ParseDuration` on the decimal text of `n` followed by `s`. -/
def parseSeconds (n : Int) : Except Error Int :=
  if n.natAbs ≤ 9223372036 then .ok (n * 1000000000)
  else .error ("time: invalid duration \"" ++ toString n ++ "s\"")

theorem parseSeconds_bound (parsed : parseSeconds n = .ok d) :
    d = n * 1000000000 ∧ d ≤ 9223372036000000000 := by
  unfold parseSeconds at parsed
  split at parsed
  · rename_i bound
    cases parsed
    exact ⟨rfl, by omega⟩
  · contradiction

/-- Saturation is invisible to a comparison with a representable number of seconds. -/
theorem sub_lt (short : sub t u < d) (bound : d ≤ 9223372036000000000) : t - u < d := by
  simp only [sub, minDuration, maxDuration] at short
  omega

/-- No representable number of seconds reaches back from the Unix epoch to the zero time. -/
theorem sub_zero (started : 0 ≤ t) (bound : d ≤ 9223372036000000000) : ¬ sub t zero < d := by
  simp only [sub, zero, minDuration, maxDuration]
  omega

end Go.Time
