import TouchScript.Ranged

namespace TouchScript

/-- A span of time as the callers of a device give it: whole seconds, and the nanoseconds beyond
them. -/
structure Duration where
  seconds : Ranged 0 18446744073709551615
  nanoseconds : Ranged 0 999999999
deriving DecidableEq

namespace Duration

/-- The milliseconds that a record keeps of a duration: what is less than a millisecond is dropped,
and of the rest the lowest 64 bits are kept. -/
def toMillis (d : Duration) : Millis :=
  ⟨(d.seconds.val * 1000 + d.nanoseconds.val / 1000000) % 18446744073709551616, by omega, by omega⟩

/-- A duration of whole milliseconds. -/
def ofMillis (ms : Millis) : Duration where
  seconds := ⟨ms.val / 1000, by have := ms.lo_le; omega, by have := ms.le_hi; omega⟩
  nanoseconds := ⟨ms.val % 1000 * 1000000, by omega, by omega⟩

@[simp]
theorem toMillis_ofMillis (ms : Millis) : (ofMillis ms).toMillis = ms := by
  have hlo := ms.lo_le
  have hhi := ms.le_hi
  apply Ranged.ext
  simp only [toMillis, ofMillis]
  omega

end Duration

end TouchScript
