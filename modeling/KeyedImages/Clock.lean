import KeyedImages.Timestamp
import Std.Time.DateTime.Timestamp

/-! The clock. -/
namespace KeyedImages

/-- The time now. -/
def Clock.read : IO Timestamp := do
  let nanos : Int := (← Std.Time.Timestamp.now).toNanosecondsSinceUnixEpoch.val
  pure ⟨Int64.ofInt (nanos.fdiv 1000000000), UInt32.ofNat (nanos.fmod 1000000000).toNat⟩

end KeyedImages
