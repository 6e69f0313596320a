import KeyedImages.Service.Method
import KeyedImages.Settings.Failure

/-! Why a run of the program ends early. -/
namespace KeyedImages

inductive RunError
  | settings (reason : Settings.Failure)
  | service (reason : ServiceError)
  /-- The transcript cannot be written as JSON. -/
  | serialization (reason : String)
  /-- Something outside the program fails. -/
  | outside (reason : String)

def RunError.message : RunError → String
  | settings reason => "Configuration error: " ++ reason.message
  | service reason => "Service error: " ++ reason.message
  | serialization reason => "Serialization error: " ++ reason
  | outside reason => "I/O error: " ++ reason

end KeyedImages
