/-!
# Causes of failure

`Error` is what a client of displays and devices sees, `BackendError` what a compositor reports.
Their wording is fixed here.
-/

set_option autoImplicit false

namespace Scanout

/-- Why a call of a client fails. -/
inductive Error where
  /-- The display is unknown or cannot serve the call. -/
  | badDisplay
  /-- The layer is unknown or belongs to another display. -/
  | badLayer
  /-- The configuration is unknown, or none is active. -/
  | badConfig
  /-- An argument is outside its range. -/
  | badParameter
  /-- The call needs a validated display. -/
  | notValidated
  /-- The backend refused, or no identifier is left. -/
  | noResources
  /-- The request makes sense but is not supported. -/
  | unsupported
  deriving DecidableEq, Inhabited

namespace Error

def all : List Error :=
  [badDisplay, badLayer, badConfig, badParameter, notValidated, noResources, unsupported]

theorem mem_all (error : Error) : error ∈ all := by cases error <;> decide

def name : Error → String
  | badDisplay => "BadDisplay"
  | badLayer => "BadLayer"
  | badConfig => "BadConfig"
  | badParameter => "BadParameter"
  | notValidated => "NotValidated"
  | noResources => "NoResources"
  | unsupported => "Unsupported"

def message : Error → String
  | badDisplay => "bad display"
  | badLayer => "bad layer"
  | badConfig => "bad config"
  | badParameter => "bad parameter"
  | notValidated => "display not validated"
  | noResources => "no resources"
  | unsupported => "unsupported"

end Error

/-- Why a compositor does not answer a call. -/
inductive BackendError where
  | rejected (reason : String)
  | deviceLost
  deriving DecidableEq, Inhabited

namespace BackendError

def name : BackendError → String
  | rejected _ => "Rejected"
  | deviceLost => "DeviceLost"

def message : BackendError → String
  | rejected reason => "backend rejected the frame: " ++ reason
  | deviceLost => "backend device lost"

/-- What the client of a display sees of a compositor's failure. -/
def toError (_ : BackendError) : Error := .noResources

end BackendError

end Scanout
