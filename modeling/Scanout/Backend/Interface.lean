import Scanout.Backend.Frame
import Scanout.Error

/-!
# What a backend does

A backend answers prepare and commit, lists its configurations, and may follow changes of the
active configuration and of the power mode. It keeps a state of its own, `σ`, and every call returns
the state after it.
-/

set_option autoImplicit false

namespace Scanout

/-- A compositor with states in `σ`. The calls with a default need not be implemented; the default
succeeds and does nothing. -/
structure Backend (σ : Type) where
  /-- Every configuration, by the backend's own index. -/
  displayConfigs : σ → Except BackendError (List ConfigShape) × σ
  prepare : Frame → σ → Except BackendError (List Decision) × σ
  commit : Frame → σ → Except BackendError CommitFences × σ
  setActiveConfig : Nat → σ → Except BackendError Unit × σ := fun _ state => (.ok (), state)
  setPowerMode : PowerMode → σ → Except BackendError Unit × σ := fun _ state => (.ok (), state)

end Scanout
