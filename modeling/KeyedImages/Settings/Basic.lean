import KeyedImages.ServiceKey

/-! The settings of a run: how the service is reached, and what is logged. -/
namespace KeyedImages

structure LogSettings where
  level : String
  deriving DecidableEq, Repr

structure ServiceSettings where
  /-- The shared secret, if one is configured. -/
  key : Option String
  /-- The name that the client gives. -/
  clientName : String
  /-- The number of images uploaded in a run. -/
  images : UInt32
  deriving DecidableEq, Repr

structure Settings where
  service : ServiceSettings
  log : LogSettings
  deriving DecidableEq, Repr

namespace Settings

def default : Settings := ⟨⟨none, "a-system", 2⟩, ⟨"info"⟩⟩

/-- The configured key, or one made of a draw when none is configured or the configured one is
empty. -/
def serviceKey (s : Settings) (draw : Draw) : ServiceKey × List Log.Record :=
  match s.service.key with
  | some secret =>
    if secret = "" then generated else (⟨secret⟩, [])
  | none => generated
where
  generated :=
    let (key, records) := ServiceKey.generate draw
    (key, ⟨.warn, .settings, "No service key configured - generating a random key for this run"⟩ ::
      ⟨.warn, .settings, "Set SERVICE_KEY or service.key to use a fixed key"⟩ :: records)

end Settings

end KeyedImages
