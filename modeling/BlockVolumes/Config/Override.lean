import BlockVolumes.Config.Basic

/-!
Settings that variables of the environment override.
-/

namespace BlockVolumes.Config

abbrev Environment := Table String

namespace Settings

def overridden (s : Settings) (environment : Environment) : Settings :=
  let name := (environment.get? "OPENBLOCK_DRIVER_NAME").getD s.driver.name
  let root := (environment.get? "OPENBLOCK_BACKING_ROOT").getD s.driver.backingRoot
  let api := (environment.get? "OPENBLOCK_API_LISTEN").getD s.api.listen
  let plugin := (environment.get? "OPENBLOCK_PLUGIN_LISTEN").or s.plugin.listen
  { s with
    driver := { s.driver with name, backingRoot := root }
    api := ⟨api⟩
    plugin := { s.plugin with listen := plugin } }

end Settings

def Manifest.overridden (m : Manifest) (environment : Environment) : Manifest :=
  { m with settings := m.settings.overridden environment }

end BlockVolumes.Config
