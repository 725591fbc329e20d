import OfflineManifest.Manifest.AssetGroups
import OfflineManifest.Manifest.Json

/-! # Making and publishing manifests

* `Manifest.generate` resolves a configuration against files.
* `Manifest.publish` writes a manifest into a store, `Manifest.reread` reads one from it.
-/

namespace OfflineManifest.Manifest

/-- **The manifest of a configuration**, all of whose URLs start with a base. -/
def generate (base : String) (source : Source) (c : Config) : Run GenerateError Manifest := do
  let (assetGroups, claims) ← AssetGroup.resolveAll base source c.assetGroups
  let dataGroups ← DataGroup.resolveAll base c.dataGroups
  Run.log (.generated assetGroups.length dataGroups.length claims.hashTable.size)
  return {
    configVersion := currentVersion
    appData := c.appData
    push := c.push
    index := Url.join base c.index
    assetGroups
    dataGroups
    hashTable := claims.hashTable
    navigationUrls := NavigationRule.resolve base c.navigationUrls }

/-- The path at which a manifest is published by default. -/
def defaultPath : String := "/ngsw.json"

/-- **Writes a manifest** into a store. -/
def publish {σ : Type} [FileStore σ] (m : Manifest) (path : String) (s : σ) :
    Except GenerateError Unit × σ :=
  let (result, s) := FileStore.write s path m.render
  (result.mapError (.write path), s)

end OfflineManifest.Manifest
