import OfflineManifest.Config.Json
import OfflineManifest.Manifest.Basic

/-! # Manifests as JSON

A manifest is written on several lines, with its members in a fixed order and the digests sorted by
URL; what is absent is left out.

* `Manifest.render` writes a manifest.
* `Manifest.parse` reads one.
-/

namespace OfflineManifest

open Json

namespace NavigationRule

/-- Reads a navigation rule. -/
def decoder : Decoder NavigationRule :=
  Decoder.record "NavigationUrl" [.required "positive" .bool, .required "regex" .text]
    fun (positive, regex, ()) => { positive, regex }

/-- The written form. -/
def toJson (r : NavigationRule) : Value :=
  .object [("positive", .bool r.positive), ("regex", .string r.regex)]

end NavigationRule

namespace ResolvedAssetGroup

/-- Reads a resolved asset group. -/
def decoder : Decoder ResolvedAssetGroup :=
  Decoder.record "AssetGroupManifest"
    [.required "name" .text, .required "installMode" InstallMode.decoder,
      .required "updateMode" InstallMode.decoder, .required "urls" (.list .text),
      .required "patterns" (.list .text)]
    fun (name, installMode, updateMode, urls, patterns, ()) =>
      { name, installMode, updateMode, urls, patterns }

/-- The written form. -/
def toJson (g : ResolvedAssetGroup) : Value :=
  .object
    [("name", .string g.name), ("installMode", .string g.installMode.name),
      ("updateMode", .string g.updateMode.name), ("urls", .ofStrings g.urls),
      ("patterns", .ofStrings g.patterns)]

end ResolvedAssetGroup

namespace ResolvedDataGroup

/-- Reads a resolved data group. -/
def decoder : Decoder ResolvedDataGroup :=
  Decoder.record "DataGroupManifest"
    [.required "name" .text, .required "patterns" (.list .text),
      .required "strategy" Strategy.decoder, .required "maxSize" .uint64,
      .required "maxAge" .uint64, .optional "timeoutMs" .uint64, .required "version" .uint32]
    fun (name, patterns, strategy, maxSize, maxAge, timeout, version, ()) =>
      { name, patterns, strategy, maxSize, maxAge, timeout, version }

/-- The written form. -/
def toJson (g : ResolvedDataGroup) : Value :=
  .object <|
    [("name", .string g.name), ("patterns", .ofStrings g.patterns),
      ("strategy", .string g.strategy.name), ("maxSize", .ofUInt64 g.maxSize),
      ("maxAge", .ofUInt64 g.maxAge)] ++
    Value.member? "timeoutMs" (g.timeout.map .ofUInt64) ++
    [("version", .ofUInt32 g.version)]

end ResolvedDataGroup

namespace Manifest

/-- Reads a manifest. -/
def decoder : Decoder Manifest :=
  Decoder.record "Manifest"
    [.required "configVersion" .uint32, .optional "appData" .anyValue,
      .optional "push" .anyValue, .required "index" .text,
      .required "assetGroups" (.list ResolvedAssetGroup.decoder),
      .required "dataGroups" (.list ResolvedDataGroup.decoder),
      .required "hashTable" (.map .text),
      .required "navigationUrls" (.list NavigationRule.decoder)]
    fun (configVersion, appData, push, index, assetGroups, dataGroups, hashTable, navigationUrls,
        ()) =>
      { configVersion, appData, push, index, assetGroups, dataGroups, hashTable, navigationUrls }

/-- The written form. -/
def toJson (m : Manifest) : Value :=
  .object <|
    [("configVersion", .ofUInt32 m.configVersion)] ++
    Value.member? "appData" (m.appData.map Payload.value) ++
    Value.member? "push" (m.push.map Payload.value) ++
    [("index", .string m.index),
      ("assetGroups", .array (m.assetGroups.map ResolvedAssetGroup.toJson)),
      ("dataGroups", .array (m.dataGroups.map ResolvedDataGroup.toJson)),
      ("hashTable", .object (m.hashTable.entries.map fun (url, digest) => (url, .string digest))),
      ("navigationUrls", .array (m.navigationUrls.map NavigationRule.toJson))]

/-- **The text of a manifest.** -/
def render (m : Manifest) : String := m.toJson.pretty

/-- **Reads the text of a manifest.** -/
def parse (text : String) : Except Fault Manifest := decoder.run text

end Manifest

end OfflineManifest
