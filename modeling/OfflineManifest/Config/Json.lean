import OfflineManifest.Config.Basic
import OfflineManifest.Json.Record

/-! # Configurations as JSON

Each part of a configuration has a decoder and a written form. A list of globs may be given as a
single text; in the written form it is a list. What is absent is left out of the written form, and
lists of groups and globs are written even if they are empty.
-/

namespace OfflineManifest

open Json

/-- A list of globs. -/
def globList : Decoder (List String) := Decoder.textOrList "a glob or a list of globs"

/-- Reads an install mode. -/
def InstallMode.decoder : Decoder InstallMode := Decoder.oneOf names

/-- Reads a strategy. -/
def Strategy.decoder : Decoder Strategy := Decoder.oneOf names

namespace Resources

/-- Reads resources. -/
def decoder : Decoder Resources :=
  Decoder.record "AssetResources"
    [.withDefault "files" globList [], .withDefault "versionedFiles" globList [],
      .withDefault "urls" globList []]
    fun (files, versionedFiles, urls, ()) => { files, versionedFiles, urls }

/-- The written form. -/
def toJson (r : Resources) : Value :=
  .object [("files", .ofStrings r.files), ("versionedFiles", .ofStrings r.versionedFiles),
    ("urls", .ofStrings r.urls)]

end Resources

namespace AssetGroup

/-- Reads an asset group. -/
def decoder : Decoder AssetGroup :=
  Decoder.record "AssetGroup"
    [.required "name" .text, .optional "installMode" InstallMode.decoder,
      .optional "updateMode" InstallMode.decoder, .withDefault "resources" Resources.decoder {}]
    fun (name, installMode, updateMode, resources, ()) =>
      { name, installMode, updateMode, resources }

/-- The written form. -/
def toJson (g : AssetGroup) : Value :=
  .object <|
    [("name", .string g.name)] ++
    Value.member? "installMode" (g.installMode.map fun m => .string m.name) ++
    Value.member? "updateMode" (g.updateMode.map fun m => .string m.name) ++
    [("resources", g.resources.toJson)]

end AssetGroup

namespace CachePolicy

/-- Reads a cache policy. -/
def decoder : Decoder CachePolicy :=
  Decoder.record "CacheConfig"
    [.required "maxSize" .uint64, .required "maxAge" .text, .optional "timeout" .text,
      .optional "strategy" Strategy.decoder]
    fun (maxSize, maxAge, timeout, strategy, ()) => { maxSize, maxAge, timeout, strategy }

/-- The written form. -/
def toJson (p : CachePolicy) : Value :=
  .object <|
    [("maxSize", .ofUInt64 p.maxSize), ("maxAge", .string p.maxAge)] ++
    Value.member? "timeout" (p.timeout.map .string) ++
    Value.member? "strategy" (p.strategy.map fun s => .string s.name)

end CachePolicy

namespace DataGroup

/-- Reads a data group. -/
def decoder : Decoder DataGroup :=
  Decoder.record "DataGroup"
    [.required "name" .text, .required "urls" globList, .optional "version" .uint32,
      .required "cacheConfig" CachePolicy.decoder]
    fun (name, urls, version, cache, ()) => { name, urls, version, cache }

/-- The written form. -/
def toJson (g : DataGroup) : Value :=
  .object <|
    [("name", .string g.name), ("urls", .ofStrings g.urls)] ++
    Value.member? "version" (g.version.map .ofUInt32) ++
    [("cacheConfig", g.cache.toJson)]

end DataGroup

namespace Config

/-- Reads a configuration. -/
def decoder : Decoder Config :=
  Decoder.record "Config"
    [.required "index" .text, .optional "appData" .anyValue, .optional "push" .anyValue,
      .withDefault "assetGroups" (.list AssetGroup.decoder) [],
      .withDefault "dataGroups" (.list DataGroup.decoder) [],
      .optional "navigationUrls" (.list .text)]
    fun (index, appData, push, assetGroups, dataGroups, navigationUrls, ()) =>
      { index, appData, push, assetGroups, dataGroups, navigationUrls }

/-- **The written form** of a configuration. -/
def toJson (c : Config) : Value :=
  .object <|
    [("index", .string c.index)] ++
    Value.member? "appData" (c.appData.map Payload.value) ++
    Value.member? "push" (c.push.map Payload.value) ++
    [("assetGroups", .array (c.assetGroups.map AssetGroup.toJson)),
      ("dataGroups", .array (c.dataGroups.map DataGroup.toJson))] ++
    Value.member? "navigationUrls" (c.navigationUrls.map .ofStrings)

end Config

end OfflineManifest
