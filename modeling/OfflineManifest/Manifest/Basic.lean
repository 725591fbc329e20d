import OfflineManifest.Config.Basic
import OfflineManifest.Navigation

/-! # Manifests

A manifest is a configuration resolved against the files of a deployment: the URLs of every asset
group, patterns for the requests of every data group with its times in milliseconds, a digest for
each URL of a file, and the navigation rules.
-/

namespace OfflineManifest

/-- An asset group with the URLs of its files. -/
structure ResolvedAssetGroup where
  name : String
  installMode : InstallMode
  updateMode : InstallMode
  /-- the URLs of the files, sorted -/
  urls : List String
  /-- patterns for the URLs that are matched when they are requested -/
  patterns : List String
  deriving DecidableEq, Repr

/-- A data group with its patterns and times. -/
structure ResolvedDataGroup where
  name : String
  patterns : List String
  strategy : Strategy
  maxSize : UInt64
  /-- in milliseconds -/
  maxAge : UInt64
  /-- in milliseconds -/
  timeout : Option UInt64
  version : UInt32
  deriving DecidableEq, Repr

/-- A manifest. -/
structure Manifest where
  configVersion : UInt32
  appData : Option Json.Payload
  push : Option Json.Payload
  /-- the URL of the entry document -/
  index : String
  assetGroups : List ResolvedAssetGroup
  dataGroups : List ResolvedDataGroup
  /-- the digests of files by URL -/
  hashTable : KeyMap String
  navigationUrls : List NavigationRule
  deriving DecidableEq

namespace Manifest

/-- The version of the format. -/
def currentVersion : UInt32 := 1

/-- The asset group with a name. -/
def assetGroup? (m : Manifest) (name : String) : Option ResolvedAssetGroup :=
  m.assetGroups.find? fun g => g.name = name

/-- The data group with a name. -/
def dataGroup? (m : Manifest) (name : String) : Option ResolvedDataGroup :=
  m.dataGroups.find? fun g => g.name = name

end Manifest

end OfflineManifest
