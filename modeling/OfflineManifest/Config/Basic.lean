import OfflineManifest.Json.Value

/-! # Configurations

A configuration says what belongs to the offline copy of an application: its entry document, groups
of files with the time at which they are fetched (*asset groups*), groups of request URLs with a
cache policy (*data groups*), and which requests are navigations. Two payloads, for the application
and for its push messages, go into the manifest as they are.
-/

namespace OfflineManifest

/-- When the files of a group are fetched. -/
inductive InstallMode where
  /-- all of them up front -/
  | prefetch
  /-- each when it is first requested -/
  | lazy
  deriving DecidableEq, Repr

/-- Where an answer to a request is looked for first. -/
inductive Strategy where
  /-- the network -/
  | freshness
  /-- the cache -/
  | performance
  deriving DecidableEq, Repr

/-- The install modes with their names. -/
def InstallMode.names : List (String × InstallMode) := [("prefetch", .prefetch), ("lazy", .lazy)]

/-- The name of an install mode. -/
def InstallMode.name : InstallMode → String
  | prefetch => "prefetch"
  | lazy => "lazy"

/-- The strategies with their names. -/
def Strategy.names : List (String × Strategy) :=
  [("freshness", .freshness), ("performance", .performance)]

/-- The name of a strategy. -/
def Strategy.name : Strategy → String
  | freshness => "freshness"
  | performance => "performance"

/-- The globs of an asset group. -/
structure Resources where
  /-- files of the application -/
  files : List String := []
  /-- files too, under the option's former name -/
  versionedFiles : List String := []
  /-- URLs that are matched when they are requested -/
  urls : List String := []
  deriving DecidableEq, Repr

/-- Files that are fetched and updated together. -/
structure AssetGroup where
  name : String
  installMode : Option InstallMode := none
  updateMode : Option InstallMode := none
  resources : Resources := {}
  deriving DecidableEq, Repr

/-- How answers are kept. -/
structure CachePolicy where
  /-- the largest number of answers -/
  maxSize : UInt64
  /-- the longest time that an answer is kept, as a duration -/
  maxAge : String
  /-- how long to wait for the network, as a duration -/
  timeout : Option String := none
  strategy : Option Strategy := none
  deriving DecidableEq, Repr

/-- Requests whose answers are kept in the same way. -/
structure DataGroup where
  name : String
  urls : List String
  /-- answers kept under another version are dropped -/
  version : Option UInt32 := none
  cache : CachePolicy
  deriving DecidableEq, Repr

/-- A configuration. -/
structure Config where
  /-- the path of the entry document -/
  index : String
  appData : Option Json.Payload := none
  push : Option Json.Payload := none
  assetGroups : List AssetGroup := []
  dataGroups : List DataGroup := []
  /-- patterns of navigations, if there are any -/
  navigationUrls : Option (List String) := none
  deriving DecidableEq

end OfflineManifest
