import OfflineManifest.Manifest.Basic
import OfflineManifest.Manifest.Error
import OfflineManifest.Manifest.Run

/-! # Resolving data groups

The URL globs of a data group become patterns and its times become milliseconds. A timeout that is
empty counts as absent.
-/

namespace OfflineManifest

/-- The patterns for URL globs seen from a base, in which a question mark stands for itself. -/
def urlPatterns (base : String) (urls : List String) : List String :=
  urls.map fun url => Url.fragment base url .literal

namespace DataGroup

/-- The version of a data group that declares none. -/
def defaultVersion : UInt32 := 1

/-- The milliseconds of a time of the group. -/
def milliseconds (g : DataGroup) (field : TimeField) (text : String) :
    Except GenerateError UInt64 :=
  (Duration.parse text).mapError (.duration g.name field)

/-- The milliseconds of the timeout, if there is one. -/
def timeoutMilliseconds (g : DataGroup) : Except GenerateError (Option UInt64) :=
  match g.cache.timeout with
  | none => .ok none
  | some text => if text = "" then .ok none else (g.milliseconds .timeout text).map some

/-- **The resolved form of a data group.** -/
def resolve (base : String) (g : DataGroup) : Except GenerateError ResolvedDataGroup := do
  let maxAge ← g.milliseconds .maxAge g.cache.maxAge
  let timeout ← g.timeoutMilliseconds
  return {
    name := g.name
    patterns := urlPatterns base g.urls
    strategy := g.cache.strategy.getD .performance
    maxSize := g.cache.maxSize
    maxAge
    timeout
    version := g.version.getD defaultVersion }

/-- Resolves a data group and logs it. -/
def resolveLogged (base : String) (g : DataGroup) : Run GenerateError ResolvedDataGroup := do
  let resolved ← Run.ofExcept (g.resolve base)
  Run.log (.dataGroup resolved.name resolved.maxAge)
  return resolved

/-- **Resolves data groups in order**, up to the first that cannot be. -/
def resolveAll (base : String) (groups : List DataGroup) :
    Run GenerateError (List ResolvedDataGroup) :=
  groups.mapM (resolveLogged base)

end DataGroup

end OfflineManifest
