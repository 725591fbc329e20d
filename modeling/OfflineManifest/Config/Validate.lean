import OfflineManifest.Config.Basic

/-! # Valid configurations

A configuration is valid if its entry document has a path and, among the asset groups as among the
data groups, every group has a name of its own. `Config.problem?` is the first thing that is amiss:
the entry document, then the asset groups in order, then the data groups.
-/

namespace OfflineManifest

/-- The two kinds of groups. -/
inductive GroupKind where
  | asset
  | data
  deriving DecidableEq, Repr

namespace GroupKind

/-- The member of a configuration that lists the groups. -/
def listName : GroupKind → String
  | asset => "assetGroups"
  | data => "dataGroups"

/-- What one of the groups is called. -/
def describe : GroupKind → String
  | asset => "asset group"
  | data => "data group"

end GroupKind

namespace Config

/-- What is amiss with a configuration. -/
inductive Problem where
  | emptyIndex
  | emptyName (kind : GroupKind) (position : Nat)
  | duplicateName (kind : GroupKind) (name : String)
  deriving DecidableEq, Repr

/-- The first thing that is amiss with names, of which some were seen before. -/
def nameProblem? (kind : GroupKind) (seen : List String) : List String → Option Problem
  | [] => none
  | name :: rest =>
    if name = "" then some (.emptyName kind seen.length)
    else if name ∈ seen then some (.duplicateName kind name)
    else nameProblem? kind (seen ++ [name]) rest

/-- **The first thing that is amiss** with a configuration. -/
def problem? (c : Config) : Option Problem :=
  if c.index = "" then some .emptyIndex
  else
    (nameProblem? .asset [] (c.assetGroups.map AssetGroup.name)).or
      (nameProblem? .data [] (c.dataGroups.map DataGroup.name))

end Config

end OfflineManifest
